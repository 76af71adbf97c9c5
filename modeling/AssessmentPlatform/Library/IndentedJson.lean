import AssessmentPlatform.Library.Json
import Mathlib.Data.List.Basic

/-!
# Indented JSON text

The rendering of JSON values on several lines, with non-ASCII characters left as they are and the
keys of every object sorted. It differs from the compact rendering by white space outside of
strings only, so it determines the value as well. A line feed of it never belongs to a string: what
follows one is the margin of the next line or a closing bracket.
-/

namespace AssessmentPlatform.Library

/-- The text of a number has neither white space nor quotation marks. -/
def FloatText.Solid (t : FloatText) : Prop :=
  ∀ c ∈ t.text, c.val ≠ 10 ∧ c.val ≠ 32 ∧ c.val ≠ 34

namespace Json

/-! ## Rendering -/

/-- A new line with its margin. -/
def newline (margin : ℕ) : Str := 10 :: List.replicate margin 32

mutual

/-- The text of a value that starts on a line with some margin; the margin grows by the width. -/
def indented (width margin : ℕ) : Json → Str
  | .null => render .null
  | .bool b => render (.bool b)
  | .int n => render (.int n)
  | .float t => render (.float t)
  | .str s => render (.str s)
  | .array [] => render (.array [])
  | .array (x :: xs) => 91 :: (newline (margin + width) ++
      (indented width (margin + width) x ++ indentedItems width margin xs))
  | .object [] => render (.object [])
  | .object ((k, x) :: xs) => 123 :: (newline (margin + width) ++ 34 :: (escapeRest k ++
      58 :: 32 :: (indented width (margin + width) x ++ indentedFields width margin xs)))

/-- The text of the further items of an array. -/
def indentedItems (width margin : ℕ) : List Json → Str
  | [] => newline margin ++ [93]
  | x :: xs => 44 :: (newline (margin + width) ++
      (indented width (margin + width) x ++ indentedItems width margin xs))

/-- The text of the further fields of an object. -/
def indentedFields (width margin : ℕ) : List (Str × Json) → Str
  | [] => newline margin ++ [125]
  | (k, x) :: xs => 44 :: (newline (margin + width) ++ 34 :: (escapeRest k ++
      58 :: 32 :: (indented width (margin + width) x ++ indentedFields width margin xs)))

end

/-- `json.dumps` with an indentation, sorted keys and `ensure_ascii=False`. -/
def dumpsIndented (width : ℕ) (v : Json) : Str := indented width 0 (sorted v)

/-! ## Values without white space in numbers -/

mutual

/-- The texts of all floating-point numbers in a value have neither white space nor quotation
marks. -/
def Solid : Json → Prop
  | .float t => t.Solid
  | .array items => SolidItems items
  | .object fields => SolidFields fields
  | _ => True

/-- So have those in the items. -/
def SolidItems : List Json → Prop
  | [] => True
  | x :: xs => Solid x ∧ SolidItems xs

/-- So have those in the fields. -/
def SolidFields : List (Str × Json) → Prop
  | [] => True
  | (_, x) :: xs => Solid x ∧ SolidFields xs

end

/-- The items are solid one by one. -/
theorem solidItems_iff {items : List Json} : SolidItems items ↔ ∀ x ∈ items, x.Solid := by
  induction items with
  | nil => simp [SolidItems]
  | cons x items ih => simp [SolidItems, ih]

/-- The fields are solid one by one. -/
theorem solidFields_iff {fields : List (Str × Json)} :
    SolidFields fields ↔ ∀ field ∈ fields, field.2.Solid := by
  induction fields with
  | nil => simp [SolidFields]
  | cons field fields ih =>
    obtain ⟨k, x⟩ := field
    simp [SolidFields, ih]

/-- An array is solid if its items are. -/
theorem solid_array {items : List Json} : (array items).Solid ↔ ∀ x ∈ items, x.Solid := by
  rw [Solid, solidItems_iff]

/-- An object is solid if the values of its fields are. -/
theorem solid_object {fields : List (Str × Json)} :
    (object fields).Solid ↔ ∀ field ∈ fields, field.2.Solid := by
  rw [Solid, solidFields_iff]

mutual

/-- The order of keys does not matter. -/
theorem solid_sorted : ∀ {v : Json}, v.Solid → (sorted v).Solid
  | .array items, h => by
    rw [sorted, Solid]
    exact solidItems_sorted (by rwa [Solid] at h)
  | .object fields, h => by
    have hfields : SolidFields (sortedFields fields) := solidFields_sorted (by rwa [Solid] at h)
    rw [solidFields_iff] at hfields
    rw [sorted, solid_object]
    intro field hfield
    exact hfields field ((List.mem_insertionSort _).mp hfield)
  | .null, h => h
  | .bool _, h => h
  | .int _, h => h
  | .float _, h => h
  | .str _, h => h

/-- Sorting keeps items solid. -/
theorem solidItems_sorted : ∀ {items : List Json}, SolidItems items → SolidItems (sortedItems items)
  | [], h => h
  | x :: xs, h => by
    rw [SolidItems] at h
    rw [sortedItems, SolidItems]
    exact ⟨solid_sorted h.1, solidItems_sorted h.2⟩

/-- Sorting keeps fields solid. -/
theorem solidFields_sorted : ∀ {fields : List (Str × Json)},
    SolidFields fields → SolidFields (sortedFields fields)
  | [], h => h
  | (k, x) :: xs, h => by
    rw [SolidFields] at h
    rw [sortedFields, SolidFields]
    exact ⟨solid_sorted h.1, solidFields_sorted h.2⟩

end

/-! ## Without white space -/

/-- A place in a text: outside of the strings, in one, or in one behind a backslash. -/
inductive Place where
  | outside | inside | escaped
  deriving DecidableEq

/-- A text without the white space that is outside of its strings. -/
def squeeze : Place → Str → Str
  | _, [] => []
  | .outside, c :: s =>
    if c.val = 10 ∨ c.val = 32 then squeeze .outside s
    else c :: squeeze (if c.val = 34 then .inside else .outside) s
  | .inside, c :: s =>
    c :: squeeze (if c.val = 34 then .outside else if c.val = 92 then .escaped else .inside) s
  | .escaped, c :: s => c :: squeeze .inside s

/-- Outside a string, the indentation is squeezed out. -/
theorem squeeze_newline (margin : ℕ) (u : Str) :
    squeeze .outside (newline margin ++ u) = squeeze .outside u := by
  have hblanks : squeeze .outside (List.replicate margin 32 ++ u) = squeeze .outside u := by
    induction margin with
    | zero => rfl
    | succ margin ih => exact ih
  exact hblanks

/-- A text without white space and quotation marks stays. -/
theorem squeeze_solid {s : Str} (h : ∀ c ∈ s, c.val ≠ 10 ∧ c.val ≠ 32 ∧ c.val ≠ 34) (u : Str) :
    squeeze .outside (s ++ u) = s ++ squeeze .outside u := by
  induction s with
  | nil => rfl
  | cons c s ih =>
    obtain ⟨hlf, hblank, hquote⟩ := h c List.mem_cons_self
    have hrest := ih fun d hd => h d (List.mem_cons_of_mem c hd)
    rw [List.cons_append, squeeze, if_neg (by omega), if_neg hquote, hrest]
    rfl

/-- A hexadecimal digit is neither a quotation mark nor a backslash. -/
theorem hexDigit_ne : ∀ n < 16, (hexDigit n).val ≠ 34 ∧ (hexDigit n).val ≠ 92 := by
  decide +kernel

/-- An escaped character stays, and the text after it is still in the string. -/
theorem squeeze_escape (c : CodePoint) (u : Str) :
    squeeze .inside (escape c ++ u) = escape c ++ squeeze .inside u := by
  unfold escape
  split_ifs with h1 h2 h3 h4 h5 h6 h7 h8
  · rfl
  · rfl
  · rfl
  · rfl
  · rfl
  · rfl
  · rfl
  · obtain ⟨hhigh, hhigh'⟩ := hexDigit_ne (c.val / 16) (by omega)
    obtain ⟨hlow, hlow'⟩ := hexDigit_ne (c.val % 16) (by omega)
    simp [squeeze, hhigh, hhigh', hlow, hlow']
  · simp [squeeze, h1, h2]

/-- What follows a quotation mark is kept up to the end of the string. -/
theorem squeeze_escapeRest (s u : Str) :
    squeeze .inside (escapeRest s ++ u) = escapeRest s ++ squeeze .outside u := by
  induction s with
  | nil => rfl
  | cons c s ih =>
    have hcons : ∀ t, escapeRest (c :: s) ++ t = escape c ++ (escapeRest s ++ t) := by
      simp [escapeRest]
    rw [hcons, hcons, squeeze_escape, ih]

/-- The text of an atom has neither white space nor quotation marks. -/
theorem atom_solid {v : Json} (hv : v.kind = .atom) (h : v.Solid) :
    ∀ c ∈ render v, c.val ≠ 10 ∧ c.val ≠ 32 ∧ c.val ≠ 34 := by
  cases v with
  | null => simp [render]
  | bool b => cases b <;> simp [render]
  | int n =>
    intro c hc
    have hplain := intText_plain hc
    simp only [isDigit] at hplain
    omega
  | float t => exact h
  | str s => cases hv
  | array xs => cases hv
  | object xs => cases hv

/-- A solid atom is kept. -/
theorem squeeze_atom {v : Json} (hv : v.kind = .atom) (h : v.Solid) (u : Str) :
    squeeze .outside (render v ++ u) = render v ++ squeeze .outside u :=
  squeeze_solid (atom_solid hv h) u

/-- A character that is neither white space nor a quotation mark stays. -/
theorem squeeze_mark {c : CodePoint} (h : c.val ≠ 10 ∧ c.val ≠ 32 ∧ c.val ≠ 34) (u : Str) :
    squeeze .outside (c :: u) = c :: squeeze .outside u :=
  squeeze_solid (List.forall_mem_singleton.mpr h) u

/-- A string is kept. -/
theorem squeeze_string (s u : Str) :
    squeeze .outside (34 :: (escapeRest s ++ u)) =
      34 :: (escapeRest s ++ squeeze .outside u) := by
  rw [← squeeze_escapeRest s u]
  rfl

/-- The name of a field. -/
theorem squeeze_name (k u : Str) :
    squeeze .outside (34 :: (escapeRest k ++ 58 :: 32 :: u)) =
      34 :: (escapeRest k ++ 58 :: squeeze .outside u) := by
  have hblank : squeeze .outside (32 :: u) = squeeze .outside u := rfl
  rw [squeeze_string, squeeze_mark (by decide), hblank]

mutual

/-- Without its white space an indented text is the compact one. -/
theorem squeeze_indented (width : ℕ) : ∀ (margin : ℕ) (v : Json) (u : Str), v.Solid →
    squeeze .outside (indented width margin v ++ u) = render v ++ squeeze .outside u
  | _, .null, u, h => squeeze_atom rfl h u
  | _, .bool b, u, h => squeeze_atom rfl h u
  | _, .int n, u, h => squeeze_atom rfl h u
  | _, .float t, u, h => squeeze_atom rfl h u
  | _, .str s, u, _ => squeeze_string s u
  | _, .array [], u, _ => rfl
  | margin, .array (x :: xs), u, h => by
    rw [Solid, SolidItems] at h
    rw [indented, render, List.cons_append, List.append_assoc, List.append_assoc,
      squeeze_mark (by decide), squeeze_newline, squeeze_indented width (margin + width) x _ h.1,
      squeeze_indentedItems width margin xs u h.2, List.cons_append, List.append_assoc]
  | _, .object [], u, _ => rfl
  | margin, .object ((k, x) :: xs), u, h => by
    rw [Solid, SolidFields] at h
    simp only [indented, render, List.cons_append, List.append_assoc]
    rw [squeeze_mark (by decide), squeeze_newline, squeeze_name,
      squeeze_indented width (margin + width) x _ h.1,
      squeeze_indentedFields width margin xs u h.2]

/-- Squeezed, indented items are items on one line. -/
theorem squeeze_indentedItems (width : ℕ) : ∀ (margin : ℕ) (xs : List Json) (u : Str),
    SolidItems xs →
      squeeze .outside (indentedItems width margin xs ++ u) = renderItems xs ++ squeeze .outside u
  | margin, [], u, _ => by
    rw [indentedItems, List.append_assoc, squeeze_newline]
    exact squeeze_mark (by decide) u
  | margin, x :: xs, u, h => by
    rw [SolidItems] at h
    rw [indentedItems, renderItems, List.cons_append, List.append_assoc, List.append_assoc,
      squeeze_mark (by decide), squeeze_newline, squeeze_indented width (margin + width) x _ h.1,
      squeeze_indentedItems width margin xs u h.2, List.cons_append, List.append_assoc]

/-- Squeezed, indented fields are fields on one line. -/
theorem squeeze_indentedFields (width : ℕ) : ∀ (margin : ℕ) (xs : List (Str × Json)) (u : Str),
    SolidFields xs →
      squeeze .outside (indentedFields width margin xs ++ u) = renderFields xs ++ squeeze .outside u
  | margin, [], u, _ => by
    rw [indentedFields, List.append_assoc, squeeze_newline]
    exact squeeze_mark (by decide) u
  | margin, (k, x) :: xs, u, h => by
    rw [SolidFields] at h
    simp only [indentedFields, renderFields, List.cons_append, List.append_assoc]
    rw [squeeze_mark (by decide), squeeze_newline, squeeze_name,
      squeeze_indented width (margin + width) x _ h.1,
      squeeze_indentedFields width margin xs u h.2]

end

/-- Two values have the same indented text exactly if they differ in the order of keys only. -/
theorem dumpsIndented_inj {width : ℕ} {v w : Json} (hv : v.Solid) (hw : w.Solid) :
    dumpsIndented width v = dumpsIndented width w ↔ sorted v = sorted w := by
  refine ⟨fun h => ?_, fun h => congrArg (indented width 0) h⟩
  have htext := congrArg (fun s => squeeze .outside (s ++ [])) h
  dsimp only [dumpsIndented] at htext
  rw [squeeze_indented width 0 _ _ (solid_sorted hv),
    squeeze_indented width 0 _ _ (solid_sorted hw)] at htext
  have hends : Ends (squeeze .outside []) := by simp [Ends, squeeze]
  exact (render_append_inj _ _ hends hends htext).1

/-! ## Lines -/

/-- The characters with which a line after the first one begins. -/
def StartsLine (c : CodePoint) : Prop := c.val = 32 ∨ c.val = 93 ∨ c.val = 125

/-- Every line feed has the beginning of a line behind it. -/
def Aligned (s : Str) : Prop := ∀ a b, s = a ++ 10 :: b → ∃ c ∈ b.head?, StartsLine c

/-- A text without a line feed is aligned. -/
theorem aligned_of_not_mem {s : Str} (h : ∀ c ∈ s, c.val ≠ 10) : Aligned s := by
  rintro a b rfl
  exact absurd rfl (h 10 (by simp))

/-- Two aligned texts are aligned together. -/
theorem Aligned.append {s t : Str} (hs : Aligned s) (ht : Aligned t) : Aligned (s ++ t) := by
  intro a b heq
  rcases List.append_eq_append_iff.mp heq with ⟨a', rfl, hrest⟩ | ⟨b', hleft, hrest⟩
  · exact ht a' b hrest
  · cases b' with
    | nil => exact ht [] b (by simpa using hrest.symm)
    | cons d b' =>
      obtain ⟨rfl, rfl⟩ := List.cons.inj hrest
      obtain ⟨c, hc, hstarts⟩ := hs a b' hleft
      refine ⟨c, ?_, hstarts⟩
      cases b' with
      | nil => cases hc
      | cons e b' => exact hc

/-- An aligned text behind another character is aligned. -/
theorem Aligned.cons {c : CodePoint} {s : Str} (hc : c.val ≠ 10) (hs : Aligned s) :
    Aligned (c :: s) :=
  (aligned_of_not_mem (List.forall_mem_singleton.mpr hc)).append hs

/-- An aligned text without its first character is aligned. -/
theorem Aligned.of_cons {c : CodePoint} {s : Str} (h : Aligned (c :: s)) : Aligned s := by
  rintro a b rfl
  exact h (c :: a) b rfl

/-- An indented line is aligned. -/
theorem aligned_newline {margin : ℕ} (h : 0 < margin) : Aligned (newline margin) := by
  intro a b heq
  obtain ⟨n, rfl⟩ := Nat.exists_eq_add_one.mpr h
  cases a with
  | nil =>
    rw [newline, List.nil_append] at heq
    obtain ⟨-, rfl⟩ := List.cons.inj heq
    exact ⟨32, rfl, .inl rfl⟩
  | cons d a =>
    obtain ⟨-, hrest⟩ := List.cons.inj heq
    have hmem : (10 : CodePoint) ∈ List.replicate (n + 1) 32 := by
      rw [hrest]
      exact List.mem_append_right a List.mem_cons_self
    cases List.eq_of_mem_replicate hmem

/-- A closing bracket on a line of its own. -/
theorem aligned_closing (margin : ℕ) {c : CodePoint} (hc : c.val = 93 ∨ c.val = 125) :
    Aligned (newline margin ++ [c]) := by
  have hne : c.val ≠ 10 := by omega
  cases margin with
  | zero =>
    intro a b heq
    cases a with
    | nil =>
      obtain ⟨-, rfl⟩ := List.cons.inj heq
      exact ⟨c, rfl, .inr hc⟩
    | cons d a =>
      obtain ⟨-, hrest⟩ := List.cons.inj heq
      have hmem : (10 : CodePoint) ∈ [c] := by
        rw [show [c] = a ++ 10 :: b from hrest]
        exact List.mem_append_right a List.mem_cons_self
      exact absurd (congrArg Fin.val (List.mem_singleton.mp hmem)).symm hne
  | succ n =>
    exact (aligned_newline (Nat.succ_pos n)).append
      (aligned_of_not_mem (List.forall_mem_singleton.mpr hne))

/-- A hexadecimal digit is not a line feed. -/
theorem hexDigit_ne_feed : ∀ n < 16, (hexDigit n).val ≠ 10 := by
  decide +kernel

/-- A string has no line feed in it. -/
theorem escape_ne_feed (c : CodePoint) : ∀ d ∈ escape c, d.val ≠ 10 := by
  unfold escape
  split_ifs with h1 h2 h3 h4 h5 h6 h7 h8
  · simp
  · simp
  · simp
  · simp
  · simp
  · simp
  · simp
  · have hhigh := hexDigit_ne_feed (c.val / 16) (by omega)
    have hlow := hexDigit_ne_feed (c.val % 16) (by omega)
    simp [hhigh, hlow]
  · simpa using h3

/-- The rest of an escaped string is aligned. -/
theorem aligned_escapeRest (s : Str) : Aligned (escapeRest s) := by
  refine aligned_of_not_mem fun d hd => ?_
  rcases List.mem_append.mp hd with hd | hd
  · obtain ⟨c, -, hc⟩ := List.mem_flatMap.mp hd
    exact escape_ne_feed c d hc
  · rw [List.mem_singleton.mp hd]
    decide

/-- An escaped string is aligned. -/
theorem aligned_string (s : Str) : Aligned (34 :: escapeRest s) :=
  (aligned_escapeRest s).cons (by decide)

/-- A field with its name. -/
theorem aligned_field (k : Str) {s : Str} (h : Aligned s) :
    Aligned (34 :: (escapeRest k ++ 58 :: 32 :: s)) := by
  have hblank : Aligned (58 :: 32 :: s) := (h.cons (by decide)).cons (by decide)
  exact ((aligned_escapeRest k).append hblank).cons (by decide)

mutual

/-- In an indented text every line but the first one begins with a blank or a closing bracket. -/
theorem aligned_indented {width : ℕ} (hwidth : 0 < width) : ∀ (margin : ℕ) (v : Json), v.Solid →
    Aligned (indented width margin v)
  | _, .null, h => aligned_of_not_mem fun c hc => (atom_solid rfl h c hc).1
  | _, .bool b, h => aligned_of_not_mem fun c hc => (atom_solid rfl h c hc).1
  | _, .int n, h => aligned_of_not_mem fun c hc => (atom_solid rfl h c hc).1
  | _, .float t, h => aligned_of_not_mem fun c hc => (atom_solid rfl h c hc).1
  | _, .str s, _ => aligned_string s
  | _, .array [], _ => aligned_of_not_mem (by simp [indented, render])
  | margin, .array (x :: xs), h => by
    rw [Solid, SolidItems] at h
    have hitem := aligned_indented hwidth (margin + width) x h.1
    have hitems := aligned_indentedItems hwidth margin xs h.2
    exact ((aligned_newline (Nat.add_pos_right margin hwidth)).append
      (hitem.append hitems)).cons (by decide)
  | _, .object [], _ => aligned_of_not_mem (by simp [indented, render])
  | margin, .object ((k, x) :: xs), h => by
    rw [Solid, SolidFields] at h
    have hvalue := aligned_indented hwidth (margin + width) x h.1
    have hfields := aligned_indentedFields hwidth margin xs h.2
    exact ((aligned_newline (Nat.add_pos_right margin hwidth)).append
      (aligned_field k (hvalue.append hfields))).cons (by decide)

/-- Indented items are aligned. -/
theorem aligned_indentedItems {width : ℕ} (hwidth : 0 < width) : ∀ (margin : ℕ) (xs : List Json),
    SolidItems xs → Aligned (indentedItems width margin xs)
  | margin, [], _ => aligned_closing margin (.inl rfl)
  | margin, x :: xs, h => by
    rw [SolidItems] at h
    have hitem := aligned_indented hwidth (margin + width) x h.1
    have hitems := aligned_indentedItems hwidth margin xs h.2
    exact ((aligned_newline (Nat.add_pos_right margin hwidth)).append
      (hitem.append hitems)).cons (by decide)

/-- Indented fields are aligned. -/
theorem aligned_indentedFields {width : ℕ} (hwidth : 0 < width) : ∀ (margin : ℕ)
    (xs : List (Str × Json)), SolidFields xs → Aligned (indentedFields width margin xs)
  | margin, [], _ => aligned_closing margin (.inr rfl)
  | margin, (k, x) :: xs, h => by
    rw [SolidFields] at h
    have hvalue := aligned_indented hwidth (margin + width) x h.1
    have hfields := aligned_indentedFields hwidth margin xs h.2
    exact ((aligned_newline (Nat.add_pos_right margin hwidth)).append
      (aligned_field k (hvalue.append hfields))).cons (by decide)

end

/-- The lines of a text whose line feeds have the beginning of a line behind them. -/
theorem Aligned.lines {s : Str} (h : Aligned s) :
    ∀ line ∈ (s.splitOn 10).tail, ∃ c ∈ line.head?, StartsLine c := by
  induction s with
  | nil => simp
  | cons c s ih =>
    have htail := ih h.of_cons
    obtain ⟨first, later, hlines⟩ := List.exists_cons_of_ne_nil (List.splitOn_ne_nil 10 s)
    rw [List.splitOn_cons_eq_if_modifyHead]
    by_cases hc : (c == 10) = true
    · obtain rfl : c = 10 := by simpa using hc
      obtain ⟨d, hd, hstarts⟩ := h [] s rfl
      rw [if_pos hc, List.tail_cons, hlines, List.forall_mem_cons]
      refine ⟨⟨d, ?_, hstarts⟩, by simpa [hlines] using htail⟩
      -- the first line of the rest begins with its first character, which is no line feed
      cases s with
      | nil => cases hd
      | cons e s =>
        obtain rfl : e = d := by simpa using hd
        have hne : (e == 10) = false := by
          rw [beq_eq_false_iff_ne]
          rintro rfl
          revert hstarts
          unfold StartsLine
          decide
        rw [List.splitOn_cons_eq_if_modifyHead, if_neg (by simp [hne])] at hlines
        obtain ⟨first', later', hlines'⟩ := List.exists_cons_of_ne_nil (List.splitOn_ne_nil 10 s)
        rw [hlines'] at hlines
        obtain ⟨rfl, -⟩ := List.cons.inj hlines
        rfl
    · rw [if_neg hc, hlines]
      simpa [hlines] using htail

/-- The lines of an object begin with its opening bracket, with a blank or with a closing
bracket. -/
theorem lines_dumpsIndented_object {width : ℕ} (hwidth : 0 < width) {fields : List (Str × Json)}
    (h : (object fields).Solid) :
    ∀ line ∈ (dumpsIndented width (object fields)).splitOn 10,
      ∃ c ∈ line.head?, c.val = 123 ∨ StartsLine c := by
  have haligned := (aligned_indented hwidth 0 _ (solid_sorted h)).lines
  obtain ⟨rest, hrest⟩ : ∃ rest, dumpsIndented width (object fields) = 123 :: rest := by
    unfold dumpsIndented
    rw [sorted]
    generalize (sortedFields fields).insertionSort (fun a b => a.1 ≤ b.1) = ordered
    cases ordered with
    | nil => exact ⟨_, rfl⟩
    | cons field ordered => exact ⟨_, rfl⟩
  change ∀ line ∈ ((dumpsIndented width (object fields)).splitOn 10).tail, _ at haligned
  rw [hrest] at haligned ⊢
  obtain ⟨first, later, hlines⟩ := List.exists_cons_of_ne_nil (List.splitOn_ne_nil 10 rest)
  rw [List.splitOn_cons_eq_if_modifyHead, if_neg (by decide), hlines] at haligned ⊢
  intro line hline
  rcases List.mem_cons.mp hline with rfl | hline
  · exact ⟨123, rfl, .inl rfl⟩
  · obtain ⟨c, hc, hstarts⟩ := haligned line hline
    exact ⟨c, hc, .inr hstarts⟩

/-! ## Fields that are left out -/

/-- Lists with the same keys are equal if they are up to the order, without the items that a test
leaves out. -/
theorem eq_of_filter_perm {α κ : Type} {f : α → κ} {p : α → Bool}
    (hdrop : ∀ a b, p a = false → p b = false → f a = f b → a = b) {l l' : List α}
    (hkeys : l.map f = l'.map f) (hnodup : (l.map f).Nodup)
    (h : (l.filter p).Perm (l'.filter p)) : l = l' := by
  induction l generalizing l' with
  | nil => exact (List.map_eq_nil_iff.mp hkeys.symm).symm
  | cons a l ih =>
    obtain ⟨b, l', rfl⟩ : ∃ b t, l' = b :: t := by
      cases l' with
      | nil => cases hkeys
      | cons b t => exact ⟨b, t, rfl⟩
    have hnodup' : ((b :: l').map f).Nodup := hkeys ▸ hnodup
    obtain ⟨hkey, htail⟩ := List.cons.inj hkeys
    have hfirst : a = b := by
      by_cases ha : p a = true
      · have hmem : a ∈ b :: l' := (List.mem_filter.mp (h.subset (List.mem_filter.mpr
          ⟨List.mem_cons_self, ha⟩))).1
        exact List.inj_on_of_nodup_map hnodup' hmem List.mem_cons_self hkey
      · by_cases hb : p b = true
        · have hmem : b ∈ a :: l := (List.mem_filter.mp (h.symm.subset (List.mem_filter.mpr
            ⟨List.mem_cons_self, hb⟩))).1
          exact List.inj_on_of_nodup_map hnodup List.mem_cons_self hmem hkey
        · exact hdrop a b (by simpa using ha) (by simpa using hb) hkey
    subst hfirst
    have hrest : (l.filter p).Perm (l'.filter p) := by
      by_cases ha : p a = true
      · simpa [ha] using h
      · simpa [ha] using h
    rw [ih htail (List.nodup_cons.mp hnodup).2 hrest]

/-- The names of the fields stay as they are when the values are sorted. -/
theorem map_fst_sortedFields (fields : List (Str × Json)) :
    (sortedFields fields).map Prod.fst = fields.map Prod.fst := by
  induction fields with
  | nil => rfl
  | cons field fields ih =>
    obtain ⟨k, x⟩ := field
    rw [sortedFields, List.map_cons, List.map_cons, ih]

/-- A selection that does not depend on the order within values may be made first. -/
theorem sortedFields_filter {p : Str × Json → Bool} (hp : ∀ k v, p (k, sorted v) = p (k, v))
    (fields : List (Str × Json)) :
    sortedFields (fields.filter p) = (sortedFields fields).filter p := by
  induction fields with
  | nil => rfl
  | cons field fields ih =>
    obtain ⟨k, x⟩ := field
    rw [sortedFields, List.filter_cons, List.filter_cons, hp]
    split
    · rw [sortedFields, ih]
    · exact ih

/-- Objects whose fields have the same names are equal field by field, also if some values are left
out. -/
theorem sortedFields_inj {p : Str × Json → Bool} (hp : ∀ k v, p (k, sorted v) = p (k, v))
    (hdrop : ∀ k v w, p (k, v) = false → p (k, w) = false → v = w) {fields fields' :
      List (Str × Json)} (hkeys : fields.map Prod.fst = fields'.map Prod.fst)
    (hnodup : (fields.map Prod.fst).Nodup)
    (h : sorted (.object (fields.filter p)) = sorted (.object (fields'.filter p))) :
    sortedFields fields = sortedFields fields' := by
  rw [sorted, sorted, sortedFields_filter hp, sortedFields_filter hp] at h
  have hordered := Json.object.inj h
  have hleft := List.perm_insertionSort (fun a b : Str × Json => a.1 ≤ b.1)
    ((sortedFields fields).filter p)
  have hright := List.perm_insertionSort (fun a b : Str × Json => a.1 ≤ b.1)
    ((sortedFields fields').filter p)
  rw [hordered] at hleft
  refine eq_of_filter_perm (f := Prod.fst) ?_ ?_ ?_ (hleft.symm.trans hright)
  · rintro ⟨k, v⟩ ⟨k', w⟩ hv hw rfl
    rw [hdrop k v w hv hw]
  · rw [map_fst_sortedFields, map_fst_sortedFields, hkeys]
  · rwa [map_fst_sortedFields]

/-- Objects whose fields have the same names are equal field by field. -/
theorem sortedFields_inj_all {fields fields' : List (Str × Json)}
    (hkeys : fields.map Prod.fst = fields'.map Prod.fst) (hnodup : (fields.map Prod.fst).Nodup)
    (h : sorted (.object fields) = sorted (.object fields')) :
    sortedFields fields = sortedFields fields' := by
  have hall : ∀ l : List (Str × Json), l.filter (fun _ => true) = l := by simp
  rw [← hall fields, ← hall fields'] at h
  exact sortedFields_inj (p := fun _ => true) (fun _ _ => rfl)
    (fun _ _ _ hfalse => by cases hfalse) hkeys hnodup h

/-! ## Common values -/

/-- A text that may be absent. -/
def optional : Option Str → Json
  | none => .null
  | some s => .str s

/-- An array of texts. -/
def texts (items : List Str) : Json := .array (items.map .str)

/-- A string is solid. -/
@[simp]
theorem solid_str (s : Str) : (str s).Solid := trivial

/-- An integer is solid. -/
@[simp]
theorem solid_int (n : ℤ) : (int n).Solid := trivial

/-- A truth value is solid. -/
@[simp]
theorem solid_bool (b : Bool) : (bool b).Solid := trivial

/-- An optional text is solid. -/
@[simp]
theorem solid_optional (o : Option Str) : (optional o).Solid := by
  cases o <;> trivial

/-- A list of texts is solid. -/
@[simp]
theorem solid_texts (items : List Str) : (texts items).Solid := by
  rw [texts, solid_array, List.forall_mem_map]
  exact fun s _ => solid_str s

/-- A string is sorted. -/
@[simp]
theorem sorted_str (s : Str) : sorted (.str s) = .str s := rfl

/-- An optional text is sorted. -/
@[simp]
theorem sorted_optional (o : Option Str) : sorted (optional o) = optional o := by
  cases o <;> rfl

/-- Items are sorted one by one. -/
theorem sortedItems_eq_map (items : List Json) : sortedItems items = items.map sorted := by
  induction items with
  | nil => rfl
  | cons x items ih => rw [sortedItems, ih, List.map_cons]

/-- A list of texts is sorted. -/
@[simp]
theorem sorted_texts (items : List Str) : sorted (texts items) = texts items := by
  rw [texts, sorted, sortedItems_eq_map, List.map_map]
  rfl

/-- Optional texts are told apart. -/
theorem optional_injective : Function.Injective optional := by
  intro o o' h
  cases o with
  | none =>
    cases o' with
    | none => rfl
    | some t => cases h
  | some s =>
    cases o' with
    | none => cases h
    | some t => rw [Json.str.inj h]

/-- Lists of texts are told apart. -/
theorem texts_injective : Function.Injective texts := by
  intro l l' h
  exact List.map_injective_iff.mpr (fun _ _ hs => Json.str.inj hs) (Json.array.inj h)

/-- Whether a value is `None`. -/
def isNull : Json → Bool
  | .null => true
  | _ => false

/-- Whether a value is an empty list. -/
def isEmptyArray : Json → Bool
  | .array [] => true
  | _ => false

/-- Sorting makes nothing null. -/
theorem isNull_sorted (v : Json) : (sorted v).isNull = v.isNull := by
  cases v <;> rfl

/-- Sorting empties no array. -/
theorem isEmptyArray_sorted (v : Json) : (sorted v).isEmptyArray = v.isEmptyArray := by
  cases v with
  | array items => cases items <;> rfl
  | _ => rfl

/-- A value that is null. -/
theorem eq_null {v : Json} (h : v.isNull = true) : v = .null := by
  unfold isNull at h
  split at h
  · rfl
  · cases h

/-- A value that is an empty array. -/
theorem eq_emptyArray {v : Json} (h : v.isEmptyArray = true) : v = .array [] := by
  unfold isEmptyArray at h
  split at h
  · rfl
  · cases h

end Json

end AssessmentPlatform.Library
