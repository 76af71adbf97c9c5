import AssessmentPlatform.Python
import Mathlib.Data.List.Sort

/-!
# Compact JSON text

JSON values and their rendering without blanks, with non-ASCII characters left as they
are and the keys of every object sorted. The rendering is injective: a rendered value
determines the value and, in a longer text, also the place where it ends. Floating-point
numbers are represented by their text.
-/

namespace AssessmentPlatform.Library

/-- The text of a floating-point number: it starts like a number or names a special
value, and it has a fraction, an exponent or the name of a special value. -/
structure FloatText where
  text : Str
  head : ∃ c rest, text = c :: rest ∧
    ((48 ≤ c.val ∧ c.val ≤ 57) ∨ c.val = 45 ∨ c.val = 73 ∨ c.val = 78)
  mark : ∃ c ∈ text, c.val = 46 ∨ c.val = 101 ∨ c.val = 73 ∨ c.val = 78
  plain : ∀ c ∈ text, c.val ≠ 44 ∧ c.val ≠ 93 ∧ c.val ≠ 125

/-- A JSON value; an object is the list of its fields. -/
inductive Json where
  | null
  | bool (b : Bool)
  | int (n : ℤ)
  | float (text : FloatText)
  | str (s : Str)
  | array (items : List Json)
  | object (fields : List (Str × Json))

namespace Json

/-! ## Rendering -/

/-- The hexadecimal digit of a number below sixteen. -/
def hexDigit (n : ℕ) : CodePoint :=
  CodePoint.ofChar (Nat.digitChar n)

/-- The text of one character within a string. -/
def escape (c : CodePoint) : Str :=
  if c.val = 34 then [92, 34]
  else if c.val = 92 then [92, 92]
  else if c.val = 10 then [92, 110]
  else if c.val = 13 then [92, 114]
  else if c.val = 9 then [92, 116]
  else if c.val = 12 then [92, 102]
  else if c.val = 8 then [92, 98]
  else if c.val < 32 then [92, 117, 48, 48, hexDigit (c.val / 16), hexDigit (c.val % 16)]
  else [c]

/-- The escaped characters and the closing quotation mark. -/
def escapeRest (s : Str) : Str := s.flatMap escape ++ [34]

/-- The decimal text of an integer. -/
def intText : ℤ → Str
  | .ofNat n => Str.decimal n
  | .negSucc n => 45 :: Str.decimal (n + 1)

mutual

/-- The text of a value. -/
def render : Json → Str
  | .null => [110, 117, 108, 108]
  | .bool true => [116, 114, 117, 101]
  | .bool false => [102, 97, 108, 115, 101]
  | .int n => intText n
  | .float t => t.text
  | .str s => 34 :: escapeRest s
  | .array [] => [91, 93]
  | .array (x :: xs) => 91 :: (render x ++ renderItems xs)
  | .object [] => [123, 125]
  | .object ((k, x) :: xs) => 123 :: 34 :: (escapeRest k ++ 58 :: (render x ++ renderFields xs))

/-- The text of the further items of an array. -/
def renderItems : List Json → Str
  | [] => [93]
  | x :: xs => 44 :: (render x ++ renderItems xs)

/-- The text of the further fields of an object. -/
def renderFields : List (Str × Json) → Str
  | [] => [125]
  | (k, x) :: xs => 44 :: 34 :: (escapeRest k ++ 58 :: (render x ++ renderFields xs))

end

mutual

/-- The value with the keys of every object sorted. -/
def sorted : Json → Json
  | .array items => .array (sortedItems items)
  | .object fields => .object ((sortedFields fields).insertionSort fun a b => a.1 ≤ b.1)
  | v => v

/-- The items with their keys sorted. -/
def sortedItems : List Json → List Json
  | [] => []
  | x :: xs => sorted x :: sortedItems xs

/-- The fields with the keys inside of their values sorted. -/
def sortedFields : List (Str × Json) → List (Str × Json)
  | [] => []
  | (k, x) :: xs => (k, sorted x) :: sortedFields xs

end

/-- `json.dumps` with sorted keys, compact separators and `ensure_ascii=False`. -/
def dumps (v : Json) : Str := render (sorted v)

/-! ## Characters -/

/-- The control character of two hexadecimal digits. -/
def unhex (h l : CodePoint) : CodePoint :=
  if h.val = 48 then
    if l.val < 58 then Fin.ofNat _ (l.val - 48) else Fin.ofNat _ (l.val - 87)
  else if l.val < 58 then Fin.ofNat _ (l.val - 32) else Fin.ofNat _ (l.val - 71)

/-- The first character of an escaped text, with the rest of the text. -/
def unescape : Str → Option (CodePoint × Str)
  | [] => none
  | c :: rest =>
    if c.val ≠ 92 then some (c, rest)
    else match rest with
      | e :: rest =>
        if e.val = 34 then some (34, rest)
        else if e.val = 92 then some (92, rest)
        else if e.val = 110 then some (10, rest)
        else if e.val = 114 then some (13, rest)
        else if e.val = 116 then some (9, rest)
        else if e.val = 102 then some (12, rest)
        else if e.val = 98 then some (8, rest)
        else match rest with
          | _ :: _ :: h :: l :: rest => some (unhex h l, rest)
          | _ => none
      | [] => none

private theorem unhex_hexDigit : ∀ n : Fin 32,
    (unhex (hexDigit (n.val / 16)) (hexDigit (n.val % 16))).val = n.val := by
  decide +kernel

/-- An escaped character can be read back, whatever follows it. -/
theorem unescape_escape (c : CodePoint) (u : Str) : unescape (escape c ++ u) = some (c, u) := by
  unfold escape
  split_ifs with h1 h2 h3 h4 h5 h6 h7 h8
  · exact congrArg (fun d => some (d, u)) (Fin.ext h1.symm)
  · exact congrArg (fun d => some (d, u)) (Fin.ext h2.symm)
  · exact congrArg (fun d => some (d, u)) (Fin.ext h3.symm)
  · exact congrArg (fun d => some (d, u)) (Fin.ext h4.symm)
  · exact congrArg (fun d => some (d, u)) (Fin.ext h5.symm)
  · exact congrArg (fun d => some (d, u)) (Fin.ext h6.symm)
  · exact congrArg (fun d => some (d, u)) (Fin.ext h7.symm)
  · exact congrArg (fun d => some (d, u)) (Fin.ext (unhex_hexDigit ⟨c.val, h8⟩))
  · simp [unescape, h2]

/-- Escaped characters are told apart. -/
theorem escape_append_inj {c d : CodePoint} {u v : Str} (h : escape c ++ u = escape d ++ v) :
    c = d ∧ u = v := by
  have hc := unescape_escape c u
  rw [h, unescape_escape d v] at hc
  simpa using hc.symm

/-- No escaped character starts with a quotation mark. -/
theorem escape_head (c : CodePoint) : ∃ d rest, escape c = d :: rest ∧ d.val ≠ 34 := by
  unfold escape
  split_ifs with h1
  all_goals try exact ⟨92, _, rfl, by decide⟩
  exact ⟨c, [], rfl, h1⟩

/-- A string determines its end in a longer text. -/
theorem escapeRest_append_inj {s t u v : Str} (h : escapeRest s ++ u = escapeRest t ++ v) :
    s = t ∧ u = v := by
  induction s generalizing t with
  | nil =>
    cases t with
    | nil => exact ⟨rfl, (List.cons.inj h).2⟩
    | cons d t =>
      obtain ⟨e, rest, he, hne⟩ := escape_head d
      simp only [escapeRest, List.flatMap_nil, List.flatMap_cons, he] at h
      exact absurd (congrArg Fin.val (List.cons.inj h).1).symm hne
  | cons c s ih =>
    cases t with
    | nil =>
      obtain ⟨e, rest, he, hne⟩ := escape_head c
      simp only [escapeRest, List.flatMap_nil, List.flatMap_cons, he] at h
      exact absurd (congrArg Fin.val (List.cons.inj h).1) hne
    | cons d t =>
      have h' : escape c ++ (escapeRest s ++ u) = escape d ++ (escapeRest t ++ v) := by
        simpa [escapeRest] using h
      obtain ⟨rfl, hrest⟩ := escape_append_inj h'
      obtain ⟨rfl, rfl⟩ := ih hrest
      exact ⟨rfl, rfl⟩

/-! ## Atoms -/

/-- The characters that follow a value in a longer text. -/
def isDelimiter (c : CodePoint) : Prop := c.val = 44 ∨ c.val = 93 ∨ c.val = 125

/-- A text that is empty or goes on with a delimiter. -/
def Ends (u : Str) : Prop := ∀ c ∈ u.head?, isDelimiter c

/-- A text without delimiters determines its end. -/
theorem plain_append_inj {s t u v : Str} (hs : ∀ c ∈ s, ¬ isDelimiter c)
    (ht : ∀ c ∈ t, ¬ isDelimiter c) (hu : Ends u) (hv : Ends v) (h : s ++ u = t ++ v) :
    s = t ∧ u = v := by
  induction s generalizing t with
  | nil =>
    cases t with
    | nil => exact ⟨rfl, h⟩
    | cons d t =>
      rw [List.nil_append] at h
      exact absurd (hu d (by simp [h])) (ht d (by simp))
  | cons c s ih =>
    cases t with
    | nil =>
      rw [List.nil_append] at h
      exact absurd (hv c (by simp [← h])) (hs c (by simp))
    | cons d t =>
      obtain ⟨rfl, hrest⟩ := List.cons.inj h
      obtain ⟨rfl, rfl⟩ :=
        ih (fun e he => hs e (by simp [he])) (fun e he => ht e (by simp [he])) hrest
      exact ⟨rfl, rfl⟩

/-- The decimal digits. -/
def isDigit (c : CodePoint) : Prop := 48 ≤ c.val ∧ c.val ≤ 57

/-- A decimal is written with digits. -/
theorem decimal_isDigit {n : ℕ} {c : CodePoint} (h : c ∈ Str.decimal n) : isDigit c := by
  obtain ⟨d, hd, rfl⟩ := List.mem_map.mp h
  have hdigit := Nat.isDigit_of_mem_toDigits (by decide) (by decide) hd
  simpa [Char.isDigit, CodePoint.ofChar, isDigit, UInt32.le_iff_toNat_le] using hdigit

/-- Characters are told apart by their code points. -/
theorem ofChar_injective : Function.Injective CodePoint.ofChar := by
  intro a b h
  have hval : a.val.toNat = b.val.toNat := congrArg (fun c : CodePoint => c.val) h
  exact Char.ext (UInt32.toNat_inj.mp hval)

/-- Decimals are told apart. -/
theorem decimal_injective : Function.Injective Str.decimal := by
  intro m n h
  have hdigits := List.map_injective_iff.mpr ofChar_injective h
  rw [← Nat.ofDigitChars_ten_toDigits (n := m), hdigits, Nat.ofDigitChars_ten_toDigits]

/-- A decimal begins with a digit. -/
theorem decimal_cons (n : ℕ) : ∃ c rest, Str.decimal n = c :: rest ∧ isDigit c := by
  cases h : Str.decimal n with
  | nil =>
    have hdigits : Nat.toDigits 10 n = [] := List.map_eq_nil_iff.mp h
    exact absurd hdigits Nat.toDigits_ne_nil
  | cons c rest => exact ⟨c, rest, rfl, decimal_isDigit (n := n) (by simp [h])⟩

/-- The text of an integer has digits and at most a sign. -/
theorem intText_plain {n : ℤ} {c : CodePoint} (h : c ∈ intText n) : isDigit c ∨ c.val = 45 := by
  cases n with
  | ofNat n => exact .inl (decimal_isDigit h)
  | negSucc n =>
    rcases List.mem_cons.mp h with rfl | h
    · exact .inr rfl
    · exact .inl (decimal_isDigit h)

/-- An integer begins with a digit or a sign. -/
theorem intText_cons (n : ℤ) : ∃ c rest, intText n = c :: rest ∧ (isDigit c ∨ c.val = 45) := by
  cases n with
  | ofNat n =>
    obtain ⟨c, rest, hrest, hc⟩ := decimal_cons n
    exact ⟨c, rest, hrest, .inl hc⟩
  | negSucc n => exact ⟨45, _, rfl, .inr rfl⟩

/-- Integers are told apart. -/
theorem intText_injective : Function.Injective intText := by
  intro m n h
  cases m with
  | ofNat m =>
    cases n with
    | ofNat n => rw [decimal_injective h]
    | negSucc n =>
      obtain ⟨c, rest, hrest, hc⟩ := decimal_cons m
      rw [intText, intText, hrest] at h
      have hsign := congrArg Fin.val (List.cons.inj h).1
      simp [isDigit] at hc
      simp at hsign
      omega
  | negSucc m =>
    cases n with
    | ofNat n =>
      obtain ⟨c, rest, hrest, hc⟩ := decimal_cons n
      rw [intText, intText, hrest] at h
      have hsign := congrArg Fin.val (List.cons.inj h).1
      simp [isDigit] at hc
      simp at hsign
      omega
    | negSucc n =>
      have := decimal_injective (List.cons.inj h).2
      simp at this
      rw [this]

/-! ## Injectivity -/

/-- What a value is recognised by: its first character. -/
inductive Kind where
  | atom | str | array | object
  deriving DecidableEq

/-- The kind of a value. -/
def kind : Json → Kind
  | .str _ => .str
  | .array _ => .array
  | .object _ => .object
  | _ => .atom

/-- The kind that a first character announces. -/
def headKind (c : CodePoint) : Kind :=
  if c.val = 34 then .str else if c.val = 91 then .array else if c.val = 123 then .object else .atom

/-- The text of an atom has no delimiter and starts with a character of its own. -/
theorem atom_render {v : Json} (hv : v.kind = .atom) :
    (∀ c ∈ render v, ¬ isDelimiter c) ∧
      ∃ c rest, render v = c :: rest ∧ headKind c = .atom ∧ ¬ isDelimiter c := by
  suffices h : (∀ c ∈ render v, ¬ isDelimiter c) ∧
      ∃ c rest, render v = c :: rest ∧ headKind c = .atom by
    obtain ⟨hplain, c, rest, hrest, hc⟩ := h
    exact ⟨hplain, c, rest, hrest, hc, hplain c (by simp [hrest])⟩
  cases v with
  | null => exact ⟨by simp [render, isDelimiter], 110, _, rfl, rfl⟩
  | bool b =>
    cases b
    · exact ⟨by simp [render, isDelimiter], 102, _, rfl, rfl⟩
    · exact ⟨by simp [render, isDelimiter], 116, _, rfl, rfl⟩
  | int n =>
    refine ⟨fun c hc => ?_, ?_⟩
    · have hplain := intText_plain hc
      simp only [isDigit, isDelimiter] at hplain ⊢
      omega
    · obtain ⟨c, rest, hrest, hc⟩ := intText_cons n
      refine ⟨c, rest, hrest, ?_⟩
      simp only [isDigit] at hc
      simp only [headKind]
      rw [if_neg (by omega), if_neg (by omega), if_neg (by omega)]
  | float t =>
    refine ⟨fun c hc => ?_, ?_⟩
    · have hplain := t.plain c hc
      simp only [isDelimiter]
      omega
    · obtain ⟨c, rest, hrest, hc⟩ := t.head
      refine ⟨c, rest, hrest, ?_⟩
      simp only [headKind]
      rw [if_neg (by omega), if_neg (by omega), if_neg (by omega)]
  | str s => cases hv
  | array xs => cases hv
  | object xs => cases hv

/-- Every value starts with a character that announces its kind and is no delimiter. -/
theorem render_head (v : Json) :
    ∃ c rest, render v = c :: rest ∧ headKind c = v.kind ∧ ¬ isDelimiter c := by
  cases v with
  | str s => exact ⟨34, _, rfl, rfl, by unfold isDelimiter; decide⟩
  | array xs => cases xs <;> exact ⟨91, _, rfl, rfl, by unfold isDelimiter; decide⟩
  | object xs => cases xs <;> exact ⟨123, _, rfl, rfl, by unfold isDelimiter; decide⟩
  | null => exact (atom_render rfl).2
  | bool b => exact (atom_render rfl).2
  | int n => exact (atom_render rfl).2
  | float t => exact (atom_render rfl).2

/-- The numbers among the values. -/
def isNumber : Json → Bool
  | .int _ | .float _ => true
  | _ => false

/-- A number starts with a digit, a sign or the name of a special value. -/
theorem number_head {v : Json} (hv : v.isNumber = true) : ∃ c rest, render v = c :: rest ∧
    ((48 ≤ c.val ∧ c.val ≤ 57) ∨ c.val = 45 ∨ c.val = 73 ∨ c.val = 78) := by
  cases v with
  | int n =>
    obtain ⟨c, rest, hrest, hc⟩ := intText_cons n
    exact ⟨c, rest, hrest, hc.imp_right .inl⟩
  | float t => exact t.head
  | _ => cases hv

/-- The texts of numbers determine them: only a float has a mark. -/
theorem number_render_inj {v w : Json} (hv : v.isNumber = true) (hw : w.isNumber = true)
    (h : render v = render w) : v = w := by
  have hmixed : ∀ (n : ℤ) (t : FloatText), intText n ≠ t.text := by
    intro n t heq
    obtain ⟨c, hc, hmark⟩ := t.mark
    have hplain := intText_plain (heq ▸ hc)
    simp only [isDigit] at hplain
    omega
  cases v with
  | int n =>
    cases w with
    | int m => rw [intText_injective h]
    | float t => exact absurd h (hmixed n t)
    | _ => cases hw
  | float t =>
    cases w with
    | int m => exact absurd h.symm (hmixed m t)
    | float s =>
      cases t
      cases s
      cases h
      rfl
    | _ => cases hw
  | _ => cases hv

/-- A constant has not the text of a number. -/
private theorem constant_ne_number {c : CodePoint} {rest : Str} {v : Json}
    (hc : c.val = 110 ∨ c.val = 116 ∨ c.val = 102) (hv : v.isNumber = true) :
    c :: rest ≠ render v := by
  intro h
  obtain ⟨d, rest', hrest, hd⟩ := number_head hv
  rw [hrest] at h
  have hval := congrArg Fin.val (List.cons.inj h).1
  omega

/-- Different atoms have different texts. -/
theorem atom_render_inj {v w : Json} (hv : v.kind = .atom) (hw : w.kind = .atom)
    (h : render v = render w) : v = w := by
  by_cases hnv : v.isNumber = true
  · by_cases hnw : w.isNumber = true
    · exact number_render_inj hnv hnw h
    · cases w with
      | null => exact absurd h.symm (constant_ne_number (.inl rfl) hnv)
      | bool b =>
        cases b
        · exact absurd h.symm (constant_ne_number (.inr (.inr rfl)) hnv)
        · exact absurd h.symm (constant_ne_number (.inr (.inl rfl)) hnv)
      | int n => exact absurd rfl hnw
      | float t => exact absurd rfl hnw
      | _ => cases hw
  · cases v with
    | null =>
      cases w with
      | null => rfl
      | bool b => cases b <;> simp [render] at h
      | int n => exact absurd h (constant_ne_number (.inl rfl) rfl)
      | float t => exact absurd h (constant_ne_number (.inl rfl) rfl)
      | _ => cases hw
    | bool b =>
      cases w with
      | null => cases b <;> simp [render] at h
      | bool b' => cases b <;> cases b' <;> first | rfl | simp [render] at h
      | int n =>
        cases b
        · exact absurd h (constant_ne_number (.inr (.inr rfl)) rfl)
        · exact absurd h (constant_ne_number (.inr (.inl rfl)) rfl)
      | float t =>
        cases b
        · exact absurd h (constant_ne_number (.inr (.inr rfl)) rfl)
        · exact absurd h (constant_ne_number (.inr (.inl rfl)) rfl)
      | _ => cases hw
    | int n => exact absurd rfl hnv
    | float t => exact absurd rfl hnv
    | _ => cases hv

/-- Rendered items begin with what ends a value. -/
theorem ends_items (xs : List Json) (u : Str) : Ends (renderItems xs ++ u) := by
  cases xs <;> simp [renderItems, Ends, isDelimiter]

/-- Rendered fields begin with what ends a value. -/
theorem ends_fields (xs : List (Str × Json)) (u : Str) : Ends (renderFields xs ++ u) := by
  rcases xs with _ | ⟨⟨k, x⟩, xs⟩ <;> simp [renderFields, Ends, isDelimiter]

/-- Values with equal texts are of the same kind. -/
theorem kind_eq {v w : Json} {u u' : Str} (h : render v ++ u = render w ++ u') :
    v.kind = w.kind := by
  obtain ⟨c, rest, hrest, hc, -⟩ := render_head v
  obtain ⟨d, rest', hrest', hd, -⟩ := render_head w
  rw [hrest, hrest'] at h
  rw [← hc, ← hd, (List.cons.inj h).1]

/-- No value starts like the end of an array or of an object. -/
private theorem render_ne_delimiter {c : CodePoint} (hc : isDelimiter c) {v : Json} {u t : Str} :
    c :: t ≠ render v ++ u := by
  intro h
  obtain ⟨d, rest, hrest, -, hd⟩ := render_head v
  rw [hrest] at h
  exact hd ((List.cons.inj h).1 ▸ hc)

/-- What has the text of an array is an array, empty or not as the other one. -/
theorem array_inv {xs : List Json} {w : Json} {u u' : Str}
    (h : render (.array xs) ++ u = render w ++ u') :
    (xs = [] ∧ w = .array [] ∧ u = u') ∨
      ∃ x xs' y ys', xs = x :: xs' ∧ w = .array (y :: ys') ∧
        render x ++ (renderItems xs' ++ u) = render y ++ (renderItems ys' ++ u') := by
  have hkind := kind_eq h
  cases w with
  | array ys =>
    rcases xs with _ | ⟨x, xs⟩ <;> rcases ys with _ | ⟨y, ys⟩
    · exact .inl ⟨rfl, rfl, by simpa [render] using h⟩
    · simp only [render, List.cons_append, List.append_assoc, List.nil_append, List.cons.injEq,
        true_and] at h
      exact absurd h (render_ne_delimiter (.inr (.inl rfl)))
    · simp only [render, List.cons_append, List.append_assoc, List.nil_append, List.cons.injEq,
        true_and] at h
      exact absurd h.symm (render_ne_delimiter (.inr (.inl rfl)))
    · simp only [render, List.cons_append, List.append_assoc, List.cons.injEq, true_and] at h
      exact .inr ⟨x, xs, y, ys, rfl, rfl, h⟩
  | _ => cases hkind

/-- What has the text of an object is an object, empty or not as the other one. -/
theorem object_inv {xs : List (Str × Json)} {w : Json} {u u' : Str}
    (h : render (.object xs) ++ u = render w ++ u') :
    (xs = [] ∧ w = .object [] ∧ u = u') ∨
      ∃ k x xs' y ys', xs = (k, x) :: xs' ∧ w = .object ((k, y) :: ys') ∧
        render x ++ (renderFields xs' ++ u) = render y ++ (renderFields ys' ++ u') := by
  have hkind := kind_eq h
  cases w with
  | object ys =>
    rcases xs with _ | ⟨⟨k, x⟩, xs⟩ <;> rcases ys with _ | ⟨⟨l, y⟩, ys⟩
    · exact .inl ⟨rfl, rfl, by simpa [render] using h⟩
    · simp [render] at h
    · simp [render] at h
    · simp only [render, List.cons_append, List.append_assoc, List.cons.injEq, true_and] at h
      obtain ⟨rfl, hvalue⟩ := escapeRest_append_inj h
      exact .inr ⟨k, x, xs, y, ys, rfl, rfl, (List.cons.inj hvalue).2⟩
  | _ => cases hkind

/-- A string is read off its text. -/
theorem str_inv {s : Str} {w : Json} {u u' : Str} (h : render (.str s) ++ u = render w ++ u') :
    w = .str s ∧ u = u' := by
  have hkind := kind_eq h
  cases w with
  | str t =>
    obtain ⟨rfl, rfl⟩ := escapeRest_append_inj (List.cons.inj h).2
    exact ⟨rfl, rfl⟩
  | _ => cases hkind

/-- An atom is read off its text. -/
theorem atom_append_inj {v w : Json} (hv : v.kind = .atom) {u u' : Str} (hu : Ends u)
    (hu' : Ends u') (h : render v ++ u = render w ++ u') : v = w ∧ u = u' := by
  have hw : w.kind = .atom := (kind_eq h).symm.trans hv
  obtain ⟨htext, hrest⟩ := plain_append_inj (atom_render hv).1 (atom_render hw).1 hu hu' h
  exact ⟨atom_render_inj hv hw htext, hrest⟩

mutual

/-- A rendered value determines the value and its end in a longer text. -/
theorem render_append_inj : ∀ (v w : Json) {u u' : Str}, Ends u → Ends u' →
    render v ++ u = render w ++ u' → v = w ∧ u = u'
  | .str s, w, u, u', _, _, h => ⟨(str_inv h).1.symm, (str_inv h).2⟩
  | .array [], w, u, u', _, _, h => by
    rcases array_inv h with ⟨-, hw, hu⟩ | ⟨x, xs, y, ys, hx, -⟩
    · exact ⟨hw.symm, hu⟩
    · cases hx
  | .array (x :: xs), w, u, u', _, _, h => by
    rcases array_inv h with ⟨hx, -⟩ | ⟨x', xs', y, ys, hx, rfl, hrest⟩
    · cases hx
    · cases hx
      obtain ⟨rfl, hitems⟩ := render_append_inj x y (ends_items xs u) (ends_items ys u') hrest
      obtain ⟨rfl, rfl⟩ := renderItems_append_inj xs ys hitems
      exact ⟨rfl, rfl⟩
  | .object [], w, u, u', _, _, h => by
    rcases object_inv h with ⟨-, hw, hu⟩ | ⟨k, x, xs, y, ys, hx, -⟩
    · exact ⟨hw.symm, hu⟩
    · cases hx
  | .object ((k, x) :: xs), w, u, u', _, _, h => by
    rcases object_inv h with ⟨hx, -⟩ | ⟨k', x', xs', y, ys, hx, rfl, hrest⟩
    · cases hx
    · cases hx
      obtain ⟨rfl, hfields⟩ := render_append_inj x y (ends_fields xs u) (ends_fields ys u') hrest
      obtain ⟨rfl, rfl⟩ := renderFields_append_inj xs ys hfields
      exact ⟨rfl, rfl⟩
  | .null, w, u, u', hu, hu', h => atom_append_inj rfl hu hu' h
  | .bool b, w, u, u', hu, hu', h => atom_append_inj rfl hu hu' h
  | .int n, w, u, u', hu, hu', h => atom_append_inj rfl hu hu' h
  | .float t, w, u, u', hu, hu', h => atom_append_inj rfl hu hu' h

/-- Items are read off their text. -/
theorem renderItems_append_inj : ∀ (xs ys : List Json) {u u' : Str},
    renderItems xs ++ u = renderItems ys ++ u' → xs = ys ∧ u = u'
  | [], [], u, u', h => ⟨rfl, (List.cons.inj h).2⟩
  | [], y :: ys, u, u', h => by simp [renderItems] at h
  | x :: xs, [], u, u', h => by simp [renderItems] at h
  | x :: xs, y :: ys, u, u', h => by
    simp only [renderItems, List.cons_append, List.append_assoc, List.cons.injEq, true_and] at h
    obtain ⟨rfl, hrest⟩ := render_append_inj x y (ends_items xs u) (ends_items ys u') h
    obtain ⟨rfl, rfl⟩ := renderItems_append_inj xs ys hrest
    exact ⟨rfl, rfl⟩

/-- Fields are read off their text. -/
theorem renderFields_append_inj : ∀ (xs ys : List (Str × Json)) {u u' : Str},
    renderFields xs ++ u = renderFields ys ++ u' → xs = ys ∧ u = u'
  | [], [], u, u', h => ⟨rfl, (List.cons.inj h).2⟩
  | [], (l, y) :: ys, u, u', h => by simp [renderFields] at h
  | (k, x) :: xs, [], u, u', h => by simp [renderFields] at h
  | (k, x) :: xs, (l, y) :: ys, u, u', h => by
    simp only [renderFields, List.cons_append, List.append_assoc, List.cons.injEq, true_and] at h
    obtain ⟨rfl, hvalue⟩ := escapeRest_append_inj h
    obtain ⟨rfl, hrest⟩ := render_append_inj x y (ends_fields xs u) (ends_fields ys u')
      (List.cons.inj hvalue).2
    obtain ⟨rfl, rfl⟩ := renderFields_append_inj xs ys hrest
    exact ⟨rfl, rfl⟩

end

/-- Two values have the same text exactly if they differ in the order of keys only. -/
theorem dumps_inj {v w : Json} : dumps v = dumps w ↔ sorted v = sorted w := by
  refine ⟨fun h => ?_, fun h => congrArg render h⟩
  have hends : Ends [] := by simp [Ends]
  refine (render_append_inj _ _ hends hends ?_).1
  rw [List.append_nil, List.append_nil]
  exact h

/-! ## Texts that can be encoded -/

mutual

/-- Every text within the value can be encoded. -/
def encodable : Json → Bool
  | .float t => Str.encodable t.text
  | .str s => Str.encodable s
  | .array items => encodableItems items
  | .object fields => encodableFields fields
  | _ => true

/-- Every text within the items can be encoded. -/
def encodableItems : List Json → Bool
  | [] => true
  | x :: xs => encodable x && encodableItems xs

/-- Every text within the fields, their keys included, can be encoded. -/
def encodableFields : List (Str × Json) → Bool
  | [] => true
  | (k, x) :: xs => Str.encodable k && encodable x && encodableFields xs

end

/-- A text can be encoded if both parts can. -/
theorem encodable_append (s t : Str) :
    Str.encodable (s ++ t) = (Str.encodable s && Str.encodable t) :=
  List.all_append

/-- A text can be encoded if its first character and the others can. -/
theorem encodable_cons (c : CodePoint) (s : Str) :
    Str.encodable (c :: s) = (!c.isSurrogate && Str.encodable s) := rfl

/-- Escaping neither adds nor removes a surrogate. -/
theorem encodable_escape (c : CodePoint) : Str.encodable (escape c) = !c.isSurrogate := by
  have hplain : c.val < 0xD800 → c.isSurrogate = false := fun h => by
    simp [CodePoint.isSurrogate]
    omega
  have hdigit : ∀ n, (hexDigit n).isSurrogate = false := fun n => CodePoint.ofChar_isSurrogate _
  unfold escape
  split_ifs
  all_goals
    first
    | rw [hplain (by omega)]; simp [encodable_cons, hdigit]; decide
    | simp [Str.encodable]

/-- Escaping keeps what can be encoded. -/
theorem encodable_escapeRest (s : Str) : Str.encodable (escapeRest s) = Str.encodable s := by
  have hquote : Str.encodable [34] = true := by decide
  induction s with
  | nil => exact hquote
  | cons c s ih =>
    unfold escapeRest at ih ⊢
    rw [encodable_append, hquote, Bool.and_true] at ih ⊢
    rw [List.flatMap_cons, encodable_append, ih, encodable_escape, encodable_cons]

/-- An integer can be encoded. -/
theorem encodable_intText (n : ℤ) : Str.encodable (intText n) = true := by
  cases n with
  | ofNat n => exact Str.encodable_map_ofChar _
  | negSucc n =>
    rw [intText, encodable_cons]
    exact Str.encodable_map_ofChar _

mutual

/-- The text of a value can be encoded exactly if the texts within the value can be. -/
theorem encodable_render : ∀ v : Json, Str.encodable (render v) = encodable v
  | .null => by decide
  | .bool true => by decide
  | .bool false => by decide
  | .int n => encodable_intText n
  | .float t => rfl
  | .str s => by
    rw [render, encodable_cons, encodable_escapeRest]
    rfl
  | .array [] => by decide
  | .array (x :: xs) => by
    rw [render, encodable_cons, encodable_append, encodable_render x, encodable_renderItems xs]
    rfl
  | .object [] => by decide
  | .object ((k, x) :: xs) => by
    rw [render, encodable_cons, encodable_cons, encodable_append, encodable_cons, encodable_append,
      encodable_escapeRest, encodable_render x, encodable_renderFields xs]
    simp [encodable, encodableFields, CodePoint.isSurrogate, Bool.and_assoc]

/-- Rendered items can be encoded if the items can. -/
theorem encodable_renderItems :
    ∀ xs : List Json, Str.encodable (renderItems xs) = encodableItems xs
  | [] => by decide
  | x :: xs => by
    rw [renderItems, encodable_cons, encodable_append, encodable_render x, encodable_renderItems xs]
    rfl

/-- Rendered fields can be encoded if the fields can. -/
theorem encodable_renderFields :
    ∀ xs : List (Str × Json), Str.encodable (renderFields xs) = encodableFields xs
  | [] => by decide
  | (k, x) :: xs => by
    rw [renderFields, encodable_cons, encodable_cons, encodable_append, encodable_cons,
      encodable_append, encodable_escapeRest, encodable_render x, encodable_renderFields xs]
    simp [encodableFields, CodePoint.isSurrogate, Bool.and_assoc]

end

/-- Fields can be encoded if each of them can. -/
theorem encodableFields_iff {fields : List (Str × Json)} : encodableFields fields = true ↔
    ∀ field ∈ fields, Str.encodable field.1 = true ∧ encodable field.2 = true := by
  induction fields with
  | nil => simp [encodableFields]
  | cons field fields ih =>
    obtain ⟨k, x⟩ := field
    simp [encodableFields, ih]

/-- Whether fields can be encoded does not depend on their order. -/
theorem encodableFields_perm {fields fields' : List (Str × Json)} (h : fields.Perm fields') :
    encodableFields fields = encodableFields fields' := by
  rw [Bool.eq_iff_iff, encodableFields_iff, encodableFields_iff]
  exact ⟨fun hall field hfield => hall field (h.mem_iff.mpr hfield),
    fun hall field hfield => hall field (h.mem_iff.mp hfield)⟩

mutual

/-- Whether a value can be encoded does not depend on the order of its fields. -/
theorem encodable_sorted : ∀ v : Json, encodable (sorted v) = encodable v
  | .array items => by
    rw [sorted, encodable, encodable, encodable_sortedItems items]
  | .object fields => by
    rw [sorted, encodable, encodable, encodableFields_perm (List.perm_insertionSort _ _),
      encodable_sortedFields fields]
  | .null => rfl
  | .bool b => rfl
  | .int n => rfl
  | .float t => rfl
  | .str s => rfl

/-- Whether items can be encoded does not depend on the order within them. -/
theorem encodable_sortedItems :
    ∀ xs : List Json, encodableItems (sortedItems xs) = encodableItems xs
  | [] => rfl
  | x :: xs => by
    rw [sortedItems, encodableItems, encodableItems, encodable_sorted x, encodable_sortedItems xs]

/-- Whether fields can be encoded does not depend on the order within them. -/
theorem encodable_sortedFields :
    ∀ xs : List (Str × Json), encodableFields (sortedFields xs) = encodableFields xs
  | [] => rfl
  | (k, x) :: xs => by
    rw [sortedFields, encodableFields, encodableFields, encodable_sorted x,
      encodable_sortedFields xs]

end

/-- Serialized text can be encoded exactly if the texts within the value can be. -/
theorem encodable_dumps (v : Json) : Str.encodable (dumps v) = encodable v := by
  rw [dumps, encodable_render, encodable_sorted]

end Json

end AssessmentPlatform.Library
