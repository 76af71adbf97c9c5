import Mathlib.Data.List.DropRight
import Mathlib.Tactic.Common

/-!
# Searching and trimming sequences

Sequences of characters are lists over an arbitrary type, and white space is given by a
predicate. This file has the two searches that text processing needs, the decomposition
of a sequence into its margins and its trimmed middle, and layouts: sequences in which
given segments stand one after the other, separated by white space only.
-/

namespace AssessmentPlatform.Library

variable {α : Type}

/-! ## Slices -/

/-- The part of a sequence from one position up to another. -/
def slice (l : List α) (start stop : ℕ) : List α := (l.take stop).drop start

/-- The length of a slice. -/
theorem slice_length (l : List α) (start : ℕ) {stop : ℕ} (h : stop ≤ l.length) :
    (slice l start stop).length = stop - start := by
  rw [slice, List.length_drop, List.length_take, Nat.min_eq_left h]

/-- The items of a slice are those of the list behind its start. -/
theorem slice_getElem? (l : List α) {start stop i : ℕ} (h : start + i < stop) :
    (slice l start stop)[i]? = l[start + i]? := by
  rw [slice, List.getElem?_drop, List.getElem?_take, if_pos h]

/-- A sequence with a known middle. -/
theorem slice_middle (a m b : List α) : slice (a ++ m ++ b) a.length (a.length + m.length) = m := by
  rw [slice, ← List.length_append, List.take_left, List.drop_left]

/-- A slice of a slice. -/
theorem slice_slice (l : List α) {start stop i j : ℕ} (h : start + j ≤ stop) :
    slice (slice l start stop) i j = slice l (start + i) (start + j) := by
  unfold slice
  rw [List.take_drop, List.take_take, Nat.min_eq_left h, List.drop_drop]

/-! ## Searching -/

section Search

/-- The greatest number below a bound that passes a test. -/
def lastBelow (q : ℕ → Bool) : ℕ → Option ℕ
  | 0 => none
  | n + 1 => if q n then some n else lastBelow q n

/-- What is last below a bound with a property. -/
theorem lastBelow_eq_some {q : ℕ → Bool} {n b : ℕ} :
    lastBelow q n = some b ↔ b < n ∧ q b = true ∧ ∀ i, b < i → i < n → q i = false := by
  induction n with
  | zero => simp [lastBelow]
  | succ n ih =>
    unfold lastBelow
    split
    · rename_i hq
      constructor
      · rintro ⟨⟩
        exact ⟨Nat.lt_succ_self _, hq, fun i hi hi' => by omega⟩
      · rintro ⟨hb, -, hafter⟩
        rcases Nat.lt_succ_iff_lt_or_eq.mp hb with hlt | rfl
        · cases hq.symm.trans (hafter n hlt (Nat.lt_succ_self n))
        · rfl
    · rename_i hq
      rw [ih]
      constructor
      · rintro ⟨hb, hqb, hafter⟩
        refine ⟨by omega, hqb, fun i hi hi' => ?_⟩
        rcases Nat.lt_succ_iff_lt_or_eq.mp hi' with hlt | rfl
        · exact hafter i hi hlt
        · exact Bool.eq_false_iff.mpr hq
      · rintro ⟨hb, hqb, hafter⟩
        rcases Nat.lt_succ_iff_lt_or_eq.mp hb with hlt | rfl
        · exact ⟨hlt, hqb, fun i hi hi' => hafter i hi (by omega)⟩
        · exact absurd hqb hq

/-- When nothing below a bound has a property. -/
theorem lastBelow_eq_none {q : ℕ → Bool} {n : ℕ} :
    lastBelow q n = none ↔ ∀ i, i < n → q i = false := by
  induction n with
  | zero => simp [lastBelow]
  | succ n ih =>
    unfold lastBelow
    split
    · rename_i hq
      simp only [reduceCtorEq, false_iff, not_forall]
      exact ⟨n, Nat.lt_succ_self n, by simp [hq]⟩
    · rename_i hq
      rw [ih]
      constructor
      · intro h i hi
        rcases Nat.lt_succ_iff_lt_or_eq.mp hi with hlt | rfl
        · exact h i hlt
        · exact Bool.eq_false_iff.mpr hq
      · exact fun h i hi => h i (by omega)

variable [DecidableEq α]

/-- `text.rfind(pattern, low, high)` for a nonempty pattern. -/
def rfind (pattern text : List α) (low high : ℕ) : Option ℕ :=
  lastBelow (fun i => decide (low ≤ i ∧ i + pattern.length ≤ high) &&
    pattern.isPrefixOf (text.drop i)) high

/-- The pattern stands at the position `i`, inside of the bounds. -/
def OccursAt (pattern text : List α) (low high i : ℕ) : Prop :=
  low ≤ i ∧ i + pattern.length ≤ high ∧ pattern <+: text.drop i

/-- The test for an occurrence at a position. -/
theorem occursAt_iff {pattern text : List α} {low high i : ℕ} :
    (decide (low ≤ i ∧ i + pattern.length ≤ high) && pattern.isPrefixOf (text.drop i)) = true ↔
      OccursAt pattern text low high i := by
  rw [Bool.and_eq_true, decide_eq_true_eq, List.isPrefixOf_iff_prefix, and_assoc]
  rfl

omit [DecidableEq α] in
/-- A pattern that occurs begins below the upper bound. -/
theorem OccursAt.lt {pattern text : List α} {low high i : ℕ} (hpattern : pattern ≠ [])
    (h : OccursAt pattern text low high i) : i < high := by
  have hpos := List.length_pos_of_ne_nil hpattern
  have hhigh := h.2.1
  omega

omit [DecidableEq α] in
/-- An occurrence inside of other bounds. -/
theorem OccursAt.within {pattern text : List α} {low high low' high' i : ℕ}
    (h : OccursAt pattern text low high i) (hlow : low' ≤ i) (hhigh : i + pattern.length ≤ high') :
    OccursAt pattern text low' high' i :=
  ⟨hlow, hhigh, h.2.2⟩

/-- The pattern stands at the position `b`, and at no later one inside of the bounds. -/
def LastAt (pattern text : List α) (low high b : ℕ) : Prop :=
  OccursAt pattern text low high b ∧ ∀ i, OccursAt pattern text low high i → i ≤ b

/-- The search returns the last occurrence. -/
theorem rfind_eq_some {pattern text : List α} {low high b : ℕ} (hpattern : pattern ≠ []) :
    rfind pattern text low high = some b ↔ LastAt pattern text low high b := by
  unfold rfind
  rw [lastBelow_eq_some, occursAt_iff]
  constructor
  · rintro ⟨-, hb, hafter⟩
    refine ⟨hb, fun i hi => ?_⟩
    by_contra hlt
    have hfalse := hafter i (by omega) (hi.lt hpattern)
    rw [occursAt_iff.mpr hi] at hfalse
    cases hfalse
  · rintro ⟨hb, hlast⟩
    refine ⟨hb.lt hpattern, hb, fun i hi _ => Bool.eq_false_iff.mpr fun htest => ?_⟩
    have := hlast i (occursAt_iff.mp htest)
    omega

/-- The search fails only if there is no occurrence. -/
theorem rfind_eq_none {pattern text : List α} {low high : ℕ} (hpattern : pattern ≠ []) :
    rfind pattern text low high = none ↔ ∀ i, ¬ OccursAt pattern text low high i := by
  unfold rfind
  rw [lastBelow_eq_none]
  constructor
  · intro h i hi
    have hfalse := h i (hi.lt hpattern)
    rw [occursAt_iff.mpr hi] at hfalse
    cases hfalse
  · exact fun h i _ => Bool.eq_false_iff.mpr fun htest => h i (occursAt_iff.mp htest)

/-- The position of the first occurrence of a pattern. -/
def findIn (pattern : List α) : List α → Option ℕ
  | [] => if pattern = [] then some 0 else none
  | c :: rest =>
    if pattern.isPrefixOf (c :: rest) then some 0 else (findIn pattern rest).map (· + 1)

/-- `text.find(pattern, start)`. -/
def find (pattern text : List α) (start : ℕ) : Option ℕ :=
  (findIn pattern (text.drop start)).map (start + ·)

/-- The first occurrence of a segment that stands behind a gap, when the segment cannot
begin inside of the gap. -/
theorem findIn_behind {space : α → Bool} {gap segment rest : List α} {c : α} {tail : List α}
    (hgap : ∀ x ∈ gap, space x = true) (hsegment : segment = c :: tail) (hc : space c = false) :
    findIn segment (gap ++ segment ++ rest) = some gap.length := by
  induction gap with
  | nil =>
    subst hsegment
    simp [findIn, List.isPrefixOf_iff_prefix]
  | cons x gap ih =>
    have hx : x ≠ c := by
      rintro rfl
      cases hc.symm.trans (hgap x (by simp))
    have hnot : ¬ segment.isPrefixOf (x :: (gap ++ segment ++ rest)) = true := by
      rw [List.isPrefixOf_iff_prefix, hsegment]
      rintro ⟨t, ht⟩
      exact hx (List.cons.inj ht).1.symm
    rw [List.cons_append, List.cons_append, findIn, if_neg hnot,
      ih fun y hy => hgap y (by simp [hy])]
    rfl

end Search

/-! ## Whole terms -/

section Terms

variable [DecidableEq α] {word : α → Bool} {term text : List α}

/-- The term occurs without a word character next to it. -/
def OccursWhole (word : α → Bool) (term text : List α) : Prop :=
  ∃ before after, text = before ++ term ++ after ∧
    (∀ c ∈ before.getLast?, word c = false) ∧ ∀ c ∈ after.head?, word c = false

/-- Whether the text begins with the term, without a word character next to it. -/
def startsWhole (word : α → Bool) (term : List α) (previous : Option α) (text : List α) : Bool :=
  previous.all (!word ·) && term.isPrefixOf text && (text.drop term.length).head?.all (!word ·)

/-- The search for a whole term in what follows a character. -/
def searchWhole (word : α → Bool) (term : List α) (previous : Option α) : List α → Bool
  | [] => startsWhole word term previous []
  | c :: text => startsWhole word term previous (c :: text) || searchWhole word term (some c) text

/-- A whole term at the start: nothing of a word is in front of it or behind it. -/
theorem startsWhole_iff {previous : Option α} :
    startsWhole word term previous text = true ↔
      ∃ after, text = term ++ after ∧ (∀ c ∈ previous, word c = false) ∧
        ∀ c ∈ after.head?, word c = false := by
  unfold startsWhole
  rw [Bool.and_eq_true, Bool.and_eq_true, List.isPrefixOf_iff_prefix, Option.all_eq_true,
    Option.all_eq_true]
  simp only [Bool.not_eq_true']
  constructor
  · rintro ⟨⟨hprevious, after, rfl⟩, hafter⟩
    rw [List.drop_left] at hafter
    exact ⟨after, rfl, hprevious, hafter⟩
  · rintro ⟨after, rfl, hprevious, hafter⟩
    rw [List.drop_left]
    exact ⟨⟨hprevious, List.prefix_append _ _⟩, hafter⟩

/-- A whole term in a text: nothing of a word is in front of it or behind it. -/
theorem searchWhole_iff {previous : Option α} :
    searchWhole word term previous text = true ↔
      ∃ before after, text = before ++ term ++ after ∧
        (∀ c ∈ before.getLast?.or previous, word c = false) ∧
        ∀ c ∈ after.head?, word c = false := by
  induction text generalizing previous with
  | nil =>
    unfold searchWhole
    rw [startsWhole_iff]
    constructor
    · rintro ⟨after, heq, h⟩
      exact ⟨[], after, heq, h⟩
    · rintro ⟨before, after, heq, h⟩
      obtain ⟨rfl, -⟩ : before = [] ∧ _ := by simpa [and_assoc] using heq.symm
      exact ⟨after, heq, h⟩
  | cons c text ih =>
    unfold searchWhole
    rw [Bool.or_eq_true, startsWhole_iff, ih]
    constructor
    · rintro (⟨after, heq, h⟩ | ⟨before, after, rfl, hbefore, hafter⟩)
      · exact ⟨[], after, heq, h⟩
      · refine ⟨c :: before, after, rfl, ?_, hafter⟩
        simpa [List.getLast?_cons] using hbefore
    · rintro ⟨before, after, heq, hbefore, hafter⟩
      cases before with
      | nil => exact .inl ⟨after, heq, hbefore, hafter⟩
      | cons d before =>
        obtain ⟨rfl, rfl⟩ : c = d ∧ text = before ++ term ++ after := by simpa using heq
        refine .inr ⟨before, after, rfl, ?_, hafter⟩
        simpa [List.getLast?_cons] using hbefore

/-- The search finds the whole terms. -/
theorem searchWhole_none_iff :
    searchWhole word term none text = true ↔ OccursWhole word term text := by
  rw [searchWhole_iff]
  simp only [Option.or_none, OccursWhole]

section Joined

variable {sep : α} (hsep : word sep = false)

include hsep

omit [DecidableEq α] in
/-- Text behind a separator does not hide a term. -/
theorem OccursWhole.append_right (h : OccursWhole word term text) (rest : List α) :
    OccursWhole word term (text ++ sep :: rest) := by
  obtain ⟨before, after, rfl, hbefore, hafter⟩ := h
  refine ⟨before, after ++ sep :: rest, by simp, hbefore, fun c hc => ?_⟩
  cases after with
  | nil =>
    cases hc
    exact hsep
  | cons d after => exact hafter c hc

omit [DecidableEq α] in
/-- Text in front of a separator does not hide a term. -/
theorem OccursWhole.append_left (h : OccursWhole word term text) (rest : List α) :
    OccursWhole word term (rest ++ sep :: text) := by
  obtain ⟨before, after, rfl, hbefore, hafter⟩ := h
  refine ⟨rest ++ sep :: before, after, by simp, fun c hc => ?_, hafter⟩
  rw [List.getLast?_append_cons] at hc
  cases before with
  | nil =>
    cases hc
    exact hsep
  | cons d before => exact hbefore c (by rwa [List.getLast?_cons_cons] at hc)

omit [DecidableEq α] in
/-- A term of one of the texts is one of the joined text. -/
theorem OccursWhole.intercalate (h : OccursWhole word term text) {texts : List (List α)}
    (hmem : text ∈ texts) : OccursWhole word term ([sep].intercalate texts) := by
  induction texts with
  | nil => cases hmem
  | cons first rest ih =>
    by_cases hrest : rest = []
    · subst hrest
      rwa [List.intercalate_singleton, ← List.mem_singleton.mp hmem]
    · rw [List.intercalate_cons_of_ne_nil hrest, List.append_assoc, List.singleton_append]
      rcases List.mem_cons.mp hmem with rfl | hmem
      · exact h.append_right hsep _
      · exact (ih hmem).append_left hsep _

end Joined

end Terms

/-! ## Trimming -/

section Trimming

variable (space : α → Bool)

/-- A sequence of white space. -/
def Blank (l : List α) : Prop := ∀ x ∈ l, space x = true

/-- A sequence without white space at its ends. -/
structure Trimmed (l : List α) : Prop where
  head : ∃ c tail, l = c :: tail ∧ space c = false
  last : ∃ front c, l = front ++ [c] ∧ space c = false

/-- Remove the white space at both ends. -/
def trim (l : List α) : List α := (l.dropWhile space).rdropWhile space

variable {space}

/-- A trimmed list is not empty. -/
theorem Trimmed.ne_nil {l : List α} (h : Trimmed space l) : l ≠ [] := by
  obtain ⟨c, tail, rfl, -⟩ := h.head
  exact List.cons_ne_nil c tail

/-- The empty list is blank. -/
theorem Blank.nil : Blank space ([] : List α) := fun _ hx => nomatch hx

/-- Two blank lists are blank together. -/
theorem Blank.append {a b : List α} (ha : Blank space a) (hb : Blank space b) :
    Blank space (a ++ b) := by
  intro x hx
  rcases List.mem_append.mp hx with h | h
  · exact ha x h
  · exact hb x h

/-- A blank front is dropped. -/
theorem Blank.dropWhile_append {a : List α} (ha : Blank space a) (l : List α) :
    (a ++ l).dropWhile space = l.dropWhile space :=
  List.dropWhile_append_of_pos ha

/-- A blank back is dropped. -/
theorem Blank.rdropWhile_append {b : List α} (hb : Blank space b) (l : List α) :
    (l ++ b).rdropWhile space = l.rdropWhile space := by
  unfold List.rdropWhile
  rw [List.reverse_append, List.dropWhile_append_of_pos fun x hx => hb x (List.mem_reverse.mp hx)]

/-- Nothing is dropped in front of a trimmed list. -/
theorem Trimmed.dropWhile_append {m : List α} (hm : Trimmed space m) (b : List α) :
    (m ++ b).dropWhile space = m ++ b := by
  obtain ⟨c, tail, rfl, hc⟩ := hm.head
  simp [hc]

/-- Nothing is dropped behind a trimmed list. -/
theorem Trimmed.rdropWhile_append {m : List α} (hm : Trimmed space m) (a : List α) :
    (a ++ m).rdropWhile space = a ++ m := by
  obtain ⟨front, c, rfl, hc⟩ := hm.last
  rw [← List.append_assoc, List.rdropWhile_concat_neg _ _ _ (by simp [hc])]

variable (space) in
private theorem blank_or_head (l : List α) :
    Blank space l ∨ ∃ a c rest, l = a ++ c :: rest ∧ Blank space a ∧ space c = false := by
  induction l with
  | nil => exact .inl Blank.nil
  | cons c rest ih =>
    cases hc : space c with
    | false => exact .inr ⟨[], c, rest, rfl, Blank.nil, hc⟩
    | true =>
      have hsingle : Blank space [c] := fun x hx => by rwa [List.mem_singleton.mp hx]
      rcases ih with hrest | ⟨a, d, tail, rfl, ha, hd⟩
      · exact .inl (hsingle.append hrest)
      · exact .inr ⟨c :: a, d, tail, rfl, hsingle.append ha, hd⟩

variable (space) in
private theorem blank_or_last (l : List α) :
    Blank space l ∨ ∃ front c b, l = front ++ [c] ++ b ∧ space c = false ∧ Blank space b := by
  rcases blank_or_head space l.reverse with hl | ⟨b, c, front, hl, hb, hc⟩
  · exact .inl fun x hx => hl x (List.mem_reverse.mpr hx)
  · refine .inr ⟨front.reverse, c, b.reverse, ?_, hc, fun x hx => hb x (List.mem_reverse.mp hx)⟩
    rw [← List.reverse_reverse l, hl]
    simp

variable (space) in
/-- A sequence is white space, or it has a trimmed middle between two margins. -/
theorem blank_or_middle (l : List α) :
    Blank space l ∨
      ∃ a m b, l = a ++ m ++ b ∧ Blank space a ∧ Trimmed space m ∧ Blank space b := by
  rcases blank_or_head space l with hl | ⟨a, c, rest, rfl, ha, hc⟩
  · exact .inl hl
  rcases blank_or_last space (c :: rest) with hblank | ⟨front, d, b, hrest, hd, hb⟩
  · exact absurd (hblank c (by simp)) (by simp [hc])
  refine .inr ⟨a, front ++ [d], b, by simp [hrest], ha, ⟨?_, front, d, rfl, hd⟩, hb⟩
  cases front with
  | nil => exact ⟨d, [], rfl, hd⟩
  | cons e front =>
    rw [List.cons_append, List.cons_append] at hrest
    obtain ⟨rfl, -⟩ := List.cons.inj hrest
    exact ⟨c, front ++ [d], rfl, hc⟩

/-- A blank list is trimmed away. -/
theorem Blank.trim_eq {l : List α} (h : Blank space l) : trim space l = [] := by
  rw [trim, List.dropWhile_eq_nil_iff.mpr h, List.rdropWhile_nil]

/-- Trimming leaves the middle. -/
theorem Trimmed.trim_eq {a m b : List α} (hm : Trimmed space m) (ha : Blank space a)
    (hb : Blank space b) : trim space (a ++ m ++ b) = m := by
  rw [trim, List.append_assoc, ha.dropWhile_append, hm.dropWhile_append, hb.rdropWhile_append]
  exact hm.rdropWhile_append []

/-- Nothing is to be trimmed. -/
theorem Trimmed.trim_self {m : List α} (hm : Trimmed space m) : trim space m = m := by
  simpa using hm.trim_eq Blank.nil Blank.nil

/-- Only a blank list is trimmed away. -/
theorem trim_eq_nil_iff {l : List α} : trim space l = [] ↔ Blank space l := by
  constructor
  · intro hnil
    rcases blank_or_middle space l with hl | ⟨a, m, b, rfl, ha, hm, hb⟩
    · exact hl
    · exact absurd ((hm.trim_eq ha hb).symm.trans hnil) hm.ne_nil
  · exact Blank.trim_eq

/-- A sequence that is trimmed stays so if fewer elements count as white space. -/
theorem Trimmed.mono {space' : α → Bool} {l : List α} (h : Trimmed space l)
    (hspace : ∀ c, space c = false → space' c = false) : Trimmed space' l := by
  obtain ⟨c, tail, hhead, hc⟩ := h.head
  obtain ⟨front, d, hlast, hd⟩ := h.last
  exact ⟨⟨c, tail, hhead, hspace c hc⟩, ⟨front, d, hlast, hspace d hd⟩⟩

/-- A trimmed sequence is nothing or has no white space at its ends. -/
theorem trim_cases (l : List α) : trim space l = [] ∨ Trimmed space (trim space l) := by
  rcases blank_or_middle space l with hl | ⟨a, m, b, rfl, ha, hm, hb⟩
  · exact .inl hl.trim_eq
  · rw [hm.trim_eq ha hb]
    exact .inr hm

/-- Trimming twice trims once. -/
theorem trim_trim (space : α → Bool) (l : List α) : trim space (trim space l) = trim space l := by
  rcases @trim_cases _ space l with h | h
  · rw [h]
    rfl
  · exact h.trim_self

/-- Trimmed ends make a trimmed list. -/
theorem Trimmed.append {m n : List α} (hm : Trimmed space m) (g : List α)
    (hn : Trimmed space n) : Trimmed space (m ++ g ++ n) := by
  obtain ⟨c, tail, rfl, hc⟩ := hm.head
  obtain ⟨front, d, rfl, hd⟩ := hn.last
  exact ⟨⟨c, tail ++ g ++ (front ++ [d]), rfl, hc⟩, c :: tail ++ g ++ front, d, by simp, hd⟩

/-- Trimming depends on which of the elements are white space. -/
theorem trim_congr {space' : α → Bool} {l : List α} (h : ∀ c ∈ l, space c = space' c) :
    trim space l = trim space' l := by
  rcases blank_or_middle space l with hl | ⟨a, m, b, rfl, ha, hm, hb⟩
  · have hl' : Blank space' l := fun c hc => (h c hc).symm.trans (hl c hc)
    rw [hl.trim_eq, hl'.trim_eq]
  · obtain ⟨c, tail, hhead, hc⟩ := hm.head
    obtain ⟨front, d, hlast, hd⟩ := hm.last
    have ha' : Blank space' a := fun c hc => (h c (by simp [hc])).symm.trans (ha c hc)
    have hb' : Blank space' b := fun c hc => (h c (by simp [hc])).symm.trans (hb c hc)
    have hm' : Trimmed space' m :=
      ⟨⟨c, tail, hhead, (h c (by simp [hhead])).symm.trans hc⟩,
        ⟨front, d, hlast, (h d (by simp [hlast])).symm.trans hd⟩⟩
    rw [hm.trim_eq ha hb, hm'.trim_eq ha' hb']

/-- Joined texts are trimmed if the texts are. -/
theorem Trimmed.intercalate (sep : List α) {texts : List (List α)} (hne : texts ≠ [])
    (h : ∀ text ∈ texts, Trimmed space text) : Trimmed space (sep.intercalate texts) := by
  induction texts with
  | nil => exact absurd rfl hne
  | cons text rest ih =>
    obtain ⟨htext, hrest⟩ := List.forall_mem_cons.mp h
    cases rest with
    | nil => rwa [List.intercalate_singleton]
    | cons text' rest =>
      rw [List.intercalate_cons_cons]
      exact htext.append sep (ih (List.cons_ne_nil _ _) hrest)

/-- Blanks in front of a list are trimmed away. -/
theorem Blank.trim_append_left {a : List α} (ha : Blank space a) (l : List α) :
    trim space (a ++ l) = trim space l := by
  rw [trim, ha.dropWhile_append]
  rfl

/-- Blanks behind a list are trimmed away. -/
theorem Blank.trim_append_right {b : List α} (hb : Blank space b) (l : List α) :
    trim space (l ++ b) = trim space l := by
  rcases blank_or_middle space l with hl | ⟨a, m, b', rfl, ha, hm, hb'⟩
  · rw [(hl.append hb).trim_eq, hl.trim_eq]
  · rw [List.append_assoc, hm.trim_eq ha (hb'.append hb), hm.trim_eq ha hb']

variable (space) in
/-- A sequence is what trimming leaves, between two margins. -/
theorem exists_margins (l : List α) :
    ∃ a b, Blank space a ∧ Blank space b ∧ l = a ++ trim space l ++ b := by
  rcases blank_or_middle space l with hl | ⟨a, m, b, rfl, ha, hm, hb⟩
  · exact ⟨l, [], hl, .nil, by simp [hl.trim_eq]⟩
  · exact ⟨a, b, ha, hb, by rw [hm.trim_eq ha hb]⟩

/-- White space is not visible. -/
theorem Blank.filter_eq {l : List α} (h : Blank space l) : (l.filter fun c => !space c) = [] :=
  List.filter_eq_nil_iff.mpr fun c hc => by simp [h c hc]

/-- Trimming takes no visible characters away. -/
theorem filter_trim {space' : α → Bool} (h : ∀ c, space c = true → space' c = true) (l : List α) :
    ((trim space l).filter fun c => !space' c) = l.filter fun c => !space' c := by
  obtain ⟨a, b, ha, hb, hl⟩ := exists_margins space l
  have hblank : ∀ {l : List α}, Blank space l → Blank space' l := fun hl c hc => h c (hl c hc)
  calc ((trim space l).filter fun c => !space' c)
      = (a ++ trim space l ++ b).filter fun c => !space' c := by
        rw [List.filter_append, List.filter_append, (hblank ha).filter_eq, (hblank hb).filter_eq,
          List.nil_append, List.append_nil]
    _ = l.filter fun c => !space' c := by rw [← hl]

/-- Two groups of joined texts. -/
theorem intercalate_append (sep : List α) {a b : List (List α)} (ha : a ≠ []) (hb : b ≠ []) :
    sep.intercalate (a ++ b) = sep.intercalate a ++ sep ++ sep.intercalate b := by
  induction a with
  | nil => exact absurd rfl ha
  | cons text rest ih =>
    by_cases hrest : rest = []
    · subst hrest
      rw [List.singleton_append, List.intercalate_cons_of_ne_nil hb, List.intercalate_singleton]
    · have hne : rest ++ b ≠ [] := List.append_ne_nil_of_left_ne_nil hrest b
      rw [List.cons_append, List.intercalate_cons_of_ne_nil hne, ih hrest,
        List.intercalate_cons_of_ne_nil hrest]
      simp only [List.append_assoc]

/-- What a joined text consists of. -/
theorem mem_intercalate {sep : List α} {texts : List (List α)} {c : α}
    (h : c ∈ sep.intercalate texts) : c ∈ sep ∨ ∃ text ∈ texts, c ∈ text := by
  induction texts with
  | nil => cases h
  | cons text rest ih =>
    by_cases hrest : rest = []
    · subst hrest
      rw [List.intercalate_singleton] at h
      exact .inr ⟨text, List.mem_cons_self, h⟩
    rw [List.intercalate_cons_of_ne_nil hrest, List.mem_append, List.mem_append] at h
    rcases h with (h | h) | h
    · exact .inr ⟨text, List.mem_cons_self, h⟩
    · exact .inl h
    · rcases ih h with h | ⟨text', hmem, hc⟩
      · exact .inl h
      · exact .inr ⟨text', List.mem_cons_of_mem _ hmem, hc⟩

/-- White space between joined texts is not visible. -/
theorem filter_intercalate {sep : List α} (hsep : Blank space sep) (texts : List (List α)) :
    ((sep.intercalate texts).filter fun c => !space c) =
      texts.flatten.filter fun c => !space c := by
  induction texts with
  | nil => simp
  | cons text rest ih =>
    cases rest with
    | nil => simp
    | cons text' rest =>
      rw [List.intercalate_cons_cons, List.filter_append, List.filter_append, hsep.filter_eq,
        List.append_nil, ih, ← List.filter_append]
      rfl

variable (space) in
/-- Trimming a sequence trims its two parts and leaves white space between them. -/
theorem trim_append (x y : List α) :
    ∃ g, Blank space g ∧ trim space (x ++ y) = trim space x ++ g ++ trim space y := by
  rcases blank_or_middle space x with hx | ⟨a, m, b, rfl, ha, hm, hb⟩
  · refine ⟨[], Blank.nil, ?_⟩
    rw [hx.trim_eq, hx.trim_append_left]
    rfl
  rcases blank_or_middle space y with hy | ⟨a', n, b', rfl, ha', hn, hb'⟩
  · refine ⟨[], Blank.nil, ?_⟩
    rw [hy.trim_eq, hy.trim_append_right]
    simp
  · refine ⟨b ++ a', hb.append ha', ?_⟩
    rw [hm.trim_eq ha hb, hn.trim_eq ha' hb',
      ← (hm.append (b ++ a') hn).trim_eq ha hb']
    simp only [List.append_assoc]

end Trimming

/-! ## Visible positions -/

section Positions

/-- Whether a character other than white space stands at a position. -/
def visible (space : α → Bool) (l : List α) (i : ℕ) : Bool := l[i]?.any fun c => !space c

variable {space : α → Bool}

/-- What a slice shows is what the list shows behind its start. -/
theorem visible_slice (l : List α) {start stop i : ℕ} (h : start + i < stop) :
    visible space (slice l start stop) i = visible space l (start + i) := by
  rw [visible, slice_getElem? l h]
  rfl

/-- What a list shows does not depend on what is behind it. -/
theorem visible_append_left {a : List α} (b : List α) {i : ℕ} (h : i < a.length) :
    visible space (a ++ b) i = visible space a i := by
  rw [visible, List.getElem?_append_left h]
  rfl

/-- What a list shows does not depend on what is in front of it. -/
theorem visible_append_right (a b : List α) (i : ℕ) :
    visible space (a ++ b) (a.length + i) = visible space b i := by
  rw [visible, List.getElem?_append_right (Nat.le_add_right _ _), Nat.add_sub_cancel_left]
  rfl

/-- What is shown lies within the list. -/
theorem visible_lt {l : List α} {i : ℕ} (h : visible space l i = true) : i < l.length := by
  by_contra hi
  rw [visible, List.getElem?_eq_none (by omega)] at h
  cases h

/-- A blank list shows nothing. -/
theorem Blank.visible_eq {l : List α} (h : Blank space l) (i : ℕ) : visible space l i = false := by
  unfold visible
  cases hi : l[i]? with
  | none => rfl
  | some c => simp [h c (List.mem_of_getElem? hi)]

/-- A trimmed list shows its first item. -/
theorem Trimmed.visible_first {l : List α} (h : Trimmed space l) : visible space l 0 = true := by
  obtain ⟨c, tail, rfl, hc⟩ := h.head
  simp [visible, hc]

/-- A trimmed list shows its last item. -/
theorem Trimmed.visible_last {l : List α} (h : Trimmed space l) :
    visible space l (l.length - 1) = true := by
  obtain ⟨front, c, rfl, hc⟩ := h.last
  simp [visible, hc]

variable (space) in
/-- Trimming the part of a sequence between two positions: there is nothing to see, or the
trimmed part begins and ends at visible positions and the margins are white space. -/
theorem slice_trim_cases (l : List α) {start stop : ℕ} (hle : start ≤ stop)
    (hstop : stop ≤ l.length) :
    (((slice l start stop).dropWhile space).length = 0 ∧
        ((slice l start stop).rdropWhile space).length = 0 ∧
        ∀ i, start ≤ i → i < stop → visible space l i = false) ∨
      ∃ p q, start ≤ p ∧ p < q ∧ q ≤ stop ∧
        ((slice l start stop).dropWhile space).length = stop - p ∧
        ((slice l start stop).rdropWhile space).length = q - start ∧
        Trimmed space (slice l p q) ∧ (∀ i, start ≤ i → i < p → visible space l i = false) ∧
        ∀ i, q ≤ i → i < stop → visible space l i = false := by
  have hpart : ∀ i, start ≤ i → i < stop →
      visible space l i = visible space (slice l start stop) (i - start) := by
    intro i hi hi'
    rw [visible_slice l (by omega), Nat.add_sub_cancel' hi]
  have hlength := slice_length l start hstop
  rcases blank_or_middle space (slice l start stop) with hblank | ⟨a, m, b, hslice, ha, hm, hb⟩
  · refine .inl ⟨?_, ?_, fun i hi hi' => ?_⟩
    · rw [List.dropWhile_eq_nil_iff.mpr hblank, List.length_nil]
    · rw [List.rdropWhile_eq_nil_iff.mpr hblank, List.length_nil]
    · rw [hpart i hi hi', hblank.visible_eq]
  · rw [hslice, List.length_append, List.length_append] at hlength
    have hpos := List.length_pos_of_ne_nil hm.ne_nil
    refine .inr ⟨start + a.length, start + a.length + m.length, by omega, by omega, by omega,
      ?_, ?_, ?_, fun i hi hi' => ?_, fun i hi hi' => ?_⟩
    · rw [hslice, List.append_assoc, ha.dropWhile_append, hm.dropWhile_append, List.length_append]
      omega
    · rw [hslice, hb.rdropWhile_append, hm.rdropWhile_append, List.length_append]
      omega
    · have hle' : start + (a.length + m.length) ≤ stop := by omega
      rw [Nat.add_assoc, ← slice_slice l hle', hslice, slice_middle]
      exact hm
    · rw [hpart i hi (by omega), hslice, List.append_assoc, visible_append_left _ (by omega),
        ha.visible_eq]
    · have hindex : i - start = (a ++ m).length + (i - (start + a.length + m.length)) := by
        rw [List.length_append]
        omega
      rw [hpart i (by omega) hi', hslice, hindex, visible_append_right, hb.visible_eq]

end Positions

/-! ## Layouts -/

/-- A sequence in which trimmed segments stand one after the other, with white space between
them and around them. -/
inductive LaidOut (space : α → Bool) : List (List α) → List α → Prop
  | nil {gap : List α} (hgap : Blank space gap) : LaidOut space [] gap
  | cons {gap segment : List α} {segments : List (List α)} {rest : List α}
      (hgap : Blank space gap) (hsegment : Trimmed space segment)
      (hrest : LaidOut space segments rest) :
      LaidOut space (segment :: segments) (gap ++ segment ++ rest)

/-- More white space in front of a layout. -/
theorem LaidOut.behind_gap {space : α → Bool} {segments : List (List α)} {l gap : List α}
    (h : LaidOut space segments l) (hgap : Blank space gap) :
    LaidOut space segments (gap ++ l) := by
  cases h with
  | nil hgap' => exact .nil (hgap.append hgap')
  | cons hgap' hsegment hrest =>
    rw [List.append_assoc, ← List.append_assoc gap, ← List.append_assoc (gap ++ _)]
    exact .cons (hgap.append hgap') hsegment hrest

end AssessmentPlatform.Library
