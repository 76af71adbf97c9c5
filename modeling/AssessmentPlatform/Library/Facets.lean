import AssessmentPlatform.Library.Keyed
import Mathlib.Algebra.BigOperators.Group.List.Lemmas
import Mathlib.Algebra.GroupWithZero.Nat
import Mathlib.Data.List.Count

/-!
# Pages and facets

A page is a window of a list, and a facet counts the items of a list by a key. Consecutive pages
make up the list. Counts of one list add up when the predicates split it item by item.
-/

namespace AssessmentPlatform.Library

variable {α κ : Type}

/-! ## Pages -/

/-- The window of at most `limit` items from `offset` on. -/
def page (limit offset : ℕ) (l : List α) : List α := (l.drop offset).take limit

/-- The first pages of one size make up the beginning of the list. -/
theorem flatMap_page (limit : ℕ) (l : List α) (n : ℕ) :
    (List.range n).flatMap (fun i => page limit (i * limit) l) = l.take (n * limit) := by
  induction n with
  | zero => simp
  | succ n ih =>
    rw [List.range_succ, List.flatMap_append, ih, List.flatMap_singleton, Nat.succ_mul]
    exact List.take_add.symm

/-- Enough pages make up the whole list. -/
theorem flatMap_page_eq {limit n : ℕ} {l : List α} (h : l.length ≤ n * limit) :
    (List.range n).flatMap (fun i => page limit (i * limit) l) = l := by
  rw [flatMap_page, List.take_of_length_le h]

/-- A page is a part of the list, in its order. -/
theorem page_sublist (limit offset : ℕ) (l : List α) : (page limit offset l).Sublist l :=
  (List.take_sublist _ _).trans (List.drop_sublist _ _)

/-! ## Facets -/

variable [DecidableEq κ]

/-- The number of items under each key that occurs. -/
def tally (l : List κ) : List (κ × ℕ) := l.dedup.map fun k => (k, l.count k)

/-- The count under a key, which is zero for a key that does not occur. -/
def countUnder (k : κ) (facet : List (κ × ℕ)) : ℕ :=
  ((getBy Prod.fst k facet).map Prod.snd).getD 0

/-- The tally has each value once. -/
theorem map_fst_tally (l : List κ) : (tally l).map Prod.fst = l.dedup := by
  simp [tally, Function.comp_def]

/-- A value is counted as often as it occurs. -/
theorem countUnder_tally (k : κ) (l : List κ) :
    countUnder k (tally l) = l.countP fun k' => decide (k' = k) := by
  have hcount : l.count k = l.countP fun k' => decide (k' = k) := by
    rw [List.count_eq_countP]
    exact List.countP_congr fun k' _ => by simp
  rw [← hcount]
  unfold countUnder
  cases hfound : getBy Prod.fst k (tally l) with
  | none =>
    rw [getBy_eq_none_iff, map_fst_tally, List.mem_dedup] at hfound
    exact (List.count_eq_zero_of_not_mem hfound).symm
  | some entry =>
    obtain ⟨hentry, hkey⟩ := getBy_mem hfound
    obtain ⟨k', -, rfl⟩ := List.mem_map.mp hentry
    dsimp only at hkey
    rw [← hkey]
    rfl

/-- The counts of a facet add up to the number of items. -/
theorem sum_tally (l : List κ) : ((tally l).map Prod.snd).sum = l.length := by
  rw [tally, List.map_map]
  exact List.sum_map_count_dedup_eq_length l

/-! ## Counts -/

section Counts

variable {β : Type} {l : List β} (p : β → Bool) (ps : List (β → Bool))

/-- One more item is counted under the values that it satisfies. -/
theorem sum_map_countP_cons (b : β) (l : List β) :
    (ps.map fun q => (b :: l).countP q).sum =
      (ps.map fun q => (q b).toNat).sum + (ps.map fun q => l.countP q).sum := by
  induction ps with
  | nil => rfl
  | cons q ps ih =>
    have hcons : (b :: l).countP q = (q b).toNat + l.countP q := by
      rw [List.countP_cons]
      cases q b <;> simp [Nat.add_comm]
    simp only [List.map_cons, List.sum_cons]
    rw [ih, hcons]
    omega

/-- Predicates that split another one item by item split its count. -/
theorem countP_eq_sum (h : ∀ b ∈ l, (p b).toNat = (ps.map fun q => (q b).toNat).sum) :
    l.countP p = (ps.map fun q => l.countP q).sum := by
  induction l with
  | nil => simp
  | cons b l ih =>
    have hb := h b List.mem_cons_self
    have hl := ih fun b' hb' => h b' (List.mem_cons_of_mem b hb')
    have hcons : (b :: l).countP p = (p b).toNat + l.countP p := by
      rw [List.countP_cons]
      cases p b <;> simp [Nat.add_comm]
    rw [sum_map_countP_cons ps, hcons, hb, hl]

/-- Predicates that exclude one another within another one have at most its count. -/
theorem sum_countP_le (h : ∀ b ∈ l, (ps.map fun q => (q b).toNat).sum ≤ (p b).toNat) :
    (ps.map fun q => l.countP q).sum ≤ l.countP p := by
  induction l with
  | nil => simp
  | cons b l ih =>
    have hb := h b List.mem_cons_self
    have hl := ih fun b' hb' => h b' (List.mem_cons_of_mem b hb')
    have hcons : (b :: l).countP p = (p b).toNat + l.countP p := by
      rw [List.countP_cons]
      cases p b <;> simp [Nat.add_comm]
    rw [sum_map_countP_cons ps, hcons]
    omega

end Counts

/-! ## Columns of keyed entries -/

section Columns

variable {β : Type} {key : α → κ} {f : α → Option β} {keyOf : β → κ} {l : List α}

omit [DecidableEq κ] in
/-- A column that is filed under the keys of the entries has a part of them. -/
theorem map_filterMap_sublist (h : ∀ a ∈ l, ∀ b ∈ f a, keyOf b = key a) :
    ((l.filterMap f).map keyOf).Sublist (l.map key) := by
  induction l with
  | nil => exact .slnil
  | cons a l ih =>
    have hrest := ih fun a' ha' => h a' (List.mem_cons_of_mem a ha')
    rw [List.map_cons]
    cases hfa : f a with
    | none =>
      rw [List.filterMap_cons_none hfa]
      exact hrest.cons _
    | some b =>
      rw [List.filterMap_cons_some hfa, List.map_cons, h a List.mem_cons_self b hfa]
      exact hrest.cons_cons _

/-- A column is searched under a key as the entries are. -/
theorem getBy_filterMap (h : ∀ a ∈ l, ∀ b ∈ f a, keyOf b = key a) (hnodup : (l.map key).Nodup)
    (k : κ) : getBy keyOf k (l.filterMap f) = (getBy key k l).bind f := by
  induction l with
  | nil => rfl
  | cons a l ih =>
    rw [List.map_cons, List.nodup_cons] at hnodup
    have hsub : ∀ a' ∈ l, ∀ b ∈ f a', keyOf b = key a' :=
      fun a' ha' => h a' (List.mem_cons_of_mem a ha')
    have hrest := ih hsub hnodup.2
    by_cases hkey : key a = k
    · have hfound : getBy key k (a :: l) = some a := List.find?_cons_of_pos (by simpa using hkey)
      rw [hfound]
      cases hfa : f a with
      | none =>
        rw [List.filterMap_cons_none hfa]
        have hnone : getBy keyOf k (l.filterMap f) = none := by
          refine getBy_eq_none_iff.mpr fun hmem => hnodup.1 ?_
          rw [hkey]
          exact (map_filterMap_sublist hsub).subset hmem
        exact hnone.trans hfa.symm
      | some b =>
        rw [List.filterMap_cons_some hfa]
        have hb : keyOf b = k := (h a List.mem_cons_self b hfa).trans hkey
        exact (List.find?_cons_of_pos (by simpa using hb)).trans hfa.symm
    · have hskip : getBy key k (a :: l) = getBy key k l :=
        List.find?_cons_of_neg (by simpa using hkey)
      rw [hskip, ← hrest]
      cases hfa : f a with
      | none => rw [List.filterMap_cons_none hfa]
      | some b =>
        rw [List.filterMap_cons_some hfa]
        have hb : keyOf b ≠ k := fun hb => hkey ((h a List.mem_cons_self b hfa).symm.trans hb)
        exact List.find?_cons_of_neg (by simpa using hb)

end Columns

end AssessmentPlatform.Library
