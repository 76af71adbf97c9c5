import Mathlib.Data.List.Sort
import Mathlib.Data.Set.Basic
import Mathlib.Order.Defs.LinearOrder

/-!
# The first items of a set

A list that holds the first items of a set in some order, up to a limit. Sorting and cutting a
list computes it.
-/

namespace AssessmentPlatform.Library

variable {α : Type}

/-- The list holds the first items of the set, in order, and all of them if there are no more than
the limit. -/
structure FirstBy (r : α → α → Prop) (limit : ℕ) (S : Set α) (l : List α) : Prop where
  sorted : l.Pairwise r
  nodup : l.Nodup
  sub : ∀ x ∈ l, x ∈ S
  length_le : l.length ≤ limit
  rest : ∀ x ∈ S, x ∉ l → l.length = limit ∧ ∀ y ∈ l, r y x

section First

variable {r : α → α → Prop} {limit : ℕ} {S T : Set α} {l l' : List α}

/-- The beginning of a sorted list. -/
theorem firstBy_take (hsorted : l.Pairwise r) (hnodup : l.Nodup) :
    FirstBy r limit {x | x ∈ l} (l.take limit) where
  sorted := hsorted.sublist (List.take_sublist _ _)
  nodup := hnodup.sublist (List.take_sublist _ _)
  sub _ hx := List.mem_of_mem_take hx
  length_le := List.length_take_le _ _
  rest x hx hnot := by
    have hdrop : x ∈ l.drop limit := by
      rw [Set.mem_ofPred_eq, ← List.take_append_drop limit l, List.mem_append] at hx
      exact hx.resolve_left hnot
    have hlt := List.length_pos_of_mem hdrop
    rw [List.length_drop] at hlt
    refine ⟨by rw [List.length_take]; omega, fun y hy => ?_⟩
    rw [← List.take_append_drop limit l, List.pairwise_append] at hsorted
    exact hsorted.2.2 y hy x hdrop

/-- Sorting and cutting a list. -/
theorem firstBy_sort [DecidableRel r] [Std.Total r] [IsTrans α r] (hnodup : l.Nodup) :
    FirstBy r limit {x | x ∈ l} ((l.insertionSort r).take limit) := by
  have hperm := List.perm_insertionSort r l
  have h : FirstBy r limit {x | x ∈ l.insertionSort r} ((l.insertionSort r).take limit) :=
    firstBy_take (List.pairwise_insertionSort r l) (hperm.nodup_iff.mpr hnodup)
  simpa only [hperm.mem_iff] using h

/-- The first ones of a set are those of an equal set. -/
theorem FirstBy.congr (h : FirstBy r limit S l) (hS : ∀ x, x ∈ S ↔ x ∈ T) :
    FirstBy r limit T l := by
  rwa [← Set.ext hS]

/-- All items are listed if they fit. -/
theorem FirstBy.mem_iff (h : FirstBy r limit S l) {all : List α} (hall : ∀ x ∈ S, x ∈ all)
    (hfit : all.length ≤ limit) {x : α} : x ∈ l ↔ x ∈ S := by
  refine ⟨h.sub x, fun hx => ?_⟩
  by_contra hnot
  obtain ⟨hlength, -⟩ := h.rest x hx hnot
  have hsub : x :: l ⊆ all := by
    intro y hy
    rcases List.mem_cons.mp hy with rfl | hy
    · exact hall _ hx
    · exact hall y (h.sub y hy)
  have hle := (List.subperm_of_subset (List.nodup_cons.mpr ⟨hnot, h.nodup⟩) hsub).length_le
  rw [List.length_cons] at hle
  omega

end First

/-! ## Two columns -/

section Columns

variable {κ ι : Type} [LinearOrder κ] [LinearOrder ι] (column : α → κ) (tie : α → ι)

/-- The order by one column, and by another one among equals. -/
def byThen (a b : α) : Prop := column a < column b ∨ column a = column b ∧ tie a ≤ tie b

instance : DecidableRel (byThen column tie) := fun _ _ => inferInstanceAs (Decidable (_ ∨ _))

instance : Std.Total (byThen column tie) where
  total a b := by
    unfold byThen
    rcases lt_trichotomy (column a) (column b) with h | h | h
    · exact .inl (.inl h)
    · exact (le_total (tie a) (tie b)).imp (fun ht => .inr ⟨h, ht⟩) fun ht => .inr ⟨h.symm, ht⟩
    · exact .inr (.inl h)

instance : IsTrans α (byThen column tie) where
  trans a b c := by
    unfold byThen
    rintro (hab | ⟨hab, ht⟩) (hbc | ⟨hbc, ht'⟩)
    · exact .inl (hab.trans hbc)
    · exact .inl (hbc ▸ hab)
    · exact .inl (hab ▸ hbc)
    · exact .inr ⟨hab.trans hbc, ht.trans ht'⟩

end Columns

end AssessmentPlatform.Library
