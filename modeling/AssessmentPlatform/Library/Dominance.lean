import Mathlib.Data.List.Perm.Subperm
import Mathlib.Order.Lattice

/-!
# Dominance

Two records of scores are compared on the names that both of them score. One dominates the other
if it is nowhere worse and somewhere better. As absent scores are skipped, the relation is not
transitive and may have cycles. All scores in a cycle of three that are never absent are equal, so
each of its steps is strict only on a name that the third record does not score.
-/

namespace AssessmentPlatform.Library

section Scores

variable {ι α : Type} [LinearOrder α] {f g h : ι → Option α}

/-- The first record is nowhere worse than the second one, and somewhere better. -/
structure Dominates (f g : ι → Option α) : Prop where
  le : ∀ i a b, f i = some a → g i = some b → b ≤ a
  lt : ∃ i a b, f i = some a ∧ g i = some b ∧ b < a

/-- Nothing dominates itself. -/
theorem Dominates.irrefl : ¬ Dominates f f := by
  intro hself
  obtain ⟨i, a, b, ha, hb, hlt⟩ := hself.lt
  have hequal : a = b := Option.some_inj.mp (ha.symm.trans hb)
  exact absurd hequal.symm hlt.ne

/-- Two options do not dominate each other. -/
theorem Dominates.asymm (hfg : Dominates f g) : ¬ Dominates g f := by
  intro hgf
  obtain ⟨i, a, b, ha, hb, hlt⟩ := hfg.lt
  exact absurd (hgf.le i b a hb ha) (not_le.mpr hlt)

/-- Scores that a cycle of three has everywhere are equal. -/
theorem Dominates.cycle_eq (hfg : Dominates f g) (hgh : Dominates g h) (hhf : Dominates h f)
    {i : ι} {a b c : α} (ha : f i = some a) (hb : g i = some b) (hc : h i = some c) :
    a = b ∧ b = c := by
  have hba := hfg.le i a b ha hb
  have hcb := hgh.le i b c hb hc
  have hac := hhf.le i c a hc ha
  exact ⟨le_antisymm (hac.trans hcb) hba, le_antisymm (hba.trans hac) hcb⟩

/-- A step of a cycle of three is strict on a name that the third record does not score. -/
theorem Dominates.cycle_absent (hfg : Dominates f g) (hgh : Dominates g h)
    (hhf : Dominates h f) : ∃ i, f i ≠ none ∧ g i ≠ none ∧ h i = none := by
  obtain ⟨i, a, b, ha, hb, hlt⟩ := hfg.lt
  refine ⟨i, by simp [ha], by simp [hb], ?_⟩
  cases hc : h i with
  | none => rfl
  | some c => exact absurd (hfg.cycle_eq hgh hhf ha hb hc).1.symm hlt.ne

end Scores

/-- Among at most three items, a relation without cycles leaves one item undominated. -/
theorem exists_undominated {β : Type} {r : β → β → Prop} {l : List β} (hnonempty : l ≠ [])
    (hlength : l.length ≤ 3) (hirrefl : ∀ x ∈ l, ¬ r x x)
    (hasymm : ∀ x ∈ l, ∀ y ∈ l, r x y → ¬ r y x)
    (hcycle : ∀ x ∈ l, ∀ y ∈ l, ∀ z ∈ l, r x y → r y z → ¬ r z x) :
    ∃ x ∈ l, ∀ y ∈ l, ¬ r y x := by
  by_contra hall
  push Not at hall
  obtain ⟨a, ha⟩ := List.exists_mem_of_ne_nil l hnonempty
  -- Going upwards from any item meets four different ones.
  obtain ⟨b, hb, hba⟩ := hall a ha
  obtain ⟨c, hc, hcb⟩ := hall b hb
  obtain ⟨d, hd, hdc⟩ := hall c hc
  have hne : ∀ x ∈ l, ∀ y ∈ l, r x y → y ≠ x := by
    rintro x hx y - hxy rfl
    exact hirrefl y hx hxy
  have hac : a ≠ c := by
    rintro rfl
    exact hasymm b hb a ha hba hcb
  have hbd : b ≠ d := by
    rintro rfl
    exact hasymm c hc b hb hcb hdc
  have had : a ≠ d := by
    rintro rfl
    exact hcycle a ha c hc b hb hdc hcb hba
  have hnodup : [a, b, c, d].Nodup := by
    simp [hne b hb a ha hba, hne c hc b hb hcb, hne d hd c hc hdc, hac, hbd, had]
  have hsub : [a, b, c, d] ⊆ l := by
    simp [ha, hb, hc, hd]
  have hfour := (List.subperm_of_subset hnodup hsub).length_le
  simp only [List.length_cons, List.length_nil] at hfour
  omega

end AssessmentPlatform.Library
