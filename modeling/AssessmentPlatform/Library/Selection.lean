import AssessmentPlatform.Library.Keyed
import AssessmentPlatform.Library.Program
import Mathlib.Order.Lattice

/-!
# Selecting the best value of each key

A loop keeps, for each key, the best value it has met, and the keys in the order in which it met
them first. A value that is only as good as the one that is kept does not replace it, so what is
kept in the end is the first of the best values.
-/

namespace AssessmentPlatform.Library

variable {α β κ ρ : Type} [LinearOrder ρ]

/-- The values that are kept, and the order of their keys. -/
structure Selection (α κ : Type) where
  kept : List α := []
  order : List κ := []

/-- The selection after one more value. -/
def Selection.offer [DecidableEq κ] (key : α → κ) (rank : α → ρ) (s : Selection α κ) (x : α) :
    Selection α κ :=
  match getBy key (key x) s.kept with
  | none => { kept := putBy key x s.kept, order := s.order ++ [key x] }
  | some y => if rank y < rank x then { s with kept := putBy key x s.kept } else s

/-- The values under some keys. -/
def Selection.under [DecidableEq κ] (key : α → κ) (s : Selection α κ) (ks : List κ) : List α :=
  ks.filterMap fun k => getBy key k s.kept

/-- The first of the best values of its key. -/
def FirstBest (key : α → κ) (rank : α → ρ) (l : List α) (x : α) : Prop :=
  ∃ before after, l = before ++ x :: after ∧
    (∀ y ∈ before, key y = key x → rank y < rank x) ∧ ∀ y ∈ after, key y = key x → rank y ≤ rank x

section FirstBest

variable {key : α → κ} {rank : α → ρ} {l : List α} {x y : α}

/-- The first best item is one of the items. -/
theorem FirstBest.mem (h : FirstBest key rank l x) : x ∈ l := by
  obtain ⟨before, after, rfl, -⟩ := h
  simp

/-- The first best item is at least as good as the others under its key. -/
theorem FirstBest.le (h : FirstBest key rank l x) (hy : y ∈ l) (hkey : key y = key x) :
    rank y ≤ rank x := by
  obtain ⟨before, after, rfl, hbefore, hafter⟩ := h
  rcases List.mem_append.mp hy with hy | hy
  · exact (hbefore y hy hkey).le
  · rcases List.mem_cons.mp hy with rfl | hy
    · exact le_rfl
    · exact hafter y hy hkey

/-- A value that is not better does not count. -/
theorem FirstBest.concat (h : FirstBest key rank l x) (hy : key y = key x → rank y ≤ rank x) :
    FirstBest key rank (l ++ [y]) x := by
  obtain ⟨before, after, rfl, hbefore, hafter⟩ := h
  refine ⟨before, after ++ [y], by simp, hbefore, fun z hz hkey => ?_⟩
  rcases List.mem_append.mp hz with hz | hz
  · exact hafter z hz hkey
  · rw [List.mem_singleton.mp hz] at hkey ⊢
    exact hy hkey

/-- A value that is better than all others of its key is the first of the best ones. -/
theorem firstBest_last (h : ∀ y ∈ l, key y = key x → rank y < rank x) :
    FirstBest key rank (l ++ [x]) x :=
  ⟨l, [], rfl, h, fun _ hy => nomatch hy⟩

/-- The first best of some values that were made from others. -/
theorem FirstBest.of_filterMap {f : β → Option α} {items : List β}
    (h : FirstBest key rank (items.filterMap f) x) :
    ∃ before item after, items = before ++ item :: after ∧ f item = some x ∧
      (∀ b ∈ before, ∀ y ∈ f b, key y = key x → rank y < rank x) ∧
      ∀ b ∈ after, ∀ y ∈ f b, key y = key x → rank y ≤ rank x := by
  obtain ⟨before, after, hsplit, hbefore, hafter⟩ := h
  obtain ⟨front, back, rfl, hfront, hback⟩ := List.filterMap_eq_append_iff.mp hsplit
  obtain ⟨skipped, item, rest, rfl, hskipped, hitem, hrest⟩ := List.filterMap_eq_cons_iff.mp hback
  refine ⟨front ++ skipped, item, rest, by simp, hitem, fun b hb y hy => ?_, fun b hb y hy => ?_⟩
  · rcases List.mem_append.mp hb with hb | hb
    · exact hbefore y (hfront ▸ List.mem_filterMap.mpr ⟨b, hb, hy⟩)
    · rw [hskipped b hb] at hy
      cases hy
  · exact hafter y (hrest ▸ List.mem_filterMap.mpr ⟨b, hb, hy⟩)

end FirstBest

/-- What a selection from a list is: its keys are those of the list in the order of their first
occurrences, and every value is the first of the best ones of its key. -/
structure Selection.Selects [DecidableEq κ] (key : α → κ) (rank : α → ρ) (l : List α)
    (s : Selection α κ) : Prop where
  keys_eq : s.kept.map key = s.order
  order_eq : s.order = (distinctBy key l).map key
  firstBest : ∀ x ∈ s.kept, FirstBest key rank l x

section Selects

variable [DecidableEq κ] {key : α → κ} {rank : α → ρ} {l : List α} {s : Selection α κ} {x : α}

/-- The kept items have distinct keys. -/
theorem Selection.Selects.nodup (h : s.Selects key rank l) : (s.kept.map key).Nodup := by
  rw [h.keys_eq, h.order_eq]
  exact nodup_map_distinctBy l

/-- A value of a key that is present leaves the keys. -/
theorem map_putBy_known (hnodup : (l.map key).Nodup) (h : key x ∈ l.map key) :
    (putBy key x l).map key = l.map key := by
  rw [putBy_known hnodup h, List.map_map]
  refine List.map_congr_left fun y _ => ?_
  dsimp only [Function.comp]
  split
  · rename_i heq
    exact heq.symm
  · rfl

/-- An item under a known key adds no distinct item. -/
theorem distinctBy_concat_known (h : key x ∈ l.map key) :
    distinctBy key (l ++ [x]) = distinctBy key l := by
  rw [distinctBy_concat, setDefaultBy, if_pos (mem_map_distinctBy.mpr h)]

/-- One step of the loop. -/
theorem Selection.Selects.offer (h : s.Selects key rank l) (x : α) :
    (s.offer key rank x).Selects key rank (l ++ [x]) := by
  have hmem : key x ∈ s.kept.map key ↔ key x ∈ l.map key := by
    rw [h.keys_eq, h.order_eq, mem_map_distinctBy]
  unfold Selection.offer
  cases hfound : getBy key (key x) s.kept with
  | none =>
    have hnew := getBy_eq_none_iff.mp hfound
    have hother : ∀ y ∈ l, key y ≠ key x := fun y hy heq =>
      hnew (hmem.mpr (heq ▸ List.mem_map_of_mem hy))
    refine ⟨?_, ?_, fun y hy => ?_⟩
    · rw [putBy_new hnew, List.map_append, h.keys_eq]
      rfl
    · rw [distinctBy_concat, setDefaultBy,
        if_neg fun hknown => hnew (hmem.mpr (mem_map_distinctBy.mp hknown)), List.map_append,
        h.order_eq]
      rfl
    · rw [putBy_new hnew] at hy
      rcases List.mem_append.mp hy with hy | hy
      · exact (h.firstBest y hy).concat fun heq =>
          absurd heq.symm (hother y (h.firstBest y hy).mem)
      · rw [List.mem_singleton.mp hy]
        exact firstBest_last fun z hz heq => absurd heq (hother z hz)
  | some y =>
    obtain ⟨hy, hkey⟩ := getBy_mem hfound
    have hknown : key x ∈ s.kept.map key := hkey ▸ List.mem_map_of_mem hy
    have hdistinct : s.order = (distinctBy key (l ++ [x])).map key := by
      rw [distinctBy_concat_known (hmem.mp hknown), h.order_eq]
    dsimp only
    split
    · rename_i hbetter
      refine ⟨(map_putBy_known h.nodup hknown).trans h.keys_eq, hdistinct, fun z hz => ?_⟩
      rcases mem_putBy h.nodup hz with rfl | ⟨hz, hne⟩
      · exact firstBest_last fun w hw heq =>
          ((h.firstBest y hy).le hw (heq.trans hkey.symm)).trans_lt hbetter
      · exact (h.firstBest z hz).concat fun heq => absurd heq.symm hne
    · rename_i hworse
      refine ⟨h.keys_eq, hdistinct, fun z hz => (h.firstBest z hz).concat fun heq => ?_⟩
      have hsame : z = y := List.inj_on_of_nodup_map h.nodup hz hy (heq.symm.trans hkey.symm)
      rw [hsame]
      exact not_lt.mp hworse

variable (key rank) in
/-- The whole loop. -/
theorem selects_foldl (l : List α) :
    (l.foldl (Selection.offer key rank) {}).Selects key rank l := by
  induction l using List.reverseRecOn with
  | nil => exact ⟨rfl, rfl, fun _ hx => nomatch hx⟩
  | append_singleton l x ih =>
    rw [List.foldl_append]
    exact ih.offer x

/-- The values under the first keys are the first values. -/
theorem Selection.Selects.under_take (h : s.Selects key rank l) (n : ℕ) :
    s.under key (s.order.take n) = s.kept.take n := by
  have hfind : ∀ x ∈ s.kept.take n, getBy key (key x) s.kept = some x := by
    intro x hx
    obtain ⟨y, hy⟩ := getBy_isSome (List.mem_map_of_mem (f := key) (List.mem_of_mem_take hx))
    obtain ⟨hmem, hkey⟩ := getBy_mem hy
    rw [hy, List.inj_on_of_nodup_map h.nodup hmem (List.mem_of_mem_take hx) hkey]
  rw [← h.keys_eq, ← List.map_take, Selection.under, List.filterMap_map]
  calc (s.kept.take n).filterMap ((fun k => getBy key k s.kept) ∘ key)
      = (s.kept.take n).filterMap some := List.filterMap_congr hfind
    _ = s.kept.take n := List.filterMap_some

end Selects

/-- A loop that refuses some items, skips others and applies a pure step to the rest. If it returns,
no item was refused, and the steps are those of the items that were not skipped. -/
theorem foldlM_eq_ok {γ ε : Type} {step : β → α → Except ε β} {allows : α → Prop}
    {keep : α → Option γ} {pureStep : β → γ → β}
    (hstep : ∀ s a s', step s a = .ok s' → allows a ∧ s' = (keep a).elim s (pureStep s))
    {items : List α} {s s' : β} (h : items.foldlM step s = .ok s') :
    (∀ a ∈ items, allows a) ∧ s' = (items.filterMap keep).foldl pureStep s := by
  induction items generalizing s with
  | nil =>
    cases h
    exact ⟨List.forall_mem_nil _, rfl⟩
  | cons a items ih =>
    rw [List.foldlM_cons] at h
    obtain ⟨s₁, hfirst, hrest⟩ := except_bind_eq_ok.mp h
    obtain ⟨hallows, hnext⟩ := hstep s a s₁ hfirst
    obtain ⟨hall, rfl⟩ := ih hrest
    refine ⟨List.forall_mem_cons.mpr ⟨hallows, hall⟩, ?_⟩
    rw [hnext]
    cases hkeep : keep a with
    | none => rw [List.filterMap_cons_none hkeep, Option.elim_none]
    | some c => rw [List.filterMap_cons_some hkeep, Option.elim_some, List.foldl_cons]

/-- A loop whose steps all return returns. -/
theorem foldlM_returns {ε : Type} {step : β → α → Except ε β} {items : List α}
    (hstep : ∀ a ∈ items, ∀ s, ∃ s', step s a = .ok s') (s : β) :
    ∃ s', items.foldlM step s = .ok s' := by
  induction items generalizing s with
  | nil => exact ⟨s, rfl⟩
  | cons a items ih =>
    obtain ⟨hfirst, hrest⟩ := List.forall_mem_cons.mp hstep
    obtain ⟨s₁, hs₁⟩ := hfirst s
    rw [List.foldlM_cons, hs₁, except_ok_bind]
    exact ih hrest s₁

end AssessmentPlatform.Library
