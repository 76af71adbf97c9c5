import Mathlib.Tactic.Common

/-!
# Cutting a list before some of its items

Some items of a list open a new run. The list is cut before each of them, which gives a first run
that nothing has opened, and one run for each opening item. A run remembers what opened it.
-/

namespace AssessmentPlatform.Library

variable {α β : Type} {opens : α → Option β}

/-- The items between two cuts, under the value of the item that opened them. -/
structure Run (α β : Type) where
  opener : Option β := none
  items : List α := []

/-- The cut of the items that are left, after those of the current run. -/
def cutFrom (opens : α → Option β) (run : Run α β) : List α → List (Run α β)
  | [] => [run]
  | x :: rest =>
    match opens x with
    | some b => run :: cutFrom opens { opener := some b, items := [x] } rest
    | none => cutFrom opens { run with items := run.items ++ [x] } rest

/-- The runs of a list. -/
def cut (opens : α → Option β) (l : List α) : List (Run α β) := cutFrom opens {} l

/-- An opening item begins a run. -/
theorem cutFrom_cons_some {run : Run α β} {x : α} {b : β} (h : opens x = some b) (rest : List α) :
    cutFrom opens run (x :: rest) =
      run :: cutFrom opens { opener := some b, items := [x] } rest := by
  rw [cutFrom, h]

/-- Any other item continues the run. -/
theorem cutFrom_cons_none {run : Run α β} {x : α} (h : opens x = none) (rest : List α) :
    cutFrom opens run (x :: rest) =
      cutFrom opens { run with items := run.items ++ [x] } rest := by
  rw [cutFrom, h]

/-- A run starts with the item that opened it, and no later item opens another one. -/
structure Run.Proper (opens : α → Option β) (run : Run α β) : Prop where
  unopened : run.opener = none → ∀ x ∈ run.items, opens x = none
  opened : ∀ b ∈ run.opener, ∃ x rest, run.items = x :: rest ∧ opens x = some b ∧
    ∀ y ∈ rest, opens y = none

/-- The runs make up the list, the first of them is not opened, the others are opened by the opening
items of the list in their order, and no run goes on behind an opening item. -/
structure Cuts (opens : α → Option β) (l : List α) (runs : List (Run α β)) : Prop where
  items_eq : runs.flatMap Run.items = l
  openers_eq : runs.map Run.opener = none :: (l.filterMap opens).map some
  proper : ∀ run ∈ runs, run.Proper opens

/-- The empty run is proper. -/
theorem Run.Proper.empty (opens : α → Option β) : ({} : Run α β).Proper opens :=
  ⟨fun _ => List.forall_mem_nil _, nofun⟩

/-- The run of an opening item is proper. -/
theorem Run.Proper.single {x : α} {b : β} (h : opens x = some b) :
    ({ opener := some b, items := [x] } : Run α β).Proper opens := by
  refine ⟨nofun, fun b' hb => ⟨x, [], rfl, ?_, List.forall_mem_nil _⟩⟩
  cases hb
  exact h

/-- A run grows by items that do not open. -/
theorem Run.Proper.concat {run : Run α β} (h : run.Proper opens) {x : α} (hx : opens x = none) :
    ({ run with items := run.items ++ [x] } : Run α β).Proper opens := by
  refine ⟨fun hnone y hy => ?_, fun b hb => ?_⟩
  · rcases List.mem_append.mp hy with hy | hy
    · exact h.unopened hnone y hy
    · rwa [List.mem_singleton.mp hy]
  · obtain ⟨first, rest, hitems, hfirst, hrest⟩ := h.opened b hb
    refine ⟨first, rest ++ [x], by rw [hitems, List.cons_append], hfirst, fun y hy => ?_⟩
    rcases List.mem_append.mp hy with hy | hy
    · exact hrest y hy
    · rwa [List.mem_singleton.mp hy]

/-- The runs hold the items in their order. -/
theorem cutFrom_items (run : Run α β) (l : List α) :
    (cutFrom opens run l).flatMap Run.items = run.items ++ l := by
  induction l generalizing run with
  | nil => simp [cutFrom]
  | cons x rest ih =>
    cases hx : opens x with
    | some b =>
      rw [cutFrom_cons_some hx, List.flatMap_cons, ih]
      rfl
    | none =>
      rw [cutFrom_cons_none hx, ih, List.append_assoc]
      rfl

/-- The runs are opened by the opening items in their order. -/
theorem cutFrom_openers (run : Run α β) (l : List α) :
    (cutFrom opens run l).map Run.opener = run.opener :: (l.filterMap opens).map some := by
  induction l generalizing run with
  | nil => rfl
  | cons x rest ih =>
    cases hx : opens x with
    | some b =>
      rw [cutFrom_cons_some hx, List.map_cons, ih, List.filterMap_cons_some hx, List.map_cons]
    | none => rw [cutFrom_cons_none hx, ih, List.filterMap_cons_none hx]

/-- All runs are proper. -/
theorem cutFrom_proper {run : Run α β} (hrun : run.Proper opens) (l : List α) :
    ∀ r ∈ cutFrom opens run l, r.Proper opens := by
  induction l generalizing run with
  | nil =>
    intro r hr
    rwa [List.mem_singleton.mp hr]
  | cons x rest ih =>
    cases hx : opens x with
    | some b =>
      rw [cutFrom_cons_some hx]
      exact List.forall_mem_cons.mpr ⟨hrun, ih (.single hx)⟩
    | none =>
      rw [cutFrom_cons_none hx]
      exact ih (hrun.concat hx)

/-- The cut is one. -/
theorem cuts_cut (opens : α → Option β) (l : List α) : Cuts opens l (cut opens l) where
  items_eq := cutFrom_items {} l
  openers_eq := cutFrom_openers {} l
  proper := cutFrom_proper (.empty opens) l

/-- There is one run more than opening items. -/
theorem Cuts.length_eq {l : List α} {runs : List (Run α β)} (h : Cuts opens l runs) :
    runs.length = (l.filterMap opens).length + 1 := by
  rw [← List.length_map Run.opener, h.openers_eq, List.length_cons, List.length_map]

end AssessmentPlatform.Library
