import Mathlib.Data.List.Induction
import Mathlib.Logic.Function.Basic
import Mathlib.Tactic.Common

/-!
# Processes that take turns

Processes have a state of their own each and one that they share. In every step of a schedule one
of them goes on, and it changes its own state and the shared one. What a process keeps of its own is
safe as long as the steps of the others, which are only known through what they guarantee, do not
disturb it.
-/

namespace AssessmentPlatform.Library

variable {ι σ φ : Type}

/-- The shared state, and the own state of every process. -/
structure Turn (ι σ φ : Type) where
  shared : σ
  own : ι → φ

/-- A step of one process. -/
abbrev TurnStep (ι σ φ : Type) := ι → σ → φ → φ × σ

section Run

variable [DecidableEq ι] (step : TurnStep ι σ φ)

/-- One process goes on. -/
def takeTurn (s : Turn ι σ φ) (i : ι) : Turn ι σ φ where
  shared := (step i s.shared (s.own i)).2
  own := Function.update s.own i (step i s.shared (s.own i)).1

/-- The processes go on in the order of a schedule. -/
def takeTurns (s : Turn ι σ φ) (schedule : List ι) : Turn ι σ φ :=
  schedule.foldl (takeTurn step) s

/-- The last turn is taken last. -/
theorem takeTurns_concat (s : Turn ι σ φ) (schedule : List ι) (i : ι) :
    takeTurns step s (schedule ++ [i]) = takeTurn step (takeTurns step s schedule) i := by
  rw [takeTurns, List.foldl_append]
  rfl

/-- Turns are taken one after the other. -/
theorem takeTurns_append (s : Turn ι σ φ) (schedule later : List ι) :
    takeTurns step s (schedule ++ later) = takeTurns step (takeTurns step s schedule) later :=
  List.foldl_append

/-- In its turn a process takes its step. -/
theorem takeTurn_own_self (s : Turn ι σ φ) (i : ι) :
    (takeTurn step s i).own i = (step i s.shared (s.own i)).1 :=
  Function.update_self i _ s.own

/-- In a turn the other processes stay as they are. -/
theorem takeTurn_own_of_ne (s : Turn ι σ φ) {i j : ι} (h : j ≠ i) :
    (takeTurn step s i).own j = s.own j :=
  Function.update_of_ne h _ s.own

/-- A process that comes closer to its end with every turn has come as much closer as it has had
turns. -/
theorem takeTurns_rank {rank : φ → ℕ} (hrank : ∀ i s p, rank (step i s p).1 ≤ rank p - 1)
    (s : Turn ι σ φ) (schedule : List ι) (i : ι) :
    rank ((takeTurns step s schedule).own i) ≤ rank (s.own i) - schedule.count i := by
  induction schedule using List.reverseRecOn with
  | nil => exact Nat.le_refl _
  | append_singleton schedule j ih =>
    rw [takeTurns_concat, List.count_append, List.count_singleton]
    by_cases hj : i = j
    · subst hj
      rw [takeTurn_own_self]
      have hstep := hrank i (takeTurns step s schedule).shared ((takeTurns step s schedule).own i)
      simp only [beq_self_eq_true, if_true]
      omega
    · have hne : (j == i) = false := beq_false_of_ne (Ne.symm hj)
      rw [takeTurn_own_of_ne step _ hj, hne]
      exact ih

end Run

/-- The shared state is valid, and so is the own state of every process beside it. -/
structure Turn.Valid (common : σ → Prop) (private_ : ι → σ → φ → Prop) (s : Turn ι σ φ) : Prop where
  shared : common s.shared
  own : ∀ i, private_ i s.shared (s.own i)

/-- The steps of every process keep what is valid and guarantee something of the shared state under
which the others stay valid. -/
structure Undisturbed (step : TurnStep ι σ φ) (common : σ → Prop) (private_ : ι → σ → φ → Prop)
    (guarantee : ι → σ → σ → Prop) : Prop where
  keeps : ∀ i s p, common s → private_ i s p →
    common (step i s p).2 ∧ private_ i (step i s p).2 (step i s p).1 ∧
      guarantee i s (step i s p).2
  stable : ∀ i j s s' p, j ≠ i → common s → guarantee i s s' → private_ j s p → private_ j s' p

section Rules

variable [DecidableEq ι] {step : TurnStep ι σ φ} {common : σ → Prop}
  {private_ : ι → σ → φ → Prop} {guarantee : ι → σ → σ → Prop} {s : Turn ι σ φ}

/-- What is valid is so after the turn of any process. -/
theorem Turn.Valid.takeTurn (h : s.Valid common private_)
    (hsteps : Undisturbed step common private_ guarantee) (i : ι) :
    (takeTurn step s i).Valid common private_ := by
  obtain ⟨hcommon, hprivate, hguarantee⟩ := hsteps.keeps i s.shared (s.own i) h.shared (h.own i)
  refine ⟨hcommon, fun j => ?_⟩
  by_cases hj : j = i
  · subst hj
    rw [takeTurn_own_self]
    exact hprivate
  · rw [takeTurn_own_of_ne step s hj]
    exact hsteps.stable i j s.shared _ (s.own j) hj h.shared hguarantee (h.own j)

/-- What is valid in the beginning is so after every schedule. -/
theorem Turn.Valid.takeTurns (h : s.Valid common private_)
    (hsteps : Undisturbed step common private_ guarantee) (schedule : List ι) :
    (takeTurns step s schedule).Valid common private_ := by
  induction schedule using List.reverseRecOn with
  | nil => exact h
  | append_singleton schedule i ih =>
    rw [takeTurns_concat]
    exact ih.takeTurn hsteps i

/-- What a process has come to once, it keeps if its own steps keep it. -/
theorem Turn.Valid.takeTurns_own (h : s.Valid common private_)
    (hsteps : Undisturbed step common private_ guarantee) {i : ι} {C : φ → Prop}
    (hC : ∀ a p, common a → private_ i a p → C p → C (step i a p).1) (hown : C (s.own i))
    (schedule : List ι) : C ((Library.takeTurns step s schedule).own i) := by
  induction schedule using List.reverseRecOn with
  | nil => exact hown
  | append_singleton schedule j ih =>
    have hvalid := h.takeTurns hsteps schedule
    rw [takeTurns_concat]
    by_cases hj : i = j
    · subst hj
      rw [takeTurn_own_self]
      exact hC _ _ hvalid.shared (hvalid.own i) ih
    · rw [takeTurn_own_of_ne step _ hj]
      exact ih

/-- What every process guarantees relates the shared states of a run. -/
theorem Turn.Valid.takeTurns_related (h : s.Valid common private_)
    (hsteps : Undisturbed step common private_ guarantee) {R : σ → σ → Prop}
    (hrefl : ∀ a, R a a) (htrans : ∀ a b c, R a b → R b c → R a c)
    (hguarantee : ∀ i a b, guarantee i a b → R a b) (schedule : List ι) :
    R s.shared (Library.takeTurns step s schedule).shared := by
  induction schedule using List.reverseRecOn with
  | nil => exact hrefl _
  | append_singleton schedule i ih =>
    have hvalid := h.takeTurns hsteps schedule
    obtain ⟨-, -, hstep⟩ := hsteps.keeps i _ _ hvalid.shared (hvalid.own i)
    rw [takeTurns_concat]
    exact htrans _ _ _ ih (hguarantee i _ _ hstep)

end Rules

end AssessmentPlatform.Library
