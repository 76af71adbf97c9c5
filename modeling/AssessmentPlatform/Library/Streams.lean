import Mathlib.Tactic.Common

/-!
# Loops over streams

A loop takes steps until one of them has a result. A stream is read in pieces: a read may return
fewer elements than it is asked for, but it returns none only at the end of the stream.
-/

namespace AssessmentPlatform.Library

/-! ## Loops -/

section Loops

variable {σ ρ : Type} {step : σ → σ ⊕ ρ}

/-- The result of a loop that takes at most so many steps. -/
def loop (step : σ → σ ⊕ ρ) : ℕ → σ → Option ρ
  | 0, _ => none
  | n + 1, s =>
    match step s with
    | .inl s' => loop step n s'
    | .inr r => some r

/-- The states in which a loop takes a step. -/
inductive Visits (step : σ → σ ⊕ ρ) (init : σ) : σ → Prop
  | start : Visits step init init
  | next {s s' : σ} (h : Visits step init s) (hstep : step s = .inl s') : Visits step init s'

/-- An invariant of the steps holds in every state that is visited. -/
theorem Visits.invariant {inv : σ → Prop} {init s : σ} (h : Visits step init s) (hinit : inv init)
    (hstep : ∀ s s', inv s → step s = .inl s' → inv s') : inv s := by
  induction h with
  | start => exact hinit
  | next _ hs ih => exact hstep _ _ ih hs

/-- A loop with an invariant and a variant ends with a result. -/
theorem loop_ends {inv : σ → Prop} {Q : ρ → Prop} (variant : σ → ℕ)
    (hstep : ∀ s s', inv s → step s = .inl s' → inv s' ∧ variant s' < variant s)
    (hresult : ∀ s r, inv s → step s = .inr r → Q r) {s : σ} (hs : inv s) {n : ℕ}
    (hn : variant s < n) : ∃ r, loop step n s = some r ∧ Q r := by
  induction n generalizing s with
  | zero => cases hn
  | succ n ih =>
    unfold loop
    cases hnext : step s with
    | inl s' =>
      obtain ⟨hs', hlt⟩ := hstep s s' hs hnext
      exact ih hs' (by omega)
    | inr r => exact ⟨r, rfl, hresult s r hs hnext⟩

end Loops

/-! ## Streams -/

/-- A stream that is read in pieces, with the elements that are still to be read. -/
structure Source (α σ : Type) where
  read : σ → ℕ → List α × σ
  unread : σ → List α
  unread_eq : ∀ s n, unread s = (read s n).1 ++ unread (read s n).2
  length_le : ∀ s n, (read s n).1.length ≤ n
  ne_nil : ∀ s n, 0 < n → unread s ≠ [] → (read s n).1 ≠ []

/-- The stream of a list; the reads return at most so many elements as a pattern says. -/
def Source.fragments {α : Type} (pattern : ℕ → ℕ) : Source α (ℕ × List α) where
  read s n :=
    (s.2.take (min n (pattern s.1 + 1)), (s.1 + 1, s.2.drop (min n (pattern s.1 + 1))))
  unread := Prod.snd
  unread_eq s n := (List.take_append_drop _ s.2).symm
  length_le s n := by
    rw [List.length_take]
    omega
  ne_nil s n hn hs := by
    rw [← List.length_pos_iff] at hs ⊢
    rw [List.length_take]
    omega

/-- Nothing is read only at the end of a stream. -/
theorem Source.unread_eq_nil {α σ : Type} (source : Source α σ) {s : σ} {n : ℕ} (hn : 0 < n)
    (h : (source.read s n).1 = []) : source.unread s = [] := by
  by_contra hne
  exact source.ne_nil s n hn hne h

end AssessmentPlatform.Library
