import Mathlib.Data.List.Forall2

/-!
# Ledgers

A system takes steps, and a ledger is read off its state. If each step leaves the ledger as it is
or appends one entry that it accounts for, then the entries of a whole run are accounted for by
distinct steps of the run, in the same order.
-/

namespace AssessmentPlatform.Library

section Ledger

variable {σ τ ε : Type} (perform : σ → τ → σ) (ledger : σ → List ε) (Accounts : τ → ε → Prop)

/-- A step keeps the ledger, or it appends an entry that it accounts for. -/
def Extends (s : σ) (step : τ) : Prop :=
  ledger (perform s step) = ledger s ∨
    ∃ entry, ledger (perform s step) = ledger s ++ [entry] ∧ Accounts step entry

/-- The entries that a run appends are accounted for by steps of the run, each by its own step and
in the order of the steps, if every step keeps an invariant under which it extends the ledger. -/
theorem ledger_accounted (Invariant : σ → Prop)
    (hstep : ∀ s step, Invariant s →
      Invariant (perform s step) ∧ Extends perform ledger Accounts s step)
    (steps : List τ) {s : σ} (hs : Invariant s) :
    ∃ entries, ledger (steps.foldl perform s) = ledger s ++ entries ∧
      List.SublistForall₂ (fun entry step => Accounts step entry) entries steps := by
  induction steps generalizing s with
  | nil => exact ⟨[], by simp, .nil⟩
  | cons step steps ih =>
    obtain ⟨hinvariant, hextends⟩ := hstep s step hs
    obtain ⟨entries, hledger, haccounts⟩ := ih hinvariant
    rw [List.foldl_cons, hledger]
    rcases hextends with hsame | ⟨entry, hentry, hstepAccounts⟩
    · rw [hsame]
      exact ⟨entries, rfl, .cons_right haccounts⟩
    · rw [hentry, List.append_assoc]
      exact ⟨entry :: entries, rfl, .cons hstepAccounts haccounts⟩

end Ledger

end AssessmentPlatform.Library
