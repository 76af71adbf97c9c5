import AssessmentPlatform.Library.Program

/-!
# Two runs of a program

Two programs that are run from related states, such that either both return related values or both
raise the same exception, and the states that they leave are related again. With a relation that
hides a part of the state this says that the hidden part does not influence what is observed.
-/

namespace AssessmentPlatform.Library

namespace Prog

variable {σ ε α α' β β' : Type} {R : σ → σ → Prop} {V : α → α' → Prop} {W : β → β' → Prop}

/-- The outcomes of two runs are related. -/
def OutcomesRelated (R : σ → σ → Prop) (V : α → α' → Prop) :
    Except ε α × σ → Except ε α' × σ → Prop
  | (.ok a, s), (.ok a', s') => V a a' ∧ R s s'
  | (.error e, s), (.error e', s') => e = e' ∧ R s s'
  | _, _ => False

/-- From related states the two programs have related outcomes. -/
def Related (R : σ → σ → Prop) (V : α → α' → Prop) (x : Prog σ ε α) (x' : Prog σ ε α') : Prop :=
  ∀ s s', R s s' → OutcomesRelated R V (exec x s) (exec x' s')

/-- Related values are related programs. -/
theorem related_pure {a : α} {a' : α'} (h : V a a') :
    Related R V (pure a : Prog σ ε α) (pure a') :=
  fun _ _ hs => ⟨h, hs⟩

/-- A failure is related to itself. -/
theorem related_throw {e : ε} : Related R V (throw e : Prog σ ε α) (throw e) :=
  fun _ _ hs => ⟨rfl, hs⟩

/-- Looks at related states are related. -/
theorem related_get : Related R R (get : Prog σ ε σ) get := fun _ _ hs => ⟨hs, hs⟩

/-- Changes that keep states related are related. -/
theorem related_modify {f : σ → σ} (h : ∀ s s', R s s' → R (f s) (f s')) :
    Related R (· = ·) (modify f : Prog σ ε PUnit) (modify f) :=
  fun s s' hs => ⟨rfl, h s s' hs⟩

/-- The relation of the values may be weakened. -/
theorem Related.mono {V' : α → α' → Prop} {x : Prog σ ε α} {x' : Prog σ ε α'}
    (h : Related R V x x') (hV : ∀ a a', V a a' → V' a a') : Related R V' x x' := by
  intro s s' hs
  have hx := h s s' hs
  generalize exec x s = r at hx ⊢
  generalize exec x' s' = r' at hx ⊢
  rcases r with ⟨e | a, t⟩ <;> rcases r' with ⟨e' | a', t'⟩
  · exact hx
  · exact hx
  · exact hx
  · exact ⟨hV a a' hx.1, hx.2⟩

/-- Sequencing: related first parts are continued by programs that are related for all related
values. -/
theorem Related.bind {x : Prog σ ε α} {x' : Prog σ ε α'} {f : α → Prog σ ε β}
    {f' : α' → Prog σ ε β'} (hx : Related R V x x')
    (hf : ∀ a a', V a a' → Related R W (f a) (f' a')) : Related R W (x >>= f) (x' >>= f') := by
  intro s s' hs
  have h := hx s s' hs
  rw [exec_bind, exec_bind]
  generalize exec x s = r at h ⊢
  generalize exec x' s' = r' at h ⊢
  rcases r with ⟨e | a, t⟩ <;> rcases r' with ⟨e' | a', t'⟩
  · exact h
  · exact h.elim
  · exact h.elim
  · exact hf a a' h.1 t t' h.2

/-- A handler that is related to itself keeps the outcomes related. -/
theorem Related.tryCatch {x : Prog σ ε α} {x' : Prog σ ε α'} {g : ε → Prog σ ε α}
    {g' : ε → Prog σ ε α'} (hx : Related R V x x') (hg : ∀ e, Related R V (g e) (g' e)) :
    Related R V (tryCatch x g) (tryCatch x' g') := by
  intro s s' hs
  have h := hx s s' hs
  rw [exec_tryCatch, exec_tryCatch]
  generalize exec x s = r at h ⊢
  generalize exec x' s' = r' at h ⊢
  rcases r with ⟨e | a, t⟩ <;> rcases r' with ⟨e' | a', t'⟩
  · obtain ⟨rfl, ht⟩ := h
    exact hg e t t' ht
  · exact h.elim
  · exact h.elim
  · exact h

/-- Programs with equal values are observed alike. -/
theorem Related.outcome_eq {x x' : Prog σ ε α} (h : Related R (· = ·) x x') {s s' : σ}
    (hs : R s s') : (exec x s).1 = (exec x' s').1 := by
  have hx := h s s' hs
  generalize exec x s = r at hx ⊢
  generalize exec x' s' = r' at hx ⊢
  rcases r with ⟨e | a, t⟩ <;> rcases r' with ⟨e' | a', t'⟩
  · exact congrArg Except.error hx.1
  · exact hx.elim
  · exact hx.elim
  · exact congrArg Except.ok hx.1

end Prog

end AssessmentPlatform.Library
