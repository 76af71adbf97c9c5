import Mathlib.Data.List.Forall2
import Mathlib.Tactic.Common

/-!
# Programs with state and exceptions

A service method reads and writes a mutable state and may raise. As in the
modelled language, an exception leaves the state as it was when the exception
was raised. This file gives such programs a total-correctness triple with one
postcondition for a return and one for a raise, together with the rules by which
the triples of a compound program follow from those of its parts.
-/

namespace AssessmentPlatform.Library

/-- A program over states `σ` that returns a value or raises an exception of
type `ε`; the state survives the exception. -/
abbrev Prog (σ ε : Type) := ExceptT ε (StateM σ)

namespace Prog

variable {σ ε α β : Type}

/-- The outcome of a program from a given state. -/
def exec (x : Prog σ ε α) (s : σ) : Except ε α × σ := x s

/-- A value is returned, and the state stays. -/
@[simp] theorem exec_pure (a : α) (s : σ) : exec (pure a : Prog σ ε α) s = (.ok a, s) := rfl

/-- An error is raised, and the state stays. -/
@[simp] theorem exec_throw (e : ε) (s : σ) :
    exec (throw e : Prog σ ε α) s = (.error e, s) := rfl

/-- The state is returned. -/
@[simp] theorem exec_get (s : σ) : exec (get : Prog σ ε σ) s = (.ok s, s) := rfl

/-- The state is changed. -/
@[simp] theorem exec_modify (f : σ → σ) (s : σ) :
    exec (modify f : Prog σ ε PUnit) s = (.ok ⟨⟩, f s) := rfl

/-- Sequencing passes the state on and stops at the first exception. -/
theorem exec_bind (x : Prog σ ε α) (f : α → Prog σ ε β) (s : σ) :
    exec (x >>= f) s = match exec x s with
      | (.ok a, s') => exec (f a) s'
      | (.error e, s') => (.error e, s') := by
  change (ExceptT.bindCont f (x s).1 : StateM σ _) (x s).2 = _
  unfold exec
  rcases x s with ⟨_ | _, _⟩ <;> rfl

/-- A sequence that returns consists of two parts that return. -/
theorem exec_bind_eq_ok {x : Prog σ ε α} {f : α → Prog σ ε β} {s s' : σ} {b : β}
    (h : exec (x >>= f) s = (.ok b, s')) :
    ∃ a s₁, exec x s = (.ok a, s₁) ∧ exec (f a) s₁ = (.ok b, s') := by
  rw [exec_bind] at h
  cases hx : exec x s with
  | mk outcome s₁ =>
    rw [hx] at h
    cases outcome with
    | ok a => exact ⟨a, s₁, rfl, h⟩
    | error e => cases h

/-- An exception handler starts from the state in which the exception was raised. -/
theorem exec_tryCatch (x : Prog σ ε α) (h : ε → Prog σ ε α) (s : σ) :
    exec (tryCatch x h) s = match exec x s with
      | (.ok a, s') => (.ok a, s')
      | (.error e, s') => exec (h e) s' := by
  change (match (x s).1 with
    | .ok a => (pure (Except.ok a) : StateM σ (Except ε α))
    | .error e => h e) (x s).2 = _
  unfold exec
  rcases x s with ⟨_ | _, _⟩ <;> rfl

/-- From every state that satisfies `P`, the program returns with `Q` or raises
with `E`. -/
def Triple (P : σ → Prop) (x : Prog σ ε α) (Q : α → σ → Prop) (E : ε → σ → Prop) : Prop :=
  ∀ s, P s → match exec x s with
    | (.ok a, s') => Q a s'
    | (.error e, s') => E e s'

variable {P P' : σ → Prop} {Q Q' : α → σ → Prop} {E E' : ε → σ → Prop} {x : Prog σ ε α}

/-- The rule of a value. -/
theorem triple_pure {a : α} (h : ∀ s, P s → Q a s) : Triple P (pure a) Q E :=
  fun s hs => h s hs

/-- The rule of a failure. -/
theorem triple_throw {e : ε} (h : ∀ s, P s → E e s) : Triple P (throw e : Prog σ ε α) Q E :=
  fun s hs => h s hs

/-- The rule of a look at the state. -/
theorem triple_get {Q : σ → σ → Prop} (h : ∀ s, P s → Q s s) :
    Triple P (get : Prog σ ε σ) Q E :=
  fun s hs => h s hs

/-- The rule of a change of the state. -/
theorem triple_modify {Q : PUnit → σ → Prop} {f : σ → σ} (h : ∀ s, P s → Q ⟨⟩ (f s)) :
    Triple P (modify f : Prog σ ε PUnit) Q E :=
  fun s hs => h s hs

/-- The precondition may be strengthened and both postconditions weakened. -/
theorem Triple.conseq (h : Triple P x Q E) (hP : ∀ s, P' s → P s)
    (hQ : ∀ a s, Q a s → Q' a s) (hE : ∀ e s, E e s → E' e s) : Triple P' x Q' E' := by
  intro s hs
  have hx := h s (hP s hs)
  generalize exec x s = r at hx ⊢
  rcases r with ⟨e | a, s'⟩
  · exact hE e s' hx
  · exact hQ a s' hx

/-- Sequencing: the return condition of the first program is the precondition of
the second, and both raise under the same condition. -/
theorem Triple.bind {R : β → σ → Prop} {f : α → Prog σ ε β} (hx : Triple P x Q E)
    (hf : ∀ a, Triple (Q a) (f a) R E) : Triple P (x >>= f) R E := by
  intro s hs
  have h := hx s hs
  rw [exec_bind]
  generalize exec x s = r at h ⊢
  rcases r with ⟨e | a, s'⟩
  · exact h
  · exact hf a s' h

/-- A loop keeps an invariant of the items that it has gone through. -/
theorem Triple.foldlM {ι : Type} {f : α → ι → Prog σ ε α} {I : List ι → α → σ → Prop}
    {items : List ι}
    (hstep : ∀ done item a, item ∈ items → Triple (I done a) (f a item) (I (done ++ [item])) E)
    (done : List ι) (a : α) : Triple (I done a) (items.foldlM f a) (I (done ++ items)) E := by
  induction items generalizing done a with
  | nil =>
    rw [List.append_nil]
    exact triple_pure fun _ h => h
  | cons item items ih =>
    rw [List.foldlM_cons, List.append_cons]
    refine (hstep done item a List.mem_cons_self).bind fun b => ih ?_ (done ++ [item]) b
    exact fun done' other c hother => hstep done' other c (List.mem_cons_of_mem item hother)

/-- A handler turns the raise condition of the guarded program into its own
precondition. -/
theorem Triple.tryCatch {h : ε → Prog σ ε α} (hx : Triple P x Q E)
    (hh : ∀ e, Triple (E e) (h e) Q E') : Triple P (tryCatch x h) Q E' := by
  intro s hs
  have hr := hx s hs
  rw [exec_tryCatch]
  generalize exec x s = r at hr ⊢
  rcases r with ⟨e | a, s'⟩
  · exact hh e s' hr
  · exact hr

/-- A conditional is verified branch by branch. -/
theorem triple_ite {c : Prop} [Decidable c] {y : Prog σ ε α}
    (hx : c → Triple P x Q E) (hy : ¬c → Triple P y Q E) :
    Triple P (if c then x else y) Q E := by
  by_cases h : c
  · rw [if_pos h]
    exact hx h
  · rw [if_neg h]
    exact hy h

/-- Two triples of one program hold together. -/
theorem Triple.and (h : Triple P x Q E) (h' : Triple P' x Q' E') :
    Triple (fun s => P s ∧ P' s) x (fun a s => Q a s ∧ Q' a s) (fun e s => E e s ∧ E' e s) := by
  rintro s ⟨hs, hs'⟩
  have hx := h s hs
  have hx' := h' s hs'
  generalize exec x s = r at hx hx' ⊢
  rcases r with ⟨e | a, s'⟩
  · exact ⟨hx, hx'⟩
  · exact ⟨hx, hx'⟩

/-- What a triple with one postcondition says about the state that a program leaves. -/
theorem Triple.state {C : σ → Prop} (h : Triple P x (fun _ => C) fun _ => C) {s : σ} (hs : P s) :
    C (exec x s).2 := by
  have hx := h s hs
  generalize exec x s = r at hx ⊢
  rcases r with ⟨e | a, s'⟩
  · exact hx
  · exact hx

/-! ## Invariants -/

/-- A program keeps an invariant, whether it returns or raises. -/
def Keeps (I : σ → Prop) (x : Prog σ ε α) : Prop :=
  Triple I x (fun _ => I) fun _ => I

section Keeps

variable {I : σ → Prop}

/-- A value keeps every invariant. -/
theorem keeps_pure (a : α) : Keeps I (pure a : Prog σ ε α) :=
  triple_pure fun _ hs => hs

/-- A failure keeps every invariant. -/
theorem keeps_throw (e : ε) : Keeps I (throw e : Prog σ ε α) :=
  triple_throw fun _ hs => hs

/-- A look at the state keeps every invariant. -/
theorem keeps_get : Keeps I (get : Prog σ ε σ) :=
  triple_get fun _ hs => hs

/-- A change that keeps the invariant. -/
theorem keeps_modify {f : σ → σ} (hf : ∀ s, I s → I (f s)) :
    Keeps I (modify f : Prog σ ε PUnit) :=
  triple_modify hf

/-- A sequence of programs that keep the invariant keeps it. -/
theorem Keeps.bind {x : Prog σ ε α} {f : α → Prog σ ε β} (hx : Keeps I x)
    (hf : ∀ a, Keeps I (f a)) : Keeps I (x >>= f) :=
  Triple.bind hx hf

/-- A loop of programs that keep the invariant keeps it. -/
theorem Keeps.foldlM {f : α → β → Prog σ ε α} (hf : ∀ a b, Keeps I (f a b)) (items : List β)
    (a : α) : Keeps I (items.foldlM f a) := by
  induction items generalizing a with
  | nil => exact keeps_pure a
  | cons item items ih => exact (hf a item).bind ih

end Keeps

/-- A second part that leaves the state leaves the state of the first one. -/
theorem exec_bind_state {f : α → Prog σ ε β} (hf : ∀ a s, (exec (f a) s).2 = s) (s : σ) :
    (exec (x >>= f) s).2 = (exec x s).2 := by
  rw [exec_bind]
  generalize exec x s = r
  rcases r with ⟨e | a, s'⟩
  · rfl
  · exact hf a s'

/-- What a triple says about an execution that returns. -/
theorem Triple.of_ok {s s' : σ} {a : α} (h : Triple P x Q E) (hs : P s)
    (hx : exec x s = (.ok a, s')) : Q a s' := by
  have := h s hs
  rwa [hx] at this

/-- What a triple says about an execution that raises. -/
theorem Triple.of_error {s s' : σ} {e : ε} (h : Triple P x Q E) (hs : P s)
    (hx : exec x s = (.error e, s')) : E e s' := by
  have := h s hs
  rwa [hx] at this

end Prog

section Except

variable {ε α β : Type}

/-- A value is passed on. -/
@[simp] theorem except_ok_bind (a : α) (f : α → Except ε β) : (Except.ok a >>= f) = f a := rfl

/-- An error ends the sequence. -/
@[simp] theorem except_error_bind (e : ε) (f : α → Except ε β) :
    (Except.error e >>= f) = .error e := rfl

/-- A value is mapped. -/
@[simp] theorem except_map_ok (f : α → β) (a : α) :
    Except.map f (.ok a : Except ε α) = .ok (f a) := rfl

/-- An error is not mapped. -/
@[simp] theorem except_map_error (f : α → β) (e : ε) :
    Except.map f (.error e : Except ε α) = .error e := rfl

/-- A sequence that returns consists of two parts that return. -/
theorem except_bind_eq_ok {x : Except ε α} {f : α → Except ε β} {b : β} :
    (x >>= f) = .ok b ↔ ∃ a, x = .ok a ∧ f a = .ok b := by
  cases x <;> simp

/-- A sequence raises what its first part raises, or its second after the first has returned. -/
theorem except_bind_eq_error {x : Except ε α} {f : α → Except ε β} {e : ε} :
    (x >>= f) = .error e ↔ x = .error e ∨ ∃ a, x = .ok a ∧ f a = .error e := by
  cases x <;> simp

/-- Two checks in sequence are passed if both are. -/
theorem except_seq_eq_ok {x y : Except ε Unit} :
    (x >>= fun _ => y) = .ok () ↔ x = .ok () ∧ y = .ok () := by
  cases x <;> simp

/-- A loop of checks is passed if each of them is. -/
theorem except_forM_eq_ok {f : α → Except ε Unit} {items : List α} :
    items.forM f = .ok () ↔ ∀ item ∈ items, f item = .ok () := by
  induction items with
  | nil => simp [pure, Except.pure]
  | cons item items ih =>
    change (f item >>= fun _ => items.forM f) = .ok () ↔ _
    rw [except_seq_eq_ok, ih, List.forall_mem_cons]

/-- Every item has its partner. -/
theorem exists_of_forall₂ {R : α → β → Prop} {l : List α} {m : List β} (h : List.Forall₂ R l m)
    {a : α} (ha : a ∈ l) : ∃ b ∈ m, R a b := by
  induction h with
  | nil => cases ha
  | @cons a' b l m hab _ ih =>
    rcases List.mem_cons.mp ha with rfl | ha
    · exact ⟨b, List.mem_cons_self, hab⟩
    · obtain ⟨b', hb', hR⟩ := ih ha
      exact ⟨b', List.mem_cons_of_mem _ hb', hR⟩

/-- A loop that collects results returns if each step does. -/
theorem except_mapM_eq_ok {f : α → Except ε β} {items : List α} {results : List β} :
    items.mapM f = .ok results ↔ List.Forall₂ (fun item result => f item = .ok result) items
      results := by
  induction items generalizing results with
  | nil =>
    rw [List.mapM_nil, List.forall₂_nil_left_iff]
    exact ⟨fun h => (Except.ok.inj h).symm, fun h => h ▸ rfl⟩
  | cons item items ih =>
    rw [List.mapM_cons, except_bind_eq_ok, List.forall₂_cons_left_iff]
    refine exists_congr fun result => ?_
    rw [except_bind_eq_ok]
    constructor
    · rintro ⟨hitem, rest, hrest, hresults⟩
      exact ⟨rest, hitem, ih.mp hrest, (Except.ok.inj hresults).symm⟩
    · rintro ⟨rest, hitem, hrest, rfl⟩
      exact ⟨hitem, rest, ih.mpr hrest, rfl⟩

/-- A loop returns exactly if the body does for every item. -/
theorem except_mapM_returns {f : α → Except ε β} {items : List α} :
    (∃ results, items.mapM f = .ok results) ↔ ∀ item ∈ items, ∃ result, f item = .ok result := by
  induction items with
  | nil => exact iff_of_true ⟨[], rfl⟩ nofun
  | cons item items ih =>
    rw [List.forall_mem_cons, ← ih]
    constructor
    · rintro ⟨results, h⟩
      obtain ⟨result, rest, hitem, hrest, -⟩ :=
        List.forall₂_cons_left_iff.mp (except_mapM_eq_ok.mp h)
      exact ⟨⟨result, hitem⟩, rest, except_mapM_eq_ok.mpr hrest⟩
    · rintro ⟨⟨result, hitem⟩, rest, hrest⟩
      exact ⟨result :: rest, except_mapM_eq_ok.mpr (.cons hitem (except_mapM_eq_ok.mp hrest))⟩

/-- Each collected result is one of an item. -/
theorem except_mapM_forall {f : α → Except ε β} {items : List α} {results : List β}
    {P : β → Prop} (hf : ∀ item ∈ items, ∀ result, f item = .ok result → P result)
    (h : items.mapM f = .ok results) : ∀ result ∈ results, P result := by
  have hall := except_mapM_eq_ok.mp h
  clear h
  induction hall with
  | nil => exact nofun
  | cons hitem _ ih =>
    rw [List.forall_mem_cons]
    exact ⟨hf _ List.mem_cons_self _ hitem,
      ih fun other hother => hf other (List.mem_cons_of_mem _ hother)⟩

/-- Results that name their items are in the order of the items. -/
theorem except_mapM_map {κ : Type} {f : α → Except ε β} {key : α → κ} {keyOf : β → κ}
    {items : List α} {results : List β} (hf : ∀ item result, f item = .ok result →
      keyOf result = key item) (h : items.mapM f = .ok results) :
    results.map keyOf = items.map key := by
  have hall := except_mapM_eq_ok.mp h
  clear h
  induction hall with
  | nil => rfl
  | cons hitem _ ih => rw [List.map_cons, List.map_cons, hf _ _ hitem, ih]

/-- If every result has the key of its item, the results have the keys of the items. -/
theorem except_mapM_ids {f : α → Except ε β} {keyOf : β → α} {items : List α} {results : List β}
    (hf : ∀ item result, f item = .ok result → keyOf result = item)
    (h : items.mapM f = .ok results) : results.map keyOf = items := by
  have hmap : results.map keyOf = items.map id := except_mapM_map hf h
  rwa [List.map_id] at hmap

/-- A loop that collects results raises what one of its steps raises. -/
theorem except_mapM_error {f : α → Except ε β} {items : List α} {e : ε}
    (h : items.mapM f = .error e) : ∃ item ∈ items, f item = .error e := by
  induction items with
  | nil => cases h
  | cons item items ih =>
    rw [List.mapM_cons] at h
    cases hitem : f item with
    | error e' =>
      rw [hitem] at h
      cases h
      exact ⟨item, List.mem_cons_self, hitem⟩
    | ok result =>
      rw [hitem, except_ok_bind] at h
      cases hrest : items.mapM f with
      | error e' =>
        rw [hrest] at h
        cases h
        obtain ⟨other, hother, hraise⟩ := ih hrest
        exact ⟨other, List.mem_cons_of_mem item hother, hraise⟩
      | ok results =>
        rw [hrest] at h
        cases h

/-- A mapped computation that returns has mapped what the computation returned. -/
theorem except_map_eq_ok {x : Except ε α} {f : α → β} {b : β} :
    Except.map f x = .ok b ↔ ∃ a, x = .ok a ∧ f a = b := by
  cases x <;> simp

/-- A computation whose run returns has a value. -/
theorem except_exists_of_toBool {x : Except ε α} (h : x.toBool = true) : ∃ a, x = .ok a := by
  cases x with
  | error e => cases h
  | ok a => exact ⟨a, rfl⟩

/-- A check returns if it is passed. -/
theorem except_dite_returns {c : Prop} [Decidable c] {f : c → α} {e : ε} :
    (∃ a, (if h : c then .ok (f h) else .error e : Except ε α) = .ok a) ↔ c := by
  by_cases h : c
  · simp [h]
  · simp [h]

end Except

end AssessmentPlatform.Library
