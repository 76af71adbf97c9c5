import Mathlib.Data.List.Nodup
import Mathlib.Logic.Function.Basic
import Mathlib.Tactic.Common

/-!
# Requests that lock after a first read

Any number of requests share one state. Each of them first reads a view of the state
without a lock, then waits for the lock, computes its effect from the early view and
the state it finds under the lock, and finally publishes the effect, or nothing, and
releases the lock. A schedule says whose turn it is; a request that must wait loses
its turn.

If a stale view does no harm, every schedule amounts to running the committed
requests one after the other in the order of their commits.
-/

namespace AssessmentPlatform.Library.Locked

/-- What the requests do: the unlocked read, the computation under the lock with its
outcome and the state it would publish, and which outcomes are commits. -/
structure Protocol (ι σ ρ ω : Type) where
  read : σ → ρ
  body : ι → ρ → σ → ω × σ
  commits : ω → Bool

/-- How far a request has come. A request that has computed its effect remembers the
state it found under the lock. -/
inductive Phase (σ ρ ω : Type) where
  | idle
  | loaded (view : ρ)
  | locked (view : ρ)
  | written (found : σ) (outcome : ω) (result : σ)
  | finished (found : σ) (outcome : ω)

/-- The shared state, the holder of the lock, the phase of every request, and the
requests that have committed, in the order of their commits. -/
structure System (ι σ ρ ω : Type) where
  shared : σ
  holder : Option ι
  phase : ι → Phase σ ρ ω
  log : List ι

section Runs

variable {ι σ ρ ω : Type} [DecidableEq ι]

/-- All requests are about to start. -/
def start (shared : σ) : System ι σ ρ ω where
  shared
  holder := none
  phase _ := .idle
  log := []

/-- The next step of request `i`. -/
def advance (P : Protocol ι σ ρ ω) (s : System ι σ ρ ω) (i : ι) : System ι σ ρ ω :=
  match s.phase i with
  | .idle => { s with phase := Function.update s.phase i (.loaded (P.read s.shared)) }
  | .loaded view =>
    if s.holder.isNone then
      { s with holder := some i, phase := Function.update s.phase i (.locked view) }
    else s
  | .locked view =>
    { s with
      phase := Function.update s.phase i
        (.written s.shared (P.body i view s.shared).1 (P.body i view s.shared).2) }
  | .written found outcome result =>
    { shared := result
      holder := none
      phase := Function.update s.phase i (.finished found outcome)
      log := if P.commits outcome then s.log ++ [i] else s.log }
  | .finished _ _ => s

/-- A run of the given schedule. -/
def run (P : Protocol ι σ ρ ω) (schedule : List ι) (s : System ι σ ρ ω) : System ι σ ρ ω :=
  schedule.foldl (advance P) s

/-- The requests of a list, one after the other. -/
def serial (step : ι → σ → σ) (order : List ι) (shared : σ) : σ :=
  order.foldl (fun shared i => step i shared) shared

end Runs

section Serializability

variable {ι σ ρ ω : Type} [DecidableEq ι] {P : Protocol ι σ ρ ω} {step : ι → σ → σ}
  {Inv : σ → Prop} {Stale : ρ → σ → Prop}

/-- What makes a stale view harmless. `Inv` holds of the shared state, and `Stale view s`
says what is known of a view that was read before the state became `s`. -/
structure Harmless (P : Protocol ι σ ρ ω) (step : ι → σ → σ) (Inv : σ → Prop)
    (Stale : ρ → σ → Prop) : Prop where
  read : ∀ s, Inv s → Stale (P.read s) s
  commit : ∀ i view s, Inv s → Stale view s → P.commits (P.body i view s).1 = true →
      (P.body i view s).2 = step i s ∧ Inv (step i s) ∧
        ∀ view', Stale view' s → Stale view' (step i s)
  rollback : ∀ i view s, Inv s → P.commits (P.body i view s).1 = false →
    (P.body i view s).2 = s

/-- The outcome of request `i` is one that it computed from a view and a state of which
the invariants hold. -/
def Computed (P : Protocol ι σ ρ ω) (Inv : σ → Prop) (Stale : ρ → σ → Prop) (i : ι) (found : σ)
    (outcome : ω) : Prop :=
  ∃ view, Inv found ∧ Stale view found ∧ (P.body i view found).1 = outcome

/-- The invariant of a system whose requests started from the state `initial`. -/
structure Serialized (P : Protocol ι σ ρ ω) (step : ι → σ → σ) (Inv : σ → Prop)
    (Stale : ρ → σ → Prop) (initial : σ) (s : System ι σ ρ ω) : Prop where
  shared : s.shared = serial step s.log initial
  inv : Inv s.shared
  loaded : ∀ i view, s.phase i = .loaded view → Stale view s.shared
  locked : ∀ i view, s.phase i = .locked view → Stale view s.shared ∧ s.holder = some i
  written : ∀ i found outcome result, s.phase i = .written found outcome result →
    found = s.shared ∧ s.holder = some i ∧
      ∃ view, Stale view found ∧ P.body i view found = (outcome, result)
  finished : ∀ i found outcome, s.phase i = .finished found outcome →
    Computed P Inv Stale i found outcome
  log : ∀ i, i ∈ s.log ↔
    ∃ found outcome, s.phase i = .finished found outcome ∧ P.commits outcome = true
  nodup : s.log.Nodup
  history : ∀ before i after, s.log = before ++ i :: after →
    ∃ outcome, Computed P Inv Stale i (serial step before initial) outcome ∧
      P.commits outcome = true

omit [DecidableEq ι] in
/-- At the start the requests are serialized. -/
theorem serialized_start (initial : σ) (h : Inv initial) :
    Serialized P step Inv Stale initial (start initial) where
  shared := rfl
  inv := h
  loaded := nofun
  locked := nofun
  written := nofun
  finished := nofun
  log i := by simp [start]
  nodup := List.nodup_nil
  history := by simp [start]

/-- A step that publishes nothing and moves request `i` to a phase of which the
invariant holds. -/
theorem Serialized.setPhase {initial : σ} {s : System ι σ ρ ω}
    (h : Serialized P step Inv Stale initial s) {i : ι} {phase : Phase σ ρ ω} {holder : Option ι}
    (hbefore : ∀ found outcome, s.phase i ≠ .finished found outcome)
    (hafter : ∀ found outcome, phase ≠ .finished found outcome)
    (hholder : ∀ j, j ≠ i → s.holder = some j → holder = some j)
    (hloaded : ∀ view, phase = .loaded view → Stale view s.shared)
    (hlocked : ∀ view, phase = .locked view → Stale view s.shared ∧ holder = some i)
    (hwritten : ∀ found outcome result, phase = .written found outcome result →
      found = s.shared ∧ holder = some i ∧
        ∃ view, Stale view found ∧ P.body i view found = (outcome, result)) :
    Serialized P step Inv Stale initial
      { s with holder, phase := Function.update s.phase i phase } where
  shared := h.shared
  inv := h.inv
  loaded j view hj := by
    by_cases hji : j = i
    · subst hji
      exact hloaded view (by simpa using hj)
    · exact h.loaded j view (by simpa [hji] using hj)
  locked j view hj := by
    by_cases hji : j = i
    · subst hji
      exact hlocked view (by simpa using hj)
    · have := h.locked j view (by simpa [hji] using hj)
      exact ⟨this.1, hholder j hji this.2⟩
  written j found outcome result hj := by
    by_cases hji : j = i
    · subst hji
      exact hwritten found outcome result (by simpa using hj)
    · have := h.written j found outcome result (by simpa [hji] using hj)
      exact ⟨this.1, hholder j hji this.2.1, this.2.2⟩
  finished j found outcome hj := by
    by_cases hji : j = i
    · subst hji
      exact absurd (by simpa using hj) (hafter found outcome)
    · exact h.finished j found outcome (by simpa [hji] using hj)
  log j := by
    rw [h.log j]
    by_cases hji : j = i
    · subst hji
      simp [hbefore, hafter]
    · simp [hji]
  nodup := h.nodup
  history := h.history

/-- The end of request `i`: the lock is released, and the result becomes the shared
state, of which the parts of the invariant hold that mention it. -/
theorem Serialized.release {initial : σ} {s : System ι σ ρ ω}
    (h : Serialized P step Inv Stale initial s) {i : ι} {outcome : ω} {result : σ} {log : List ι}
    (hholder : s.holder = some i) (hphase : ∀ found o, s.phase i ≠ .finished found o)
    (hcomputed : Computed P Inv Stale i s.shared outcome)
    (hshared : result = serial step log initial) (hinv : Inv result)
    (hkeep : ∀ view, Stale view s.shared → Stale view result)
    (hlog : ∀ j, j ∈ log ↔ j ∈ s.log ∨ j = i ∧ P.commits outcome = true) (hnodup : log.Nodup)
    (hhistory : ∀ before j after, log = before ++ j :: after →
      ∃ o, Computed P Inv Stale j (serial step before initial) o ∧ P.commits o = true) :
    Serialized P step Inv Stale initial
      { shared := result, holder := none, log
        phase := Function.update s.phase i (.finished s.shared outcome) } := by
  -- no other request is inside the critical section
  have halone : ∀ j, s.holder = some j → j = i := by
    intro j hj
    rw [hholder] at hj
    exact (Option.some.inj hj).symm
  refine ⟨hshared, hinv, ?_, ?_, ?_, ?_, ?_, hnodup, hhistory⟩
  · intro j view hj
    by_cases hji : j = i
    · subst hji
      simp at hj
    · exact hkeep view (h.loaded j view (by simpa [hji] using hj))
  · intro j view hj
    by_cases hji : j = i
    · subst hji
      simp at hj
    · exact absurd (halone j (h.locked j view (by simpa [hji] using hj)).2) hji
  · intro j found o r hj
    by_cases hji : j = i
    · subst hji
      simp at hj
    · exact absurd (halone j (h.written j found o r (by simpa [hji] using hj)).2.1) hji
  · intro j found o hj
    by_cases hji : j = i
    · subst hji
      simp only [Function.update_self, Phase.finished.injEq] at hj
      rw [← hj.1, ← hj.2]
      exact hcomputed
    · exact h.finished j found o (by simpa [hji] using hj)
  · intro j
    rw [hlog j, h.log j]
    by_cases hji : j = i
    · subst hji
      simp [hphase]
    · simp [hji]

/-- Publishing keeps the invariant; a commit appends the request to the log. -/
theorem Serialized.publish (hharmless : Harmless P step Inv Stale) {initial : σ}
    {s : System ι σ ρ ω} (h : Serialized P step Inv Stale initial s) {i : ι} {found : σ}
    {outcome : ω} {result : σ} (hphase : s.phase i = .written found outcome result) :
    Serialized P step Inv Stale initial
      { shared := result
        holder := none
        phase := Function.update s.phase i (.finished found outcome)
        log := if P.commits outcome then s.log ++ [i] else s.log } := by
  obtain ⟨rfl, hholder, view, hstale, hbody⟩ := h.written i found outcome result hphase
  have houtcome : (P.body i view s.shared).1 = outcome := by rw [hbody]
  have hresult : (P.body i view s.shared).2 = result := by rw [hbody]
  have hcomputed : Computed P Inv Stale i s.shared outcome := ⟨view, h.inv, hstale, houtcome⟩
  have hunfinished : ∀ found o, s.phase i ≠ .finished found o := by simp [hphase]
  by_cases hcommit : P.commits outcome = true
  · rw [if_pos hcommit]
    obtain ⟨hstep, hinv, hkeep⟩ :=
      hharmless.commit i view s.shared h.inv hstale (by rw [houtcome]; exact hcommit)
    rw [hresult] at hstep
    have hnot : i ∉ s.log := by
      rw [h.log i]
      simp [hphase]
    refine h.release hholder hunfinished hcomputed ?_ (hstep ▸ hinv) (hstep ▸ hkeep) ?_ ?_ ?_
    · rw [hstep, h.shared]
      simp [serial]
    · intro j
      simp [hcommit]
    · exact List.nodup_append.mpr ⟨h.nodup, List.nodup_singleton i, by
        rintro a ha b hb rfl
        rw [List.mem_singleton] at hb
        exact hnot (hb ▸ ha)⟩
    · intro before j after hsplit
      rcases List.eq_nil_or_concat after with rfl | ⟨after', k, rfl⟩
      · obtain ⟨hlog, hji⟩ := List.append_inj' hsplit rfl
        cases hji
        rw [← hlog, ← h.shared]
        exact ⟨outcome, hcomputed, hcommit⟩
      · rw [List.concat_eq_append, ← List.cons_append, ← List.append_assoc] at hsplit
        exact h.history before j after' (List.append_inj' hsplit rfl).1
  · rw [if_neg hcommit]
    have hsame := hharmless.rollback i view s.shared h.inv (by rw [houtcome]; simpa using hcommit)
    rw [hresult] at hsame
    subst hsame
    exact h.release hholder hunfinished hcomputed h.shared h.inv (fun _ hv => hv)
      (fun j => by simp [hcommit]) h.nodup h.history

/-- One step of a request keeps the invariant. -/
theorem Serialized.advance (hharmless : Harmless P step Inv Stale) {initial : σ}
    {s : System ι σ ρ ω} (h : Serialized P step Inv Stale initial s) (i : ι) :
    Serialized P step Inv Stale initial (Locked.advance P s i) := by
  unfold Locked.advance
  cases hphase : s.phase i with
  | idle =>
    refine h.setPhase (by simp [hphase]) (by simp) (fun _ _ hj => hj) ?_ (by simp) (by simp)
    rintro view ⟨⟩
    exact hharmless.read s.shared h.inv
  | loaded view =>
    by_cases hfree : s.holder.isNone = true
    · simp only [if_pos hfree]
      rw [Option.isNone_iff_eq_none] at hfree
      refine h.setPhase (by simp [hphase]) (by simp) (by simp [hfree]) (by simp) ?_ (by simp)
      rintro view' ⟨⟩
      exact ⟨h.loaded i view hphase, rfl⟩
    · simp only [if_neg hfree]
      exact h
  | locked view =>
    obtain ⟨hstale, hholder⟩ := h.locked i view hphase
    refine h.setPhase (by simp [hphase]) (by simp) (fun _ _ (hj : s.holder = _) => hj) (by simp)
      (by simp) ?_
    rintro found outcome result ⟨⟩
    exact ⟨rfl, hholder, view, hstale, rfl⟩
  | written found outcome result => exact h.publish hharmless hphase
  | finished found outcome => exact h

/-- Every run is a serial one. -/
theorem serialized_run (hharmless : Harmless P step Inv Stale) {initial : σ} (hinit : Inv initial)
    (schedule : List ι) :
    Serialized P step Inv Stale initial (run P schedule (start initial)) := by
  have hrun : ∀ (schedule : List ι) (s : System ι σ ρ ω),
      Serialized P step Inv Stale initial s →
      Serialized P step Inv Stale initial (run P schedule s) := by
    intro schedule
    induction schedule with
    | nil => exact fun s h => h
    | cons i schedule ih => exact fun s h => ih _ (h.advance hharmless i)
  exact hrun schedule _ (serialized_start initial hinit)

end Serializability

end AssessmentPlatform.Library.Locked
