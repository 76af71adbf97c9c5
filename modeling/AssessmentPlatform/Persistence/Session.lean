import AssessmentPlatform.Library.Program
import AssessmentPlatform.Persistence.Tables

/-!
# Database sessions

A request works through one session: it sees a working copy of the tables, a commit
publishes the working copy, and a rollback discards it. Any database step may fail
with a database error and then has no effect. The clock, the source of identifiers,
the request identifier, the metrics recorder and the failing steps are what a request
finds in its environment.
-/

namespace AssessmentPlatform

open Library

/-- The database steps of the modelled services, one for each call site that the
error handling tells apart. -/
inductive DbStep where
  | create | commitCreated | markProcessing | commitProcessing | persistFailure | commitFailure
  | getAssessment | getState | markCompleted | markPendingReview | markFailed | saveState
  | addReviewEvent | listReviewEvents | commit | rollback
  deriving DecidableEq

/-- What the request-scoped metrics recorder has collected. -/
structure RuntimeMetrics where
  modelCallDurationsMs : List ℕ := []
  embeddingCallDurationsMs : List ℕ := []
  toolCallDurationsMs : List ℕ := []
  retryCount : ℕ := 0
  timeoutCount : ℕ := 0
  tokenUsage : Option ProviderTokenUsage := none

/-- The environment of one request: the successive readings of the clock, the
successive fresh identifiers, and which database step fails with which error. -/
structure Env where
  clock : ℕ → Time
  newId : ℕ → UUID
  requestId : Option RequestId := none
  metrics : Option RuntimeMetrics := none
  fault : DbStep → ℕ → Option SQLAlchemyError := fun _ _ => none

/-- The database as one session sees it; the counters say how often the clock and the
identifier source were read. -/
structure Db where
  committed : Tables
  working : Tables
  readings : ℕ := 0
  ids : ℕ := 0

/-- The state of a request: the database, the number of database steps taken, and
the telemetry records handed to the exporter. -/
structure World where
  db : Db
  steps : ℕ := 0
  exported : List (OperationalTelemetry × QualityGateResult) := []

/-- A session that has just been opened on the given tables. -/
def Db.open (tables : Tables) : Db where
  committed := tables
  working := tables

/-- Code that runs inside a session. -/
abbrev Session := Prog World Failure

/-- Apply a change to the database part of the state. -/
def modifyDb (f : Db → Db) : Session Unit :=
  modify fun w => { w with db := f w.db }

section Steps

variable (env : Env)

/-- A database step either fails without effect or lets the code go on. -/
def dbStep (step : DbStep) : Session Unit := do
  let w ← get
  modify fun w => { w with steps := w.steps + 1 }
  match env.fault step w.steps with
  | some error => throw (.database error)
  | none => pure ()

/-- Read the clock. -/
def now : Session Time := do
  let w ← get
  modifyDb fun db => { db with readings := db.readings + 1 }
  pure (env.clock w.db.readings)

/-- `uuid4()`. -/
def uuid4 : Session UUID := do
  let w ← get
  modifyDb fun db => { db with ids := db.ids + 1 }
  pure (env.newId w.db.ids)

/-- The tables as the session sees them. -/
def workingTables : Session Tables := do
  let w ← get
  pure w.db.working

/-- Change the session's own view of the tables. -/
def modifyWorking (f : Tables → Tables) : Session Unit :=
  modifyDb fun db => { db with working := f db.working }

/-- The database after a successful commit. -/
def Db.commit (db : Db) : Db := { db with committed := db.working }

/-- `session.commit()`. -/
def commit (step : DbStep := .commit) : Session Unit := do
  dbStep env step
  modifyDb Db.commit

/-- `session.rollback()`, which also makes the session read the tables anew. -/
def rollback : Session Unit := do
  dbStep env .rollback
  modifyDb fun db => { db with working := db.committed }

end Steps

/-- The database errors that the environment can raise. -/
def Env.Faults (env : Env) (failure : Failure) : Prop :=
  ∃ step n error, env.fault step n = some error ∧ failure = .database error

/-- The database errors that the environment can raise at the given steps. -/
def Env.FaultsAt (env : Env) (steps : List DbStep) (failure : Failure) : Prop :=
  ∃ step ∈ steps, ∃ n error, env.fault step n = some error ∧ failure = .database error

/-- The environment lets each of the given steps pass. -/
def Env.Passes (env : Env) (steps : List DbStep) : Prop :=
  ∀ step ∈ steps, ∃ n, env.fault step n = none

/-- A fault at some of the statements is a fault. -/
theorem Env.FaultsAt.faults {env : Env} {steps : List DbStep} {e : Failure}
    (h : env.FaultsAt steps e) : env.Faults e := by
  obtain ⟨step, -, n, error, hfault, he⟩ := h
  exact ⟨step, n, error, hfault, he⟩

/-- A fault at some of the statements is one at more of them. -/
theorem Env.FaultsAt.mono {env : Env} {steps steps' : List DbStep} {e : Failure}
    (h : env.FaultsAt steps e) (hsteps : steps ⊆ steps') : env.FaultsAt steps' e := by
  obtain ⟨step, hstep, h⟩ := h
  exact ⟨step, hsteps hstep, h⟩

/-- From the database `d` the program takes the given database steps and has the
outcome `r`, unless one of the steps fails. A program that raises leaves the committed
tables alone. -/
def Computes {α : Type} (env : Env) (steps : List DbStep) (x : Session α) (d : Db)
    (r : Except Failure (α × Db)) : Prop :=
  Prog.Triple (fun w => w.db = d) x (fun a w => r = .ok (a, w.db) ∧ env.Passes steps)
    (fun e w => (r = .error e ∨ env.FaultsAt steps e) ∧ w.db.committed = d.committed)

/-- As `Computes`, for a whole request, of which only the committed tables matter. -/
def Publishes {α : Type} (env : Env) (x : Session α) (d : Db) (r : Except Failure Tables) : Prop :=
  Prog.Triple (fun w => w.db = d) x (fun _ w => r = .ok w.db.committed)
    (fun e w => (r = .error e ∨ env.Faults e) ∧ w.db.committed = d.committed)

section Rules

variable {α β : Type} {env : Env} {d d' : Db} {steps steps' : List DbStep}

/-- A program computes an equal outcome as well. -/
theorem Computes.of_eq {x : Session α} {r r' : Except Failure (α × Db)}
    (h : Computes env steps x d r) (hr : r = r') : Computes env steps x d r' :=
  hr ▸ h

/-- A value is computed without a statement. -/
theorem computes_pure (a : α) : Computes env [] (pure a) d (.ok (a, d)) :=
  Prog.triple_pure fun _ h => ⟨by rw [h], by simp [Env.Passes]⟩

/-- A failure is computed without a statement. -/
theorem computes_throw (e : Failure) :
    Computes env steps (throw e : Session α) d (.error e) :=
  Prog.triple_throw fun _ h => ⟨.inl rfl, by rw [h]⟩

/-- A change of the database is computed without a statement. -/
theorem computes_modifyDb (f : Db → Db) : Computes env [] (modifyDb f) d (.ok ((), f d)) :=
  Prog.triple_modify fun _ h => ⟨by rw [h], by simp [Env.Passes]⟩

/-- The course of a sequence whose first part returns. -/
private theorem Computes.bind_triple {x : Session α} {f : α → Session β} {a : α}
    {Q : β → World → Prop} {E : Failure → World → Prop}
    (hx : Computes env steps x d (.ok (a, d')))
    (hE : ∀ e w, env.FaultsAt steps e → w.db.committed = d.committed → E e w)
    (hf : env.Passes steps → Prog.Triple (fun w => w.db = d') (f a) Q E) :
    Prog.Triple (fun w => w.db = d) (x >>= f) Q E := by
  refine Prog.Triple.bind (Q := fun b w => b = a ∧ w.db = d' ∧ env.Passes steps)
    (hx.conseq (fun _ h => h) ?_ ?_) ?_
  · rintro b w ⟨h, hpasses⟩
    simp only [Except.ok.injEq, Prod.mk.injEq] at h
    exact ⟨h.1.symm, h.2.symm, hpasses⟩
  · rintro e w ⟨h | h, hdb⟩
    · simp at h
    · exact hE e w h hdb
  · rintro b w ⟨rfl, hw, hpasses⟩
    exact hf hpasses w hw

/-- The course of a sequence whose first part raises. -/
private theorem Computes.bind_error_triple {x : Session α} {f : α → Session β} {e : Failure}
    {Q : β → World → Prop} (hx : Computes env steps x d (.error e)) :
    Prog.Triple (fun w => w.db = d) (x >>= f) Q
      (fun e' w => (e' = e ∨ env.FaultsAt steps e') ∧ w.db.committed = d.committed) := by
  refine Prog.Triple.bind (Q := fun _ _ => False) (hx.conseq (fun _ h => h) ?_ ?_) ?_
  · rintro a w ⟨h, -⟩
    simp at h
  · rintro e' w ⟨h | h, hdb⟩
    · simp only [Except.error.injEq] at h
      exact ⟨.inl h.symm, hdb⟩
    · exact ⟨.inr h, hdb⟩
  · intro a w h
    exact h.elim

/-- Sequencing: the first part publishes nothing, and the second continues from its
outcome. -/
theorem Computes.bind {x : Session α} {f : α → Session β} {a : α} {r : Except Failure (β × Db)}
    (hx : Computes env steps x d (.ok (a, d'))) (hcommitted : d'.committed = d.committed)
    (hf : Computes env steps' (f a) d' r) : Computes env (steps ++ steps') (x >>= f) d r := by
  refine hx.bind_triple ?_ fun hpasses => hf.conseq (fun _ h => h) ?_ ?_
  · exact fun e w h hdb => ⟨.inr (h.mono (List.subset_append_left _ _)), hdb⟩
  · rintro b w ⟨h, hpasses'⟩
    refine ⟨h, fun step hstep => ?_⟩
    rcases List.mem_append.mp hstep with hstep | hstep
    · exact hpasses step hstep
    · exact hpasses' step hstep
  · rintro e w ⟨h, hdb⟩
    exact ⟨h.imp_right fun h => h.mono (List.subset_append_right _ _), hdb.trans hcommitted⟩

/-- Sequencing, when the first part raises; the steps after it do not matter. -/
theorem Computes.bind_error {x : Session α} {f : α → Session β} {e : Failure}
    (hx : Computes env steps x d (.error e)) :
    Computes env (steps ++ steps') (x >>= f) d (.error e) :=
  (hx.bind_error_triple).conseq (fun _ h => h) (fun _ _ h => h) fun _ _ h =>
    ⟨h.1.imp (fun he => by rw [he]) fun h => h.mono (List.subset_append_left _ _), h.2⟩

/-- Sequencing, when the first part raises and nothing is left to be done. -/
theorem Computes.bind_error_last {x : Session α} {f : α → Session β} {e : Failure}
    (hx : Computes env steps x d (.error e)) : Computes env steps (x >>= f) d (.error e) := by
  have h : Computes env (steps ++ []) (x >>= f) d (.error e) := hx.bind_error
  rwa [List.append_nil] at h

/-- A request whose first part only prepares the transaction. -/
theorem Computes.bind_publishes {x : Session α} {f : α → Session β} {a : α}
    {r : Except Failure Tables} (hx : Computes env steps x d (.ok (a, d')))
    (hcommitted : d'.committed = d.committed) (hf : Publishes env (f a) d' r) :
    Publishes env (x >>= f) d r := by
  refine hx.bind_triple ?_ fun _ => hf.conseq (fun _ h => h) (fun _ _ h => h) ?_
  · exact fun e w h hdb => ⟨.inr h.faults, hdb⟩
  · exact fun e w h => ⟨h.1, h.2.trans hcommitted⟩

/-- A request whose first part raises. -/
theorem Computes.bind_error_publishes {x : Session α} {f : α → Session β} {e : Failure}
    (hx : Computes env steps x d (.error e)) : Publishes env (x >>= f) d (.error e) :=
  (hx.bind_error_triple).conseq (fun _ h => h) (fun _ _ h => h)
    (fun _ _ h => ⟨h.1.imp (fun he => by rw [he]) Env.FaultsAt.faults, h.2⟩)

/-- Dropping the value of a request. -/
theorem Publishes.discard {x : Session α} {r : Except Failure Tables} (hx : Publishes env x d r) :
    Publishes env (do let _ ← x) d r :=
  Prog.Triple.bind hx fun _ => Prog.triple_pure fun _ h => h

/-- What a request that publishes `r` leaves behind: the committed tables of `r`, or,
if it raises, the tables it found; it raises only what `r` says or what a failing
database step raises. -/
theorem Publishes.outcome {x : Session α} {r : Except Failure Tables} (hx : Publishes env x d r)
    {w : World} (hw : w.db = d) :
    (∃ a, (Prog.exec x w).1 = .ok a ∧ r = .ok (Prog.exec x w).2.db.committed) ∨
      ∃ e, (Prog.exec x w).1 = .error e ∧ (r = .error e ∨ env.Faults e) ∧
        (Prog.exec x w).2.db.committed = d.committed := by
  have h := hx w hw
  generalize Prog.exec x w = result at h ⊢
  rcases result with ⟨e | a, w'⟩
  · exact .inr ⟨e, rfl, h⟩
  · exact .inl ⟨a, rfl, h⟩

/-- A statement is computed by itself. -/
theorem computes_dbStep (step : DbStep) :
    Computes env [step] (dbStep env step) d (.ok ((), d)) := by
  rintro w rfl
  unfold dbStep
  simp only [Prog.exec_bind, Prog.exec_get, Prog.exec_modify]
  cases h : env.fault step w.steps with
  | none => exact ⟨rfl, by simpa [Env.Passes] using ⟨_, h⟩⟩
  | some error => exact ⟨.inr ⟨step, by simp, _, error, h, rfl⟩, rfl⟩

/-- A look at the clock reads the next time. -/
theorem computes_now :
    Computes env [] (now env) d
      (.ok (env.clock d.readings, { d with readings := d.readings + 1 })) := by
  rintro w rfl
  exact ⟨rfl, by simp [Env.Passes]⟩

/-- A new identifier is the next one. -/
theorem computes_uuid4 :
    Computes env [] (uuid4 env) d (.ok (env.newId d.ids, { d with ids := d.ids + 1 })) := by
  rintro w rfl
  exact ⟨rfl, by simp [Env.Passes]⟩

/-- The tables of the session are computed without a statement. -/
theorem computes_workingTables : Computes env [] workingTables d (.ok (d.working, d)) := by
  rintro w rfl
  exact ⟨rfl, by simp [Env.Passes]⟩

/-- A change of the tables is computed without a statement. -/
theorem computes_modifyWorking (f : Tables → Tables) :
    Computes env [] (modifyWorking f) d (.ok ((), { d with working := f d.working })) :=
  computes_modifyDb _

variable (env d) in
/-- A commit is computed with its statement. -/
theorem computes_commit (step : DbStep) :
    Computes env [step] (commit env step) d (.ok ((), d.commit)) :=
  (computes_dbStep step).bind rfl (computes_modifyDb _)

/-- A request that commits what it prepared and does nothing more to the database. -/
theorem publishes_commit {step : DbStep} {f : Unit → Session α}
    (hf : ∀ w : World, w.db = d.commit →
      ∃ a w', Prog.exec (f ()) w = (.ok a, w') ∧ w'.db = d.commit) :
    Publishes env (commit env step >>= f) d (.ok d.commit.committed) := by
  refine (computes_commit _ _ step).bind_triple ?_ fun _ w h => ?_
  · exact fun e w h hdb => ⟨.inr h.faults, hdb⟩
  · obtain ⟨a, w', hexec, hdb⟩ := hf w h
    rw [hexec]
    change Except.ok d.commit.committed = Except.ok w'.db.committed
    rw [hdb]

end Rules

end AssessmentPlatform
