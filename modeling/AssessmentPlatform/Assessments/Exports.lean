import AssessmentPlatform.Assessments.Processing
import AssessmentPlatform.Governance.AuditTrail

/-!
# Telemetry exports and committed transitions

Each transition of the lifecycle commits a new checkpoint and hands its telemetry to the
exporter. The reviewer actions export after their commit, but `process_candidate`
exports inside the transaction of its caller, and `resume_revision` exports the same
transition once more. This file follows both events through whole runs and determines
when they correspond one to one.
-/

namespace AssessmentPlatform

open Library

/-- What the exporter is given. -/
abbrev TelemetrySummary := OperationalTelemetry × QualityGateResult

/-- The summary that belongs to a checkpoint. -/
def RuntimeAssessmentState.summary (state : RuntimeAssessmentState) : TelemetrySummary :=
  (state.telemetry, state.gateResult)

/-- The checkpoint that a request has committed, if it has committed one. -/
def newCheckpoints (before after : Option RuntimeAssessmentState) : List RuntimeAssessmentState :=
  if after = before then [] else after.toList

/-- What an observer has seen of an assessment: its committed tables, the checkpoints
committed so far, and the summaries exported so far. -/
structure LifecycleRecord where
  tables : Tables := {}
  committed : List RuntimeAssessmentState := []
  exported : List TelemetrySummary := []

/-- The record after one more request. -/
def LifecycleRecord.request {α : Type} (r : LifecycleRecord) (x : Session α) : LifecycleRecord :=
  let w := (Prog.exec x { db := .open r.tables }).2
  { tables := w.db.committed
    committed := r.committed ++ newCheckpoints r.tables.checkpoint w.db.committed.checkpoint
    exported := r.exported ++ w.exported }

/-- The exports are those of the committed transitions, in their order. -/
def LifecycleRecord.Faithful (r : LifecycleRecord) : Prop :=
  r.exported = r.committed.map RuntimeAssessmentState.summary

/-- A request keeps the correspondence when it exports what it commits. -/
theorem LifecycleRecord.Faithful.request {α : Type} {r : LifecycleRecord} (hr : r.Faithful)
    {x : Session α} (hx : (Prog.exec x { db := .open r.tables }).2.exported =
      (newCheckpoints r.tables.checkpoint
        (Prog.exec x { db := .open r.tables }).2.db.committed.checkpoint).map
          RuntimeAssessmentState.summary) : (r.request x).Faithful := by
  unfold Faithful LifecycleRecord.request
  rw [List.map_append, ← hx, hr]

/-! ## Steps, checkpoints and exports of a program -/

/-- The given database steps pass when they are taken one after the other, the first
of them as the `n`-th step of the request. -/
def Env.PassesFrom (env : Env) : ℕ → List DbStep → Prop
  | _, [] => True
  | n, step :: steps => env.fault step n = none ∧ env.PassesFrom (n + 1) steps

/-- Statements pass if the first ones do and the others do behind them. -/
theorem Env.passesFrom_append {env : Env} {n : ℕ} {steps steps' : List DbStep} :
    env.PassesFrom n (steps ++ steps') ↔
      env.PassesFrom n steps ∧ env.PassesFrom (n + steps.length) steps' := by
  induction steps generalizing n with
  | nil => simp [Env.PassesFrom]
  | cons step steps ih =>
    simp only [List.cons_append, Env.PassesFrom, ih, List.length_cons, and_assoc,
      Nat.add_assoc, Nat.add_comm 1]

/-- Where a request stands: the committed checkpoint, the checkpoint of the session,
the exports, and the number of database steps taken. -/
structure World.Stands (committed working : Option RuntimeAssessmentState)
    (exported : List TelemetrySummary) (steps : ℕ) (w : World) : Prop where
  committed_eq : w.db.committed.checkpoint = committed
  working_eq : w.db.working.checkpoint = working
  exported_eq : w.exported = exported
  steps_eq : w.steps = steps

/-- A request that has raised: what it committed and what it exported. -/
def World.Stopped (committed : Option RuntimeAssessmentState) (exported : List TelemetrySummary)
    (w : World) : Prop :=
  w.db.committed.checkpoint = committed ∧ w.exported = exported

/-- A world that stands has stopped. -/
theorem World.Stands.stopped {committed working : Option RuntimeAssessmentState}
    {exported : List TelemetrySummary} {n : ℕ} {w : World}
    (h : w.Stands committed working exported n) : w.Stopped committed exported :=
  ⟨h.committed_eq, h.exported_eq⟩

/-- The program takes the given database steps if it returns, and leaves the
checkpoints and the exports alone. -/
def Advances {α : Type} (env : Env) (steps : List DbStep) (x : Session α) : Prop :=
  ∀ committed working exported n, Prog.Triple (World.Stands committed working exported n) x
    (fun _ w => w.Stands committed working exported (n + steps.length) ∧ env.PassesFrom n steps)
    (fun _ w => w.Stopped committed exported)

section Rules

variable {α β : Type} {env : Env} {steps : List DbStep}

/-- A value advances nothing. -/
theorem advances_pure (a : α) : Advances env [] (pure a) :=
  fun _ _ _ _ => Prog.triple_pure fun _ h => ⟨h, trivial⟩

/-- A failure has passed any statements. -/
theorem advances_throw (e : Failure) : Advances env steps (throw e : Session α) :=
  fun _ _ _ _ => Prog.triple_throw fun _ h => h.stopped

/-- What follows a program starts where the program has left the request. -/
theorem Advances.bind_triple {x : Session α} {f : α → Session β} (hx : Advances env steps x)
    {committed working : Option RuntimeAssessmentState} {exported : List TelemetrySummary} {n : ℕ}
    {Q : β → World → Prop}
    (hf : ∀ a, env.PassesFrom n steps → Prog.Triple
      (World.Stands committed working exported (n + steps.length)) (f a) Q
      fun _ w => w.Stopped committed exported) :
    Prog.Triple (World.Stands committed working exported n) (x >>= f) Q
      fun _ w => w.Stopped committed exported :=
  (hx committed working exported n).bind fun a w hw => hf a hw.2 w hw.1

/-- The steps of a sequence are those of its parts. -/
theorem Advances.bind {r s : List DbStep} {x : Session α} {f : α → Session β}
    (hx : Advances env r x) (hf : ∀ a, Advances env s (f a)) :
    Advances env (r ++ s) (x >>= f) := by
  intro committed working exported n
  refine hx.bind_triple fun a hpasses => ?_
  refine (hf a committed working exported (n + r.length)).conseq (fun _ h => h) ?_
    (fun _ _ h => h)
  rintro b w ⟨hw, hpasses'⟩
  rw [List.length_append, ← Nat.add_assoc]
  exact ⟨hw, Env.passesFrom_append.mpr ⟨hpasses, hpasses'⟩⟩

/-- Turning an exception into another one does not add steps. -/
theorem Advances.tryCatch_throw {x : Session α} (hx : Advances env steps x)
    (f : Failure → Failure) : Advances env steps (tryCatch x fun e => throw (f e)) :=
  fun committed working exported n => (hx committed working exported n).tryCatch fun _ =>
    Prog.triple_throw fun _ h => h

variable (env) in
/-- A given outcome advances nothing. -/
theorem advances_ofExcept (r : Except Failure α) : Advances env [] (Session.ofExcept r) := by
  cases r with
  | ok a => exact advances_pure a
  | error e => exact advances_throw e

/-- A statement advances by itself. -/
theorem advances_dbStep (step : DbStep) : Advances env [step] (dbStep env step) := by
  intro committed working exported n w hw
  unfold dbStep
  simp only [Prog.exec_bind, Prog.exec_get, Prog.exec_modify]
  cases h : env.fault step w.steps with
  | none =>
    refine ⟨⟨hw.committed_eq, hw.working_eq, hw.exported_eq, ?_⟩, ?_⟩
    · exact congrArg (· + 1) hw.steps_eq
    · rw [hw.steps_eq] at h
      exact ⟨h, trivial⟩
  | some error => exact hw.stopped

/-- A look at the clock advances nothing. -/
theorem advances_now : Advances env [] (now env) :=
  fun _ _ _ _ _ hw => ⟨⟨hw.1, hw.2, hw.3, hw.4⟩, trivial⟩

/-- A new identifier advances nothing. -/
theorem advances_uuid4 : Advances env [] (uuid4 env) :=
  fun _ _ _ _ _ hw => ⟨⟨hw.1, hw.2, hw.3, hw.4⟩, trivial⟩

variable (env) in
/-- A look at the tables advances nothing. -/
theorem advances_workingTables : Advances env [] workingTables :=
  fun _ _ _ _ _ hw => ⟨⟨hw.1, hw.2, hw.3, hw.4⟩, trivial⟩

/-- A change beside the checkpoint advances nothing. -/
theorem advances_modifyWorking {f : Tables → Tables}
    (hf : ∀ t, (f t).checkpoint = t.checkpoint) : Advances env [] (modifyWorking f) :=
  fun _ _ _ _ _ hw => ⟨⟨hw.1, (hf _).trans hw.2, hw.3, hw.4⟩, trivial⟩

end Rules

section Programs

variable {env : Env} {assessmentId : UUID} {committed working : Option RuntimeAssessmentState}
  {exported : List TelemetrySummary} {n : ℕ}

/-- `get_by_id` advances by its statement. -/
theorem advances_getById : Advances env [.getAssessment] (getById env) :=
  (advances_dbStep _).bind fun _ => (advances_workingTables env).bind fun _ => advances_pure _

/-- The reading of a checkpoint advances nothing. -/
theorem advances_stateFromModel (state : RuntimeAssessmentState) :
    Advances env [] (stateFromModel state) := by
  unfold stateFromModel
  split
  · exact advances_pure _
  · exact advances_throw _

/-- `get_state` advances by its statement. -/
theorem advances_getState : Advances env [.getState] (getState env) := by
  unfold getState
  refine (advances_dbStep _).bind fun _ => (advances_workingTables env).bind (s := []) fun t => ?_
  cases t.checkpoint with
  | none => exact advances_pure _
  | some state => exact (advances_stateFromModel state).bind fun _ => advances_pure _

/-- A read of a required row advances by its statement. -/
theorem advances_requiredAssessment : Advances env [.getAssessment] (requiredAssessment env) := by
  refine advances_getById.bind (s := []) fun record => ?_
  cases record with
  | none => exact advances_throw _
  | some row => exact advances_pure _

/-- A read of a required checkpoint advances by two statements. -/
theorem advances_requiredState :
    Advances env [.getAssessment, .getState] (requiredState env) := by
  refine advances_requiredAssessment.bind (s := [.getState]) fun _ => ?_
  refine (advances_getState.tryCatch_throw _).bind (s := []) fun state => ?_
  cases state with
  | none => exact advances_throw _
  | some state => exact advances_pure _

/-- A read of a checkpoint in a status advances by the same two statements. -/
theorem advances_requiredStateIn (status : HumanReviewStatus) :
    Advances env [.getAssessment, .getState] (requiredStateIn env status) := by
  refine advances_requiredState.bind (s := []) fun state => ?_
  split
  · exact advances_pure _
  · exact advances_throw _

/-- The append of an event to the telemetry advances nothing. -/
theorem advances_appendEvent (telemetry : OperationalTelemetry) (eventType : RuntimeTraceEventType)
    (status component : Str) :
    Advances env [] (appendEvent env telemetry eventType status component) :=
  advances_now.bind fun _ => advances_pure _

/-- The telemetry of a review advances nothing. -/
theorem advances_reviewTelemetry (state : RuntimeAssessmentState) (status : HumanReviewStatus)
    (eventType : RuntimeTraceEventType) :
    Advances env [] (reviewTelemetry env state status eventType) :=
  advances_now.bind fun _ => (advances_appendEvent _ _ _ _).bind fun _ =>
    advances_appendEvent _ _ _ _

/-- `add_review_event` advances by its statement. -/
theorem advances_addReviewEvent (v : EventValues) :
    Advances env [.addReviewEvent] (addReviewEvent env assessmentId v) := by
  refine advances_uuid4.bind fun _ => advances_now.bind fun _ => (advances_workingTables env).bind
    (s := [.addReviewEvent]) fun t => ?_
  split
  · exact advances_throw _
  · refine Advances.bind (r := []) (advances_modifyWorking fun _ => rfl) fun _ => ?_
    exact (advances_dbStep _).bind fun _ => advances_pure _

/-- Assigning the row takes its step when there is a row. -/
theorem triple_updateRow (step : DbStep) (assign : Time → AssessmentRow → AssessmentRow) :
    Prog.Triple (World.Stands committed working exported n) (updateRow env step assign)
      (fun record w => w.Stopped committed exported ∧ (record ≠ none →
        w.Stands committed working exported (n + 1) ∧ env.fault step n = none))
      (fun _ w => w.Stopped committed exported) := by
  refine (advances_workingTables env).bind_triple fun t _ => ?_
  cases t.assessment with
  | none => exact Prog.triple_pure fun w h => ⟨h.stopped, by simp⟩
  | some row =>
    have h : Advances env [step] (do
        let time ← now env
        modifyWorking fun t => { t with assessment := some (assign time row) }
        dbStep env step
        pure (some (assign time row))) := by
      refine advances_now.bind fun _ => ?_
      refine Advances.bind (r := []) (advances_modifyWorking fun _ => rfl) fun _ => ?_
      exact (advances_dbStep _).bind fun _ => advances_pure _
    refine (h committed working exported n).conseq (fun _ h => h) ?_ (fun _ _ h => h)
    rintro record w ⟨hw, hpasses⟩
    exact ⟨hw.stopped, fun _ => ⟨hw, hpasses.1⟩⟩

/-- A checkpoint that has been saved is the checkpoint of the session, with the given
summary. -/
theorem triple_saveState (v : StateValues) :
    Prog.Triple (World.Stands committed working exported n) (saveState env assessmentId v)
      (fun _ w => ∃ state : RuntimeAssessmentState,
        state.summary = (v.telemetry, v.gateResult) ∧
        w.Stands committed (some state) exported (n + 1) ∧ env.fault .saveState n = none)
      (fun _ w => w.Stopped committed exported) := by
  refine advances_now.bind_triple fun time _ => ?_
  refine (advances_workingTables env).bind_triple fun t _ => ?_
  refine Prog.Triple.bind (Q := fun _ w => w.Stands committed
    (some (v.toState assessmentId time t.checkpoint)) exported n)
    (Prog.triple_modify fun w hw => ⟨hw.1, rfl, hw.3, hw.4⟩) fun _ => ?_
  have h : Advances env [.saveState] (do
      dbStep env .saveState
      if v.revisionCount ≤ v.maxRevisions then
        stateFromModel (v.toState assessmentId time t.checkpoint)
      else throw (.database .other)) := by
    refine (advances_dbStep _).bind (s := []) fun _ => ?_
    split
    · exact advances_stateFromModel _
    · exact advances_throw _
  refine (h _ _ _ _).conseq (fun _ h => h) ?_ (fun _ _ h => h)
  rintro state w ⟨hw, hpasses⟩
  exact ⟨v.toState assessmentId time t.checkpoint, rfl, hw, hpasses.1⟩

/-- A commit publishes the checkpoint of the session. -/
theorem triple_commit (step : DbStep) :
    Prog.Triple (World.Stands committed working exported n) (commit env step)
      (fun _ w => w.Stands working working exported (n + 1) ∧ env.fault step n = none)
      (fun _ w => w.Stopped committed exported) := by
  refine (advances_dbStep step).bind_triple fun _ hpasses w hw => ?_
  exact ⟨⟨hw.working_eq, hw.working_eq, hw.exported_eq, hw.steps_eq⟩, hpasses.1⟩

/-- Handing telemetry to the exporter is one export. -/
theorem triple_exportTelemetry {α : Type} (telemetry : OperationalTelemetry)
    (gateResult : QualityGateResult) (a : α) {E : Failure → World → Prop} :
    Prog.Triple (World.Stands committed working exported n)
      (do exportTelemetry telemetry gateResult; pure a)
      (fun _ w => w.Stands committed working (exported ++ [(telemetry, gateResult)]) n) E := by
  rintro w ⟨hcommitted, hworking, rfl, hsteps⟩
  exact ⟨hcommitted, hworking, rfl, hsteps⟩

/-- The end of `process_candidate`: the review request, where there is one, and the
export. -/
theorem triple_requestAndExport {α : Type} (p : Prop) [Decidable p] (v : EventValues)
    (telemetry : OperationalTelemetry) (gateResult : QualityGateResult) (a : α) :
    Prog.Triple (World.Stands committed working exported n)
      (if p then do
        let _ ← addReviewEvent env assessmentId v
        exportTelemetry telemetry gateResult
        pure a
      else do
        exportTelemetry telemetry gateResult
        pure a)
      (fun _ w => w.Stands committed working (exported ++ [(telemetry, gateResult)])
          (n + (if p then [DbStep.addReviewEvent] else []).length) ∧
        env.PassesFrom n (if p then [DbStep.addReviewEvent] else []))
      (fun _ w => w.Stopped committed exported) := by
  refine Prog.triple_ite (fun hp => ?_) fun hp => ?_
  · rw [if_pos hp]
    refine (advances_addReviewEvent v).bind_triple fun _ hpasses => ?_
    exact (triple_exportTelemetry telemetry gateResult a).conseq (fun _ h => h)
      (fun _ _ h => ⟨h, hpasses⟩) (fun _ _ h => h)
  · rw [if_neg hp]
    exact (triple_exportTelemetry telemetry gateResult a).conseq (fun _ h => h)
      (fun _ _ h => ⟨h, trivial⟩) (fun _ _ h => h)

/-- The row is moved by the step of the decision. -/
theorem triple_applyDecision (c : Candidate) (decision : RuntimeRiskDecision)
    (telemetry : OperationalTelemetry) :
    Prog.Triple (World.Stands committed working exported n) (applyDecision env c decision telemetry)
      (fun p w => p.1 = gateStatus decision ∧ w.Stopped committed exported ∧ (p.2.1 ≠ none →
        w.Stands committed working exported (n + 1) ∧ env.fault (gateStep decision) n = none))
      (fun _ w => w.Stopped committed exported) := by
  have hmove : ∀ (step : DbStep) (assign : Time → AssessmentRow → AssessmentRow)
      (eventType : RuntimeTraceEventType) (status component : Str)
      (reviewStatus : HumanReviewStatus), reviewStatus = gateStatus decision →
      step = gateStep decision →
      Prog.Triple (World.Stands committed working exported n)
        (do
          let record ← updateRow env step assign
          let telemetry ← appendEvent env telemetry eventType status component
          pure (reviewStatus, record, telemetry))
        (fun p w => p.1 = gateStatus decision ∧ w.Stopped committed exported ∧ (p.2.1 ≠ none →
          w.Stands committed working exported (n + 1) ∧ env.fault (gateStep decision) n = none))
        (fun _ w => w.Stopped committed exported) := by
    rintro step assign eventType status component reviewStatus rfl rfl
    refine (triple_updateRow _ assign).bind fun record => ?_
    rintro w ⟨hstopped, hw⟩
    exact ⟨rfl, hstopped, fun hrecord =>
      ⟨⟨(hw hrecord).1.1, (hw hrecord).1.2, (hw hrecord).1.3, (hw hrecord).1.4⟩, (hw hrecord).2⟩⟩
  cases decision <;> exact hmove _ _ _ _ _ _ rfl rfl

/-- `process_candidate` exports the checkpoint that it leaves in the transaction of its
caller; if it raises, it has exported nothing. -/
theorem triple_processCandidate (service : RuntimeGovernanceService) (c : Candidate)
    (overrides : SignalOverrides) (revisionCount : ℕ) (recordReviewRequest : Bool) :
    Prog.Triple (World.Stands committed working exported n)
      (processCandidate service env assessmentId c overrides revisionCount recordReviewRequest)
      (fun _ w => ∃ state : RuntimeAssessmentState,
        w.Stands committed (some state) (exported ++ [state.summary])
          (n + (service.processSteps c overrides recordReviewRequest).length) ∧
        env.PassesFrom n (service.processSteps c overrides recordReviewRequest))
      (fun _ w => w.Stopped committed exported) := by
  unfold processCandidate RuntimeGovernanceService.processSteps
  cases service.evaluate (c.signals.override overrides) with
  | error e => exact fun w hw => hw.stopped
  | ok gateResult =>
  rw [show Session.ofExcept (.ok gateResult) = (pure gateResult : Session _) from rfl, pure_bind]
  refine advances_now.bind_triple fun time _ => (advances_ofExcept env _).bind_triple
    fun telemetry _ => ?_
  refine (triple_applyDecision c gateResult.decision telemetry).bind ?_
  rintro ⟨reviewStatus, record, telemetry⟩
  cases record with
  | none => exact Prog.triple_throw fun w h => h.2.1
  | some record =>
  rintro w ⟨rfl, -, hw⟩
  obtain ⟨hw, hstep⟩ := hw (by simp)
  refine Prog.Triple.bind (triple_saveState _) (fun _ => ?_) w hw
  rintro w ⟨state, hsummary, hw, hsave⟩
  refine (triple_requestAndExport _ (requestEvent revisionCount gateResult) telemetry gateResult
    record).conseq (fun _ h => h) ?_ (fun _ _ h => h) w hw
  rintro _ w ⟨hw, hpasses⟩
  refine ⟨state, ?_, hstep, hsave, hpasses⟩
  rw [hsummary]
  simpa [gateSteps, Nat.add_assoc, Nat.add_comm 2] using hw

/-- A transition that has been committed and exported once. -/
def World.Announced (exported : List TelemetrySummary) (w : World) : Prop :=
  ∃ state : RuntimeAssessmentState, w.db.committed.checkpoint = some state ∧
    w.exported = exported ++ [state.summary]

/-- A transition that is finished with the summary of its checkpoint is announced. -/
theorem triple_finishTransition {α : Type} {state : RuntimeAssessmentState} (a : α) :
    Prog.Triple (World.Stands committed (some state) exported n)
      (finishTransition env state.telemetry state.gateResult a)
      (fun _ w => w.Announced exported) (fun _ w => w.Stopped committed exported) := by
  refine (triple_commit _).bind fun _ => ?_
  refine (triple_exportTelemetry state.telemetry state.gateResult a).conseq (fun _ h => h.1) ?_
    (fun _ _ h => h)
  exact fun _ w hw => ⟨state, hw.committed_eq, hw.exported_eq⟩

/-- A reviewer action announces its transition, or it raises and exports nothing. -/
theorem triple_persistTransition {α : Type} (state : RuntimeAssessmentState)
    (action : HumanReviewAction) (newStatus : HumanReviewStatus) (request : HumanReviewRequest)
    (telemetry : OperationalTelemetry) (principal : Option AuthenticatedPrincipal) (revision : ℕ)
    (a : α) :
    Prog.Triple (World.Stands committed working exported n)
      (do
        persistTransition env assessmentId state action newStatus request telemetry principal
          revision
        finishTransition env telemetry state.gateResult a)
      (fun _ w => w.Announced exported) (fun _ w => w.Stopped committed exported) := by
  unfold persistTransition
  rw [bind_assoc]
  refine (triple_saveState _).bind fun _ => ?_
  rintro w ⟨saved, hsummary, hw, -⟩
  obtain ⟨rfl, hgate⟩ := Prod.mk.inj hsummary
  rw [← show saved.gateResult = state.gateResult from hgate]
  rw [bind_assoc]
  refine Advances.bind_triple (advances_addReviewEvent _) (fun _ _ => ?_) w hw
  exact triple_finishTransition a

end Programs

section Reviewer

variable {env : Env} {assessmentId : UUID} {committed working : Option RuntimeAssessmentState}
  {exported : List TelemetrySummary} {n : ℕ}

/-- An approval announces its commit, or it stops with what was committed. -/
theorem triple_approve (request : HumanReviewRequest) (principal : Option AuthenticatedPrincipal) :
    Prog.Triple (World.Stands committed working exported n)
      (approve env assessmentId request principal)
      (fun _ w => w.Announced exported) (fun _ w => w.Stopped committed exported) := by
  refine (advances_requiredStateIn _).bind_triple fun state _ => ?_
  cases state.candidateResult with
  | none => exact Prog.triple_throw fun _ h => h.stopped
  | some result =>
  refine (triple_updateRow _ _).bind fun record => ?_
  cases record with
  | none => exact Prog.triple_throw fun _ h => h.1
  | some record =>
  rintro w ⟨-, hw⟩
  refine (advances_reviewTelemetry state _ _).bind_triple (fun telemetry _ => ?_) w
    (hw (by simp)).1
  exact triple_persistTransition state _ _ request telemetry principal _ _

/-- A rejection announces its commit, or it stops with what was committed. -/
theorem triple_reject (request : HumanReviewRequest) (principal : Option AuthenticatedPrincipal) :
    Prog.Triple (World.Stands committed working exported n)
      (reject env assessmentId request principal)
      (fun _ w => w.Announced exported) (fun _ w => w.Stopped committed exported) := by
  refine (advances_requiredStateIn _).bind_triple fun state _ => ?_
  refine (triple_updateRow _ _).bind fun record => ?_
  cases record with
  | none => exact Prog.triple_throw fun _ h => h.1
  | some record =>
  rintro w ⟨-, hw⟩
  refine (advances_reviewTelemetry state _ _).bind_triple (fun telemetry _ => ?_) w
    (hw (by simp)).1
  exact triple_persistTransition state _ _ request _ principal _ _

/-- A request for a revision announces its commit, or it stops with what was committed. -/
theorem triple_requestRevision (request : HumanReviewRequest)
    (principal : Option AuthenticatedPrincipal) :
    Prog.Triple (World.Stands committed working exported n)
      (requestRevision env assessmentId request principal)
      (fun _ w => w.Announced exported) (fun _ w => w.Stopped committed exported) := by
  refine (advances_requiredStateIn _).bind_triple fun state _ => ?_
  refine Prog.triple_ite (fun _ => Prog.triple_throw fun _ h => h.stopped) fun _ => ?_
  refine (advances_reviewTelemetry state _ _).bind_triple fun telemetry _ => ?_
  exact triple_persistTransition state _ _ request telemetry principal _ _

end Reviewer

/-! ## Requests -/

section Requests

variable (service : RuntimeGovernanceService) (env : Env) (assessmentId : UUID)

/-- The request resumes a revision and gets past `process_candidate`: the checkpoint asks
for a revision, the gate carries out its transition, and none of the database steps so
far fails. -/
def ReviewOp.ExportsEarly : ReviewOp → Tables → Prop
  | .resumeRevision c, t => ∃ state tr, t.requiredIn .revisionRequested = .ok state ∧
    processTransition service env assessmentId { c with retrievalDurationMs := none } {}
      state.revisionCount false 0 t = .ok tr ∧
    env.PassesFrom 0 ([.getAssessment, .getState] ++
      service.processSteps { c with retrievalDurationMs := none } {} false)
  | _, _ => False

variable {service env assessmentId}

/-- A session that has just been opened. -/
theorem World.stands_open (t : Tables) :
    World.Stands t.checkpoint t.checkpoint [] 0 { db := .open t } :=
  ⟨rfl, rfl, rfl, rfl⟩

/-- A resumed revision that does not get past `process_candidate` raises, and it exports
nothing. -/
theorem exec_resumeRevision {c : Candidate} {t : Tables}
    (h : ¬ (ReviewOp.resumeRevision c).ExportsEarly service env assessmentId t) :
    ∃ e w, Prog.exec (resumeRevision service env assessmentId c) { db := .open t } =
      (.error e, w) ∧ w.Stopped t.checkpoint [] := by
  have hread := (advances_requiredStateIn .revisionRequested : Advances env _ _) _ _ _ _ _
    (World.stands_open t)
  have hstate := computes_requiredStateIn env (Db.open t) .revisionRequested
    { db := .open t } rfl
  unfold resumeRevision
  rw [Prog.exec_bind]
  generalize Prog.exec (requiredStateIn env .revisionRequested) { db := .open t } = first
    at hread hstate ⊢
  rcases first with ⟨e | _, w⟩
  · exact ⟨e, w, rfl, hread⟩
  obtain ⟨hw, hpasses⟩ := hread
  obtain ⟨state, hrequired, heq⟩ := except_map_eq_ok.mp hstate.1
  obtain ⟨rfl, hdb⟩ := Prod.mk.inj heq
  obtain ⟨row, hrow⟩ := Option.ne_none_iff_exists'.mp (Tables.requiredIn_eq_ok hrequired).1
  have hexport := (triple_processCandidate service { c with retrievalDurationMs := none } {}
    state.revisionCount false : Prog.Triple _ (processCandidate service env assessmentId _ _ _ _)
      _ _) w hw
  have hprocess := computes_processCandidate service env assessmentId rfl hrow
    { c with retrievalDurationMs := none } {} state.revisionCount false w hdb.symm
  dsimp only
  rw [Prog.exec_bind]
  generalize Prog.exec (processCandidate service env assessmentId
    { c with retrievalDurationMs := none } {} state.revisionCount false) w = second
    at hexport hprocess ⊢
  rcases second with ⟨e | record, w'⟩
  · exact ⟨e, w', rfl, hexport⟩
  · obtain ⟨_, -, hpasses'⟩ := hexport
    obtain ⟨tr, htr, -⟩ := except_map_eq_ok.mp hprocess.1
    exact absurd ⟨state, tr, hrequired, htr, Env.passesFrom_append.mpr ⟨hpasses, hpasses'⟩⟩ h

/-- The checkpoint of a successful request differs from the one that it has found. -/
theorem ReviewOp.transition_checkpoint_ne {op : ReviewOp} {t : Tables} {tr : Transition}
    (h : op.transition service env assessmentId t = .ok tr) :
    (tr.apply t).checkpoint ≠ t.checkpoint := by
  obtain ⟨state, row, -, hcheckpoint, -, hstatus, hcase⟩ := ReviewOp.transition_eq_ok h
  rw [hcheckpoint]
  intro heq
  have hsame : tr.checkpoint.reviewStatus = op.accepts := by
    rw [← hstatus, ← Option.some.inj heq]
  rcases hcase with ⟨action, newStatus, revision, write, request, principal, telemetry, n, haction,
    -, -, rfl⟩ | ⟨c, rfl, hresume⟩
  · cases haction <;> cases hsame
  · obtain ⟨gateResult, telemetry, -, -, -, rfl⟩ := resumeTransition_eq_ok hresume
    exact gateStatus_ne_revisionRequested _ hsame

/-- A request that exports exactly what it commits: it has done neither, or it has
announced a new checkpoint. -/
def World.Settled (before : Option RuntimeAssessmentState) (w : World) : Prop :=
  w.Stopped before [] ∨ w.Announced [] ∧ w.db.committed.checkpoint ≠ before

/-- A settled world has exported the summaries of its new checkpoints. -/
theorem World.Settled.exported_eq {before : Option RuntimeAssessmentState} {w : World}
    (h : w.Settled before) :
    w.exported = (newCheckpoints before w.db.committed.checkpoint).map
      RuntimeAssessmentState.summary := by
  unfold newCheckpoints
  rcases h with ⟨hcommitted, hexported⟩ | ⟨⟨state, hcommitted, hexported⟩, hne⟩
  · rw [if_pos hcommitted, hexported]
    rfl
  · rw [if_neg hne, hcommitted, hexported]
    rfl

/-- Each of the reviewer actions announces its transition, or it exports nothing. -/
theorem ReviewOp.triple_program (op : ReviewOp) (t : Tables)
    (h : ¬ op.ExportsEarly service env assessmentId t) :
    Prog.Triple (fun w => w = { db := .open t }) (op.program service env assessmentId)
      (fun _ w => w.Announced []) (fun _ w => w.Stopped t.checkpoint []) := by
  have hopen : ∀ w : World, w = { db := .open t } →
      w.Stands t.checkpoint t.checkpoint [] 0 := by
    rintro w rfl
    exact World.stands_open t
  cases op with
  | approve request principal =>
    exact ((triple_approve request principal).conseq hopen (fun _ _ h => h) fun _ _ h => h).bind
      fun _ => Prog.triple_pure fun _ h => h
  | reject request principal =>
    exact ((triple_reject request principal).conseq hopen (fun _ _ h => h) fun _ _ h => h).bind
      fun _ => Prog.triple_pure fun _ h => h
  | requestRevision request principal =>
    exact ((triple_requestRevision request principal).conseq hopen (fun _ _ h => h)
      fun _ _ h => h).bind fun _ => Prog.triple_pure fun _ h => h
  | resumeRevision c =>
    rintro w rfl
    obtain ⟨e, w', hexec, hstopped⟩ := exec_resumeRevision h
    unfold ReviewOp.program
    rw [Prog.exec_bind, hexec]
    exact hstopped

/-- A review request that does not export early exports exactly what it commits. -/
theorem ReviewOp.settled (op : ReviewOp) (t : Tables)
    (h : ¬ op.ExportsEarly service env assessmentId t) :
    (Prog.exec (op.program service env assessmentId) { db := .open t }).2.Settled
      t.checkpoint := by
  have hpublish := (ReviewOp.publishes service env assessmentId (Db.open t) op rfl rfl).outcome
    (w := { db := .open t }) rfl
  have hannounce := op.triple_program t h { db := .open t } rfl
  generalize Prog.exec (op.program service env assessmentId) { db := .open t } = result
    at hpublish hannounce ⊢
  rcases result with ⟨e | a, w⟩
  · exact .inl hannounce
  · refine .inr ⟨hannounce, ?_⟩
    rcases hpublish with ⟨_, -, hcommitted⟩ | ⟨_, herror, -⟩
    · obtain ⟨tr, htr, hpublished⟩ := except_map_eq_ok.mp hcommitted
      rw [← hpublished]
      exact ReviewOp.transition_checkpoint_ne htr
    · cases herror

end Requests

/-! ## Generation -/

section Generation

variable {service : AssessmentService} {env : Env} {assessmentId : UUID} {α : Type}

/-- A commit without a fault succeeds. -/
theorem exec_commit {step : DbStep} {w : World} (h : env.fault step w.steps = none) :
    ∃ w', Prog.exec (commit env step) w = (.ok (), w') := by
  unfold commit dbStep
  simp only [Prog.exec_bind, Prog.exec_get, Prog.exec_modify, h]
  exact ⟨_, rfl⟩

/-- Answering a database error neither commits nor exports. -/
theorem triple_guardDatabase {P : World → Prop} {x : Session α} {Q : α → World → Prop}
    {committed : Option RuntimeAssessmentState} {exported : List TelemetrySummary}
    (hx : Prog.Triple P x Q fun _ w => w.Stopped committed exported) :
    Prog.Triple P (guardDatabase env x) Q fun _ w => w.Stopped committed exported := by
  refine hx.tryCatch fun e w hw => ?_
  cases e with
  | database error =>
    unfold handleDatabaseError rollback dbStep
    simp only [Prog.exec_bind, Prog.exec_tryCatch, Prog.exec_get, Prog.exec_modify]
    cases env.fault .rollback w.steps with
    | none => exact hw
    | some error => exact hw
  | application _ => exact hw
  | value => exact hw
  | other => exact hw

/-- `create` advances by its statement. -/
theorem advances_create (request : AssessmentRequest) (subject : Option Str) :
    Advances env [.create] (create env assessmentId request subject) := by
  refine advances_now.bind fun _ => ?_
  refine Advances.bind (r := []) (advances_modifyWorking fun _ => rfl) fun _ => ?_
  exact (advances_dbStep _).bind fun _ => advances_pure _

/-- The database steps of the first two phases. -/
def startSteps : List DbStep := [.create, .commitCreated, .markProcessing, .commitProcessing]

/-- The creation phase takes the first two steps. -/
theorem triple_creation (request : AssessmentRequest) (subject : Option Str) :
    Prog.Triple (World.Stands none none [] 0)
      (do
        let _ ← create env assessmentId request subject
        commit env .commitCreated)
      (fun _ w => w.Stands none none [] 2 ∧ env.PassesFrom 0 [.create, .commitCreated])
      (fun _ w => w.Stopped none []) := by
  refine (advances_create request _).bind_triple fun _ hpasses => ?_
  exact (triple_commit _).conseq (fun _ h => h) (fun _ _ h => ⟨h.1, hpasses.1, h.2, trivial⟩)
    fun _ _ h => h

variable (env) in
/-- The processing phase takes the next two steps. -/
theorem triple_processing :
    Prog.Triple (World.Stands none none [] 2)
      (do
        match ← markProcessing env with
        | none => throw (.application .persistence)
        | some _ => commit env .commitProcessing)
      (fun _ w => w.Stands none none [] 4 ∧ env.PassesFrom 2 [.markProcessing, .commitProcessing])
      (fun _ w => w.Stopped none []) := by
  refine (triple_updateRow _ _).bind fun record => ?_
  cases record with
  | none => exact Prog.triple_throw fun _ h => h.1
  | some row =>
    rintro w ⟨-, hw⟩
    obtain ⟨hw, hmark⟩ := hw (by simp)
    exact (triple_commit _).conseq (fun _ h => h) (fun _ _ h => ⟨h.1, hmark, h.2, trivial⟩)
      (fun _ _ h => h) w hw

variable (env assessmentId) in
/-- The first two phases reach `PROCESSING` by their four steps; they neither store a
checkpoint nor export. -/
theorem triple_startAssessment (request : AssessmentRequest)
    (principal : Option AuthenticatedPrincipal) :
    Prog.Triple (fun w => w = { db := .open {} })
      (startAssessment env assessmentId request principal)
      (fun _ w => w.db = Db.started (startedRow env assessmentId request principal) ∧
        w.Stands none none [] startSteps.length ∧ env.PassesFrom 0 startSteps)
      (fun _ w => w.Stopped none []) := by
  refine Prog.Triple.bind (triple_guardDatabase (((computes_creation assessmentId request
    principal env).and (triple_creation request _)).conseq ?_ (fun _ _ h => h)
      fun _ _ h => h.2)) fun _ => ?_
  · rintro w rfl
    exact ⟨rfl, World.stands_open {}⟩
  · refine triple_guardDatabase ?_
    rintro w ⟨⟨hdb, -⟩, hw, hpasses⟩
    refine ((computes_processing assessmentId request principal env).and
      (triple_processing env)).conseq (fun _ h => h) ?_ (fun _ _ h => h.2) w ⟨?_, hw⟩
    · rintro _ w' ⟨⟨hdb', -⟩, hw', hpasses'⟩
      exact ⟨(Prod.mk.inj (Except.ok.inj hdb')).2.symm, hw', hpasses.1, hpasses.2.1, hpasses'⟩
    · exact (Prod.mk.inj (Except.ok.inj hdb)).2.symm

variable (env) in
/-- The failure write neither stores a checkpoint nor exports. -/
theorem triple_persistFailure (errorCode errorMessage : Str) {n : ℕ} :
    Prog.Triple (World.Stands none none [] n) (persistFailure env errorCode errorMessage)
      (fun _ w => w.Stopped none []) (fun _ w => w.Stopped none []) := by
  refine triple_guardDatabase ((triple_updateRow _ _).bind fun record => ?_)
  cases record with
  | none => exact Prog.triple_throw fun _ h => h.1
  | some row =>
    rintro w ⟨-, hw⟩
    exact (triple_commit _).conseq (fun _ h => h) (fun _ _ h => h.1.stopped) (fun _ _ h => h) w
      (hw (by simp)).1

variable (env assessmentId) in
/-- Without a gate the last phase exports nothing. -/
theorem triple_finalizeCandidate_ungated (c : Candidate) {n : ℕ}
    (hgate : service.runtimeGovernance = none) :
    Prog.Triple (World.Stands none none [] n) (finalizeCandidate service env assessmentId c)
      (fun _ w => w.Stopped none []) (fun _ w => w.Stopped none []) := by
  unfold finalizeCandidate recordCandidate
  rw [hgate]
  refine triple_guardDatabase ((triple_updateRow _ _).bind fun record => ?_)
  cases record with
  | none => exact Prog.triple_throw fun _ h => h.1
  | some row =>
    rintro w ⟨-, hw⟩
    refine (triple_commit .commit).bind (fun _ => ?_) w (hw (by simp)).1
    exact Prog.triple_pure fun _ h => h.1.stopped

/-- With a gate the last phase is settled unless the commit fails after the gate has
exported. -/
theorem exec_finalizeCandidate_gated {governance : RuntimeGovernanceService} {c : Candidate}
    {row : AssessmentRow} {n : ℕ} {w : World} (hgate : service.runtimeGovernance = some governance)
    (hdb : w.db = Db.started row) (hw : w.Stands none none [] n)
    (hcommit : ∀ tr, processTransition governance env assessmentId c {} 0 true 2
        { assessment := some row } = .ok tr →
      env.PassesFrom n (governance.processSteps c {} true) →
      env.fault .commit (n + (governance.processSteps c {} true).length) = none) :
    (Prog.exec (finalizeCandidate service env assessmentId c) w).2.Settled none := by
  have hexport := (triple_processCandidate governance c {} 0 true : Prog.Triple _
    (processCandidate governance env assessmentId _ _ _ _) _ _) w hw
  have hprocess := computes_processCandidate governance env assessmentId (d := Db.started row) rfl
    rfl c {} 0 true w hdb
  have hfinal : Prog.Triple (fun w' => w' = w)
      (do
        let record ← recordCandidate service env assessmentId c
        commitRecord env record)
      (fun _ w => w.Settled none) (fun _ w => w.Stopped none []) := by
    rintro w rfl
    unfold recordCandidate
    rw [hgate]
    dsimp only
    rw [map_eq_pure_bind, bind_assoc, Prog.exec_bind]
    generalize Prog.exec (processCandidate governance env assessmentId c {} 0 true) w = result
      at hexport hprocess ⊢
    rcases result with ⟨e | record, w'⟩
    · exact hexport
    · obtain ⟨state, hw', hpasses⟩ := hexport
      obtain ⟨tr, htr, -⟩ := except_map_eq_ok.mp hprocess.1
      have hpass := hcommit tr htr hpasses
      rw [← hw'.steps_eq] at hpass
      obtain ⟨w'', hexec⟩ := exec_commit hpass
      have hcommitted := (triple_commit .commit).of_ok hw' hexec
      dsimp only
      rw [pure_bind]
      unfold commitRecord
      rw [Prog.exec_bind, hexec]
      refine .inr ⟨⟨state, hcommitted.1.committed_eq, hcommitted.1.exported_eq⟩, ?_⟩
      rw [hcommitted.1.committed_eq]
      simp
  have hguard := (triple_guardDatabase hfinal : Prog.Triple _ (guardDatabase env _) _ _) w rfl
  unfold finalizeCandidate
  generalize Prog.exec (guardDatabase env _) w = result at hguard ⊢
  rcases result with ⟨e | a, w'⟩
  · exact .inl hguard
  · exact hguard

variable (service env) in
/-- The gate has exported the candidate of a request and its commit fails: the router, the
generation, the gate and all database steps before the commit succeed. -/
def AssessmentService.ExportsUncommitted (timers : Timers) (assessmentId : UUID)
    (request : AssessmentRequest) (principal : Option AuthenticatedPrincipal) : Prop :=
  ∃ governance routing c tr, service.runtimeGovernance = some governance ∧
    service.routeExecution request = .ok routing ∧
    service.generate env.requestId timers assessmentId request routing = .ok c ∧
    processTransition governance env assessmentId c {} 0 true 2
      { assessment := some (startedRow env assessmentId request principal) } = .ok tr ∧
    env.PassesFrom 0 (startSteps ++ governance.processSteps c {} true) ∧
    env.fault .commit (startSteps ++ governance.processSteps c {} true).length ≠ none

/-- `generate_assessment` exports exactly what it commits, unless the commit fails after
the gate has exported. -/
theorem generateAssessment_settled {timers : Timers} {request : AssessmentRequest}
    {principal : Option AuthenticatedPrincipal}
    (h : ¬ service.ExportsUncommitted env timers assessmentId request principal) :
    (Prog.exec (generateAssessment service env timers assessmentId request principal)
      { db := .open {} }).2.Settled none := by
  have hstart := triple_startAssessment env assessmentId request principal { db := .open {} } rfl
  unfold generateAssessment
  rw [Prog.exec_bind]
  generalize Prog.exec (startAssessment env assessmentId request principal)
    { db := .open {} } = start at hstart ⊢
  rcases start with ⟨e | _, w⟩
  · exact .inl hstart
  obtain ⟨hdb, hw, hpasses⟩ := hstart
  dsimp only
  cases hroute : service.routeExecution request with
  | error e => exact .inl hw.stopped
  | ok routing =>
  rw [show Session.ofExcept (.ok routing) = (pure routing : Session _) from rfl, pure_bind]
  cases hgenerate : service.generate env.requestId timers assessmentId request routing with
  | error e =>
    dsimp only
    rw [Prog.exec_bind_state fun _ _ => rfl]
    exact .inl ((triple_persistFailure env _ _).state hw)
  | ok c =>
    have hfinal : (Prog.exec (finalizeCandidate service env assessmentId c) w).2.Settled none := by
      cases hgate : service.runtimeGovernance with
      | none =>
        exact .inl ((triple_finalizeCandidate_ungated env assessmentId c hgate).state hw)
      | some governance =>
        refine exec_finalizeCandidate_gated hgate hdb hw fun tr htr hsteps => ?_
        by_contra hfault
        rw [← List.length_append] at hfault
        exact h ⟨governance, routing, c, tr, hgate, hroute, hgenerate, htr,
          Env.passesFrom_append.mpr ⟨hpasses, by rwa [Nat.zero_add]⟩, hfault⟩
    dsimp only
    rwa [Prog.exec_bind_state fun record w => Session.ofExcept_state (toResponse record) w]

end Generation

/-! ## Runs -/

section Runs

variable (service : AssessmentService) (governance : RuntimeGovernanceService)
  (assessmentId : UUID)

/-- The arguments of `generate_assessment`, with the environment of the request. -/
structure GenerationRequest where
  env : Env
  timers : Timers
  request : AssessmentRequest
  principal : Option AuthenticatedPrincipal

/-- One generation and any sequence of review requests, each in its own session and
environment. -/
def lifecycleRun (generation : GenerationRequest) (reviews : List (Env × ReviewOp)) :
    LifecycleRecord :=
  reviews.foldl (fun r review => r.request (review.2.program governance review.1 assessmentId))
    (LifecycleRecord.request {} (generateAssessment service generation.env generation.timers
      assessmentId generation.request generation.principal))

/-- The last request of a run works on the tables that the run before it has left. -/
theorem lifecycleRun_tables_append (generation : GenerationRequest)
    (earlier : List (Env × ReviewOp)) (env : Env) (op : ReviewOp) :
    (lifecycleRun service governance assessmentId generation (earlier ++ [(env, op)])).tables =
      performRequest governance assessmentId env op
        (lifecycleRun service governance assessmentId generation earlier).tables := by
  unfold lifecycleRun
  rw [List.foldl_append]
  rfl

/-- No step of the run exports a transition that it does not commit exactly once: the
commit of the generation does not fail after the gate has exported, and no resumed
revision gets past `process_candidate`. -/
def RunCommits (generation : GenerationRequest) (reviews : List (Env × ReviewOp)) : Prop :=
  ¬ service.ExportsUncommitted generation.env generation.timers assessmentId generation.request
      generation.principal ∧
  ∀ earlier env op later, reviews = earlier ++ (env, op) :: later →
    ¬ op.ExportsEarly governance env assessmentId
      (lifecycleRun service governance assessmentId generation earlier).tables

/-- In every run whose steps meet the condition, the summaries handed to the exporter are
those of the committed transitions, one for each and in their order. -/
theorem exports_match_commits (generation : GenerationRequest) (reviews : List (Env × ReviewOp))
    (h : RunCommits service governance assessmentId generation reviews) :
    (lifecycleRun service governance assessmentId generation reviews).Faithful := by
  obtain ⟨hgeneration, hreviews⟩ := h
  induction reviews using List.reverseRecOn with
  | nil =>
    exact LifecycleRecord.Faithful.request (r := {}) rfl
      (generateAssessment_settled hgeneration).exported_eq
  | append_singleton earlier review ih =>
    obtain ⟨env, op⟩ := review
    have hbefore := ih fun first env' op' later heq =>
      hreviews first env' op' (later ++ [(env, op)]) (by rw [heq]; simp)
    unfold lifecycleRun at hbefore ⊢
    rw [List.foldl_append]
    exact hbefore.request (op.settled _ (hreviews earlier env op [] rfl)).exported_eq

end Runs

/-- The constant service behind the gate. -/
def AssessmentService.gated : AssessmentService :=
  { AssessmentService.constant with runtimeGovernance := some (.standard .default) }

/-- A generation of the minimal request in the given environment. -/
def GenerationRequest.minimal (env : Env) : GenerationRequest where
  env
  timers := ⟨1, 1⟩
  request := .minimal
  principal := none

/-- A candidate that is held for review and approved is exported twice, once for each
transition. -/
theorem approved_run_exports :
    let r := lifecycleRun .gated (.standard {}) 7 (.minimal (.ticking 0))
      [(.ticking 10, .approve {} none)]
    r.Faithful ∧ r.committed.map (·.reviewStatus) = [.pending, .approved] := by
  refine ⟨exports_match_commits _ _ _ _ _ ⟨?_, ?_⟩, by decide +kernel⟩
  · rintro ⟨_, _, _, _, _, _, _, _, _, hfault⟩
    exact hfault rfl
  · rintro earlier env op later heq
    have hmem : (env, op) ∈ [(Env.ticking 10, ReviewOp.approve {} none)] := by simp [heq]
    obtain ⟨-, rfl⟩ := Prod.mk.inj (List.mem_singleton.mp hmem)
    exact id

/-- A resumed revision exports its one transition twice, and a gated generation whose
last commit fails exports a transition that is not committed. -/
theorem resumed_revision_exports_twice :
    (let r := lifecycleRun .gated (.standard {}) 7 (.minimal (.ticking 0))
      [(.ticking 10, .requestRevision {} none), (.ticking 20, .resumeRevision .highRisk)]
    ¬ r.Faithful ∧ r.committed.map (·.reviewStatus) = [.pending, .revisionRequested, .pending] ∧
      r.exported.length = 4) ∧
    let env : Env :=
      { Env.ticking 0 with
        fault := fun step _ => if step = .commit then some .operational else none }
    let r := lifecycleRun .gated (.standard {}) 7 (.minimal env) []
    ¬ r.Faithful ∧ r.committed = [] ∧ r.exported.length = 1 := by
  have hlength : ∀ r : LifecycleRecord, r.exported.length ≠ r.committed.length → ¬ r.Faithful := by
    intro r hne hfaithful
    rw [hfaithful, List.length_map] at hne
    exact hne rfl
  refine ⟨⟨hlength _ (by decide +kernel), by decide +kernel, by decide +kernel⟩,
    hlength _ (by decide +kernel), by decide +kernel, by decide +kernel⟩

end AssessmentPlatform
