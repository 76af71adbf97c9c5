import AssessmentPlatform.Persistence.Session

/-!
# Repositories

The repository of assessment rows and the repository of checkpoints and review
events, as programs over a session. Each of them flushes its change into the
transaction of its caller; only services commit.
-/

namespace AssessmentPlatform

open Library

/-- Raise the error of a computation that has one. -/
def Session.ofExcept {α : Type} : Except Failure α → Session α
  | .ok a => pure a
  | .error e => throw e

/-- A given outcome leaves the world. -/
theorem Session.ofExcept_state {α : Type} (r : Except Failure α) (w : World) :
    (Prog.exec (Session.ofExcept r) w).2 = w := by
  cases r with
  | ok a => rfl
  | error e => rfl

/-- The actor columns of a review event; they are empty for legacy callers. -/
structure ActorFields where
  reviewerSubject : Option Str := none
  reviewerEmail : Option Str := none
  reviewerRole : Option Str := none
  reviewerIssuer : Option Str := none
  requestId : Option RequestId := none

/-- What a caller of `save_state` provides. -/
structure StateValues where
  gateResult : QualityGateResult
  reviewStatus : HumanReviewStatus
  candidateResult : Option AssessmentResult
  candidateExecution : Option ExecutionMetadata
  telemetry : OperationalTelemetry
  revisionCount : ℕ
  maxRevisions : ℕ

/-- What a caller of `add_review_event` provides. -/
structure EventValues where
  action : HumanReviewAction
  previousStatus : HumanReviewStatus
  newStatus : HumanReviewStatus
  reviewerId : Option Str
  comment : Option Str
  reasonCodes : List RuntimeReasonCode
  revisionNumber : ℕ
  actor : ActorFields := {}

/-- The checkpoint that `save_state` stores at the time `now`; the creation time of an
existing checkpoint is kept. -/
def StateValues.toState (v : StateValues) (assessmentId : UUID) (now : Time)
    (existing : Option RuntimeAssessmentState) : RuntimeAssessmentState where
  assessmentId
  gateResult := v.gateResult
  reviewStatus := v.reviewStatus
  candidateResult := v.candidateResult
  candidateExecution := v.candidateExecution
  telemetry := v.telemetry
  revisionCount := v.revisionCount
  maxRevisions := v.maxRevisions
  createdAt := match existing with
    | some state => state.createdAt
    | none => now
  updatedAt := now

/-- The event that `add_review_event` inserts. -/
def EventValues.toRecord (v : EventValues) (assessmentId reviewId : UUID) (now : Time) :
    HumanReviewRecord where
  reviewId
  assessmentId
  action := v.action
  previousStatus := v.previousStatus
  newStatus := v.newStatus
  reviewerId := v.reviewerId
  reviewerSubject := v.actor.reviewerSubject
  reviewerEmail := v.actor.reviewerEmail
  reviewerRole := v.actor.reviewerRole
  reviewerIssuer := v.actor.reviewerIssuer
  requestId := v.actor.requestId
  comment := v.comment
  reasonCodes := v.reasonCodes
  revisionNumber := v.revisionNumber
  createdAt := now

section Programs

variable (env : Env) (assessmentId : UUID)

/-- `AssessmentRepository.create`. -/
def create (requestPayload : AssessmentRequest) (createdBySubject : Option Str) :
    Session AssessmentRow := do
  let time ← now env
  let row : AssessmentRow :=
    { assessmentId, status := .pending, requestPayload, createdBySubject, createdAt := time,
      updatedAt := time }
  modifyWorking fun t => { t with assessment := some row }
  dbStep env .create
  pure row

/-- `AssessmentRepository.get_by_id`. -/
def getById : Session (Option AssessmentRow) := do
  dbStep env .getAssessment
  let t ← workingTables
  pure t.assessment

/-- The common course of the `mark_*` methods: load the row, assign, and flush. -/
def updateRow (step : DbStep) (assign : Time → AssessmentRow → AssessmentRow) :
    Session (Option AssessmentRow) := do
  let t ← workingTables
  match t.assessment with
  | none => pure none
  | some row =>
    let time ← now env
    modifyWorking fun t => { t with assessment := some (assign time row) }
    dbStep env step
    pure (some (assign time row))

/-- `AssessmentRepository.mark_processing`. -/
def markProcessing : Session (Option AssessmentRow) :=
  updateRow env .markProcessing AssessmentRow.markProcessing

/-- `AssessmentRepository.mark_completed`. -/
def markCompleted (result : AssessmentResult) (execution : Option ExecutionMetadata) :
    Session (Option AssessmentRow) :=
  updateRow env .markCompleted (AssessmentRow.markCompleted result execution)

/-- `AssessmentRepository.mark_pending_review`. -/
def markPendingReview (execution : Option ExecutionMetadata) : Session (Option AssessmentRow) :=
  updateRow env .markPendingReview (AssessmentRow.markPendingReview execution)

/-- `AssessmentRepository.mark_failed`. -/
def markFailed (errorCode errorMessage : Str) (step : DbStep := .markFailed) :
    Session (Option AssessmentRow) :=
  updateRow env step (AssessmentRow.markFailed errorCode errorMessage)

/-- `_state_from_model`: reading a checkpoint validates its telemetry. -/
def stateFromModel (state : RuntimeAssessmentState) : Session RuntimeAssessmentState :=
  if state.telemetry.Valid then pure state else throw .value

/-- `RuntimeReviewRepository.save_state`; the flush checks the bounds of the revision
counters. -/
def saveState (v : StateValues) : Session RuntimeAssessmentState := do
  let time ← now env
  let t ← workingTables
  let state := v.toState assessmentId time t.checkpoint
  modifyWorking fun t => { t with checkpoint := some state }
  dbStep env .saveState
  if v.revisionCount ≤ v.maxRevisions then stateFromModel state
  else throw (.database .other)

/-- `RuntimeReviewRepository.get_state`. -/
def getState : Session (Option RuntimeAssessmentState) := do
  dbStep env .getState
  let t ← workingTables
  match t.checkpoint with
  | none => pure none
  | some state => some <$> stateFromModel state

/-- `RuntimeReviewRepository.add_review_event`; the identifier is the primary key. -/
def addReviewEvent (v : EventValues) : Session HumanReviewRecord := do
  let reviewId ← uuid4 env
  let time ← now env
  let t ← workingTables
  let record := v.toRecord assessmentId reviewId time
  if t.idTaken reviewId then throw (.database .other)
  else
    modifyWorking fun t => { t with events := t.events ++ [record] }
    dbStep env .addReviewEvent
    pure record

/-- `RuntimeReviewRepository.list_review_events`: by creation time and identifier. -/
def listReviewEvents : Session (List HumanReviewRecord) := do
  dbStep env .listReviewEvents
  let t ← workingTables
  pure (t.events.mergeSort HumanReviewRecord.le)

end Programs

section Specifications

variable {env : Env} {assessmentId : UUID} {d : Db}

/-- A given value is computed without a statement. -/
theorem computes_ofExcept_ok {α : Type} {r : Except Failure α} {a : α} (h : r = .ok a) :
    Computes env [] (Session.ofExcept r) d (.ok (a, d)) := by
  rw [h]
  exact computes_pure a

/-- A given failure is computed without a statement. -/
theorem computes_ofExcept_error {α : Type} {r : Except Failure α} {e : Failure}
    (h : r = .error e) : Computes env [] (Session.ofExcept r) d (.error e) := by
  rw [h]
  exact computes_throw e

/-- `get_by_id` computes the row with one statement. -/
theorem computes_getById :
    Computes env [.getAssessment] (getById env) d (.ok (d.working.assessment, d)) :=
  (computes_dbStep _).bind rfl (computes_workingTables.bind rfl (computes_pure _))

/-- The database after the row has been assigned. -/
def Db.assignRow (d : Db) (row : AssessmentRow) : Db :=
  { d with
    readings := d.readings + 1
    working := { d.working with assessment := some row } }

/-- A row that exists is assigned the values of one clock reading. -/
theorem computes_updateRow {step : DbStep} {assign : Time → AssessmentRow → AssessmentRow}
    {row : AssessmentRow} (hrow : d.working.assessment = some row) :
    Computes env [step] (updateRow env step assign) d
      (.ok (some (assign (env.clock d.readings) row),
        d.assignRow (assign (env.clock d.readings) row))) := by
  unfold updateRow
  refine computes_workingTables.bind rfl ?_
  rw [hrow]
  exact computes_now.bind rfl ((computes_modifyWorking _).bind rfl
    ((computes_dbStep _).bind rfl (computes_pure _)))

/-- A valid checkpoint is read as it is. -/
theorem computes_stateFromModel {state : RuntimeAssessmentState} (hvalid : state.telemetry.Valid) :
    Computes env [] (stateFromModel state) d (.ok (state, d)) := by
  unfold stateFromModel
  rw [if_pos hvalid]
  exact computes_pure _

/-- The database after a checkpoint has been written. -/
def Db.putState (d : Db) (state : RuntimeAssessmentState) : Db :=
  { d with
    readings := d.readings + 1
    working := { d.working with checkpoint := some state } }

/-- A checkpoint within its bounds is stored as given. -/
theorem computes_saveState {v : StateValues} (hbound : v.revisionCount ≤ v.maxRevisions)
    (hvalid : v.telemetry.Valid) :
    Computes env [.saveState] (saveState env assessmentId v) d
      (.ok (v.toState assessmentId (env.clock d.readings) d.working.checkpoint,
        d.putState (v.toState assessmentId (env.clock d.readings) d.working.checkpoint))) := by
  unfold saveState
  refine computes_now.bind rfl (computes_workingTables.bind rfl
    ((computes_modifyWorking _).bind rfl ((computes_dbStep _).bind rfl ?_)))
  rw [if_pos hbound]
  exact computes_stateFromModel hvalid

/-- More revisions than allowed violate the constraint of the table. -/
theorem computes_saveState_bound {v : StateValues} (hbound : v.maxRevisions < v.revisionCount) :
    Computes env [.saveState] (saveState env assessmentId v) d (.error (.database .other)) := by
  unfold saveState
  refine computes_now.bind rfl (computes_workingTables.bind rfl
    ((computes_modifyWorking _).bind rfl ((computes_dbStep _).bind rfl ?_)))
  rw [if_neg (not_le.mpr hbound)]
  exact computes_throw _

/-- Without a checkpoint `get_state` computes that there is none. -/
theorem computes_getState_none (h : d.working.checkpoint = none) :
    Computes env [.getState] (getState env) d (.ok (none, d)) := by
  unfold getState
  refine (computes_dbStep _).bind rfl (computes_workingTables.bind rfl ?_)
  rw [h]
  exact computes_pure _

/-- `get_state` computes a valid checkpoint with one statement. -/
theorem computes_getState {state : RuntimeAssessmentState}
    (h : d.working.checkpoint = some state) (hvalid : state.telemetry.Valid) :
    Computes env [.getState] (getState env) d (.ok (some state, d)) := by
  unfold getState
  refine (computes_dbStep _).bind rfl (computes_workingTables.bind rfl ?_)
  rw [h]
  simp only [stateFromModel, if_pos hvalid, map_pure]
  exact computes_pure _

/-- A checkpoint that fails its validation is reported as a value error. -/
theorem computes_getState_invalid {state : RuntimeAssessmentState}
    (h : d.working.checkpoint = some state) (hvalid : ¬ state.telemetry.Valid) :
    Computes env [.getState] (getState env) d (.error .value) := by
  unfold getState
  refine (computes_dbStep _).bind rfl (computes_workingTables.bind rfl ?_)
  rw [h]
  simp only [stateFromModel, if_neg hvalid]
  exact computes_throw _

/-- The database after an event has been appended. -/
def Db.appendEvent (d : Db) (record : HumanReviewRecord) : Db :=
  { d with
    readings := d.readings + 1
    ids := d.ids + 1
    working := { d.working with events := d.working.events ++ [record] } }

/-- `add_review_event` appends the event with one statement if its identifier is new. -/
theorem computes_addReviewEvent {v : EventValues}
    (hid : d.working.idTaken (env.newId d.ids) = false) :
    Computes env [.addReviewEvent] (addReviewEvent env assessmentId v) d
      (.ok (v.toRecord assessmentId (env.newId d.ids) (env.clock d.readings),
        d.appendEvent (v.toRecord assessmentId (env.newId d.ids) (env.clock d.readings)))) := by
  unfold addReviewEvent
  refine computes_uuid4.bind rfl (computes_now.bind rfl (computes_workingTables.bind rfl ?_))
  rw [if_neg (by simp [hid])]
  exact (computes_modifyWorking _).bind rfl ((computes_dbStep _).bind rfl (computes_pure _))

/-- `add_review_event` is refused if its identifier is taken. -/
theorem computes_addReviewEvent_taken {v : EventValues}
    (hid : d.working.idTaken (env.newId d.ids) = true) :
    Computes env [.addReviewEvent] (addReviewEvent env assessmentId v) d
      (.error (.database .other)) := by
  unfold addReviewEvent
  refine computes_uuid4.bind rfl (computes_now.bind rfl (computes_workingTables.bind rfl ?_))
  rw [if_pos hid]
  exact computes_throw _

/-- `list_review_events` computes the sorted events with one statement. -/
theorem computes_listReviewEvents :
    Computes env [.listReviewEvents] (listReviewEvents env) d
      (.ok (d.working.events.mergeSort HumanReviewRecord.le, d)) :=
  (computes_dbStep _).bind rfl (computes_workingTables.bind rfl (computes_pure _))

end Specifications

end AssessmentPlatform
