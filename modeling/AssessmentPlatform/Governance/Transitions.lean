import AssessmentPlatform.Governance.Service

/-!
# Transitions of the review workflow

The pure counterpart of the governance programs: what a request writes, as a function
of the tables it finds and of its environment. Each program has exactly the effect of
its transition unless a database step fails, and a program that raises publishes
nothing.
-/

namespace AssessmentPlatform

open Library

/-- What a transition assigns to the assessment row. -/
inductive RowWrite where
  | unchanged
  | completed (result : AssessmentResult) (execution : Option ExecutionMetadata) (now : Time)
  | pendingReview (execution : Option ExecutionMetadata) (now : Time)
  | failed (errorCode errorMessage : Str) (now : Time)
  deriving DecidableEq

/-- Carry out the assignment. -/
def RowWrite.apply : RowWrite → AssessmentRow → AssessmentRow
  | .unchanged, row => row
  | .completed result execution now, row => row.markCompleted result execution now
  | .pendingReview execution now, row => row.markPendingReview execution now
  | .failed errorCode errorMessage now, row => row.markFailed errorCode errorMessage now

/-- A write keeps the identifier of its row. -/
theorem RowWrite.apply_assessmentId (write : RowWrite) (row : AssessmentRow) :
    (write.apply row).assessmentId = row.assessmentId := by
  cases write <;> rfl

/-- What one request writes. -/
structure Transition where
  write : RowWrite
  checkpoint : RuntimeAssessmentState
  event : Option HumanReviewRecord
  deriving DecidableEq

/-- The tables after a transition. -/
def Transition.apply (tr : Transition) (t : Tables) : Tables where
  assessment := t.assessment.map tr.write.apply
  checkpoint := some tr.checkpoint
  events := t.events ++ tr.event.toList

section Gate

variable (service : RuntimeGovernanceService) (env : Env) (assessmentId : UUID)

/-- The review status that a gate decision leads to. -/
def gateStatus : RuntimeRiskDecision → HumanReviewStatus
  | .requireHumanReview => .pending
  | _ => .notRequired

/-- The assignment that a gate decision leads to. -/
def gateWrite (result : AssessmentResult) (execution : ExecutionMetadata)
    (decision : RuntimeRiskDecision) (now : Time) : RowWrite :=
  match decision with
  | .requireHumanReview => .pendingReview (some execution) now
  | .blockAndEscalate => .failed ("runtime_risk_gate_blocked" : String)
      ("The assessment was blocked by the runtime risk and quality gate." : String) now
  | _ => .completed result (some execution) now

/-- The telemetry event that a gate decision appends. -/
def gateTelemetry (decision : RuntimeRiskDecision) (telemetry : OperationalTelemetry)
    (now : Time) : OperationalTelemetry :=
  match decision with
  | .requireHumanReview => telemetry.addEvent .humanReviewRequested HumanReviewStatus.pending.value
      ("human_review" : String) now
  | .blockAndEscalate => telemetry.addEvent .assessmentFailed ("blocked" : String)
      ("assessment" : String) now
  | decision => telemetry.addEvent .assessmentCompleted decision.value ("assessment" : String) now

/-- The checkpoint values that `process_candidate` stores. -/
def gateValues (c : Candidate) (revisionCount : ℕ) (gateResult : QualityGateResult)
    (telemetry : OperationalTelemetry) : StateValues where
  gateResult
  reviewStatus := gateStatus gateResult.decision
  candidateResult := some c.result
  candidateExecution := some c.execution
  telemetry
  revisionCount
  maxRevisions := service.policy.maxHumanRevisions

/-- The audit event with which the gate asks for a review. -/
def requestEvent (revisionCount : ℕ) (gateResult : QualityGateResult) : EventValues where
  action := .requested
  previousStatus := .notRequired
  newStatus := .pending
  reviewerId := none
  comment := none
  reasonCodes := gateResult.reasonCodes
  revisionNumber := revisionCount

/-- The transition of `process_candidate` on an existing row, which starts at the `n`-th
clock reading. -/
def processTransition (c : Candidate) (overrides : SignalOverrides) (revisionCount : ℕ)
    (recordReviewRequest : Bool) (n : ℕ) (t : Tables) : Except Failure Transition := do
  let gateResult ← service.evaluate (c.signals.override overrides)
  let telemetry ← service.candidateTelemetry env c gateResult.decision (env.clock n)
  if service.policy.maxHumanRevisions < revisionCount then throw (.database .other)
  else if gateStatus gateResult.decision = .pending ∧ recordReviewRequest = true ∧
      t.idTaken (env.newId 0) = true then throw (.database .other)
  else
    pure
      { write := gateWrite c.result c.execution gateResult.decision (env.clock (n + 1))
        checkpoint := (gateValues service c revisionCount gateResult
          (gateTelemetry gateResult.decision telemetry (env.clock (n + 2)))).toState assessmentId
            (env.clock (n + 3)) t.checkpoint
        event :=
          if gateStatus gateResult.decision = .pending ∧ recordReviewRequest = true then
            some ((requestEvent revisionCount gateResult).toRecord assessmentId (env.newId 0)
              (env.clock (n + 4)))
          else none }

end Gate

section Review

variable (service : RuntimeGovernanceService) (env : Env) (assessmentId : UUID)

/-- The checkpoint that a request finds, if it can be read. -/
def Tables.required (t : Tables) : Except Failure RuntimeAssessmentState :=
  match t.assessment, t.checkpoint with
  | none, _ => .error (.application .assessmentNotFound)
  | some _, none => .error (.application .runtimeStateNotFound)
  | some _, some state =>
    if state.telemetry.Valid then .ok state else .error (.application .persistence)

/-- The checkpoint that a request finds, if it has the status that the request needs. -/
def Tables.requiredIn (t : Tables) (status : HumanReviewStatus) :
    Except Failure RuntimeAssessmentState := do
  let state ← t.required
  if state.reviewStatus = status then pure state
  else throw (.application .invalidReviewTransition)

/-- The telemetry of a reviewer action, which starts at the `n`-th clock reading. -/
def reviewTelemetryAt (clock : ℕ → Time) (n : ℕ) (state : RuntimeAssessmentState)
    (reviewStatus : HumanReviewStatus) (eventType : RuntimeTraceEventType) :
    OperationalTelemetry :=
  let updated : OperationalTelemetry :=
    { state.telemetry with
      humanReviewStatus := reviewStatus
      humanWaitDurationMs := some (waitMs state (clock n))
      totalDurationMs := state.telemetry.executionDurationMs + waitMs state (clock n)
      executionHealth :=
        if reviewStatus = .approved then .full else state.telemetry.executionHealth }
  (updated.addEvent .humanReviewResumed reviewStatus.value ("human_review" : String)
    (clock (n + 1))).addEvent eventType reviewStatus.value ("human_review" : String)
    (clock (n + 2))

/-- The common end of the reviewer actions: the checkpoint and the audit event, which
take the `n`-th and the next clock reading. -/
def persistedTransition (write : RowWrite) (state : RuntimeAssessmentState)
    (action : HumanReviewAction) (newStatus : HumanReviewStatus) (request : HumanReviewRequest)
    (telemetry : OperationalTelemetry) (principal : Option AuthenticatedPrincipal)
    (revision : ℕ) (n : ℕ) (t : Tables) : Except Failure Transition :=
  if state.maxRevisions < revision then throw (.database .other)
  else if t.idTaken (env.newId 0) then throw (.database .other)
  else
    pure
      { write
        checkpoint := (transitionState state newStatus telemetry revision).toState assessmentId
          (env.clock n) t.checkpoint
        event := some ((transitionEvent env state action newStatus request principal
          revision).toRecord assessmentId (env.newId 0) (env.clock (n + 1))) }

/-- One request of the review workflow with its arguments. -/
inductive ReviewOp where
  | approve (request : HumanReviewRequest) (principal : Option AuthenticatedPrincipal)
  | reject (request : HumanReviewRequest) (principal : Option AuthenticatedPrincipal)
  | requestRevision (request : HumanReviewRequest) (principal : Option AuthenticatedPrincipal)
  | resumeRevision (candidate : Candidate)

/-- The program of a request. -/
def ReviewOp.program : ReviewOp → Session Unit
  | .approve request principal => do
    let _ ← AssessmentPlatform.approve env assessmentId request principal
  | .reject request principal => do
    let _ ← AssessmentPlatform.reject env assessmentId request principal
  | .requestRevision request principal => do
    let _ ← AssessmentPlatform.requestRevision env assessmentId request principal
  | .resumeRevision candidate => do
    let _ ← AssessmentPlatform.resumeRevision service env assessmentId candidate

/-- The review status in which a request may act. -/
def ReviewOp.accepts : ReviewOp → HumanReviewStatus
  | .resumeRevision _ => .revisionRequested
  | _ => .pending

/-- The transition of a resumed revision from the checkpoint `state`: the gate decides
anew, and the telemetry is merged with that of the checkpoint. -/
def resumeTransition (c : Candidate) (state : RuntimeAssessmentState) (t : Tables) :
    Except Failure Transition := do
  let tr ← processTransition service env assessmentId { c with retrievalDurationMs := none } {}
    state.revisionCount false 0 t
  if t.idTaken (env.newId 0) then throw (.database .other)
  else
    pure
      { tr with
        checkpoint :=
          { tr.checkpoint with
            telemetry := mergedTelemetry state.telemetry tr.checkpoint.telemetry
              (waitMs state (env.clock 4)) (env.clock 4)
            updatedAt := env.clock 5 }
        event := some
          { reviewId := env.newId 0, assessmentId, action := .revisionSubmitted
            previousStatus := state.reviewStatus, newStatus := tr.checkpoint.reviewStatus
            reviewerId := none, comment := none
            reasonCodes := tr.checkpoint.gateResult.reasonCodes
            revisionNumber := state.revisionCount, createdAt := env.clock 6 } }

/-- The transition of a request. -/
def ReviewOp.transition (op : ReviewOp) (t : Tables) : Except Failure Transition := do
  let state ← t.requiredIn op.accepts
  match op with
  | .approve request principal =>
    match state.candidateResult with
    | none => throw (.application .persistence)
    | some result =>
      persistedTransition env assessmentId
        (.completed result state.candidateExecution (env.clock 0)) state .approved .approved request
        (reviewTelemetryAt env.clock 1 state .approved .humanReviewApproved) principal
        state.revisionCount 4 t
  | .reject request principal =>
    persistedTransition env assessmentId
      (.failed ("human_review_rejected" : String)
        ("The assessment was rejected during human review." : String) (env.clock 0))
      state .rejected .rejected request
      { reviewTelemetryAt env.clock 1 state .rejected .humanReviewRejected with
        executionHealth := .blocked, terminationReason := ("human_rejection" : String) }
      principal state.revisionCount 4 t
  | .requestRevision request principal =>
    if state.revisionCount ≥ state.maxRevisions then throw (.application .revisionLimitReached)
    else
      persistedTransition env assessmentId .unchanged state .revisionRequested .revisionRequested
        request (reviewTelemetryAt env.clock 0 state .revisionRequested .revisionRequested)
        principal (state.revisionCount + 1) 3 t
  | .resumeRevision c => resumeTransition service env assessmentId c state t

end Review

end AssessmentPlatform
