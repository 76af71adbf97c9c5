import AssessmentPlatform.Governance.Signals
import AssessmentPlatform.Persistence.Repositories
import AssessmentPlatform.Runtime.Telemetry

/-!
# The runtime governance service

Gating of a validated candidate, and the four operations of the human review
workflow, as programs over a session. `process_candidate` leaves the commit to its
caller; the review operations commit themselves.
-/

namespace AssessmentPlatform

open Library

/-- The configured service: the policy, the gate that evaluates signals under it, and
the configured prices. -/
structure RuntimeGovernanceService where
  policy : RuntimeRiskPolicy
  evaluate : QualityGateSignals → Except Failure QualityGateResult
  inputCostPerMillion : Option ℚ := none
  outputCostPerMillion : Option ℚ := none

/-- The service with the gate of `app/runtime/gate.py`, which never raises. -/
def RuntimeGovernanceService.standard (policy : RuntimeRiskPolicy)
    (inputCostPerMillion outputCostPerMillion : Option ℚ := none) : RuntimeGovernanceService where
  policy
  evaluate signals := .ok (AssessmentPlatform.evaluate policy signals)
  inputCostPerMillion
  outputCostPerMillion

/-- A generated candidate with what the gate and the telemetry are told about it. -/
structure Candidate where
  result : AssessmentResult
  evidence : List RetrievedEvidence
  execution : ExecutionMetadata
  durationMs : ℤ
  provenanceValid : Bool := true
  retrievalDurationMs : Option ℕ := none

/-- The signals of a candidate. -/
def Candidate.signals (c : Candidate) : QualityGateSignals :=
  deriveSignals c.result c.evidence c.execution c.provenanceValid

/-- The telemetry fields that `process_candidate` takes from the metrics recorder. -/
def OperationalTelemetry.withMetrics (metrics : Option RuntimeMetrics)
    (retrievalDurationMs : Option ℕ) (telemetry : OperationalTelemetry) : OperationalTelemetry :=
  match metrics with
  | none => telemetry
  | some m =>
    { telemetry with
      modelCallDurationsMs := m.modelCallDurationsMs
      embeddingCallCount := some m.embeddingCallDurationsMs.length
      retrievalDurationMs := retrievalDurationMs <|>
        if m.toolCallDurationsMs = [] then none else some m.toolCallDurationsMs.sum
      synthesisDurationMs := telemetry.synthesisDurationMs <|> m.modelCallDurationsMs.getLast?
      retryCount := m.retryCount
      timeoutCount := m.timeoutCount }

/-- The telemetry of a candidate at the time `now`, before any event is appended. -/
def RuntimeGovernanceService.candidateTelemetry (service : RuntimeGovernanceService) (env : Env)
    (c : Candidate) (decision : RuntimeRiskDecision) (now : Time) :
    Except Failure OperationalTelemetry :=
  (buildOperationalTelemetry c.execution c.durationMs decision
    (env.metrics.bind RuntimeMetrics.tokenUsage) c.evidence.length
    (env.metrics.map fun m => m.modelCallDurationsMs.length) service.inputCostPerMillion
    service.outputCostPerMillion env.requestId now).map
    (OperationalTelemetry.withMetrics env.metrics c.retrievalDurationMs)

/-- Append one event of the given time. -/
def OperationalTelemetry.addEvent (telemetry : OperationalTelemetry)
    (eventType : RuntimeTraceEventType) (status component : Str) (timestamp : Time) :
    OperationalTelemetry :=
  { telemetry with
    events := telemetry.events ++
      [{ timestamp, requestId := telemetry.requestId, eventType, component, status }] }

/-- `_actor_fields`. -/
def actorFields (env : Env) : Option AuthenticatedPrincipal → ActorFields
  | none => {}
  | some p =>
    { reviewerSubject := some p.subject
      reviewerEmail := p.email
      reviewerRole := some p.auditRole.value
      reviewerIssuer := some p.issuer
      requestId := env.requestId }

/-- The recorded reviewer: the subject of the principal, or the legacy identifier. -/
def reviewer (request : HumanReviewRequest) : Option AuthenticatedPrincipal → Option Str
  | some p => some p.subject
  | none => request.reviewerId

/-- The time a checkpoint has waited, in whole milliseconds. -/
def waitMs (state : RuntimeAssessmentState) (now : Time) : ℤ :=
  max 0 (roundMilliseconds (now - state.updatedAt))

section Programs

variable (service : RuntimeGovernanceService) (env : Env) (assessmentId : UUID)

/-- `_export_telemetry`; whatever the exporter raises is logged and dropped. -/
def exportTelemetry (telemetry : OperationalTelemetry) (gateResult : QualityGateResult) :
    Session Unit :=
  modify fun w => { w with exported := w.exported ++ [(telemetry, gateResult)] }

/-- `_append_event`. -/
def appendEvent (telemetry : OperationalTelemetry) (eventType : RuntimeTraceEventType)
    (status : Str) (component : Str := ("human_review" : String)) :
    Session OperationalTelemetry := do
  let time ← now env
  pure (telemetry.addEvent eventType status component time)

/-- `_required_assessment`. -/
def requiredAssessment : Session AssessmentRow := do
  match ← getById env with
  | some row => pure row
  | none => throw (.application .assessmentNotFound)

/-- `_required_state`: a checkpoint that fails its validation is a persistence error. -/
def requiredState : Session RuntimeAssessmentState := do
  let _ ← requiredAssessment env
  let state ← tryCatch (getState env) fun e =>
    throw (if e = .value then .application .persistence else e)
  match state with
  | some state => pure state
  | none => throw (.application .runtimeStateNotFound)

/-- `_required_pending_state`, for any demanded status. -/
def requiredStateIn (status : HumanReviewStatus) : Session RuntimeAssessmentState := do
  let state ← requiredState env
  if state.reviewStatus = status then pure state
  else throw (.application .invalidReviewTransition)

/-- The part of `process_candidate` that moves the assessment row. -/
def applyDecision (c : Candidate) (decision : RuntimeRiskDecision)
    (telemetry : OperationalTelemetry) :
    Session (HumanReviewStatus × Option AssessmentRow × OperationalTelemetry) :=
  match decision with
  | .requireHumanReview => do
    let record ← markPendingReview env (some c.execution)
    let telemetry ← appendEvent env telemetry .humanReviewRequested HumanReviewStatus.pending.value
    pure (.pending, record, telemetry)
  | .blockAndEscalate => do
    let record ← markFailed env ("runtime_risk_gate_blocked" : String)
      ("The assessment was blocked by the runtime risk and quality gate." : String)
    let telemetry ← appendEvent env telemetry .assessmentFailed ("blocked" : String)
      ("assessment" : String)
    pure (.notRequired, record, telemetry)
  | decision => do
    let record ← markCompleted env c.result (some c.execution)
    let telemetry ← appendEvent env telemetry .assessmentCompleted decision.value
      ("assessment" : String)
    pure (.notRequired, record, telemetry)

/-- `process_candidate`. -/
def processCandidate (c : Candidate) (signalOverrides : SignalOverrides := {})
    (revisionCount : ℕ := 0) (recordReviewRequest : Bool := true) : Session AssessmentRow := do
  let gateResult ← Session.ofExcept (service.evaluate (c.signals.override signalOverrides))
  let time ← now env
  let telemetry ← Session.ofExcept (service.candidateTelemetry env c gateResult.decision time)
  let (reviewStatus, record, telemetry) ← applyDecision env c gateResult.decision telemetry
  match record with
  | none => throw (.application .persistence)
  | some record =>
    let _ ← saveState env assessmentId
      { gateResult, reviewStatus, candidateResult := some c.result
        candidateExecution := some c.execution, telemetry, revisionCount
        maxRevisions := service.policy.maxHumanRevisions }
    if reviewStatus = .pending ∧ recordReviewRequest then
      let _ ← addReviewEvent env assessmentId
        { action := .requested, previousStatus := .notRequired, newStatus := .pending
          reviewerId := none, comment := none, reasonCodes := gateResult.reasonCodes
          revisionNumber := revisionCount }
    exportTelemetry telemetry gateResult
    pure record

/-- `_review_telemetry`. -/
def reviewTelemetry (state : RuntimeAssessmentState) (reviewStatus : HumanReviewStatus)
    (eventType : RuntimeTraceEventType) : Session OperationalTelemetry := do
  let time ← now env
  let wait := waitMs state time
  let updated : OperationalTelemetry :=
    { state.telemetry with
      humanReviewStatus := reviewStatus
      humanWaitDurationMs := some wait
      totalDurationMs := state.telemetry.executionDurationMs + wait
      executionHealth :=
        if reviewStatus = .approved then .full else state.telemetry.executionHealth }
  let updated ← appendEvent env updated .humanReviewResumed reviewStatus.value
  appendEvent env updated eventType reviewStatus.value

/-- What a transition of the checkpoint stores; only status, telemetry and revision
counter differ from the previous checkpoint. -/
def transitionState (state : RuntimeAssessmentState) (newStatus : HumanReviewStatus)
    (telemetry : OperationalTelemetry) (revisionCount : ℕ) : StateValues where
  gateResult := state.gateResult
  reviewStatus := newStatus
  candidateResult := state.candidateResult
  candidateExecution := state.candidateExecution
  telemetry
  revisionCount
  maxRevisions := state.maxRevisions

/-- The audit event of a reviewer action. -/
def transitionEvent (state : RuntimeAssessmentState) (action : HumanReviewAction)
    (newStatus : HumanReviewStatus) (request : HumanReviewRequest)
    (principal : Option AuthenticatedPrincipal) (revisionNumber : ℕ) : EventValues where
  action
  previousStatus := .pending
  newStatus
  reviewerId := reviewer request principal
  comment := request.comment
  reasonCodes := state.gateResult.reasonCodes
  revisionNumber
  actor := actorFields env principal

/-- `_persist_transition`; `request_revision` does the same with the next revision. -/
def persistTransition (state : RuntimeAssessmentState) (action : HumanReviewAction)
    (newStatus : HumanReviewStatus) (request : HumanReviewRequest)
    (telemetry : OperationalTelemetry) (principal : Option AuthenticatedPrincipal)
    (revision : ℕ) : Session Unit := do
  let _ ← saveState env assessmentId (transitionState state newStatus telemetry revision)
  let _ ← addReviewEvent env assessmentId
    (transitionEvent env state action newStatus request principal revision)
  pure ()

/-- Commit a prepared transition and hand its telemetry to the exporter. -/
def finishTransition {α : Type} (telemetry : OperationalTelemetry) (gateResult : QualityGateResult)
    (value : α) : Session α := do
  commit env
  exportTelemetry telemetry gateResult
  pure value

/-- `approve`. -/
def approve (request : HumanReviewRequest) (principal : Option AuthenticatedPrincipal) :
    Session HumanReviewDecision := do
  let state ← requiredStateIn env .pending
  match state.candidateResult with
  | none => throw (.application .persistence)
  | some candidateResult =>
    match ← markCompleted env candidateResult state.candidateExecution with
    | none => throw (.application .persistence)
    | some record =>
      let telemetry ← reviewTelemetry env state .approved .humanReviewApproved
      persistTransition env assessmentId state .approved .approved request telemetry principal
        state.revisionCount
      finishTransition env telemetry state.gateResult
        { assessmentId := state.assessmentId, action := .approved, reviewStatus := .approved
          assessmentStatus := record.status, revisionCount := state.revisionCount }

/-- `reject`. -/
def reject (request : HumanReviewRequest) (principal : Option AuthenticatedPrincipal) :
    Session HumanReviewDecision := do
  let state ← requiredStateIn env .pending
  match ← markFailed env ("human_review_rejected" : String)
      ("The assessment was rejected during human review." : String) with
  | none => throw (.application .persistence)
  | some record =>
    let telemetry ← reviewTelemetry env state .rejected .humanReviewRejected
    let telemetry : OperationalTelemetry :=
      { telemetry with
        executionHealth := .blocked, terminationReason := ("human_rejection" : String) }
    persistTransition env assessmentId state .rejected .rejected request telemetry principal
      state.revisionCount
    finishTransition env telemetry state.gateResult
      { assessmentId := state.assessmentId, action := .rejected, reviewStatus := .rejected
        assessmentStatus := record.status, revisionCount := state.revisionCount }

/-- `request_revision`. -/
def requestRevision (request : HumanReviewRequest) (principal : Option AuthenticatedPrincipal) :
    Session HumanReviewDecision := do
  let state ← requiredStateIn env .pending
  if state.revisionCount ≥ state.maxRevisions then
    throw (.application .revisionLimitReached)
  else
    let revision := state.revisionCount + 1
    let telemetry ← reviewTelemetry env state .revisionRequested .revisionRequested
    persistTransition env assessmentId state .revisionRequested .revisionRequested request
      telemetry principal revision
    finishTransition env telemetry state.gateResult
      { assessmentId, action := .revisionRequested, reviewStatus := .revisionRequested
        assessmentStatus := .pendingReview, revisionCount := revision }

/-- `get_revision_feedback`. -/
def getRevisionFeedback : Session HumanReviewRecord := do
  let state ← requiredState env
  if state.reviewStatus ≠ .revisionRequested then
    throw (.application .invalidReviewTransition)
  else
    let events ← listReviewEvents env
    match events.reverse.find? fun item =>
        decide (item.action = .revisionRequested) &&
          decide (item.revisionNumber = state.revisionCount) with
    | none => throw (.application .persistence)
    | some event => pure event

/-- The telemetry of a resumed revision: the old events, the resumption, and then the
events of the new candidate. -/
def mergedTelemetry (old new : OperationalTelemetry) (wait : ℤ) (resumedAt : Time) :
    OperationalTelemetry :=
  { new with
    humanWaitDurationMs := some wait
    totalDurationMs := new.executionDurationMs + wait
    events := old.events ++
      [{ timestamp := resumedAt, requestId := new.requestId, eventType := .humanReviewResumed
         component := ("human_review" : String), status := ("revision_submitted" : String) }] ++
      new.events }

/-- `resume_revision`. -/
def resumeRevision (c : Candidate) : Session AssessmentRow := do
  let state ← requiredStateIn env .revisionRequested
  let record ← processCandidate service env assessmentId { c with retrievalDurationMs := none } {}
    state.revisionCount false
  let newState ← requiredState env
  let resumedAt ← now env
  let telemetry :=
    mergedTelemetry state.telemetry newState.telemetry (waitMs state resumedAt) resumedAt
  let _ ← saveState env assessmentId
    { gateResult := newState.gateResult, reviewStatus := newState.reviewStatus
      candidateResult := newState.candidateResult
      candidateExecution := newState.candidateExecution, telemetry
      revisionCount := newState.revisionCount, maxRevisions := newState.maxRevisions }
  let _ ← addReviewEvent env assessmentId
    { action := .revisionSubmitted, previousStatus := state.reviewStatus
      newStatus := newState.reviewStatus, reviewerId := none, comment := none
      reasonCodes := newState.gateResult.reasonCodes, revisionNumber := state.revisionCount }
  finishTransition env telemetry newState.gateResult record

end Programs

end AssessmentPlatform
