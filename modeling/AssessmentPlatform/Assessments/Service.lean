import AssessmentPlatform.Governance.Service

/-!
# The assessment service

Synchronous generation of one assessment with its transaction boundaries: the row is
created, moved to `PROCESSING`, and, after routing and generation, moved to its final
state. The router, the workflows, the retrieval and the generator are arbitrary
functions that return or raise, and so is the gate of the governance service. The
generator is given the request and the retrieved context instead of their rendering
as prompt text.
-/

namespace AssessmentPlatform

open Library

/-- What the prompt of the deterministic path is built from. -/
structure AssessmentPrompt where
  request : AssessmentRequest
  ragContext : Option Str

/-- One explainable preferred workflow selection. -/
structure ExecutionRoutingDecision where
  preferredExecutionMode : ExecutionMode
  reasonCodes : List RoutingReasonCode
  reasonCodes_bounds : 1 ≤ reasonCodes.length ∧ reasonCodes.length ≤ 12

/-- Preferred and executable modes after the fallback for absent capabilities. -/
structure ResolvedExecutionRoute where
  preferredExecutionMode : ExecutionMode
  executionMode : ExecutionMode
  routingReasonCodes : List RoutingReasonCode
  fallbackReasonCodes : List FallbackReasonCode := []
  routingReasonCodes_le : routingReasonCodes.length ≤ 12
  fallbackReasonCodes_le : fallbackReasonCodes.length ≤ 12

/-- The configured service; an absent collaborator is `none`. -/
structure AssessmentService where
  generator : AssessmentPrompt → Except Failure AssessmentResult
  ragService : Option (AssessmentRequest → Except Failure RAGPreparation) := none
  agenticWorkflow : Option (UUID → AssessmentRequest →
    Except Failure (AgentWorkflowOutput AssessmentExecutionMetadata)) := none
  multiAgentWorkflow : Option (UUID → AssessmentRequest →
    Except Failure (AgentWorkflowOutput MultiAgentExecutionMetadata)) := none
  runtimeGovernance : Option RuntimeGovernanceService := none
  executionRouter : Option (AssessmentRequest → Except Failure ExecutionRoutingDecision) := none

/-- What the two timers of a request read, in whole milliseconds. -/
structure Timers where
  durationMs : ℕ
  retrievalDurationMs : ℕ

/-! ## Routing -/

section Routing

variable (service : AssessmentService)

/-- The executable mode for a preferred mode, with the reasons of a fallback. -/
def AssessmentService.resolve : ExecutionMode → ExecutionMode × List FallbackReasonCode
  | .multiAgent =>
    if service.multiAgentWorkflow.isSome then (.multiAgent, [])
    else if service.agenticWorkflow.isSome then
      (.singleAgent, [.multiAgentCapabilityUnavailable, .fallbackToSingleAgent])
    else
      (.deterministic, [.multiAgentCapabilityUnavailable, .singleAgentCapabilityUnavailable,
        .fallbackToDeterministic])
  | .singleAgent =>
    if service.agenticWorkflow.isSome then (.singleAgent, [])
    else (.deterministic, [.singleAgentCapabilityUnavailable, .fallbackToDeterministic])
  | .deterministic => (.deterministic, [])

/-- A resolution gives at most twelve fallback codes. -/
theorem AssessmentService.resolve_fallback_le (preferred : ExecutionMode) :
    (service.resolve preferred).2.length ≤ 12 := by
  cases preferred with
  | deterministic => simp [AssessmentService.resolve]
  | singleAgent =>
    simp only [AssessmentService.resolve]
    split_ifs <;> simp
  | multiAgent =>
    simp only [AssessmentService.resolve]
    split_ifs <;> simp

/-- The mode that the configured workflows select when there is no router. -/
def AssessmentService.legacyMode : ExecutionMode :=
  if service.multiAgentWorkflow.isSome then .multiAgent
  else if service.agenticWorkflow.isSome then .singleAgent
  else .deterministic

/-- `_route_execution`. -/
def AssessmentService.routeExecution (request : AssessmentRequest) :
    Except Failure ResolvedExecutionRoute :=
  match service.executionRouter with
  | none => .ok
    { preferredExecutionMode := service.legacyMode
      executionMode := service.legacyMode
      routingReasonCodes := [.legacyFlagSelection]
      routingReasonCodes_le := by simp
      fallbackReasonCodes_le := by simp }
  | some route => do
    let decision ← route request
    pure
      { preferredExecutionMode := decision.preferredExecutionMode
        executionMode := (service.resolve decision.preferredExecutionMode).1
        routingReasonCodes := decision.reasonCodes
        fallbackReasonCodes := (service.resolve decision.preferredExecutionMode).2
        routingReasonCodes_le := decision.reasonCodes_bounds.2
        fallbackReasonCodes_le := service.resolve_fallback_le _ }

/-- The routing fields of the execution metadata; without a router they keep the
values that the metadata has. -/
def AssessmentService.withRouting (routing : ResolvedExecutionRoute)
    (execution : ExecutionMetadata) : ExecutionMetadata :=
  match service.executionRouter with
  | none => execution
  | some _ => execution.withRouting
    { preferredExecutionMode := some routing.preferredExecutionMode
      routingReasonCodes := routing.routingReasonCodes
      fallbackReasonCodes := routing.fallbackReasonCodes }

end Routing

/-! ## Generation -/

/-- The key by which references and evidence are compared. -/
def SourceReference.key (reference : SourceReference) : UUID × UUID :=
  (reference.documentId, reference.chunkId)

/-- The keys of the evidence. -/
def evidenceKeys (evidence : List RetrievedEvidence) : List (UUID × UUID) :=
  evidence.map fun item => (item.documentId, item.chunkId)

/-- `_provenance_is_valid`. -/
def provenanceIsValid (result : AssessmentResult) (evidence : List RetrievedEvidence) : Bool :=
  result.sourceReferences.all fun reference => reference.key ∈ evidenceKeys evidence

/-- The loop of `_apply_grounding_metadata` over the references, with the set of keys
seen so far. -/
def groundedReferences (allowed seen : List (UUID × UUID)) :
    List SourceReference → List SourceReference
  | [] => []
  | reference :: rest =>
    if reference.key ∈ allowed ∧ reference.key ∉ seen then
      reference :: groundedReferences allowed (reference.key :: seen) rest
    else groundedReferences allowed seen rest

/-- `_apply_grounding_metadata`. -/
def applyGroundingMetadata (result : AssessmentResult) (evidence : List RetrievedEvidence) :
    AssessmentResult :=
  { result with
    externalEvidenceStatus := if evidence = [] then .notRetrieved else .retrieved
    sourceReferences := groundedReferences (evidenceKeys evidence) [] result.sourceReferences }

/-- What generation hands to the final phase, before the timers are read. -/
structure GeneratedAssessment where
  result : AssessmentResult
  evidence : List RetrievedEvidence
  execution : ExecutionMetadata
  retrieved : Bool := false

section Generation

variable (service : AssessmentService)

/-- The deterministic path: optional retrieval, then one call of the generator. -/
def AssessmentService.generateDeterministic (request : AssessmentRequest)
    (execution : ExecutionMetadata) : Except Failure GeneratedAssessment :=
  match service.ragService with
  | none => do
    let result ← service.generator ⟨request, none⟩
    pure { result, evidence := [], execution }
  | some prepare => do
    let preparation ← prepare request
    let result ← service.generator ⟨request, some preparation.context⟩
    pure
      { result
        evidence := preparation.evidence
        execution := match preparation.graphRetrieval with
          | some record => execution.withGraphRetrieval record
          | none => execution
        retrieved := true }

/-- The output of the executable mode. An absent workflow is an assertion error; routing
never selects one. -/
def AssessmentService.runMode (assessmentId : UUID) (request : AssessmentRequest)
    (routing : ResolvedExecutionRoute) : Except Failure GeneratedAssessment :=
  match routing.executionMode with
  | .multiAgent =>
    match service.multiAgentWorkflow with
    | none => throw .other
    | some run => do
      let output ← run assessmentId request
      pure
        { result := output.result
          evidence := output.evidence
          execution := service.withRouting routing (.multiAgent output.execution) }
  | .singleAgent =>
    match service.agenticWorkflow with
    | none => throw .other
    | some run => do
      let output ← run assessmentId request
      pure
        { result := output.result
          evidence := output.evidence
          execution := service.withRouting routing (.singleAgent output.execution) }
  | .deterministic =>
    service.generateDeterministic request (service.withRouting routing (.deterministic {}))

/-- The generation phase: the output of the mode, its provenance check, its grounding,
and the request identifier. -/
def AssessmentService.generate (requestId : Option RequestId) (timers : Timers)
    (assessmentId : UUID) (request : AssessmentRequest) (routing : ResolvedExecutionRoute) :
    Except Failure Candidate := do
  let output ← service.runMode assessmentId request routing
  pure
    { result := applyGroundingMetadata output.result output.evidence
      evidence := output.evidence
      execution := match requestId with
        | some requestId => output.execution.withRequestId requestId
        | none => output.execution
      durationMs := timers.durationMs
      provenanceValid := provenanceIsValid output.result output.evidence
      retrievalDurationMs := if output.retrieved then some timers.retrievalDurationMs else none }

end Generation

/-! ## Responses -/

/-- Safe persisted failure details. -/
structure AssessmentFailure where
  code : Str
  message : Str
  deriving DecidableEq

/-- Persisted assessment state as the endpoints return it. -/
structure AssessmentResponse where
  assessmentId : UUID
  status : AssessmentStatus
  input : AssessmentRequest
  result : Option AssessmentResult
  execution : Option ExecutionMetadata
  error : Option AssessmentFailure
  createdAt : Time
  updatedAt : Time
  completedAt : Option Time
  deriving DecidableEq

/-- `validate_lifecycle_payloads`. -/
def AssessmentResponse.validateLifecyclePayloads (r : AssessmentResponse) : Bool :=
  match r.status with
  | .completed => r.result.isSome && r.completedAt.isSome && r.error.isNone
  | .failed => r.result.isNone && r.error.isSome
  | .pendingReview => r.result.isNone && r.error.isNone && r.completedAt.isNone
  | .pending | .processing => true

/-- `_to_response`. -/
def toResponse (row : AssessmentRow) : Except Failure AssessmentResponse :=
  let response : AssessmentResponse :=
    { assessmentId := row.assessmentId
      status := row.status
      input := row.requestPayload
      result := row.resultPayload
      execution := row.executionMetadata
      error := match row.errorCode, row.errorMessage with
        | some code, some message => some { code, message }
        | _, _ => none
      createdAt := row.createdAt
      updatedAt := row.updatedAt
      completedAt := row.completedAt }
  if response.validateLifecyclePayloads then .ok response else .error .value

/-! ## The lifecycle around generation -/

section Lifecycle

variable (service : AssessmentService) (env : Env) (timers : Timers) (assessmentId : UUID)

/-- `_handle_database_error`: roll back, ignore a database error of the rollback, and
return the safe error. -/
def handleDatabaseError (error : SQLAlchemyError) : Session ApplicationError := do
  tryCatch (rollback env) fun
    | .database _ => pure ()
    | e => throw e
  pure (if error = .operational then .databaseUnavailable else .persistence)

/-- The clause `except SQLAlchemyError` around a transaction. -/
def guardDatabase {α : Type} (x : Session α) : Session α :=
  tryCatch x fun
    | .database error => do
      let safe ← handleDatabaseError env error
      throw (.application safe)
    | e => throw e

/-- `_persist_failure`. -/
def persistFailure (errorCode errorMessage : Str) : Session Unit :=
  guardDatabase env do
    match ← markFailed env errorCode errorMessage .persistFailure with
    | none => throw (.application .persistence)
    | some _ => commit env .commitFailure

/-- The safe error with which a failed generation is reported. -/
def safeError : Failure → ApplicationError
  | .application error => error
  | _ => .assessmentGeneration

/-- The end of the last phase: a row that was not found is a persistence error. -/
def commitRecord : Option AssessmentRow → Session AssessmentRow
  | none => throw (.application .persistence)
  | some record => do
    commit env
    pure record

/-- Hand the candidate to the gate, or complete the assessment. -/
def recordCandidate (candidate : Candidate) : Session (Option AssessmentRow) :=
  match service.runtimeGovernance with
  | some governance => some <$> processCandidate governance env assessmentId candidate
  | none => markCompleted env candidate.result (some candidate.execution)

/-- The last phase. -/
def finalizeCandidate (candidate : Candidate) : Session AssessmentRow :=
  guardDatabase env do
    let record ← recordCandidate service env assessmentId candidate
    commitRecord env record

/-- The first two phases, which commit the row in `PENDING` and in `PROCESSING`. -/
def startAssessment (request : AssessmentRequest) (principal : Option AuthenticatedPrincipal) :
    Session Unit := do
  guardDatabase env do
    let _ ← create env assessmentId request (principal.map AuthenticatedPrincipal.subject)
    commit env .commitCreated
  guardDatabase env do
    match ← markProcessing env with
    | none => throw (.application .persistence)
    | some _ => commit env .commitProcessing

/-- `generate_assessment`, for the fresh identifier `assessmentId`. -/
def generateAssessment (request : AssessmentRequest) (principal : Option AuthenticatedPrincipal) :
    Session AssessmentResponse := do
  startAssessment env assessmentId request principal
  let routing ← Session.ofExcept (service.routeExecution request)
  match service.generate env.requestId timers assessmentId request routing with
  | .error e => do
    persistFailure env (safeError e).errorCode (safeError e).publicMessage
    throw (.application (safeError e))
  | .ok candidate => do
    let record ← finalizeCandidate service env assessmentId candidate
    Session.ofExcept (toResponse record)

/-- `get_assessment`. -/
def getAssessment : Session AssessmentResponse := do
  match ← guardDatabase env (getById env) with
  | none => throw (.application .assessmentNotFound)
  | some record => Session.ofExcept (toResponse record)

end Lifecycle

end AssessmentPlatform
