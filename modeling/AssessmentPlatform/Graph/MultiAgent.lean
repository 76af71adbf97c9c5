import AssessmentPlatform.Agents.EvidenceAgent

/-!
# The multi-agent workflow

The controlled four-agent graph: the Evidence Agent, the two independent specialists that
read its brief, the synthesis, and the validation that builds the execution metadata.
Each node returns an update of the state. The four agents are arbitrary functions that
return or raise; time stamps and identifiers that are only logged are left out.
-/

namespace AssessmentPlatform

open Library

/-- Architecture output; only its summary is kept. -/
structure ArchitectureRecommendation where
  architectureSummary : Str
  deriving DecidableEq

/-- Governance output; only its overall level and the review flag are kept. -/
structure RiskGovernanceReview where
  overallRisk : RiskSeverity
  reviewRequired : Bool
  deriving DecidableEq

/-- State of one graph execution; the keys of the two branches are disjoint. -/
structure MultiAgentGraphState where
  request : AssessmentRequest
  maxFailures : ℤ
  evidenceBrief : Option EvidenceBrief := none
  retrievedEvidence : List RetrievedEvidence := []
  observedDocuments : List ObservedKnowledgeDocument := []
  toolHistory : List ToolHistoryEntry := []
  evidenceStepsUsed : ℕ := 0
  evidenceTerminationReason : Option AgentTerminationReason := none
  graphRetrieval : Option GraphRetrievalExecutionMetadata := none
  architectureRecommendation : Option ArchitectureRecommendation := none
  riskGovernanceReview : Option RiskGovernanceReview := none
  finalResult : Option AssessmentResult := none
  execution : Option MultiAgentExecutionMetadata := none
  evidenceStatus : MultiAgentStatus := .pending
  architectureStatus : MultiAgentStatus := .pending
  riskGovernanceStatus : MultiAgentStatus := .pending
  synthesisStatus : MultiAgentStatus := .pending
  evidenceError : Option Str := none
  architectureError : Option Str := none
  riskGovernanceError : Option Str := none
  synthesisError : Option Str := none
  evidenceDurationMs : Option ℕ := none
  architectureDurationMs : Option ℕ := none
  riskGovernanceDurationMs : Option ℕ := none
  synthesisDurationMs : Option ℕ := none
  initializationTrace : List MultiAgentTraceEvent := []
  evidenceTrace : List MultiAgentTraceEvent := []
  architectureTrace : List MultiAgentTraceEvent := []
  riskGovernanceTrace : List MultiAgentTraceEvent := []
  synthesisTrace : List MultiAgentTraceEvent := []
  validationTrace : List MultiAgentTraceEvent := []

/-- What a node returns: an update of the state. -/
abbrev NodeUpdate := MultiAgentGraphState → MultiAgentGraphState

/-- The four agents with the time that each of them takes, in milliseconds. -/
structure Specialists where
  gather : AssessmentRequest → Except Failure EvidenceAgentOutcome
  analyze : AssessmentRequest → EvidenceBrief → Except Failure ArchitectureRecommendation
  review : AssessmentRequest → EvidenceBrief → Except Failure RiskGovernanceReview
  synthesize : AssessmentRequest → EvidenceBrief → Option ArchitectureRecommendation →
    Option RiskGovernanceReview → List Str → Except Failure AssessmentResult
  elapsedMs : MultiAgentName → ℕ := fun _ => 0

/-! ## Trace events -/

/-- `_event`. -/
def traceEvent (agent : Option MultiAgentName) (eventType : MultiAgentTraceEventType)
    (summary : Str) (toolName : Option Str := none) (errorCode : Option Str := none) :
    Except Failure MultiAgentTraceEvent :=
  MultiAgentTraceEvent.create agent eventType summary toolName errorCode

/-- `_safe_error_code`. -/
def safeErrorCode : Failure → Str
  | .application e => e.errorCode
  | _ => "specialist_generation_failed"

/-- The event of one entry of the tool history. -/
def toolEvent (item : ToolHistoryEntry) : Except Failure MultiAgentTraceEvent :=
  traceEvent (some .evidence)
    (if item.errorCode = some (Str.ofString "unauthorized_tool") then .toolAuthorizationDenied
      else if item.success then .toolCompleted
      else .toolFailed)
    item.summary (some item.toolName) item.errorCode

/-- The events of the tool history. -/
def toolEvents : List ToolHistoryEntry → Except Failure (List MultiAgentTraceEvent)
  | [] => pure []
  | item :: rest => do
    let event ← toolEvent item
    let events ← toolEvents rest
    pure (event :: events)

/-! ## Nodes -/

section Nodes

variable (agents : Specialists) (state : MultiAgentGraphState)

/-- The node `initialize`. -/
def initializeNode : Except Failure NodeUpdate := do
  let started ← traceEvent none .workflowStarted
    ("The controlled four-agent workflow started." : String)
  pure fun s => { s with initializationTrace := [started] }

/-- The node `evidence`: only the call of the agent is guarded. -/
def evidenceNode : Except Failure NodeUpdate := do
  let started ← traceEvent (some .evidence) .agentStarted
    ("Evidence analysis started with approved read-only tools." : String)
  match agents.gather state.request with
  | .error e => do
    let failed ← traceEvent (some .evidence) .agentFailed
      ("Evidence analysis did not complete." : String) none (some (safeErrorCode e))
    let degraded ← traceEvent none .degradedMode
      ("The workflow continued with assessment-only evidence context." : String)
    pure fun s =>
      { s with
        evidenceBrief := some .unavailable
        evidenceStatus := .failed
        evidenceError := some (safeErrorCode e)
        evidenceDurationMs := some (agents.elapsedMs .evidence)
        evidenceTrace := [started, failed, degraded] }
  | .ok outcome => do
    let tools ← toolEvents outcome.toolHistory
    let completed ← traceEvent (some .evidence) .agentCompleted
      ("The Evidence Agent produced a typed EvidenceBrief." : String)
    pure fun s =>
      { s with
        evidenceBrief := some outcome.brief
        retrievedEvidence := outcome.evidence
        observedDocuments := outcome.documents
        toolHistory := outcome.toolHistory
        evidenceStepsUsed := outcome.stepsUsed
        evidenceTerminationReason := some outcome.terminationReason
        graphRetrieval := outcome.graphRetrieval
        evidenceStatus := .completed
        evidenceDurationMs := some (agents.elapsedMs .evidence)
        evidenceTrace := started :: tools ++ [completed] }

/-- The brief that the branches read. -/
def MultiAgentGraphState.brief : EvidenceBrief := state.evidenceBrief.getD .unavailable

/-- The node `architecture`. -/
def architectureNode : Except Failure NodeUpdate := do
  let started ← traceEvent (some .architecture) .agentStarted
    ("Independent solution architecture analysis started." : String)
  match agents.analyze state.request state.brief with
  | .error e => do
    let failed ← traceEvent (some .architecture) .agentFailed
      ("Solution architecture analysis did not complete." : String) none (some (safeErrorCode e))
    pure fun s =>
      { s with
        architectureStatus := .failed
        architectureError := some (safeErrorCode e)
        architectureDurationMs := some (agents.elapsedMs .architecture)
        architectureTrace := [started, failed] }
  | .ok result => do
    let completed ← traceEvent (some .architecture) .agentCompleted
      ("The Architecture Agent produced a typed recommendation." : String)
    pure fun s =>
      { s with
        architectureRecommendation := some result
        architectureStatus := .completed
        architectureDurationMs := some (agents.elapsedMs .architecture)
        architectureTrace := [started, completed] }

/-- The node `risk_governance`. -/
def riskGovernanceNode : Except Failure NodeUpdate := do
  let started ← traceEvent (some .riskGovernance) .agentStarted
    ("Independent risk and governance analysis started." : String)
  match agents.review state.request state.brief with
  | .error e => do
    let failed ← traceEvent (some .riskGovernance) .agentFailed
      ("Risk and governance analysis did not complete." : String) none (some (safeErrorCode e))
    pure fun s =>
      { s with
        riskGovernanceStatus := .failed
        riskGovernanceError := some (safeErrorCode e)
        riskGovernanceDurationMs := some (agents.elapsedMs .riskGovernance)
        riskGovernanceTrace := [started, failed] }
  | .ok result => do
    let completed ← traceEvent (some .riskGovernance) .agentCompleted
      ("The Risk & Governance Agent produced a typed review." : String)
    pure fun s =>
      { s with
        riskGovernanceReview := some result
        riskGovernanceStatus := .completed
        riskGovernanceDurationMs := some (agents.elapsedMs .riskGovernance)
        riskGovernanceTrace := [started, completed] }

/-- `_degradation_reasons`. -/
def degradationReasons : List Str :=
  (if state.evidenceError.isSome then
    [Str.ofString "Evidence Agent output unavailable; assessment-only context used."] else []) ++
  (if state.architectureError.isSome then
    [Str.ofString "Architecture Agent output unavailable."] else []) ++
  (if state.riskGovernanceError.isSome then
    [Str.ofString "Risk & Governance Agent output unavailable; governance confidence reduced."]
    else [])

/-- The number of failed specialists. -/
def MultiAgentGraphState.failures : ℕ :=
  [state.evidenceError, state.architectureError, state.riskGovernanceError].countP (·.isSome)

/-- Whether some specialist has produced output. -/
def MultiAgentGraphState.available : Bool :=
  state.evidenceStatus = .completed || state.architectureRecommendation.isSome ||
    state.riskGovernanceReview.isSome

/-- The entry of the information gaps for one degradation reason. -/
def limitation (reason : Str) : Str := Str.ofString "Specialist limitation: " ++ reason

/-- The node `synthesis`. -/
def synthesizeNode : Except Failure NodeUpdate := do
  if state.maxFailures < state.failures ∨ state.available = false then
    throw (.application .assessmentGeneration)
  let started ← traceEvent (some .synthesis) .agentStarted
    ("Typed specialist outputs converged for final synthesis." : String)
  let result ← agents.synthesize state.request state.brief state.architectureRecommendation
    state.riskGovernanceReview (degradationReasons state)
  let completed ← traceEvent (some .synthesis) .agentCompleted
    ("The Synthesis Agent produced the existing AssessmentResult contract." : String)
  pure fun s =>
    { s with
      finalResult := some
        { result with
          informationGaps := result.informationGaps ++ (degradationReasons state).map limitation }
      synthesisStatus := .completed
      synthesisDurationMs := some (agents.elapsedMs .synthesis)
      synthesisTrace := [started, completed] }

/-- The final trace before its events are numbered. -/
def MultiAgentGraphState.convergedTrace (completed : MultiAgentTraceEvent) :
    List MultiAgentTraceEvent :=
  state.initializationTrace ++ state.evidenceTrace ++ state.architectureTrace ++
    state.riskGovernanceTrace ++ state.synthesisTrace ++ [completed]

/-- The execution metadata; its model strips the texts of its lists. -/
def MultiAgentGraphState.metadata (errors : MultiAgentErrors)
    (trace : List MultiAgentTraceEvent) : MultiAgentExecutionMetadata where
  agentStatuses :=
    { evidence := state.evidenceStatus
      architecture := state.architectureStatus
      riskGovernance := state.riskGovernanceStatus
      synthesis := state.synthesisStatus }
  agentDurationsMs :=
    { evidence := state.evidenceDurationMs
      architecture := state.architectureDurationMs
      riskGovernance := state.riskGovernanceDurationMs
      synthesis := state.synthesisDurationMs }
  agentErrors := errors
  toolsUsed := ((state.toolHistory.map ToolHistoryEntry.toolName).eraseDups).map Str.trim
  toolCalls := state.toolHistory.length
  degradedMode := !(degradationReasons state).isEmpty
  degradationReasons := (degradationReasons state).map Str.trim
  terminationReason :=
    if (degradationReasons state).isEmpty then .completed else .completedDegraded
  trace
  graphRetrieval := state.graphRetrieval

/-- The node `validate`. -/
def validateNode : Except Failure NodeUpdate :=
  match state.finalResult with
  | none => throw (.application .assessmentGeneration)
  | some result => do
    let completed ← traceEvent none .workflowCompleted
      (if (degradationReasons state).isEmpty then
        Str.ofString "The multi-agent workflow completed with all specialists."
      else Str.ofString "The multi-agent workflow completed in degraded mode.")
    let trace := (state.convergedTrace completed).mapIdx fun index event =>
      { event with sequence := index }
    let errors ← MultiAgentErrors.create state.evidenceError state.architectureError
      state.riskGovernanceError state.synthesisError
    pure fun s =>
      { s with
        finalResult := some result
        execution := some (state.metadata errors trace)
        validationTrace := trace.drop (trace.length - 1) }

end Nodes

/-! ## The graph -/

section Graph

variable (agents : Specialists)

/-- The invocation of the compiled graph: the two branches read the same state, and their
updates are merged before the synthesis. -/
def invokeGraph (state : MultiAgentGraphState) : Except Failure MultiAgentGraphState := do
  let initialized ← initializeNode
  let state := initialized state
  let gathered ← evidenceNode agents state
  let state := gathered state
  let analyzed ← architectureNode agents state
  let reviewed ← riskGovernanceNode agents state
  let state := reviewed (analyzed state)
  let synthesized ← synthesizeNode agents state
  let state := synthesized state
  let validated ← validateNode state
  pure (validated state)

/-- `MultiAgentAssessmentWorkflow.run`. -/
def runMultiAgent (maxFailures : ℤ) (request : AssessmentRequest) :
    Except Failure (AgentWorkflowOutput MultiAgentExecutionMetadata) :=
  match invokeGraph agents { request, maxFailures } with
  | .error (.application e) => .error (.application e)
  | .error _ => .error (.application .assessmentGeneration)
  | .ok state =>
    match state.finalResult, state.execution with
    | some result, some execution =>
      .ok { result, evidence := state.retrievedEvidence, execution }
    | _, _ => .error (.application .assessmentGeneration)

end Graph

end AssessmentPlatform
