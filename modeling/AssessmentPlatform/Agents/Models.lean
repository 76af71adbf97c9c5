import AssessmentPlatform.Core.Exceptions
import AssessmentPlatform.Models.Assessment
import AssessmentPlatform.Models.Knowledge

/-!
# Execution metadata

What each of the three execution modes records about a run: the deterministic
marker, the summary of the single-agent workflow, and the summary of the four-agent
workflow, with the trace events of both. Trace events and error records carry the
bounds that their models validate; `create` is the validating constructor. Time
stamps of trace events are left out, since nothing reads them.
-/

namespace AssessmentPlatform

/-- A request identifier as the API admits it: bounded, and free of whitespace. -/
structure RequestId where
  value : Str
  length_le : value.length ≤ 128
  no_space : ∀ c ∈ value, c.isSpace = false
  deriving DecidableEq

/-- Supported assessment execution paths. -/
inductive ExecutionMode where
  | deterministic | singleAgent | multiAgent
  deriving DecidableEq

/-- Public-safe explanations for deterministic routing decisions. -/
inductive RoutingReasonCode where
  | environmentOverride | boundedScope | lowCoordinationComplexity | multiplePainPoints
  | multipleConstraints | multipleWorkloadConcerns | richProcessContext
  | singleReasoningContextSufficient | crossFunctionalCoordination
  | specialistSeparationBeneficial | legacyFlagSelection
  deriving DecidableEq

/-- Public-safe reasons why execution differed from the preferred route. -/
inductive FallbackReasonCode where
  | multiAgentCapabilityUnavailable | singleAgentCapabilityUnavailable
  | fallbackToSingleAgent | fallbackToDeterministic
  deriving DecidableEq

/-- The routing fields that all three metadata models share. -/
structure RoutingMetadata where
  preferredExecutionMode : Option ExecutionMode := none
  routingReasonCodes : List RoutingReasonCode := []
  fallbackReasonCodes : List FallbackReasonCode := []
  deriving DecidableEq

/-- Allowlisted transitions that the single reasoning agent may request. -/
inductive AgentDecisionType where
  | tool | synthesize | fail
  deriving DecidableEq

/-- Safe workflow events of the single-agent graph. -/
inductive AgentTraceEventType where
  | reasoningStarted | toolRequested | toolCompleted | toolFailed | synthesisStarted
  | workflowCompleted | workflowFailed | maxStepsReached | maxToolCallsReached
  deriving DecidableEq

/-- Finite, public-safe workflow termination reasons. -/
inductive AgentTerminationReason where
  | completed | maxStepsReached | maxToolCallsReached | agentStopped | failed
  deriving DecidableEq

/-- The persisted value of a termination reason. -/
def AgentTerminationReason.value : AgentTerminationReason → Str
  | .completed => "completed"
  | .maxStepsReached => "max_steps_reached"
  | .maxToolCallsReached => "max_tool_calls_reached"
  | .agentStopped => "agent_stopped"
  | .failed => "failed"

/-- The reported outcome of one tool call in the single-agent trace. -/
inductive ToolStatus where
  | completed | failed | cached
  deriving DecidableEq

/-- Compact audit event of the single-agent graph. -/
structure AgentTraceEvent where
  step : ℕ
  eventType : AgentTraceEventType
  summary : Str
  toolName : Option Str := none
  toolStatus : Option ToolStatus := none
  terminationReason : Option AgentTerminationReason := none
  deriving DecidableEq

/-- The field limits that `AgentTraceEvent` validates; this model does not strip. -/
def AgentTraceEvent.Valid (event : AgentTraceEvent) : Prop :=
  (event.summary.encodable = true ∧ 0 < event.summary.length ∧ event.summary.length ≤ 300) ∧
    ∀ name ∈ event.toolName, name.encodable = true ∧ name.length ≤ 100

instance (event : AgentTraceEvent) : Decidable event.Valid :=
  inferInstanceAs (Decidable (_ ∧ _))

/-- The two markers that a single-agent record may carry. -/
inductive AgenticMode where
  | singleAgent | agentic
  deriving DecidableEq

/-- Safe execution summary persisted with a single-agent assessment. -/
structure AssessmentExecutionMetadata where
  requestId : Option RequestId := none
  executionMode : AgenticMode := .singleAgent
  routing : RoutingMetadata := {}
  stepsUsed : ℕ
  toolsUsed : List Str
  terminationReason : AgentTerminationReason
  trace : List AgentTraceEvent
  graphRetrieval : Option GraphRetrievalExecutionMetadata := none
  deriving DecidableEq

/-- Minimal marker for the deterministic execution path. -/
structure DeterministicExecutionMetadata where
  requestId : Option RequestId := none
  routing : RoutingMetadata := {}
  graphRetrieval : Option GraphRetrievalExecutionMetadata := none
  deriving DecidableEq

/-- The four specialists of the multi-agent workflow. -/
inductive MultiAgentName where
  | evidence | architecture | riskGovernance | synthesis
  deriving DecidableEq

/-- The persisted value of a specialist name. -/
def MultiAgentName.value : MultiAgentName → Str
  | .evidence => "evidence"
  | .architecture => "architecture"
  | .riskGovernance => "risk_governance"
  | .synthesis => "synthesis"

/-- Public lifecycle states for one specialist execution. -/
inductive MultiAgentStatus where
  | pending | running | completed | failed | skipped
  deriving DecidableEq

/-- Safe events of the multi-agent workflow. -/
inductive MultiAgentTraceEventType where
  | workflowStarted | agentStarted | agentCompleted | agentFailed | toolCompleted
  | toolFailed | toolAuthorizationDenied | degradedMode | workflowCompleted
  deriving DecidableEq

/-- Finite outcomes returned only after successful synthesis. -/
inductive MultiAgentTerminationReason where
  | completed | completedDegraded
  deriving DecidableEq

/-- The persisted value of a multi-agent outcome. -/
def MultiAgentTerminationReason.value : MultiAgentTerminationReason → Str
  | .completed => "completed"
  | .completedDegraded => "completed_degraded"

/-- One compact orchestration event, safe for persistence. -/
structure MultiAgentTraceEvent where
  sequence : ℕ
  agent : Option MultiAgentName
  eventType : MultiAgentTraceEventType
  summary : Str
  toolName : Option Str
  errorCode : Option Str
  summary_bounds : 0 < summary.length ∧ summary.length ≤ 300
  toolName_le : ∀ name ∈ toolName, name.length ≤ 100
  errorCode_le : ∀ code ∈ errorCode, code.length ≤ 100
  deriving DecidableEq

/-- The fields that a trace event accepts, once they are trimmed. -/
def MultiAgentTraceEvent.Accepts (summary : Str) (toolName errorCode : Option Str) : Prop :=
  summary.trim.ValidWithin 300 ∧ (∀ name ∈ toolName, name.trim.ValidUpTo 100) ∧
    ∀ code ∈ errorCode, code.trim.ValidUpTo 100

instance (summary : Str) (toolName errorCode : Option Str) :
    Decidable (MultiAgentTraceEvent.Accepts summary toolName errorCode) :=
  inferInstanceAs (Decidable (_ ∧ _))

/-- The validating constructor of a multi-agent trace event: strings are trimmed,
then their lengths are checked. The sequence number is assigned later. -/
def MultiAgentTraceEvent.create (agent : Option MultiAgentName)
    (eventType : MultiAgentTraceEventType) (summary : Str) (toolName errorCode : Option Str) :
    Except Failure MultiAgentTraceEvent :=
  if h : MultiAgentTraceEvent.Accepts summary toolName errorCode then
    .ok
      { sequence := 0, agent, eventType
        summary := summary.trim
        toolName := toolName.map Str.trim
        errorCode := errorCode.map Str.trim
        summary_bounds := h.1.2
        toolName_le := fun name hname => by
          obtain ⟨s, hs, rfl⟩ := Option.map_eq_some_iff.mp hname
          exact (h.2.1 s hs).2
        errorCode_le := fun code hcode => by
          obtain ⟨s, hs, rfl⟩ := Option.map_eq_some_iff.mp hcode
          exact (h.2.2 s hs).2 }
  else .error .value

/-- Lifecycle state for exactly the four specialists. -/
structure MultiAgentStatuses where
  evidence : MultiAgentStatus
  architecture : MultiAgentStatus
  riskGovernance : MultiAgentStatus
  synthesis : MultiAgentStatus
  deriving DecidableEq

/-- The values of the status record in declaration order. -/
def MultiAgentStatuses.values (s : MultiAgentStatuses) : List MultiAgentStatus :=
  [s.evidence, s.architecture, s.riskGovernance, s.synthesis]

/-- Best-effort elapsed milliseconds of the specialists. -/
structure MultiAgentDurations where
  evidence : Option ℕ := none
  architecture : Option ℕ := none
  riskGovernance : Option ℕ := none
  synthesis : Option ℕ := none
  deriving DecidableEq

/-- Safe application error codes of the specialists. -/
structure MultiAgentErrors where
  evidence : Option Str := none
  architecture : Option Str := none
  riskGovernance : Option Str := none
  synthesis : Option Str := none
  deriving DecidableEq

/-- The validating constructor of the error record: codes are trimmed, then their
lengths are checked. -/
def MultiAgentErrors.create (evidence architecture riskGovernance synthesis : Option Str) :
    Except Failure MultiAgentErrors :=
  if ∀ field ∈ [evidence, architecture, riskGovernance, synthesis],
      ∀ code ∈ field, code.trim.ValidUpTo 100 then
    .ok ⟨evidence.map Str.trim, architecture.map Str.trim, riskGovernance.map Str.trim,
      synthesis.map Str.trim⟩
  else .error .value

/-- Safe execution summary of the multi-agent workflow. The roster of agents is
fixed to the four specialists by its validator. -/
structure MultiAgentExecutionMetadata where
  requestId : Option RequestId := none
  routing : RoutingMetadata := {}
  agentStatuses : MultiAgentStatuses
  agentDurationsMs : MultiAgentDurations
  agentErrors : MultiAgentErrors
  toolsUsed : List Str
  toolCalls : ℕ
  degradedMode : Bool
  degradationReasons : List Str
  terminationReason : MultiAgentTerminationReason
  trace : List MultiAgentTraceEvent
  graphRetrieval : Option GraphRetrievalExecutionMetadata := none
  deriving DecidableEq

/-- The output of an agentic workflow. -/
structure AgentWorkflowOutput (Metadata : Type) where
  result : AssessmentResult
  evidence : List RetrievedEvidence
  execution : Metadata

/-- Execution metadata of any of the three modes. -/
inductive ExecutionMetadata where
  | deterministic (metadata : DeterministicExecutionMetadata)
  | singleAgent (metadata : AssessmentExecutionMetadata)
  | multiAgent (metadata : MultiAgentExecutionMetadata)
  deriving DecidableEq

/-- The retrieval record, which every mode may carry. -/
def ExecutionMetadata.graphRetrieval : ExecutionMetadata → Option GraphRetrievalExecutionMetadata
  | .deterministic m => m.graphRetrieval
  | .singleAgent m => m.graphRetrieval
  | .multiAgent m => m.graphRetrieval

/-- The persisted mode marker. -/
def ExecutionMetadata.executionMode : ExecutionMetadata → Str
  | .deterministic _ => "deterministic"
  | .singleAgent m => match m.executionMode with
    | .singleAgent => "single_agent"
    | .agentic => "agentic"
  | .multiAgent _ => "multi_agent"

/-- `model_copy(update=routing_metadata)`. -/
def ExecutionMetadata.withRouting (routing : RoutingMetadata) :
    ExecutionMetadata → ExecutionMetadata
  | .deterministic m => .deterministic { m with routing }
  | .singleAgent m => .singleAgent { m with routing }
  | .multiAgent m => .multiAgent { m with routing }

/-- `model_copy(update={"graph_retrieval": graph_retrieval})`. -/
def ExecutionMetadata.withGraphRetrieval (record : GraphRetrievalExecutionMetadata) :
    ExecutionMetadata → ExecutionMetadata
  | .deterministic m => .deterministic { m with graphRetrieval := some record }
  | .singleAgent m => .singleAgent { m with graphRetrieval := some record }
  | .multiAgent m => .multiAgent { m with graphRetrieval := some record }

/-- `model_copy(update={"request_id": request_id})`. -/
def ExecutionMetadata.withRequestId (requestId : RequestId) : ExecutionMetadata → ExecutionMetadata
  | .deterministic m => .deterministic { m with requestId := some requestId }
  | .singleAgent m => .singleAgent { m with requestId := some requestId }
  | .multiAgent m => .multiAgent { m with requestId := some requestId }

end AssessmentPlatform
