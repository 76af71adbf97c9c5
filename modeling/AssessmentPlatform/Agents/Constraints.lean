import AssessmentPlatform.Agents.Models

/-!
# Declared constraints of the persisted models

Reading a stored assessment validates its payloads again: every string has to be text that
can be encoded, lists and strings have to respect their bounds, and the models of the
multi-agent workflow trim their strings. An instance that meets these constraints is
one that reading gives back unchanged. Bounds that a structure carries as its own fields
are not repeated here.
-/

namespace AssessmentPlatform

/-- The constraints of the structured assessment; its strings are unbounded. -/
structure AssessmentResult.Valid (result : AssessmentResult) : Prop where
  executiveSummary : result.executiveSummary.encodable = true
  risks : ∀ risk ∈ result.risks, risk.mitigation.encodable = true
  informationGaps : ∀ gap ∈ result.informationGaps, gap.encodable = true
  sourceReferences : ∀ reference ∈ result.sourceReferences,
    reference.documentTitle.encodable = true

/-- The constraints of the retrieval record. -/
structure GraphRetrievalExecutionMetadata.Valid (record : GraphRetrievalExecutionMetadata) :
    Prop where
  graphErrorCode : ∀ code ∈ record.graphErrorCode, code.encodable = true
  vectorErrorCode : ∀ code ∈ record.vectorErrorCode, code.encodable = true

/-- The constraints of the fields that all metadata models share. -/
structure SharedMetadataValid (requestId : Option RequestId) (routing : RoutingMetadata)
    (graphRetrieval : Option GraphRetrievalExecutionMetadata) : Prop where
  requestId : ∀ id ∈ requestId, id.value.encodable = true
  routingReasonCodes : routing.routingReasonCodes.length ≤ 12
  fallbackReasonCodes : routing.fallbackReasonCodes.length ≤ 12
  graphRetrieval : ∀ record ∈ graphRetrieval, record.Valid

/-- The constraints of the deterministic marker. -/
def DeterministicExecutionMetadata.Valid (m : DeterministicExecutionMetadata) : Prop :=
  SharedMetadataValid m.requestId m.routing m.graphRetrieval

/-- The constraints of the single-agent summary. -/
structure AssessmentExecutionMetadata.Valid (m : AssessmentExecutionMetadata) : Prop where
  shared : SharedMetadataValid m.requestId m.routing m.graphRetrieval
  toolsUsed : ∀ name ∈ m.toolsUsed, name.encodable = true
  trace : ∀ event ∈ m.trace, event.Valid

/-- The constraints of a multi-agent trace event. -/
structure MultiAgentTraceEvent.Valid (event : MultiAgentTraceEvent) : Prop where
  summary : event.summary.Valid
  toolName : ∀ name ∈ event.toolName, name.Valid
  errorCode : ∀ code ∈ event.errorCode, code.Valid

/-- The constraints of the error record. -/
def MultiAgentErrors.Valid (errors : MultiAgentErrors) : Prop :=
  ∀ field ∈ [errors.evidence, errors.architecture, errors.riskGovernance, errors.synthesis],
    ∀ code ∈ field, code.ValidUpTo 100

/-- The constraints of the multi-agent summary. -/
structure MultiAgentExecutionMetadata.Valid (m : MultiAgentExecutionMetadata) : Prop where
  shared : SharedMetadataValid m.requestId m.routing m.graphRetrieval
  agentErrors : m.agentErrors.Valid
  toolsUsed : ∀ name ∈ m.toolsUsed, name.Valid
  degradationReasons : ∀ reason ∈ m.degradationReasons, reason.Valid
  trace : ∀ event ∈ m.trace, event.Valid

/-- The constraints of the metadata of any mode. -/
def ExecutionMetadata.Valid : ExecutionMetadata → Prop
  | .deterministic m => m.Valid
  | .singleAgent m => m.Valid
  | .multiAgent m => m.Valid

/-! ## Patches

The service patches validated metadata without validating it again; each patch keeps the
constraints. -/

variable {execution : ExecutionMetadata}

/-- Valid metadata stays valid with the routing of a service, whose codes are few enough. -/
theorem ExecutionMetadata.Valid.withRouting (h : execution.Valid) {routing : RoutingMetadata}
    (hroutingReasonCodes : routing.routingReasonCodes.length ≤ 12)
    (hfallbackReasonCodes : routing.fallbackReasonCodes.length ≤ 12) :
    (execution.withRouting routing).Valid := by
  have hpatch : ∀ {requestId routing' graphRetrieval},
      SharedMetadataValid requestId routing' graphRetrieval →
      SharedMetadataValid requestId routing graphRetrieval :=
    fun hshared => ⟨hshared.requestId, hroutingReasonCodes, hfallbackReasonCodes,
      hshared.graphRetrieval⟩
  cases execution with
  | deterministic m => exact hpatch h
  | singleAgent m => exact { h with shared := hpatch h.shared }
  | multiAgent m => exact { h with shared := hpatch h.shared }

/-- Valid metadata stays valid with a valid record of the graph retrieval. -/
theorem ExecutionMetadata.Valid.withGraphRetrieval (h : execution.Valid)
    {record : GraphRetrievalExecutionMetadata} (hrecord : record.Valid) :
    (execution.withGraphRetrieval record).Valid := by
  have hpatch : ∀ {requestId routing graphRetrieval},
      SharedMetadataValid requestId routing graphRetrieval →
      SharedMetadataValid requestId routing (some record) := by
    refine fun hshared => ⟨hshared.requestId, hshared.routingReasonCodes,
      hshared.fallbackReasonCodes, ?_⟩
    rintro _ ⟨⟩
    exact hrecord
  cases execution with
  | deterministic m => exact hpatch h
  | singleAgent m => exact { h with shared := hpatch h.shared }
  | multiAgent m => exact { h with shared := hpatch h.shared }

/-- Valid metadata stays valid with a request identifier that can be encoded. -/
theorem ExecutionMetadata.Valid.withRequestId (h : execution.Valid) {requestId : RequestId}
    (hrequestId : requestId.value.encodable = true) :
    (execution.withRequestId requestId).Valid := by
  have hpatch : ∀ {requestId' routing graphRetrieval},
      SharedMetadataValid requestId' routing graphRetrieval →
      SharedMetadataValid (some requestId) routing graphRetrieval := by
    refine fun hshared => ⟨?_, hshared.routingReasonCodes, hshared.fallbackReasonCodes,
      hshared.graphRetrieval⟩
    rintro _ ⟨⟩
    exact hrequestId
  cases execution with
  | deterministic m => exact hpatch h
  | singleAgent m => exact { h with shared := hpatch h.shared }
  | multiAgent m => exact { h with shared := hpatch h.shared }

end AssessmentPlatform
