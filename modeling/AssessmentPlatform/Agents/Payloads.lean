import AssessmentPlatform.Graph.MultiAgent
import AssessmentPlatform.KnowledgeGraph.Enrichment
import AssessmentPlatform.Library.IndentedJson
import AssessmentPlatform.Models.KnowledgeGraph
import AssessmentPlatform.Rag.Context

/-!
# What the agents are given

The JSON values of the requests, hand-overs and observations that the prompts of the agents
contain. A request can be read back from its value, also where values that are not set, or all
defaults, are left out.
-/

namespace AssessmentPlatform

open Library Library.Json

/-! ## Requests -/

/-- The fields of a request. -/
def AssessmentRequest.fields (request : AssessmentRequest) : List (Str × Json) :=
  [(("company_name" : String), .str request.companyName),
    (("organization_description" : String), optional request.organizationDescription),
    (("industry" : String), .str request.industry),
    (("business_problem" : String), .str request.businessProblem),
    (("current_process" : String), optional request.currentProcess),
    (("pain_points" : String), texts request.painPoints),
    (("desired_outcome" : String), .str request.desiredOutcome),
    (("constraints" : String), texts request.constraints),
    (("additional_context" : String), optional request.additionalContext)]

/-- Whether a field of a request is set to something. -/
def isPresent (field : Str × Json) : Bool := !field.2.isNull

/-- Whether a field of a request differs from its default; the default of the two lists is the empty
one, the default of the optional texts is `None`, and the other fields have none. -/
def notDefault (field : Str × Json) : Bool :=
  if field.1 = Str.ofString "pain_points" ∨ field.1 = Str.ofString "constraints" then
    !field.2.isEmptyArray
  else !field.2.isNull

/-- `model_dump(mode="json", exclude_none=True)`. -/
def AssessmentRequest.modelDump (request : AssessmentRequest) : Json :=
  .object (request.fields.filter isPresent)

/-- `model_dump(mode="json", exclude_none=True, exclude_defaults=True)`. -/
def AssessmentRequest.modelDumpChanged (request : AssessmentRequest) : Json :=
  .object (request.fields.filter notDefault)

/-- Every request dumps the same fields in the same order. -/
theorem AssessmentRequest.fields_names (request : AssessmentRequest) :
    request.fields.map Prod.fst = AssessmentRequest.minimal.fields.map Prod.fst := rfl

/-- The names of the fields of a request are distinct. -/
theorem AssessmentRequest.fields_nodup (request : AssessmentRequest) :
    (request.fields.map Prod.fst).Nodup := by
  rw [request.fields_names]
  decide +kernel

/-- The fields of a request are solid. -/
theorem AssessmentRequest.fields_solid (request : AssessmentRequest) :
    ∀ field ∈ request.fields, field.2.Solid := by
  simp [AssessmentRequest.fields]

/-- A request is determined by its fields, in whatever order they are sorted. -/
theorem AssessmentRequest.eq_of_sortedFields {request request' : AssessmentRequest}
    (h : sortedFields request.fields = sortedFields request'.fields) : request = request' := by
  simp only [AssessmentRequest.fields, sortedFields, sorted_str, sorted_optional, sorted_texts,
    List.cons.injEq, Prod.mk.injEq, true_and, and_true, Json.str.injEq,
    optional_injective.eq_iff, texts_injective.eq_iff] at h
  obtain ⟨hcompany, hdescription, hindustry, hproblem, hprocess, hpoints, houtcome, hconstraints,
    hcontext⟩ := h
  cases request
  cases request'
  subst hcompany hdescription hindustry hproblem hprocess hpoints houtcome hconstraints hcontext
  rfl

/-- A request can be read back from its value. -/
theorem AssessmentRequest.modelDump_inj {request request' : AssessmentRequest}
    (h : sorted request.modelDump = sorted request'.modelDump) : request = request' := by
  refine eq_of_sortedFields (sortedFields_inj (p := isPresent) ?_ ?_ ?_ request.fields_nodup h)
  · intro k v
    rw [isPresent, isPresent, isNull_sorted]
  · intro k v w hv hw
    have hv' : v.isNull = true := by simpa [isPresent] using hv
    have hw' : w.isNull = true := by simpa [isPresent] using hw
    rw [eq_null hv', eq_null hw']
  · rw [request.fields_names, request'.fields_names]

/-- So it can without its defaults. -/
theorem AssessmentRequest.modelDumpChanged_inj {request request' : AssessmentRequest}
    (h : sorted request.modelDumpChanged = sorted request'.modelDumpChanged) :
    request = request' := by
  refine eq_of_sortedFields (sortedFields_inj (p := notDefault) ?_ ?_ ?_ request.fields_nodup h)
  · intro k v
    unfold notDefault
    rw [isNull_sorted, isEmptyArray_sorted]
  · intro k v w hv hw
    unfold notDefault at hv hw
    split at hv
    · rename_i hlist
      rw [if_pos hlist] at hw
      have hv' : v.isEmptyArray = true := by simpa using hv
      have hw' : w.isEmptyArray = true := by simpa using hw
      rw [eq_emptyArray hv', eq_emptyArray hw']
    · rename_i hlist
      rw [if_neg hlist] at hw
      have hv' : v.isNull = true := by simpa using hv
      have hw' : w.isNull = true := by simpa using hw
      rw [eq_null hv', eq_null hw']
  · rw [request.fields_names, request'.fields_names]

/-- A selection of the fields of a request is solid. -/
theorem AssessmentRequest.solid_filter (request : AssessmentRequest) (p : Str × Json → Bool) :
    (Json.object (request.fields.filter p)).Solid := by
  rw [solid_object]
  intro field hfield
  exact request.fields_solid field (List.mem_filter.mp hfield).1

/-! ## Observations -/

/-- A dictionary of metadata as JSON has it. -/
structure Metadata where
  fields : List (Str × Json)
  solid : (Json.object fields).Solid

/-- The texts of floating-point numbers. -/
structure FloatRepr where
  text : ℚ → FloatText
  solid : ∀ q, (text q).Solid

/-- The text of zero is marked as that of a float. -/
theorem zeroText_mark : ∃ c ∈ ([48, 46, 48] : Str),
    c.val = 46 ∨ c.val = 101 ∨ c.val = 73 ∨ c.val = 78 :=
  ⟨46, by simp, .inl rfl⟩

/-- The text of zero does not end a value. -/
theorem zeroText_plain : ∀ c ∈ ([48, 46, 48] : Str), c.val ≠ 44 ∧ c.val ≠ 93 ∧ c.val ≠ 125 := by
  simp

/-- The text of zero has neither white space nor quotation marks. -/
theorem zeroText_solid : ∀ c ∈ ([48, 46, 48] : Str), c.val ≠ 10 ∧ c.val ≠ 32 ∧ c.val ≠ 34 := by
  simp

/-- Such texts exist: this is the one of zero. -/
theorem FloatRepr.nonempty : Nonempty FloatRepr :=
  ⟨fun _ => ⟨[48, 46, 48], ⟨48, [46, 48], rfl, .inl (by decide)⟩, zeroText_mark, zeroText_plain⟩,
    fun _ => zeroText_solid⟩

/-- An observed document with its metadata. -/
structure ObservedDocument extends ObservedKnowledgeDocument where
  metadata : Metadata

/-- A neighborhood with the metadata of its evidence. -/
structure ObservedNeighborhood extends GraphNeighborhood where
  evidenceMetadata : List Metadata
  evidenceMetadata_length : evidenceMetadata.length = evidence.length

/-- The texts of identifiers. -/
def uuidTexts (ids : List UUID) : Json := texts (ids.map UUID.text)

/-- `_document_payload`. -/
def documentPayload (document : ObservedDocument) : Json :=
  .object
    [(("document_id" : String), .str (UUID.text document.documentId)),
      (("title" : String), .str document.title),
      (("source_type" : String), .str document.sourceType.value),
      (("content_excerpt" : String), .str document.contentExcerpt),
      (("metadata" : String), .object document.metadata.fields),
      (("truncated" : String), .bool document.truncated)]

/-- `_history_payload`. -/
def historyPayload (item : ToolHistoryEntry) : Json :=
  .object
    [(("step" : String), .int item.step),
      (("tool_name" : String), .str item.toolName),
      (("success" : String), .bool item.success),
      (("summary" : String), .str item.summary),
      (("cached" : String), .bool item.cached),
      (("error_code" : String), optional item.errorCode)]

/-- `model_dump` of an entity. -/
def GraphEntityResult.modelDump (entity : GraphEntityResult) : Json :=
  .object
    [(("entity_id" : String), .str (UUID.text entity.entityId)),
      (("entity_type" : String), .str entity.entityType.value),
      (("canonical_name" : String), .str entity.canonicalName),
      (("normalized_name" : String), .str entity.normalizedName),
      (("description" : String), optional entity.description)]

/-- `model_dump` of a relationship. -/
def GraphRelationshipResult.modelDump (repr : FloatRepr) (relationship : GraphRelationshipResult) :
    Json :=
  .object
    [(("relationship_id" : String), .str (UUID.text relationship.relationshipId)),
      (("source_entity_id" : String), .str (UUID.text relationship.sourceEntityId)),
      (("source_entity_name" : String), .str relationship.sourceEntityName),
      (("target_entity_id" : String), .str (UUID.text relationship.targetEntityId)),
      (("target_entity_name" : String), .str relationship.targetEntityName),
      (("relationship_type" : String), .str relationship.relationshipType.value),
      (("description" : String), optional relationship.description),
      (("confidence" : String), .float (repr.text relationship.confidence)),
      (("source_document_id" : String), .str (UUID.text relationship.sourceDocumentId)),
      (("source_chunk_id" : String), .str (UUID.text relationship.sourceChunkId))]

/-- A score that may be absent. -/
def FloatRepr.score (repr : FloatRepr) : Option ℚ → Json
  | none => .null
  | some score => .float (repr.text score)

/-- `model_dump` of an item of evidence with its metadata. -/
def RetrievedEvidence.modelDump (repr : FloatRepr) (item : RetrievedEvidence)
    (metadata : Metadata) : Json :=
  .object
    [(("chunk_id" : String), .str (UUID.text item.chunkId)),
      (("document_id" : String), .str (UUID.text item.documentId)),
      (("document_title" : String), .str item.documentTitle),
      (("content" : String), .str item.content),
      (("similarity_score" : String), repr.score item.similarityScore),
      (("source_type" : String), .str item.sourceType.value),
      (("metadata" : String), .object metadata.fields),
      (("retrieval_source" : String), .str item.retrievalSource.value)]

/-- `model_dump` of a neighborhood. -/
def ObservedNeighborhood.modelDump (repr : FloatRepr) (neighborhood : ObservedNeighborhood) :
    Json :=
  .object
    [(("query" : String), .str neighborhood.query),
      (("matched_entities" : String),
        .array (neighborhood.matchedEntities.map GraphEntityResult.modelDump)),
      (("related_entities" : String),
        .array (neighborhood.relatedEntities.map GraphEntityResult.modelDump)),
      (("relationships" : String),
        .array (neighborhood.relationships.map (GraphRelationshipResult.modelDump repr))),
      (("source_document_ids" : String), uuidTexts neighborhood.sourceDocumentIds),
      (("source_chunk_ids" : String), uuidTexts neighborhood.sourceChunkIds),
      (("depth_used" : String), .int neighborhood.depthUsed),
      (("evidence" : String), .array
        ((neighborhood.evidence.zip neighborhood.evidenceMetadata).map fun pair =>
          pair.1.modelDump repr pair.2))]

/-! ## Hand-overs -/

/-- The value of a confidence. -/
def SpecialistConfidence.value : SpecialistConfidence → Str
  | .low => "low"
  | .medium => "medium"
  | .high => "high"

/-- The value of a severity. -/
def RiskSeverity.value : RiskSeverity → Str
  | .low => "low"
  | .medium => "medium"
  | .high => "high"
  | .critical => "critical"

/-- Relative delivery complexity of a recommended use case. -/
inductive ComplexityLevel where
  | low | medium | high

/-- The value of a complexity. -/
def ComplexityLevel.value : ComplexityLevel → Str
  | .low => "low"
  | .medium => "medium"
  | .high => "high"

/-- High-level solution patterns available to an assessment. -/
inductive SolutionPattern where
  | deterministicAutomation | llmAssistedWorkflow | ragDecisionSupport | toolUsingAgent
  | agenticWorkflow

/-- The value of a pattern. -/
def SolutionPattern.value : SolutionPattern → Str
  | .deterministicAutomation => "deterministic_automation"
  | .llmAssistedWorkflow => "llm_assisted_workflow"
  | .ragDecisionSupport => "rag_decision_support"
  | .toolUsingAgent => "tool_using_agent"
  | .agenticWorkflow => "agentic_workflow"

/-- Enterprise risk categories considered by an assessment. -/
inductive RiskCategory where
  | privacy | security | hallucination | compliance | dataQuality | explainability | operational

/-- The value of a category. -/
def RiskCategory.value : RiskCategory → Str
  | .privacy => "privacy"
  | .security => "security"
  | .hallucination => "hallucination"
  | .compliance => "compliance"
  | .dataQuality => "data_quality"
  | .explainability => "explainability"
  | .operational => "operational"

/-- `model_dump` of an evidence item. -/
def EvidenceItem.modelDump (item : EvidenceItem) : Json :=
  .object
    [(("claim" : String), .str item.claim),
      (("supporting_document_ids" : String), uuidTexts item.supportingDocumentIds),
      (("supporting_chunk_ids" : String), uuidTexts item.supportingChunkIds),
      (("relevance" : String), .str item.relevance),
      (("notes" : String), optional item.notes)]

/-- `model_dump` of an evidence brief. -/
def EvidenceBrief.modelDump (brief : EvidenceBrief) : Json :=
  .object
    [(("summary" : String), .str brief.summary),
      (("evidence_items" : String), .array (brief.evidenceItems.map EvidenceItem.modelDump)),
      (("evidence_gaps" : String), texts brief.evidenceGaps),
      (("confidence" : String), .str brief.confidence.value),
      (("retrieved_document_ids" : String), uuidTexts brief.retrievedDocumentIds),
      (("retrieved_chunk_ids" : String), uuidTexts brief.retrievedChunkIds)]

/-- The whole output of the Solution Architecture Agent. -/
structure ArchitectureHandOver extends ArchitectureRecommendation where
  recommendedPattern : SolutionPattern
  components : List Str
  dataFlow : List Str
  integrations : List Str
  complexity : ComplexityLevel
  implementationAssumptions : List Str
  alternativesConsidered : List Str
  whySimplerOptionsAreOrAreNotSufficient : Str
  confidence : SpecialistConfidence

/-- `model_dump` of an architecture recommendation. -/
def ArchitectureHandOver.modelDump (architecture : ArchitectureHandOver) : Json :=
  .object
    [(("recommended_pattern" : String), .str architecture.recommendedPattern.value),
      (("architecture_summary" : String), .str architecture.architectureSummary),
      (("components" : String), texts architecture.components),
      (("data_flow" : String), texts architecture.dataFlow),
      (("integrations" : String), texts architecture.integrations),
      (("complexity" : String), .str architecture.complexity.value),
      (("implementation_assumptions" : String), texts architecture.implementationAssumptions),
      (("alternatives_considered" : String), texts architecture.alternativesConsidered),
      (("why_simpler_options_are_or_are_not_sufficient" : String),
        .str architecture.whySimplerOptionsAreOrAreNotSufficient),
      (("confidence" : String), .str architecture.confidence.value)]

/-- One risk finding scoped to governance analysis. -/
structure GovernanceRisk where
  category : RiskCategory
  description : Str
  severity : RiskSeverity
  mitigation : Str

/-- `model_dump` of a governance risk. -/
def GovernanceRisk.modelDump (risk : GovernanceRisk) : Json :=
  .object
    [(("category" : String), .str risk.category.value),
      (("description" : String), .str risk.description),
      (("severity" : String), .str risk.severity.value),
      (("mitigation" : String), .str risk.mitigation)]

/-- The whole output of the Risk & Governance Agent; `reviewRequired` is the field
`human_oversight.review_required`. -/
structure RiskGovernanceHandOver extends RiskGovernanceReview where
  risks : List GovernanceRisk
  requiredControls : List Str
  decisionsRequiringReview : List Str
  oversightRationale : Str
  auditabilityRequirements : List Str
  unresolvedQuestions : List Str
  confidence : SpecialistConfidence

/-- `model_dump` of a governance review. -/
def RiskGovernanceHandOver.modelDump (review : RiskGovernanceHandOver) : Json :=
  .object
    [(("overall_risk" : String), .str review.overallRisk.value),
      (("risks" : String), .array (review.risks.map GovernanceRisk.modelDump)),
      (("required_controls" : String), texts review.requiredControls),
      (("human_oversight" : String), .object
        [(("review_required" : String), .bool review.reviewRequired),
          (("decisions_requiring_review" : String), texts review.decisionsRequiringReview),
          (("rationale" : String), .str review.oversightRationale)]),
      (("auditability_requirements" : String), texts review.auditabilityRequirements),
      (("unresolved_questions" : String), texts review.unresolvedQuestions),
      (("confidence" : String), .str review.confidence.value)]

/-! ## Solid values -/

/-- A list of identifiers is solid. -/
@[simp]
theorem solid_uuidTexts (ids : List UUID) : (uuidTexts ids).Solid := solid_texts _

/-- The fields of metadata are solid. -/
@[simp]
theorem Metadata.solid_fields (metadata : Metadata) : (Json.object metadata.fields).Solid :=
  metadata.solid

/-- The text of a float is solid. -/
@[simp]
theorem FloatRepr.solid_text (repr : FloatRepr) (q : ℚ) : (Json.float (repr.text q)).Solid :=
  repr.solid q

/-- A score is solid, also where there is none. -/
@[simp]
theorem FloatRepr.solid_score (repr : FloatRepr) (score : Option ℚ) : (repr.score score).Solid := by
  cases score with
  | none => trivial
  | some q => exact repr.solid q

/-- A list of solid values is solid. -/
theorem solid_map {α : Type} {f : α → Json} (h : ∀ a, (f a).Solid) (items : List α) :
    (Json.array (items.map f)).Solid := by
  rw [solid_array, List.forall_mem_map]
  exact fun a _ => h a

/-- An object of some fields. -/
theorem solid_fields {fields : List (Str × Json)} (h : fields.Forall fun field => field.2.Solid) :
    (Json.object fields).Solid :=
  solid_object.mpr (List.forall_iff_forall_mem.mp h)

/-- The payload of a document is solid. -/
theorem documentPayload_solid (document : ObservedDocument) : (documentPayload document).Solid :=
  solid_fields (by simp)

/-- The payload of an entry of the tool history is solid. -/
theorem historyPayload_solid (item : ToolHistoryEntry) : (historyPayload item).Solid :=
  solid_fields (by simp)

/-- The dump of an entity is solid. -/
theorem GraphEntityResult.modelDump_solid (entity : GraphEntityResult) : entity.modelDump.Solid :=
  solid_fields (by simp)

/-- The dump of a relationship is solid. -/
theorem GraphRelationshipResult.modelDump_solid (repr : FloatRepr)
    (relationship : GraphRelationshipResult) : (relationship.modelDump repr).Solid :=
  solid_fields (by simp)

/-- The dump of an evidence item is solid. -/
theorem RetrievedEvidence.modelDump_solid (repr : FloatRepr) (item : RetrievedEvidence)
    (metadata : Metadata) : (item.modelDump repr metadata).Solid :=
  solid_fields (by simp)

/-- The dump of a neighborhood is solid. -/
theorem ObservedNeighborhood.modelDump_solid (repr : FloatRepr)
    (neighborhood : ObservedNeighborhood) : (neighborhood.modelDump repr).Solid := by
  have hevidence := solid_map (fun pair : RetrievedEvidence × Metadata =>
    pair.1.modelDump_solid repr pair.2) (neighborhood.evidence.zip neighborhood.evidenceMetadata)
  refine solid_fields ?_
  simp [solid_map GraphEntityResult.modelDump_solid,
    solid_map (GraphRelationshipResult.modelDump_solid repr), hevidence]

/-- The dump of an item of a brief is solid. -/
theorem EvidenceItem.modelDump_solid (item : EvidenceItem) : item.modelDump.Solid :=
  solid_fields (by simp)

/-- The dump of a brief is solid. -/
theorem EvidenceBrief.modelDump_solid (brief : EvidenceBrief) : brief.modelDump.Solid :=
  solid_fields (by simp [solid_map EvidenceItem.modelDump_solid])

/-- The dump of an architecture is solid. -/
theorem ArchitectureHandOver.modelDump_solid (architecture : ArchitectureHandOver) :
    architecture.modelDump.Solid :=
  solid_fields (by simp)

/-- The dump of a risk is solid. -/
theorem GovernanceRisk.modelDump_solid (risk : GovernanceRisk) : risk.modelDump.Solid :=
  solid_fields (by simp)

/-- The dump of a review is solid. -/
theorem RiskGovernanceHandOver.modelDump_solid (review : RiskGovernanceHandOver) :
    review.modelDump.Solid := by
  refine solid_fields ?_
  simp [solid_map GovernanceRisk.modelDump_solid, solid_object]

end AssessmentPlatform
