import AssessmentPlatform.Core.Exceptions
import AssessmentPlatform.Models.Knowledge

/-!
# Knowledge graph results

The controlled vocabularies of the knowledge graph and the typed neighborhood that graph
retrieval returns. A neighborhood carries the bounds that its model validates; `create`
is the validating constructor. Confidences are exact rationals.
-/

namespace AssessmentPlatform

/-- Small controlled entity taxonomy for enterprise knowledge. -/
inductive KnowledgeEntityType where
  | organization | process | system | policy | regulation | risk | dataAsset | aiCapability
  | control | role | other
  deriving DecidableEq

/-- The persisted value of an entity type. -/
def KnowledgeEntityType.value : KnowledgeEntityType → Str
  | .organization => "organization"
  | .process => "process"
  | .system => "system"
  | .policy => "policy"
  | .regulation => "regulation"
  | .risk => "risk"
  | .dataAsset => "data_asset"
  | .aiCapability => "ai_capability"
  | .control => "control"
  | .role => "role"
  | .other => "other"

/-- Controlled relationship vocabulary accepted from extraction. -/
inductive KnowledgeRelationshipType where
  | uses | dependsOn | partOf | governedBy | affectedBy | createsRisk | mitigatedBy | requires
  | produces | consumes | relatedTo
  deriving DecidableEq

/-- The persisted value of a relationship type. -/
def KnowledgeRelationshipType.value : KnowledgeRelationshipType → Str
  | .uses => "uses"
  | .dependsOn => "depends_on"
  | .partOf => "part_of"
  | .governedBy => "governed_by"
  | .affectedBy => "affected_by"
  | .createsRisk => "creates_risk"
  | .mitigatedBy => "mitigated_by"
  | .requires => "requires"
  | .produces => "produces"
  | .consumes => "consumes"
  | .relatedTo => "related_to"

/-- Typed entity exposed by graph retrieval. -/
structure GraphEntityResult where
  entityId : UUID
  entityType : KnowledgeEntityType
  canonicalName : Str
  normalizedName : Str
  description : Option Str := none
  deriving DecidableEq

/-- Typed relationship with entity labels and complete source provenance. -/
structure GraphRelationshipResult where
  relationshipId : UUID
  sourceEntityId : UUID
  sourceEntityName : Str
  targetEntityId : UUID
  targetEntityName : Str
  relationshipType : KnowledgeRelationshipType
  description : Option Str := none
  confidence : ℚ
  sourceDocumentId : UUID
  sourceChunkId : UUID
  deriving DecidableEq

/-- Bounded relationship-aware result plus graph-derived source chunks. -/
structure GraphNeighborhood where
  query : Str
  matchedEntities : List GraphEntityResult
  relatedEntities : List GraphEntityResult
  relationships : List GraphRelationshipResult
  sourceDocumentIds : List UUID
  sourceChunkIds : List UUID
  depthUsed : ℕ
  evidence : List RetrievedEvidence
  query_bounds : 1 ≤ query.length ∧ query.length ≤ 4000
  depthUsed_le : depthUsed ≤ 5
  deriving DecidableEq

/-- The bounds that the model of a neighborhood validates; it does not strip. -/
def GraphNeighborhood.Accepts (query : Str) (depthUsed : ℕ) : Prop :=
  query.encodable = true ∧ (1 ≤ query.length ∧ query.length ≤ 4000) ∧ depthUsed ≤ 5

instance GraphNeighborhood.decidableAccepts (query : Str) (depthUsed : ℕ) :
    Decidable (GraphNeighborhood.Accepts query depthUsed) :=
  inferInstanceAs (Decidable (_ ∧ _))

/-- The validating constructor. -/
def GraphNeighborhood.create (query : Str)
    (matchedEntities relatedEntities : List GraphEntityResult)
    (relationships : List GraphRelationshipResult) (sourceDocumentIds sourceChunkIds : List UUID)
    (depthUsed : ℕ) (evidence : List RetrievedEvidence) : Except Failure GraphNeighborhood :=
  if h : GraphNeighborhood.Accepts query depthUsed then
    .ok
      { query, matchedEntities, relatedEntities, relationships, sourceDocumentIds, sourceChunkIds,
        depthUsed, evidence, query_bounds := h.2.1, depthUsed_le := h.2.2 }
  else .error .value

/-- `GraphNeighborhood.empty`. -/
def GraphNeighborhood.empty (query : Str) : Except Failure GraphNeighborhood :=
  GraphNeighborhood.create query [] [] [] [] [] 0 []

end AssessmentPlatform
