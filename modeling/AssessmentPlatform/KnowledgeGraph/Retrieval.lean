import AssessmentPlatform.Models.KnowledgeGraph
import AssessmentPlatform.Rag.Retrieval

/-!
# Graph retrieval

The service that resolves the entities named by a query and maps the bounded traversal of
the repository to a typed neighborhood. The repository is a parameter that returns or
raises; of its contract the service relies on the depth bound alone. Entity metadata,
time stamps and mentions are left out, since the mapping does not read them.
-/

namespace AssessmentPlatform

open Library

/-- Resolved graph entity. -/
structure KnowledgeEntityRecord where
  entityId : UUID
  entityType : KnowledgeEntityType
  canonicalName : Str
  normalizedName : Str
  description : Option Str
  deriving DecidableEq

/-- Directed, typed, source-grounded graph edge; a table constraint bounds the
confidence. -/
structure KnowledgeRelationshipRecord where
  relationshipId : UUID
  sourceEntityId : UUID
  targetEntityId : UUID
  relationshipType : KnowledgeRelationshipType
  description : Option Str
  confidence : ℚ
  sourceChunkId : UUID
  confidence_bounds : 0 ≤ confidence ∧ confidence ≤ 1
  deriving DecidableEq

/-- Repository result before the mapping to public models. The evidence has one row for
each chunk, and the sizes of the tuples are machine words. -/
structure GraphTraversalData where
  matchedEntities : List KnowledgeEntityRecord
  relatedEntities : List KnowledgeEntityRecord
  relationships : List KnowledgeRelationshipRecord
  evidence : List RetrievedEvidence
  depthUsed : ℕ
  evidence_nodup : (evidence.map RetrievedEvidence.chunkId).Nodup
  matchedEntities_lt : matchedEntities.length < 2 ^ 63
  relationships_lt : relationships.length < 2 ^ 63

/-- The configured service. The depth setting is at most five, and a traversal does not
exceed the depth that it is given. -/
structure GraphRetrievalService where
  findMatchingQuery : Str → ℕ → Option (List KnowledgeEntityType) →
    Except Failure (List KnowledgeEntityRecord)
  getNeighborhood : List UUID → ℕ → ℕ → ℚ → Except Failure GraphTraversalData
  rollback : Except Failure Unit := .ok ()
  maxDepth : ℕ
  maxEntities : ℕ
  minConfidence : ℚ
  maxDepth_le : maxDepth ≤ 5
  depthUsed_le : ∀ seeds depth entities confidence traversal,
    getNeighborhood seeds depth entities confidence = .ok traversal → traversal.depthUsed ≤ depth

/-- `_entity_result`. -/
def KnowledgeEntityRecord.toResult (entity : KnowledgeEntityRecord) : GraphEntityResult where
  entityId := entity.entityId
  entityType := entity.entityType
  canonicalName := entity.canonicalName
  normalizedName := entity.normalizedName
  description := entity.description

/-- The last item under a key, as a dictionary built by assignments holds it. -/
def lastBy {α : Type} (key : α → UUID) (id : UUID) (items : List α) : Option α :=
  items.reverse.find? fun item => key item = id

/-- A relationship with its labels and its source; one without is skipped. -/
def GraphTraversalData.mapRelationship (traversal : GraphTraversalData)
    (relationship : KnowledgeRelationshipRecord) : Option GraphRelationshipResult := do
  let entities := traversal.matchedEntities ++ traversal.relatedEntities
  let source ← lastBy KnowledgeEntityRecord.entityId relationship.sourceEntityId entities
  let target ← lastBy KnowledgeEntityRecord.entityId relationship.targetEntityId entities
  let provenance ← lastBy RetrievedEvidence.chunkId relationship.sourceChunkId traversal.evidence
  pure
    { relationshipId := relationship.relationshipId
      sourceEntityId := source.entityId
      sourceEntityName := source.canonicalName
      targetEntityId := target.entityId
      targetEntityName := target.canonicalName
      relationshipType := relationship.relationshipType
      description := relationship.description
      confidence := relationship.confidence
      sourceDocumentId := provenance.documentId
      sourceChunkId := provenance.chunkId }

section Service

variable (service : GraphRetrievalService) (query : Str) (maxDepth : Option ℕ)
  (entityTypes : Option (List KnowledgeEntityType))

/-- The traversal of the repository, or nothing when no entity matches. -/
def GraphRetrievalService.traverse : Except Failure (Option GraphTraversalData) := do
  let matched ← service.findMatchingQuery query service.maxEntities entityTypes
  if matched = [] then pure none
  else do
    let traversal ← service.getNeighborhood (matched.map KnowledgeEntityRecord.entityId)
      (min (limitOr maxDepth service.maxDepth) service.maxDepth) service.maxEntities
      service.minConfidence
    pure (some traversal)

/-- The repository lookup of a search, with its database errors translated. -/
def GraphRetrievalService.lookup : Except Failure (Option GraphTraversalData) :=
  guardStore service.rollback .knowledgeGraphUnavailable .knowledgeGraphPersistence
    (service.traverse query maxDepth entityTypes)

/-- The neighborhood of a traversal. -/
def GraphTraversalData.toNeighborhood (traversal : GraphTraversalData) (query : Str) :
    Except Failure GraphNeighborhood :=
  GraphNeighborhood.create query
    (traversal.matchedEntities.map KnowledgeEntityRecord.toResult)
    (traversal.relatedEntities.map KnowledgeEntityRecord.toResult)
    (traversal.relationships.filterMap traversal.mapRelationship)
    ((traversal.evidence.map RetrievedEvidence.documentId).dedup.insertionSort (· ≤ ·))
    ((traversal.evidence.map RetrievedEvidence.chunkId).dedup.insertionSort (· ≤ ·))
    traversal.depthUsed traversal.evidence

/-- `GraphRetrievalService.search`. -/
def GraphRetrievalService.search : Except Failure GraphNeighborhood := do
  match ← service.lookup query maxDepth entityTypes with
  | none => GraphNeighborhood.empty query
  | some traversal => traversal.toNeighborhood query

end Service

/-! ## What a search returns -/

section Results

variable {service : GraphRetrievalService} {query : Str} {maxDepth : Option ℕ}
  {entityTypes : Option (List KnowledgeEntityType)}

/-- A traversal that a search maps is a neighborhood of what its query matches. -/
theorem GraphRetrievalService.lookup_eq_some {traversal : GraphTraversalData}
    (h : service.lookup query maxDepth entityTypes = .ok (some traversal)) :
    ∃ seeds, service.getNeighborhood seeds (min (limitOr maxDepth service.maxDepth)
      service.maxDepth) service.maxEntities service.minConfidence = .ok traversal := by
  have htraverse := guardStore_eq_ok h
  unfold GraphRetrievalService.traverse at htraverse
  obtain ⟨matched, -, hmatched⟩ := except_bind_eq_ok.mp htraverse
  split at hmatched
  · cases hmatched
  · obtain ⟨found, hfound, heq⟩ := except_bind_eq_ok.mp hmatched
    cases heq
    exact ⟨_, hfound⟩

/-- A traversal that a search maps respects the depth bound of its model. -/
theorem GraphRetrievalService.lookup_depthUsed_le {traversal : GraphTraversalData}
    (h : service.lookup query maxDepth entityTypes = .ok (some traversal)) :
    traversal.depthUsed ≤ 5 := by
  obtain ⟨seeds, hfound⟩ := GraphRetrievalService.lookup_eq_some h
  have hdepth := service.depthUsed_le _ _ _ _ _ hfound
  have hmax := service.maxDepth_le
  omega

/-- The neighborhood of a search that returns is the one of its traversal. -/
theorem GraphTraversalData.toNeighborhood_eq_ok {traversal : GraphTraversalData}
    {neighborhood : GraphNeighborhood} (h : traversal.toNeighborhood query = .ok neighborhood) :
    neighborhood.evidence = traversal.evidence ∧
      neighborhood.matchedEntities = traversal.matchedEntities.map KnowledgeEntityRecord.toResult ∧
      neighborhood.relationships =
        traversal.relationships.filterMap traversal.mapRelationship := by
  unfold GraphTraversalData.toNeighborhood GraphNeighborhood.create at h
  split at h
  · cases h
    exact ⟨rfl, rfl, rfl⟩
  · cases h

/-- The sizes that a search reports are machine words. -/
theorem GraphRetrievalService.search_sizes_lt {neighborhood : GraphNeighborhood}
    (h : service.search query maxDepth entityTypes = .ok neighborhood) :
    neighborhood.matchedEntities.length < 2 ^ 63 ∧
      neighborhood.relationships.length < 2 ^ 63 := by
  unfold GraphRetrievalService.search at h
  obtain ⟨found, -, hfound⟩ := except_bind_eq_ok.mp h
  cases found with
  | none =>
    dsimp only [GraphNeighborhood.empty, GraphNeighborhood.create] at hfound
    split at hfound
    · cases hfound
      exact ⟨by simp, by simp⟩
    · cases hfound
  | some traversal =>
    obtain ⟨-, hmatched, hrelationships⟩ := traversal.toNeighborhood_eq_ok hfound
    rw [hmatched, hrelationships, List.length_map]
    exact ⟨traversal.matchedEntities_lt,
      (List.length_filterMap_le _ _).trans_lt traversal.relationships_lt⟩

end Results

end AssessmentPlatform
