import AssessmentPlatform.KnowledgeGraph.Resolution

/-!
# Graph retrieval from a store

The retrieval service whose repository reads a store. The rows of a neighborhood become the records
of a traversal, and the mapping of a search to its result finds every end and every source.
-/

namespace AssessmentPlatform

open Library

/-- `_entity_record`. -/
def KnowledgeEntityModel.toRecord (model : KnowledgeEntityModel) : KnowledgeEntityRecord where
  entityId := model.id
  entityType := model.entityType
  canonicalName := model.canonicalName
  normalizedName := model.normalizedName
  description := model.description

/-- `_relationship_record`. -/
def KnowledgeRelationshipModel.toRecord (model : KnowledgeRelationshipModel)
    (h : 0 ≤ model.confidence ∧ model.confidence ≤ 1) : KnowledgeRelationshipRecord where
  relationshipId := model.id
  sourceEntityId := model.sourceEntityId
  targetEntityId := model.targetEntityId
  relationshipType := model.relationshipType
  description := model.description
  confidence := model.confidence
  sourceChunkId := model.sourceChunkId
  confidence_bounds := h

namespace GraphStore

variable (store : GraphStore)

section Records

variable {store : GraphStore} {seedEntityIds : List UUID} {maxDepth maxEntities : ℕ}
  {minConfidence : ℚ}

/-- The relationships of a neighborhood are stored ones. -/
theorem relationships_stored : ∀ r ∈ (store.getNeighborhood seedEntityIds maxDepth maxEntities
    minConfidence).relationships, r ∈ store.graph.relationships := by
  obtain ⟨rank, hranked⟩ := store.ranked_traverse seedEntityIds maxDepth maxEntities minConfidence
    False False.elim
  intro r hr
  exact (mem_qualifyingRelationships.mp (hranked.closed r (mem_relationships.mp hr)).1).1

end Records

/-- The neighborhood as the repository returns it. The sizes of its tuples are machine words, or
there is no memory for them. -/
def traversalData (seedEntityIds : List UUID) (maxDepth maxEntities : ℕ) (minConfidence : ℚ) :
    Except Failure GraphTraversalData :=
  let n := store.getNeighborhood seedEntityIds maxDepth maxEntities minConfidence
  if hsize : n.matchedEntities.length < 2 ^ 63 ∧ n.relationships.length < 2 ^ 63 then
    .ok
      { matchedEntities := n.matchedEntities.map KnowledgeEntityModel.toRecord
        relatedEntities := n.relatedEntities.map KnowledgeEntityModel.toRecord
        relationships := n.relationships.pmap KnowledgeRelationshipModel.toRecord fun r hr =>
          store.relationship_confidence r (relationships_stored r hr)
        evidence := n.evidence
        depthUsed := n.depthUsed
        evidence_nodup := nodup_loadGraphEvidence _
        matchedEntities_lt := by simpa using hsize.1
        relationships_lt := by simpa using hsize.2 }
  else .error .other

/-- The data of a traversal reports at most the given depth. -/
theorem traversalData_depthUsed_le {seedEntityIds : List UUID} {maxDepth maxEntities : ℕ}
    {minConfidence : ℚ} {traversal : GraphTraversalData}
    (h : store.traversalData seedEntityIds maxDepth maxEntities minConfidence = .ok traversal) :
    traversal.depthUsed ≤ maxDepth := by
  unfold traversalData at h
  dsimp only at h
  split at h
  · cases h
    exact (store.getNeighborhood_grounded seedEntityIds maxDepth maxEntities
      minConfidence).depthUsed_le
  · cases h

/-- The settings of the service and the errors of its session, if there are any. -/
structure RetrievalSession where
  unicode : Unicode
  word : CodePoint → Bool
  findFault : Option SQLAlchemyError := none
  traversalFault : Option SQLAlchemyError := none
  rollback : Except Failure Unit := .ok ()
  maxDepth : ℕ
  maxEntities : ℕ
  minConfidence : ℚ
  maxDepth_le : maxDepth ≤ 5

/-- The service over a store. -/
def retrievalService (session : RetrievalSession) : GraphRetrievalService where
  findMatchingQuery query limit entityTypes :=
    unlessFault session.findFault (.ok ((store.findMatchingQuery session.unicode session.word query
      limit entityTypes).map KnowledgeEntityModel.toRecord))
  getNeighborhood seeds depth entities confidence :=
    unlessFault session.traversalFault (store.traversalData seeds depth entities confidence)
  rollback := session.rollback
  maxDepth := session.maxDepth
  maxEntities := session.maxEntities
  minConfidence := session.minConfidence
  maxDepth_le := session.maxDepth_le
  depthUsed_le _ _ _ _ _ h := store.traversalData_depthUsed_le (unlessFault_eq_ok h)

/-! ## What a search keeps -/

section Search

variable {store : GraphStore} {seedEntityIds : List UUID} {maxDepth maxEntities : ℕ}
  {minConfidence : ℚ} {traversal : GraphTraversalData}

/-- The records of a traversal are those of the neighborhood. -/
theorem traversalData_eq_ok
    (h : store.traversalData seedEntityIds maxDepth maxEntities minConfidence = .ok traversal) :
    traversal.evidence =
        (store.getNeighborhood seedEntityIds maxDepth maxEntities minConfidence).evidence ∧
      (traversal.matchedEntities ++ traversal.relatedEntities).map
          KnowledgeEntityRecord.entityId =
        (store.getNeighborhood seedEntityIds maxDepth maxEntities minConfidence).entities.map
          KnowledgeEntityModel.id ∧
      ∀ r ∈ traversal.relationships, ∃ model ∈ (store.getNeighborhood seedEntityIds maxDepth
        maxEntities minConfidence).relationships, ∃ hbounds, r = model.toRecord hbounds := by
  unfold traversalData at h
  dsimp only at h
  split at h
  · cases h
    refine ⟨rfl, ?_, ?_⟩
    · unfold Neighborhood.entities
      rw [← List.map_append, List.map_map]
      rfl
    · intro r hr
      obtain ⟨model, hmodel, rfl⟩ := List.mem_pmap.mp hr
      exact ⟨model, hmodel, _, rfl⟩
  · cases h

/-- A key of a list has a last item. -/
theorem lastBy_isSome {α : Type} {key : α → UUID} {id : UUID} {items : List α}
    (h : id ∈ items.map key) : ∃ x, lastBy key id items = some x := by
  have hmem : id ∈ items.reverse.map key := by simpa using h
  exact getBy_isSome hmem

/-- A relationship whose ends and source are among the records is mapped. -/
theorem mapRelationship_isSome {r : KnowledgeRelationshipRecord}
    (hsource : r.sourceEntityId ∈ (traversal.matchedEntities ++ traversal.relatedEntities).map
      KnowledgeEntityRecord.entityId)
    (htarget : r.targetEntityId ∈ (traversal.matchedEntities ++ traversal.relatedEntities).map
      KnowledgeEntityRecord.entityId)
    (hchunk : r.sourceChunkId ∈ traversal.evidence.map RetrievedEvidence.chunkId) :
    (traversal.mapRelationship r).map GraphRelationshipResult.relationshipId =
      some r.relationshipId := by
  obtain ⟨source, hsource⟩ := lastBy_isSome hsource
  obtain ⟨target, htarget⟩ := lastBy_isSome htarget
  obtain ⟨provenance, hprovenance⟩ := lastBy_isSome hchunk
  simp [GraphTraversalData.mapRelationship, hsource, htarget, hprovenance]

/-- No relationship of a neighborhood is skipped. -/
theorem mapRelationship_ids
    (h : store.traversalData seedEntityIds maxDepth maxEntities minConfidence = .ok traversal) :
    (traversal.relationships.filterMap traversal.mapRelationship).map
        GraphRelationshipResult.relationshipId =
      traversal.relationships.map KnowledgeRelationshipRecord.relationshipId := by
  have hgrounded := store.getNeighborhood_grounded seedEntityIds maxDepth maxEntities minConfidence
  obtain ⟨hevidence, hentities, hrelationships⟩ := traversalData_eq_ok h
  rw [List.map_filterMap, ← List.filterMap_eq_map]
  refine List.filterMap_congr fun r hr => ?_
  obtain ⟨model, hmodel, hbounds, rfl⟩ := hrelationships r hr
  obtain ⟨hsource, htarget⟩ := hgrounded.ends_mem model hmodel
  refine mapRelationship_isSome ?_ ?_ ?_
  · rw [hentities]
    exact hsource
  · rw [hentities]
    exact htarget
  · rw [hevidence]
    exact hgrounded.relationship_evidence model hmodel

/-- The traversal of a search is a neighborhood of the store. -/
theorem lookup_eq_ok {session : RetrievalSession} {query : Str} {requestedDepth : Option ℕ}
    {entityTypes : Option (List KnowledgeEntityType)}
    (h : (store.retrievalService session).lookup query requestedDepth entityTypes =
      .ok (some traversal)) :
    ∃ seeds depth, store.traversalData seeds depth session.maxEntities session.minConfidence =
      .ok traversal := by
  obtain ⟨seeds, hfound⟩ := GraphRetrievalService.lookup_eq_some h
  exact ⟨seeds, _, unlessFault_eq_ok hfound⟩

/-- The evidence of a search has distinct chunks, none of them with a score. -/
theorem search_evidence {session : RetrievalSession} {query : Str} {requestedDepth : Option ℕ}
    {entityTypes : Option (List KnowledgeEntityType)} {result : GraphNeighborhood}
    (h : (store.retrievalService session).search query requestedDepth entityTypes = .ok result) :
    (result.evidence.map RetrievedEvidence.chunkId).Nodup ∧
      ∀ item ∈ result.evidence, item.similarityScore = none := by
  unfold GraphRetrievalService.search at h
  obtain ⟨found, hlookup, hfound⟩ := except_bind_eq_ok.mp h
  cases found with
  | none =>
    dsimp only [GraphNeighborhood.empty, GraphNeighborhood.create] at hfound
    split at hfound
    · cases hfound
      exact ⟨List.nodup_nil, List.forall_mem_nil _⟩
    · cases hfound
  | some traversal =>
    obtain ⟨seeds, depth, htraversal⟩ := lookup_eq_ok hlookup
    obtain ⟨hevidence, -, -⟩ := traversal.toNeighborhood_eq_ok hfound
    rw [hevidence, (traversalData_eq_ok htraversal).1]
    refine ⟨nodup_loadGraphEvidence _, fun item hitem => ?_⟩
    exact loadGraphEvidence_unscored item hitem

end Search

/-- A neighborhood respects its bounds and holds whatever it refers to, and a search drops none of
the relationships that its traversal has returned. -/
theorem neighborhood_closed (seedEntityIds : List UUID) (maxDepth maxEntities : ℕ)
    (minConfidence : ℚ) :
    (store.getNeighborhood seedEntityIds maxDepth maxEntities minConfidence).Grounded
        seedEntityIds maxDepth maxEntities minConfidence ∧
      ∀ (session : RetrievalSession) (query : Str) (requestedDepth : Option ℕ)
        (entityTypes : Option (List KnowledgeEntityType)) (traversal : GraphTraversalData)
        (result : GraphNeighborhood),
        (store.retrievalService session).lookup query requestedDepth entityTypes =
          .ok (some traversal) →
        (store.retrievalService session).search query requestedDepth entityTypes = .ok result →
        result.relationships.map GraphRelationshipResult.relationshipId =
          traversal.relationships.map KnowledgeRelationshipRecord.relationshipId := by
  refine ⟨store.getNeighborhood_grounded seedEntityIds maxDepth maxEntities minConfidence, ?_⟩
  intro session query requestedDepth entityTypes traversal result hlookup hsearch
  obtain ⟨seeds, depth, htraversal⟩ := lookup_eq_ok hlookup
  unfold GraphRetrievalService.search at hsearch
  rw [hlookup] at hsearch
  obtain ⟨-, -, hrelationships⟩ := traversal.toNeighborhood_eq_ok hsearch
  rw [hrelationships]
  exact mapRelationship_ids htraversal

/-! ## Two related entities -/

/-- Two relationships in opposite directions. -/
def mutualRelationships : List KnowledgeRelationshipModel :=
  [{ id := 10, sourceEntityId := 0, targetEntityId := 1, relationshipType := .dependsOn,
      description := none, confidence := 1, sourceChunkId := 2, createdAt := 0 },
    { id := 11, sourceEntityId := 1, targetEntityId := 0, relationshipType := .affectedBy,
      description := none, confidence := 1 / 2, sourceChunkId := 2, createdAt := 1 }]

/-- A store with two entities that are related to each other. -/
def mutualStore : GraphStore where
  toVectorStore := .architectureChunks
  graph :=
    { entities := [namedEntity 0 "portal", namedEntity 1 "ledger"]
      relationships := mutualRelationships }
  entity_ids := by decide
  mention_ids := List.nodup_nil
  relationship_ids := by decide
  mention_entity := nofun
  mention_chunk := nofun
  relationship_source := by decide
  relationship_target := by decide
  relationship_chunk := by decide
  relationship_confidence := by decide +kernel

/-- Searches with two levels. -/
def twoLevels : RetrievalSession where
  unicode := lowerCaseUnicode
  word := lowerCaseWord
  maxDepth := 2
  maxEntities := 10
  minConfidence := 0
  maxDepth_le := twoHops_le

/-- A search from one of the two returns both relationships. -/
theorem mutual_neighborhood_closed :
    ∃ traversal result,
      (mutualStore.retrievalService twoLevels).lookup "portal" none none = .ok (some traversal) ∧
        (mutualStore.retrievalService twoLevels).search "portal" none none = .ok result ∧
        result.relationships.map GraphRelationshipResult.relationshipId = [10, 11] ∧
        traversal.relationships.map KnowledgeRelationshipRecord.relationshipId = [10, 11] := by
  have hlookup : (((mutualStore.retrievalService twoLevels).lookup "portal" none none).map
      (Option.map fun traversal => traversal.relationships.map
        KnowledgeRelationshipRecord.relationshipId)) = .ok (some [10, 11]) := by decide +kernel
  have hsearch : ((mutualStore.retrievalService twoLevels).search "portal" none none).toBool =
      true := by decide +kernel
  obtain ⟨found, hfound, hids⟩ := except_map_eq_ok.mp hlookup
  obtain ⟨traversal, rfl, hrelationships⟩ := Option.map_eq_some_iff.mp hids
  obtain ⟨result, hresult⟩ := except_exists_of_toBool hsearch
  have hclosed := (neighborhood_closed mutualStore [0] 2 10 0).2 twoLevels "portal" none none
    traversal result hfound hresult
  exact ⟨traversal, result, hfound, hresult, hclosed.trans hrelationships, hrelationships⟩

end GraphStore

end AssessmentPlatform
