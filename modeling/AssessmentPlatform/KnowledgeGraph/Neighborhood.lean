import AssessmentPlatform.KnowledgeGraph.Retrieval
import AssessmentPlatform.KnowledgeGraph.Tables
import AssessmentPlatform.Library.BoundedSearch
import AssessmentPlatform.Rag.VectorSearch
import Mathlib.Data.List.Lex

/-!
# Neighborhoods

`get_neighborhood` on a store whose tables satisfy their primary and foreign keys: the search
along the relationships of sufficient confidence, in either direction, and the entities,
mentions and evidence that belong to what it has visited.
-/

namespace AssessmentPlatform

open Library

/-- The tables that a traversal reads, with their keys. The collation of the database orders
texts by their sort keys. -/
structure GraphStore extends VectorStore where
  graph : KnowledgeGraph
  sortKey : Str → Str := id
  entity_ids : (graph.entities.map KnowledgeEntityModel.id).Nodup
  mention_ids : (graph.mentions.map KnowledgeEntityMentionModel.id).Nodup
  relationship_ids : (graph.relationships.map KnowledgeRelationshipModel.id).Nodup
  mention_entity : ∀ mention ∈ graph.mentions,
    mention.entityId ∈ graph.entities.map KnowledgeEntityModel.id
  mention_chunk : ∀ mention ∈ graph.mentions,
    mention.chunkId ∈ knowledge.chunks.map KnowledgeChunkRecord.chunkId
  relationship_source : ∀ r ∈ graph.relationships,
    r.sourceEntityId ∈ graph.entities.map KnowledgeEntityModel.id
  relationship_target : ∀ r ∈ graph.relationships,
    r.targetEntityId ∈ graph.entities.map KnowledgeEntityModel.id
  relationship_chunk : ∀ r ∈ graph.relationships,
    r.sourceChunkId ∈ knowledge.chunks.map KnowledgeChunkRecord.chunkId
  relationship_confidence : ∀ r ∈ graph.relationships, 0 ≤ r.confidence ∧ r.confidence ≤ 1

/-- The relationships as edges between entities. -/
def relationshipGraph : Multigraph UUID KnowledgeRelationshipModel UUID where
  source := KnowledgeRelationshipModel.sourceEntityId
  target := KnowledgeRelationshipModel.targetEntityId
  key := KnowledgeRelationshipModel.id

/-- Repository result before the mapping to records. -/
structure Neighborhood where
  matchedEntities : List KnowledgeEntityModel
  relatedEntities : List KnowledgeEntityModel
  relationships : List KnowledgeRelationshipModel
  mentions : List KnowledgeEntityMentionModel
  evidence : List RetrievedEvidence
  depthUsed : ℕ

/-- The entities of a neighborhood, seeds first. -/
def Neighborhood.entities (n : Neighborhood) : List KnowledgeEntityModel :=
  n.matchedEntities ++ n.relatedEntities

/-- The identifiers of the seeds that a neighborhood has matched. -/
def Neighborhood.seeds (n : Neighborhood) : Finset UUID :=
  (n.matchedEntities.map KnowledgeEntityModel.id).toFinset

/-- A neighborhood respects its bounds and holds whatever it refers to. -/
structure Neighborhood.Grounded (n : Neighborhood) (seedEntityIds : List UUID)
    (maxDepth maxEntities : ℕ) (minConfidence : ℚ) : Prop where
  seeds_sub : ∀ id ∈ n.seeds, id ∈ seedEntityIds
  entities_le : n.entities.length ≤ maxEntities
  confidence_le : ∀ r ∈ n.relationships, minConfidence ≤ r.confidence
  ends_mem : ∀ r ∈ n.relationships,
    r.sourceEntityId ∈ n.entities.map KnowledgeEntityModel.id ∧
      r.targetEntityId ∈ n.entities.map KnowledgeEntityModel.id
  related_within : ∀ e ∈ n.relatedEntities,
    relationshipGraph.Within n.relationships n.seeds maxDepth e.id
  relationship_evidence : ∀ r ∈ n.relationships,
    r.sourceChunkId ∈ n.evidence.map RetrievedEvidence.chunkId
  mention_evidence : ∀ m ∈ n.mentions, m.chunkId ∈ n.evidence.map RetrievedEvidence.chunkId
  evidence_nodup : (n.evidence.map RetrievedEvidence.chunkId).Nodup
  depthUsed_le : n.depthUsed ≤ maxDepth

namespace GraphStore

variable (store : GraphStore)

/-- The relationships of sufficient confidence. -/
def qualifyingRelationships (minConfidence : ℚ) : List KnowledgeRelationshipModel :=
  store.graph.relationships.filter fun r => minConfidence ≤ r.confidence

/-- The qualifying relationships with an end in the frontier. -/
def matchingEdges (minConfidence : ℚ) (frontier : Finset UUID) : List KnowledgeRelationshipModel :=
  (store.qualifyingRelationships minConfidence).filter fun r =>
    r.sourceEntityId ∈ frontier ∨ r.targetEntityId ∈ frontier

/-- The edges that one level selects. -/
def selectEdges (minConfidence : ℚ) (maxEntities : ℕ) (frontier : Finset UUID) :
    List KnowledgeRelationshipModel :=
  ((store.matchingEdges minConfidence frontier).insertionSort
    (byThen KnowledgeRelationshipModel.createdAt KnowledgeRelationshipModel.id)).take
    (maxEntities * 8)

/-- The seeds that fit. -/
def orderedSeeds (seedEntityIds : List UUID) (maxEntities : ℕ) : List UUID :=
  seedEntityIds.eraseDups.take maxEntities

/-- The loop of `get_neighborhood`. -/
def traverse (seedEntityIds : List UUID) (maxDepth maxEntities : ℕ) (minConfidence : ℚ) :
    Multigraph.State UUID KnowledgeRelationshipModel :=
  relationshipGraph.search (store.selectEdges minConfidence maxEntities) maxEntities maxDepth
    (Multigraph.start (orderedSeeds seedEntityIds maxEntities).toFinset)

/-- `_load_graph_evidence`. -/
def loadGraphEvidence (chunkIds : List UUID) : List RetrievedEvidence :=
  ((store.knowledge.chunks.filter fun chunk => chunk.chunkId ∈ chunkIds).insertionSort
    fun a b => a.chunkId ≤ b.chunkId).filterMap fun chunk =>
      (getBy KnowledgeDocumentRecord.documentId chunk.documentId store.knowledge.documents).map
        fun document =>
          { chunkId := chunk.chunkId
            documentId := document.documentId
            documentTitle := document.title
            content := chunk.content
            similarityScore := none
            sourceType := document.sourceType
            retrievalSource := .graph }

/-- The entities that have been visited. -/
def visitedEntities (visited : Finset UUID) : List KnowledgeEntityModel :=
  (store.graph.entities.filter fun e => e.id ∈ visited).insertionSort
    (byThen (fun e => store.sortKey e.normalizedName) KnowledgeEntityModel.id)

/-- The mentions of the entities that have been visited. -/
def visitedMentions (visited : Finset UUID) : List KnowledgeEntityMentionModel :=
  (store.graph.mentions.filter fun m => m.entityId ∈ visited).insertionSort
    (byThen KnowledgeEntityMentionModel.createdAt KnowledgeEntityMentionModel.id)

/-- `get_neighborhood`. -/
def getNeighborhood (seedEntityIds : List UUID) (maxDepth maxEntities : ℕ) (minConfidence : ℚ) :
    Neighborhood :=
  let seeds := orderedSeeds seedEntityIds maxEntities
  let found := store.traverse seedEntityIds maxDepth maxEntities minConfidence
  let entityModels := store.visitedEntities found.visited
  let mentionModels := store.visitedMentions found.visited
  { matchedEntities := seeds.filterMap fun id => getBy KnowledgeEntityModel.id id entityModels
    relatedEntities := entityModels.filter fun e => e.id ∉ seeds
    relationships := found.kept.insertionSort fun a b => a.id ≤ b.id
    mentions := mentionModels
    evidence := store.loadGraphEvidence
      (mentionModels.map KnowledgeEntityMentionModel.chunkId ++
        found.kept.map KnowledgeRelationshipModel.sourceChunkId)
    depthUsed := found.depthUsed }

/-! ## What the traversal has found -/

section Traversal

variable {store : GraphStore} {seedEntityIds : List UUID} {maxDepth maxEntities : ℕ}
  {minConfidence : ℚ}

/-- The seeds are distinct. -/
theorem nodup_orderedSeeds : (orderedSeeds seedEntityIds maxEntities).Nodup :=
  List.Nodup.sublist (List.take_sublist _ _) (nodup_eraseDups _)

/-- The seeds are among the given ones. -/
theorem mem_of_mem_orderedSeeds {id : UUID} (h : id ∈ orderedSeeds seedEntityIds maxEntities) :
    id ∈ seedEntityIds :=
  List.mem_eraseDups.mp (List.mem_of_mem_take h)

/-- There are at most as many seeds as entities are asked for. -/
theorem card_orderedSeeds_le :
    (orderedSeeds seedEntityIds maxEntities).toFinset.card ≤ maxEntities := by
  rw [List.toFinset_card_of_nodup nodup_orderedSeeds]
  exact List.length_take_le _ _

/-- The qualifying relationships are the stored ones with enough confidence. -/
theorem mem_qualifyingRelationships {r : KnowledgeRelationshipModel} :
    r ∈ store.qualifyingRelationships minConfidence ↔
      r ∈ store.graph.relationships ∧ minConfidence ≤ r.confidence := by
  simp [GraphStore.qualifyingRelationships]

/-- The qualifying relationships have distinct keys. -/
theorem nodup_qualifyingRelationships :
    ((store.qualifyingRelationships minConfidence).map relationshipGraph.key).Nodup :=
  store.relationship_ids.sublist (List.filter_sublist.map _)

/-- The matching edges are the qualifying ones at the frontier. -/
theorem mem_matchingEdges {frontier : Finset UUID} {r : KnowledgeRelationshipModel} :
    r ∈ store.matchingEdges minConfidence frontier ↔
      r ∈ store.qualifyingRelationships minConfidence ∧
        ∃ x ∈ frontier, relationshipGraph.Touches r x := by
  unfold GraphStore.matchingEdges
  rw [List.mem_filter, decide_eq_true_eq]
  refine and_congr_right fun _ => ⟨fun h => ?_, fun ⟨x, hx, htouches⟩ => ?_⟩
  · rcases h with h | h
    · exact ⟨_, h, .inl rfl⟩
    · exact ⟨_, h, .inr rfl⟩
  · rcases htouches with rfl | rfl
    · exact .inl hx
    · exact .inr hx

/-- The selected edges are matching ones, picked in their order. -/
theorem picksAt_selectEdges :
    Multigraph.PicksAt relationshipGraph (store.qualifyingRelationships minConfidence)
      (store.selectEdges minConfidence maxEntities) := by
  intro frontier r hr
  have hmem := (List.mem_insertionSort _).mp (List.mem_of_mem_take hr)
  exact mem_matchingEdges.mp hmem

variable (store seedEntityIds maxDepth maxEntities minConfidence)

/-- The visited entities are ranked by the levels that have found them. -/
theorem ranked_traverse (uncut : Prop)
    (huncut : uncut → ∀ m < maxDepth,
      Multigraph.PicksAll relationshipGraph (store.qualifyingRelationships minConfidence)
        (store.selectEdges minConfidence maxEntities)
        (store.traverse seedEntityIds m maxEntities minConfidence).frontier) :
    ∃ rank, Multigraph.Ranked relationshipGraph maxEntities
      (store.qualifyingRelationships minConfidence)
      (orderedSeeds seedEntityIds maxEntities).toFinset uncut rank
      (store.traverse seedEntityIds maxDepth maxEntities minConfidence) :=
  Multigraph.ranked_search nodup_qualifyingRelationships picksAt_selectEdges card_orderedSeeds_le
    maxDepth huncut

/-- The traversal uses at most the given depth. -/
theorem traverse_depthUsed_le :
    (store.traverse seedEntityIds maxDepth maxEntities minConfidence).depthUsed ≤ maxDepth :=
  (Multigraph.search_depthUsed maxDepth).1

end Traversal

/-! ## Closure of a neighborhood -/

section Closure

variable {store : GraphStore} {seedEntityIds : List UUID} {maxDepth maxEntities : ℕ}
  {minConfidence : ℚ} {visited : Finset UUID}

/-- The visited entities are stored ones. -/
theorem mem_visitedEntities {e : KnowledgeEntityModel} :
    e ∈ store.visitedEntities visited ↔ e ∈ store.graph.entities ∧ e.id ∈ visited := by
  simp [visitedEntities, List.mem_insertionSort]

/-- The visited mentions are stored ones of visited entities. -/
theorem mem_visitedMentions {m : KnowledgeEntityMentionModel} :
    m ∈ store.visitedMentions visited ↔ m ∈ store.graph.mentions ∧ m.entityId ∈ visited := by
  simp [visitedMentions, List.mem_insertionSort]

/-- The visited entities have distinct identifiers. -/
theorem nodup_visitedEntities :
    ((store.visitedEntities visited).map KnowledgeEntityModel.id).Nodup := by
  have hperm := (List.perm_insertionSort
    (byThen (fun e => store.sortKey e.normalizedName) KnowledgeEntityModel.id)
    (store.graph.entities.filter fun e => e.id ∈ visited)).map KnowledgeEntityModel.id
  exact hperm.nodup_iff.mpr (store.entity_ids.sublist (List.filter_sublist.map _))

/-- The identifiers of the visited entities that are stored. -/
theorem mem_visitedEntities_ids {id : UUID} :
    id ∈ (store.visitedEntities visited).map KnowledgeEntityModel.id ↔
      id ∈ store.graph.entities.map KnowledgeEntityModel.id ∧ id ∈ visited := by
  constructor
  · intro h
    obtain ⟨e, he, rfl⟩ := List.mem_map.mp h
    obtain ⟨hmem, hvisited⟩ := mem_visitedEntities.mp he
    exact ⟨List.mem_map_of_mem hmem, hvisited⟩
  · rintro ⟨h, hvisited⟩
    obtain ⟨e, he, rfl⟩ := List.mem_map.mp h
    exact List.mem_map_of_mem (mem_visitedEntities.mpr ⟨he, hvisited⟩)

/-- The relationships of a neighborhood are those that the traversal keeps. -/
theorem mem_relationships {r : KnowledgeRelationshipModel} :
    r ∈ (store.getNeighborhood seedEntityIds maxDepth maxEntities minConfidence).relationships ↔
      r ∈ (store.traverse seedEntityIds maxDepth maxEntities minConfidence).kept :=
  List.mem_insertionSort _

/-- The matched entities are the stored ones among the seeds, in the order of the seeds. -/
theorem matchedEntities_ids :
    (store.getNeighborhood seedEntityIds maxDepth maxEntities minConfidence).matchedEntities.map
        KnowledgeEntityModel.id =
      (orderedSeeds seedEntityIds maxEntities).filter fun id =>
        id ∈ (store.visitedEntities
          (store.traverse seedEntityIds maxDepth maxEntities minConfidence).visited).map
            KnowledgeEntityModel.id :=
  map_filterMap_getBy _

/-- The matched entities are the stored seeds that have been visited. -/
theorem mem_matchedEntities_ids {id : UUID} :
    id ∈ (store.getNeighborhood seedEntityIds maxDepth maxEntities
        minConfidence).matchedEntities.map KnowledgeEntityModel.id ↔
      id ∈ orderedSeeds seedEntityIds maxEntities ∧
        id ∈ store.graph.entities.map KnowledgeEntityModel.id ∧
        id ∈ (store.traverse seedEntityIds maxDepth maxEntities minConfidence).visited := by
  rw [matchedEntities_ids, List.mem_filter, decide_eq_true_eq, mem_visitedEntities_ids]

/-- The related entities are the visited ones beside the seeds. -/
theorem mem_relatedEntities {e : KnowledgeEntityModel} :
    e ∈ (store.getNeighborhood seedEntityIds maxDepth maxEntities
        minConfidence).relatedEntities ↔
      (e ∈ store.graph.entities ∧
        e.id ∈ (store.traverse seedEntityIds maxDepth maxEntities minConfidence).visited) ∧
        e.id ∉ orderedSeeds seedEntityIds maxEntities := by
  unfold getNeighborhood
  rw [List.mem_filter, mem_visitedEntities, decide_eq_true_eq]

/-- The entities of a neighborhood are the stored ones that were visited. -/
theorem mem_entities_ids {id : UUID} :
    id ∈ (store.getNeighborhood seedEntityIds maxDepth maxEntities minConfidence).entities.map
        KnowledgeEntityModel.id ↔
      id ∈ store.graph.entities.map KnowledgeEntityModel.id ∧
        id ∈ (store.traverse seedEntityIds maxDepth maxEntities minConfidence).visited := by
  unfold Neighborhood.entities
  rw [List.map_append, List.mem_append, mem_matchedEntities_ids]
  constructor
  · rintro (⟨-, h⟩ | h)
    · exact h
    · obtain ⟨e, he, rfl⟩ := List.mem_map.mp h
      obtain ⟨⟨hmem, hvisited⟩, -⟩ := mem_relatedEntities.mp he
      exact ⟨List.mem_map_of_mem hmem, hvisited⟩
  · rintro ⟨h, hvisited⟩
    obtain ⟨e, he, rfl⟩ := List.mem_map.mp h
    by_cases hseed : e.id ∈ orderedSeeds seedEntityIds maxEntities
    · exact .inl ⟨hseed, h, hvisited⟩
    · exact .inr (List.mem_map_of_mem (mem_relatedEntities.mpr ⟨⟨he, hvisited⟩, hseed⟩))

/-- The entities of a neighborhood have distinct identifiers. -/
theorem nodup_entities_ids :
    ((store.getNeighborhood seedEntityIds maxDepth maxEntities minConfidence).entities.map
      KnowledgeEntityModel.id).Nodup := by
  unfold Neighborhood.entities
  rw [List.map_append, List.nodup_append]
  refine ⟨?_, ?_, ?_⟩
  · rw [matchedEntities_ids]
    exact nodup_orderedSeeds.sublist List.filter_sublist
  · exact nodup_visitedEntities.sublist (List.filter_sublist.map _)
  · rintro id hmatched _ hrelated rfl
    obtain ⟨e, he, rfl⟩ := List.mem_map.mp hrelated
    exact (mem_relatedEntities.mp he).2 (mem_matchedEntities_ids.mp hmatched).1

/-- Every chunk belongs to a document, so the join drops none. -/
theorem loadGraphEvidence_chunkIds (chunkIds : List UUID) :
    (store.loadGraphEvidence chunkIds).map RetrievedEvidence.chunkId =
      ((store.knowledge.chunks.filter fun chunk => chunk.chunkId ∈ chunkIds).insertionSort
        fun a b => a.chunkId ≤ b.chunkId).map KnowledgeChunkRecord.chunkId := by
  unfold loadGraphEvidence
  rw [List.map_filterMap, ← List.filterMap_eq_map]
  refine List.filterMap_congr fun chunk hchunk => ?_
  have hmem := (List.mem_filter.mp ((List.mem_insertionSort _).mp hchunk)).1
  obtain ⟨document, hfound⟩ := getBy_isSome (store.chunk_document chunk hmem)
  rw [hfound]
  rfl

/-- The evidence is that of the given chunks that are stored. -/
theorem mem_loadGraphEvidence_chunkIds {chunkIds : List UUID} {id : UUID} :
    id ∈ (store.loadGraphEvidence chunkIds).map RetrievedEvidence.chunkId ↔
      id ∈ chunkIds ∧ id ∈ store.knowledge.chunks.map KnowledgeChunkRecord.chunkId := by
  rw [loadGraphEvidence_chunkIds]
  constructor
  · intro h
    obtain ⟨chunk, hchunk, rfl⟩ := List.mem_map.mp h
    obtain ⟨hmem, hid⟩ := List.mem_filter.mp ((List.mem_insertionSort _).mp hchunk)
    exact ⟨by simpa using hid, List.mem_map_of_mem hmem⟩
  · rintro ⟨hid, h⟩
    obtain ⟨chunk, hmem, rfl⟩ := List.mem_map.mp h
    refine List.mem_map_of_mem ((List.mem_insertionSort _).mpr ?_)
    exact List.mem_filter.mpr ⟨hmem, by simpa using hid⟩

/-- The evidence of the graph has no score. -/
theorem loadGraphEvidence_unscored {chunkIds : List UUID} :
    ∀ item ∈ store.loadGraphEvidence chunkIds, item.similarityScore = none := by
  intro item hitem
  obtain ⟨chunk, -, hrow⟩ := List.mem_filterMap.mp hitem
  obtain ⟨document, -, rfl⟩ := Option.map_eq_some_iff.mp hrow
  rfl

/-- The evidence of the graph holds each chunk once. -/
theorem nodup_loadGraphEvidence (chunkIds : List UUID) :
    ((store.loadGraphEvidence chunkIds).map RetrievedEvidence.chunkId).Nodup := by
  rw [loadGraphEvidence_chunkIds]
  have hperm := (List.perm_insertionSort (fun a b : KnowledgeChunkRecord => a.chunkId ≤ b.chunkId)
    (store.knowledge.chunks.filter fun chunk => chunk.chunkId ∈ chunkIds)).map
      KnowledgeChunkRecord.chunkId
  exact hperm.nodup_iff.mpr (store.chunk_ids.sublist (List.filter_sublist.map _))

/-- A neighborhood respects its bounds and holds whatever it refers to. -/
theorem getNeighborhood_grounded (store : GraphStore) (seedEntityIds : List UUID)
    (maxDepth maxEntities : ℕ) (minConfidence : ℚ) :
    (store.getNeighborhood seedEntityIds maxDepth maxEntities minConfidence).Grounded
      seedEntityIds maxDepth maxEntities minConfidence := by
  obtain ⟨rank, hranked⟩ := store.ranked_traverse seedEntityIds maxDepth maxEntities minConfidence
    False False.elim
  have hkept : ∀ r ∈ (store.traverse seedEntityIds maxDepth maxEntities minConfidence).kept,
      r ∈ store.graph.relationships ∧ minConfidence ≤ r.confidence :=
    fun r hr => mem_qualifyingRelationships.mp (hranked.closed r hr).1
  refine ⟨?_, ?_, ?_, ?_, ?_, ?_, ?_, nodup_loadGraphEvidence _, ?_⟩
  · intro id hid
    exact mem_of_mem_orderedSeeds (mem_matchedEntities_ids.mp (List.mem_toFinset.mp hid)).1
  · rw [← List.length_map (f := KnowledgeEntityModel.id),
      ← List.toFinset_card_of_nodup nodup_entities_ids]
    refine le_trans (Finset.card_le_card fun id hid => ?_) hranked.card_le
    exact (mem_entities_ids.mp (List.mem_toFinset.mp hid)).2
  · exact fun r hr => (hkept r (mem_relationships.mp hr)).2
  · intro r hr
    rw [mem_relationships] at hr
    obtain ⟨-, hsource, htarget⟩ := hranked.closed r hr
    exact ⟨mem_entities_ids.mpr ⟨store.relationship_source r (hkept r hr).1, hsource⟩,
      mem_entities_ids.mpr ⟨store.relationship_target r (hkept r hr).1, htarget⟩⟩
  · intro e he
    obtain ⟨⟨hmem, hvisited⟩, -⟩ := mem_relatedEntities.mp he
    refine ⟨rank e.id, ?_, ?_⟩
    · have hused := hranked.rank_le e.id hvisited
      have hdepth := store.traverse_depthUsed_le seedEntityIds maxDepth maxEntities minConfidence
      omega
    · -- the walk begins at a stored seed, since relationships join stored entities
      have hwalk := (hranked.walk e.id hvisited).mono fun r hr => mem_relationships.mpr hr
      refine hwalk.restrict (· ∈ store.graph.entities.map KnowledgeEntityModel.id)
        (fun r hr => ?_) (fun id hid hstored => ?_) (List.mem_map_of_mem hmem)
      · have hrel := (hkept r (mem_relationships.mp hr)).1
        exact ⟨store.relationship_source r hrel, store.relationship_target r hrel⟩
      · refine List.mem_toFinset.mpr (mem_matchedEntities_ids.mpr ⟨?_, hstored, ?_⟩)
        · exact List.mem_toFinset.mp hid
        · exact hranked.seeds_sub hid
  · intro r hr
    rw [mem_relationships] at hr
    refine mem_loadGraphEvidence_chunkIds.mpr ⟨List.mem_append_right _ ?_, ?_⟩
    · exact List.mem_map_of_mem hr
    · exact store.relationship_chunk r (hkept r hr).1
  · intro m hm
    refine mem_loadGraphEvidence_chunkIds.mpr ⟨List.mem_append_left _ ?_, ?_⟩
    · exact List.mem_map_of_mem hm
    · exact store.mention_chunk m (mem_visitedMentions.mp hm).1
  · exact store.traverse_depthUsed_le seedEntityIds maxDepth maxEntities minConfidence

end Closure

end GraphStore

end AssessmentPlatform
