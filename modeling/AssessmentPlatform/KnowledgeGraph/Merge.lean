import AssessmentPlatform.KnowledgeGraph.Hybrid
import AssessmentPlatform.KnowledgeGraph.StoreRetrieval

/-!
# The merged evidence

The merge of two lists of distinct chunks: the vector items in their order, those that the graph
path has found too with the label of both, and behind them the other items of the graph path in
their order. Only items of the graph path alone are without a score, and these are not formatted.
-/

namespace AssessmentPlatform

open Library

/-- Whether a list holds evidence of a chunk. -/
def holds (evidence : List RetrievedEvidence) (id : UUID) : Bool :=
  id ∈ evidence.map RetrievedEvidence.chunkId

/-- An item with another label. -/
def RetrievedEvidence.relabel (item : RetrievedEvidence) (label : RetrievalSource) :
    RetrievedEvidence :=
  { item with retrievalSource := label }

/-- A label does not change the chunk. -/
@[simp] theorem RetrievedEvidence.relabel_chunkId (item : RetrievedEvidence)
    (label : RetrievalSource) : (item.relabel label).chunkId = item.chunkId := rfl

/-- The last label counts. -/
@[simp] theorem RetrievedEvidence.relabel_relabel (item : RetrievedEvidence)
    (label label' : RetrievalSource) : (item.relabel label).relabel label' = item.relabel label' :=
  rfl

/-- A vector item with its label. -/
def vectorLabel (graph : List RetrievedEvidence) (item : RetrievedEvidence) : RetrievedEvidence :=
  item.relabel (if holds graph item.chunkId then .both else .vector)

/-- An item that only the graph path has found, with its label. -/
def graphLabel (item : RetrievedEvidence) : RetrievedEvidence := item.relabel .graph

/-- The items that only the graph path has found. -/
def graphOnly (vector graph : List RetrievedEvidence) : List RetrievedEvidence :=
  graph.filter fun item => !holds vector item.chunkId

section Merge

variable {vector graph : List RetrievedEvidence}

/-- A chunk is held if it is one of the chunks of the evidence. -/
theorem holds_iff {id : UUID} :
    holds graph id = true ↔ id ∈ graph.map RetrievedEvidence.chunkId := by
  simp [holds]

/-- Evidence with one more item holds its chunk as well. -/
theorem holds_concat {last : RetrievedEvidence} {id : UUID} :
    holds (graph ++ [last]) id = (holds graph id || decide (id = last.chunkId)) := by
  simp [holds, Bool.decide_or]

/-- Vector evidence with distinct chunks is merged by labelling it. -/
theorem mergeVector_eq (hvector : (vector.map RetrievedEvidence.chunkId).Nodup) :
    mergeVector vector = vector.map fun item => item.relabel .vector :=
  putAll_distinct (f := vectorItem) (g := vectorItem []) (fun _ _ => rfl) hvector

/-- A chunk that is known gets the label of both paths. -/
theorem merge_known {merged : List RetrievedEvidence} {last : RetrievedEvidence}
    (hnodup : (merged.map RetrievedEvidence.chunkId).Nodup)
    (hmem : last.chunkId ∈ merged.map RetrievedEvidence.chunkId) :
    putBy RetrievedEvidence.chunkId (mergedItem merged last) merged =
      merged.map fun item =>
        if item.chunkId = last.chunkId then item.relabel .both else item := by
  obtain ⟨existing, hfound⟩ := getBy_isSome hmem
  obtain ⟨hexisting, hid⟩ := getBy_mem hfound
  have hitem : mergedItem merged last = existing.relabel .both := mergedItem_known hfound
  have hkey : (existing.relabel .both).chunkId ∈ merged.map RetrievedEvidence.chunkId := by
    rw [RetrievedEvidence.relabel_chunkId, hid]
    exact hmem
  rw [hitem, putBy_known hnodup hkey, RetrievedEvidence.relabel_chunkId]
  refine List.map_congr_left fun item hitem => ?_
  by_cases hsame : item.chunkId = last.chunkId
  · rw [if_pos (hsame.trans hid.symm), if_pos hsame,
      List.inj_on_of_nodup_map hnodup hitem hexisting (hsame.trans hid.symm)]
  · rw [if_neg fun h => hsame (h.trans hid), if_neg hsame]

/-- A chunk that is new comes last. -/
theorem merge_new {merged : List RetrievedEvidence} {last : RetrievedEvidence}
    (hnew : last.chunkId ∉ merged.map RetrievedEvidence.chunkId) :
    putBy RetrievedEvidence.chunkId (mergedItem merged last) merged =
      merged ++ [graphLabel last] := by
  have hitem : mergedItem merged last = graphLabel last :=
    mergedItem_new (getBy_eq_none_iff.mpr hnew)
  rw [hitem]
  exact putBy_new hnew

/-- The merge in the order of the two paths. -/
theorem mergeEvidence_eq (hvector : (vector.map RetrievedEvidence.chunkId).Nodup)
    (hgraph : (graph.map RetrievedEvidence.chunkId).Nodup) :
    mergeEvidence vector graph =
      vector.map (vectorLabel graph) ++ (graphOnly vector graph).map graphLabel := by
  induction graph using List.reverseRecOn with
  | nil =>
    have hnone : mergeEvidence vector [] = mergeVector vector := rfl
    rw [hnone, mergeVector_eq hvector]
    simp [graphOnly, vectorLabel, holds]
  | append_singleton graph last ih =>
    rw [List.map_append, List.map_cons, List.map_nil, List.nodup_append] at hgraph
    obtain ⟨hgraph, -, hdisjoint⟩ := hgraph
    have hlast : last.chunkId ∉ graph.map RetrievedEvidence.chunkId := fun hmem =>
      hdisjoint _ hmem _ (by simp) rfl
    have hconcat : mergeEvidence vector (graph ++ [last]) =
        putBy RetrievedEvidence.chunkId (mergedItem (mergeEvidence vector graph) last)
          (mergeEvidence vector graph) := putAll_concat _ _ _
    rw [hconcat]
    by_cases hknown : last.chunkId ∈ vector.map RetrievedEvidence.chunkId
    · rw [merge_known nodup_mergeEvidence (mem_map_mergeEvidence.mpr (.inl hknown)), ih hgraph,
        List.map_append, List.map_map, List.map_map]
      have hsame : graphOnly vector (graph ++ [last]) = graphOnly vector graph := by
        simp [graphOnly, List.filter_append, holds_iff.mpr hknown]
      rw [hsame]
      refine congrArg₂ _ (List.map_congr_left fun item _ => ?_)
        (List.map_congr_left fun item hitem => ?_)
      · by_cases hsame : item.chunkId = last.chunkId
        · simp [vectorLabel, holds_concat, hsame]
        · simp [vectorLabel, holds_concat, hsame]
      · have hne : item.chunkId ≠ last.chunkId := fun heq => hlast (heq ▸
          List.mem_map_of_mem (List.mem_filter.mp hitem).1)
        simp [graphLabel, hne]
    · have hnew : last.chunkId ∉ (mergeEvidence vector graph).map RetrievedEvidence.chunkId := by
        rw [mem_map_mergeEvidence, not_or]
        exact ⟨hknown, hlast⟩
      have hfresh : holds vector last.chunkId = false := by
        rw [← Bool.not_eq_true, holds_iff]
        exact hknown
      rw [merge_new hnew, ih hgraph]
      have hlabels :
          vector.map (vectorLabel (graph ++ [last])) = vector.map (vectorLabel graph) := by
        refine List.map_congr_left fun item hitem => ?_
        have hne : item.chunkId ≠ last.chunkId := fun heq => hknown (heq ▸
          List.mem_map_of_mem hitem)
        simp [vectorLabel, holds_concat, hne]
      rw [hlabels]
      simp [graphOnly, List.filter_append, hfresh]

/-- The merge of a ranking with the evidence of a neighborhood. -/
structure Merged (vector : List RetrievedEvidence) (neighborhood : GraphNeighborhood)
    (merged : List RetrievedEvidence) : Prop where
  order : merged = vector.map (vectorLabel neighborhood.evidence) ++
    (graphOnly vector neighborhood.evidence).map graphLabel
  nodup : (merged.map RetrievedEvidence.chunkId).Nodup
  chunkIds : ∀ id, id ∈ merged.map RetrievedEvidence.chunkId ↔
    id ∈ vector.map RetrievedEvidence.chunkId ∨
      id ∈ neighborhood.evidence.map RetrievedEvidence.chunkId
  label_both : ∀ item ∈ merged, item.retrievalSource = .both ↔
    item.chunkId ∈ vector.map RetrievedEvidence.chunkId ∧
      item.chunkId ∈ neighborhood.evidence.map RetrievedEvidence.chunkId
  label_vector : ∀ item ∈ merged, item.retrievalSource = .vector ↔
    item.chunkId ∉ neighborhood.evidence.map RetrievedEvidence.chunkId
  label_graph : ∀ item ∈ merged, item.retrievalSource = .graph ↔
    item.chunkId ∉ vector.map RetrievedEvidence.chunkId
  score : ∀ item ∈ merged, ∀ source ∈ vector, source.chunkId = item.chunkId →
    item.similarityScore = source.similarityScore
  unscored : ∀ item ∈ merged, item.similarityScore = none ↔ item.retrievalSource = .graph
  counts : ∀ vectorError graphError,
    (hybridMetadata vector vectorError neighborhood graphError).vectorEvidenceCount =
        vector.length ∧
      (hybridMetadata vector vectorError neighborhood graphError).graphEvidenceCount =
        neighborhood.evidence.length ∧
      (hybridMetadata vector vectorError neighborhood graphError).hybridEvidenceCount =
        merged.length
  formatted : ∃ context, buildHybridRagContext merged neighborhood = .ok context

/-- An item of the merge comes from one of the two lists, with the label of its origin. -/
theorem merged_cases {item : RetrievedEvidence}
    (h : item ∈ vector.map (vectorLabel graph) ++ (graphOnly vector graph).map graphLabel) :
    (∃ source ∈ vector, item = vectorLabel graph source) ∨
      ∃ source ∈ graph, source.chunkId ∉ vector.map RetrievedEvidence.chunkId ∧
        item = graphLabel source := by
  rcases List.mem_append.mp h with h | h
  · obtain ⟨source, hsource, rfl⟩ := List.mem_map.mp h
    exact .inl ⟨source, hsource, rfl⟩
  · obtain ⟨source, hsource, rfl⟩ := List.mem_map.mp h
    obtain ⟨hmem, hnot⟩ := List.mem_filter.mp hsource
    refine .inr ⟨source, hmem, fun hvector => ?_, rfl⟩
    rw [holds_iff.mpr hvector] at hnot
    cases hnot

/-- Every item of the merge is labelled by the lists that hold its chunk. -/
theorem merged_label {item : RetrievedEvidence}
    (h : item ∈ vector.map (vectorLabel graph) ++ (graphOnly vector graph).map graphLabel) :
    item.retrievalSource = .both ∧ item.chunkId ∈ vector.map RetrievedEvidence.chunkId ∧
        item.chunkId ∈ graph.map RetrievedEvidence.chunkId ∨
      item.retrievalSource = .vector ∧ item.chunkId ∈ vector.map RetrievedEvidence.chunkId ∧
        item.chunkId ∉ graph.map RetrievedEvidence.chunkId ∨
      item.retrievalSource = .graph ∧ item.chunkId ∉ vector.map RetrievedEvidence.chunkId ∧
        item.chunkId ∈ graph.map RetrievedEvidence.chunkId := by
  rcases merged_cases h with ⟨source, hsource, rfl⟩ | ⟨source, hsource, hnot, rfl⟩
  · have hvector : source.chunkId ∈ vector.map RetrievedEvidence.chunkId :=
      List.mem_map_of_mem hsource
    by_cases hgraph : source.chunkId ∈ graph.map RetrievedEvidence.chunkId
    · exact .inl ⟨if_pos (holds_iff.mpr hgraph), hvector, hgraph⟩
    · exact .inr (.inl ⟨if_neg (holds_iff.not.mpr hgraph), hvector, hgraph⟩)
  · have hgraph : source.chunkId ∈ graph.map RetrievedEvidence.chunkId :=
      List.mem_map_of_mem hsource
    exact .inr (.inr ⟨rfl, hnot, hgraph⟩)

/-- Distinct chunks, scored in the ranking and unscored in the neighborhood, are merged. -/
theorem merged_of_distinct {neighborhood : GraphNeighborhood}
    (hvector : (vector.map RetrievedEvidence.chunkId).Nodup)
    (hgraph : (neighborhood.evidence.map RetrievedEvidence.chunkId).Nodup)
    (hscored : ∀ item ∈ vector, item.similarityScore.isSome = true)
    (hunscored : ∀ item ∈ neighborhood.evidence, item.similarityScore = none) :
    Merged vector neighborhood (mergeEvidence vector neighborhood.evidence) := by
  have horder := mergeEvidence_eq hvector hgraph
  have hlabel : ∀ item ∈ mergeEvidence vector neighborhood.evidence, _ :=
    fun item hitem => merged_label (horder ▸ hitem)
  refine ⟨horder, nodup_mergeEvidence, fun _ => mem_map_mergeEvidence, ?_, ?_, ?_, ?_, ?_,
    fun _ _ => ⟨rfl, rfl, rfl⟩, buildHybridRagContext_ok _ (vectorItems_scored hscored hgraph)⟩
  · intro item hitem
    rcases hlabel item hitem with ⟨hl, hv, hg⟩ | ⟨hl, hv, hg⟩ | ⟨hl, hv, hg⟩ <;>
      simp only [hl, hv, hg, reduceCtorEq, and_true, and_false]
  · intro item hitem
    rcases hlabel item hitem with ⟨hl, hv, hg⟩ | ⟨hl, hv, hg⟩ | ⟨hl, hv, hg⟩ <;>
      simp only [hl, hg, reduceCtorEq, not_true, not_false_eq_true]
  · intro item hitem
    rcases hlabel item hitem with ⟨hl, hv, hg⟩ | ⟨hl, hv, hg⟩ | ⟨hl, hv, hg⟩ <;>
      simp only [hl, hv, reduceCtorEq, not_true, not_false_eq_true]
  · intro item hitem source hsource hid
    rcases merged_cases (horder ▸ hitem) with ⟨origin, horigin, rfl⟩ | ⟨origin, -, hnot, rfl⟩
    · have hsame : source = origin := List.inj_on_of_nodup_map hvector hsource horigin hid
      rw [hsame]
      rfl
    · have hmem : source.chunkId ∈ vector.map RetrievedEvidence.chunkId :=
        List.mem_map_of_mem hsource
      rw [hid] at hmem
      exact absurd hmem hnot
  · intro item hitem
    rcases merged_cases (horder ▸ hitem) with ⟨source, hsource, rfl⟩ | ⟨source, hsource, -, rfl⟩
    · have hsome : source.similarityScore ≠ none :=
        Option.isSome_iff_ne_none.mp (hscored source hsource)
      refine ⟨fun hnone => absurd hnone hsome, fun hgraph => ?_⟩
      unfold vectorLabel RetrievedEvidence.relabel at hgraph
      dsimp only at hgraph
      split at hgraph <;> cases hgraph
    · exact ⟨fun _ => rfl, fun _ => hunscored source hsource⟩

end Merge

/-! ## Hybrid search -/

/-- What a hybrid search returns when its vector path contributes `vector`: the merge with what
its graph path contributes, and the record of both paths. -/
def HybridRetrievalService.Finds (service : HybridRetrievalService) (query : Str)
    (topK maxDepth : Option ℕ) (vector : List RetrievedEvidence) (result : HybridRetrievalResult) :
    Prop :=
  ∃ vectorError graphError,
    vectorPath (service.vector.search query topK) = .ok (vector, vectorError) ∧
      graphPath query (service.graph.search query maxDepth none) =
        .ok (result.neighborhood, graphError) ∧
      result.evidence = mergeEvidence vector result.neighborhood.evidence ∧
      result.metadata = hybridMetadata vector vectorError result.neighborhood graphError

/-- A search returns exactly what it finds. -/
theorem HybridRetrievalService.search_eq_ok_iff {service : HybridRetrievalService} {query : Str}
    {topK maxDepth : Option ℕ} {result : HybridRetrievalResult} :
    service.search query topK maxDepth = .ok result ↔
      ∃ vector, service.Finds query topK maxDepth vector result := by
  unfold HybridRetrievalService.search hybridSearch
  constructor
  · intro h
    obtain ⟨⟨vector, vectorError⟩, hvector, h⟩ := except_bind_eq_ok.mp h
    obtain ⟨⟨neighborhood, graphError⟩, hgraph, h⟩ := except_bind_eq_ok.mp h
    cases h
    exact ⟨vector, vectorError, graphError, hvector, hgraph, rfl, rfl⟩
  · rintro ⟨vector, vectorError, graphError, hvector, hgraph, hevidence, hmetadata⟩
    rw [hvector, hgraph, except_ok_bind]
    dsimp only
    rw [except_ok_bind, ← hevidence, ← hmetadata]
    rfl

section Store

variable {store : GraphStore} {vectorSession : VectorStore.SearchSession}
  {graphSession : GraphStore.RetrievalSession} {query : Str} {topK maxDepth : Option ℕ}

/-- The two paths over one store. -/
def GraphStore.hybridService (store : GraphStore) (vectorSession : VectorStore.SearchSession)
    (graphSession : GraphStore.RetrievalSession) : HybridRetrievalService where
  vector := store.toVectorStore.retrievalService vectorSession
  graph := store.retrievalService graphSession

/-- What the vector path contributes has distinct chunks with scores. -/
theorem vectorPath_ranked {vector : List RetrievedEvidence} {error : Option ApplicationError}
    (h : vectorPath ((store.toVectorStore.retrievalService vectorSession).search query topK) =
      .ok (vector, error)) :
    (vector.map RetrievedEvidence.chunkId).Nodup ∧
      ∀ item ∈ vector, item.similarityScore.isSome = true := by
  rw [← VectorStore.search_default] at h
  unfold vectorPath at h
  split at h
  · rename_i found hfound
    cases h
    obtain ⟨embedding, limit, threshold, rfl⟩ := VectorStore.search_eq_ok hfound
    refine ⟨VectorStore.nodup_ranking, fun item hitem => ?_⟩
    obtain ⟨score, hscore, -⟩ := VectorStore.relevant_scored item (VectorStore.mem_ranking hitem)
    rw [hscore]
    rfl
  · cases h
    exact ⟨List.nodup_nil, List.forall_mem_nil _⟩
  · cases h

/-- What the graph path contributes has distinct chunks without scores. -/
theorem graphPath_unscored {neighborhood : GraphNeighborhood} {error : Option ApplicationError}
    (h : graphPath query ((store.retrievalService graphSession).search query maxDepth none) =
      .ok (neighborhood, error)) :
    (neighborhood.evidence.map RetrievedEvidence.chunkId).Nodup ∧
      ∀ item ∈ neighborhood.evidence, item.similarityScore = none := by
  unfold graphPath at h
  split at h
  · rename_i found hfound
    cases h
    exact GraphStore.search_evidence hfound
  · unfold GraphNeighborhood.empty GraphNeighborhood.create at h
    split at h
    · cases h
      exact ⟨List.nodup_nil, List.forall_mem_nil _⟩
    · cases h
  · cases h

/-- In a store every hybrid search merges distinct chunks, those of the ranking with scores and
those of the neighborhood without. -/
theorem HybridRetrievalService.Finds.merged {result : HybridRetrievalResult}
    {vector : List RetrievedEvidence}
    (h : (store.hybridService vectorSession graphSession).Finds query topK maxDepth vector
      result) : Merged vector result.neighborhood result.evidence := by
  obtain ⟨vectorError, graphError, hvector, hgraph, hevidence, -⟩ := h
  obtain ⟨hdistinct, hscored⟩ := vectorPath_ranked hvector
  obtain ⟨hdistinct', hunscored⟩ := graphPath_unscored hgraph
  rw [hevidence]
  exact merged_of_distinct hdistinct hdistinct' hscored hunscored

end Store

/-- A hybrid search returns what its two paths have found, or nothing for a path that has failed,
and merges it. A ranking and the evidence of a neighborhood are merged in order, with labels,
scores, counts and a context, whenever their chunks are distinct, those of the ranking with scores
and those of the neighborhood without; and in a store every hybrid search merges such lists. -/
theorem hybrid_evidence_merged :
    (∀ (service : HybridRetrievalService) (query : Str) (topK maxDepth : Option ℕ)
        (result : HybridRetrievalResult),
        service.search query topK maxDepth = .ok result ↔
          ∃ vector, service.Finds query topK maxDepth vector result) ∧
      (∀ (service : HybridRetrievalService) (query : Str) (topK maxDepth : Option ℕ)
        (vector : List RetrievedEvidence) (result : HybridRetrievalResult),
        service.Finds query topK maxDepth vector result →
        (vector.map RetrievedEvidence.chunkId).Nodup →
        (result.neighborhood.evidence.map RetrievedEvidence.chunkId).Nodup →
        (∀ item ∈ vector, item.similarityScore.isSome = true) →
        (∀ item ∈ result.neighborhood.evidence, item.similarityScore = none) →
        Merged vector result.neighborhood result.evidence) ∧
      ∀ (store : GraphStore) (vectorSession : VectorStore.SearchSession)
        (graphSession : GraphStore.RetrievalSession) (query : Str) (topK maxDepth : Option ℕ)
        (result : HybridRetrievalResult),
        (store.hybridService vectorSession graphSession).search query topK maxDepth =
          .ok result →
        ∃ vector,
          (store.hybridService vectorSession graphSession).Finds query topK maxDepth vector result ∧
          Merged vector result.neighborhood result.evidence := by
  refine ⟨fun _ _ _ _ _ => HybridRetrievalService.search_eq_ok_iff, ?_, ?_⟩
  · rintro service query topK maxDepth vector result ⟨-, -, -, -, hevidence, -⟩ hvector hgraph
      hscored hunscored
    rw [hevidence]
    exact merged_of_distinct hvector hgraph hscored hunscored
  · intro store vectorSession graphSession query topK maxDepth result h
    obtain ⟨vector, hfinds⟩ := HybridRetrievalService.search_eq_ok_iff.mp h
    exact ⟨vector, hfinds, hfinds.merged⟩

/-- One chunk is found on both paths, and the other one on the vector path alone. -/
theorem mutual_evidence_merged :
    ∃ vector result,
      (GraphStore.mutualStore.hybridService VectorStore.oneEmbedding GraphStore.twoLevels).search
          "portal" none none = .ok result ∧
        Merged vector result.neighborhood result.evidence ∧
        result.evidence.map (fun item => (item.chunkId, item.retrievalSource)) =
          [(4, .vector), (2, .both)] := by
  have hsearch : ((GraphStore.mutualStore.hybridService VectorStore.oneEmbedding
      GraphStore.twoLevels).search "portal" none none).map (fun result =>
        result.evidence.map fun item => (item.chunkId, item.retrievalSource)) =
      .ok [(4, .vector), (2, .both)] := by decide +kernel
  obtain ⟨result, hresult, hevidence⟩ := except_map_eq_ok.mp hsearch
  obtain ⟨vector, -, hmerged⟩ := hybrid_evidence_merged.2.2 GraphStore.mutualStore
    VectorStore.oneEmbedding GraphStore.twoLevels "portal" none none result hresult
  exact ⟨vector, result, hresult, hmerged, hevidence⟩

end AssessmentPlatform
