import AssessmentPlatform.KnowledgeGraph.Context
import AssessmentPlatform.KnowledgeGraph.Retrieval
import AssessmentPlatform.Library.Keyed

/-!
# Hybrid retrieval

The vector and the graph path of one query, each with its own fallback, and the merge of
their evidence by chunk. A failed path is recorded by its error code. The fallback of the
graph path builds an empty neighborhood for the query, whose model admits no more than
four thousand characters; the query of an assessment may be longer.
-/

namespace AssessmentPlatform

open Library

/-- The merged evidence with the neighborhood and the retrieval record. -/
structure HybridRetrievalResult where
  evidence : List RetrievedEvidence
  neighborhood : GraphNeighborhood
  metadata : GraphRetrievalExecutionMetadata

/-- The two retrieval paths. -/
structure HybridRetrievalService where
  vector : RetrievalService
  graph : GraphRetrievalService

/-- How a vector item enters the merge. -/
def vectorItem (_ : List RetrievedEvidence) (item : RetrievedEvidence) : RetrievedEvidence :=
  { item with retrievalSource := .vector }

/-- The vector items by chunk. -/
def mergeVector (evidence : List RetrievedEvidence) : List RetrievedEvidence :=
  putAll RetrievedEvidence.chunkId vectorItem [] evidence

/-- How a graph item enters the merge: a chunk that is known stays and is found by both. -/
def mergedItem (merged : List RetrievedEvidence) (item : RetrievedEvidence) : RetrievedEvidence :=
  match getBy RetrievedEvidence.chunkId item.chunkId merged with
  | none => { item with retrievalSource := .graph }
  | some existing => { existing with retrievalSource := .both }

/-- The merged evidence. -/
def mergeEvidence (vector graph : List RetrievedEvidence) : List RetrievedEvidence :=
  putAll RetrievedEvidence.chunkId mergedItem (mergeVector vector) graph

/-- The evidence of the vector path, and the code of its failure. -/
def vectorPath (result : Except Failure (List RetrievedEvidence)) :
    Except Failure (List RetrievedEvidence × Option ApplicationError) :=
  match result with
  | .ok evidence => .ok (evidence, none)
  | .error (.application e) => .ok ([], some e)
  | .error e => .error e

/-- The neighborhood of the graph path, and the code of its failure. -/
def graphPath (query : Str) (result : Except Failure GraphNeighborhood) :
    Except Failure (GraphNeighborhood × Option ApplicationError) :=
  match result with
  | .ok neighborhood => .ok (neighborhood, none)
  | .error (.application e) =>
    (GraphNeighborhood.empty query).map fun neighborhood => (neighborhood, some e)
  | .error e => .error e

/-- The retrieval record. -/
def hybridMetadata (vectorEvidence : List RetrievedEvidence) (vectorError : Option ApplicationError)
    (neighborhood : GraphNeighborhood) (graphError : Option ApplicationError) :
    GraphRetrievalExecutionMetadata where
  graphRetrievalUsed := graphError.isNone
  matchedEntityCount := neighborhood.matchedEntities.length
  relationshipCount := neighborhood.relationships.length
  graphDepthUsed := neighborhood.depthUsed
  vectorEvidenceCount := vectorEvidence.length
  graphEvidenceCount := neighborhood.evidence.length
  hybridEvidenceCount := (mergeEvidence vectorEvidence neighborhood.evidence).length
  degradedGraphMode := graphError.isSome
  graphErrorCode := graphError.map ApplicationError.errorCode
  vectorErrorCode := vectorError.map ApplicationError.errorCode
  graphDepthUsed_le := neighborhood.depthUsed_le
  graphErrorCode_le := fun code hcode => by
    obtain ⟨e, -, rfl⟩ := Option.map_eq_some_iff.mp hcode
    exact e.errorCode_length_le
  vectorErrorCode_le := fun code hcode => by
    obtain ⟨e, -, rfl⟩ := Option.map_eq_some_iff.mp hcode
    exact e.errorCode_length_le

/-- The merge of what the two paths of a query return or raise. -/
def hybridSearch (query : Str) (vectorResult : Except Failure (List RetrievedEvidence))
    (graphResult : Except Failure GraphNeighborhood) : Except Failure HybridRetrievalResult := do
  let (vectorEvidence, vectorError) ← vectorPath vectorResult
  let (neighborhood, graphError) ← graphPath query graphResult
  pure
    { evidence := mergeEvidence vectorEvidence neighborhood.evidence
      neighborhood
      metadata := hybridMetadata vectorEvidence vectorError neighborhood graphError }

section Service

variable (service : HybridRetrievalService)

/-- `HybridRetrievalService.search`. -/
def HybridRetrievalService.search (query : Str) (topK maxDepth : Option ℕ := none) :
    Except Failure HybridRetrievalResult :=
  hybridSearch query (service.vector.search query topK) (service.graph.search query maxDepth none)

/-- `HybridRAGService.prepare`. -/
def HybridRetrievalService.prepare (request : AssessmentRequest) :
    Except Failure RAGPreparation := do
  let query := buildRetrievalQuery request
  let result ← service.search query
  let context ← buildHybridRagContext result.evidence result.neighborhood
  pure { query, evidence := result.evidence, context, graphRetrieval := some result.metadata }

end Service

/-! ## The merge -/

section Merge

variable {vector graph : List RetrievedEvidence}

/-- A merged item has the chunk of the new one. -/
theorem mergedItem_chunkId (merged : List RetrievedEvidence) (item : RetrievedEvidence) :
    (mergedItem merged item).chunkId = item.chunkId := by
  unfold mergedItem
  split
  · rfl
  · rename_i existing hexisting
    exact (getBy_mem hexisting).2

/-- A chunk that is new is labelled as found by the graph. -/
theorem mergedItem_new {merged : List RetrievedEvidence} {item : RetrievedEvidence}
    (h : getBy RetrievedEvidence.chunkId item.chunkId merged = none) :
    mergedItem merged item = { item with retrievalSource := .graph } := by
  rw [mergedItem, h]

/-- A chunk that is known is labelled as found by both paths. -/
theorem mergedItem_known {merged : List RetrievedEvidence} {item existing : RetrievedEvidence}
    (h : getBy RetrievedEvidence.chunkId item.chunkId merged = some existing) :
    mergedItem merged item = { existing with retrievalSource := .both } := by
  rw [mergedItem, h]

/-- The merged vector evidence has the same chunks. -/
theorem mem_map_mergeVector {id : UUID} :
    id ∈ (mergeVector vector).map RetrievedEvidence.chunkId ↔
      id ∈ vector.map RetrievedEvidence.chunkId := by
  have hkey : ∀ m item, (vectorItem m item).chunkId = item.chunkId := fun _ _ => rfl
  rw [mergeVector, mem_map_putAll hkey]
  simp

/-- The merged vector evidence holds each chunk once. -/
theorem nodup_mergeVector : ((mergeVector vector).map RetrievedEvidence.chunkId).Nodup :=
  nodup_map_putAll (by simp) _

/-- The merged evidence holds each chunk once. -/
theorem nodup_mergeEvidence :
    ((mergeEvidence vector graph).map RetrievedEvidence.chunkId).Nodup :=
  nodup_map_putAll nodup_mergeVector _

/-- The merged chunks are the chunks of the two paths. -/
theorem mem_map_mergeEvidence {id : UUID} :
    id ∈ (mergeEvidence vector graph).map RetrievedEvidence.chunkId ↔
      id ∈ vector.map RetrievedEvidence.chunkId ∨ id ∈ graph.map RetrievedEvidence.chunkId := by
  rw [mergeEvidence, mem_map_putAll mergedItem_chunkId, mem_map_mergeVector]

/-- An item of the merge is the item of the path that found the chunk first, with the
label of the paths that found it. -/
def MergedFrom (vector graph : List RetrievedEvidence) (item : RetrievedEvidence) : Prop :=
  if item.chunkId ∈ vector.map RetrievedEvidence.chunkId then
    ∃ source ∈ vector, item =
      { source with
        retrievalSource :=
          if item.chunkId ∈ graph.map RetrievedEvidence.chunkId then .both else .vector }
  else ∃ source ∈ graph, item = { source with retrievalSource := .graph }

/-- An item of the merged vector evidence is one of the evidence with its label. -/
theorem mem_mergeVector {item : RetrievedEvidence} (h : item ∈ mergeVector vector) :
    ∃ source ∈ vector, item = { source with retrievalSource := .vector } := by
  unfold mergeVector at h
  induction vector using List.reverseRecOn with
  | nil => cases h
  | append_singleton vector last ih =>
    rw [putAll_concat] at h
    rcases mem_putBy nodup_mergeVector h with rfl | ⟨hmem, -⟩
    · exact ⟨last, by simp, rfl⟩
    · obtain ⟨source, hsource, heq⟩ := ih hmem
      exact ⟨source, by simp [hsource], heq⟩

/-- The label of a merged chunk. A chunk that the graph path alone finds twice is labelled as if
both paths had found it. -/
def mergedOrigin (vector graph : List RetrievedEvidence) (id : UUID) : RetrievalSource :=
  if id ∈ vector.map RetrievedEvidence.chunkId then
    if id ∈ graph.map RetrievedEvidence.chunkId then .both else .vector
  else if 1 < (graph.map RetrievedEvidence.chunkId).count id then .both else .graph

/-- Every merged item is an item of the path that found the chunk first, with the label of its
chunk. -/
theorem mem_mergeEvidence_origin {item : RetrievedEvidence}
    (h : item ∈ mergeEvidence vector graph) :
    ∃ source ∈ if item.chunkId ∈ vector.map RetrievedEvidence.chunkId then vector else graph,
      item = { source with retrievalSource := mergedOrigin vector graph item.chunkId } := by
  induction graph using List.reverseRecOn generalizing item with
  | nil =>
    obtain ⟨source, hsource, rfl⟩ := mem_mergeVector h
    have hvector : source.chunkId ∈ vector.map RetrievedEvidence.chunkId :=
      List.mem_map_of_mem hsource
    exact ⟨source, by simpa [hvector] using hsource, by simp [mergedOrigin, hvector]⟩
  | append_singleton graph last ih =>
    have hconcat : mergeEvidence vector (graph ++ [last]) =
        putBy RetrievedEvidence.chunkId (mergedItem (mergeEvidence vector graph) last)
          (mergeEvidence vector graph) := putAll_concat _ _ _
    rw [hconcat] at h
    rcases mem_putBy nodup_mergeEvidence h with rfl | ⟨hmem, hne⟩
    · rw [mergedItem_chunkId]
      cases hfound : getBy RetrievedEvidence.chunkId last.chunkId (mergeEvidence vector graph) with
      | none =>
        have hnew := mem_map_mergeEvidence.not.mp (getBy_eq_none_iff.mp hfound)
        rw [not_or] at hnew
        refine ⟨last, by simp [hnew.1], ?_⟩
        rw [mergedItem_new hfound]
        simp [mergedOrigin, hnew.1, List.count_eq_zero_of_not_mem hnew.2]
      | some existing =>
        obtain ⟨hexisting, hid⟩ := getBy_mem hfound
        obtain ⟨source, hsource, heq⟩ := ih hexisting
        have hknown := mem_map_mergeEvidence.mp (List.mem_map_of_mem hexisting)
        rw [hid] at hsource hknown
        rw [mergedItem_known hfound]
        by_cases hvector : last.chunkId ∈ vector.map RetrievedEvidence.chunkId
        · rw [if_pos hvector] at hsource ⊢
          exact ⟨source, hsource, by rw [heq]; simp [mergedOrigin, hvector]⟩
        · rw [if_neg hvector] at hsource ⊢
          have hcount := List.count_pos_iff.mpr (hknown.resolve_left hvector)
          refine ⟨source, List.mem_append_left _ hsource, ?_⟩
          rw [heq]
          simp [mergedOrigin, hvector, hcount]
    · obtain ⟨source, hsource, heq⟩ := ih hmem
      rw [mergedItem_chunkId] at hne
      have horigin : mergedOrigin vector (graph ++ [last]) item.chunkId =
          mergedOrigin vector graph item.chunkId := by
        simp [mergedOrigin, hne, hne.symm]
      rw [horigin]
      refine ⟨source, ?_, heq⟩
      split at hsource
      · rwa [if_pos (by assumption)]
      · rw [if_neg (by assumption)]
        exact List.mem_append_left _ hsource

/-- When the graph path finds each chunk once, every merged item is labelled by the paths
that found it. -/
theorem mem_mergeEvidence (hgraph : (graph.map RetrievedEvidence.chunkId).Nodup)
    {item : RetrievedEvidence} (h : item ∈ mergeEvidence vector graph) :
    MergedFrom vector graph item := by
  obtain ⟨source, hsource, heq⟩ := mem_mergeEvidence_origin h
  unfold mergedOrigin at heq
  unfold MergedFrom
  have hcount := List.nodup_iff_count_le_one.mp hgraph item.chunkId
  split at hsource
  · rename_i hvector
    rw [if_pos hvector] at heq ⊢
    exact ⟨source, hsource, heq⟩
  · rename_i hvector
    rw [if_neg hvector, if_neg (Nat.not_lt.mpr hcount)] at heq
    rw [if_neg hvector]
    exact ⟨source, hsource, heq⟩

/-- Every item that is listed as vector evidence has the score of the vector path. -/
theorem vectorItems_scored (hvector : ∀ item ∈ vector, item.similarityScore.isSome = true)
    (hgraph : (graph.map RetrievedEvidence.chunkId).Nodup) :
    ∀ item ∈ vectorItems (mergeEvidence vector graph), item.similarityScore.isSome = true := by
  intro item hitem
  obtain ⟨hmem, hlabel⟩ := List.mem_filter.mp hitem
  have hmerged := mem_mergeEvidence hgraph hmem
  unfold MergedFrom at hmerged
  split at hmerged
  · obtain ⟨source, hsource, heq⟩ := hmerged
    rw [heq]
    exact hvector source hsource
  · obtain ⟨source, -, heq⟩ := hmerged
    rw [heq] at hlabel
    simp at hlabel

end Merge

/-! ## The preparation -/

/-- A path that returns or raises an application error. -/
def Anticipated {α : Type} (r : Except Failure α) : Prop :=
  ∀ e, r = .error e → ∃ error, e = .application error

/-- The evidence that a path contributes. -/
def contributed (r : Except Failure (List RetrievedEvidence)) : List RetrievedEvidence :=
  match r with
  | .ok evidence => evidence
  | .error _ => []

/-- The error code of a path that has failed. -/
def recordedCode {α : Type} (r : Except Failure α) : Option Str :=
  match r with
  | .error (.application e) => some e.errorCode
  | _ => none

section Preparation

variable (service : HybridRetrievalService) (request : AssessmentRequest)

/-- The outcome of the vector path. -/
def HybridRetrievalService.vectorOutcome : Except Failure (List RetrievedEvidence) :=
  service.vector.search (buildRetrievalQuery request) none

/-- The outcome of the repository lookup of the graph path. -/
def HybridRetrievalService.graphOutcome : Except Failure (List RetrievedEvidence) :=
  (service.graph.lookup (buildRetrievalQuery request) none none).map fun found =>
    match found with
    | none => []
    | some traversal => traversal.evidence

/-- A preparation that holds the evidence of the paths that succeeded, each chunk once, and
the error code of each path that failed. -/
structure HybridRetrievalService.Prepares (preparation : RAGPreparation) : Prop where
  chunkIds : ∀ id, id ∈ preparation.evidence.map RetrievedEvidence.chunkId ↔
    id ∈ (contributed (service.vectorOutcome request)).map RetrievedEvidence.chunkId ∨
      id ∈ (contributed (service.graphOutcome request)).map RetrievedEvidence.chunkId
  nodup : (preparation.evidence.map RetrievedEvidence.chunkId).Nodup
  merged : ∀ item ∈ preparation.evidence,
    MergedFrom (contributed (service.vectorOutcome request))
      (contributed (service.graphOutcome request)) item
  empty : contributed (service.vectorOutcome request) = [] →
    contributed (service.graphOutcome request) = [] → preparation.evidence = []
  codes : ∃ metadata, preparation.graphRetrieval = some metadata ∧
    metadata.vectorErrorCode = recordedCode (service.vectorOutcome request) ∧
    metadata.graphErrorCode = recordedCode (service.graphOutcome request)

end Preparation

section Paths

variable {service : HybridRetrievalService} {request : AssessmentRequest} {query : Str}

/-- The vector path contributes its evidence, or records its error. -/
theorem vectorPath_eq {r : Except Failure (List RetrievedEvidence)} (h : Anticipated r) :
    ∃ error, vectorPath r = .ok (contributed r, error) ∧
      error.map ApplicationError.errorCode = recordedCode r := by
  cases r with
  | ok evidence => exact ⟨none, rfl, rfl⟩
  | error e =>
    obtain ⟨error, rfl⟩ := h e rfl
    exact ⟨some error, rfl, rfl⟩

/-- A neighborhood that is accepted is created, with its evidence. -/
theorem GraphNeighborhood.create_ok {query : Str} {depthUsed : ℕ}
    (h : GraphNeighborhood.Accepts query depthUsed) (matched related relationships documents chunks)
    (evidence : List RetrievedEvidence) :
    ∃ neighborhood, GraphNeighborhood.create query matched related relationships documents chunks
      depthUsed evidence = .ok neighborhood ∧ neighborhood.evidence = evidence :=
  ⟨_, dif_pos h, rfl⟩

/-- A neighborhood for a query that is too long is refused. -/
theorem GraphNeighborhood.create_error {query : Str} (h : 4000 < query.length) (matched related
    relationships documents chunks) (depthUsed : ℕ) (evidence : List RetrievedEvidence) :
    GraphNeighborhood.create query matched related relationships documents chunks depthUsed
      evidence = .error .value :=
  dif_neg fun haccepts => absurd haccepts.2.1.2 (not_le.mpr h)

/-- The graph path on a query that the model of a neighborhood admits. -/
theorem graphPath_eq {graph : GraphRetrievalService}
    (h : Anticipated (graph.lookup query none none))
    (hencodable : query.encodable = true) (hquery : 1 ≤ query.length ∧ query.length ≤ 4000) :
    ∃ neighborhood error, graphPath query (graph.search query none none) =
        .ok (neighborhood, error) ∧
      neighborhood.evidence = contributed ((graph.lookup query none none).map fun found =>
        match found with
        | none => []
        | some traversal => traversal.evidence) ∧
      (neighborhood.evidence.map RetrievedEvidence.chunkId).Nodup ∧
      error.map ApplicationError.errorCode = recordedCode (graph.lookup query none none) := by
  have haccepts : GraphNeighborhood.Accepts query 0 := ⟨hencodable, hquery, by decide⟩
  obtain ⟨fallback, hfallback, hevidence⟩ := GraphNeighborhood.create_ok haccepts [] [] [] [] [] []
  unfold GraphRetrievalService.search
  cases hlookup : graph.lookup query none none with
  | error e =>
    obtain ⟨error, rfl⟩ := h e hlookup
    refine ⟨fallback, some error, ?_, ?_, ?_, rfl⟩
    · rw [except_error_bind]
      unfold graphPath GraphNeighborhood.empty
      rw [hfallback]
      rfl
    · rw [hevidence]
      rfl
    · simp [hevidence]
  | ok found =>
    rw [except_ok_bind]
    cases found with
    | none =>
      refine ⟨fallback, none, ?_, ?_, ?_, rfl⟩
      · dsimp only
        rw [show GraphNeighborhood.empty query = .ok fallback from hfallback]
        rfl
      · rw [hevidence]
        rfl
      · simp [hevidence]
    | some traversal =>
      have hdepth := GraphRetrievalService.lookup_depthUsed_le hlookup
      obtain ⟨neighborhood, hcreate, hfound⟩ :=
        GraphNeighborhood.create_ok ⟨hencodable, hquery, hdepth⟩
          (traversal.matchedEntities.map KnowledgeEntityRecord.toResult)
          (traversal.relatedEntities.map KnowledgeEntityRecord.toResult)
          (traversal.relationships.filterMap traversal.mapRelationship)
          ((traversal.evidence.map RetrievedEvidence.documentId).dedup.insertionSort (· ≤ ·))
          ((traversal.evidence.map RetrievedEvidence.chunkId).dedup.insertionSort (· ≤ ·))
          traversal.evidence
      refine ⟨neighborhood, none, ?_, hfound, ?_, rfl⟩
      · dsimp only
        rw [show traversal.toNeighborhood query = .ok neighborhood from hcreate]
        rfl
      · rw [hfound]
        exact traversal.evidence_nodup

/-- The graph path raises on a longer query, whatever the lookup gives. -/
theorem graphPath_error {graph : GraphRetrievalService} (hquery : 4000 < query.length)
    (h : Anticipated (graph.lookup query none none)) :
    graphPath query (graph.search query none none) = .error .value := by
  unfold GraphRetrievalService.search
  cases hlookup : graph.lookup query none none with
  | error e =>
    obtain ⟨error, rfl⟩ := h e hlookup
    rw [except_error_bind]
    unfold graphPath GraphNeighborhood.empty
    rw [GraphNeighborhood.create_error hquery]
    rfl
  | ok found =>
    rw [except_ok_bind]
    cases found with
    | none =>
      dsimp only [GraphNeighborhood.empty]
      rw [GraphNeighborhood.create_error hquery]
      rfl
    | some traversal =>
      dsimp only [GraphTraversalData.toNeighborhood]
      rw [GraphNeighborhood.create_error hquery]
      rfl

/-- A mapped outcome records the same error. -/
theorem recordedCode_map {α β : Type} (f : α → β) (r : Except Failure α) :
    recordedCode (r.map f) = recordedCode r := by
  cases r with
  | ok a => rfl
  | error e => cases e <;> rfl

/-- A query of at most four thousand characters is prepared. -/
theorem HybridRetrievalService.prepare_ok
    (hvector : Anticipated (service.vector.search (buildRetrievalQuery request) none))
    (hgraph : Anticipated (service.graph.lookup (buildRetrievalQuery request) none none))
    (hsize : request.querySize ≤ 4000) :
    ∃ preparation, service.prepare request = .ok preparation ∧
      service.Prepares request preparation := by
  have hlength : 1 ≤ (buildRetrievalQuery request).length ∧
      (buildRetrievalQuery request).length ≤ 4000 := by
    rw [buildRetrievalQuery_length]
    refine ⟨?_, hsize⟩
    unfold AssessmentRequest.querySize
    omega
  obtain ⟨vectorError, hvectorPath, hvectorCode⟩ := vectorPath_eq hvector
  obtain ⟨neighborhood, graphError, hgraphPath, hevidence, hnodup, hgraphCode⟩ :=
    graphPath_eq hgraph (buildRetrievalQuery_encodable request) hlength
  have hscored : ∀ item ∈ contributed (service.vectorOutcome request),
      item.similarityScore.isSome = true := by
    unfold HybridRetrievalService.vectorOutcome contributed
    cases hsearch : service.vector.search (buildRetrievalQuery request) none with
    | error e => simp
    | ok found => exact (RetrievalService.search_eq_ok hsearch).1
  obtain ⟨context, hcontext⟩ := buildHybridRagContext_ok neighborhood
    (vectorItems_scored hscored hnodup)
  have hgraphEvidence : neighborhood.evidence = contributed (service.graphOutcome request) :=
    hevidence
  refine ⟨⟨buildRetrievalQuery request, mergeEvidence (contributed (service.vectorOutcome request))
    neighborhood.evidence, context, some (hybridMetadata
      (contributed (service.vectorOutcome request)) vectorError neighborhood graphError)⟩, ?_, ?_⟩
  · unfold HybridRetrievalService.prepare HybridRetrievalService.search hybridSearch
    dsimp only
    rw [hvectorPath, except_ok_bind]
    dsimp only
    rw [hgraphPath, except_ok_bind]
    dsimp only
    change (buildHybridRagContext (mergeEvidence (contributed (service.vectorOutcome request))
      neighborhood.evidence) neighborhood >>= _) = _
    rw [hcontext]
    rfl
  · exact
      { chunkIds := fun id => by rw [← hgraphEvidence]; exact mem_map_mergeEvidence
        nodup := nodup_mergeEvidence
        merged := fun item hitem => by
          rw [← hgraphEvidence]
          exact mem_mergeEvidence hnodup hitem
        empty := fun hvectorNone hgraphNone => by
          rw [← hgraphEvidence] at hgraphNone
          rw [hvectorNone, hgraphNone]
          rfl
        codes := ⟨_, rfl, hvectorCode, hgraphCode.trans (recordedCode_map _ _).symm⟩ }

/-- A longer query is not prepared, whatever the two paths give. -/
theorem HybridRetrievalService.prepare_error
    (hvector : Anticipated (service.vector.search (buildRetrievalQuery request) none))
    (hgraph : Anticipated (service.graph.lookup (buildRetrievalQuery request) none none))
    (hsize : 4000 < request.querySize) : service.prepare request = .error .value := by
  rw [← buildRetrievalQuery_length] at hsize
  obtain ⟨vectorError, hvectorPath, -⟩ := vectorPath_eq hvector
  unfold HybridRetrievalService.prepare HybridRetrievalService.search hybridSearch
  dsimp only
  rw [hvectorPath, except_ok_bind]
  dsimp only
  rw [graphPath_error hsize hgraph]
  rfl

end Paths

/-- When each path returns or raises an application error, the preparation of a request
holds the evidence of the paths that succeeded and the codes of those that failed, if and
only if the query of the request has at most four thousand characters. -/
theorem hybrid_prepare_falls_back (service : HybridRetrievalService) (request : AssessmentRequest)
    (hvector : Anticipated (service.vector.search (buildRetrievalQuery request) none))
    (hgraph : Anticipated (service.graph.lookup (buildRetrievalQuery request) none none)) :
    (∃ preparation, service.prepare request = .ok preparation ∧
      service.Prepares request preparation) ↔ request.querySize ≤ 4000 := by
  constructor
  · rintro ⟨preparation, hprepare, -⟩
    by_contra hsize
    have herror := HybridRetrievalService.prepare_error hvector hgraph (not_le.mp hsize)
    cases hprepare.symm.trans herror
  · exact HybridRetrievalService.prepare_ok hvector hgraph

/-- A service whose two paths fail. -/
def HybridRetrievalService.failing : HybridRetrievalService where
  vector :=
    { embedTexts := fun _ => .error (.application .embeddingProvider)
      searchSimilar := fun _ _ _ => .ok []
      topK := 5
      similarityThreshold := 0 }
  graph :=
    { findMatchingQuery := fun _ _ _ => .error (.database .operational)
      getNeighborhood := fun _ _ _ _ => .error .other
      maxDepth := 2
      maxEntities := 20
      minConfidence := 0
      maxDepth_le := by decide
      depthUsed_le := fun _ _ _ _ _ h => by cases h }

/-- The statement applies: the smallest request is prepared although both paths fail. -/
theorem hybrid_prepare_falls_back_failing :
    ∃ preparation, HybridRetrievalService.failing.prepare .minimal = .ok preparation ∧
      HybridRetrievalService.failing.Prepares .minimal preparation := by
  refine (hybrid_prepare_falls_back .failing .minimal ?_ ?_).mpr (by decide +kernel)
  · rintro e ⟨⟩
    exact ⟨_, rfl⟩
  · rintro e ⟨⟩
    exact ⟨_, rfl⟩

/-- A text of letters is valid up to its length. -/
theorem Str.accepted_replicate {n bound : ℕ} (hpos : 0 < n) (hle : n ≤ bound) :
    Str.ValidWithin bound (List.replicate n 65) := by
  refine ⟨⟨?_, Str.trim_eq_self fun c hc => ?_⟩, ?_, ?_⟩
  · rw [Str.encodable, List.all_eq_true]
    intro c hc
    rw [List.eq_of_mem_replicate hc]
    decide
  · rw [List.eq_of_mem_replicate hc]
    decide
  · rwa [List.length_replicate]
  · rwa [List.length_replicate]

/-- A valid request whose current process has four thousand characters. -/
def AssessmentRequest.detailed : AssessmentRequest :=
  { AssessmentRequest.minimal with
    currentProcess := some (List.replicate 4000 65)
    currentProcess_accepted := by
      rintro s ⟨⟩
      exact Str.accepted_replicate (by decide) le_rfl }

/-- A detailed request is not prepared, although it is valid and both failures are
anticipated. -/
theorem hybrid_prepare_raises_on_detailed :
    ¬ ∀ (service : HybridRetrievalService) (request : AssessmentRequest),
      Anticipated (service.vector.search (buildRetrievalQuery request) none) →
      Anticipated (service.graph.lookup (buildRetrievalQuery request) none none) →
      ∃ preparation, service.prepare request = .ok preparation ∧
        service.Prepares request preparation := by
  intro hclaim
  have hvector : Anticipated (HybridRetrievalService.failing.vector.search
      (buildRetrievalQuery .detailed) none) := by
    rintro e ⟨⟩
    exact ⟨_, rfl⟩
  have hgraph : Anticipated (HybridRetrievalService.failing.graph.lookup
      (buildRetrievalQuery .detailed) none none) := by
    rintro e ⟨⟩
    exact ⟨_, rfl⟩
  obtain ⟨preparation, hprepare, -⟩ := hclaim .failing .detailed hvector hgraph
  have hprocess : optionalLineSize 17 AssessmentRequest.detailed.currentProcess = 4018 := by
    unfold AssessmentRequest.detailed optionalLineSize
    dsimp only
    rw [List.length_replicate]
  have hsize : 4000 < AssessmentRequest.detailed.querySize := by
    unfold AssessmentRequest.querySize
    omega
  have herror := HybridRetrievalService.prepare_error hvector hgraph hsize
  cases hprepare.symm.trans herror

end AssessmentPlatform
