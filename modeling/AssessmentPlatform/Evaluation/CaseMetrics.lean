import AssessmentPlatform.Evaluation.Dataset
import AssessmentPlatform.KnowledgeGraph.Distance
import Mathlib.Algebra.Order.BigOperators.Group.List

/-!
# Metrics of a case and of a run

The coverage of the expected graph, the traceability of what was retrieved to the corpus, the
origins of the evidence, and the averages over a run. For every neighborhood and all evidence these
metrics are numbers that their models admit.
-/

namespace AssessmentPlatform

open Library

/-! ## The graph metrics -/

/-- Expected-graph and source traceability metrics. -/
structure GraphMetrics where
  entityHitRate : Option Rate := none
  relationshipHitRate : Option Rate := none
  pathSuccess : Option Rate := none
  provenanceCoverage : Option Rate := none
  deriving DecidableEq

/-- The validating constructor. -/
def GraphMetrics.create
    (entityHitRate relationshipHitRate pathSuccess provenanceCoverage : Option ℚ) :
    Except Failure GraphMetrics := do
  let entityHitRate ← Rate.createOptional entityHitRate
  let relationshipHitRate ← Rate.createOptional relationshipHitRate
  let pathSuccess ← Rate.createOptional pathSuccess
  let provenanceCoverage ← Rate.createOptional provenanceCoverage
  pure { entityHitRate, relationshipHitRate, pathSuccess, provenanceCoverage }

/-- The share of the expected items that were found, if any were expected. -/
def hitRate {α : Type} [DecidableEq α] (found expected : Finset α) : Except Failure (Option ℚ) :=
  if expected = ∅ then .ok none
  else (divide (found ∩ expected).card expected.card).map some

/-- The share of the checks that were passed, if there were any. -/
def passRate (checks : List Bool) : Except Failure (Option ℚ) :=
  if checks = [] then .ok none else (divide (checks.count true) checks.length).map some

/-- The key of a retrieved relationship. -/
def GraphRelationshipResult.key (casefold : Str → Str) (relationship : GraphRelationshipResult) :
    Str × KnowledgeRelationshipType × Str :=
  (casefold relationship.sourceEntityName, relationship.relationshipType,
    casefold relationship.targetEntityName)

/-- Whether the corpus has the document of some evidence. -/
def tracesEvidence (corpus : List BenchmarkDocument) (item : RetrievedEvidence) : Bool :=
  match getBy BenchmarkDocument.chunkId item.chunkId (dictBy BenchmarkDocument.chunkId corpus) with
  | none => false
  | some source => source.documentId = item.documentId ∧ source.title = item.documentTitle

/-- Whether the benchmark has a relationship with its source. -/
def tracesRelationship (casefold : Str → Str) (benchmarkRelationships : List BenchmarkRelationship)
    (item : GraphRelationshipResult) : Bool :=
  let key := fun relationship : BenchmarkRelationship => relationship.key casefold
  match getBy key (item.key casefold) (dictBy key benchmarkRelationships) with
  | none => false
  | some source =>
    source.sourceChunkId = item.sourceChunkId ∧ source.sourceDocumentId = item.sourceDocumentId

/-- The rates of what was expected in the graph: of entities, of relationships and of paths. -/
def expectedRates (casefold : Str → Str) (neighborhood : GraphNeighborhood)
    (expected : EvaluationExpectedEvidence.WithGraph) :
    Except Failure (Option ℚ × Option ℚ × Option ℚ) := do
  let foundEntities := ((neighborhood.matchedEntities ++ neighborhood.relatedEntities).map
    fun item => casefold item.canonicalName).toFinset
  let foundRelationships :=
    (neighborhood.relationships.map (GraphRelationshipResult.key casefold)).toFinset
  let entityHitRate ← hitRate foundEntities (expected.entities.map casefold).toFinset
  let relationshipHitRate ← hitRate foundRelationships
    (expected.relationships.map (ExpectedRelationship.key casefold)).toFinset
  let pathSuccess ← passRate (expected.paths.map fun path =>
    path.relationships.length ≤ neighborhood.depthUsed ∧
      ∀ step ∈ path.relationships, step.key casefold ∈ foundRelationships)
  return (entityHitRate, relationshipHitRate, pathSuccess)

/-- `calculate_graph_metrics`. -/
def calculateGraphMetrics (casefold : Str → Str) (neighborhood : Option GraphNeighborhood)
    (evidence : List RetrievedEvidence) (expected : EvaluationExpectedEvidence.WithGraph)
    (corpus : List BenchmarkDocument) (benchmarkRelationships : List BenchmarkRelationship) :
    Except Failure GraphMetrics := do
  let (entityHitRate, relationshipHitRate, pathSuccess) ←
    neighborhood.elim (.ok (none, none, none)) fun found => expectedRates casefold found expected
  let relationships := neighborhood.elim [] GraphNeighborhood.relationships
  let provenanceCoverage ← passRate ((deduplicateEvidence evidence).map (tracesEvidence corpus) ++
    relationships.map (tracesRelationship casefold benchmarkRelationships))
  GraphMetrics.create entityHitRate relationshipHitRate pathSuccess provenanceCoverage

/-! ## The results -/

/-- Counts of evidence by its origin. -/
abbrev OriginCounts := List (RetrievalSource × ℕ)

/-- The count of an origin after some more of it. -/
def addOrigin (counts : OriginCounts) (entry : RetrievalSource × ℕ) : RetrievalSource × ℕ :=
  (entry.1, (getBy Prod.fst entry.1 counts).elim 0 Prod.snd + entry.2)

/-- `evidence_origin_mix`. -/
def evidenceOriginMix (evidence : List RetrievedEvidence) : OriginCounts :=
  putAll Prod.fst addOrigin []
    ((deduplicateEvidence evidence).map fun item => (item.retrievalSource, 1))

/-- Retrieved identity and origin. -/
structure EvidenceObservation where
  documentId : UUID
  chunkId : UUID
  title : Str
  retrievalOrigin : RetrievalSource
  deriving DecidableEq

/-- `_observation`. -/
def RetrievedEvidence.observation (item : RetrievedEvidence) : EvidenceObservation where
  documentId := item.documentId
  chunkId := item.chunkId
  title := item.documentTitle
  retrievalOrigin := item.retrievalSource

/-- Retrieved edge identity with its source. -/
structure RelationshipObservation extends ExpectedRelationship where
  sourceDocumentId : UUID
  sourceChunkId : UUID

/-- The validating constructor. -/
def RelationshipObservation.create (item : GraphRelationshipResult) :
    Except Failure RelationshipObservation :=
  if h : item.sourceEntityName.Within 500 ∧ item.targetEntityName.Within 500 then
    .ok
      { sourceEntity := item.sourceEntityName
        relationshipType := item.relationshipType
        targetEntity := item.targetEntityName
        sourceEntity_within := h.1
        targetEntity_within := h.2
        sourceDocumentId := item.sourceDocumentId
        sourceChunkId := item.sourceChunkId }
  else .error .value

/-- The outcome of one case. -/
structure CaseEvaluationResult where
  queryId : EvaluationId
  queryType : EvaluationQueryType
  skipped : Bool := false
  skipReason : Option Str := none
  retrievedEvidence : List EvidenceObservation := []
  retrievedEntities : List Str := []
  retrievedRelationships : List RelationshipObservation := []
  retrievalMetrics : RetrievalMetrics
  graphMetrics : GraphMetrics
  evidenceOriginMix : OriginCounts := []

/-- Averages and counts over the cases of a run. -/
structure AggregateMetrics where
  retrieval : RetrievalMetrics
  graph : GraphMetrics
  evidenceOriginMix : OriginCounts

/-- `_average`. -/
def average (values : List (Option Rate)) : Option ℚ :=
  let present := values.reduceOption.map Subtype.val
  if present = [] then none else some (present.sum / present.length)

/-- `aggregate_case_results`. -/
def aggregateCaseResults (results : List CaseEvaluationResult) :
    Except Failure AggregateMetrics := do
  let evaluated := results.filter fun item => !item.skipped
  let retrieval ← RetrievalMetrics.create
    (average (evaluated.map fun item => item.retrievalMetrics.hitRateAtK))
    (average (evaluated.map fun item => item.retrievalMetrics.precisionAtK))
    (average (evaluated.map fun item => item.retrievalMetrics.recallAtK))
    (average (evaluated.map fun item => item.retrievalMetrics.mrr))
    (average (evaluated.map fun item => item.retrievalMetrics.falsePositiveRate))
  let graph ← GraphMetrics.create
    (average (evaluated.map fun item => item.graphMetrics.entityHitRate))
    (average (evaluated.map fun item => item.graphMetrics.relationshipHitRate))
    (average (evaluated.map fun item => item.graphMetrics.pathSuccess))
    (average (evaluated.map fun item => item.graphMetrics.provenanceCoverage))
  return {
    retrieval
    graph
    evidenceOriginMix :=
      putAll Prod.fst addOrigin [] (evaluated.flatMap CaseEvaluationResult.evidenceOriginMix) }

/-! ## The metrics exist -/

/-- A computed value that the validation of a metric admits, if there is one. -/
def Admitted (value : Option ℚ) : Prop := ∀ x ∈ value, 0 ≤ x ∧ x ≤ 1

/-- The hit rate is always computed, and it is a rate. -/
theorem hitRate_returns {α : Type} [DecidableEq α] (found expected : Finset α) :
    ∃ value, hitRate found expected = .ok value ∧ Admitted value := by
  unfold hitRate
  by_cases hempty : expected = ∅
  · exact ⟨none, if_pos hempty, nofun⟩
  · rw [if_neg hempty, divide_ok _ (Finset.card_pos.mpr (Finset.nonempty_iff_ne_empty.mpr hempty))]
    refine ⟨_, rfl, ?_⟩
    rintro _ ⟨⟩
    exact fraction_mem (Finset.card_le_card Finset.inter_subset_right)

/-- The share of the passed checks is always computed, and it is a rate. -/
theorem passRate_returns (checks : List Bool) :
    ∃ value, passRate checks = .ok value ∧ Admitted value := by
  unfold passRate
  by_cases hempty : checks = []
  · exact ⟨none, if_pos hempty, nofun⟩
  · rw [if_neg hempty, divide_ok _ (List.length_pos_of_ne_nil hempty)]
    refine ⟨_, rfl, ?_⟩
    rintro _ ⟨⟩
    exact fraction_mem List.count_le_length

/-- Graph metrics are created of rates. -/
theorem GraphMetrics.create_returns {a b c d : Option ℚ} (ha : Admitted a) (hb : Admitted b)
    (hc : Admitted c) (hd : Admitted d) : ∃ metrics, GraphMetrics.create a b c d = .ok metrics := by
  obtain ⟨entity, hentity, -⟩ := Rate.exists_createOptional ha
  obtain ⟨relationship, hrelationship, -⟩ := Rate.exists_createOptional hb
  obtain ⟨path, hpath, -⟩ := Rate.exists_createOptional hc
  obtain ⟨provenance, hprovenance, -⟩ := Rate.exists_createOptional hd
  unfold create
  rw [hentity, except_ok_bind, hrelationship, except_ok_bind, hpath, except_ok_bind, hprovenance]
  exact ⟨_, rfl⟩

/-- Retrieval metrics are created of rates. -/
theorem RetrievalMetrics.create_returns {a b c d e : Option ℚ} (ha : Admitted a)
    (hb : Admitted b) (hc : Admitted c) (hd : Admitted d) (he : Admitted e) :
    ∃ metrics, RetrievalMetrics.create a b c d e = .ok metrics := by
  obtain ⟨hit, hhit, -⟩ := Rate.exists_createOptional ha
  obtain ⟨precision, hprecision, -⟩ := Rate.exists_createOptional hb
  obtain ⟨recallRate, hrecall, -⟩ := Rate.exists_createOptional hc
  obtain ⟨mrr, hmrr, -⟩ := Rate.exists_createOptional hd
  obtain ⟨falsePositive, hfalse, -⟩ := Rate.exists_createOptional he
  unfold create
  rw [hhit, except_ok_bind, hprecision, except_ok_bind, hrecall, except_ok_bind, hmrr,
    except_ok_bind, hfalse]
  exact ⟨_, rfl⟩

/-- The rates of the expected graph are always computed, and they are rates. -/
theorem expectedRates_returns (casefold : Str → Str) (neighborhood : GraphNeighborhood)
    (expected : EvaluationExpectedEvidence.WithGraph) :
    ∃ rates, expectedRates casefold neighborhood expected = .ok rates ∧
      Admitted rates.1 ∧ Admitted rates.2.1 ∧ Admitted rates.2.2 := by
  unfold expectedRates
  dsimp only
  obtain ⟨entity, hentity, hentity'⟩ := hitRate_returns
    ((neighborhood.matchedEntities ++ neighborhood.relatedEntities).map
      fun item => casefold item.canonicalName).toFinset (expected.entities.map casefold).toFinset
  obtain ⟨relationship, hrelationship, hrelationship'⟩ := hitRate_returns
    (neighborhood.relationships.map (GraphRelationshipResult.key casefold)).toFinset
    (expected.relationships.map (ExpectedRelationship.key casefold)).toFinset
  rw [hentity, except_ok_bind, hrelationship, except_ok_bind]
  obtain ⟨path, hpath, hpath'⟩ := passRate_returns (expected.paths.map fun path =>
    path.relationships.length ≤ neighborhood.depthUsed ∧
      ∀ step ∈ path.relationships, step.key casefold ∈
        (neighborhood.relationships.map (GraphRelationshipResult.key casefold)).toFinset)
  rw [hpath]
  exact ⟨_, rfl, hentity', hrelationship', hpath'⟩

/-- Every case has graph metrics. -/
theorem calculateGraphMetrics_returns (casefold : Str → Str)
    (neighborhood : Option GraphNeighborhood) (evidence : List RetrievedEvidence)
    (expected : EvaluationExpectedEvidence.WithGraph) (corpus : List BenchmarkDocument)
    (benchmarkRelationships : List BenchmarkRelationship) :
    ∃ metrics, calculateGraphMetrics casefold neighborhood evidence expected corpus
      benchmarkRelationships = .ok metrics := by
  unfold calculateGraphMetrics
  have hrates : ∃ rates, (neighborhood.elim (.ok (none, none, none)) fun found =>
      expectedRates casefold found expected) = .ok rates ∧
      Admitted rates.1 ∧ Admitted rates.2.1 ∧ Admitted rates.2.2 := by
    cases neighborhood with
    | none => exact ⟨(none, none, none), rfl, nofun, nofun, nofun⟩
    | some neighborhood => exact expectedRates_returns casefold neighborhood expected
  obtain ⟨rates, hrates, hentity, hrelationship, hpath⟩ := hrates
  obtain ⟨provenance, hprovenance, hadmitted⟩ :=
    passRate_returns ((deduplicateEvidence evidence).map (tracesEvidence corpus) ++
      (neighborhood.elim [] GraphNeighborhood.relationships).map
        (tracesRelationship casefold benchmarkRelationships))
  rw [hrates, except_ok_bind]
  dsimp only
  rw [hprovenance, except_ok_bind]
  exact GraphMetrics.create_returns hentity hrelationship hpath hadmitted

/-- An average of rates is a rate. -/
theorem average_admitted (values : List (Option Rate)) : Admitted (average values) := by
  unfold average
  dsimp only
  split
  · exact nofun
  · rename_i hne
    rintro _ ⟨⟩
    have hrates : ∀ x ∈ values.reduceOption.map Subtype.val, (0 : ℚ) ≤ x ∧ x ≤ 1 := by
      intro x hx
      obtain ⟨rate, -, rfl⟩ := List.mem_map.mp hx
      exact rate.property
    have hsum := List.sum_le_card_nsmul _ 1 fun x hx => (hrates x hx).2
    rw [nsmul_one] at hsum
    exact ⟨div_nonneg (List.sum_nonneg fun x hx => (hrates x hx).1) (Nat.cast_nonneg _),
      div_le_one_of_le₀ hsum (Nat.cast_nonneg _)⟩

/-- Every list of results has aggregate metrics. -/
theorem aggregateCaseResults_returns (results : List CaseEvaluationResult) :
    ∃ metrics, aggregateCaseResults results = .ok metrics := by
  unfold aggregateCaseResults
  dsimp only
  obtain ⟨retrieval, hretrieval⟩ := RetrievalMetrics.create_returns
    (average_admitted _) (average_admitted _) (average_admitted _) (average_admitted _)
    (average_admitted _)
  obtain ⟨graph, hgraph⟩ := GraphMetrics.create_returns
    (average_admitted _) (average_admitted _) (average_admitted _) (average_admitted _)
  rw [hretrieval, except_ok_bind, hgraph, except_ok_bind]
  exact ⟨_, rfl⟩

/-- A case has retrieval metrics if no document has two chunks among the evidence. -/
theorem calculateRetrievalMetrics_returns {evidence : List RetrievedEvidence}
    {expected : EvaluationExpectedEvidence} {k : ℕ} (negative : Bool)
    (hdocuments : expected.documentIds.Nodup) (hchunks : expected.chunkIds.Nodup) (hk : 1 ≤ k)
    (hone : ∀ a ∈ evidence, ∀ b ∈ evidence, a.documentId = b.documentId → a.chunkId = b.chunkId) :
    ∃ metrics, calculateRetrievalMetrics evidence expected k negative = .ok metrics := by
  cases negative with
  | true => exact calculateRetrievalMetrics_negative evidence expected hk
  | false =>
    by_cases hempty : expected.ids = []
    · exact ⟨{}, calculateRetrievalMetrics_undefined hk hempty⟩
    have hids : expected.ids.Nodup := by
      unfold EvaluationExpectedEvidence.ids
      split
      · exact hchunks
      · exact hdocuments
    have hchunk : OneChunkEach expected (evidence.take k) := fun a b ha hb hsame _ =>
      hone a (List.mem_of_mem_take (getBy_mem ha).1) b (List.mem_of_mem_take (getBy_mem hb).1) hsame
    obtain ⟨metrics, hmetrics, -⟩ :=
      meetsDefinitions_of_nodup hids hk hempty (nodup_relevantIds_iff.mpr (.inr hchunk))
    exact ⟨metrics, hmetrics⟩

/-! ## The levels of the neighborhood -/

/-- Whether an expected path is found: it is no longer than the number of levels, and all its steps
are among the relationships. -/
def findsPath (casefold : Str → Str) (neighborhood : GraphNeighborhood) (levels : ℕ)
    (path : ExpectedGraphPath) : Bool :=
  path.relationships.length ≤ levels ∧ ∀ step ∈ path.relationships, step.key casefold ∈
    (neighborhood.relationships.map (GraphRelationshipResult.key casefold)).toFinset

/-- The rate of some checks is the share of those that are passed. -/
theorem passRate_map {α : Type} {items : List α} {check : α → Bool} (hne : items ≠ []) :
    passRate (items.map check) = .ok (some ((items.countP check : ℚ) / items.length)) := by
  have hcount : (items.map check).count true = items.countP check := by
    rw [List.count, List.countP_map]
    congr 1
    funext item
    exact beq_true (check item)
  unfold passRate
  rw [if_neg (by simpa using hne), divide_ok _ (by simpa using List.length_pos_of_ne_nil hne),
    hcount, List.length_map]
  rfl

/-- The rate of the paths is the share of those that are found. -/
theorem pathSuccess_eq {casefold : Str → Str} {neighborhood : GraphNeighborhood}
    {evidence : List RetrievedEvidence} {expected : EvaluationExpectedEvidence.WithGraph}
    {corpus : List BenchmarkDocument} {benchmarkRelationships : List BenchmarkRelationship}
    {metrics : GraphMetrics} (hpaths : expected.paths ≠ [])
    (h : calculateGraphMetrics casefold (some neighborhood) evidence expected corpus
      benchmarkRelationships = .ok metrics) :
    metrics.pathSuccess.map Subtype.val =
      some ((expected.paths.countP (findsPath casefold neighborhood neighborhood.depthUsed) : ℚ) /
        expected.paths.length) := by
  unfold calculateGraphMetrics at h
  obtain ⟨rates, hrates, h⟩ := except_bind_eq_ok.mp h
  obtain ⟨provenance, -, h⟩ := except_bind_eq_ok.mp h
  obtain ⟨entity, -, h⟩ := except_bind_eq_ok.mp h
  obtain ⟨relationship, -, h⟩ := except_bind_eq_ok.mp h
  obtain ⟨path, hpath, h⟩ := except_bind_eq_ok.mp h
  obtain ⟨coverage, -, h⟩ := except_bind_eq_ok.mp h
  cases h
  rw [Rate.createOptional_eq_ok hpath]
  change expectedRates casefold neighborhood expected = .ok rates at hrates
  unfold expectedRates at hrates
  obtain ⟨entityRate, -, hrates⟩ := except_bind_eq_ok.mp hrates
  obtain ⟨relationshipRate, -, hrates⟩ := except_bind_eq_ok.mp hrates
  obtain ⟨pathRate, hpathRate, hrates⟩ := except_bind_eq_ok.mp hrates
  cases hrates
  exact (Except.ok.inj ((passRate_map hpaths).symm.trans hpathRate)).symm

/-- The number of levels bounds the distances of the returned entities. Unless a level was cut, it
is one more than the largest of these distances, but at most the requested depth, and zero if no
seed has a qualifying relationship. The retrieval record reports it, and of the expected paths those
that are longer count as not found. -/
theorem GraphStore.depthUsed_eq_levels (store : GraphStore) (seedEntityIds : List UUID)
    (maxDepth maxEntities : ℕ) (minConfidence : ℚ) :
    (∀ e ∈ (store.getNeighborhood seedEntityIds maxDepth maxEntities minConfidence).entities,
        relationshipGraph.Within
          (store.getNeighborhood seedEntityIds maxDepth maxEntities minConfidence).relationships
          (seedSet seedEntityIds maxEntities)
          (store.getNeighborhood seedEntityIds maxDepth maxEntities minConfidence).depthUsed
          e.id) ∧
      (store.Uncut seedEntityIds maxDepth maxEntities minConfidence →
        ∃ hops, relationshipGraph.Farthest
            (store.getNeighborhood seedEntityIds maxDepth maxEntities minConfidence).relationships
            (seedSet seedEntityIds maxEntities)
            ((store.getNeighborhood seedEntityIds maxDepth maxEntities
              minConfidence).entities.map KnowledgeEntityModel.id) hops ∧
          ((∃ r ∈ store.qualifyingRelationships minConfidence,
              ∃ id ∈ seedSet seedEntityIds maxEntities, relationshipGraph.Touches r id) →
            (store.getNeighborhood seedEntityIds maxDepth maxEntities minConfidence).depthUsed =
              min (hops + 1) maxDepth) ∧
          ((¬ ∃ r ∈ store.qualifyingRelationships minConfidence,
              ∃ id ∈ seedSet seedEntityIds maxEntities, relationshipGraph.Touches r id) →
            (store.getNeighborhood seedEntityIds maxDepth maxEntities
              minConfidence).depthUsed = 0)) ∧
      ∀ traversal query result,
        store.traversalData seedEntityIds maxDepth maxEntities minConfidence = .ok traversal →
        traversal.toNeighborhood query = .ok result →
        (∀ vectorEvidence vectorError graphError,
          (hybridMetadata vectorEvidence vectorError result graphError).graphDepthUsed =
            (store.getNeighborhood seedEntityIds maxDepth maxEntities minConfidence).depthUsed) ∧
        ∀ casefold evidence (expected : EvaluationExpectedEvidence.WithGraph) corpus
          benchmarkRelationships metrics, expected.paths ≠ [] →
          calculateGraphMetrics casefold (some result) evidence expected corpus
            benchmarkRelationships = .ok metrics →
          metrics.pathSuccess.map Subtype.val =
            some ((expected.paths.countP (findsPath casefold result (store.getNeighborhood
              seedEntityIds maxDepth maxEntities minConfidence).depthUsed) : ℚ) /
              expected.paths.length) := by
  obtain ⟨hwithin, hlevels⟩ := store.getNeighborhood_levels seedEntityIds maxDepth maxEntities
    minConfidence
  refine ⟨hwithin, hlevels, fun traversal query result htraversal hresult => ?_⟩
  have hused := result_depthUsed htraversal hresult
  refine ⟨fun _ _ _ => hused, ?_⟩
  intro casefold evidence expected corpus benchmarkRelationships metrics hpaths hmetrics
  rw [pathSuccess_eq hpaths hmetrics, hused]

end AssessmentPlatform
