import AssessmentPlatform.Evaluation.CaseMetrics
import AssessmentPlatform.Evaluation.Fixtures
import AssessmentPlatform.KnowledgeGraph.Hybrid

/-!
# The deterministic runner

A runner goes through the cases of a dataset in one mode. With the fixture services it completes,
and evaluates every case on its own fixture, exactly if the fixtures that the services find are
those of the cases, the relationships have exact names, and no chunk is repeated in the graph
evidence alone.
-/

namespace AssessmentPlatform

open Library

/-! ## The source -/

/-- Retrieval settings of a run. -/
structure EvaluationConfiguration where
  embeddingModel : Str
  embeddingDimensions : ℕ
  topK : ℕ
  similarityThreshold : ℚ
  chunkSize : ℕ
  chunkOverlap : ℕ
  graphMaxDepth : ℕ
  graphMinConfidence : ℚ
  graphMaxEntities : ℕ
  embeddingDimensions_pos : 1 ≤ embeddingDimensions
  topK_pos : 1 ≤ topK
  similarityThreshold_bounds : -1 ≤ similarityThreshold ∧ similarityThreshold ≤ 1
  chunkSize_pos : 1 ≤ chunkSize
  graphMaxDepth_bounds : 1 ≤ graphMaxDepth ∧ graphMaxDepth ≤ 5
  graphMinConfidence_bounds : 0 ≤ graphMinConfidence ∧ graphMinConfidence ≤ 1
  graphMaxEntities_pos : 1 ≤ graphMaxEntities

/-- The report of one mode. -/
structure EvaluationReport where
  executionProfile : Str
  evaluationMode : EvaluationMode
  datasetId : Str
  datasetVersion : Str
  synthetic : Bool
  totalCases : ℤ
  evaluatedCases : ℤ
  skippedCases : List EvaluationId
  configuration : EvaluationConfiguration
  cases : List CaseEvaluationResult
  aggregateMetrics : AggregateMetrics
  warnings : List Str
  totalCases_pos : 1 ≤ totalCases
  evaluatedCases_nonneg : 0 ≤ evaluatedCases

/-- A runner with its services. -/
structure EvaluationRunner (casefold : Str → Str) where
  dataset : EvaluationDataset casefold
  vector : Str → Option ℕ → Except Failure (List RetrievedEvidence)
  graph : Str → Option ℕ → Except Failure GraphNeighborhood
  hybrid : Str → Option ℕ → Option ℕ → Except Failure HybridRetrievalResult
  configuration : EvaluationConfiguration
  executionProfile : Str

namespace EvaluationRunner

variable {casefold : Str → Str} (runner : EvaluationRunner casefold)

/-- The evidence and the neighborhood that `_run_case` retrieves. -/
def retrieve (mode : EvaluationMode) (case : EvaluationCase) :
    Except Failure (List RetrievedEvidence × Option GraphNeighborhood) :=
  match mode with
  | .vector => do
    let evidence ← runner.vector case.query (some runner.configuration.topK)
    return (evidence, none)
  | .graph => do
    let neighborhood ← runner.graph case.query (some runner.configuration.graphMaxDepth)
    return (neighborhood.evidence, some neighborhood)
  | .hybrid => do
    let result ← runner.hybrid case.query (some runner.configuration.topK)
      (some runner.configuration.graphMaxDepth)
    return (result.evidence, some result.neighborhood)

/-- The result of `_run_case` for what has been retrieved. -/
def evaluate (case : EvaluationCase) (evidence : List RetrievedEvidence)
    (neighborhood : Option GraphNeighborhood) : Except Failure CaseEvaluationResult := do
  let retrievalMetrics ← calculateRetrievalMetrics evidence
    case.expected.toEvaluationExpectedEvidence runner.configuration.topK
    (case.queryType = .negativeNoAnswer)
  let graphMetrics ← calculateGraphMetrics casefold neighborhood evidence case.expected
    runner.dataset.documents runner.dataset.relationships
  let retrievedRelationships ←
    (neighborhood.elim [] GraphNeighborhood.relationships).mapM RelationshipObservation.create
  return {
    queryId := case.queryId
    queryType := case.queryType
    retrievedEvidence := evidence.map RetrievedEvidence.observation
    retrievedEntities := (neighborhood.elim [] fun found =>
      found.matchedEntities ++ found.relatedEntities).map GraphEntityResult.canonicalName
    retrievedRelationships
    retrievalMetrics
    graphMetrics
    evidenceOriginMix := evidenceOriginMix evidence }

/-- The result of a case to which a mode does not apply. -/
def skip (mode : EvaluationMode) (case : EvaluationCase) : CaseEvaluationResult where
  queryId := case.queryId
  queryType := case.queryType
  skipped := true
  skipReason :=
    some (mode.value ++ Str.ofString " mode is not applicable to this benchmark case")
  retrievalMetrics := {}
  graphMetrics := {}

/-- `_run_case`. -/
def runCase (mode : EvaluationMode) (case : EvaluationCase) :
    Except Failure CaseEvaluationResult :=
  if mode ∉ case.modes then .ok (skip mode case)
  else do
    let (evidence, neighborhood) ← runner.retrieve mode case
    runner.evaluate case evidence neighborhood

/-- `run`. -/
def run (mode : EvaluationMode) : Except Failure EvaluationReport := do
  let results ← runner.dataset.cases.mapM (runner.runCase mode)
  let skipped := (results.filter CaseEvaluationResult.skipped).map CaseEvaluationResult.queryId
  let aggregateMetrics ← aggregateCaseResults results
  if h : (1 : ℤ) ≤ results.length ∧ (0 : ℤ) ≤ results.length - skipped.length then
    return {
      executionProfile := runner.executionProfile
      evaluationMode := mode
      datasetId := runner.dataset.datasetId
      datasetVersion := runner.dataset.version
      synthetic := runner.dataset.synthetic
      totalCases := results.length
      evaluatedCases := results.length - skipped.length
      skippedCases := skipped
      configuration := runner.configuration
      cases := results
      aggregateMetrics
      warnings :=
        ["Synthetic deterministic fixture results; not live retrieval-quality metrics.",
          "Live OpenAI/PostgreSQL evaluation was not requested and was skipped."]
      totalCases_pos := h.1
      evaluatedCases_nonneg := h.2 }
  else throw .value

end EvaluationRunner

/-- `build_deterministic_runner`, with the configuration that the settings give. -/
def buildDeterministicRunner {casefold : Str → Str} (dataset : EvaluationDataset casefold)
    (configuration : EvaluationConfiguration) : EvaluationRunner casefold where
  dataset := dataset
  vector := DeterministicVectorRetrieval.search dataset
  graph := DeterministicGraphRetrieval.search dataset
  hybrid query topK maxDepth := hybridSearch query
    (DeterministicVectorRetrieval.search dataset query topK)
    (DeterministicGraphRetrieval.search dataset query maxDepth)
  configuration := configuration
  executionProfile := "deterministic_fixture"

/-! ## Cases on their own fixtures -/

section OwnFixtures

variable {casefold : Str → Str} (dataset : EvaluationDataset casefold)
  (configuration : EvaluationConfiguration)

/-- The retrieved evidence and neighborhood are those of the fixture of the case, within the limits
of the configuration. -/
inductive EvaluationCase.Observes (case : EvaluationCase) :
    EvaluationMode → List RetrievedEvidence → Option GraphNeighborhood → Prop
  | vector {evidence : List RetrievedEvidence}
      (hvector : evidence.map RetrievedEvidence.chunkId =
        case.fixture.vectorChunkIds.take configuration.topK) :
      Observes case .vector evidence none
  | graph {neighborhood : GraphNeighborhood}
      (hgraph : neighborhood.Shows (case.fixture.graph.within configuration.graphMaxDepth)) :
      Observes case .graph neighborhood.evidence (some neighborhood)
  | hybrid {evidence : List RetrievedEvidence} {neighborhood : GraphNeighborhood}
      (hsearch : DeterministicVectorRetrieval.search dataset case.query
        (some configuration.topK) = .ok evidence)
      (hvector : evidence.map RetrievedEvidence.chunkId =
        case.fixture.vectorChunkIds.take configuration.topK)
      (hgraph : neighborhood.Shows (case.fixture.graph.within configuration.graphMaxDepth)) :
      Observes case .hybrid (mergeEvidence evidence neighborhood.evidence) (some neighborhood)

/-- The result is the evaluation of the case on its own fixture, and evidence has the label of both
paths only if both fixtures have its chunk. -/
structure OwnEvaluation (mode : EvaluationMode) (case : EvaluationCase)
    (result : CaseEvaluationResult) : Prop where
  evaluated : ∃ evidence neighborhood,
    (buildDeterministicRunner dataset configuration).retrieve mode case =
      .ok (evidence, neighborhood) ∧
    case.Observes dataset configuration mode evidence neighborhood ∧
    (∀ item ∈ evidence, item.retrievalSource = .both →
      item.chunkId ∈ case.fixture.vectorChunkIds ∧
        item.chunkId ∈ case.fixture.graph.evidenceChunkIds) ∧
    (buildDeterministicRunner dataset configuration).evaluate case evidence neighborhood =
      .ok result

/-- The run completes, and it reports on every case of the dataset, in their order, with an
evaluation on its own fixture where the mode applies to the case. -/
def EvaluatesOwnFixtures (mode : EvaluationMode) : Prop :=
  ∃ report, (buildDeterministicRunner dataset configuration).run mode = .ok report ∧
    List.Forall₂ (fun case result => result.queryId = case.queryId ∧
      (mode ∈ case.modes → OwnEvaluation dataset configuration mode case result))
      dataset.cases report.cases

/-- The last case with the text of the query lists what the case lists, as far as the mode and the
configuration look at it. The relationships that it lists for the graph have names that are those of
entities, letter by letter, and a chunk that the graph evidence of a hybrid run repeats is among the
chunks for the vector path. -/
structure EvaluationCase.Unambiguous (mode : EvaluationMode) (case : EvaluationCase) : Prop where
  vector : mode ≠ .graph →
    ∀ last ∈ (dataset.cases.filter fun other => other.query = case.query).getLast?,
      last.fixture.vectorChunkIds.take configuration.topK =
        case.fixture.vectorChunkIds.take configuration.topK
  graph : mode ≠ .vector →
    ∀ last ∈ (dataset.cases.filter fun other => other.query = case.query).getLast?,
      last.fixture.graph.within configuration.graphMaxDepth =
        case.fixture.graph.within configuration.graphMaxDepth
  names : mode ≠ .vector →
    ∀ id ∈ (case.fixture.graph.within configuration.graphMaxDepth).relationshipIds,
      dataset.ExactNames id
  repeated : mode = .hybrid → ∀ id,
    1 < (case.fixture.graph.within configuration.graphMaxDepth).evidenceChunkIds.count id →
      id ∈ case.fixture.vectorChunkIds

variable {dataset configuration} {mode : EvaluationMode} {case : EvaluationCase}

/-! ## Evaluation -/

/-- What comes from the corpus can be evaluated. -/
theorem evaluate_returns (configuration : EvaluationConfiguration)
    (neighborhood : Option GraphNeighborhood) (hcase : case ∈ dataset.cases)
    {evidence : List RetrievedEvidence}
    (hcorpus : ∀ item ∈ evidence, item.FromCorpus dataset.documents)
    (hnames : ∀ relationship ∈ neighborhood.elim [] GraphNeighborhood.relationships,
      relationship.sourceEntityName.Within 500 ∧ relationship.targetEntityName.Within 500) :
    ∃ result, (buildDeterministicRunner dataset configuration).evaluate case evidence
      neighborhood = .ok result ∧ result.queryId = case.queryId := by
  have hconsistent := dataset.case_consistent hcase
  have hone : ∀ a ∈ evidence, ∀ b ∈ evidence, a.documentId = b.documentId →
      a.chunkId = b.chunkId := by
    intro a ha b hb hsame
    obtain ⟨document, hdocument, hchunk, hid⟩ := hcorpus a ha
    obtain ⟨document', hdocument', hchunk', hid'⟩ := hcorpus b hb
    rw [hchunk, hchunk', dataset.eq_of_documentId hdocument hdocument'
      (hid.symm.trans (hsame.trans hid'))]
  obtain ⟨retrievalMetrics, hretrieval⟩ := calculateRetrievalMetrics_returns
    (case.queryType = .negativeNoAnswer) hconsistent.documentIds_nodup
    hconsistent.chunkIds_nodup configuration.topK_pos hone
  obtain ⟨graphMetrics, hgraph⟩ := calculateGraphMetrics_returns casefold neighborhood evidence
    case.expected dataset.documents dataset.relationships
  obtain ⟨relationships, hrelationships⟩ :
      ∃ relationships, (neighborhood.elim [] GraphNeighborhood.relationships).mapM
        RelationshipObservation.create = .ok relationships :=
    except_mapM_returns.mpr fun relationship hrelationship =>
      ⟨_, dif_pos (hnames relationship hrelationship)⟩
  unfold EvaluationRunner.evaluate buildDeterministicRunner
  dsimp only
  rw [hretrieval, except_ok_bind, hgraph, except_ok_bind, hrelationships, except_ok_bind]
  exact ⟨_, rfl, rfl⟩

/-- What the services find for a case: the last case with its query. -/
theorem exists_last (configuration : EvaluationConfiguration) (hcase : case ∈ dataset.cases) :
    ∃ last evidence, dataset.caseOf case.query = some last ∧
      (dataset.cases.filter fun other => other.query = case.query).getLast? = some last ∧
      DeterministicVectorRetrieval.search dataset case.query (some configuration.topK) =
        .ok evidence ∧
      evidence.map RetrievedEvidence.chunkId =
        last.fixture.vectorChunkIds.take configuration.topK ∧
      ∀ item ∈ evidence, item.FromCorpus dataset.documents ∧ item.retrievalSource = .vector := by
  obtain ⟨last, hlast⟩ := dataset.exists_caseOf hcase
  obtain ⟨evidence, hsearch, hids, hitems⟩ :=
    EvaluationDataset.vectorSearch_returns configuration.topK_pos hlast
  exact ⟨last, evidence, hlast, (dataset.caseOf_eq _).symm.trans hlast, hsearch, hids, hitems⟩

/-- A case whose neighborhood comes from the graph service. -/
theorem exists_neighborhood (hcase : case ∈ dataset.cases)
    (hgraph : ∀ last ∈ (dataset.cases.filter fun other => other.query = case.query).getLast?,
      last.fixture.graph.within configuration.graphMaxDepth =
        case.fixture.graph.within configuration.graphMaxDepth)
    (hnames : ∀ id ∈ (case.fixture.graph.within configuration.graphMaxDepth).relationshipIds,
      dataset.ExactNames id) :
    ∃ neighborhood, DeterministicGraphRetrieval.search dataset case.query
        (some configuration.graphMaxDepth) = .ok neighborhood ∧
      GraphNeighborhood.BuiltFrom dataset
        (case.fixture.graph.within configuration.graphMaxDepth) neighborhood := by
  obtain ⟨last, hlast⟩ := dataset.exists_caseOf hcase
  rw [EvaluationDataset.graphSearch_eq _ hlast,
    hgraph last ((dataset.caseOf_eq _).symm.trans hlast)]
  obtain ⟨neighborhood, hneighborhood⟩ := EvaluationDataset.fixtureNeighborhood_returns
    case.query_within (EvaluationDataset.fixture_known hcase configuration.graphMaxDepth) hnames
  exact ⟨neighborhood, hneighborhood, EvaluationDataset.fixtureNeighborhood_eq_ok hneighborhood⟩

/-- The vector mode retrieves what the vector search finds, and no neighborhood. -/
theorem retrieve_vector {evidence : List RetrievedEvidence}
    {neighborhood : Option GraphNeighborhood} :
    (buildDeterministicRunner dataset configuration).retrieve .vector case =
        .ok (evidence, neighborhood) ↔
      DeterministicVectorRetrieval.search dataset case.query (some configuration.topK) =
        .ok evidence ∧ neighborhood = none := by
  refine except_bind_eq_ok.trans ⟨?_, ?_⟩
  · rintro ⟨found, hfound, hresult⟩
    cases hresult
    exact ⟨hfound, rfl⟩
  · rintro ⟨hsearch, rfl⟩
    exact ⟨evidence, hsearch, rfl⟩

/-- The graph mode retrieves the neighborhood that the graph search finds, with its evidence. -/
theorem retrieve_graph {evidence : List RetrievedEvidence}
    {neighborhood : Option GraphNeighborhood} :
    (buildDeterministicRunner dataset configuration).retrieve .graph case =
        .ok (evidence, neighborhood) ↔
      ∃ found, DeterministicGraphRetrieval.search dataset case.query
        (some configuration.graphMaxDepth) = .ok found ∧
        evidence = found.evidence ∧ neighborhood = some found := by
  refine except_bind_eq_ok.trans (exists_congr fun found => and_congr_right fun _ => ?_)
  constructor
  · intro hresult
    cases hresult
    exact ⟨rfl, rfl⟩
  · rintro ⟨rfl, rfl⟩
    rfl

/-- A hybrid case gets what both services return, since the graph service raises nothing that the
hybrid search expects. -/
theorem retrieve_hybrid (hcase : case ∈ dataset.cases) {evidence : List RetrievedEvidence}
    {neighborhood : Option GraphNeighborhood} :
    (buildDeterministicRunner dataset configuration).retrieve .hybrid case =
        .ok (evidence, neighborhood) ↔
      ∃ vector found, DeterministicVectorRetrieval.search dataset case.query
          (some configuration.topK) = .ok vector ∧
        DeterministicGraphRetrieval.search dataset case.query
          (some configuration.graphMaxDepth) = .ok found ∧
        evidence = mergeEvidence vector found.evidence ∧ neighborhood = some found := by
  obtain ⟨last, vector, hcaseOf, -, hsearch, -⟩ := exists_last configuration hcase
  have hunanticipated : Unanticipated (DeterministicGraphRetrieval.search dataset case.query
      (some configuration.graphMaxDepth)) := by
    rw [EvaluationDataset.graphSearch_eq _ hcaseOf]
    exact EvaluationDataset.fixtureNeighborhood_unanticipated _ _
  change (hybridSearch case.query (DeterministicVectorRetrieval.search dataset case.query
    (some configuration.topK)) (DeterministicGraphRetrieval.search dataset case.query
      (some configuration.graphMaxDepth)) >>= _) = _ ↔ _
  rw [hsearch]
  cases hgraph : DeterministicGraphRetrieval.search dataset case.query
      (some configuration.graphMaxDepth) with
  | ok found =>
    constructor
    · intro hresult
      cases hresult
      exact ⟨vector, found, rfl, rfl, rfl, rfl⟩
    · rintro ⟨_, _, ⟨⟩, ⟨⟩, rfl, rfl⟩
      rfl
  | error e =>
    refine iff_of_false ?_ (by rintro ⟨_, _, _, ⟨⟩, _⟩)
    cases e with
    | application error => exact absurd hgraph (hunanticipated error)
    | database | value | other => exact nofun

/-! ## When a case is evaluated on its own fixture -/

/-- A chunk of both labels is in both fixtures. -/
theorem merged_labels {vector : List RetrievedEvidence} {neighborhood : GraphNeighborhood}
    (hvector : vector.map RetrievedEvidence.chunkId =
      case.fixture.vectorChunkIds.take configuration.topK)
    (hgraph : neighborhood.Shows (case.fixture.graph.within configuration.graphMaxDepth))
    (hrepeated : ∀ id,
      1 < (case.fixture.graph.within configuration.graphMaxDepth).evidenceChunkIds.count id →
        id ∈ case.fixture.vectorChunkIds) :
    ∀ item ∈ mergeEvidence vector neighborhood.evidence, item.retrievalSource = .both →
      item.chunkId ∈ case.fixture.vectorChunkIds ∧
        item.chunkId ∈ case.fixture.graph.evidenceChunkIds := by
  intro item hitem hboth
  obtain ⟨source, -, heq⟩ := mem_mergeEvidence_origin hitem
  have horigin : mergedOrigin vector neighborhood.evidence item.chunkId = .both :=
    (congrArg RetrievedEvidence.retrievalSource heq).symm.trans hboth
  unfold mergedOrigin at horigin
  rw [hvector, hgraph.evidence] at horigin
  have hwithin : ∀ id, id ∈
      (case.fixture.graph.within configuration.graphMaxDepth).evidenceChunkIds →
      id ∈ case.fixture.graph.evidenceChunkIds := by
    intro id hid
    unfold FixtureGraphResult.within at hid
    split at hid
    · cases hid
    · exact hid
  split_ifs at horigin with hfound hshared hcount
  · exact ⟨List.mem_of_mem_take hfound, hwithin _ hshared⟩
  · exact ⟨hrepeated _ hcount, hwithin _ (List.count_pos_iff.mp (by omega))⟩

/-- An unambiguous case is evaluated on its own fixture. -/
theorem EvaluationCase.Unambiguous.evaluated (h : case.Unambiguous dataset configuration mode)
    (hcase : case ∈ dataset.cases) :
    ∃ result, OwnEvaluation dataset configuration mode case result ∧
      result.queryId = case.queryId := by
  obtain ⟨last, evidence, -, hlast, hsearch, hids, hitems⟩ :=
    exists_last configuration hcase
  cases mode with
  | vector =>
    rw [h.vector nofun last hlast] at hids
    obtain ⟨result, hresult, hid⟩ := evaluate_returns configuration none hcase
      (fun item hitem => (hitems item hitem).1) nofun
    refine ⟨result, ⟨evidence, none, ?_, .vector hids, fun item hitem hboth => ?_, hresult⟩, hid⟩
    · exact retrieve_vector.mpr ⟨hsearch, rfl⟩
    · rw [(hitems item hitem).2] at hboth
      cases hboth
  | graph =>
    obtain ⟨neighborhood, hneighborhood, hbuilt⟩ :=
      exists_neighborhood hcase (h.graph nofun) (h.names nofun)
    obtain ⟨result, hresult, hid⟩ := evaluate_returns configuration (some neighborhood)
      hcase (fun item hitem => (hbuilt.evidence item hitem).1) hbuilt.names_within
    refine ⟨result, ⟨_, _, ?_, .graph hbuilt.shows, fun item hitem hboth => ?_, hresult⟩, hid⟩
    · exact retrieve_graph.mpr ⟨neighborhood, hneighborhood, rfl, rfl⟩
    · rw [(hbuilt.evidence item hitem).2] at hboth
      cases hboth
  | hybrid =>
    rw [h.vector nofun last hlast] at hids
    obtain ⟨neighborhood, hneighborhood, hbuilt⟩ :=
      exists_neighborhood hcase (h.graph nofun) (h.names nofun)
    have hcorpus : ∀ item ∈ mergeEvidence evidence neighborhood.evidence,
        item.FromCorpus dataset.documents := by
      intro item hitem
      obtain ⟨source, hsource, heq⟩ := mem_mergeEvidence_origin hitem
      have hfrom : source.FromCorpus dataset.documents := by
        split at hsource
        · exact (hitems source hsource).1
        · exact (hbuilt.evidence source hsource).1
      rw [heq]
      exact hfrom
    obtain ⟨result, hresult, hid⟩ := evaluate_returns configuration (some neighborhood) hcase
      hcorpus hbuilt.names_within
    refine ⟨result, ⟨_, _, ?_, .hybrid hsearch hids hbuilt.shows,
      merged_labels hids hbuilt.shows (h.repeated rfl), hresult⟩, hid⟩
    exact (retrieve_hybrid hcase).mpr ⟨evidence, neighborhood, hsearch, hneighborhood, rfl, rfl⟩

/-- A case that is evaluated on its own fixture is unambiguous. -/
theorem OwnEvaluation.unambiguous {result : CaseEvaluationResult}
    (h : OwnEvaluation dataset configuration mode case result) (hcase : case ∈ dataset.cases) :
    case.Unambiguous dataset configuration mode := by
  obtain ⟨last, evidence, hcaseOf, hlast, hsearch, hids, -⟩ := exists_last configuration hcase
  have hunique : ∀ other ∈
      (dataset.cases.filter fun other => other.query = case.query).getLast?, other = last := by
    intro other hother
    rw [hlast] at hother
    exact (Option.mem_some.mp hother).symm
  have hgraphSearch := EvaluationDataset.graphSearch_eq configuration.graphMaxDepth hcaseOf
  have hbuilt : ∀ found, DeterministicGraphRetrieval.search dataset case.query
      (some configuration.graphMaxDepth) = .ok found →
      found.BuiltFrom dataset (last.fixture.graph.within configuration.graphMaxDepth) := by
    intro found hfound
    rw [EvaluationDataset.graphSearch_eq _ hcaseOf] at hfound
    exact EvaluationDataset.fixtureNeighborhood_eq_ok hfound
  obtain ⟨retrieved, neighborhood, hretrieve, hobserves, hlabels, -⟩ := h.evaluated
  generalize hevidence : retrieved = items at hobserves
  generalize hneighborhood : neighborhood = shown at hobserves
  cases hobserves with
  | vector hvector =>
    obtain ⟨hfound, -⟩ := retrieve_vector.mp hretrieve
    rw [hsearch, hevidence] at hfound
    cases hfound
    refine ⟨fun _ other hother => ?_, fun hmode => absurd rfl hmode, fun hmode => absurd rfl hmode,
      nofun⟩
    rw [hunique other hother, ← hids, hvector]
  | @graph shown hgraph =>
    obtain ⟨found, hfound, -, hsame⟩ := retrieve_graph.mp hretrieve
    cases hneighborhood.symm.trans hsame
    have hfixture := (hbuilt shown hfound).shows.unique hgraph
    refine ⟨fun hmode => absurd rfl hmode, fun _ other hother => ?_, fun _ => ?_, nofun⟩
    · rw [hunique other hother, hfixture]
    · rw [← hfixture]
      exact (hbuilt shown hfound).names
  | @hybrid evidence' shown hvectorSearch hvector hgraph =>
    obtain ⟨vector, found, hvectorFound, hfound, hmerged, hsame⟩ :=
      (retrieve_hybrid hcase).mp hretrieve
    cases hneighborhood.symm.trans hsame
    cases hsearch.symm.trans hvectorSearch
    have hfixture := (hbuilt shown hfound).shows.unique hgraph
    refine ⟨fun _ other hother => ?_, fun _ other hother => ?_, fun _ => ?_, fun _ id hcount => ?_⟩
    · rw [hunique other hother, ← hids, hvector]
    · rw [hunique other hother, hfixture]
    · rw [← hfixture]
      exact (hbuilt shown hfound).names
    · rw [← hgraph.evidence] at hcount
      by_cases hid : id ∈ evidence.map RetrievedEvidence.chunkId
      · rw [hvector] at hid
        exact List.mem_of_mem_take hid
      · -- the merge finds the chunk twice on the graph path alone
        have hmem : id ∈ (mergeEvidence evidence shown.evidence).map RetrievedEvidence.chunkId :=
          mem_map_mergeEvidence.mpr (.inr (List.count_pos_iff.mp (by omega)))
        obtain ⟨item, hitem, rfl⟩ := List.mem_map.mp hmem
        obtain ⟨source, -, heq⟩ := mem_mergeEvidence_origin hitem
        refine (hlabels item (hevidence ▸ hitem) ?_).1
        rw [congrArg RetrievedEvidence.retrievalSource heq]
        simp only [mergedOrigin, if_neg hid, if_pos hcount]

/-! ## Runs -/

/-- The result of a case to which the mode applies. -/
theorem runCase_of_mem (hmode : mode ∈ case.modes) {result : CaseEvaluationResult} :
    (buildDeterministicRunner dataset configuration).runCase mode case = .ok result ↔
      ∃ evidence neighborhood,
        (buildDeterministicRunner dataset configuration).retrieve mode case =
          .ok (evidence, neighborhood) ∧
        (buildDeterministicRunner dataset configuration).evaluate case evidence neighborhood =
          .ok result := by
  unfold EvaluationRunner.runCase
  rw [if_neg (not_not.mpr hmode), except_bind_eq_ok]
  exact Prod.exists

/-- The evaluation of a case on its own fixture is the one that the runner makes. -/
theorem OwnEvaluation.runCase {result : CaseEvaluationResult}
    (h : OwnEvaluation dataset configuration mode case result) (hmode : mode ∈ case.modes) :
    (buildDeterministicRunner dataset configuration).runCase mode case = .ok result := by
  obtain ⟨evidence, neighborhood, hretrieve, -, -, hresult⟩ := h.evaluated
  exact (runCase_of_mem hmode).mpr ⟨evidence, neighborhood, hretrieve, hresult⟩

/-- The run completes if every case does, and it reports the results of the cases. -/
theorem run_eq_ok (runner : EvaluationRunner casefold) {results : List CaseEvaluationResult}
    (h : runner.dataset.cases.mapM (runner.runCase mode) = .ok results) :
    ∃ report, runner.run mode = .ok report ∧ report.cases = results := by
  obtain ⟨metrics, hmetrics⟩ := aggregateCaseResults_returns results
  have htotal : (1 : ℤ) ≤ results.length := by
    have hlength := (except_mapM_eq_ok.mp h).length_eq
    have hcases := List.length_pos_of_ne_nil runner.dataset.cases_ne_nil
    omega
  have hskipped : ((results.filter CaseEvaluationResult.skipped).map
      CaseEvaluationResult.queryId).length ≤ results.length := by
    rw [List.length_map]
    exact List.length_filter_le _ _
  unfold EvaluationRunner.run
  rw [h, except_ok_bind]
  dsimp only
  rw [hmetrics, except_ok_bind, dif_pos ⟨htotal, by omega⟩]
  exact ⟨_, rfl, rfl⟩

/-- A dataset whose cases are evaluated on their own fixtures is unambiguous. -/
theorem EvaluatesOwnFixtures.unambiguous (h : EvaluatesOwnFixtures dataset configuration mode) :
    ∀ case ∈ dataset.cases, mode ∈ case.modes →
      case.Unambiguous dataset configuration mode := by
  obtain ⟨report, -, hall⟩ := h
  intro case hcase hmode
  obtain ⟨result, -, -, hown⟩ := exists_of_forall₂ hall hcase
  exact (hown hmode).unambiguous hcase

/-- For every accepted dataset, configuration and mode: the run completes and evaluates every case
on its own fixture exactly if the cases to which the mode applies are unambiguous. -/
theorem evaluates_own_fixtures_iff (dataset : EvaluationDataset casefold)
    (configuration : EvaluationConfiguration) (mode : EvaluationMode) :
    EvaluatesOwnFixtures dataset configuration mode ↔
      ∀ case ∈ dataset.cases, mode ∈ case.modes →
        case.Unambiguous dataset configuration mode := by
  refine ⟨EvaluatesOwnFixtures.unambiguous, fun h => ?_⟩
  have hcases : ∀ case ∈ dataset.cases, ∃ result,
      (buildDeterministicRunner dataset configuration).runCase mode case = .ok result ∧
      result.queryId = case.queryId ∧
      (mode ∈ case.modes → OwnEvaluation dataset configuration mode case result) := by
    intro case hcase
    by_cases hmode : mode ∈ case.modes
    · obtain ⟨result, hown, hid⟩ := (h case hcase hmode).evaluated hcase
      exact ⟨result, hown.runCase hmode, hid, fun _ => hown⟩
    · exact ⟨EvaluationRunner.skip mode case, if_pos hmode, rfl, fun hmem => absurd hmem hmode⟩
  obtain ⟨results, hresults⟩ := except_mapM_returns.mpr fun case hcase =>
    (hcases case hcase).imp fun _ hresult => hresult.1
  obtain ⟨report, hreport, rfl⟩ := run_eq_ok _ hresults
  refine ⟨report, hreport, ?_⟩
  have hall := (List.forall₂_and_left _ _).mpr ⟨fun case hcase => hcases case hcase,
    except_mapM_eq_ok.mp hresults⟩
  refine hall.imp ?_
  rintro case result ⟨⟨other, hother, hown⟩, hresult⟩
  cases hother.symm.trans hresult
  exact hown

end OwnFixtures

/-! ## An ambiguous dataset -/

/-- How names of ASCII letters are compared. -/
def lowerAscii (s : Str) : Str := s.map fun c => if 65 ≤ c.val ∧ c.val ≤ 90 then c + 32 else c

/-- A document of the ambiguous dataset. -/
def ambiguousDocument (documentId : UUID) : BenchmarkDocument where
  documentId := documentId
  chunkId := 10 + documentId
  title := "Policy"
  content := "text"
  title_within := by decide +kernel
  content_accepted := by decide +kernel

/-- A case of the ambiguous dataset. -/
def ambiguousCase (queryId : EvaluationId) (query : Str) (hquery : query.Within 4000)
    (mode : EvaluationMode) (fixture : FixtureRetrievalResult) : EvaluationCase where
  queryId := queryId
  query := query
  queryType := .policyLookup
  modes := {mode}
  expected := {}
  fixture := fixture
  query_within := hquery
  modes_nonempty := Finset.singleton_nonempty mode

/-- Two cases for the vector path with one query, a case for the graph path with a relationship of
`alpha` to an entity `Beta` where the entity is called `Alpha`, and a case for both paths that
repeats a chunk of the graph. -/
def ambiguousDataset : EvaluationDataset lowerAscii where
  datasetId := "ambiguous"
  version := "1"
  synthetic := true
  documents := [ambiguousDocument 1, ambiguousDocument 2]
  entities :=
    [{ entityId := 1, canonicalName := "Alpha", entityType := .system
       canonicalName_within := by decide +kernel },
     { entityId := 2, canonicalName := "Beta", entityType := .system
       canonicalName_within := by decide +kernel }]
  relationships :=
    [{ sourceEntity := "alpha", relationshipType := .uses, targetEntity := "Beta"
       sourceEntity_within := by decide +kernel
       targetEntity_within := by decide +kernel
       relationshipId := 1, sourceDocumentId := 1, sourceChunkId := 11 }]
  cases :=
    [ambiguousCase ⟨"first", by decide +kernel⟩ "Who owns it?" (by decide +kernel) .vector
       { vectorChunkIds := [11], graph := { depthUsed_le := noHops_le } },
     ambiguousCase ⟨"second", by decide +kernel⟩ "Who owns it?" (by decide +kernel) .vector
       { vectorChunkIds := [12], graph := { depthUsed_le := noHops_le } },
     ambiguousCase ⟨"third", by decide +kernel⟩ "What does Alpha use?" (by decide +kernel) .graph
       { graph := { relationshipIds := [1], evidenceChunkIds := [11], depthUsed := 1 } },
     ambiguousCase ⟨"fourth", by decide +kernel⟩ "What is Alpha?" (by decide +kernel) .hybrid
       { graph :=
           { evidenceChunkIds := [11, 11], depthUsed_le := noHops_le } }]
  datasetId_within := by decide +kernel
  version_within := by decide +kernel
  documents_ne_nil := List.cons_ne_nil _ _
  cases_ne_nil := List.cons_ne_nil _ _
  accepted := by decide +kernel

/-- The settings by default. -/
def defaultConfiguration : EvaluationConfiguration where
  embeddingModel := "text-embedding-3-small"
  embeddingDimensions := 1536
  topK := 5
  similarityThreshold := 7 / 20
  chunkSize := 1200
  chunkOverlap := 200
  graphMaxDepth := 2
  graphMinConfidence := 1 / 2
  graphMaxEntities := 20
  embeddingDimensions_pos := by decide
  topK_pos := by decide
  similarityThreshold_bounds := by decide +kernel
  chunkSize_pos := by decide
  graphMaxDepth_bounds := by decide
  graphMinConfidence_bounds := by decide +kernel
  graphMaxEntities_pos := by decide

/-- The runner of the ambiguous dataset. -/
def ambiguousRunner : EvaluationRunner lowerAscii :=
  buildDeterministicRunner ambiguousDataset defaultConfiguration

/-- In each mode another case is not evaluated on its own fixture: the first one gets the chunk of
the second, the third one raises, and the fourth one gets a chunk with the label of both paths. -/
theorem ambiguous_cases_mixed_up :
    ((ambiguousRunner.run .vector).map fun report =>
      report.cases.map fun result => result.retrievedEvidence.map EvidenceObservation.chunkId) =
        .ok [[12], [12], [], []] ∧
    ((ambiguousRunner.run .graph).map fun _ => ()) = .error .other ∧
    ((ambiguousRunner.run .hybrid).map fun report =>
      report.cases.map fun result => result.retrievedEvidence.map fun item =>
        (item.chunkId, item.retrievalOrigin)) = .ok [[], [], [], [(11, .both)]] ∧
    ∀ mode, ¬EvaluatesOwnFixtures ambiguousDataset defaultConfiguration mode := by
  refine ⟨by decide +kernel, by decide +kernel, by decide +kernel, fun mode h => ?_⟩
  have hcase := h.unambiguous
  cases mode with
  | vector =>
    have hsame := (hcase _ List.mem_cons_self (Finset.mem_singleton_self _)).vector nofun _ rfl
    exact absurd hsame (by decide)
  | graph =>
    have hnames := (hcase _ (List.mem_of_getElem? (i := 2) rfl) (Finset.mem_singleton_self _)).names
      nofun 1 (by decide) _ rfl
    exact absurd hnames.1 (by decide +kernel)
  | hybrid =>
    have hvector := (hcase _ (List.mem_of_getElem? (i := 3) rfl)
      (Finset.mem_singleton_self _)).repeated rfl 11 (by decide)
    exact nomatch hvector

end AssessmentPlatform
