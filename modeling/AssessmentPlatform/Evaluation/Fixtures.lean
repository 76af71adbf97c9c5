import AssessmentPlatform.Evaluation.Dataset

/-!
# Retrieval from fixtures

The services that answer a query with the fixture of a case of the dataset. They find the case by
the text of its query, where a later case replaces an earlier one, and the entities of a
relationship by their exact names.
-/

namespace AssessmentPlatform

open Library

/-! ## The services -/

/-- The value of a lookup that raises if there is none. -/
def orRaise {α : Type} : Option α → Except Failure α
  | some a => .ok a
  | none => .error .other

/-- `_evidence`. -/
def BenchmarkDocument.evidence (document : BenchmarkDocument) (rank : ℕ)
    (origin : RetrievalSource) : RetrievedEvidence where
  chunkId := document.chunkId
  documentId := document.documentId
  documentTitle := document.title
  content := document.content
  similarityScore := if origin = .vector then some (max 0 (1 - (rank - 1) * (1 / 20))) else none
  sourceType := .synthetic
  retrievalSource := origin

namespace EvaluationDataset

variable {casefold : Str → Str} (dataset : EvaluationDataset casefold)

/-- The case of a query. -/
def caseOf (query : Str) : Option EvaluationCase :=
  getBy EvaluationCase.query query (dictBy EvaluationCase.query dataset.cases)

/-- The evidence of a chunk with its rank. -/
def chunkEvidence (origin : RetrievalSource) (item : UUID × ℕ) :
    Except Failure RetrievedEvidence := do
  let document ← orRaise (dataset.chunkOf item.1)
  return document.evidence item.2 origin

/-- The first entity with a name. -/
def entityNamed (name : Str) : Option BenchmarkEntity :=
  (dictBy BenchmarkEntity.entityId dataset.entities).find? fun entity =>
    entity.canonicalName = name

/-- `_entity`. -/
def entityResult (id : UUID) : Except Failure GraphEntityResult := do
  let item ← orRaise (dataset.entityOf id)
  return {
    entityId := item.entityId
    entityType := item.entityType
    canonicalName := item.canonicalName
    normalizedName := casefold item.canonicalName }

/-- The body of the loop over the relationships of a fixture. -/
def relationshipResult (id : UUID) : Except Failure GraphRelationshipResult := do
  let item ← orRaise (dataset.relationshipOf id)
  let source ← orRaise (dataset.entityNamed item.sourceEntity)
  let target ← orRaise (dataset.entityNamed item.targetEntity)
  return {
    relationshipId := item.relationshipId
    sourceEntityId := source.entityId
    sourceEntityName := source.canonicalName
    targetEntityId := target.entityId
    targetEntityName := target.canonicalName
    relationshipType := item.relationshipType
    confidence := 1
    sourceDocumentId := item.sourceDocumentId
    sourceChunkId := item.sourceChunkId }

/-- The neighborhood of a fixture. -/
def fixtureNeighborhood (query : Str) (fixture : FixtureGraphResult) :
    Except Failure GraphNeighborhood := do
  let evidence ← (fixture.evidenceChunkIds.zipIdx 1).mapM (dataset.chunkEvidence .graph)
  let relationships ← fixture.relationshipIds.mapM dataset.relationshipResult
  let matchedEntities ← fixture.matchedEntityIds.mapM dataset.entityResult
  let relatedEntities ← fixture.relatedEntityIds.mapM dataset.entityResult
  GraphNeighborhood.create query matchedEntities relatedEntities relationships
    (evidence.map RetrievedEvidence.documentId).eraseDups
    (evidence.map RetrievedEvidence.chunkId).eraseDups fixture.depthUsed evidence

end EvaluationDataset

section Search

variable {casefold : Str → Str} (dataset : EvaluationDataset casefold)

/-- `DeterministicVectorRetrieval.search`. -/
def DeterministicVectorRetrieval.search (query : Str) (topK : Option ℕ) :
    Except Failure (List RetrievedEvidence) :=
  match dataset.caseOf query with
  | none => .ok []
  | some case =>
    let ids := case.fixture.vectorChunkIds
    let limit := match topK with
      | none | some 0 => ids.length
      | some k => k
    ((ids.take limit).zipIdx 1).mapM (dataset.chunkEvidence .vector)

/-- `DeterministicGraphRetrieval.search`. -/
def DeterministicGraphRetrieval.search (query : Str) (maxDepth : Option ℕ) :
    Except Failure GraphNeighborhood :=
  match dataset.caseOf query with
  | none => GraphNeighborhood.empty query
  | some case =>
    if ∃ depth ∈ maxDepth, depth < case.fixture.graph.depthUsed then
      GraphNeighborhood.empty query
    else dataset.fixtureNeighborhood query case.fixture.graph

end Search

/-! ## What the services show -/

/-- What a fixture offers to a search of a limited depth. -/
def FixtureGraphResult.within (fixture : FixtureGraphResult) (maxDepth : ℕ) : FixtureGraphResult :=
  if maxDepth < fixture.depthUsed then { depthUsed_le := noHops_le } else fixture

/-- The neighborhood has what a fixture lists, in its order. -/
structure GraphNeighborhood.Shows (neighborhood : GraphNeighborhood)
    (fixture : FixtureGraphResult) : Prop where
  matchedEntities :
    neighborhood.matchedEntities.map GraphEntityResult.entityId = fixture.matchedEntityIds
  relatedEntities :
    neighborhood.relatedEntities.map GraphEntityResult.entityId = fixture.relatedEntityIds
  relationships : neighborhood.relationships.map GraphRelationshipResult.relationshipId =
    fixture.relationshipIds
  evidence : neighborhood.evidence.map RetrievedEvidence.chunkId = fixture.evidenceChunkIds
  depthUsed : neighborhood.depthUsed = fixture.depthUsed

/-- A neighborhood shows one fixture. -/
theorem GraphNeighborhood.Shows.unique {neighborhood : GraphNeighborhood}
    {fixture fixture' : FixtureGraphResult} (h : neighborhood.Shows fixture)
    (h' : neighborhood.Shows fixture') : fixture = fixture' := by
  obtain ⟨matched, related, relationships, evidence, depth, hdepth⟩ := fixture
  obtain ⟨matched', related', relationships', evidence', depth', hdepth'⟩ := fixture'
  obtain ⟨rfl, rfl, rfl, rfl, rfl⟩ := h
  obtain ⟨rfl, rfl, rfl, rfl, rfl⟩ := h'
  rfl

/-- The item is the one chunk of a document of the corpus. -/
def RetrievedEvidence.FromCorpus (item : RetrievedEvidence) (corpus : List BenchmarkDocument) :
    Prop :=
  ∃ document ∈ corpus, item.chunkId = document.chunkId ∧ item.documentId = document.documentId

/-- The names of a relationship are names of entities, letter by letter. -/
def EvaluationDataset.ExactNames {casefold : Str → Str} (dataset : EvaluationDataset casefold)
    (id : UUID) : Prop :=
  ∀ relationship ∈ dataset.relationshipOf id,
    relationship.sourceEntity ∈ dataset.entities.map BenchmarkEntity.canonicalName ∧
      relationship.targetEntity ∈ dataset.entities.map BenchmarkEntity.canonicalName

/-- A fixture refers to what the dataset has. -/
structure FixtureGraphResult.Known (fixture : FixtureGraphResult)
    (dataset : EvaluationDataset.Fields) : Prop where
  entities : ∀ id ∈ fixture.matchedEntityIds ++ fixture.relatedEntityIds,
    dataset.entityOf id ≠ none
  relationships : ∀ id ∈ fixture.relationshipIds, dataset.relationshipOf id ≠ none
  evidence : ∀ id ∈ fixture.evidenceChunkIds, dataset.chunkOf id ≠ none

/-- A look-up gives what there is. -/
theorem orRaise_eq_ok {α : Type} {o : Option α} {a : α} : orRaise o = .ok a ↔ o = some a := by
  cases o <;> simp [orRaise]

/-- A look-up of something that is there returns. -/
theorem orRaise_returns {α : Type} {o : Option α} (h : o ≠ none) : ∃ a, orRaise o = .ok a := by
  obtain ⟨a, rfl⟩ := Option.ne_none_iff_exists'.mp h
  exact ⟨a, rfl⟩

/-- What a neighborhood of a fixture has. -/
structure GraphNeighborhood.BuiltFrom {casefold : Str → Str}
    (dataset : EvaluationDataset casefold) (fixture : FixtureGraphResult)
    (neighborhood : GraphNeighborhood) : Prop where
  shows : neighborhood.Shows fixture
  evidence : ∀ item ∈ neighborhood.evidence,
    item.FromCorpus dataset.documents ∧ item.retrievalSource = .graph
  names : ∀ id ∈ fixture.relationshipIds, dataset.ExactNames id
  names_within : ∀ relationship ∈ neighborhood.relationships,
    relationship.sourceEntityName.Within 500 ∧ relationship.targetEntityName.Within 500

/-- A computation whose exceptions are not those of the application. -/
def Unanticipated {α : Type} (r : Except Failure α) : Prop := ∀ e, r ≠ .error (.application e)

/-- A sequence of computations without an error of the application has none. -/
theorem Unanticipated.bind {α β : Type} {x : Except Failure α} {f : α → Except Failure β}
    (hx : Unanticipated x) (hf : ∀ a, Unanticipated (f a)) : Unanticipated (x >>= f) := by
  cases x with
  | error e => exact fun error h => hx error (congrArg Except.error (Except.error.inj h))
  | ok a => exact hf a

/-- A loop over computations without an error of the application has none. -/
theorem Unanticipated.mapM {α β : Type} {f : α → Except Failure β} {items : List α}
    (hf : ∀ item, Unanticipated (f item)) : Unanticipated (items.mapM f) := by
  intro e h
  obtain ⟨item, -, hitem⟩ := except_mapM_error h
  exact hf item e hitem

/-- A look-up that fails does not fail with an error of the application. -/
theorem unanticipated_orRaise {α : Type} (o : Option α) : Unanticipated (orRaise o) := by
  cases o with
  | none => exact nofun
  | some a => exact nofun

namespace EvaluationDataset

variable {casefold : Str → Str} (dataset : EvaluationDataset casefold)

/-- The services find the last case with the text of a query. -/
theorem caseOf_eq (query : Str) :
    dataset.caseOf query =
      (dataset.cases.filter fun case => case.query = query).getLast? :=
  getBy_dictBy

/-- A case that is found for a query has that query. -/
theorem caseOf_eq_some {query : Str} {case : EvaluationCase}
    (h : dataset.caseOf query = some case) : case ∈ dataset.cases ∧ case.query = query := by
  rw [caseOf_eq] at h
  simpa using List.mem_of_getLast? h

/-- For the query of every case some case is found. -/
theorem exists_caseOf {case : EvaluationCase} (h : case ∈ dataset.cases) :
    ∃ last, dataset.caseOf case.query = some last := by
  rw [caseOf_eq, ← Option.ne_none_iff_exists', Ne, List.getLast?_eq_none_iff]
  exact List.ne_nil_of_mem (List.mem_filter.mpr ⟨h, by simp⟩)

variable {dataset}

/-- The evidence of a chunk is that chunk, from the corpus. -/
theorem chunkEvidence_eq_ok {origin : RetrievalSource} {item : UUID × ℕ}
    {result : RetrievedEvidence} (h : dataset.chunkEvidence origin item = .ok result) :
    result.chunkId = item.1 ∧ result.FromCorpus dataset.documents ∧
      result.retrievalSource = origin := by
  obtain ⟨document, hdocument, hresult⟩ := except_bind_eq_ok.mp h
  obtain ⟨hmem, hid⟩ := dataset.chunkOf_eq_some (orRaise_eq_ok.mp hdocument)
  cases hresult
  exact ⟨hid, ⟨document, hmem, rfl, rfl⟩, rfl⟩

/-- Known chunks are returned in their order. -/
theorem chunkEvidence_returns (dataset : EvaluationDataset casefold) (origin : RetrievalSource)
    {ids : List UUID} (hknown : ∀ id ∈ ids, dataset.chunkOf id ≠ none) :
    ∃ evidence, (ids.zipIdx 1).mapM (dataset.chunkEvidence origin) = .ok evidence := by
  refine except_mapM_returns.mpr fun item hitem => ?_
  obtain ⟨document, hdocument⟩ :=
    orRaise_returns (hknown item.1 (List.fst_mem_of_mem_zipIdx hitem))
  exact ⟨_, except_bind_eq_ok.mpr ⟨document, hdocument, rfl⟩⟩

/-- The evidence of a list of chunks is those chunks, in their order, from the corpus. -/
theorem chunkEvidence_list {origin : RetrievalSource} {ids : List UUID}
    {evidence : List RetrievedEvidence}
    (h : (ids.zipIdx 1).mapM (dataset.chunkEvidence origin) = .ok evidence) :
    evidence.map RetrievedEvidence.chunkId = ids ∧
      ∀ item ∈ evidence, item.FromCorpus dataset.documents ∧ item.retrievalSource = origin := by
  constructor
  · rw [except_mapM_map (fun item result hitem => (chunkEvidence_eq_ok hitem).1) h]
    exact List.zipIdx_map_fst 1 ids
  · exact except_mapM_forall (fun item _ result hitem => (chunkEvidence_eq_ok hitem).2) h

/-- Entities are found under their canonical names. -/
theorem entityNamed_ne_none {name : Str} :
    dataset.entityNamed name ≠ none ↔
      name ∈ dataset.entities.map BenchmarkEntity.canonicalName := by
  unfold entityNamed
  rw [dictBy_eq dataset.entityIds_nodup, Ne, List.find?_eq_none, List.mem_map]
  simp

/-- The result for an entity has its identifier. -/
theorem entityResult_eq_ok {id : UUID} {result : GraphEntityResult}
    (h : dataset.entityResult id = .ok result) : result.entityId = id := by
  obtain ⟨entity, hentity, hresult⟩ := except_bind_eq_ok.mp h
  cases hresult
  exact (dataset.entityOf_eq_some (orRaise_eq_ok.mp hentity)).2

/-- The result for a known entity returns. -/
theorem entityResult_returns {id : UUID} (h : dataset.entityOf id ≠ none) :
    ∃ result, dataset.entityResult id = .ok result := by
  obtain ⟨entity, hentity⟩ := orRaise_returns h
  exact ⟨_, except_bind_eq_ok.mpr ⟨entity, hentity, rfl⟩⟩

/-- The result for a relationship has its identifier and names of bounded length. -/
theorem relationshipResult_eq_ok {id : UUID} {result : GraphRelationshipResult}
    (h : dataset.relationshipResult id = .ok result) :
    result.relationshipId = id ∧ dataset.ExactNames id ∧
      result.sourceEntityName.Within 500 ∧ result.targetEntityName.Within 500 := by
  obtain ⟨item, hitem, h⟩ := except_bind_eq_ok.mp h
  obtain ⟨source, hsource, h⟩ := except_bind_eq_ok.mp h
  obtain ⟨target, htarget, hresult⟩ := except_bind_eq_ok.mp h
  cases hresult
  rw [orRaise_eq_ok] at hitem hsource htarget
  refine ⟨dataset.relationshipOf_eq_some hitem, ?_, source.canonicalName_within,
    target.canonicalName_within⟩
  intro relationship hrelationship
  rw [hitem] at hrelationship
  cases hrelationship
  rw [← entityNamed_ne_none, ← entityNamed_ne_none, hsource, htarget]
  exact ⟨Option.some_ne_none source, Option.some_ne_none target⟩

/-- The result for a known relationship between known names returns. -/
theorem relationshipResult_returns {id : UUID} (hknown : dataset.relationshipOf id ≠ none)
    (hnames : dataset.ExactNames id) : ∃ result, dataset.relationshipResult id = .ok result := by
  obtain ⟨item, hitem⟩ := orRaise_returns hknown
  obtain ⟨hsource, htarget⟩ := hnames item (orRaise_eq_ok.mp hitem)
  obtain ⟨source, hsource⟩ := orRaise_returns (entityNamed_ne_none.mpr hsource)
  obtain ⟨target, htarget⟩ := orRaise_returns (entityNamed_ne_none.mpr htarget)
  exact ⟨_, except_bind_eq_ok.mpr ⟨item, hitem, except_bind_eq_ok.mpr ⟨source, hsource,
    except_bind_eq_ok.mpr ⟨target, htarget, rfl⟩⟩⟩⟩

/-- A neighborhood that is built from a fixture has what the fixture lists. -/
theorem fixtureNeighborhood_eq_ok {query : Str} {fixture : FixtureGraphResult}
    {neighborhood : GraphNeighborhood}
    (h : dataset.fixtureNeighborhood query fixture = .ok neighborhood) :
    GraphNeighborhood.BuiltFrom dataset fixture neighborhood := by
  obtain ⟨evidence, hevidence, h⟩ := except_bind_eq_ok.mp h
  obtain ⟨relationships, hrelationships, h⟩ := except_bind_eq_ok.mp h
  obtain ⟨matched, hmatched, h⟩ := except_bind_eq_ok.mp h
  obtain ⟨related, hrelated, h⟩ := except_bind_eq_ok.mp h
  unfold GraphNeighborhood.create at h
  split at h
  · cases h
    obtain ⟨hchunks, hcorpus⟩ := chunkEvidence_list hevidence
    exact
      { shows :=
          { matchedEntities := except_mapM_ids (fun _ _ => entityResult_eq_ok) hmatched
            relatedEntities := except_mapM_ids (fun _ _ => entityResult_eq_ok) hrelated
            relationships :=
              except_mapM_ids (fun _ _ hitem => (relationshipResult_eq_ok hitem).1) hrelationships
            evidence := hchunks
            depthUsed := rfl }
        evidence := hcorpus
        names := fun id hid => by
          obtain ⟨_, hitem⟩ := except_mapM_returns.mp ⟨relationships, hrelationships⟩ id hid
          exact (relationshipResult_eq_ok hitem).2.1
        names_within := except_mapM_forall
          (fun _ _ _ hitem => (relationshipResult_eq_ok hitem).2.2) hrelationships }
  · cases h

/-- The neighborhood of a known fixture is built if the names of its relationships are exact. -/
theorem fixtureNeighborhood_returns {query : Str} {fixture : FixtureGraphResult}
    (hquery : query.Within 4000) (hknown : fixture.Known dataset.toFields)
    (hnames : ∀ id ∈ fixture.relationshipIds, dataset.ExactNames id) :
    ∃ neighborhood, dataset.fixtureNeighborhood query fixture = .ok neighborhood := by
  obtain ⟨evidence, hevidence⟩ := chunkEvidence_returns dataset .graph hknown.evidence
  obtain ⟨relationships, hrelationships⟩ := except_mapM_returns.mpr fun id hid =>
    relationshipResult_returns (hknown.relationships id hid) (hnames id hid)
  obtain ⟨matched, hmatched⟩ := except_mapM_returns.mpr fun id hid =>
    entityResult_returns (hknown.entities id (List.mem_append_left _ hid))
  obtain ⟨related, hrelated⟩ := except_mapM_returns.mpr fun id hid =>
    entityResult_returns (hknown.entities id (List.mem_append_right _ hid))
  have haccepts : GraphNeighborhood.Accepts query fixture.depthUsed :=
    ⟨hquery.1, hquery.2, fixture.depthUsed_le⟩
  unfold fixtureNeighborhood
  rw [hevidence, except_ok_bind, hrelationships, except_ok_bind, hmatched, except_ok_bind,
    hrelated, except_ok_bind]
  exact ⟨_, dif_pos haccepts⟩

/-- A case has a known fixture, and so has a search that is not deep enough for it. -/
theorem fixture_known {case : EvaluationCase} (hcase : case ∈ dataset.cases) (maxDepth : ℕ) :
    (case.fixture.graph.within maxDepth).Known dataset.toFields := by
  have hconsistent := dataset.case_consistent hcase
  unfold FixtureGraphResult.within
  split
  · exact ⟨nofun, nofun, nofun⟩
  · exact ⟨hconsistent.entities_known, hconsistent.relationships_known,
      hconsistent.evidenceChunks_known⟩

/-- A case has been found by its own query, or a later one with the same query. -/
theorem graphSearch_eq {query : Str} {case : EvaluationCase} (maxDepth : ℕ)
    (hcase : dataset.caseOf query = some case) :
    DeterministicGraphRetrieval.search dataset query (some maxDepth) =
      dataset.fixtureNeighborhood query (case.fixture.graph.within maxDepth) := by
  unfold DeterministicGraphRetrieval.search FixtureGraphResult.within
  rw [hcase]
  by_cases hdepth : maxDepth < case.fixture.graph.depthUsed
  · simp only [Option.mem_some, exists_eq_left', hdepth, if_true]
    rfl
  · simp only [Option.mem_some, exists_eq_left', hdepth, if_false]

/-- The vector retrieval returns the first chunks of the fixture, from the corpus. -/
theorem vectorSearch_returns {query : Str} {case : EvaluationCase} {topK : ℕ} (htopK : 1 ≤ topK)
    (hcase : dataset.caseOf query = some case) :
    ∃ evidence, DeterministicVectorRetrieval.search dataset query (some topK) = .ok evidence ∧
      evidence.map RetrievedEvidence.chunkId = case.fixture.vectorChunkIds.take topK ∧
      ∀ item ∈ evidence, item.FromCorpus dataset.documents ∧ item.retrievalSource = .vector := by
  obtain ⟨k, rfl⟩ := Nat.exists_eq_add_of_le' htopK
  have hconsistent := dataset.case_consistent (dataset.caseOf_eq_some hcase).1
  obtain ⟨evidence, hevidence⟩ := chunkEvidence_returns dataset .vector fun id hid =>
    hconsistent.vectorChunks_known id (List.mem_of_mem_take (i := k + 1) hid)
  refine ⟨evidence, ?_, chunkEvidence_list hevidence⟩
  unfold DeterministicVectorRetrieval.search
  rw [hcase]
  exact hevidence

/-- The graph fixtures raise no exception that the hybrid search expects. -/
theorem fixtureNeighborhood_unanticipated (query : Str) (fixture : FixtureGraphResult) :
    Unanticipated (dataset.fixtureNeighborhood query fixture) := by
  refine .bind (.mapM fun item => (unanticipated_orRaise _).bind fun _ => nofun) fun evidence => ?_
  refine .bind (.mapM fun id => ?_) fun relationships => ?_
  · exact (unanticipated_orRaise _).bind fun _ => (unanticipated_orRaise _).bind fun _ =>
      (unanticipated_orRaise _).bind fun _ => nofun
  refine .bind (.mapM fun id => (unanticipated_orRaise _).bind fun _ => nofun) fun matched => ?_
  refine .bind (.mapM fun id => (unanticipated_orRaise _).bind fun _ => nofun) fun related => ?_
  unfold GraphNeighborhood.create
  split
  · exact nofun
  · exact nofun

end EvaluationDataset

end AssessmentPlatform
