import AssessmentPlatform.Evaluation.AssessmentModels
import AssessmentPlatform.Evaluation.RetrievalMetrics
import AssessmentPlatform.Models.KnowledgeGraph

/-!
# The retrieval benchmark

The corpus, the graph and the cases of a benchmark, with the checks of their models, and the
validator of a dataset. It compares the names of entities without regard to case and the cases by
their identifiers.
-/

namespace AssessmentPlatform

open Library

/-! ## The models -/

/-- The text of a constrained field of a model that does not strip. -/
def Str.Within (bound : ℕ) (s : Str) : Prop :=
  s.encodable = true ∧ 1 ≤ s.length ∧ s.length ≤ bound

instance Str.decidableWithin (bound : ℕ) (s : Str) : Decidable (s.Within bound) :=
  inferInstanceAs (Decidable (_ ∧ _))

/-- Retrieval paths that are evaluated independently. -/
inductive EvaluationMode where
  | vector | graph | hybrid
  deriving DecidableEq

/-- The text of a mode. -/
def EvaluationMode.value : EvaluationMode → Str
  | .vector => "vector"
  | .graph => "graph"
  | .hybrid => "hybrid"

/-- Reviewable benchmark query categories. -/
inductive EvaluationQueryType where
  | semanticFactual | policyLookup | multiDocument | relationshipImpactChain
  | multiHopRelationship | negativeNoAnswer
  deriving DecidableEq

/-- One synthetic source with a single chunk. -/
structure BenchmarkDocument where
  documentId : UUID
  chunkId : UUID
  title : Str
  content : Str
  title_within : title.Within 300
  content_accepted : content.encodable = true ∧ 1 ≤ content.length

/-- One controlled graph entity. -/
structure BenchmarkEntity where
  entityId : UUID
  canonicalName : Str
  entityType : KnowledgeEntityType
  canonicalName_within : canonicalName.Within 500

/-- A relationship expectation by names. -/
structure ExpectedRelationship where
  sourceEntity : Str
  relationshipType : KnowledgeRelationshipType
  targetEntity : Str
  sourceEntity_within : sourceEntity.Within 500
  targetEntity_within : targetEntity.Within 500

/-- `key`. -/
def ExpectedRelationship.key (casefold : Str → Str) (relationship : ExpectedRelationship) :
    Str × KnowledgeRelationshipType × Str :=
  (casefold relationship.sourceEntity, relationship.relationshipType,
    casefold relationship.targetEntity)

/-- One source-grounded graph edge. -/
structure BenchmarkRelationship extends ExpectedRelationship where
  relationshipId : UUID
  sourceDocumentId : UUID
  sourceChunkId : UUID

/-- A path as the relationships that it contains. -/
structure ExpectedGraphPath where
  relationships : List ExpectedRelationship
  relationships_ne_nil : relationships ≠ []

/-- Known relevant evidence with the graph facts. -/
structure EvaluationExpectedEvidence.WithGraph extends EvaluationExpectedEvidence where
  entities : List Str := []
  relationships : List ExpectedRelationship := []
  paths : List ExpectedGraphPath := []

/-- The graph response of a fixture. -/
structure FixtureGraphResult where
  matchedEntityIds : List UUID := []
  relatedEntityIds : List UUID := []
  relationshipIds : List UUID := []
  evidenceChunkIds : List UUID := []
  depthUsed : ℕ := 0
  depthUsed_le : depthUsed ≤ 5 := by decide

/-- The responses of a fixture. -/
structure FixtureRetrievalResult where
  vectorChunkIds : List UUID := []
  graph : FixtureGraphResult := {}

/-- One query, its ground truth and its fixture. -/
structure EvaluationCase where
  queryId : EvaluationId
  query : Str
  queryType : EvaluationQueryType
  modes : Finset EvaluationMode
  expected : EvaluationExpectedEvidence.WithGraph
  fixture : FixtureRetrievalResult
  query_within : query.Within 4000
  modes_nonempty : modes.Nonempty

/-- The fields of a dataset, before `validate_integrity`. -/
structure EvaluationDataset.Fields where
  datasetId : Str
  version : Str
  synthetic : Bool
  documents : List BenchmarkDocument
  entities : List BenchmarkEntity := []
  relationships : List BenchmarkRelationship := []
  cases : List EvaluationCase
  datasetId_within : datasetId.Within 100
  version_within : version.Within 30
  documents_ne_nil : documents ≠ []
  cases_ne_nil : cases ≠ []

/-! ## The validator -/

/-- A check that raises a `ValueError` with its message. -/
def raiseIf (failed : Prop) [Decidable failed] (message : Str) : Except Str Unit :=
  if failed then .error message else .ok ()

/-- `_require_unique`. -/
def requireUnique {α : Type} [DecidableEq α] (label : Str) (values : List α) : Except Str Unit :=
  raiseIf (values.length ≠ values.eraseDups.length) (label ++ Str.ofString " must be unique")

namespace EvaluationDataset.Fields

variable (casefold : Str → Str) (dataset : EvaluationDataset.Fields)

/-- The document of an identifier. -/
def documentOf (id : UUID) : Option BenchmarkDocument :=
  getBy BenchmarkDocument.documentId id (dictBy BenchmarkDocument.documentId dataset.documents)

/-- The document of a chunk. -/
def chunkOf (id : UUID) : Option BenchmarkDocument :=
  getBy BenchmarkDocument.chunkId id (dictBy BenchmarkDocument.chunkId dataset.documents)

/-- The entity of an identifier. -/
def entityOf (id : UUID) : Option BenchmarkEntity :=
  getBy BenchmarkEntity.entityId id (dictBy BenchmarkEntity.entityId dataset.entities)

/-- The relationship of an identifier. -/
def relationshipOf (id : UUID) : Option BenchmarkRelationship :=
  getBy BenchmarkRelationship.relationshipId id
    (dictBy BenchmarkRelationship.relationshipId dataset.relationships)

/-- The names of the entities, as they are compared. -/
def entityNames : List Str :=
  dataset.entities.map fun entity => casefold entity.canonicalName

/-- The keys of the relationships. -/
def relationshipKeys : List (Str × KnowledgeRelationshipType × Str) :=
  dataset.relationships.map fun relationship => relationship.key casefold

/-- The checks of a relationship. -/
def validateRelationship (relationship : BenchmarkRelationship) : Except Str Unit := do
  raiseIf (casefold relationship.sourceEntity ∉ dataset.entityNames casefold)
    "relationship source entity is not defined"
  raiseIf (casefold relationship.targetEntity ∉ dataset.entityNames casefold)
    "relationship target entity is not defined"
  let document := dataset.documentOf relationship.sourceDocumentId
  let chunk := dataset.chunkOf relationship.sourceChunkId
  raiseIf (document = none ∨ chunk = none ∨
      chunk.map BenchmarkDocument.documentId ≠ document.map BenchmarkDocument.documentId)
    "relationship provenance does not identify one corpus source"

/-- The checks of what a case expects. -/
def validateExpected (case : EvaluationCase) : Except Str Unit := do
  let expected := case.expected
  requireUnique "expected document IDs" expected.documentIds
  requireUnique "expected chunk IDs" expected.chunkIds
  requireUnique "expected entities" (expected.entities.map casefold)
  requireUnique "expected relationships"
    (expected.relationships.map (ExpectedRelationship.key casefold))
  raiseIf (∃ id ∈ expected.documentIds, dataset.documentOf id = none)
    (case.queryId.val ++ Str.ofString " has an unknown expected document ID")
  raiseIf (∃ id ∈ expected.chunkIds, dataset.chunkOf id = none)
    (case.queryId.val ++ Str.ofString " has an unknown expected chunk ID")
  raiseIf (expected.documentIds ≠ [] ∧ expected.chunkIds ≠ [] ∧
      ∃ id ∈ expected.chunkIds, ∃ chunk ∈ dataset.chunkOf id,
        chunk.documentId ∉ expected.documentIds)
    (case.queryId.val ++ Str.ofString " expected chunks do not belong to expected documents")
  raiseIf (∃ name ∈ expected.entities, casefold name ∉ dataset.entityNames casefold)
    (case.queryId.val ++ Str.ofString " has an unknown expected entity")
  raiseIf (∃ item ∈ expected.relationships, item.key casefold ∉ dataset.relationshipKeys casefold)
    (case.queryId.val ++ Str.ofString " has an unknown expected relationship")
  raiseIf ((case.queryType = .relationshipImpactChain ∨ case.queryType = .multiHopRelationship) ∧
      (expected.entities = [] ∨ expected.relationships = []))
    (case.queryId.val ++ Str.ofString " graph case lacks graph expectations")
  raiseIf (case.queryType = .negativeNoAnswer ∧
      (expected.documentIds ≠ [] ∨ expected.chunkIds ≠ [] ∨ expected.entities ≠ [] ∨
        expected.relationships ≠ []))
    (case.queryId.val ++ Str.ofString " negative case cannot declare relevant evidence")
  raiseIf (∃ path ∈ expected.paths, ∃ item ∈ path.relationships,
      item.key casefold ∉ expected.relationships.map (ExpectedRelationship.key casefold))
    (case.queryId.val ++ Str.ofString " path is not contained in expected relationships")

/-- The checks of the fixture of a case. -/
def validateFixture (case : EvaluationCase) : Except Str Unit := do
  raiseIf (∃ id ∈ case.fixture.vectorChunkIds, dataset.chunkOf id = none)
    (case.queryId.val ++ Str.ofString " fixture has an unknown vector chunk")
  let graph := case.fixture.graph
  raiseIf (∃ id ∈ graph.matchedEntityIds ++ graph.relatedEntityIds, dataset.entityOf id = none)
    (case.queryId.val ++ Str.ofString " fixture has an unknown graph entity")
  raiseIf (∃ id ∈ graph.relationshipIds, dataset.relationshipOf id = none)
    (case.queryId.val ++ Str.ofString " fixture has an unknown graph relationship")
  raiseIf (∃ id ∈ graph.evidenceChunkIds, dataset.chunkOf id = none)
    (case.queryId.val ++ Str.ofString " fixture has an unknown graph evidence chunk")
  raiseIf (∃ id ∈ graph.relationshipIds, ∃ relationship ∈ dataset.relationshipOf id,
      relationship.sourceChunkId ∉ graph.evidenceChunkIds)
    (case.queryId.val ++ Str.ofString " graph relationship lacks its source evidence chunk")

/-- `validate_integrity`. -/
def validateIntegrity : Except Str Unit := do
  requireUnique "document IDs" (dataset.documents.map BenchmarkDocument.documentId)
  requireUnique "chunk IDs" (dataset.documents.map BenchmarkDocument.chunkId)
  requireUnique "entity IDs" (dataset.entities.map BenchmarkEntity.entityId)
  requireUnique "entity names" (dataset.entityNames casefold)
  requireUnique "relationship IDs"
    (dataset.relationships.map BenchmarkRelationship.relationshipId)
  requireUnique "relationship edges" (dataset.relationshipKeys casefold)
  requireUnique "query IDs" (dataset.cases.map EvaluationCase.queryId)
  dataset.relationships.forM (dataset.validateRelationship casefold)
  dataset.cases.forM fun case => do
    dataset.validateExpected casefold case
    dataset.validateFixture case

end EvaluationDataset.Fields

/-- A dataset that its validator has accepted. -/
structure EvaluationDataset (casefold : Str → Str) extends EvaluationDataset.Fields where
  accepted : toFields.validateIntegrity casefold = .ok ()

/-! ## What an accepted dataset satisfies -/

/-- A validator passes exactly if its condition does not hold. -/
theorem raiseIf_eq_ok {failed : Prop} [Decidable failed] {message : Str} :
    raiseIf failed message = .ok () ↔ ¬failed := by
  unfold raiseIf
  by_cases h : failed
  · simp [h]
  · simp [h]

/-- The validator of the uniqueness admits the lists without repetitions. -/
theorem requireUnique_eq_ok {α : Type} [DecidableEq α] {label : Str} {values : List α} :
    requireUnique label values = .ok () ↔ values.Nodup := by
  rw [requireUnique, raiseIf_eq_ok, not_not, eq_comm, length_eraseDups_eq_iff]

/-- What the validator ensures for the services and the metrics of a case. -/
structure EvaluationCase.Consistent (dataset : EvaluationDataset.Fields) (case : EvaluationCase) :
    Prop where
  documentIds_nodup : case.expected.documentIds.Nodup
  chunkIds_nodup : case.expected.chunkIds.Nodup
  vectorChunks_known : ∀ id ∈ case.fixture.vectorChunkIds, dataset.chunkOf id ≠ none
  entities_known :
    ∀ id ∈ case.fixture.graph.matchedEntityIds ++ case.fixture.graph.relatedEntityIds,
      dataset.entityOf id ≠ none
  relationships_known : ∀ id ∈ case.fixture.graph.relationshipIds, dataset.relationshipOf id ≠ none
  evidenceChunks_known : ∀ id ∈ case.fixture.graph.evidenceChunkIds, dataset.chunkOf id ≠ none

namespace EvaluationDataset

variable {casefold : Str → Str} (dataset : EvaluationDataset casefold)

/-- The checks that an accepted dataset has passed. -/
theorem checked :
    ((dataset.documents.map BenchmarkDocument.documentId).Nodup ∧
      (dataset.documents.map BenchmarkDocument.chunkId).Nodup ∧
      (dataset.entities.map BenchmarkEntity.entityId).Nodup ∧
      (dataset.entityNames casefold).Nodup ∧
      (dataset.relationships.map BenchmarkRelationship.relationshipId).Nodup ∧
      (dataset.relationshipKeys casefold).Nodup ∧
      (dataset.cases.map EvaluationCase.queryId).Nodup) ∧
    (∀ relationship ∈ dataset.relationships,
      dataset.validateRelationship casefold relationship = .ok ()) ∧
    ∀ case ∈ dataset.cases, dataset.validateExpected casefold case = .ok () ∧
      dataset.validateFixture case = .ok () := by
  have h := dataset.accepted
  unfold Fields.validateIntegrity at h
  simpa only [except_seq_eq_ok, except_forM_eq_ok, requireUnique_eq_ok, and_assoc] using h

/-- The documents of a dataset have distinct identifiers. -/
theorem documentIds_nodup : (dataset.documents.map BenchmarkDocument.documentId).Nodup :=
  dataset.checked.1.1

/-- The chunks of a dataset have distinct identifiers. -/
theorem chunkIds_nodup : (dataset.documents.map BenchmarkDocument.chunkId).Nodup :=
  dataset.checked.1.2.1

/-- The entities of a dataset have distinct identifiers. -/
theorem entityIds_nodup : (dataset.entities.map BenchmarkEntity.entityId).Nodup :=
  dataset.checked.1.2.2.1

/-- Every case of a dataset is consistent with it. -/
theorem case_consistent {case : EvaluationCase} (hcase : case ∈ dataset.cases) :
    case.Consistent dataset.toFields := by
  obtain ⟨hexpected, hfixture⟩ := dataset.checked.2.2 case hcase
  simp only [Fields.validateExpected, Fields.validateFixture, except_seq_eq_ok,
    requireUnique_eq_ok, raiseIf_eq_ok, not_exists, not_and] at hexpected hfixture
  exact
    { documentIds_nodup := hexpected.1
      chunkIds_nodup := hexpected.2.1
      vectorChunks_known := hfixture.1
      entities_known := hfixture.2.1
      relationships_known := hfixture.2.2.1
      evidenceChunks_known := hfixture.2.2.2.1 }

/-- A chunk that is found is the one of its document. -/
theorem chunkOf_eq_some {id : UUID} {document : BenchmarkDocument}
    (h : dataset.chunkOf id = some document) : document ∈ dataset.documents ∧
      document.chunkId = id := by
  unfold Fields.chunkOf at h
  rw [dictBy_eq dataset.chunkIds_nodup] at h
  exact getBy_mem h

/-- An entity that is found under an identifier has it. -/
theorem entityOf_eq_some {id : UUID} {entity : BenchmarkEntity}
    (h : dataset.entityOf id = some entity) : entity ∈ dataset.entities ∧
      entity.entityId = id := by
  unfold Fields.entityOf at h
  rw [dictBy_eq dataset.entityIds_nodup] at h
  exact getBy_mem h

/-- A relationship that is found under an identifier has it. -/
theorem relationshipOf_eq_some {id : UUID} {relationship : BenchmarkRelationship}
    (h : dataset.relationshipOf id = some relationship) : relationship.relationshipId = id :=
  (getBy_mem h).2

/-- A document is determined by its identifier. -/
theorem eq_of_documentId {document document' : BenchmarkDocument}
    (hmem : document ∈ dataset.documents) (hmem' : document' ∈ dataset.documents)
    (h : document.documentId = document'.documentId) : document = document' :=
  List.inj_on_of_nodup_map dataset.documentIds_nodup hmem hmem' h

end EvaluationDataset

end AssessmentPlatform
