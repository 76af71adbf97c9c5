import AssessmentPlatform.KnowledgeGraph.Upserts
import AssessmentPlatform.Library.Replay
import Mathlib.Data.Finset.Card

/-!
# Graph enrichment

`KnowledgeGraphEnrichmentService.enrich`: for each chunk of a document the extracted entities
are resolved and mentioned, and the extracted relationships are added between them. The
extractors are deterministic functions that return or raise. Everything is committed at the end
or rolled back.
-/

namespace AssessmentPlatform

open Library

/-- One entity candidate grounded in one source chunk. -/
structure ExtractedEntity where
  localKey : Str
  canonicalName : Str
  entityType : KnowledgeEntityType
  description : Option Str := none
  confidence : ℚ
  deriving DecidableEq

/-- Bounded entity extraction output for a single chunk. -/
structure EntityExtractionResult where
  entities : List ExtractedEntity
  entities_length : entities.length ≤ 100
  local_keys_nodup : (entities.map ExtractedEntity.localKey).Nodup

/-- One controlled edge referencing entity keys from the same chunk. -/
structure ExtractedRelationship where
  sourceEntityKey : Str
  targetEntityKey : Str
  relationshipType : KnowledgeRelationshipType
  description : Option Str := none
  confidence : ℚ
  reject_self_edge : sourceEntityKey ≠ targetEntityKey

/-- Bounded relationship extraction output for a single chunk. -/
structure RelationshipExtractionResult where
  relationships : List ExtractedRelationship
  relationships_length : relationships.length ≤ 200

/-- Summary of the enrichment of one document. -/
structure KnowledgeGraphEnrichmentResult where
  documentId : UUID
  entityCount : ℕ
  relationshipCount : ℕ
  deriving DecidableEq

/-- The extractors of the service, and the Unicode functions of its repository. -/
structure KnowledgeGraphEnrichmentService where
  unicode : Unicode
  extractEntities : UUID → Str → Except Failure EntityExtractionResult
  extractRelationships : UUID → Str → List ExtractedEntity →
    Except Failure RelationshipExtractionResult

/-- The entities and relationships that have been resolved so far. -/
structure EnrichmentState where
  entityIds : Finset UUID := ∅
  relationshipIds : Finset UUID := ∅

/-- The entities of one chunk that have been resolved so far; the last one under a local key
comes first. -/
structure ChunkEntities where
  entityIds : Finset UUID
  resolvedByKey : List (Str × KnowledgeEntityModel) := []
  acceptedEntities : List ExtractedEntity := []

/-- `_raise_database_error`. -/
def raiseGraphDatabaseError : SQLAlchemyError → ApplicationError
  | .operational | .programming => .knowledgeGraphUnavailable
  | .other => .knowledgeGraphPersistence

namespace KnowledgeGraphEnrichmentService

section Source

variable (service : KnowledgeGraphEnrichmentService) (env : GraphEnv) (store : KnowledgeStore)
  (documentId : UUID)

/-- One extracted entity. -/
def enrichEntity (chunk : KnowledgeChunkRecord) (state : ChunkEntities) (entity : ExtractedEntity) :
    GraphSession ChunkEntities := do
  let record ← upsertEntity service.unicode env entity.entityType entity.canonicalName
    entity.description
  let _ ← addMention service.unicode store env record.id documentId chunk.chunkId
    entity.canonicalName entity.confidence chunk
  pure
    { entityIds := insert record.id state.entityIds
      resolvedByKey := (entity.localKey, record) :: state.resolvedByKey
      acceptedEntities := state.acceptedEntities ++ [entity] }

/-- One extracted relationship between resolved entities. -/
def enrichRelationship (chunk : KnowledgeChunkRecord)
    (resolvedByKey : List (Str × KnowledgeEntityModel)) (relationshipIds : Finset UUID)
    (relationship : ExtractedRelationship) : GraphSession (Finset UUID) :=
  match resolvedByKey.lookup relationship.sourceEntityKey,
      resolvedByKey.lookup relationship.targetEntityKey with
  | some source, some target => do
    let record ← addRelationship store env source.id target.id relationship.relationshipType
      relationship.description relationship.confidence chunk.chunkId
    pure (insert record.id relationshipIds)
  | _, _ => throw (.application .knowledgeGraphExtraction)

/-- One chunk. -/
def enrichChunk (state : EnrichmentState) (chunk : KnowledgeChunkRecord) :
    GraphSession EnrichmentState := do
  let extracted ← GraphSession.ofExcept (service.extractEntities chunk.chunkId chunk.content)
  let resolved ← extracted.entities.foldlM (service.enrichEntity env store documentId chunk)
    { entityIds := state.entityIds }
  let relationships ← GraphSession.ofExcept
    (service.extractRelationships chunk.chunkId chunk.content resolved.acceptedEntities)
  let relationshipIds ← relationships.relationships.foldlM
    (enrichRelationship env store chunk resolved.resolvedByKey) state.relationshipIds
  pure { entityIds := resolved.entityIds, relationshipIds }

/-- The statements of `enrich` up to its commit. -/
def enrichDocument : GraphSession EnrichmentState := do
  graphStep env .getDocument
  if store.documents.all (fun document => document.documentId ≠ documentId) then
    throw (.application .knowledgeDocumentNotFound)
  else do
    graphStep env .listChunks
    (store.listByDocument documentId).foldlM (service.enrichChunk env store documentId) {}

/-- The exception handlers of `enrich`. -/
def recoverEnrichment {α : Type} : Failure → GraphSession α
  | .application error => do graphRollback env; throw (.application error)
  | .value => do graphRollback env; throw (.application .knowledgeGraphExtraction)
  | .database error => do
    graphRollback env
    throw (.application (raiseGraphDatabaseError error))
  | .other => throw .other

/-- `enrich`. -/
def enrich : GraphSession KnowledgeGraphEnrichmentResult := do
  let state ← tryCatch
    (do
      let state ← service.enrichDocument env store documentId
      graphCommit env
      pure state)
    (recoverEnrichment env)
  pure
    { documentId
      entityCount := state.entityIds.card
      relationshipCount := state.relationshipIds.card }

/-- What `enrich` returns or raises on a graph, and the graph that is committed then. -/
def enrichGraph (graph : KnowledgeGraph) :
    Except Failure KnowledgeGraphEnrichmentResult × KnowledgeGraph :=
  let outcome := Prog.exec (service.enrich env store documentId) (GraphDb.open graph)
  (outcome.1, outcome.2.committed)

end Source

end KnowledgeGraphEnrichmentService

end AssessmentPlatform
