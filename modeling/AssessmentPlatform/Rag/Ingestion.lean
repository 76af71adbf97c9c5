import AssessmentPlatform.Library.Json
import AssessmentPlatform.Rag.Provenance
import Mathlib.Logic.Function.Basic

/-!
# Ingestion of documents

`KnowledgeIngestionService.ingest` as the steps of a transaction: it looks the content hash up
among the committed rows, adds the document, embeds its chunks, adds the chunks, and commits or
rolls back. Requests run in transactions of their own, whose statements read what has been
committed when they run, and take their steps in any order. No constraint of the tables
concerns content hashes.
-/

namespace AssessmentPlatform

/-! ## The tables -/

/-- Plain-text knowledge ingestion input, with the checks of its model. A validated content
can be encoded. -/
structure KnowledgeDocumentCreate where
  title : Str
  sourceType : KnowledgeSourceType := .text
  content : Str
  title_accepted : title.ValidWithin 300
  content_accepted : content.ValidWithin 1000000

/-- The number of bytes of `s.encode()`. -/
def Str.utf8Length (s : Str) : ℕ :=
  (s.map fun c => if c.val < 0x80 then 1 else if c.val < 0x800 then 2
    else if c.val < 0x10000 then 3 else 4).sum

/-- `validate_metadata_size`. -/
def MetadataFits (metadata : Library.Json) : Prop :=
  metadata.render.encodable = true ∧ metadata.render.utf8Length ≤ 100000

instance (metadata : Library.Json) : Decidable (MetadataFits metadata) :=
  inferInstanceAs (Decidable (_ ∧ _))

/-- The input with its metadata. -/
structure KnowledgeDocumentCreate.WithMetadata extends KnowledgeDocumentCreate where
  metadata : Library.Json
  metadata_fits : MetadataFits metadata

/-- The validation of `KnowledgeDocumentCreate`. -/
def KnowledgeDocumentCreate.WithMetadata.create (title : Str) (sourceType : KnowledgeSourceType)
    (content : Str) (metadata : Library.Json) :
    Except Failure KnowledgeDocumentCreate.WithMetadata :=
  if h : title.trim.ValidWithin 300 ∧ content.trim.ValidWithin 1000000 ∧ MetadataFits metadata then
    .ok ⟨⟨title.trim, sourceType, content.trim, h.1, h.2.1⟩, metadata, h.2.2⟩
  else .error .value

/-- Chunk content paired with a validated embedding before persistence. -/
structure EmbeddedChunk where
  chunkIndex : ℕ
  content : Str
  embedding : List ℚ
  contentHash : Str
  provenance : ChunkProvenance

/-- A persisted chunk. -/
structure KnowledgeChunkRecord where
  chunkId : UUID
  documentId : UUID
  chunkIndex : ℕ
  content : Str
  embedding : List ℚ
  contentHash : Str
  provenance : ChunkProvenance

/-- Domain result for one atomic ingestion operation. -/
structure KnowledgeIngestionResult where
  document : KnowledgeDocumentRecord
  chunkCount : ℕ
  duplicate : Bool := false
  deriving DecidableEq

/-- The committed documents and chunks. -/
structure KnowledgeStore where
  documents : List KnowledgeDocumentRecord := []
  chunks : List KnowledgeChunkRecord := []

/-- The order of documents by creation time and identifier. -/
def KnowledgeDocumentRecord.precedes (a b : KnowledgeDocumentRecord) : Prop :=
  a.createdAt < b.createdAt ∨ a.createdAt = b.createdAt ∧ a.documentId ≤ b.documentId

instance : DecidableRel KnowledgeDocumentRecord.precedes :=
  fun _ _ => inferInstanceAs (Decidable (_ ∨ _))

/-- The earliest of some documents. -/
def earliestDocument (documents : List KnowledgeDocumentRecord) : Option KnowledgeDocumentRecord :=
  (documents.insertionSort KnowledgeDocumentRecord.precedes).head?

/-- The documents with a content hash. -/
def KnowledgeStore.withContentHash (store : KnowledgeStore) (contentHash : Str) :
    List KnowledgeDocumentRecord :=
  store.documents.filter fun document => document.contentHash = contentHash

/-- `find_by_content_hash`. -/
def KnowledgeStore.findByContentHash (store : KnowledgeStore) (contentHash : Str) :
    Option KnowledgeDocumentRecord :=
  earliestDocument (store.withContentHash contentHash)

/-- `list_by_document`. -/
def KnowledgeStore.listByDocument (store : KnowledgeStore) (documentId : UUID) :
    List KnowledgeChunkRecord :=
  (store.chunks.filter fun chunk => chunk.documentId = documentId).insertionSort
    fun a b => a.chunkIndex ≤ b.chunkIndex

/-! ## One request -/

/-- The statements of `ingest`. -/
inductive IngestStep where
  | findByContentHash | listByDocument | create | bulkCreate | commit
  deriving DecidableEq

/-- A call of `ingest` and what it meets: the identifiers and the time that it draws, the
embedding service, and the statements that the database refuses in view of the committed rows,
because of a constraint or any other error. -/
structure IngestCall where
  request : KnowledgeDocumentCreate
  deduplicate : Bool := false
  sourceSegments : List KnowledgeSourceSegment := []
  documentId : UUID
  chunkId : ℕ → UUID
  createdAt : Time
  embedTexts : List Str → Except Failure (List (List ℚ))
  fault : IngestStep → KnowledgeStore → Option SQLAlchemyError := fun _ _ => none
  rollbackFault : Option SQLAlchemyError := none

/-- The settings of the service, and the hexadecimal SHA-256 digest of an encoded text. -/
structure KnowledgeIngestionService where
  sha256 : Str → Str
  chunkSize : ℤ
  chunkOverlap : ℤ

/-- How far a request has come. -/
inductive IngestPhase where
  | idle
  | found (existing : KnowledgeDocumentRecord)
  | absent
  | created
  | embedded (chunks : List EmbeddedChunk)
  | written (chunks : List EmbeddedChunk)
  | finished (outcome : Except Failure KnowledgeIngestionResult)

/-- `_raise_database_error`. -/
def raiseKnowledgeDatabaseError : SQLAlchemyError → ApplicationError
  | .operational | .programming => .knowledgeStoreUnavailable
  | .other => .knowledgePersistence

namespace IngestCall

/-- The normalized text. -/
def normalized (call : IngestCall) : Str := normalizeText call.request.content

/-- The exception that `ingest` raises for one that its body raises. Application errors and
database errors roll the transaction back, which may fail. -/
def recover (call : IngestCall) : Failure → Failure
  | .application error =>
    match call.rollbackFault with
    | some fault => .database fault
    | none => .application error
  | .database error =>
    match call.rollbackFault with
    | some fault => .database fault
    | none => .application (raiseKnowledgeDatabaseError error)
  | .value => .value
  | .other => .other

/-- The rows of `bulk_create`. -/
def chunkRows (call : IngestCall) (chunks : List EmbeddedChunk) : List KnowledgeChunkRecord :=
  chunks.mapIdx fun i chunk =>
    { chunkId := call.chunkId i
      documentId := call.documentId
      chunkIndex := chunk.chunkIndex
      content := chunk.content
      embedding := chunk.embedding
      contentHash := chunk.contentHash
      provenance := chunk.provenance }

end IngestCall

namespace KnowledgeIngestionService

/-- The identity of the content of a call. -/
def contentHash (service : KnowledgeIngestionService) (call : IngestCall) : Str :=
  service.sha256 call.normalized

/-- The document that `create` adds. -/
def document (service : KnowledgeIngestionService) (call : IngestCall) :
    KnowledgeDocumentRecord where
  documentId := call.documentId
  title := call.request.title
  sourceType := call.request.sourceType
  content := call.normalized
  contentHash := service.contentHash call
  createdAt := call.createdAt

/-- The chunks of a call with their embeddings. -/
def embedChunks (service : KnowledgeIngestionService) (call : IngestCall) :
    Except Failure (List EmbeddedChunk) := do
  let textChunks ← chunkText call.normalized service.chunkSize service.chunkOverlap
  if textChunks = [] then throw (.application .emptyKnowledgeDocument)
  let vectors ← call.embedTexts (textChunks.map TextChunk.content)
  if vectors.length ≠ textChunks.length then throw (.application .invalidEmbedding)
  let spans := buildProvenanceSpans call.normalized call.sourceSegments
  return List.zipWith (fun chunk vector =>
    { chunkIndex := chunk.index
      content := chunk.content
      embedding := vector
      contentHash := service.sha256 chunk.content
      provenance := chunkProvenance chunk.startOffset chunk.endOffset spans }) textChunks vectors

/-- A statement of the transaction: it fails, or the request goes on. -/
def attempt (call : IngestCall) (statement : IngestStep) (store : KnowledgeStore)
    (next : IngestPhase × KnowledgeStore) : IngestPhase × KnowledgeStore :=
  match call.fault statement store with
  | some error => (.finished (.error (call.recover (.database error))), store)
  | none => next

/-- The next step of `ingest`. What a transaction has added is not in the store before its
commit. -/
def ingestStep (service : KnowledgeIngestionService) (call : IngestCall) (store : KnowledgeStore) :
    IngestPhase → IngestPhase × KnowledgeStore
  | .idle =>
    if call.normalized = [] then
      (.finished (.error (.application .emptyKnowledgeDocument)), store)
    else if call.deduplicate then
      attempt call .findByContentHash store
        (match store.findByContentHash (service.contentHash call) with
        | some existing => (.found existing, store)
        | none => (.absent, store))
    else (.absent, store)
  | .found existing =>
    attempt call .listByDocument store
      (.finished (.ok
        { document := existing
          chunkCount := (store.listByDocument existing.documentId).length
          duplicate := true }), store)
  | .absent => attempt call .create store (.created, store)
  | .created =>
    match service.embedChunks call with
    | .error failure => (.finished (.error (call.recover failure)), store)
    | .ok chunks => (.embedded chunks, store)
  | .embedded chunks => attempt call .bulkCreate store (.written chunks, store)
  | .written chunks =>
    attempt call .commit store
      (.finished (.ok { document := service.document call, chunkCount := chunks.length }),
        { documents := store.documents ++ [service.document call]
          chunks := store.chunks ++ call.chunkRows chunks })
  | .finished outcome => (.finished outcome, store)

/-- The committed store and the phase of every request. -/
structure State (ι : Type) where
  store : KnowledgeStore
  phase : ι → IngestPhase

variable {ι : Type} [DecidableEq ι]

/-- The next step of one request. -/
def advance (service : KnowledgeIngestionService) (calls : ι → IngestCall) (s : State ι) (i : ι) :
    State ι :=
  let next := service.ingestStep (calls i) s.store (s.phase i)
  { store := next.2, phase := Function.update s.phase i next.1 }

/-- The steps of requests in the order of a schedule, on a store on which none of them has
begun. -/
def run (service : KnowledgeIngestionService) (calls : ι → IngestCall) (initial : KnowledgeStore)
    (schedule : List ι) : State ι :=
  schedule.foldl (service.advance calls) { store := initial, phase := fun _ => .idle }

end KnowledgeIngestionService

end AssessmentPlatform
