import AssessmentPlatform.Ingestion.BoundedRead
import AssessmentPlatform.Ingestion.Docx
import AssessmentPlatform.Ingestion.Limits
import AssessmentPlatform.Ingestion.Pdf
import AssessmentPlatform.KnowledgeGraph.Enrichment
import AssessmentPlatform.Library.Interleaving

/-!
# The routes of the knowledge base

A file is read within its bounds, parsed and turned into a request for ingestion; a document comes
as such a request. Both are ingested statement by statement, and an uploaded document is enriched
after it has been committed, if that has been asked for. Requests take their steps in any order; an
enrichment is one of them.
-/

namespace AssessmentPlatform

open Library

/-! ## Parsers -/

/-- `DocumentParser`. -/
structure DocumentParser where
  fileFormat : FileFormat
  parse : List UInt8 → Str → Str → Except Failure ParsedDocument

/-- `get_file_parser_router`, for the libraries of two of the parsers. -/
def getFileParserRouter (pdf : PDFDocumentParser) (docx : DOCXDocumentParser) :
    DocumentParserRouter DocumentParser where
  fileFormat := DocumentParser.fileFormat
  parsers :=
    [⟨.pdf, pdf.parse⟩, ⟨.docx, docx.parse⟩, ⟨.txt, TextDocumentParser.parse⟩,
     ⟨.markdown, MarkdownDocumentParser.parse⟩]

/-- The segments that `ingest_upload` gives to the ingestion. -/
def ParsedDocument.sourceSegments (parsed : ParsedDocument) : List KnowledgeSourceSegment :=
  parsed.segments.map fun segment =>
    { text := segment.text
      metadata :=
        { pageNumber := segment.pageNumber.map fun n => n
          sectionHeading := segment.sectionHeading } }

/-! ## Uploads -/

/-- `GraphEnrichmentStatus`. -/
inductive GraphEnrichmentStatus where
  | notRequested | disabled | completed | failed
  deriving DecidableEq

/-- `FileIngestionResult`. -/
structure FileIngestionResult where
  document : KnowledgeDocumentRecord
  filename : Str
  mimeType : Str
  parser : Str
  extractionMethod : Str
  normalizedCharacterCount : ℕ
  chunkCount : ℕ
  duplicate : Bool
  graphEnrichmentStatus : GraphEnrichmentStatus
  graphErrorCode : Option Str := none
  deriving DecidableEq

/-- The fields of an upload; its file is read in pieces. -/
structure Upload (σ : Type) where
  filename : Option Str
  contentType : Option Str := none
  source : Source UInt8 σ
  file : σ
  title : Option Str := none
  sourceType : Option KnowledgeSourceType := none
  metadataJson : Option Str := none
  enrichGraph : Bool := false

/-- `FileIngestionService` with its parts, and the knowledge graph service unless it is disabled.
The case folding, the names in an archive and `json.loads` are those of the standard library. -/
structure UploadService extends FileIngestionService where
  parsers : DocumentParserRouter DocumentParser
  knowledge : KnowledgeIngestionService
  graph : Option KnowledgeGraphEnrichmentService := none
  folding : CaseFolding
  namelist : List UInt8 → Except Failure (Option (List Str))
  loads : Str → Option Json

/-- An upload that has been parsed and validated. -/
structure PreparedUpload where
  filename : Str
  parsed : ParsedDocument
  request : KnowledgeDocumentCreate.WithMetadata
  enrichGraph : Bool

namespace UploadService

variable {σ : Type}

/-- `_read_bounded`, which takes at most one read more than there are bytes. -/
def readUpload (service : UploadService) (upload : Upload σ) : Except Failure (List UInt8) :=
  (service.readBounded upload.source upload.file
    ((upload.source.unread upload.file).length + 1)).getD (.error .other)

/-- `ingest_upload` up to the ingestion. -/
def prepare (service : UploadService) (upload : Upload σ) : Except Failure PreparedUpload := do
  let filename ← sanitizeFilename upload.filename
  let data ← service.readUpload upload
  let parser ← service.parsers.select service.folding service.namelist filename
    upload.contentType data
  let parsed ← recoverParser (parser.parse data filename (uploadMimeType upload.contentType))
  let userMetadata ← parseUploadMetadata service.loads upload.metadataJson
  let request ← buildRequest service.folding.casefold parsed upload.title upload.sourceType
    userMetadata
  return { filename, parsed, request, enrichGraph := upload.enrichGraph }

end UploadService

/-! ## Requests -/

/-- The documents and chunks, and the graph. -/
structure KnowledgeBase where
  store : KnowledgeStore := {}
  graph : KnowledgeGraph := {}

/-- What a request meets: the identifiers and the time that it draws, the embedding service, and the
statements that the database refuses. -/
structure KnowledgeEnvironment where
  documentId : UUID
  chunkId : ℕ → UUID
  createdAt : Time
  embedTexts : List Str → Except Failure (List (List ℚ))
  fault : IngestStep → KnowledgeStore → Option SQLAlchemyError := fun _ _ => none
  rollbackFault : Option SQLAlchemyError := none
  graph : GraphEnv

/-- The call of `ingest` for a request. -/
def KnowledgeEnvironment.call (env : KnowledgeEnvironment) (request : KnowledgeDocumentCreate)
    (deduplicate : Bool) (sourceSegments : List KnowledgeSourceSegment) : IngestCall where
  request := request
  deduplicate := deduplicate
  sourceSegments := sourceSegments
  documentId := env.documentId
  chunkId := env.chunkId
  createdAt := env.createdAt
  embedTexts := env.embedTexts
  fault := env.fault
  rollbackFault := env.rollbackFault

/-- The requests of the routes that write: `ingest_file`, `ingest_document` and
`enrich_document_graph`. -/
inductive KnowledgeRequest (σ : Type) where
  | file (upload : Upload σ)
  | document (request : KnowledgeDocumentCreate)
  | graph (documentId : UUID)

/-- What the routes return. -/
inductive KnowledgeResponse where
  | file (result : FileIngestionResult)
  | document (result : KnowledgeIngestionResult)
  | graph (result : KnowledgeGraphEnrichmentResult)
  deriving DecidableEq

/-- A call of `ingest`, with the upload that it comes from. -/
structure Admission where
  call : IngestCall
  prepared : Option PreparedUpload := none

/-- The ingestion of an upload. -/
def KnowledgeEnvironment.admitFile (env : KnowledgeEnvironment) (prepared : PreparedUpload) :
    Admission where
  call := env.call prepared.request.toKnowledgeDocumentCreate true prepared.parsed.sourceSegments
  prepared := some prepared

/-- The ingestion of a document. -/
def KnowledgeEnvironment.admitDocument (env : KnowledgeEnvironment)
    (request : KnowledgeDocumentCreate) : Admission where
  call := env.call request false []

/-- How far a request has come. -/
inductive KnowledgePhase where
  | received
  | ingesting (admission : Admission) (phase : IngestPhase)
  | finished (outcome : Except Failure KnowledgeResponse)

/-- A request is ingested unless it has been refused. -/
def KnowledgePhase.start : Except Failure Admission → KnowledgePhase
  | .ok admission => .ingesting admission .idle
  | .error failure => .finished (.error failure)

namespace UploadService

variable {σ : Type} (service : UploadService)

/-- `_enrich_graph`, and the graph that is committed then. -/
def enrichUploaded (env : GraphEnv) (kb : KnowledgeBase) (documentId : UUID) (requested : Bool) :
    (GraphEnrichmentStatus × Option Str) × KnowledgeGraph :=
  if !requested then ((.notRequested, none), kb.graph)
  else
    match service.graph with
    | none => ((.disabled, some "knowledge_graph_disabled"), kb.graph)
    | some enrichment =>
      match enrichment.enrichGraph env kb.store documentId kb.graph with
      | (.ok _, graph) => ((.completed, none), graph)
      | (.error (.application error), graph) => ((.failed, some error.errorCode), graph)
      | (.error _, graph) => ((.failed, some "graph_enrichment_failed"), graph)

/-- `enrich_document_graph`, and the graph that is committed then. -/
def enrichDocumentGraph (env : GraphEnv) (kb : KnowledgeBase) (documentId : UUID) :
    Except Failure KnowledgeResponse × KnowledgeGraph :=
  match service.graph with
  | none => (.error (.application .knowledgeGraphDisabled), kb.graph)
  | some enrichment =>
    let outcome := enrichment.enrichGraph env kb.store documentId kb.graph
    (outcome.1.map KnowledgeResponse.graph, outcome.2)

/-- The response of `ingest_file`, which validates it. -/
def respondFile (prepared : PreparedUpload) (result : KnowledgeIngestionResult)
    (report : GraphEnrichmentStatus × Option Str) : Except Failure KnowledgeResponse :=
  if 1 ≤ result.document.content.length ∧ 1 ≤ result.chunkCount then
    .ok (.file
      { document := result.document
        filename := prepared.filename
        mimeType := prepared.parsed.mimeType
        parser := prepared.parsed.parserName
        extractionMethod := prepared.parsed.extractionMethod
        normalizedCharacterCount := result.document.content.length
        chunkCount := result.chunkCount
        duplicate := result.duplicate
        graphEnrichmentStatus := report.1
        graphErrorCode := report.2 })
  else .error .value

/-- The response of `ingest_document`, which validates it. -/
def respondDocument (result : KnowledgeIngestionResult) : Except Failure KnowledgeResponse :=
  if 1 ≤ result.chunkCount then .ok (.document result) else .error .value

/-- What follows on an ingestion that has returned. -/
def conclude (env : KnowledgeEnvironment) (kb : KnowledgeBase) (prepared : Option PreparedUpload)
    (result : KnowledgeIngestionResult) : Except Failure KnowledgeResponse × KnowledgeGraph :=
  match prepared with
  | some prepared =>
    let enriched := service.enrichUploaded env.graph kb result.document.documentId
      prepared.enrichGraph
    (respondFile prepared result enriched.1, enriched.2)
  | none => (respondDocument result, kb.graph)

/-- The next step of a request. -/
def requestStep (request : KnowledgeRequest σ) (env : KnowledgeEnvironment) (kb : KnowledgeBase) :
    KnowledgePhase → KnowledgePhase × KnowledgeBase
  | .received =>
    match request with
    | .file upload => (.start ((service.prepare upload).map env.admitFile), kb)
    | .document request => (.start (.ok (env.admitDocument request)), kb)
    | .graph documentId =>
      let outcome := service.enrichDocumentGraph env.graph kb documentId
      (.finished outcome.1, { kb with graph := outcome.2 })
  | .ingesting admission (.finished (.ok result)) =>
    let outcome := service.conclude env kb admission.prepared result
    (.finished outcome.1, { kb with graph := outcome.2 })
  | .ingesting _ (.finished (.error failure)) => (.finished (.error failure), kb)
  | .ingesting admission phase =>
    let next := service.knowledge.ingestStep admission.call kb.store phase
    (.ingesting admission next.1, { kb with store := next.2 })
  | .finished outcome => (.finished outcome, kb)

end UploadService

end AssessmentPlatform
