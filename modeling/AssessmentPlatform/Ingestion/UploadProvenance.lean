import AssessmentPlatform.Ingestion.UploadRuns

/-!
# From a file to the chunks of its document

Every parser makes the text of a file from its segments, with blank lines between them. So the
segments are found in the normalized text, and what is stored with a chunk names the pages and
sections that contribute to it.
-/

namespace AssessmentPlatform

open Library

/-! ## Parsers -/

/-- A parser makes the text from the segments. -/
def DocumentParser.JoinsSegments (parser : DocumentParser) : Prop :=
  ∀ data filename mimeType parsed, parser.parse data filename mimeType = .ok parsed →
    segmentsText parsed.segments = parsed.text

/-- Joined segments are trimmed already. -/
theorem trim_segmentsText (segments : List ParsedDocumentSegment) :
    (segmentsText segments).trim = segmentsText segments := by
  by_cases hsegments : segments = []
  · subst hsegments
    rfl
  · exact (segmentsText_valid hsegments).1.2

/-- A document that has been created from joined segments. -/
theorem segmentsText_of_create {fields : ParsedDocument.Fields} {parsed : ParsedDocument}
    (h : ParsedDocument.create fields = .ok parsed)
    (hjoined : fields.text = segmentsText fields.segments) :
    segmentsText parsed.segments = parsed.text := by
  rw [ParsedDocument.create_eq_ok h]
  change segmentsText fields.segments = fields.text.trim
  rw [hjoined, trim_segmentsText]

/-- The text of a parsed PDF file is that of its segments. -/
theorem joinsSegments_pdf (parser : PDFDocumentParser) :
    DocumentParser.JoinsSegments ⟨.pdf, parser.parse⟩ := by
  intro data filename mimeType parsed h
  dsimp only [PDFDocumentParser.parse] at h
  split at h
  · cases h
  · split at h
    · cases h
    · exact segmentsText_of_create h rfl

/-- The text of a parsed DOCX file is that of its segments. -/
theorem joinsSegments_docx (parser : DOCXDocumentParser) :
    DocumentParser.JoinsSegments ⟨.docx, parser.parse⟩ := by
  intro data filename mimeType parsed h
  dsimp only [DOCXDocumentParser.parse] at h
  split at h
  · cases h
  · split at h
    · cases h
    · exact segmentsText_of_create h rfl

/-- The text of a parsed Markdown file is that of its segments. -/
theorem joinsSegments_markdown :
    DocumentParser.JoinsSegments ⟨.markdown, MarkdownDocumentParser.parse⟩ := by
  intro data filename mimeType parsed h
  dsimp only [MarkdownDocumentParser.parse] at h
  obtain ⟨decoded, -, h⟩ := except_bind_eq_ok.mp h
  obtain ⟨s, -, h⟩ := except_bind_eq_ok.mp h
  obtain ⟨s', -, h⟩ := except_bind_eq_ok.mp h
  exact segmentsText_of_create h rfl

/-- The segment of a text file is trimmed as its text is. -/
theorem joinsSegments_text : DocumentParser.JoinsSegments ⟨.txt, TextDocumentParser.parse⟩ := by
  intro data filename mimeType parsed h
  dsimp only [TextDocumentParser.parse] at h
  split at h
  · cases h
  rename_i text hdecode
  split at h
  · cases h
  obtain ⟨segment, hsegment, hcreate⟩ := except_bind_eq_ok.mp h
  have htext : segment.text = text.trim := by
    unfold ParsedDocumentSegment.create at hsegment
    split at hsegment
    · cases hsegment
      rfl
    · cases hsegment
  rw [ParsedDocument.create_eq_ok hcreate]
  change segmentsText [segment] = text.trim
  rw [segmentsText, List.map_singleton, Str.join, List.intercalate_singleton]
  exact htext

/-- The text of every parsed file is that of its segments. -/
theorem joinsSegments_of_mem {pdf : PDFDocumentParser} {docx : DOCXDocumentParser}
    {parser : DocumentParser} (h : parser ∈ (getFileParserRouter pdf docx).parsers) :
    parser.JoinsSegments := by
  simp only [getFileParserRouter, List.mem_cons, List.not_mem_nil, or_false] at h
  rcases h with rfl | rfl | rfl | rfl
  · exact joinsSegments_pdf pdf
  · exact joinsSegments_docx docx
  · exact joinsSegments_text
  · exact joinsSegments_markdown

/-- The text of the segments for the ingestion is the joined one. -/
theorem documentText_sourceSegments (parsed : ParsedDocument) :
    documentText parsed.sourceSegments = segmentsText parsed.segments := by
  unfold documentText ParsedDocument.sourceSegments segmentsText
  rw [List.map_map]
  rfl

/-! ## Preparation -/

/-- The parser that is selected is the one of the format of the name. -/
theorem DocumentParserRouter.select_eq_ok {π : Type} {router : DocumentParserRouter π}
    {folding : CaseFolding} {namelist : List UInt8 → Except Failure (Option (List Str))}
    {filename : Str} {mimeType : Option Str} {data : List UInt8} {parser : π}
    (h : router.select folding namelist filename mimeType data = .ok parser) :
    parser ∈ router.parsers ∧
      selectedFormat folding filename = some (router.fileFormat parser) := by
  unfold DocumentParserRouter.select at h
  split at h
  · cases h
  dsimp only [pure_bind] at h
  split at h
  · cases h
  rename_i fileFormat hformat
  have hregistered : getBy router.fileFormat fileFormat (dictBy router.fileFormat router.parsers) =
      some parser → parser ∈ router.parsers ∧
        selectedFormat folding filename = some (router.fileFormat parser) := by
    intro hfound
    rw [getBy_dictBy] at hfound
    obtain ⟨hmem, hkey⟩ := List.mem_filter.mp (List.mem_of_getLast? hfound)
    exact ⟨hmem, hformat.trans (congrArg some (of_decide_eq_true hkey).symm)⟩
  -- the checks of the content type and the content
  split at h
  · cases h
  split at h
  · cases h
  split at h
  · obtain ⟨isPackage, -, h⟩ := except_bind_eq_ok.mp h
    split at h
    · cases h
    split at h
    · cases h
    split at h
    · cases h
    · rename_i found hfound
      cases h
      exact hregistered hfound
  · split at h
    · cases h
    split at h
    · cases h
    · rename_i found hfound
      cases h
      exact hregistered hfound

namespace UploadService

variable {σ : Type} {service : UploadService} {upload : Upload σ} {prepared : PreparedUpload}

/-- What is read of an upload is its content within the limit. -/
theorem readUpload_eq (service : UploadService) (upload : Upload σ) :
    service.readUpload upload =
      service.boundedContent (upload.source.unread upload.file) := by
  have hinitial : service.HasRead upload.source (upload.source.unread upload.file)
      { upload := upload.file } := ⟨Nat.zero_le _, rfl, rfl⟩
  have hreads : service.readsLeft upload.source { upload := upload.file } <
      (upload.source.unread upload.file).length + 1 :=
    Nat.lt_succ_of_le (Nat.min_le_left _ _)
  obtain ⟨result, hresult, heq⟩ := loop_ends (service.readsLeft upload.source)
    (fun s s' h hstep => h.step hstep) (fun s result h hstep => h.result hstep) hinitial hreads
  rw [← heq]
  unfold readUpload FileIngestionService.readBounded
  rw [hresult]
  rfl

/-- An upload that has been prepared: its bytes are within the limit, and the parser of the format
of its name has parsed all of them. -/
structure Prepares (service : UploadService) (upload : Upload σ) (parser : DocumentParser)
    (prepared : PreparedUpload) : Prop where
  filename_eq : sanitizeFilename upload.filename = .ok prepared.filename
  within : (upload.source.unread upload.file).length ≤ service.maxUploadSizeBytes
  parser_mem : parser ∈ service.parsers.parsers
  format_eq : selectedFormat service.folding prepared.filename =
    some (service.parsers.fileFormat parser)
  parsed_eq : parser.parse (upload.source.unread upload.file) prepared.filename
    (uploadMimeType upload.contentType) = .ok prepared.parsed
  content_eq : prepared.request.content = prepared.parsed.text
  enrichGraph_eq : prepared.enrichGraph = upload.enrichGraph

/-- The request has the parsed text. -/
theorem content_of_buildRequest {casefold : Str → Str} {parsed : ParsedDocument}
    {title : Option Str} {sourceType : Option KnowledgeSourceType}
    {userMetadata : List (Str × Json)} {request : KnowledgeDocumentCreate.WithMetadata}
    (h : buildRequest casefold parsed title sourceType userMetadata = .ok request) :
    request.content = parsed.text := by
  unfold buildRequest at h
  dsimp only at h
  generalize (if title.getD [] = [] then parsed.title else title.getD []) = given at h
  split at h
  · cases h
  split at h
  · rename_i created hcreated
    cases h
    unfold KnowledgeDocumentCreate.WithMetadata.create at hcreated
    split at hcreated
    · cases hcreated
      exact parsed.valid.text.1.2
    · cases hcreated
  · cases h

/-- An upload that is prepared has gone through the checks and a parser of its format. -/
theorem prepares_of_prepare (h : service.prepare upload = .ok prepared) :
    ∃ parser, service.Prepares upload parser prepared := by
  unfold prepare at h
  obtain ⟨filename, hfilename, h⟩ := except_bind_eq_ok.mp h
  obtain ⟨data, hdata, h⟩ := except_bind_eq_ok.mp h
  obtain ⟨parser, hselected, h⟩ := except_bind_eq_ok.mp h
  obtain ⟨parsed, hparsed, h⟩ := except_bind_eq_ok.mp h
  obtain ⟨userMetadata, -, h⟩ := except_bind_eq_ok.mp h
  obtain ⟨request, hrequest, h⟩ := except_bind_eq_ok.mp h
  cases h
  rw [readUpload_eq, FileIngestionService.boundedContent] at hdata
  split at hdata
  · rename_i hwithin
    cases hdata
    obtain ⟨hmem, hformat⟩ := DocumentParserRouter.select_eq_ok hselected
    refine ⟨parser, hfilename, hwithin, hmem, hformat, ?_, content_of_buildRequest hrequest, rfl⟩
    revert hparsed
    cases parser.parse (upload.source.unread upload.file) filename
      (uploadMimeType upload.contentType) with
    | ok document => exact id
    | error failure =>
      intro hparsed
      cases failure <;> cases hparsed
  · cases hdata

end UploadService

/-! ## Attribution -/

namespace KnowledgeIngestionService

variable {service : KnowledgeIngestionService} {store : KnowledgeStore}
  {document : KnowledgeDocumentRecord} {sourceSegments : List KnowledgeSourceSegment}

/-- A stored chunk is the slice of the text at a chunk, and records the segments that contribute
something visible to it. -/
structure ChunkAttributed (content : Str) (sourceSegments : List KnowledgeSourceSegment)
    (chunk : TextChunk) (row : KnowledgeChunkRecord) : Prop where
  index_eq : row.chunkIndex = chunk.index
  content_eq : row.content = slice content chunk.startOffset chunk.endOffset
  records : RecordsContributors content (buildProvenanceSpans content sourceSegments) chunk
    row.provenance

/-- The segments are found in the text of a document in order, and its stored chunks are
attributed to them. -/
structure Attributed (service : KnowledgeIngestionService) (store : KnowledgeStore)
    (document : KnowledgeDocumentRecord) (sourceSegments : List KnowledgeSourceSegment) :
    Prop where
  located : Located document.content 0 sourceSegments
    (buildProvenanceSpans document.content sourceSegments)
  chunks : ∃ textChunks, chunkText document.content service.chunkSize service.chunkOverlap =
      .ok textChunks ∧ textChunks ≠ [] ∧
    List.Forall₂ (ChunkAttributed document.content sourceSegments) textChunks
      (store.listByDocument document.documentId)

/-- The chunks of a text have been trimmed from windows of it. -/
theorem exists_trimmedFrom {text : Str} {chunkSize overlap : ℤ} {textChunks : List TextChunk}
    (h : chunkText text chunkSize overlap = .ok textChunks) {chunk : TextChunk}
    (hchunk : chunk ∈ textChunks) : ∃ window, TrimmedFrom (normalizeText text) window chunk := by
  obtain ⟨hsize, hoverlap, hlt⟩ := chunkText_bounds h
  rcases chunkText_cases text hsize hoverlap hlt with
    ⟨-, hnone⟩ | ⟨-, ws, textChunks', hsome, hwindowed⟩
  · rw [hnone] at h
    cases h
    cases hchunk
  · rw [hsome] at h
    cases h
    obtain ⟨window, -, -, htrimmed⟩ := hwindowed.window_of_mem hchunk
    exact ⟨window, htrimmed⟩

/-- What is stored of a document is attributed to the segments of which its text consists. -/
theorem Intact.attributed (h : service.Intact store document sourceSegments)
    (htext : normalizeText (documentText sourceSegments) = document.content) :
    service.Attributed store document sourceSegments := by
  have hlocated : Located document.content 0 sourceSegments
      (buildProvenanceSpans document.content sourceSegments) := by
    have hlaid := laidOut_documentText sourceSegments
    rw [htext] at hlaid
    exact provenanceSpansFrom_located sourceSegments [] _ hlaid
  obtain ⟨textChunks, htexts, hne, hall⟩ := h.chunks
  refine ⟨hlocated, textChunks, htexts, hne, ?_⟩
  rw [List.forall₂_iff_get] at hall ⊢
  refine ⟨hall.1, fun i hi hi' => ?_⟩
  have hrow := hall.2 i hi hi'
  obtain ⟨window, htrimmed⟩ := exists_trimmedFrom htexts (List.get_mem textChunks ⟨i, hi⟩)
  rw [h.normalized] at htrimmed
  refine ⟨hrow.chunkIndex_eq, ?_, ?_⟩
  · rw [hrow.content_eq]
    exact htrimmed.content
  · rw [hrow.provenance_eq]
    exact chunkProvenance_records hlocated htrimmed

end KnowledgeIngestionService

/-! ## Uploads -/

namespace UploadService

variable {σ ι : Type}

/-- What an upload has stored is attributed to the segments of the file that its parser has read. -/
theorem attributed_of_returned {service : UploadService} {store : KnowledgeStore}
    {pdf : PDFDocumentParser} {docx : DOCXDocumentParser}
    (hparsers : service.parsers = getFileParserRouter pdf docx) {upload : Upload σ}
    {prepared : PreparedUpload} (hprepared : service.prepare upload = .ok prepared)
    {env : KnowledgeEnvironment} {result : KnowledgeIngestionResult}
    (hreturned : service.knowledge.Returned store (env.admitFile prepared).call result)
    (hnew : result.duplicate = false) :
    ∃ parser, service.Prepares upload parser prepared ∧
      result.document.content = normalizeText prepared.parsed.text ∧
      service.knowledge.Attributed store result.document prepared.parsed.sourceSegments := by
  obtain ⟨parser, hprepares⟩ := prepares_of_prepare hprepared
  obtain ⟨hdocument, hstores⟩ := hreturned.stored hnew
  have hcontent : result.document.content = normalizeText prepared.parsed.text := by
    rw [hdocument, ← hprepares.content_eq]
    rfl
  have hjoined : segmentsText prepared.parsed.segments = prepared.parsed.text := by
    have hmem := hprepares.parser_mem
    rw [hparsers] at hmem
    exact joinsSegments_of_mem hmem _ _ _ _ hprepares.parsed_eq
  refine ⟨parser, hprepares, hcontent, ?_⟩
  have hintact := hstores.intact
  rw [← hdocument] at hintact
  apply hintact.attributed
  change normalizeText (documentText prepared.parsed.sourceSegments) = _
  rw [documentText_sourceSegments, hjoined, hcontent]

variable [DecidableEq ι]

/-- In every order of the steps, the document of an upload that is no duplicate has the normalized
text of the file as its parser has read it, and every stored chunk records exactly the pages and
sections of the segments that contribute something visible to it. -/
theorem upload_attributed (service : UploadService) (pdf : PDFDocumentParser)
    (docx : DOCXDocumentParser) (hparsers : service.parsers = getFileParserRouter pdf docx)
    (requests : ι → KnowledgeRequest σ) (envs : ι → KnowledgeEnvironment)
    (hfresh : Function.Injective fun i => (envs i).documentId) (schedule : List ι) (i : ι)
    (upload : Upload σ) (hrequest : requests i = .file upload) (result : KnowledgeIngestionResult)
    (hresult : ((service.serve requests envs schedule).own i).ingested = some result)
    (hnew : result.duplicate = false) :
    ∃ parser prepared, service.Prepares upload parser prepared ∧
      result.document.content = normalizeText prepared.parsed.text ∧
      service.knowledge.Attributed (service.serve requests envs schedule).shared.store
        result.document prepared.parsed.sourceSegments := by
  have hvalid := serve_valid service requests hfresh schedule
  obtain ⟨admission, hadmits, hreturned⟩ := (hvalid.own i).returned hresult
  rw [hrequest] at hadmits
  obtain ⟨prepared, hprepared, rfl⟩ := hadmits
  obtain ⟨parser, hattributed⟩ := attributed_of_returned hparsers hprepared hreturned hnew
  exact ⟨parser, prepared, hattributed⟩

/-- A file with a section A and a section B, which arrives in pieces. -/
def headedUpload : Upload (ℕ × List UInt8) where
  filename := some "policy.md"
  contentType := some "text/markdown"
  source := .fragments fun _ => 3
  file := (0, [35, 32, 65, 10, 120, 10, 35, 32, 66, 10, 121, 10])

/-- The document of the first one of two uploads of the file. -/
def headedResult : KnowledgeIngestionResult where
  document :=
    { documentId := 1
      title := "A"
      sourceType := .markdown
      content := [35, 32, 65, 10, 120, 10, 10, 35, 32, 66, 10, 121]
      contentHash := "823412d1eacb67956220e532959f0104603057c88704863ca38e7cd188fda812"
      createdAt := 100 }
  chunkCount := 1

/-- The one chunk of each of the two documents records both sections. -/
theorem policy_file_attributed :
    (∃ parser prepared,
      textUploads.Prepares headedUpload parser prepared ∧
      headedResult.document.content = normalizeText prepared.parsed.text ∧
      textUploads.knowledge.Attributed
        (textUploads.serve (fun _ => .file headedUpload) policyEnvironments overlappingSteps
          ).shared.store
        headedResult.document prepared.parsed.sourceSegments) ∧
      (textUploads.serve (fun _ => .file headedUpload) policyEnvironments overlappingSteps
          ).shared.store.chunks.map (fun chunk => chunk.provenance.sourceSections) =
        [some [[65], [66]], some [[65], [66]]] :=
  ⟨upload_attributed textUploads _ _ rfl (fun _ => .file headedUpload) policyEnvironments
    policyEnvironments_fresh overlappingSteps false _ rfl headedResult (by decide +kernel) rfl,
    by decide +kernel⟩

end UploadService

end AssessmentPlatform
