import AssessmentPlatform.Assessments.Evidence
import AssessmentPlatform.Ingestion.KnowledgeStores
import AssessmentPlatform.Ingestion.UploadProvenance
import AssessmentPlatform.KnowledgeGraph.StoreRetrieval

/-!
# Citations

A reference of an assessment leads to a stored chunk, and from there to the file from which the
chunk has been taken. Requests to the knowledge base may take their steps while the assessment is
generated: its services read the knowledge base in between, and what they have read stays.
-/

namespace AssessmentPlatform

open Library

/-! ## Stored evidence -/

/-- An item of evidence is a stored chunk, under the title and the source type of its document. -/
structure KnowledgeStore.Evidences (store : KnowledgeStore) (item : RetrievedEvidence)
    (chunk : KnowledgeChunkRecord) (document : KnowledgeDocumentRecord) : Prop where
  chunk_mem : chunk ∈ store.chunks
  document_mem : document ∈ store.documents
  owner_eq : document.documentId = chunk.documentId
  chunkId_eq : item.chunkId = chunk.chunkId
  documentId_eq : item.documentId = document.documentId
  title_eq : item.documentTitle = document.title
  content_eq : item.content = chunk.content
  sourceType_eq : item.sourceType = document.sourceType

/-- The store holds the chunk of an item of evidence. -/
def KnowledgeStore.Holds (store : KnowledgeStore) (item : RetrievedEvidence) : Prop :=
  ∃ chunk document, store.Evidences item chunk document

/-- What a store holds does not depend on the path that has found it. -/
theorem KnowledgeStore.unlabelled_holds (store : KnowledgeStore) : Unlabelled store.Holds := by
  rintro item source ⟨chunk, document, h⟩
  exact ⟨chunk, document, { h with }⟩

/-- A store that extends another one holds what that one holds. -/
theorem KnowledgeStore.Extends.holds {store store' : KnowledgeStore} (h : store.Extends store')
    {item : RetrievedEvidence} (hitem : store.Holds item) : store'.Holds item := by
  obtain ⟨chunk, document, hevidences⟩ := hitem
  exact ⟨chunk, document,
    { hevidences with
      chunk_mem := h.chunks.subset hevidences.chunk_mem
      document_mem := h.documents.subset hevidences.document_mem }⟩

/-! ## Services -/

section Services

/-- A row of the vector store joins a stored chunk with its stored document. -/
theorem VectorStore.mem_rows {store : VectorStore} {row : ChunkRow} (h : row ∈ store.rows) :
    row.1 ∈ store.knowledge.chunks ∧ row.2 ∈ store.knowledge.documents ∧
      row.2.documentId = row.1.documentId := by
  obtain ⟨chunk, hchunk, hrow⟩ := List.mem_filterMap.mp h
  obtain ⟨document, hfound, rfl⟩ := Option.map_eq_some_iff.mp hrow
  obtain ⟨hdocument, howner⟩ := getBy_mem hfound
  exact ⟨hchunk, hdocument, howner⟩

/-- A vector search finds stored chunks. -/
theorem VectorStore.finds (store : VectorStore) (session : VectorStore.SearchSession) :
    (store.retrievalService session).Finds store.knowledge.Holds := by
  intro query topK found hfound
  rw [← VectorStore.search_default] at hfound
  obtain ⟨vector, limit, threshold, rfl⟩ := VectorStore.search_eq_ok hfound
  intro item hitem
  obtain ⟨row, hrow, rfl⟩ := List.mem_map.mp (VectorStore.mem_ranking hitem)
  obtain ⟨hchunk, hdocument, howner⟩ := VectorStore.mem_rows (List.mem_filter.mp hrow).1
  exact ⟨row.1, row.2, hchunk, hdocument, howner, rfl, rfl, rfl, rfl, rfl⟩

/-- So does a graph search. -/
theorem GraphStore.finds (store : GraphStore) (session : GraphStore.RetrievalSession) :
    (store.retrievalService session).Finds store.knowledge.Holds := by
  intro query maxDepth entityTypes found hsearch
  obtain ⟨traversed, hlookup, hfound⟩ := except_bind_eq_ok.mp hsearch
  cases traversed with
  | none =>
    rw [GraphNeighborhood.evidence_of_empty hfound]
    exact List.forall_mem_nil _
  | some traversal =>
    obtain ⟨seeds, depth, htraversal⟩ := GraphStore.lookup_eq_ok hlookup
    rw [(traversal.toNeighborhood_eq_ok hfound).1, (GraphStore.traversalData_eq_ok htraversal).1]
    intro item hitem
    obtain ⟨chunk, hchunk, hitem⟩ := List.mem_filterMap.mp hitem
    obtain ⟨document, hdocument, rfl⟩ := Option.map_eq_some_iff.mp hitem
    have hmem := (List.mem_filter.mp ((List.mem_insertionSort _).mp hchunk)).1
    obtain ⟨hstored, howner⟩ := getBy_mem hdocument
    exact ⟨chunk, document, hmem, hstored, howner, rfl, rfl, rfl, rfl, rfl⟩

/-- What a retrieval finds has every weaker property. -/
theorem RetrievalService.Finds.mono {service : RetrievalService} {P Q : RetrievedEvidence → Prop}
    (h : service.Finds P) (hPQ : ∀ item, P item → Q item) : service.Finds Q :=
  fun query topK found hfound item hitem => hPQ item (h query topK found hfound item hitem)

/-- What a graph retrieval finds has every weaker property. -/
theorem GraphRetrievalService.Finds.mono {service : GraphRetrievalService}
    {P Q : RetrievedEvidence → Prop} (h : service.Finds P) (hPQ : ∀ item, P item → Q item) :
    service.Finds Q :=
  fun query maxDepth entityTypes found hfound item hitem =>
    hPQ item (h query maxDepth entityTypes found hfound item hitem)

end Services

/-! ## Snapshots -/

/-- A service searches one of some stores. -/
def RetrievalService.Reads (service : RetrievalService) (snapshot : GraphStore → Prop) : Prop :=
  ∃ store session, snapshot store ∧ service = store.toVectorStore.retrievalService session

/-- A service searches one of some stores. -/
def GraphRetrievalService.Reads (service : GraphRetrievalService) (snapshot : GraphStore → Prop) :
    Prop :=
  ∃ store session, snapshot store ∧ service = store.retrievalService session

/-- Every invocation of a tool reads one of some stores. -/
structure KnowledgeTools.Read (tools : KnowledgeTools) (snapshot : GraphStore → Prop) : Prop where
  retrieval : ∀ n, (tools.retrieval n).Reads snapshot
  graph : ∀ graph ∈ tools.graph, ∀ n, (graph n).Reads snapshot

/-- The services of an assessment read some stores, each of them possibly another one. -/
structure AssessmentAgents.Read (agents : AssessmentAgents) (snapshot : GraphStore → Prop) :
    Prop where
  retrieval : agents.retrieval.Reads snapshot
  graph : agents.graph.Reads snapshot
  agentTools : agents.agentTools.Read snapshot
  evidenceTools : agents.evidenceTools.Read snapshot

section Snapshots

variable {snapshot : GraphStore → Prop} {P : RetrievedEvidence → Prop}
  (hsnapshot : ∀ store, snapshot store → ∀ item, store.knowledge.Holds item → P item)

include hsnapshot

/-- A retrieval that reads a snapshot finds what the snapshot holds. -/
theorem RetrievalService.Reads.finds {service : RetrievalService} (h : service.Reads snapshot) :
    service.Finds P := by
  obtain ⟨store, session, hstore, rfl⟩ := h
  exact (store.toVectorStore.finds session).mono (hsnapshot store hstore)

/-- A graph retrieval that reads a snapshot finds what the snapshot holds. -/
theorem GraphRetrievalService.Reads.finds {service : GraphRetrievalService}
    (h : service.Reads snapshot) : service.Finds P := by
  obtain ⟨store, session, hstore, rfl⟩ := h
  exact (store.finds session).mono (hsnapshot store hstore)

/-- Tools that read a snapshot find what the snapshot holds. -/
theorem KnowledgeTools.Read.find {tools : KnowledgeTools} (h : tools.Read snapshot) :
    tools.Find P :=
  ⟨fun n => (h.retrieval n).finds hsnapshot,
    fun graph hgraph n => (h.graph graph hgraph n).finds hsnapshot⟩

/-- Agents that read a snapshot find what the snapshot holds. -/
theorem AssessmentAgents.Read.find {agents : AssessmentAgents} (h : agents.Read snapshot) :
    agents.Find P :=
  ⟨h.retrieval.finds hsnapshot, h.graph.finds hsnapshot, h.agentTools.find hsnapshot,
    h.evidenceTools.find hsnapshot⟩

end Snapshots

/-! ## Origins -/

namespace UploadService

variable {σ ι : Type} {service : UploadService} {requests : ι → KnowledgeRequest σ}
  {envs : ι → KnowledgeEnvironment}

/-- The request that has stored a document is known, and if it has been an upload, a chunk of the
document is a part of the text of the file, with the pages and sections of this part. -/
structure Origin (service : UploadService) (requests : ι → KnowledgeRequest σ)
    (phases : ι → KnowledgePhase) (chunk : KnowledgeChunkRecord)
    (document : KnowledgeDocumentRecord) (i : ι) : Prop where
  stored : ∃ result, (phases i).ingested = some result ∧ result.duplicate = false ∧
    result.document = document
  attributed : ∀ upload, requests i = .file upload → ∃ parser prepared textChunk,
    service.Prepares upload parser prepared ∧
      document.content = normalizeText prepared.parsed.text ∧
      KnowledgeIngestionService.ChunkAttributed document.content prepared.parsed.sourceSegments
        textChunk chunk

variable [DecidableEq ι]

/-- A store has the contents of the knowledge base at some moment of a run. -/
def Snapshot (service : UploadService) (requests : ι → KnowledgeRequest σ)
    (envs : ι → KnowledgeEnvironment) (schedule : List ι) (store : GraphStore) : Prop :=
  ∃ earlier, earlier <+: schedule ∧
    store.knowledge = (service.serve requests envs earlier).shared.store ∧
    store.graph = (service.serve requests envs earlier).shared.graph

/-- The store in which the services of an assessment search at some moment. -/
theorem snapshot_graphStore (service : UploadService) (requests : ι → KnowledgeRequest σ)
    (hfresh : FreshIdentifiers envs) {earlier schedule : List ι} (h : earlier <+: schedule)
    (sortKey : Str → Str) :
    service.Snapshot requests envs schedule
      ((service.serve requests envs earlier).shared.graphStore
        (serve_keys service requests hfresh earlier) sortKey) :=
  ⟨earlier, h, rfl, rfl⟩

/-- What a snapshot holds is stored in the end. -/
theorem Snapshot.holds (hfresh : FreshIdentifiers envs) {schedule : List ι} {store : GraphStore}
    (h : service.Snapshot requests envs schedule store) {item : RetrievedEvidence}
    (hitem : store.knowledge.Holds item) :
    (service.serve requests envs schedule).shared.store.Holds item := by
  obtain ⟨earlier, hearlier, hknowledge, -⟩ := h
  rw [hknowledge] at hitem
  exact (serve_extends service requests hfresh hearlier).holds hitem

/-- Every stored chunk has an origin. -/
theorem origin_of_stored {pdf : PDFDocumentParser} {docx : DOCXDocumentParser}
    (hparsers : service.parsers = getFileParserRouter pdf docx)
    (hfresh : Function.Injective fun i => (envs i).documentId) (schedule : List ι)
    {chunk : KnowledgeChunkRecord} {document : KnowledgeDocumentRecord}
    (hchunk : chunk ∈ (service.serve requests envs schedule).shared.store.chunks)
    (hdocument : document ∈ (service.serve requests envs schedule).shared.store.documents)
    (howner : document.documentId = chunk.documentId) :
    ∃ i, service.Origin requests (service.serve requests envs schedule).own chunk document i := by
  obtain ⟨i, result, hresult, hnew, rfl⟩ :=
    (mem_documents_iff hfresh schedule document).mp hdocument
  refine ⟨i, ⟨result, hresult, hnew, rfl⟩, fun upload hupload => ?_⟩
  have hvalid := serve_valid service requests hfresh schedule
  obtain ⟨admission, hadmits, hreturned⟩ := (hvalid.own i).returned hresult
  rw [hupload] at hadmits
  obtain ⟨prepared, hprepared, rfl⟩ := hadmits
  obtain ⟨parser, hprepares, hcontent, hattributed⟩ :=
    attributed_of_returned hparsers hprepared hreturned hnew
  obtain ⟨textChunks, -, -, hall⟩ := hattributed.chunks
  have hlisted : chunk ∈ (service.serve requests envs schedule).shared.store.listByDocument
      result.document.documentId := by
    unfold KnowledgeStore.listByDocument
    rw [List.mem_insertionSort, List.mem_filter]
    exact ⟨hchunk, by simpa using howner.symm⟩
  obtain ⟨textChunk, -, hattributes⟩ := exists_of_forall₂ hall.flip hlisted
  exact ⟨parser, prepared, textChunk, hprepares, hcontent, hattributes⟩

/-- An assessment is generated while requests to the knowledge base take their steps in any order;
each use of its services reads the knowledge base at some moment. Then every reference of the
candidate names an item of its evidence, and every item of its evidence is a chunk that is stored in
the end, with its document; and the request that has stored it is known, with the part of the file
if it has been an upload. -/
theorem citations_traced (service : UploadService) (pdf : PDFDocumentParser)
    (docx : DOCXDocumentParser) (hparsers : service.parsers = getFileParserRouter pdf docx)
    (requests : ι → KnowledgeRequest σ) (envs : ι → KnowledgeEnvironment)
    (hfresh : FreshIdentifiers envs) (schedule : List ι) (agents : AssessmentAgents)
    (hread : agents.Read (service.Snapshot requests envs schedule))
    (settings : ApplicationSettings) (requestId : Option RequestId) (timers : Timers)
    (assessmentId : UUID) (request : AssessmentRequest) (routing : ResolvedExecutionRoute)
    (candidate : Candidate)
    (hgenerate : (getAssessmentService settings agents.parts).generate requestId timers assessmentId
      request routing = .ok candidate) :
    (∀ reference ∈ candidate.result.sourceReferences, ∃ item ∈ candidate.evidence,
      (item.documentId, item.chunkId) = reference.key) ∧
    ∀ item ∈ candidate.evidence, ∃ chunk document,
      (service.serve requests envs schedule).shared.store.Evidences item chunk document ∧
      ∃ i, service.Origin requests (service.serve requests envs schedule).own chunk document i := by
  have hsnapshot : ∀ store, service.Snapshot requests envs schedule store →
      ∀ item, store.knowledge.Holds item →
        (service.serve requests envs schedule).shared.store.Holds item :=
    fun store hstore item hitem => hstore.holds hfresh hitem
  obtain ⟨hevidence, hreferences⟩ := (hread.find hsnapshot).generate
    (KnowledgeStore.unlabelled_holds _) hgenerate
  refine ⟨hreferences, fun item hitem => ?_⟩
  obtain ⟨chunk, document, hevidences⟩ := hevidence item hitem
  exact ⟨chunk, document, hevidences, origin_of_stored hparsers hfresh.documents schedule
    hevidences.chunk_mem hevidences.document_mem hevidences.owner_eq⟩

/-! ## An assessment between two uploads -/

/-- The store after some steps of the two uploads. -/
def policyStore (schedule : List Bool) : GraphStore :=
  (textUploads.serve policyFiles policyDraws schedule).shared.graphStore
    (serve_keys textUploads policyFiles policyDraws_fresh schedule) id

/-- A vector search in the store. -/
def policyRetrieval (schedule : List Bool) : RetrievalService :=
  (policyStore schedule).toVectorStore.retrievalService
    { embedTexts := fun _ => .ok [[1]]
      cosineDistance := fun _ _ => 0
      topK := 5
      similarityThreshold := 0 }

/-- A graph search in the store. -/
def policyGraph (schedule : List Bool) : GraphRetrievalService :=
  (policyStore schedule).retrievalService
    { unicode := ⟨id, id⟩
      word := fun _ => false
      maxDepth := 2
      maxEntities := 10
      minConfidence := 0
      maxDepth_le := twoHops_le }

/-- Agents that search the store; the generator cites the only chunk of the first document and one
that does not exist. -/
def policyAgents (schedule : List Bool) : AssessmentAgents where
  generator _ := .ok
    { executiveSummary := [], risks := [], reviewRecommended := false, informationGaps := []
      sourceReferences := [⟨1, 0, "policy"⟩, ⟨3, 0, "policy"⟩] }
  retrieval := policyRetrieval schedule
  graph := policyGraph schedule
  agent := .insistent
  agentTools := { KnowledgeTools.empty with retrieval := fun _ => policyRetrieval schedule }
  maxSteps := 5
  maxToolCalls := 5
  recursionLimit := 25
  decideToolCall _ _ _ := .ok none
  generateBrief _ _ := .ok .unavailable
  evidenceTools := { KnowledgeTools.empty with retrieval := fun _ => policyRetrieval schedule }
  evidenceMaxSteps := 5
  evidenceMaxToolCalls := 5
  specialists := .succeeding
  maxFailures := 1
  sha256 := id
  unicode := ⟨id, id⟩
  word _ := false

/-- The first ten steps, after which the first document is stored and the second one is not. -/
def policySteps : List Bool :=
  overlappingSteps.take 10

/-- The agents of the sample read the snapshot that their uploads leave. -/
theorem policyAgents_read :
    (policyAgents policySteps).Read
      (textUploads.Snapshot policyFiles policyDraws overlappingSteps) := by
  have hstore : textUploads.Snapshot policyFiles policyDraws overlappingSteps
      (policyStore policySteps) :=
    snapshot_graphStore textUploads policyFiles policyDraws_fresh
      (List.take_prefix 10 overlappingSteps) id
  have hretrieval : (policyRetrieval policySteps).Reads
      (textUploads.Snapshot policyFiles policyDraws overlappingSteps) :=
    ⟨policyStore policySteps, _, hstore, rfl⟩
  have hgraph : (policyGraph policySteps).Reads
      (textUploads.Snapshot policyFiles policyDraws overlappingSteps) :=
    ⟨policyStore policySteps, _, hstore, rfl⟩
  have htools : ({ KnowledgeTools.empty with
      retrieval := fun _ => policyRetrieval policySteps } : KnowledgeTools).Read
      (textUploads.Snapshot policyFiles policyDraws overlappingSteps) :=
    ⟨fun _ => hretrieval, fun graph hsome => absurd hsome (Option.not_mem_none graph)⟩
  exact ⟨hretrieval, hgraph, htools, htools⟩

/-- The settings of an assessment with retrieval. -/
def policySettings : ApplicationSettings where
  ragEnabled := true

/-- An assessment in the middle of the two uploads cites the document that is stored. -/
theorem policy_assessment_traced :
    ∃ candidate, (getAssessmentService policySettings (policyAgents policySteps).parts).generate
        none ⟨1, 1⟩ 7 .minimal .deterministic = .ok candidate ∧
      candidate.result.sourceReferences.map SourceReference.key = [(1, 0)] ∧
      (∀ reference ∈ candidate.result.sourceReferences, ∃ item ∈ candidate.evidence,
        (item.documentId, item.chunkId) = reference.key) ∧
      ∀ item ∈ candidate.evidence, ∃ chunk document,
        (textUploads.serve policyFiles policyDraws overlappingSteps).shared.store.Evidences item
          chunk document ∧
        ∃ i, textUploads.Origin policyFiles
          (textUploads.serve policyFiles policyDraws overlappingSteps).own chunk document i := by
  have hkeys : ((getAssessmentService policySettings (policyAgents policySteps).parts).generate none
      ⟨1, 1⟩ 7 .minimal .deterministic).map (fun candidate =>
        candidate.result.sourceReferences.map SourceReference.key) = .ok [(1, 0)] := by
    decide +kernel
  obtain ⟨candidate, hgenerate, hreferences⟩ := except_map_eq_ok.mp hkeys
  exact ⟨candidate, hgenerate, hreferences,
    citations_traced textUploads _ _ rfl policyFiles policyDraws policyDraws_fresh overlappingSteps
      (policyAgents policySteps) policyAgents_read policySettings none ⟨1, 1⟩ 7 .minimal
      .deterministic candidate hgenerate⟩

end UploadService

end AssessmentPlatform
