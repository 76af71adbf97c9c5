import AssessmentPlatform.Rag.SerialIngestion

/-!
# The connector of the policy repository

A pull of the connector fetches one page of policy documents within its limits, gives them to the
ingestion service one after another with deduplication, and enriches the graph with the new ones.
Each document is committed on its own. Pulling a page again finds every document that the first
pull has found or added.
-/

namespace AssessmentPlatform

open Library

/-! ## The source -/

/-- Allowlisted upstream policy representation. The time of the last update is its ISO text. -/
structure PolicyDocument where
  externalId : Str
  title : Str
  content : Str
  sourceUri : Option Str := none
  updatedAt : Option Str := none
  metadata : List (Str × Json) := []
  externalId_accepted : externalId.ValidWithin 300
  title_accepted : title.ValidWithin 300
  content_accepted : content.ValidWithin 1000000
  sourceUri_accepted : ∀ uri ∈ sourceUri, uri.Valid ∧ uri.length ≤ 2000

/-- The input of an ingestion with the fields that name its source. -/
structure KnowledgeDocumentCreate.WithSource extends KnowledgeDocumentCreate.WithMetadata where
  sourceUri : Option Str
  externalId : Option Str
  sourceUri_accepted : ∀ uri ∈ sourceUri, uri.Valid ∧ uri.length ≤ 2000
  externalId_accepted : ∀ id ∈ externalId, id.Valid ∧ id.length ≤ 300

/-- The metadata of the request for a policy document. -/
def PolicyDocument.requestMetadata (document : PolicyDocument) (repositoryHost : Option Str) :
    Json :=
  .object
    [("connector", .object
      [("type", .str "policy_repository"),
       ("repository_host", repositoryHost.elim .null .str),
       ("external_updated_at", document.updatedAt.elim .null .str)]),
     ("upstream", .object document.metadata), ("content_trust", .str "untrusted_evidence")]

/-- The request for a policy document. Its texts have been accepted already. -/
def PolicyDocument.ingestionRequest (document : PolicyDocument) (repositoryHost : Option Str) :
    Except Failure KnowledgeDocumentCreate.WithSource :=
  match KnowledgeDocumentCreate.WithMetadata.create document.title .policy document.content
      (document.requestMetadata repositoryHost) with
  | .ok request => .ok
    { request with
      sourceUri := document.sourceUri
      externalId := document.externalId
      sourceUri_accepted := document.sourceUri_accepted
      externalId_accepted := by
        rintro _ ⟨⟩
        exact ⟨document.externalId_accepted.1, document.externalId_accepted.2.2⟩ }
  | .error _ => .error (.application .invalidConnectorResponse)

/-- The chunks of a response, and whether the request fails before the next one. -/
structure PolicyResponse where
  chunks : List (List UInt8)
  failed : Bool := false

/-- What the ingestion and the enrichment of one document meet. -/
structure PolicyEnvironment where
  documentId : UUID
  chunkId : ℕ → UUID
  createdAt : Time
  embedTexts : List Str → Except Failure (List (List ℚ))
  fault : IngestStep → KnowledgeStore → Option SQLAlchemyError := fun _ _ => none
  rollbackFault : Option SQLAlchemyError := none
  enriches : Bool := true

/-- The call of `ingest` for a request. -/
def PolicyEnvironment.call (env : PolicyEnvironment) (request : KnowledgeDocumentCreate) :
    IngestCall where
  request := request
  deduplicate := true
  documentId := env.documentId
  chunkId := env.chunkId
  createdAt := env.createdAt
  embedTexts := env.embedTexts
  fault := env.fault
  rollbackFault := env.rollbackFault

/-- The counts of a pull, and the documents that it has ingested or found. -/
structure PolicyRepositorySyncResult where
  fetched : ℕ
  ingested : ℤ
  duplicates : ℕ
  graphEnriched : ℕ
  graphFailed : ℕ
  documentIds : List UUID
  deriving DecidableEq

/-- The configured connector: the host of its base URL, whether it has a graph service, and what
`json.loads` and the model of a page make of the bytes of a response. -/
structure PolicyRepositoryConnector where
  repositoryHost : Option Str
  knowledge : KnowledgeIngestionService
  hasGraph : Bool
  maxDocuments : ℤ
  maxResponseBytes : ℤ
  readPage : List UInt8 → Except Failure (List PolicyDocument)

namespace PolicyRepositoryConnector

/-- The loop over the chunks of a response. -/
def receive (connector : PolicyRepositoryConnector) (failed : Bool) (received : List UInt8) :
    List (List UInt8) → Except Failure (List UInt8)
  | [] => if failed then .error (.application .connectorUnavailable) else .ok received
  | chunk :: chunks =>
    if connector.maxResponseBytes < (received ++ chunk).length then
      .error (.application .invalidConnectorResponse)
    else connector.receive failed (received ++ chunk) chunks

/-- The page of a response. -/
def fetch (connector : PolicyRepositoryConnector) (response : PolicyResponse) :
    Except Failure (List PolicyDocument) := do
  let data ← connector.receive response.failed [] response.chunks
  match connector.readPage data with
  | .ok documents =>
    if connector.maxDocuments < documents.length then
      throw (.application .invalidConnectorResponse)
    return documents
  | .error .value => throw (.application .invalidConnectorResponse)
  | .error failure => throw failure

/-- What `sync` has counted so far. -/
structure Progress where
  documentIds : List UUID := []
  duplicates : ℕ := 0
  graphEnriched : ℕ := 0
  graphFailed : ℕ := 0

/-- The result of `sync` for a number of documents. -/
def Progress.result (progress : Progress) (fetched : ℕ) : PolicyRepositorySyncResult where
  fetched := fetched
  ingested := fetched - progress.duplicates
  duplicates := progress.duplicates
  graphEnriched := progress.graphEnriched
  graphFailed := progress.graphFailed
  documentIds := progress.documentIds

/-- The body of the loop of `sync`, for a document and its index. -/
def syncDocument (connector : PolicyRepositoryConnector) (enrichGraph : Bool)
    (env : ℕ → PolicyEnvironment) (progress : Progress) (item : PolicyDocument × ℕ) :
    Prog KnowledgeStore Failure Progress :=
  match item.1.ingestionRequest connector.repositoryHost with
  | .error failure => throw failure
  | .ok request => do
    let result ← connector.knowledge.ingest ((env item.2).call request.toKnowledgeDocumentCreate)
    let enrich := enrichGraph && !result.duplicate && connector.hasGraph
    return {
      documentIds := progress.documentIds ++ [result.document.documentId]
      duplicates := progress.duplicates + result.duplicate.toNat
      graphEnriched := progress.graphEnriched + (enrich && (env item.2).enriches).toNat
      graphFailed := progress.graphFailed + (enrich && !(env item.2).enriches).toNat }

/-- `sync`. -/
def sync (connector : PolicyRepositoryConnector) (response : PolicyResponse) (enrichGraph : Bool)
    (env : ℕ → PolicyEnvironment) : Prog KnowledgeStore Failure PolicyRepositorySyncResult :=
  match connector.fetch response with
  | .error failure => throw failure
  | .ok page => do
    let progress ← page.zipIdx.foldlM (connector.syncDocument enrichGraph env) {}
    return progress.result page.length

variable {connector : PolicyRepositoryConnector} {response response' : PolicyResponse}
  {enrichGraph enrichGraph' : Bool} {env env' : ℕ → PolicyEnvironment}
  {store store' : KnowledgeStore} {page : List PolicyDocument}

/-! ## Counting -/

/-- Each document that `sync` has gone through has been reported, and it has been added to a store
of `n` documents unless it was a duplicate. -/
def Counted (n : ℕ) (done : List (PolicyDocument × ℕ)) (progress : Progress)
    (store : KnowledgeStore) : Prop :=
  progress.documentIds.length = done.length ∧
    store.documents.length + progress.duplicates = n + done.length

/-- One more document of the page is counted. -/
theorem syncDocument_counts {n : ℕ} {done : List (PolicyDocument × ℕ)}
    (item : PolicyDocument × ℕ) (progress : Progress) :
    Prog.Triple (Counted n done progress) (connector.syncDocument enrichGraph env progress item)
      (Counted n (done ++ [item])) (fun _ _ => True) := by
  unfold syncDocument
  cases item.1.ingestionRequest connector.repositoryHost with
  | error failure => exact Prog.triple_throw fun _ _ => trivial
  | ok request =>
    rintro store ⟨hids, hstore⟩
    have hingest := connector.knowledge.ingest_returns
      ((env item.2).call request.toKnowledgeDocumentCreate) store rfl
    refine (hingest.conseq (fun _ h => h) (fun _ _ h => h) (fun _ _ _ => trivial)).bind
      (fun result => Prog.triple_pure ?_) store rfl
    rintro store' ⟨-, -, hlength⟩
    constructor
    · simp [hids]
    · simp only [List.length_append, List.length_singleton]
      omega

/-- All documents of the page are counted. -/
theorem syncDocuments_count (items : List (PolicyDocument × ℕ)) :
    Prog.Triple (· = store) (items.foldlM (connector.syncDocument enrichGraph env) {})
      (Counted store.documents.length items) (fun _ _ => True) :=
  (Prog.Triple.foldlM (fun _ item progress _ => syncDocument_counts item progress) [] {}).conseq
    (fun _ h => h ▸ ⟨rfl, rfl⟩) (fun _ _ h => h) (fun _ _ h => h)

/-! ## A pull again -/

/-- The exceptions of the statements that some environments refuse. -/
def RefusedBy (env : ℕ → PolicyEnvironment) (failure : Failure) : Prop :=
  ∃ i request, KnowledgeIngestionService.RefusedBy ((env i).call request) failure

/-- A document that has been gone through is a duplicate when it comes again. -/
theorem syncDocument_replays (item : PolicyDocument × ℕ) {progress progress' : Progress}
    (hids : progress'.documentIds = progress.documentIds) :
    Prog.Replays lookupGrowth (RefusedBy env') (fun p p' => p'.documentIds = p.documentIds)
      (connector.syncDocument enrichGraph env progress item)
      (connector.syncDocument enrichGraph' env' progress' item) := by
  unfold syncDocument
  cases item.1.ingestionRequest connector.repositoryHost with
  | error failure => exact .throw failure
  | ok request =>
    have hingest := connector.knowledge.ingest_replays
      ((env item.2).call request.toKnowledgeDocumentCreate)
      ((env' item.2).call request.toKnowledgeDocumentCreate) rfl rfl rfl
    refine (hingest.mono (fun _ _ h => h) fun failure h => ⟨item.2, _, h⟩).bind (fun _ => rfl)
      fun result result' hdocument => .pure ?_
    rw [hids, hdocument]

/-- A page that has been gone through is a page of duplicates when it comes again. -/
theorem syncDocuments_replay (items : List (PolicyDocument × ℕ)) :
    Prog.Replays lookupGrowth (RefusedBy env') (fun p p' => p'.documentIds = p.documentIds)
      (items.foldlM (connector.syncDocument enrichGraph env) {})
      (items.foldlM (connector.syncDocument enrichGraph' env') {}) :=
  .foldlM items (fun _ _ item _ h => syncDocument_replays item h) rfl fun _ => rfl

/-- `sync` goes through the page that it has fetched. -/
theorem sync_of_fetch (enrichGraph : Bool) (env : ℕ → PolicyEnvironment)
    (hfetch : connector.fetch response = .ok page) :
    connector.sync response enrichGraph env = (do
      let progress ← page.zipIdx.foldlM (connector.syncDocument enrichGraph env) {}
      return progress.result page.length) := by
  unfold sync
  rw [hfetch]

/-- A pull that returns has gone through the page that it has fetched. -/
theorem sync_eq_ok {result : PolicyRepositorySyncResult}
    (h : (connector.sync response enrichGraph env).exec store = (.ok result, store')) :
    ∃ page progress, connector.fetch response = .ok page ∧
      (page.zipIdx.foldlM (connector.syncDocument enrichGraph env) {}).exec store =
        (.ok progress, store') ∧
      result = progress.result page.length := by
  cases hfetch : connector.fetch response with
  | error failure =>
    unfold sync at h
    rw [hfetch] at h
    cases h
  | ok page =>
    rw [sync_of_fetch enrichGraph env hfetch] at h
    obtain ⟨progress, s, hloop, hresult⟩ := Prog.exec_bind_eq_ok h
    cases hresult
    exact ⟨page, progress, rfl, hloop, rfl⟩

/-- After a page has been gone through, a pull of it reports what has been reported before. -/
theorem sync_again (enrichGraph' : Bool) (env' : ℕ → PolicyEnvironment) {progress : Progress}
    (hfetch : connector.fetch response' = .ok page)
    (hloop : (page.zipIdx.foldlM (connector.syncDocument enrichGraph env) {}).exec store =
      (.ok progress, store')) :
    Prog.Triple (· = store') (connector.sync response' enrichGraph' env')
      (fun result t => store' = t ∧ result.fetched = page.length ∧ result.ingested = 0 ∧
        result.duplicates = page.length ∧ result.documentIds = progress.documentIds)
      (fun failure t => store' = t ∧ RefusedBy env' failure) := by
  have hreplay : Prog.Triple (· = store')
      (page.zipIdx.foldlM (connector.syncDocument enrichGraph' env') {})
      (fun p t => p.documentIds = progress.documentIds ∧ store' = t)
      (fun failure t => RefusedBy env' failure ∧ store' = t) :=
    (syncDocuments_replay page.zipIdx store progress store' hloop).2 store'
      (lookupGrowth.le_refl store')
  rw [sync_of_fetch enrichGraph' env' hfetch]
  refine ((hreplay.and (syncDocuments_count page.zipIdx)).conseq (fun _ h => ⟨h, h⟩)
    (fun _ _ h => h) (fun _ _ h => ⟨h.1.2, h.1.1⟩)).bind fun again => Prog.triple_pure ?_
  -- nothing has been added, so that every document was a duplicate
  rintro _ ⟨⟨hids, rfl⟩, -, hcount⟩
  rw [List.length_zipIdx] at hcount
  have hduplicates : again.duplicates = page.length := by omega
  exact ⟨rfl, rfl, by simp [Progress.result, hduplicates], hduplicates, hids⟩

/-- A pull that returns has fetched the documents of its page, counts them once each, and the
ingested ones are those that it has added to the store. A later pull of the same page, of an equal
or another response, reports every document as the duplicate of the one that the first pull has
reported. It leaves the store, also where a statement is refused, and it returns if none is. -/
theorem sync_repeats (connector : PolicyRepositoryConnector) (response response' : PolicyResponse)
    (enrichGraph enrichGraph' : Bool) (env env' : ℕ → PolicyEnvironment)
    (store store' : KnowledgeStore) (result : PolicyRepositorySyncResult)
    (hsync : (connector.sync response enrichGraph env).exec store = (.ok result, store'))
    (hpage : connector.fetch response' = connector.fetch response) :
    (∃ page, connector.fetch response = .ok page ∧ result.fetched = page.length) ∧
    (result.ingested + result.duplicates = result.fetched ∧
      result.documentIds.length = result.fetched ∧
      (store'.documents.length : ℤ) = store.documents.length + result.ingested) ∧
    ((connector.sync response' enrichGraph' env').exec store').2 = store' ∧
    (∀ result', ((connector.sync response' enrichGraph' env').exec store').1 = .ok result' →
      result'.fetched = result.fetched ∧ result'.ingested = 0 ∧
        result'.duplicates = result.fetched ∧ result'.documentIds = result.documentIds) ∧
    ((∀ i statement s, (env' i).fault statement s = none) →
      ∃ result', ((connector.sync response' enrichGraph' env').exec store').1 = .ok result') := by
  obtain ⟨page, progress, hfetch, hloop, rfl⟩ := sync_eq_ok hsync
  refine ⟨⟨page, hfetch, rfl⟩, ?_, ?_⟩
  · obtain ⟨hids, hcount⟩ := (syncDocuments_count page.zipIdx).of_ok rfl hloop
    rw [List.length_zipIdx] at hids hcount
    refine ⟨sub_add_cancel _ _, hids, ?_⟩
    simp only [Progress.result]
    omega
  have hagain := sync_again enrichGraph' env' (hpage.trans hfetch) hloop store' rfl
  generalize (connector.sync response' enrichGraph' env').exec store' = r at hagain ⊢
  rcases r with ⟨failure | again, t⟩
  · obtain ⟨rfl, i, request, statement, s, error, hfault, -⟩ := hagain
    refine ⟨rfl, fun _ h => (nomatch h), fun hnone => ?_⟩
    exact nomatch hfault.symm.trans (hnone i statement s)
  · obtain ⟨rfl, hagain⟩ := hagain
    refine ⟨rfl, ?_, fun _ => ⟨again, rfl⟩⟩
    rintro _ ⟨⟩
    exact hagain

/-- The text of a page with two documents of one content. -/
def equalPage : Json :=
  .object
    [("documents", .array (["POL-001", "POL-002"].map fun externalId : Str => .object
      [("external_id", .str externalId), ("title", .str "Policy"), ("content", .str "policy")]))]

/-- Its bytes, in two chunks. -/
def equalResponse : PolicyResponse where
  chunks :=
    let data := equalPage.render.map fun c => UInt8.ofNat c.val
    [data.take 64, data.drop 64]

/-- The title of the sample is valid. -/
theorem equalPage_title_valid : Str.ValidWithin 300 ("Policy" : String) := by decide +kernel

/-- The content of the sample is valid. -/
theorem equalPage_content_valid : Str.ValidWithin 1000000 ("policy" : String) := by decide +kernel

/-- A connector with the default limits. -/
def policyConnector : PolicyRepositoryConnector where
  repositoryHost := some "policies.example.test"
  knowledge := KnowledgeIngestionService.policyService
  hasGraph := true
  maxDocuments := 100
  maxResponseBytes := 5 * 1024 * 1024
  readPage data :=
    if data = equalResponse.chunks.flatten then
      .ok (List.pmap (fun (externalId : Str) h =>
        { externalId
          title := "Policy"
          content := "policy"
          externalId_accepted := h
          title_accepted := equalPage_title_valid
          content_accepted := equalPage_content_valid
          sourceUri_accepted := by simp }) ["POL-001", "POL-002"] (by
            simp only [List.forall_mem_cons]
            exact ⟨by decide +kernel, by decide +kernel, nofun⟩))
    else .error .value

/-- Identifiers and times that follow the documents of the page. -/
def numberedEnvironment (first : ℕ) (i : ℕ) : PolicyEnvironment where
  documentId := first + i
  chunkId k := 1000 * (first + i) + k
  createdAt := first + i
  embedTexts texts := .ok (texts.map fun _ => List.replicate 1536 1)

/-- The second document of the page is a duplicate of the first one, and both are when the page is
pulled again. -/
theorem equal_documents_repeat :
    ∃ store', (policyConnector.sync equalResponse true (numberedEnvironment 1)).exec {} =
        (.ok ⟨2, 1, 1, 1, 0, [1, 1]⟩, store') ∧
      ((policyConnector.sync equalResponse true (numberedEnvironment 7)).exec store').2 = store' ∧
      ∃ result', ((policyConnector.sync equalResponse true (numberedEnvironment 7)).exec
          store').1 = .ok result' ∧
        result'.ingested = 0 ∧ result'.duplicates = 2 ∧ result'.documentIds = [1, 1] := by
  have hfirst : ((policyConnector.sync equalResponse true (numberedEnvironment 1)).exec {}).1 =
      .ok ⟨2, 1, 1, 1, 0, [1, 1]⟩ := by decide +kernel
  obtain ⟨store', hsync⟩ : ∃ store', (policyConnector.sync equalResponse true
      (numberedEnvironment 1)).exec {} = (.ok ⟨2, 1, 1, 1, 0, [1, 1]⟩, store') :=
    ⟨_, Prod.fst_eq_iff.mp hfirst⟩
  obtain ⟨-, -, hstore, hreports, hreturns⟩ := sync_repeats policyConnector equalResponse
    equalResponse true true (numberedEnvironment 1) (numberedEnvironment 7) {} store' _ hsync rfl
  obtain ⟨result', hresult'⟩ := hreturns fun _ _ _ => rfl
  obtain ⟨-, hingested, hduplicates, hids⟩ := hreports result' hresult'
  exact ⟨store', hsync, hstore, result', hresult', hingested, hduplicates, hids⟩

end PolicyRepositoryConnector

end AssessmentPlatform
