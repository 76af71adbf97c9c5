import AssessmentPlatform.Ingestion.Upload
import AssessmentPlatform.KnowledgeGraph.Counts
import AssessmentPlatform.KnowledgeGraph.Grounding
import AssessmentPlatform.Rag.StoredDocuments

/-!
# Requests to the knowledge base

In every order of the steps of the requests, a request that fails has changed nothing by any of its
steps, and one that returns has told what is stored. The response is validated when the document
has been committed already, and the graph is enriched only then; neither can take the document back.
-/

namespace AssessmentPlatform

open Library

/-- The documents are coherent, and the graph is keyed and refers to what is there. -/
structure KnowledgeBase.Sound (kb : KnowledgeBase) (knowledge : KnowledgeIngestionService) :
    Prop where
  coherent : knowledge.Coherent kb.store
  grounded : kb.graph.Grounded kb.store
  wellKeyed : kb.graph.WellKeyed

/-- The empty base is sound. -/
theorem KnowledgeBase.sound_empty (knowledge : KnowledgeIngestionService) :
    KnowledgeBase.Sound {} knowledge :=
  ⟨knowledge.coherent_empty, KnowledgeGraph.grounded_empty _, KnowledgeGraph.wellKeyed_empty⟩

/-- The number of turns after which a request has finished. -/
def KnowledgePhase.remaining : KnowledgePhase → ℕ
  | .received => 7
  | .ingesting _ phase => phase.remaining + 1
  | .finished _ => 0

/-- The result of the ingestion of a request, once there is one. -/
def KnowledgePhase.ingested : KnowledgePhase → Option KnowledgeIngestionResult
  | .ingesting _ (.finished (.ok result)) => some result
  | .finished (.ok (.document result)) => some result
  | .finished (.ok (.file result)) => some
    { document := result.document, chunkCount := result.chunkCount, duplicate := result.duplicate }
  | _ => none

/-- A request has stored a document. -/
def KnowledgePhase.Stored (phase : KnowledgePhase) : Prop :=
  ∃ result, phase.ingested = some result ∧ result.duplicate = false

/-- A request has enriched the graph. -/
def KnowledgePhase.Enriched : KnowledgePhase → Prop
  | .finished (.ok (.graph _)) => True
  | .finished (.ok (.file result)) => result.graphEnrichmentStatus = .completed
  | _ => False

namespace UploadService

variable {σ : Type} {service : UploadService} {kb kb' : KnowledgeBase}
  {request : KnowledgeRequest σ} {env : KnowledgeEnvironment}

/-! ## What a request is told -/

/-- The report on the graph of an upload. There is an error code exactly if the enrichment has been
asked for and not been completed. -/
def Reports (service : UploadService) (requested : Bool) :
    GraphEnrichmentStatus × Option Str → Prop
  | (.notRequested, code) => requested = false ∧ code = none
  | (.disabled, code) => requested = true ∧ service.graph = none ∧
    code = some "knowledge_graph_disabled"
  | (.completed, code) => requested = true ∧ service.graph ≠ none ∧ code = none
  | (.failed, code) => requested = true ∧ service.graph ≠ none ∧ code ≠ none

/-- What has been told of an upload. -/
structure Tells (service : UploadService) (prepared : PreparedUpload)
    (result : FileIngestionResult) : Prop where
  filename_eq : result.filename = prepared.filename
  mimeType_eq : result.mimeType = prepared.parsed.mimeType
  parser_eq : result.parser = prepared.parsed.parserName
  extractionMethod_eq : result.extractionMethod = prepared.parsed.extractionMethod
  characterCount_eq : result.normalizedCharacterCount = result.document.content.length
  reports : service.Reports prepared.enrichGraph
    (result.graphEnrichmentStatus, result.graphErrorCode)

/-- The ingestion that a request asks for. -/
def Admits (service : UploadService) (env : KnowledgeEnvironment) (admission : Admission) :
    KnowledgeRequest σ → Prop
  | .file upload => ∃ prepared, service.prepare upload = .ok prepared ∧
    admission = env.admitFile prepared
  | .document document => admission = env.admitDocument document
  | .graph _ => False

/-- The graph has the rows of what is extracted from a document, and their numbers are those of an
enrichment of it. -/
def Enriched (service : UploadService) (kb : KnowledgeBase) (documentId : UUID)
    (result : KnowledgeGraphEnrichmentResult) : Prop :=
  ∃ enrichment, service.graph = some enrichment ∧
    enrichment.Counts kb.store kb.graph documentId result

/-- What holds when a request has finished. -/
def Settled (service : UploadService) (request : KnowledgeRequest σ) (env : KnowledgeEnvironment)
    (kb : KnowledgeBase) : Except Failure KnowledgeResponse → Prop
  | .error _ => kb.store.Lacks env.documentId
  | .ok (.graph result) => kb.store.Lacks env.documentId ∧
    ∃ documentId, request = .graph documentId ∧ service.Enriched kb documentId result
  | .ok (.document result) => ∃ document, request = .document document ∧
    service.knowledge.Returned kb.store (env.admitDocument document).call result
  | .ok (.file result) => ∃ upload prepared, request = .file upload ∧
    service.prepare upload = .ok prepared ∧ service.Tells prepared result ∧
    service.knowledge.Returned kb.store (env.admitFile prepared).call
      { document := result.document, chunkCount := result.chunkCount
        duplicate := result.duplicate } ∧
    (result.graphEnrichmentStatus = .completed →
      ∃ counted, service.Enriched kb result.document.documentId counted)

/-- What holds of a request on the way. -/
def Stage (service : UploadService) (request : KnowledgeRequest σ) (env : KnowledgeEnvironment)
    (kb : KnowledgeBase) : KnowledgePhase → Prop
  | .received => kb.store.Lacks env.documentId
  | .ingesting admission phase => service.Admits env admission request ∧
    service.knowledge.Progress kb.store admission.call phase
  | .finished outcome => service.Settled request env kb outcome

/-- The call of a request has the identifiers that the request draws. -/
theorem Admits.ids_eq {admission : Admission} (h : service.Admits env admission request) :
    admission.call.documentId = env.documentId ∧ admission.call.chunkId = env.chunkId := by
  cases request with
  | file upload =>
    obtain ⟨prepared, -, rfl⟩ := h
    exact ⟨rfl, rfl⟩
  | document document =>
    rw [h]
    exact ⟨rfl, rfl⟩
  | graph documentId => exact h.elim

/-- A document that has been enriched stays so when others are added and the graph grows. -/
theorem Enriched.grows {documentId newId : UUID} {chunkId : ℕ → UUID}
    {result : KnowledgeGraphEnrichmentResult} (h : service.Enriched kb documentId result)
    (hadds : service.knowledge.Adds newId chunkId kb.store kb'.store)
    (hgrows : kb.graph.Grows kb'.graph) : service.Enriched kb' documentId result := by
  obtain ⟨enrichment, hgraph, hcounts⟩ := h
  obtain ⟨document, hdocument, rfl⟩ := hcounts.document_mem
  exact ⟨enrichment, hgraph, hcounts.grows hgrows hadds.documents_subset
    (hadds.listByDocument_eq hdocument)⟩

/-! ## Enrichment -/

/-- What a request does to the graph: nothing, or it enriches one document. -/
def Enriches (env : GraphEnv) (kb : KnowledgeBase) (graph : KnowledgeGraph) : Prop :=
  graph = kb.graph ∨ ∃ (enrichment : KnowledgeGraphEnrichmentService) (documentId : UUID),
    graph = (enrichment.enrichGraph env kb.store documentId kb.graph).2

/-- Every enrichment keeps the knowledge base sound. -/
theorem Enriches.sound {env : GraphEnv} {graph : KnowledgeGraph} (h : Enriches env kb graph)
    (hsound : kb.Sound service.knowledge) :
    KnowledgeBase.Sound { kb with graph } service.knowledge := by
  rcases h with rfl | ⟨enrichment, documentId, rfl⟩
  · exact hsound
  · exact ⟨hsound.coherent,
      KnowledgeGraphEnrichmentService.enrichGraph_grounded hsound.grounded,
      KnowledgeGraphEnrichmentService.enrichGraph_wellKeyed hsound.wellKeyed⟩

/-- An enrichment extends the graph. -/
theorem Enriches.grows {env : GraphEnv} {graph : KnowledgeGraph} (h : Enriches env kb graph) :
    kb.graph.Grows graph := by
  rcases h with rfl | ⟨enrichment, documentId, rfl⟩
  · exact .refl _
  · exact enrichment.enrichGraph_grows kb.store env documentId kb.graph

/-- The enrichment that follows an upload is an enrichment, or leaves the graph. -/
theorem enriches_enrichUploaded (service : UploadService) (env : GraphEnv) (kb : KnowledgeBase)
    (documentId : UUID) (requested : Bool) :
    Enriches env kb (service.enrichUploaded env kb documentId requested).2 := by
  unfold enrichUploaded
  split
  · exact .inl rfl
  cases service.graph with
  | none => exact .inl rfl
  | some enrichment =>
    refine .inr ⟨enrichment, documentId, ?_⟩
    dsimp only
    split
    all_goals
      rename_i houtcome
      rw [houtcome]

/-- The enrichment of a stored document is an enrichment, or leaves the graph. -/
theorem enriches_enrichDocumentGraph (service : UploadService) (env : GraphEnv)
    (kb : KnowledgeBase) (documentId : UUID) :
    Enriches env kb (service.enrichDocumentGraph env kb documentId).2 := by
  unfold enrichDocumentGraph
  cases service.graph with
  | none => exact .inl rfl
  | some enrichment => exact .inr ⟨enrichment, documentId, rfl⟩

/-- The end of a request enriches the graph, or leaves it. -/
theorem enriches_conclude (service : UploadService) (env : KnowledgeEnvironment)
    (kb : KnowledgeBase) (prepared : Option PreparedUpload) (result : KnowledgeIngestionResult) :
    Enriches env.graph kb (service.conclude env kb prepared result).2 := by
  cases prepared with
  | none => exact .inl rfl
  | some prepared => exact enriches_enrichUploaded service _ _ _ _

/-- The enrichment that follows an upload is reported as it went. -/
theorem reports_enrichUploaded (service : UploadService) (env : GraphEnv) (kb : KnowledgeBase)
    (documentId : UUID) (requested : Bool) :
    service.Reports requested (service.enrichUploaded env kb documentId requested).1 := by
  unfold enrichUploaded
  cases requested with
  | false => exact ⟨rfl, rfl⟩
  | true =>
    cases hgraph : service.graph with
    | none => exact ⟨rfl, hgraph, rfl⟩
    | some enrichment =>
      have hsome : service.graph ≠ none := by
        rw [hgraph]
        exact Option.some_ne_none enrichment
      simp only [Bool.not_true, Bool.false_eq_true, if_false]
      split
      · exact ⟨rfl, hsome, rfl⟩
      · exact ⟨rfl, hsome, Option.some_ne_none _⟩
      · exact ⟨rfl, hsome, Option.some_ne_none _⟩

/-- An upload is told that its document has been enriched only if it has been. -/
theorem enriched_enrichUploaded (service : UploadService) (env : GraphEnv) (kb : KnowledgeBase)
    (documentId : UUID) (requested : Bool) :
    ((service.enrichUploaded env kb documentId requested).1.1 = .completed ∧
        ∃ counted, service.Enriched
          { kb with graph := (service.enrichUploaded env kb documentId requested).2 } documentId
          counted) ∨
      ((service.enrichUploaded env kb documentId requested).1.1 ≠ .completed ∧
        (service.enrichUploaded env kb documentId requested).2 = kb.graph) := by
  unfold enrichUploaded
  split
  · exact .inr ⟨nofun, rfl⟩
  cases hgraph : service.graph with
  | none => exact .inr ⟨nofun, rfl⟩
  | some enrichment =>
    dsimp only
    split
    · rename_i result graph houtcome
      have hcounts := enrichment.enrichGraph_counts (congrArg Prod.fst houtcome)
      rw [houtcome] at hcounts
      exact .inl ⟨rfl, result, enrichment, hgraph, hcounts⟩
    all_goals
      rename_i houtcome
      have hsame := KnowledgeGraphEnrichmentService.enrichGraph_error (congrArg Prod.fst houtcome)
      rw [houtcome] at hsame
      exact .inr ⟨nofun, hsame⟩

/-- An enrichment that is asked for returns what it has counted, or it leaves the graph. -/
theorem enriched_enrichDocumentGraph (service : UploadService) (env : GraphEnv)
    (kb : KnowledgeBase) (documentId : UUID) :
    (∃ result, (service.enrichDocumentGraph env kb documentId).1 = .ok (.graph result) ∧
        service.Enriched { kb with graph := (service.enrichDocumentGraph env kb documentId).2 }
          documentId result) ∨
      ∃ failure, (service.enrichDocumentGraph env kb documentId).1 = .error failure ∧
        (service.enrichDocumentGraph env kb documentId).2 = kb.graph := by
  unfold enrichDocumentGraph
  cases hgraph : service.graph with
  | none => exact .inr ⟨_, rfl, rfl⟩
  | some enrichment =>
    cases houtcome : (enrichment.enrichGraph env kb.store documentId kb.graph).1 with
    | ok result =>
      refine .inl ⟨result, ?_, enrichment, hgraph, enrichment.enrichGraph_counts houtcome⟩
      dsimp only
      rw [houtcome]
      rfl
    | error failure =>
      refine .inr ⟨failure, ?_, KnowledgeGraphEnrichmentService.enrichGraph_error houtcome⟩
      dsimp only
      rw [houtcome]
      rfl

/-! ## Responses -/

/-- What an ingestion has returned passes the validation of every response. -/
theorem counts_pos (h : kb.Sound service.knowledge) {call : IngestCall}
    {result : KnowledgeIngestionResult}
    (hreturned : service.knowledge.Returned kb.store call result) :
    1 ≤ result.document.content.length ∧ 1 ≤ result.chunkCount := by
  obtain ⟨sourceSegments, hintact⟩ := h.coherent.intact hreturned.document_mem
  constructor
  · exact List.length_pos_iff.mpr hintact.content_ne_nil
  · rw [hreturned.chunkCount_eq]
    exact List.length_pos_iff.mpr hintact.chunks_ne_nil

/-- The conclusion of an upload whose document has been ingested. -/
theorem settled_conclude_file {upload : Upload σ} {prepared : PreparedUpload}
    {result : KnowledgeIngestionResult} (hsound : kb.Sound service.knowledge)
    (hprepared : service.prepare upload = .ok prepared)
    (hreturned : service.knowledge.Returned kb.store (env.admitFile prepared).call result) :
    service.Settled (.file upload) env
      { kb with graph := (service.conclude env kb (some prepared) result).2 }
      (service.conclude env kb (some prepared) result).1 := by
  have hreports := reports_enrichUploaded service env.graph kb result.document.documentId
    prepared.enrichGraph
  have henriched := enriched_enrichUploaded service env.graph kb result.document.documentId
    prepared.enrichGraph
  simp only [conclude, respondFile]
  rw [if_pos (counts_pos hsound hreturned)]
  refine ⟨upload, prepared, rfl, hprepared, ⟨rfl, rfl, rfl, rfl, rfl, hreports⟩, hreturned, ?_⟩
  intro hcompleted
  exact (henriched.resolve_right fun h => h.1 hcompleted).2

/-- A document that has been returned is settled. -/
theorem settled_conclude_document {document : KnowledgeDocumentCreate}
    {result : KnowledgeIngestionResult} (hsound : kb.Sound service.knowledge)
    (hreturned : service.knowledge.Returned kb.store (env.admitDocument document).call result) :
    service.Settled (.document document : KnowledgeRequest σ) env kb
      (service.conclude env kb none result).1 := by
  simp only [conclude, respondDocument]
  rw [if_pos (counts_pos hsound hreturned).2]
  exact ⟨document, rfl, hreturned⟩

/-! ## Steps -/

/-- What a step of a request does to what is there: at most its document is added, and the graph
grows. -/
structure Guarantees (service : UploadService) (env : KnowledgeEnvironment)
    (kb kb' : KnowledgeBase) : Prop where
  adds : service.knowledge.Adds env.documentId env.chunkId kb.store kb'.store
  grows : kb.graph.Grows kb'.graph

/-- What holds after a step of a request. -/
structure Advances (service : UploadService) (request : KnowledgeRequest σ)
    (env : KnowledgeEnvironment) (kb : KnowledgeBase) (next : KnowledgePhase × KnowledgeBase) :
    Prop where
  sound : next.2.Sound service.knowledge
  stage : service.Stage request env next.2 next.1
  guarantees : service.Guarantees env kb next.2

/-- The first step of a request. -/
theorem advances_received (hsound : kb.Sound service.knowledge)
    (hlacks : kb.store.Lacks env.documentId) :
    service.Advances request env kb (service.requestStep request env kb .received) := by
  cases request with
  | file upload =>
    simp only [requestStep]
    cases hprepared : service.prepare upload with
    | error failure => exact ⟨hsound, hlacks, .inl rfl, .refl _⟩
    | ok prepared => exact ⟨hsound, ⟨⟨prepared, hprepared, rfl⟩, hlacks⟩, .inl rfl, .refl _⟩
  | document document => exact ⟨hsound, ⟨rfl, hlacks⟩, .inl rfl, .refl _⟩
  | graph documentId =>
    have henriches := enriches_enrichDocumentGraph service env.graph kb documentId
    refine ⟨henriches.sound hsound, ?_, .inl rfl, henriches.grows⟩
    rcases enriched_enrichDocumentGraph service env.graph kb documentId with
      ⟨result, houtcome, henriched⟩ | ⟨failure, houtcome, -⟩
    · simp only [requestStep, Stage]
      rw [houtcome]
      exact ⟨hlacks, documentId, rfl, henriched⟩
    · simp only [requestStep, Stage]
      rw [houtcome]
      exact hlacks

/-- The last step of a request that has ingested its document. -/
theorem advances_conclude {admission : Admission} {result : KnowledgeIngestionResult}
    (hsound : kb.Sound service.knowledge) (hadmits : service.Admits env admission request)
    (hreturned : service.knowledge.Returned kb.store admission.call result) :
    service.Advances request env kb
      (service.requestStep request env kb (.ingesting admission (.finished (.ok result)))) := by
  have henriches := enriches_conclude service env kb admission.prepared result
  refine ⟨henriches.sound hsound, ?_, .inl rfl, henriches.grows⟩
  cases request with
  | file upload =>
    obtain ⟨prepared, hprepared, rfl⟩ := hadmits
    exact settled_conclude_file hsound hprepared hreturned
  | document document =>
    obtain rfl : admission = env.admitDocument document := hadmits
    exact settled_conclude_document hsound hreturned
  | graph documentId => exact hadmits.elim

/-- While the ingestion runs, a step of the request is a step of the ingestion. -/
theorem requestStep_ingesting {admission : Admission} {phase : IngestPhase}
    (h : ∀ outcome, phase ≠ .finished outcome) :
    service.requestStep request env kb (.ingesting admission phase) =
      (.ingesting admission (service.knowledge.ingestStep admission.call kb.store phase).1,
        { kb with store := (service.knowledge.ingestStep admission.call kb.store phase).2 }) := by
  cases phase with
  | finished outcome => exact absurd rfl (h outcome)
  | idle | found | absent | created | embedded | written => rfl

/-- A step of the ingestion of a request. -/
theorem advances_ingesting {admission : Admission} {phase : IngestPhase}
    (hphase : ∀ outcome, phase ≠ .finished outcome) (hsound : kb.Sound service.knowledge)
    (hadmits : service.Admits env admission request)
    (hprogress : service.knowledge.Progress kb.store admission.call phase) :
    service.Advances request env kb
      (service.requestStep request env kb (.ingesting admission phase)) := by
  obtain ⟨hcoherent, hnext, hadds⟩ := hsound.coherent.ingestStep hprogress
  rw [requestStep_ingesting hphase]
  rw [hadmits.ids_eq.1, hadmits.ids_eq.2] at hadds
  exact ⟨⟨hcoherent, hsound.grounded.more_chunks hadds.chunks_subset, hsound.wellKeyed⟩,
    ⟨hadmits, hnext⟩, hadds, .refl _⟩

/-- Every step of a request keeps the knowledge base sound and what holds of the request, and adds
at most its document. -/
theorem advances_requestStep {phase : KnowledgePhase} (hsound : kb.Sound service.knowledge)
    (hstage : service.Stage request env kb phase) :
    service.Advances request env kb (service.requestStep request env kb phase) := by
  cases phase with
  | received => exact advances_received hsound hstage
  | finished outcome => exact ⟨hsound, hstage, .inl rfl, .refl _⟩
  | ingesting admission phase =>
    obtain ⟨hadmits, hprogress⟩ := hstage
    by_cases hphase : ∀ outcome, phase ≠ .finished outcome
    · exact advances_ingesting hphase hsound hadmits hprogress
    · simp only [not_forall, ne_eq, not_not] at hphase
      obtain ⟨outcome, rfl⟩ := hphase
      cases outcome with
      | ok result => exact advances_conclude hsound hadmits hprogress
      | error failure =>
        have hlacks : kb.store.Lacks admission.call.documentId := hprogress
        rw [hadmits.ids_eq.1] at hlacks
        exact ⟨hsound, hlacks, .inl rfl, .refl _⟩

/-- A request that changes something in a step has come to a phase that shows it, and it does not
leave such a phase. -/
structure Shows (kb : KnowledgeBase) (phase : KnowledgePhase)
    (next : KnowledgePhase × KnowledgeBase) : Prop where
  store : next.2.store = kb.store ∨ next.1.Stored
  graph : next.2.graph = kb.graph ∨ next.1.Enriched
  stored : phase.Stored → next.1.Stored
  enriched : phase.Enriched → next.1.Enriched

/-- A step that leaves the knowledge base before the end of a request. -/
theorem shows_unchanged {phase next : KnowledgePhase} (hstored : phase.Stored → next.Stored)
    (henriched : ¬ phase.Enriched) : Shows kb phase (next, kb) :=
  ⟨.inl rfl, .inl rfl, hstored, fun h => absurd h henriched⟩

/-- The first step changes neither the store nor the graph. -/
theorem shows_received (service : UploadService) (request : KnowledgeRequest σ)
    (env : KnowledgeEnvironment) (kb : KnowledgeBase) :
    Shows kb .received (service.requestStep request env kb .received) := by
  have hstored : ∀ next : KnowledgePhase, KnowledgePhase.Stored .received → next.Stored := by
    rintro next ⟨result, hresult, -⟩
    cases hresult
  cases request with
  | file upload => exact shows_unchanged (hstored _) id
  | document document => exact shows_unchanged (hstored _) id
  | graph documentId =>
    simp only [requestStep]
    refine ⟨.inl rfl, ?_, hstored _, False.elim⟩
    rcases enriched_enrichDocumentGraph service env.graph kb documentId with
      ⟨result, houtcome, -⟩ | ⟨failure, -, hgraph⟩
    · rw [houtcome]
      exact .inr trivial
    · exact .inl hgraph

/-- The conclusion of a request takes no document back, and it changes the graph only if it reports
so. -/
theorem shows_conclude {admission : Admission} {result : KnowledgeIngestionResult}
    (hsound : kb.Sound service.knowledge)
    (hreturned : service.knowledge.Returned kb.store admission.call result) :
    Shows kb (.ingesting admission (.finished (.ok result)))
      (service.requestStep request env kb (.ingesting admission (.finished (.ok result)))) := by
  have hcounts := counts_pos hsound hreturned
  simp only [requestStep]
  cases hprepared : admission.prepared with
  | none =>
    simp only [conclude, respondDocument]
    rw [if_pos hcounts.2]
    refine ⟨.inl rfl, .inl rfl, ?_, False.elim⟩
    rintro ⟨result', hresult', hnew⟩
    exact ⟨result', hresult', hnew⟩
  | some prepared =>
    have henriched := enriched_enrichUploaded service env.graph kb result.document.documentId
      prepared.enrichGraph
    simp only [conclude, respondFile]
    rw [if_pos hcounts]
    refine ⟨.inl rfl, ?_, ?_, False.elim⟩
    · rcases henriched with ⟨hcompleted, -⟩ | ⟨-, hgraph⟩
      · exact .inr hcompleted
      · exact .inl hgraph
    · rintro ⟨result', hresult', hnew⟩
      cases hresult'
      exact ⟨_, rfl, hnew⟩

/-- Every step of a request shows what it has changed. -/
theorem shows_requestStep {phase : KnowledgePhase} (hsound : kb.Sound service.knowledge)
    (hstage : service.Stage request env kb phase) :
    Shows kb phase (service.requestStep request env kb phase) := by
  cases phase with
  | received => exact shows_received service request env kb
  | finished outcome => exact ⟨.inl rfl, .inl rfl, id, id⟩
  | ingesting admission phase =>
    by_cases hphase : ∀ outcome, phase ≠ .finished outcome
    · rw [requestStep_ingesting hphase]
      refine ⟨?_, .inl rfl, ?_, False.elim⟩
      · rcases service.knowledge.ingestStep_store admission.call kb.store phase with
          hstore | ⟨result, hresult, hnew⟩
        · exact .inl hstore
        · refine .inr ⟨result, ?_, hnew⟩
          rw [hresult]
          rfl
      · rintro ⟨result, hresult, -⟩
        cases phase with
        | finished outcome => exact absurd rfl (hphase outcome)
        | idle | found | absent | created | embedded | written => cases hresult
    · simp only [not_forall, ne_eq, not_not] at hphase
      obtain ⟨outcome, rfl⟩ := hphase
      cases outcome with
      | ok result => exact shows_conclude hsound hstage.2
      | error failure =>
        refine shows_unchanged ?_ id
        rintro ⟨result, hresult, -⟩
        cases hresult

/-- The steps of other requests do not disturb a request. -/
theorem Stage.undisturbed {env' : KnowledgeEnvironment} {phase : KnowledgePhase}
    (h : service.Stage request env kb phase) (hguarantees : service.Guarantees env' kb kb')
    (hne : env'.documentId ≠ env.documentId) : service.Stage request env kb' phase := by
  obtain ⟨hadds, hgrows⟩ := hguarantees
  cases phase with
  | received => exact hadds.lacks hne h
  | ingesting admission phase =>
    obtain ⟨hadmits, hprogress⟩ := h
    refine ⟨hadmits, hadds.progress ?_ hprogress⟩
    rwa [hadmits.ids_eq.1]
  | finished outcome =>
    cases outcome with
    | error failure => exact hadds.lacks hne h
    | ok response =>
      cases response with
      | graph result =>
        obtain ⟨hlacks, documentId, hrequest, henriched⟩ := h
        exact ⟨hadds.lacks hne hlacks, documentId, hrequest, henriched.grows hadds hgrows⟩
      | document result =>
        obtain ⟨document, hrequest, hreturned⟩ := h
        exact ⟨document, hrequest, hadds.returned hne hreturned⟩
      | file result =>
        obtain ⟨upload, prepared, hrequest, hprepared, htells, hreturned, henriched⟩ := h
        refine ⟨upload, prepared, hrequest, hprepared, htells, hadds.returned hne hreturned, ?_⟩
        intro hcompleted
        obtain ⟨counted, hcounted⟩ := henriched hcompleted
        exact ⟨counted, hcounted.grows hadds hgrows⟩

/-- Every step brings a request closer to its end. -/
theorem remaining_requestStep (service : UploadService) (request : KnowledgeRequest σ)
    (env : KnowledgeEnvironment) (kb : KnowledgeBase) (phase : KnowledgePhase) :
    (service.requestStep request env kb phase).1.remaining ≤ phase.remaining - 1 := by
  cases phase with
  | received =>
    cases request with
    | file upload =>
      simp only [requestStep]
      cases service.prepare upload with
      | error failure => exact Nat.zero_le _
      | ok prepared => exact Nat.le_refl _
    | document document => exact Nat.le_refl _
    | graph documentId => exact Nat.zero_le _
  | finished outcome => exact Nat.le_refl _
  | ingesting admission phase =>
    by_cases hphase : ∀ outcome, phase ≠ .finished outcome
    · rw [requestStep_ingesting hphase]
      have hstep := KnowledgeIngestionService.proceed_remaining service.knowledge admission.call
        (phase, kb.store)
      have hpos : phase.remaining ≠ 0 := by
        rw [Ne, IngestPhase.remaining_eq_zero]
        rintro ⟨outcome, rfl⟩
        exact hphase outcome rfl
      simp only [KnowledgeIngestionService.proceed] at hstep
      simp only [KnowledgePhase.remaining]
      omega
    · simp only [not_forall, ne_eq, not_not] at hphase
      obtain ⟨outcome, rfl⟩ := hphase
      cases outcome <;> exact Nat.zero_le _

/-- A request without a result has stored no document. -/
theorem Stage.lacks {phase : KnowledgePhase} (h : service.Stage request env kb phase)
    (hnone : phase.ingested = none) : kb.store.Lacks env.documentId := by
  cases phase with
  | received => exact h
  | ingesting admission phase =>
    obtain ⟨hadmits, hprogress⟩ := h
    rw [← hadmits.ids_eq.1]
    cases phase with
    | idle => exact hprogress
    | found existing => exact hprogress.1.2
    | absent | created | embedded | written => exact hprogress.1
    | finished outcome =>
      cases outcome with
      | error failure => exact hprogress
      | ok result => cases hnone
  | finished outcome =>
    cases outcome with
    | error failure => exact h
    | ok response =>
      cases response with
      | graph result => exact h.1
      | document result | file result => cases hnone

/-- The result of a request is that of the ingestion that it asks for. -/
theorem Stage.returned {phase : KnowledgePhase} (h : service.Stage request env kb phase)
    {result : KnowledgeIngestionResult} (hresult : phase.ingested = some result) :
    ∃ admission, service.Admits env admission request ∧
      service.knowledge.Returned kb.store admission.call result := by
  cases phase with
  | received => cases hresult
  | ingesting admission phase =>
    obtain ⟨hadmits, hprogress⟩ := h
    cases phase with
    | idle | found | absent | created | embedded | written => cases hresult
    | finished outcome =>
      cases outcome with
      | error failure => cases hresult
      | ok result' =>
        cases hresult
        exact ⟨admission, hadmits, hprogress⟩
  | finished outcome =>
    cases outcome with
    | error failure => cases hresult
    | ok response =>
      cases response with
      | graph result' => cases hresult
      | document result' =>
        obtain ⟨document, rfl, hreturned⟩ := h
        cases hresult
        exact ⟨env.admitDocument document, rfl, hreturned⟩
      | file result' =>
        obtain ⟨upload, prepared, rfl, hprepared, -, hreturned, -⟩ := h
        cases hresult
        exact ⟨env.admitFile prepared, ⟨prepared, hprepared, rfl⟩, hreturned⟩

/-! ## Runs -/

section Runs

variable {ι : Type} {requests : ι → KnowledgeRequest σ} {envs : ι → KnowledgeEnvironment}

/-- The steps of some requests. -/
def requestSteps (service : UploadService) (requests : ι → KnowledgeRequest σ)
    (envs : ι → KnowledgeEnvironment) : TurnStep ι KnowledgeBase KnowledgePhase :=
  fun i kb phase => service.requestStep (requests i) (envs i) kb phase

/-- The requests to an empty knowledge base, with their steps in the order of a schedule. -/
def serve [DecidableEq ι] (service : UploadService) (requests : ι → KnowledgeRequest σ)
    (envs : ι → KnowledgeEnvironment) (schedule : List ι) : Turn ι KnowledgeBase KnowledgePhase :=
  takeTurns (service.requestSteps requests envs) { shared := {}, own := fun _ => .received }
    schedule

/-- The knowledge base is sound, and every document has come with one of the requests. -/
def Common (service : UploadService) (envs : ι → KnowledgeEnvironment) (kb : KnowledgeBase) :
    Prop :=
  kb.Sound service.knowledge ∧
    ∀ document ∈ kb.store.documents, ∃ i, document.documentId = (envs i).documentId

/-- Requests with identifiers of their own do not disturb each other. -/
theorem requestSteps_undisturbed
    (hfresh : Function.Injective fun i => (envs i).documentId) :
    Undisturbed (service.requestSteps requests envs) (service.Common envs)
      (fun i kb phase => service.Stage (requests i) (envs i) kb phase)
      (fun i kb kb' => service.Guarantees (envs i) kb kb') where
  keeps i kb phase hcommon hstage := by
    obtain ⟨hsound, hstage', hguarantees⟩ := advances_requestStep hcommon.1 hstage
    refine ⟨⟨hsound, fun document hdocument => ?_⟩, hstage', hguarantees⟩
    rcases hguarantees.adds with heq | ⟨call, chunks, hid, -, -, heq⟩
    · rw [show (service.requestSteps requests envs i kb phase).2.store = kb.store from heq]
        at hdocument
      exact hcommon.2 document hdocument
    · rw [show (service.requestSteps requests envs i kb phase).2.store = _ from heq] at hdocument
      rcases List.mem_append.mp hdocument with hdocument | hdocument
      · exact hcommon.2 document hdocument
      · rw [List.mem_singleton.mp hdocument]
        exact ⟨i, hid⟩
  stable i j kb kb' phase hne _ hguarantee hstage :=
    Stage.undisturbed hstage hguarantee fun heq => hne (hfresh heq).symm

/-- What holds of all requests in every state. -/
theorem serve_valid [DecidableEq ι] (service : UploadService) (requests : ι → KnowledgeRequest σ)
    (hfresh : Function.Injective fun i => (envs i).documentId) (schedule : List ι) :
    (service.serve requests envs schedule).Valid (service.Common envs)
      (fun i kb phase => service.Stage (requests i) (envs i) kb phase) := by
  have hinitial : Turn.Valid (service.Common envs)
      (fun i kb phase => service.Stage (requests i) (envs i) kb phase)
      { shared := {}, own := fun _ => .received } :=
    ⟨⟨KnowledgeBase.sound_empty _, List.forall_mem_nil _⟩, fun i => List.forall_mem_nil _⟩
  exact hinitial.takeTurns (requestSteps_undisturbed hfresh) schedule

/-- The stored documents are those of the results that are no duplicates. -/
theorem mem_documents_iff [DecidableEq ι]
    (hfresh : Function.Injective fun i => (envs i).documentId) (schedule : List ι)
    (document : KnowledgeDocumentRecord) :
    document ∈ (service.serve requests envs schedule).shared.store.documents ↔
      ∃ i result, ((service.serve requests envs schedule).own i).ingested = some result ∧
        result.duplicate = false ∧ result.document = document := by
  have hvalid := serve_valid service requests hfresh schedule
  constructor
  · intro hdocument
    obtain ⟨i, hid⟩ := hvalid.shared.2 document hdocument
    have hstored : ¬(service.serve requests envs schedule).shared.store.Lacks (envs i).documentId :=
      fun hlacks => hlacks document hdocument hid
    cases hresult : ((service.serve requests envs schedule).own i).ingested with
    | none => exact absurd ((hvalid.own i).lacks hresult) hstored
    | some result =>
      obtain ⟨admission, hadmits, hreturned⟩ := (hvalid.own i).returned hresult
      have hcall := hadmits.ids_eq.1
      cases hduplicate : result.duplicate with
      | true => exact absurd (hcall ▸ (hreturned.duplicate hduplicate).2) hstored
      | false =>
        have hsame : result.document.documentId = document.documentId := by
          rw [(hreturned.stored hduplicate).1, hid]
          exact hcall
        have hinjective := List.inj_on_of_nodup_map hvalid.shared.1.coherent.ids_nodup
        exact ⟨i, result, hresult, hduplicate,
          hinjective hreturned.document_mem hdocument hsame⟩
  · rintro ⟨i, result, hresult, -, rfl⟩
    obtain ⟨admission, -, hreturned⟩ := (hvalid.own i).returned hresult
    exact hreturned.document_mem

/-- What a request does not show in the end, none of its steps has done. -/
theorem serve_shows [DecidableEq ι] (service : UploadService) (requests : ι → KnowledgeRequest σ)
    (hfresh : Function.Injective fun i => (envs i).documentId) (i : ι) (before after : List ι) :
    (¬ ((service.serve requests envs (before ++ i :: after)).own i).Stored →
      (service.serve requests envs (before ++ [i])).shared.store =
        (service.serve requests envs before).shared.store) ∧
    (¬ ((service.serve requests envs (before ++ i :: after)).own i).Enriched →
      (service.serve requests envs (before ++ [i])).shared.graph =
        (service.serve requests envs before).shared.graph) := by
  have hvalid := serve_valid service requests hfresh before
  have hshows := shows_requestStep hvalid.shared.1 (hvalid.own i)
  -- the turn of the request
  have hturn : service.serve requests envs (before ++ [i]) =
      takeTurn (service.requestSteps requests envs) (service.serve requests envs before) i :=
    takeTurns_concat _ _ _ _
  have hlater : service.serve requests envs (before ++ i :: after) =
      takeTurns (service.requestSteps requests envs)
        (service.serve requests envs (before ++ [i])) after := by
    rw [List.append_cons]
    exact takeTurns_append _ _ _ _
  have hnext : (service.serve requests envs (before ++ [i])).own i =
      (service.requestStep (requests i) (envs i) (service.serve requests envs before).shared
        ((service.serve requests envs before).own i)).1 := by
    rw [hturn, takeTurn_own_self]
    rfl
  have hvalid' := serve_valid service requests hfresh (before ++ [i])
  have hsteps : Undisturbed (service.requestSteps requests envs) _ _ _ :=
    requestSteps_undisturbed hfresh
  rw [hlater]
  constructor
  · intro hstored
    rw [hturn]
    refine hshows.store.resolve_right fun hnew => hstored ?_
    rw [← hnext] at hnew
    exact hvalid'.takeTurns_own hsteps
      (fun _ _ hcommon hstage => (shows_requestStep hcommon.1 hstage).stored) hnew after
  · intro henriched
    rw [hturn]
    refine hshows.graph.resolve_right fun hnew => henriched ?_
    rw [← hnext] at hnew
    exact hvalid'.takeTurns_own hsteps
      (fun _ _ hcommon hstage => (shows_requestStep hcommon.1 hstage).enriched) hnew after

/-- In every order of the steps, what a request that has returned has been told agrees with what is
stored, no step of a request changes the documents unless the request stores one in the end, or the
graph unless it enriches it in the end, so that a request that has failed has changed nothing, and
every request has finished after seven steps. -/
theorem requests_settled [DecidableEq ι] (service : UploadService)
    (requests : ι → KnowledgeRequest σ) (envs : ι → KnowledgeEnvironment)
    (hfresh : Function.Injective fun i => (envs i).documentId) (schedule : List ι) :
    (∀ i outcome, (service.serve requests envs schedule).own i = .finished outcome →
      service.Settled (requests i) (envs i) (service.serve requests envs schedule).shared
        outcome) ∧
    (∀ i before after, schedule = before ++ i :: after →
      let phase := (service.serve requests envs schedule).own i
      let kb := (service.serve requests envs before).shared
      let kb' := (service.serve requests envs (before ++ [i])).shared
      (¬ phase.Stored → kb'.store = kb.store) ∧ (¬ phase.Enriched → kb'.graph = kb.graph) ∧
        (∀ failure, phase = .finished (.error failure) → kb' = kb)) ∧
    ∀ i, 7 ≤ schedule.count i →
      ∃ outcome, (service.serve requests envs schedule).own i = .finished outcome := by
  refine ⟨?_, ?_, ?_⟩
  · intro i outcome houtcome
    have hstage := (serve_valid service requests hfresh schedule).own i
    rw [houtcome] at hstage
    exact hstage
  · rintro i before after rfl
    obtain ⟨hstore, hgraph⟩ := serve_shows service requests hfresh i before after
    refine ⟨hstore, hgraph, fun failure hfailure => ?_⟩
    rw [hfailure] at hstore hgraph
    rw [KnowledgeBase.mk.injEq]
    refine ⟨hstore ?_, hgraph id⟩
    rintro ⟨result, hresult, -⟩
    cases hresult
  · intro i hcount
    have hrank := takeTurns_rank (service.requestSteps requests envs)
      (fun i kb phase => remaining_requestStep service (requests i) (envs i) kb phase)
      { shared := {}, own := fun _ => .received } schedule i
    change ((service.serve requests envs schedule).own i).remaining ≤ 7 - schedule.count i at hrank
    have hnone : ((service.serve requests envs schedule).own i).remaining = 0 := by omega
    cases hphase : (service.serve requests envs schedule).own i with
    | received =>
      rw [hphase] at hnone
      cases hnone
    | ingesting admission phase =>
      rw [hphase] at hnone
      cases hnone
    | finished outcome => exact ⟨outcome, rfl⟩

/-- In every order of the steps, the documents are intact and are those of the results that are no
duplicates, every chunk belongs to a document, and the graph is keyed and refers to entities and
chunks that are there. -/
theorem knowledge_base_sound [DecidableEq ι] (service : UploadService)
    (requests : ι → KnowledgeRequest σ) (envs : ι → KnowledgeEnvironment)
    (hfresh : Function.Injective fun i => (envs i).documentId) (schedule : List ι) :
    let s := service.serve requests envs schedule
    (∀ document, document ∈ s.shared.store.documents ↔
      ∃ i result, (s.own i).ingested = some result ∧ result.duplicate = false ∧
        result.document = document) ∧
    (s.shared.store.documents.map KnowledgeDocumentRecord.documentId).Nodup ∧
    (∀ document ∈ s.shared.store.documents,
      ∃ sourceSegments, service.knowledge.Intact s.shared.store document sourceSegments) ∧
    (∀ chunk ∈ s.shared.store.chunks, ∃ document ∈ s.shared.store.documents,
      document.documentId = chunk.documentId) ∧
    s.shared.graph.Grounded s.shared.store ∧ s.shared.graph.WellKeyed := by
  intro s
  obtain ⟨hsound, -⟩ :=
    (serve_valid service requests hfresh schedule).shared
  exact ⟨mem_documents_iff hfresh schedule, hsound.coherent.ids_nodup,
    fun document hdocument => hsound.coherent.intact hdocument, hsound.coherent.owned,
    hsound.grounded, hsound.wellKeyed⟩

end Runs

/-! ## Two uploads -/

/-- Uploads of text files of at most one mebibyte. -/
def textUploads : UploadService where
  maxUploadSizeBytes := 1048576
  parsers := getFileParserRouter
    { read := fun _ => .error .pdfRead, version := "6", minimumCharacters := 20 }
    { read := fun _ => .error .badZipFile, version := "1" }
  knowledge := .policyService
  folding := .ascii
  namelist _ := .ok none
  loads _ := none

/-- Two uploads of one file, which arrives in pieces; the second one asks for enrichment. -/
def policyFiles (second : Bool) : KnowledgeRequest (ℕ × List UInt8) :=
  .file
    { filename := some "policy.txt"
      contentType := some "text/plain"
      source := .fragments fun _ => 3
      file := (0, [32, 112, 111, 108, 105, 99, 121, 10])
      enrichGraph := second }

/-- What they meet. -/
def policyEnvironments (second : Bool) : KnowledgeEnvironment where
  documentId := if second then 2 else 1
  chunkId _ := if second then 20 else 10
  createdAt := if second then 200 else 100
  embedTexts texts := .ok (texts.map fun _ => List.replicate 1536 1)
  graph := { clock := fun n => n, newId := fun n => n }

/-- The documents of the sample have different identifiers. -/
theorem policyEnvironments_fresh :
    Function.Injective fun second => (policyEnvironments second).documentId := by
  intro a b h
  revert a b
  decide

/-- Both uploads look for the text before one of them has stored it. -/
def overlappingSteps : List Bool :=
  [false, true, false, true, false, false, false, true, true, false, true, true, false, true]

/-- The requests of the sample are settled. -/
theorem policy_files_settled :
    (∀ i outcome,
      (textUploads.serve policyFiles policyEnvironments overlappingSteps).own i =
        .finished outcome →
      textUploads.Settled (policyFiles i) (policyEnvironments i)
        (textUploads.serve policyFiles policyEnvironments overlappingSteps).shared outcome) ∧
    (∀ i before after, overlappingSteps = before ++ i :: after →
      let phase := (textUploads.serve policyFiles policyEnvironments overlappingSteps).own i
      let kb := (textUploads.serve policyFiles policyEnvironments before).shared
      let kb' := (textUploads.serve policyFiles policyEnvironments (before ++ [i])).shared
      (¬ phase.Stored → kb'.store = kb.store) ∧ (¬ phase.Enriched → kb'.graph = kb.graph) ∧
        (∀ failure, phase = .finished (.error failure) → kb' = kb)) ∧
    ∀ i, 7 ≤ overlappingSteps.count i →
      ∃ outcome, (textUploads.serve policyFiles policyEnvironments overlappingSteps).own i =
        .finished outcome :=
  requests_settled textUploads policyFiles policyEnvironments policyEnvironments_fresh
    overlappingSteps

/-- The base of the sample is sound. -/
theorem policy_files_sound :
    let s := textUploads.serve policyFiles policyEnvironments overlappingSteps
    (∀ document, document ∈ s.shared.store.documents ↔
      ∃ i result, (s.own i).ingested = some result ∧ result.duplicate = false ∧
        result.document = document) ∧
    (s.shared.store.documents.map KnowledgeDocumentRecord.documentId).Nodup ∧
    (∀ document ∈ s.shared.store.documents,
      ∃ sourceSegments, textUploads.knowledge.Intact s.shared.store document sourceSegments) ∧
    (∀ chunk ∈ s.shared.store.chunks, ∃ document ∈ s.shared.store.documents,
      document.documentId = chunk.documentId) ∧
    s.shared.graph.Grounded s.shared.store ∧ s.shared.graph.WellKeyed :=
  knowledge_base_sound textUploads policyFiles policyEnvironments policyEnvironments_fresh
    overlappingSteps

end UploadService

end AssessmentPlatform
