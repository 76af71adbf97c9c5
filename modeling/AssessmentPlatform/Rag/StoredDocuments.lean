import AssessmentPlatform.Library.Interleaving
import AssessmentPlatform.Rag.NormalForm
import AssessmentPlatform.Rag.SerialIngestion

/-!
# The documents of the store

Every document is committed together with its chunks. So a stored document has a text, which has
been normalized, the hash of this text, and all chunks of it in order, whatever other requests do in
the meantime; and a request that fails leaves nothing.
-/

namespace AssessmentPlatform

open Library

/-- No document has the identifier. -/
def KnowledgeStore.Lacks (store : KnowledgeStore) (documentId : UUID) : Prop :=
  ∀ document ∈ store.documents, document.documentId ≠ documentId

/-- The chunks of a document, in the order in which they have been added. -/
def KnowledgeStore.chunksOf (store : KnowledgeStore) (documentId : UUID) :
    List KnowledgeChunkRecord :=
  store.chunks.filter fun chunk => chunk.documentId = documentId

namespace KnowledgeIngestionService

variable {service : KnowledgeIngestionService} {store store' : KnowledgeStore}
  {call call' : IngestCall} {chunks : List EmbeddedChunk}

/-- The store after the commit of a call. -/
def added (service : KnowledgeIngestionService) (call : IngestCall) (chunks : List EmbeddedChunk)
    (store : KnowledgeStore) : KnowledgeStore where
  documents := store.documents ++ [service.document call]
  chunks := store.chunks ++ call.chunkRows chunks

/-- The document of a call is stored with all its chunks. -/
structure Stores (service : KnowledgeIngestionService) (store : KnowledgeStore)
    (call : IngestCall) : Prop where
  normalized_ne_nil : call.normalized ≠ []
  document_mem : service.document call ∈ store.documents
  chunksOf_eq : ∃ chunks, service.embedChunks call = .ok chunks ∧
    store.chunksOf call.documentId = call.chunkRows chunks

/-- Identifiers are unique, every document is that of a call and stored with all its chunks, and
every chunk belongs to a document. -/
structure Coherent (service : KnowledgeIngestionService) (store : KnowledgeStore) : Prop where
  ids_nodup : (store.documents.map KnowledgeDocumentRecord.documentId).Nodup
  stores : ∀ document ∈ store.documents, ∃ call, document = service.document call ∧
    service.Stores store call
  owned : ∀ chunk ∈ store.chunks, ∃ document ∈ store.documents,
    document.documentId = chunk.documentId

/-- The empty store is coherent. -/
theorem coherent_empty (service : KnowledgeIngestionService) : service.Coherent {} :=
  ⟨List.nodup_nil, List.forall_mem_nil _, List.forall_mem_nil _⟩

/-! ## Commits -/

/-- The chunks of a request belong to its document. -/
theorem documentId_of_mem_chunkRows {row : KnowledgeChunkRecord}
    (h : row ∈ call.chunkRows chunks) : row.documentId = call.documentId := by
  obtain ⟨i, hi, rfl⟩ := List.mem_mapIdx.mp h
  rfl

/-- The chunks of a document that has been there already stay what they are. -/
theorem chunksOf_added_of_ne {documentId : UUID} (hne : call.documentId ≠ documentId) :
    (service.added call chunks store).chunksOf documentId = store.chunksOf documentId := by
  have hnone :
      (call.chunkRows chunks).filter (fun chunk => chunk.documentId = documentId) = [] := by
    rw [List.filter_eq_nil_iff]
    intro row hrow
    rw [documentId_of_mem_chunkRows hrow]
    simpa using hne
  unfold KnowledgeStore.chunksOf added
  rw [List.filter_append, hnone, List.append_nil]

/-- A document that is lacking has no chunks. -/
theorem Coherent.chunksOf_eq_nil (h : service.Coherent store) {documentId : UUID}
    (hlacks : store.Lacks documentId) : store.chunksOf documentId = [] := by
  unfold KnowledgeStore.chunksOf
  rw [List.filter_eq_nil_iff]
  intro chunk hchunk
  obtain ⟨document, hdocument, heq⟩ := h.owned chunk hchunk
  have hne := hlacks document hdocument
  rw [heq] at hne
  simpa using hne

/-- The chunks of a document that is new are those of its request. -/
theorem Coherent.chunksOf_added (h : service.Coherent store)
    (hlacks : store.Lacks call.documentId) :
    (service.added call chunks store).chunksOf call.documentId = call.chunkRows chunks := by
  have hall : (call.chunkRows chunks).filter (fun chunk => chunk.documentId = call.documentId) =
      call.chunkRows chunks := by
    rw [List.filter_eq_self]
    intro row hrow
    simpa using documentId_of_mem_chunkRows hrow
  have hnone := h.chunksOf_eq_nil hlacks
  unfold KnowledgeStore.chunksOf at hnone ⊢
  unfold added
  rw [List.filter_append, hnone, hall, List.nil_append]

/-- What is stored of a call stays when another one is committed. -/
theorem Stores.added (h : service.Stores store call') (hne : call.documentId ≠ call'.documentId) :
    service.Stores (service.added call chunks store) call' where
  normalized_ne_nil := h.normalized_ne_nil
  document_mem := List.mem_append_left _ h.document_mem
  chunksOf_eq := by
    rw [chunksOf_added_of_ne hne]
    exact h.chunksOf_eq

/-- A call whose identifier is fresh is stored by its commit. -/
theorem Coherent.stores_added (h : service.Coherent store) (hlacks : store.Lacks call.documentId)
    (htext : call.normalized ≠ []) (hchunks : service.embedChunks call = .ok chunks) :
    service.Stores (service.added call chunks store) call where
  normalized_ne_nil := htext
  document_mem := List.mem_append_right _ List.mem_cons_self
  chunksOf_eq := ⟨chunks, hchunks, h.chunksOf_added hlacks⟩

/-- A document that is added keeps the store coherent. -/
theorem Coherent.added (h : service.Coherent store) (hlacks : store.Lacks call.documentId)
    (htext : call.normalized ≠ []) (hchunks : service.embedChunks call = .ok chunks) :
    service.Coherent (service.added call chunks store) where
  ids_nodup := by
    unfold KnowledgeIngestionService.added
    rw [List.map_append, List.nodup_append]
    refine ⟨h.ids_nodup, List.nodup_singleton _, ?_⟩
    intro id hid id' hid'
    obtain ⟨document, hdocument, rfl⟩ := List.mem_map.mp hid
    rw [List.mem_singleton.mp hid']
    exact hlacks document hdocument
  stores document hdocument := by
    rcases List.mem_append.mp hdocument with hdocument | hdocument
    · obtain ⟨call', rfl, hstores⟩ := h.stores document hdocument
      have hne : call'.documentId ≠ call.documentId := hlacks _ hdocument
      exact ⟨call', rfl, hstores.added hne.symm⟩
    · exact ⟨call, List.mem_singleton.mp hdocument, h.stores_added hlacks htext hchunks⟩
  owned chunk hchunk := by
    rcases List.mem_append.mp hchunk with hchunk | hchunk
    · obtain ⟨document, hdocument, heq⟩ := h.owned chunk hchunk
      exact ⟨document, List.mem_append_left _ hdocument, heq⟩
    · exact ⟨service.document call, List.mem_append_right _ List.mem_cons_self,
        (documentId_of_mem_chunkRows hchunk).symm⟩

/-! ## Requests -/

/-- What a request has returned: a stored document with the content of the call and the number of
its chunks, which is the one of the call unless it is reported as a duplicate. -/
structure Returned (service : KnowledgeIngestionService) (store : KnowledgeStore)
    (call : IngestCall) (result : KnowledgeIngestionResult) : Prop where
  document_mem : result.document ∈ store.documents
  contentHash_eq : result.document.contentHash = service.contentHash call
  chunkCount_eq : result.chunkCount = (store.chunksOf result.document.documentId).length
  stored : result.duplicate = false → result.document = service.document call ∧
    service.Stores store call
  duplicate : result.duplicate = true → call.deduplicate = true ∧ store.Lacks call.documentId

/-- What holds of a request on the way. -/
def Progress (service : KnowledgeIngestionService) (store : KnowledgeStore) (call : IngestCall) :
    IngestPhase → Prop
  | .idle => store.Lacks call.documentId
  | .found existing => (call.deduplicate = true ∧ store.Lacks call.documentId) ∧
    existing ∈ store.documents ∧ existing.contentHash = service.contentHash call
  | .absent | .created => store.Lacks call.documentId ∧ call.normalized ≠ []
  | .embedded chunks | .written chunks => store.Lacks call.documentId ∧ call.normalized ≠ [] ∧
    service.embedChunks call = .ok chunks
  | .finished (.error _) => store.Lacks call.documentId
  | .finished (.ok result) => service.Returned store call result

/-- What the steps of a request with some identifiers do to the store: nothing, or they add its
document, which has not been there. -/
def Adds (service : KnowledgeIngestionService) (documentId : UUID) (chunkId : ℕ → UUID)
    (store store' : KnowledgeStore) : Prop :=
  store' = store ∨ ∃ call chunks, call.documentId = documentId ∧ call.chunkId = chunkId ∧
    store.Lacks documentId ∧ store' = service.added call chunks store

section Adds

variable {documentId : UUID} {chunkId : ℕ → UUID}

/-- An addition keeps the chunks. -/
theorem Adds.chunks_subset (h : service.Adds documentId chunkId store store') :
    store.chunks ⊆ store'.chunks := by
  rcases h with rfl | ⟨call, chunks, -, -, -, rfl⟩
  · exact List.Subset.refl _
  · exact List.subset_append_left _ _

/-- What lacks stays lacking when another document is added. -/
theorem Adds.lacks {documentId' : UUID} (h : service.Adds documentId chunkId store store')
    (hne : documentId ≠ documentId') (hlacks : store.Lacks documentId') :
    store'.Lacks documentId' := by
  rcases h with rfl | ⟨call, chunks, rfl, -, -, rfl⟩
  · exact hlacks
  · intro document hdocument
    rcases List.mem_append.mp hdocument with hdocument | hdocument
    · exact hlacks document hdocument
    · rw [List.mem_singleton.mp hdocument]
      exact hne

/-- An addition keeps the documents. -/
theorem Adds.documents_subset (h : service.Adds documentId chunkId store store') :
    store.documents ⊆ store'.documents := by
  rcases h with rfl | ⟨call, chunks, -, -, -, rfl⟩
  · exact List.Subset.refl _
  · exact List.subset_append_left _ _

/-- The chunks of a stored document are not touched when a new one is added. -/
theorem Adds.chunksOf_eq (h : service.Adds documentId chunkId store store')
    {document : KnowledgeDocumentRecord} (hdocument : document ∈ store.documents) :
    store'.chunksOf document.documentId = store.chunksOf document.documentId := by
  rcases h with rfl | ⟨call, chunks, rfl, -, hlacks, rfl⟩
  · rfl
  · exact chunksOf_added_of_ne (Ne.symm (hlacks document hdocument))

/-- The chunks of a stored document are listed as before. -/
theorem Adds.listByDocument_eq (h : service.Adds documentId chunkId store store')
    {document : KnowledgeDocumentRecord} (hdocument : document ∈ store.documents) :
    store'.listByDocument document.documentId = store.listByDocument document.documentId := by
  have heq := h.chunksOf_eq hdocument
  unfold KnowledgeStore.chunksOf at heq
  unfold KnowledgeStore.listByDocument
  rw [heq]

/-- An addition keeps what is stored. -/
theorem Adds.stores (h : service.Adds documentId chunkId store store')
    (hstores : service.Stores store call) : service.Stores store' call where
  normalized_ne_nil := hstores.normalized_ne_nil
  document_mem := h.documents_subset hstores.document_mem
  chunksOf_eq := by
    have heq := h.chunksOf_eq hstores.document_mem
    have hchunks := hstores.chunksOf_eq
    rw [show (service.document call).documentId = call.documentId from rfl] at heq
    rw [heq]
    exact hchunks

/-- An addition of another document keeps what has been returned. -/
theorem Adds.returned (h : service.Adds documentId chunkId store store')
    (hne : documentId ≠ call.documentId) {result : KnowledgeIngestionResult}
    (hreturned : service.Returned store call result) : service.Returned store' call result where
  document_mem := h.documents_subset hreturned.document_mem
  contentHash_eq := hreturned.contentHash_eq
  chunkCount_eq := by
    rw [h.chunksOf_eq hreturned.document_mem]
    exact hreturned.chunkCount_eq
  stored hfalse := by
    obtain ⟨hdocument, hstores⟩ := hreturned.stored hfalse
    exact ⟨hdocument, h.stores hstores⟩
  duplicate htrue := (hreturned.duplicate htrue).imp_right (h.lacks hne)

/-- The steps of other requests do not disturb a request. -/
theorem Adds.progress (h : service.Adds documentId chunkId store store')
    (hne : documentId ≠ call.documentId) {phase : IngestPhase}
    (hprogress : service.Progress store call phase) : service.Progress store' call phase := by
  cases phase with
  | idle => exact h.lacks hne hprogress
  | found existing =>
    obtain ⟨hlacks, hmem, hhash⟩ := hprogress
    exact ⟨hlacks.imp_right (h.lacks hne), h.documents_subset hmem, hhash⟩
  | absent | created | embedded | written => exact ⟨h.lacks hne hprogress.1, hprogress.2⟩
  | finished outcome =>
    cases outcome with
    | error failure => exact h.lacks hne hprogress
    | ok result => exact h.returned hne hprogress

end Adds

/-! ## Steps -/

/-- The store and the phase after a step of a request. -/
structure Proceeds (service : KnowledgeIngestionService) (store : KnowledgeStore)
    (call : IngestCall) (next : IngestPhase × KnowledgeStore) : Prop where
  coherent : service.Coherent next.2
  progress : service.Progress next.2 call next.1
  adds : service.Adds call.documentId call.chunkId store next.2

/-- A step that leaves the store. -/
theorem Coherent.proceeds (h : service.Coherent store) {phase : IngestPhase}
    (hprogress : service.Progress store call phase) :
    service.Proceeds store call (phase, store) :=
  ⟨h, hprogress, .inl rfl⟩

/-- A statement that fails leaves nothing. -/
theorem Coherent.proceeds_attempt (h : service.Coherent store)
    (hlacks : store.Lacks call.documentId) {statement : IngestStep}
    {next : IngestPhase × KnowledgeStore} (hnext : service.Proceeds store call next) :
    service.Proceeds store call (attempt call statement store next) := by
  unfold attempt
  cases call.fault statement store with
  | some error => exact h.proceeds hlacks
  | none => exact hnext

/-- The document that is found is stored and has the content hash. -/
theorem mem_of_findByContentHash {contentHash : Str} {existing : KnowledgeDocumentRecord}
    (h : store.findByContentHash contentHash = some existing) :
    existing ∈ store.documents ∧ existing.contentHash = contentHash := by
  have hmem := List.mem_of_head? h
  rw [List.mem_insertionSort, KnowledgeStore.withContentHash, List.mem_filter] at hmem
  exact ⟨hmem.1, of_decide_eq_true hmem.2⟩

/-- A listing has all chunks of the document. -/
theorem length_listByDocument (store : KnowledgeStore) (documentId : UUID) :
    (store.listByDocument documentId).length = (store.chunksOf documentId).length :=
  List.length_insertionSort _ _

/-- The commit of a call with a fresh identifier. -/
theorem Coherent.proceeds_commit (h : service.Coherent store)
    (hlacks : store.Lacks call.documentId) (htext : call.normalized ≠ [])
    (hchunks : service.embedChunks call = .ok chunks) :
    service.Proceeds store call
      (.finished (.ok { document := service.document call, chunkCount := chunks.length }),
        service.added call chunks store) := by
  have hstores := h.stores_added hlacks htext hchunks
  refine ⟨h.added hlacks htext hchunks, ?_, .inr ⟨call, chunks, rfl, rfl, hlacks, rfl⟩⟩
  refine ⟨hstores.document_mem, rfl, ?_, fun _ => ⟨rfl, hstores⟩, by rintro ⟨⟩⟩
  have hcount : (call.chunkRows chunks).length = chunks.length := List.length_mapIdx
  rw [← hcount, ← h.chunksOf_added hlacks]
  rfl

/-- Every step of a request keeps the store coherent and what holds of the request. -/
theorem Coherent.ingestStep (h : service.Coherent store) {phase : IngestPhase}
    (hprogress : service.Progress store call phase) :
    service.Proceeds store call (service.ingestStep call store phase) := by
  cases phase with
  | idle =>
    simp only [KnowledgeIngestionService.ingestStep]
    split
    · exact h.proceeds hprogress
    · rename_i htext
      split
      · rename_i hdeduplicate
        apply h.proceeds_attempt hprogress
        split
        · rename_i existing hfound
          exact h.proceeds ⟨⟨hdeduplicate, hprogress⟩, mem_of_findByContentHash hfound⟩
        · exact h.proceeds ⟨hprogress, htext⟩
      · exact h.proceeds ⟨hprogress, htext⟩
  | found existing =>
    obtain ⟨hlacks, hmem, hhash⟩ := hprogress
    apply h.proceeds_attempt hlacks.2
    apply h.proceeds
    refine ⟨hmem, hhash, length_listByDocument _ _, ?_, fun _ => hlacks⟩
    rintro ⟨⟩
  | absent => exact h.proceeds_attempt hprogress.1 (h.proceeds hprogress)
  | created =>
    simp only [KnowledgeIngestionService.ingestStep]
    cases hchunks : service.embedChunks call with
    | error failure => exact h.proceeds hprogress.1
    | ok chunks => exact h.proceeds ⟨hprogress.1, hprogress.2, hchunks⟩
  | embedded chunks => exact h.proceeds_attempt hprogress.1 (h.proceeds hprogress)
  | written chunks =>
    obtain ⟨hlacks, htext, hchunks⟩ := hprogress
    exact h.proceeds_attempt hlacks (h.proceeds_commit hlacks htext hchunks)
  | finished outcome => exact h.proceeds hprogress

/-- A request changes the store only by the step in which it stores its document. -/
theorem ingestStep_store (service : KnowledgeIngestionService) (call : IngestCall)
    (store : KnowledgeStore) (phase : IngestPhase) :
    (service.ingestStep call store phase).2 = store ∨
      ∃ result, (service.ingestStep call store phase).1 = .finished (.ok result) ∧
        result.duplicate = false := by
  have hattempt : ∀ statement (next : IngestPhase × KnowledgeStore), next.2 = store →
      (attempt call statement store next).2 = store := by
    intro statement next hnext
    unfold attempt
    cases call.fault statement store with
    | none => exact hnext
    | some error => rfl
  cases phase with
  | idle =>
    left
    simp only [KnowledgeIngestionService.ingestStep]
    split
    · rfl
    split
    · apply hattempt
      split <;> rfl
    · rfl
  | found existing => exact .inl (hattempt _ _ rfl)
  | absent => exact .inl (hattempt _ _ rfl)
  | created =>
    left
    simp only [KnowledgeIngestionService.ingestStep]
    cases service.embedChunks call <;> rfl
  | embedded chunks => exact .inl (hattempt _ _ rfl)
  | written chunks =>
    simp only [KnowledgeIngestionService.ingestStep, attempt]
    cases call.fault .commit store with
    | some error => exact .inl rfl
    | none => exact .inr ⟨_, rfl, rfl⟩
  | finished outcome => exact .inl rfl

/-! ## Documents -/

/-- A stored chunk is one of a content with some segments. -/
structure StoredFrom (service : KnowledgeIngestionService) (content : Str)
    (sourceSegments : List KnowledgeSourceSegment) (chunk : TextChunk)
    (row : KnowledgeChunkRecord) : Prop where
  chunkIndex_eq : row.chunkIndex = chunk.index
  content_eq : row.content = chunk.content
  contentHash_eq : row.contentHash = service.sha256 chunk.content
  provenance_eq : row.provenance = chunkProvenance chunk.startOffset chunk.endOffset
    (buildProvenanceSpans content sourceSegments)

/-- A stored document is in normal form and not empty, it has the hash of its content, and its
chunks, in order, are those of its content. -/
structure Intact (service : KnowledgeIngestionService) (store : KnowledgeStore)
    (document : KnowledgeDocumentRecord) (sourceSegments : List KnowledgeSourceSegment) :
    Prop where
  normalForm : NormalForm document.content
  normalized : normalizeText document.content = document.content
  content_ne_nil : document.content ≠ []
  contentHash_eq : document.contentHash = service.sha256 document.content
  chunks : ∃ textChunks, chunkText document.content service.chunkSize service.chunkOverlap =
      .ok textChunks ∧ textChunks ≠ [] ∧
    List.Forall₂ (service.StoredFrom document.content sourceSegments) textChunks
      (store.listByDocument document.documentId)

/-- Chunking succeeds only for a positive size and a smaller overlap. -/
theorem chunkText_bounds {text : Str} {chunkSize overlap : ℤ} {textChunks : List TextChunk}
    (h : chunkText text chunkSize overlap = .ok textChunks) :
    0 < chunkSize ∧ 0 ≤ overlap ∧ overlap < chunkSize := by
  unfold chunkText at h
  split at h
  · cases h
  split at h
  · cases h
  · omega

/-- The chunks of a text are numbered in order. -/
theorem pairwise_index {text : Str} {chunkSize overlap : ℤ} {textChunks : List TextChunk}
    (h : chunkText text chunkSize overlap = .ok textChunks) :
    textChunks.Pairwise fun a b => a.index < b.index := by
  obtain ⟨hsize, hoverlap, hlt⟩ := chunkText_bounds h
  have hindex : ∀ (k : ℕ) (chunk : TextChunk), textChunks[k]? = some chunk → chunk.index = k := by
    intro k chunk hk
    rcases chunkText_cases text hsize hoverlap hlt with
      ⟨-, hnone⟩ | ⟨-, ws, textChunks', hsome, hwindowed⟩
    · rw [hnone] at h
      cases h
      cases hk
    · rw [hsome] at h
      cases h
      exact hwindowed.index hk
  rw [List.pairwise_iff_getElem]
  intro i j hi hj hij
  have hfirst := hindex i _ (List.getElem?_eq_getElem hi)
  have hsecond := hindex j _ (List.getElem?_eq_getElem hj)
  omega

/-- The rows of a call are those of the chunks of its text, of which there are some. -/
theorem forall₂_chunkRows (h : service.embedChunks call = .ok chunks) :
    ∃ textChunks, chunkText call.normalized service.chunkSize service.chunkOverlap =
        .ok textChunks ∧ textChunks ≠ [] ∧
      List.Forall₂ (service.StoredFrom call.normalized call.sourceSegments) textChunks
        (call.chunkRows chunks) := by
  unfold embedChunks at h
  obtain ⟨textChunks, htexts, h⟩ := except_bind_eq_ok.mp h
  split at h
  · cases h
  rename_i hne
  obtain ⟨vectors, -, h⟩ := except_bind_eq_ok.mp h
  split at h
  · cases h
  rename_i hlength
  cases h
  refine ⟨textChunks, htexts, hne, ?_⟩
  rw [List.forall₂_iff_get]
  unfold IngestCall.chunkRows
  constructor
  · rw [List.length_mapIdx, List.length_zipWith]
    omega
  · intro i hi hi'
    simp only [List.get_eq_getElem, List.getElem_mapIdx, List.getElem_zipWith]
    exact ⟨rfl, rfl, rfl, rfl⟩

/-- The rows of a call are numbered in order. -/
theorem pairwise_chunkRows (h : service.embedChunks call = .ok chunks) :
    (call.chunkRows chunks).Pairwise fun a b => a.chunkIndex < b.chunkIndex := by
  obtain ⟨textChunks, htexts, -, hall⟩ := forall₂_chunkRows h
  have hlength := hall.length_eq
  have horder := List.pairwise_iff_getElem.mp (pairwise_index htexts)
  rw [List.pairwise_iff_getElem]
  intro i j hi hj hij
  have hfirst := (List.forall₂_iff_get.mp hall).2 i (by omega) hi
  have hsecond := (List.forall₂_iff_get.mp hall).2 j (by omega) hj
  have hlt := horder i j (by omega) (by omega) hij
  exact hfirst.chunkIndex_eq ▸ hsecond.chunkIndex_eq ▸ hlt

/-- What is stored of a call is listed in order and complete. -/
theorem Stores.intact (h : service.Stores store call) :
    service.Intact store (service.document call) call.sourceSegments where
  normalForm := normalizeText_normalForm call.request.content
  normalized := normalizeText_normalizeText call.request.content
  content_ne_nil := h.normalized_ne_nil
  contentHash_eq := rfl
  chunks := by
    obtain ⟨chunks, hchunks, hrows⟩ := h.chunksOf_eq
    obtain ⟨textChunks, htexts, hne, hall⟩ := forall₂_chunkRows hchunks
    refine ⟨textChunks, htexts, hne, ?_⟩
    have hsorted : (call.chunkRows chunks).Pairwise fun a b => a.chunkIndex ≤ b.chunkIndex :=
      (pairwise_chunkRows hchunks).imp Nat.le_of_lt
    have hlist : store.listByDocument call.documentId = call.chunkRows chunks := by
      rw [KnowledgeStore.listByDocument,
        show store.chunks.filter (fun chunk => chunk.documentId = call.documentId) = _ from hrows]
      exact hsorted.insertionSort_eq
    change List.Forall₂ _ textChunks (store.listByDocument call.documentId)
    rw [hlist]
    exact hall

/-- Every stored document is intact. -/
theorem Coherent.intact (h : service.Coherent store) {document : KnowledgeDocumentRecord}
    (hdocument : document ∈ store.documents) :
    ∃ sourceSegments, service.Intact store document sourceSegments := by
  obtain ⟨call, rfl, hstores⟩ := h.stores document hdocument
  exact ⟨call.sourceSegments, hstores.intact⟩

/-- Two chunks of a document have different places in it. -/
theorem Coherent.eq_of_chunkIndex_eq (h : service.Coherent store)
    {chunk chunk' : KnowledgeChunkRecord} (hchunk : chunk ∈ store.chunks)
    (hchunk' : chunk' ∈ store.chunks) (hdocument : chunk.documentId = chunk'.documentId)
    (hindex : chunk.chunkIndex = chunk'.chunkIndex) : chunk = chunk' := by
  obtain ⟨document, hmem, hid⟩ := h.owned chunk hchunk
  obtain ⟨call, rfl, hstores⟩ := h.stores document hmem
  obtain ⟨chunks, hchunks, hrows⟩ := hstores.chunksOf_eq
  have hlisted : ∀ other ∈ store.chunks, other.documentId = chunk.documentId →
      other ∈ call.chunkRows chunks := by
    intro other hother hsame
    rw [← hrows, KnowledgeStore.chunksOf, List.mem_filter]
    exact ⟨hother, decide_eq_true (hsame.trans hid.symm)⟩
  have hnodup : ((call.chunkRows chunks).map KnowledgeChunkRecord.chunkIndex).Nodup :=
    List.pairwise_map.mpr ((pairwise_chunkRows hchunks).imp Nat.ne_of_lt)
  exact List.inj_on_of_nodup_map hnodup (hlisted chunk hchunk rfl)
    (hlisted chunk' hchunk' hdocument.symm) hindex

/-- A stored document has chunks. -/
theorem Intact.chunks_ne_nil {document : KnowledgeDocumentRecord}
    {sourceSegments : List KnowledgeSourceSegment}
    (h : service.Intact store document sourceSegments) :
    store.chunksOf document.documentId ≠ [] := by
  obtain ⟨textChunks, -, hne, hall⟩ := h.chunks
  intro hnil
  have hlength := hall.length_eq
  rw [length_listByDocument, hnil, List.length_nil] at hlength
  exact hne (List.eq_nil_of_length_eq_zero hlength)

end KnowledgeIngestionService

end AssessmentPlatform
