import AssessmentPlatform.Ingestion.UploadRuns
import AssessmentPlatform.KnowledgeGraph.Identifiers
import AssessmentPlatform.KnowledgeGraph.Neighborhood

/-!
# Every knowledge base is a store

Retrieval reads tables whose keys hold. No constraint of the database has to enforce them: if every
request draws identifiers of its own, they hold in every order of the steps of the requests. Tables
only grow, so what has been read once is found there later.
-/

namespace AssessmentPlatform

open Library

/-- A document and the place of a chunk in it. -/
def KnowledgeChunkRecord.key (chunk : KnowledgeChunkRecord) : UUID × ℕ :=
  (chunk.documentId, chunk.chunkIndex)

/-- The keys and the checks of all tables hold. -/
structure KnowledgeBase.Valid (kb : KnowledgeBase) : Prop where
  document_ids : (kb.store.documents.map KnowledgeDocumentRecord.documentId).Nodup
  chunk_ids : (kb.store.chunks.map KnowledgeChunkRecord.chunkId).Nodup
  chunk_keys : (kb.store.chunks.map KnowledgeChunkRecord.key).Nodup
  chunk_document : ∀ chunk ∈ kb.store.chunks,
    chunk.documentId ∈ kb.store.documents.map KnowledgeDocumentRecord.documentId
  entity_ids : (kb.graph.entities.map KnowledgeEntityModel.id).Nodup
  mention_ids : (kb.graph.mentions.map KnowledgeEntityMentionModel.id).Nodup
  relationship_ids : (kb.graph.relationships.map KnowledgeRelationshipModel.id).Nodup
  keyed : kb.graph.WellKeyed
  mention_entity : ∀ mention ∈ kb.graph.mentions,
    mention.entityId ∈ kb.graph.entities.map KnowledgeEntityModel.id
  mention_document : ∀ mention ∈ kb.graph.mentions,
    mention.documentId ∈ kb.store.documents.map KnowledgeDocumentRecord.documentId
  mention_chunk : ∀ mention ∈ kb.graph.mentions,
    mention.chunkId ∈ kb.store.chunks.map KnowledgeChunkRecord.chunkId
  mention_confidence : ∀ mention ∈ kb.graph.mentions,
    0 ≤ mention.confidence ∧ mention.confidence ≤ 1
  relationship_source : ∀ r ∈ kb.graph.relationships,
    r.sourceEntityId ∈ kb.graph.entities.map KnowledgeEntityModel.id
  relationship_target : ∀ r ∈ kb.graph.relationships,
    r.targetEntityId ∈ kb.graph.entities.map KnowledgeEntityModel.id
  relationship_chunk : ∀ r ∈ kb.graph.relationships,
    r.sourceChunkId ∈ kb.store.chunks.map KnowledgeChunkRecord.chunkId
  relationship_confidence : ∀ r ∈ kb.graph.relationships, 0 ≤ r.confidence ∧ r.confidence ≤ 1

/-- The store that retrieval reads. -/
def KnowledgeBase.graphStore (kb : KnowledgeBase) (h : kb.Valid) (sortKey : Str → Str) :
    GraphStore where
  knowledge := kb.store
  document_ids := h.document_ids
  chunk_ids := h.chunk_ids
  chunk_document := h.chunk_document
  graph := kb.graph
  sortKey := sortKey
  entity_ids := h.entity_ids
  mention_ids := h.mention_ids
  relationship_ids := h.relationship_ids
  mention_entity := h.mention_entity
  mention_chunk := h.mention_chunk
  relationship_source := h.relationship_source
  relationship_target := h.relationship_target
  relationship_chunk := h.relationship_chunk
  relationship_confidence := h.relationship_confidence

/-- What is stored stays in its place. -/
structure KnowledgeStore.Extends (store store' : KnowledgeStore) : Prop where
  documents : store.documents <+: store'.documents
  chunks : store.chunks <+: store'.chunks

/-- A store extends itself. -/
theorem KnowledgeStore.Extends.refl (store : KnowledgeStore) : store.Extends store :=
  ⟨List.prefix_refl _, List.prefix_refl _⟩

/-- A store that extends an extension of another one extends that one. -/
theorem KnowledgeStore.Extends.trans {a b c : KnowledgeStore} (h : a.Extends b)
    (h' : b.Extends c) : a.Extends c :=
  ⟨h.documents.trans h'.documents, h.chunks.trans h'.chunks⟩

/-- A document that is added extends the store. -/
theorem KnowledgeIngestionService.Adds.extends {service : KnowledgeIngestionService}
    {documentId : UUID} {chunkId : ℕ → UUID} {store store' : KnowledgeStore}
    (h : service.Adds documentId chunkId store store') : store.Extends store' := by
  rcases h with rfl | ⟨call, chunks, -, -, -, rfl⟩
  · exact .refl _
  · exact ⟨List.prefix_append _ _, List.prefix_append _ _⟩

/-- Every identifier is drawn once, by one request. -/
structure FreshIdentifiers {ι : Type} (envs : ι → KnowledgeEnvironment) : Prop where
  documents : Function.Injective fun i => (envs i).documentId
  chunks : Function.Injective fun p : ι × ℕ => (envs p.1).chunkId p.2
  rows : Function.Injective fun p : ι × ℕ => (envs p.1).graph.newId p.2

/-- The rows have identifiers of their own, and requests have drawn them. -/
structure KnowledgeBase.Drawn {ι : Type} (kb : KnowledgeBase) (envs : ι → KnowledgeEnvironment) :
    Prop where
  chunk_ids : (kb.store.chunks.map KnowledgeChunkRecord.chunkId).Nodup
  chunks : ∀ chunk ∈ kb.store.chunks, ∃ i k,
    chunk.documentId = (envs i).documentId ∧ chunk.chunkId = (envs i).chunkId k
  rows : kb.graph.Identified fun id => ∃ i k, id = (envs i).graph.newId k

/-- A sound base with drawn identifiers is valid. -/
theorem KnowledgeBase.Drawn.valid {ι : Type} {kb : KnowledgeBase} {envs : ι → KnowledgeEnvironment}
    {knowledge : KnowledgeIngestionService} (h : kb.Drawn envs) (hsound : kb.Sound knowledge) :
    kb.Valid where
  document_ids := hsound.coherent.ids_nodup
  chunk_ids := h.chunk_ids
  chunk_keys := by
    refine h.chunk_ids.of_map.map_on fun chunk hchunk chunk' hchunk' heq => ?_
    simp only [KnowledgeChunkRecord.key, Prod.mk.injEq] at heq
    exact hsound.coherent.eq_of_chunkIndex_eq hchunk hchunk' heq.1 heq.2
  chunk_document chunk hchunk := by
    obtain ⟨document, hdocument, heq⟩ := hsound.coherent.owned chunk hchunk
    exact List.mem_map.mpr ⟨document, hdocument, heq⟩
  entity_ids := h.rows.entities.1
  mention_ids := h.rows.mentions.1
  relationship_ids := h.rows.relationships.1
  keyed := hsound.wellKeyed
  mention_entity mention hmention := (hsound.grounded.mentions mention hmention).1
  mention_document mention hmention := by
    obtain ⟨-, chunk, hchunk, -, howner⟩ := hsound.grounded.mentions mention hmention
    obtain ⟨document, hdocument, heq⟩ := hsound.coherent.owned chunk hchunk
    exact List.mem_map.mpr ⟨document, hdocument, heq.trans howner⟩
  mention_chunk mention hmention := by
    obtain ⟨-, chunk, hchunk, heq, -⟩ := hsound.grounded.mentions mention hmention
    exact List.mem_map.mpr ⟨chunk, hchunk, heq⟩
  mention_confidence := h.rows.mention_confidence
  relationship_source r hr := (hsound.grounded.relationships r hr).1
  relationship_target r hr := (hsound.grounded.relationships r hr).2.1
  relationship_chunk r hr := (hsound.grounded.relationships r hr).2.2
  relationship_confidence := h.rows.confidence

namespace UploadService

/-! ## Steps -/

section Steps

variable {σ ι : Type} {service : UploadService} {kb kb' : KnowledgeBase}
  {request : KnowledgeRequest σ} {env : KnowledgeEnvironment} {envs : ι → KnowledgeEnvironment}

/-- The identifiers of the rows of a call are drawn in order. -/
theorem map_chunkId_chunkRows (call : IngestCall) (chunks : List EmbeddedChunk) :
    (call.chunkRows chunks).map KnowledgeChunkRecord.chunkId =
      (List.range chunks.length).map call.chunkId := by
  apply List.ext_getElem
  · simp [IngestCall.chunkRows]
  · intro k hk hk'
    simp [IngestCall.chunkRows]

/-- The chunks of a new document have new identifiers. -/
theorem drawn_adds {i : ι} {store' : KnowledgeStore} (hfresh : FreshIdentifiers envs)
    (hsound : kb.Sound service.knowledge) (h : kb.Drawn envs)
    (hadds : service.knowledge.Adds (envs i).documentId (envs i).chunkId kb.store store') :
    (store'.chunks.map KnowledgeChunkRecord.chunkId).Nodup ∧ ∀ chunk ∈ store'.chunks, ∃ i k,
      chunk.documentId = (envs i).documentId ∧ chunk.chunkId = (envs i).chunkId k := by
  rcases hadds with rfl | ⟨call, chunks, hdocument, hchunkId, hlacks, rfl⟩
  · exact ⟨h.chunk_ids, h.chunks⟩
  have hrows := map_chunkId_chunkRows call chunks
  rw [hchunkId] at hrows
  have hinjective : Function.Injective (envs i).chunkId := fun k k' heq =>
    congrArg Prod.snd (@hfresh.chunks (i, k) (i, k') heq)
  constructor
  · unfold KnowledgeIngestionService.added
    rw [List.map_append, hrows, List.nodup_append]
    refine ⟨h.chunk_ids, List.nodup_range.map hinjective, ?_⟩
    intro id hid id' hid' heq
    obtain ⟨chunk, hchunk, rfl⟩ := List.mem_map.mp hid
    obtain ⟨k', -, rfl⟩ := List.mem_map.mp hid'
    obtain ⟨j, k, howner, hdrawn⟩ := h.chunks chunk hchunk
    have hpair := @hfresh.chunks (j, k) (i, k') (hdrawn.symm.trans heq)
    obtain rfl : j = i := congrArg Prod.fst hpair
    -- the chunk would belong to the new document
    obtain ⟨document, hmem, hsame⟩ := hsound.coherent.owned chunk hchunk
    exact hlacks document hmem (hsame.trans howner)
  · intro chunk hchunk
    rcases List.mem_append.mp hchunk with hchunk | hchunk
    · exact h.chunks chunk hchunk
    · have hid := List.mem_map_of_mem (f := KnowledgeChunkRecord.chunkId) hchunk
      rw [hrows] at hid
      obtain ⟨k, -, hk⟩ := List.mem_map.mp hid
      have howner := KnowledgeIngestionService.documentId_of_mem_chunkRows hchunk
      exact ⟨i, k, howner.trans hdocument, hk.symm⟩

/-- The rows that a request adds to the graph have identifiers that it has drawn. -/
def Rows (env : KnowledgeEnvironment) (graph graph' : KnowledgeGraph) : Prop :=
  ∀ id ∈ graph'.ids, id ∈ graph.ids ∨ ∃ k, id = env.graph.newId k

/-- A request that has not finished has not added a row. -/
def Unused (env : KnowledgeEnvironment) (kb : KnowledgeBase) (phase : KnowledgePhase) : Prop :=
  phase.remaining ≠ 0 → ∀ k, env.graph.newId k ∉ kb.graph.ids

/-- A request changes the graph in its last step alone. -/
theorem enriches_requestStep (service : UploadService) (request : KnowledgeRequest σ)
    (env : KnowledgeEnvironment) (kb : KnowledgeBase) (phase : KnowledgePhase) :
    (service.requestStep request env kb phase).2.graph = kb.graph ∨
      phase.remaining ≠ 0 ∧ (service.requestStep request env kb phase).1.remaining = 0 ∧
        Enriches env.graph kb (service.requestStep request env kb phase).2.graph := by
  cases phase with
  | received =>
    cases request with
    | file upload => exact .inl rfl
    | document document => exact .inl rfl
    | graph documentId =>
      exact .inr ⟨by decide, rfl, enriches_enrichDocumentGraph service env.graph kb documentId⟩
  | finished outcome => exact .inl rfl
  | ingesting admission phase =>
    by_cases hphase : ∀ outcome, phase ≠ .finished outcome
    · rw [requestStep_ingesting hphase]
      exact .inl rfl
    · simp only [not_forall, ne_eq, not_not] at hphase
      obtain ⟨outcome, rfl⟩ := hphase
      cases outcome with
      | error failure => exact .inl rfl
      | ok result =>
        refine .inr ⟨Nat.succ_ne_zero _, rfl, ?_⟩
        exact enriches_conclude service env kb admission.prepared result

/-- An enrichment with new identifiers. -/
theorem Enriches.drawn {i : ι} {graph : KnowledgeGraph} (h : Enriches (envs i).graph kb graph)
    (hfresh : FreshIdentifiers envs) (hdrawn : kb.Drawn envs)
    (hunused : ∀ k, (envs i).graph.newId k ∉ kb.graph.ids) :
    (graph.Identified fun id => ∃ i k, id = (envs i).graph.newId k) ∧
      Rows (envs i) kb.graph graph := by
  rcases h with rfl | ⟨enrichment, documentId, rfl⟩
  · exact ⟨hdrawn.rows, fun id hid => .inl hid⟩
  have hinjective : Function.Injective (envs i).graph.newId := fun k k' heq =>
    congrArg Prod.snd (@hfresh.rows (i, k) (i, k') heq)
  have hidentified := enrichment.enrichGraph_identified kb.store documentId
    ⟨hinjective, hunused⟩ hdrawn.rows.used
  refine ⟨hidentified.mono fun id hid => ?_, fun id hid => hidentified.issued_of_mem hid⟩
  rcases hid with hid | ⟨k, rfl⟩
  · exact hdrawn.rows.issued_of_mem hid
  · exact ⟨i, k, rfl⟩

end Steps

/-! ## Runs -/

section Runs

variable {σ ι : Type} {service : UploadService} {requests : ι → KnowledgeRequest σ}
  {envs : ι → KnowledgeEnvironment}

/-- The steps of a request with identifiers of its own keep all keys. -/
theorem requestSteps_drawn (hfresh : FreshIdentifiers envs) :
    Undisturbed (service.requestSteps requests envs)
      (fun kb => service.Common envs kb ∧ kb.Drawn envs)
      (fun i kb phase => service.Stage (requests i) (envs i) kb phase ∧ Unused (envs i) kb phase)
      (fun i kb kb' => service.Guarantees (envs i) kb kb' ∧ Rows (envs i) kb.graph kb'.graph) where
  keeps i kb phase hcommon hprivate := by
    obtain ⟨hshared, hdrawn⟩ := hcommon
    obtain ⟨hstage, hunused⟩ := hprivate
    obtain ⟨hshared', hstage', hguarantees⟩ :=
      (requestSteps_undisturbed hfresh.documents).keeps i kb phase hshared hstage
    obtain ⟨hchunk_ids, hchunks⟩ := drawn_adds hfresh hshared.1 hdrawn hguarantees.adds
    have hcloser := remaining_requestStep service (requests i) (envs i) kb phase
    rcases enriches_requestStep service (requests i) (envs i) kb phase with
      heq | ⟨hunfinished, hfinished, henriches⟩
    · have hgraph : (service.requestSteps requests envs i kb phase).2.graph = kb.graph := heq
      refine ⟨⟨hshared', hchunk_ids, hchunks, ?_⟩, ⟨hstage', fun hnext k => ?_⟩, hguarantees, ?_⟩
      · rw [hgraph]
        exact hdrawn.rows
      · rw [hgraph]
        refine hunused ?_ k
        change (service.requestStep (requests i) (envs i) kb phase).1.remaining ≠ 0 at hnext
        omega
      · rw [hgraph]
        exact fun id hid => .inl hid
    · obtain ⟨hrows, hadded⟩ := henriches.drawn hfresh hdrawn (hunused hunfinished)
      refine ⟨⟨hshared', hchunk_ids, hchunks, hrows⟩, ⟨hstage', fun hnext => ?_⟩, hguarantees,
        hadded⟩
      exact absurd hfinished hnext
  stable i j kb kb' phase hne hcommon hguarantee hprivate := by
    obtain ⟨hguarantees, hrows⟩ := hguarantee
    obtain ⟨hstage, hunused⟩ := hprivate
    refine ⟨(requestSteps_undisturbed hfresh.documents).stable i j kb kb' phase hne hcommon.1
      hguarantees hstage, fun hunfinished k hid => ?_⟩
    rcases hrows _ hid with hid | ⟨k', heq⟩
    · exact hunused hunfinished k hid
    · exact hne (congrArg Prod.fst (@hfresh.rows (j, k) (i, k') heq))

variable [DecidableEq ι]

/-- In every state the keys of the tables hold. -/
theorem serve_drawn (service : UploadService) (requests : ι → KnowledgeRequest σ)
    (hfresh : FreshIdentifiers envs) (schedule : List ι) :
    (service.serve requests envs schedule).Valid
      (fun kb => service.Common envs kb ∧ kb.Drawn envs)
      (fun i kb phase => service.Stage (requests i) (envs i) kb phase ∧
        Unused (envs i) kb phase) := by
  have hempty : KnowledgeBase.Drawn {} envs :=
    ⟨List.nodup_nil, List.forall_mem_nil _, KnowledgeGraph.identified_empty _⟩
  have hinitial := serve_valid service requests hfresh.documents []
  refine Turn.Valid.takeTurns ⟨⟨hinitial.shared, hempty⟩, fun i => ⟨hinitial.own i, ?_⟩⟩
    (requestSteps_drawn hfresh) schedule
  exact fun _ k => List.not_mem_nil

/-- Every run of requests leaves a valid base. -/
theorem serve_keys (service : UploadService) (requests : ι → KnowledgeRequest σ)
    (hfresh : FreshIdentifiers envs) (schedule : List ι) :
    (service.serve requests envs schedule).shared.Valid := by
  have hvalid := serve_drawn service requests hfresh schedule
  exact hvalid.shared.2.valid hvalid.shared.1.1

/-- Whatever happens later leaves what is stored. -/
theorem serve_extends (service : UploadService) (requests : ι → KnowledgeRequest σ)
    (hfresh : FreshIdentifiers envs) {earlier schedule : List ι} (h : earlier <+: schedule) :
    (service.serve requests envs earlier).shared.store.Extends
      (service.serve requests envs schedule).shared.store := by
  obtain ⟨later, rfl⟩ := h
  unfold serve
  rw [takeTurns_append]
  exact (serve_drawn service requests hfresh earlier).takeTurns_related (requestSteps_drawn hfresh)
    (fun kb => KnowledgeStore.Extends.refl kb.store) (fun _ _ _ h h' => h.trans h')
    (fun _ _ _ h => h.1.adds.extends) later

/-- In every order of the steps the knowledge base has valid keys, and whatever happens later leaves
its documents and chunks in their places. -/
theorem knowledge_base_valid (service : UploadService) (requests : ι → KnowledgeRequest σ)
    (envs : ι → KnowledgeEnvironment) (hfresh : FreshIdentifiers envs) (schedule later : List ι) :
    (service.serve requests envs schedule).shared.Valid ∧
      (service.serve requests envs schedule).shared.store.Extends
        (service.serve requests envs (schedule ++ later)).shared.store :=
  ⟨serve_keys service requests hfresh schedule,
    serve_extends service requests hfresh (List.prefix_append schedule later)⟩

end Runs

/-! ## Two uploads -/

/-- Uploads that enrich the graph. -/
def graphUploads : UploadService :=
  { textUploads with graph := some KnowledgeGraphEnrichmentService.portalService }

/-- Two uploads that draw the even and the odd identifiers. -/
def policyDraws (second : Bool) : KnowledgeEnvironment :=
  { policyEnvironments second with
    chunkId := fun k => 2 * k + second.toNat
    graph := { clock := fun n => n, newId := fun k => 2 * k + second.toNat } }

/-- The identifiers of the sample are fresh. -/
theorem policyDraws_fresh : FreshIdentifiers policyDraws := by
  have hinjective : Function.Injective fun p : Bool × ℕ => 2 * p.2 + p.1.toNat := by
    rintro ⟨a, k⟩ ⟨b, k'⟩ heq
    have hbounds := And.intro a.toNat_le b.toNat_le
    dsimp only at heq
    have hfirst : a.toNat = b.toNat := by omega
    have hsecond : k = k' := by omega
    have hsame : a = b := by
      cases a <;> cases b <;> first | rfl | cases hfirst
    exact Prod.ext hsame hsecond
  exact ⟨policyEnvironments_fresh, hinjective, hinjective⟩

/-- The base of the sample is valid, and it grows with the next step. -/
theorem policy_files_valid :
    (graphUploads.serve policyFiles policyDraws overlappingSteps).shared.Valid ∧
      (graphUploads.serve policyFiles policyDraws overlappingSteps).shared.store.Extends
        (graphUploads.serve policyFiles policyDraws
          (overlappingSteps ++ [true])).shared.store :=
  knowledge_base_valid graphUploads policyFiles policyDraws policyDraws_fresh overlappingSteps
    [true]

end UploadService

end AssessmentPlatform
