import AssessmentPlatform.Providers.Embeddings
import AssessmentPlatform.Rag.Ingestion

/-!
# Vectors of ingested chunks

A chunk is stored with the vector at its position, so it has the vector that was computed for its
text exactly as far as the embedding provider keeps its vectors in order.
-/

namespace AssessmentPlatform

open Library

/-- The embedded chunks that a request has not committed yet. -/
def IngestPhase.pendingChunks : IngestPhase → Option (List EmbeddedChunk)
  | .embedded chunks | .written chunks => some chunks
  | _ => none

namespace KnowledgeIngestionService

variable {ι : Type} {service : KnowledgeIngestionService} {calls : ι → IngestCall}

/-! ## The chunks that are stored -/

/-- The chunks after a step of a request: those that it holds are the chunks of the call with
their embeddings, and so are those that it adds to the store. -/
structure StepChunks (service : KnowledgeIngestionService) (call : IngestCall)
    (store : KnowledgeStore) (next : IngestPhase × KnowledgeStore) : Prop where
  pending : ∀ chunks, next.1.pendingChunks = some chunks → service.embedChunks call = .ok chunks
  stored : ∀ row ∈ next.2.chunks, row ∈ store.chunks ∨
    ∃ chunks, service.embedChunks call = .ok chunks ∧ row ∈ call.chunkRows chunks

/-- The chunks of a state: those of the requests, and those that the run began with. -/
structure ChunksEmbedded (service : KnowledgeIngestionService) (calls : ι → IngestCall)
    (initial : KnowledgeStore) (s : State ι) : Prop where
  pending : ∀ i chunks, (s.phase i).pendingChunks = some chunks →
    service.embedChunks (calls i) = .ok chunks
  stored : ∀ row ∈ s.store.chunks, row ∈ initial.chunks ∨
    ∃ i chunks, service.embedChunks (calls i) = .ok chunks ∧ row ∈ (calls i).chunkRows chunks

section Steps

variable {call : IngestCall} {store : KnowledgeStore}

/-- A step that neither holds nor stores chunks. -/
theorem StepChunks.none {phase : IngestPhase} (h : phase.pendingChunks = none) :
    StepChunks service call store (phase, store) where
  pending chunks hchunks := by cases h.symm.trans hchunks
  stored _ hrow := .inl hrow

/-- A request that holds its embedded chunks adds no others. -/
theorem StepChunks.holding {phase : IngestPhase} {chunks : List EmbeddedChunk}
    (hphase : phase.pendingChunks = some chunks) (h : service.embedChunks call = .ok chunks) :
    StepChunks service call store (phase, store) where
  pending found hfound := by
    cases hphase.symm.trans hfound
    exact h
  stored _ hrow := .inl hrow

/-- A statement that fails leaves the chunks. -/
theorem StepChunks.attempt {statement : IngestStep} {next : IngestPhase × KnowledgeStore}
    (h : StepChunks service call store next) :
    StepChunks service call store (attempt call statement store next) := by
  unfold KnowledgeIngestionService.attempt
  cases call.fault statement store with
  | some error => exact .none rfl
  | none => exact h

/-- A step handles the embedded chunks alone. -/
theorem ingestStep_chunks {phase : IngestPhase}
    (h : ∀ chunks, phase.pendingChunks = some chunks → service.embedChunks call = .ok chunks) :
    StepChunks service call store (service.ingestStep call store phase) := by
  cases phase with
  | idle =>
    simp only [ingestStep]
    split
    · exact .none rfl
    · split
      · refine .attempt ?_
        split
        · exact .none rfl
        · exact .none rfl
      · exact .none rfl
  | found existing => exact .attempt (.none rfl)
  | absent => exact .attempt (.none rfl)
  | created =>
    simp only [ingestStep]
    cases hchunks : service.embedChunks call with
    | error failure => exact .none rfl
    | ok chunks => exact .holding rfl hchunks
  | embedded chunks => exact .attempt (.holding rfl (h chunks rfl))
  | written chunks =>
    refine .attempt ⟨fun found hfound => ?_, fun row hrow => ?_⟩
    · cases hfound
    · exact (List.mem_append.mp hrow).imp_right fun hrow => ⟨chunks, h chunks rfl, hrow⟩
  | finished outcome => exact .none rfl

end Steps

variable [DecidableEq ι] {initial : KnowledgeStore}

/-- A step keeps the chunks embedded. -/
theorem ChunksEmbedded.advance {s : State ι} (h : ChunksEmbedded service calls initial s) (i : ι) :
    ChunksEmbedded service calls initial (service.advance calls s i) := by
  have hstep : StepChunks service (calls i) s.store
      (service.ingestStep (calls i) s.store (s.phase i)) := ingestStep_chunks (h.pending i)
  refine ⟨fun j chunks hchunks => ?_, fun row hrow => ?_⟩
  · unfold KnowledgeIngestionService.advance at hchunks
    dsimp only at hchunks
    rcases eq_or_ne j i with rfl | hne
    · rw [Function.update_self] at hchunks
      exact hstep.pending chunks hchunks
    · rw [Function.update_of_ne hne] at hchunks
      exact h.pending j chunks hchunks
  · rcases hstep.stored row hrow with hrow | ⟨chunks, hchunks, hrow⟩
    · exact h.stored row hrow
    · exact .inr ⟨i, chunks, hchunks, hrow⟩

/-- In every state of a run the stored chunks are those of its requests with their embeddings, or
those that it began with. -/
theorem run_chunksEmbedded (schedule : List ι) :
    ChunksEmbedded service calls initial (service.run calls initial schedule) := by
  refine List.foldlRecOn schedule _ ⟨?_, fun row hrow => .inl hrow⟩ fun s h i _ => h.advance i
  intro i chunks hchunks
  cases hchunks

end KnowledgeIngestionService

/-! ## Alignment -/

section Alignment

variable {service : KnowledgeIngestionService} {call : IngestCall}

/-- A stored chunk has the vector that was labelled for its text. -/
def AlignedRow (service : KnowledgeIngestionService) (call : IngestCall)
    (provider : OpenAIEmbeddingProvider) (responses : ℕ → List Str → List EmbeddingItem)
    (row : KnowledgeChunkRecord) : Prop :=
  ∃ textChunks i chunk, chunkText call.normalized service.chunkSize service.chunkOverlap =
      .ok textChunks ∧
    textChunks[i]? = some chunk ∧ row.documentId = call.documentId ∧ row.content = chunk.content ∧
    row.chunkIndex = chunk.index ∧
    LabelledVector provider responses (textChunks.map TextChunk.content) i row.embedding

/-- The responses to a call that pass the checks are labelled with the positions within their
batches. -/
def LabelsCall (service : KnowledgeIngestionService) (call : IngestCall)
    (provider : OpenAIEmbeddingProvider) (responses : ℕ → List Str → List EmbeddingItem) : Prop :=
  ∀ textChunks, chunkText call.normalized service.chunkSize service.chunkOverlap =
      .ok textChunks →
    ChecksPass provider responses (textChunks.map TextChunk.content) →
    LabelledResponses provider responses (textChunks.map TextChunk.content)

/-- The embedded chunks of a call are its chunks, each with the vector at its position. -/
theorem embedChunks_eq_ok {chunks : List EmbeddedChunk}
    (h : service.embedChunks call = .ok chunks) :
    ∃ textChunks vectors, chunkText call.normalized service.chunkSize service.chunkOverlap =
        .ok textChunks ∧
      call.embedTexts (textChunks.map TextChunk.content) = .ok vectors ∧
      ∀ (i : ℕ) (embedded : EmbeddedChunk), chunks[i]? = some embedded →
        ∃ chunk vector, textChunks[i]? = some chunk ∧ vectors[i]? = some vector ∧
          embedded.content = chunk.content ∧ embedded.chunkIndex = chunk.index ∧
          embedded.embedding = vector ∧
          embedded.provenance = chunkProvenance chunk.startOffset chunk.endOffset
            (buildProvenanceSpans call.normalized call.sourceSegments) := by
  unfold KnowledgeIngestionService.embedChunks at h
  obtain ⟨textChunks, htexts, h⟩ := except_bind_eq_ok.mp h
  split at h
  · cases h
  obtain ⟨vectors, hvectors, h⟩ := except_bind_eq_ok.mp h
  split at h
  · cases h
  cases h
  refine ⟨textChunks, vectors, htexts, hvectors, fun i embedded hembedded => ?_⟩
  obtain ⟨chunk, vector, hchunk, hvector, rfl⟩ := List.getElem?_zipWith_eq_some.mp hembedded
  exact ⟨chunk, vector, hchunk, hvector, rfl, rfl, rfl, rfl⟩

/-- A row of the embedded chunks of a call is aligned if the vectors of its texts are. -/
theorem alignedRow_of_mem {provider : OpenAIEmbeddingProvider}
    {responses : ℕ → List Str → List EmbeddingItem} {chunks : List EmbeddedChunk}
    {row : KnowledgeChunkRecord}
    (hembed : call.embedTexts = provider.embedTexts (.answering responses))
    (hlabelled : LabelsCall service call provider responses)
    (hchunks : service.embedChunks call = .ok chunks) (hrow : row ∈ call.chunkRows chunks) :
    AlignedRow service call provider responses row := by
  obtain ⟨textChunks, vectors, htexts, hvectors, hpositions⟩ := embedChunks_eq_ok hchunks
  obtain ⟨i, hi, hrow⟩ := List.mem_mapIdx.mp hrow
  obtain ⟨chunk, vector, hchunk, hvector, hcontent, hindex, hembedding, -⟩ :=
    hpositions i _ (List.getElem?_eq_getElem hi)
  have haligned := alignedOutcome_iff.mpr (hlabelled textChunks htexts)
  rw [← hembed, hvectors] at haligned
  refine ⟨textChunks, i, chunk, htexts, hchunk, ?_⟩
  rw [← hrow]
  refine ⟨rfl, hcontent, hindex, ?_⟩
  rw [show (_ : List ℚ) = vector from hembedding]
  exact haligned.2 i vector hvector

end Alignment

/-- Each vector that is returned is the one that is labelled for its text, or
`InvalidEmbeddingError` is raised, exactly if responses that pass the checks label their items
with the positions within their batches; and then every ingested chunk is stored with the vector
that is labelled for its text. -/
theorem embed_texts_aligned_iff (provider : OpenAIEmbeddingProvider) :
    (∀ responses texts,
      AlignedOutcome provider responses texts
          (provider.embedTexts (.answering responses) texts) ↔
        (ChecksPass provider responses texts → LabelledResponses provider responses texts)) ∧
    ∀ (ι : Type) [DecidableEq ι] (service : KnowledgeIngestionService) (calls : ι → IngestCall)
      (responses : ι → ℕ → List Str → List EmbeddingItem) (initial : KnowledgeStore)
      (schedule : List ι),
      (∀ i, (calls i).embedTexts = provider.embedTexts (.answering (responses i))) →
      (∀ i, LabelsCall service (calls i) provider (responses i)) →
      ∀ row ∈ (service.run calls initial schedule).store.chunks, row ∈ initial.chunks ∨
        ∃ i, AlignedRow service (calls i) provider (responses i) row := by
  refine ⟨fun responses texts => alignedOutcome_iff, ?_⟩
  intro ι _ service calls responses initial schedule hembed hlabelled row hrow
  rcases (KnowledgeIngestionService.run_chunksEmbedded schedule).stored row hrow with
    hrow | ⟨i, chunks, hchunks, hrow⟩
  · exact .inl hrow
  · exact .inr ⟨i, alignedRow_of_mem (hembed i) (hlabelled i) hchunks hrow⟩

/-! ## A short response and a long one -/

/-- A provider with batches of two texts. -/
def OpenAIEmbeddingProvider.pairs : OpenAIEmbeddingProvider where
  dimension := 1
  batchSize := 2
  dimension_pos := by decide
  batchSize_pos := by decide

/-- The first batch is answered by one item and the second one, of a single text, by two. -/
def shiftedResponses : ℕ → List Str → List EmbeddingItem
  | 0, _ => [⟨0, [.finite 1]⟩]
  | _, _ => [⟨1, [.finite 3]⟩, ⟨0, [.finite 2]⟩]

/-- The second text gets the vector that is labelled for the third one. -/
theorem short_response_shifts_vectors :
    ¬ ∀ (provider : OpenAIEmbeddingProvider) (responses : ℕ → List Str → List EmbeddingItem)
      (texts : List Str), texts ≠ [] →
      AlignedOutcome provider responses texts
        (provider.embedTexts (.answering responses) texts) := by
  intro hclaim
  have houtcome : OpenAIEmbeddingProvider.pairs.embedTexts (.answering shiftedResponses)
      [[97], [98], [99]] = .ok [[1], [2], [3]] := by
    decide +kernel
  have haligned := hclaim .pairs shiftedResponses [[97], [98], [99]] (List.cons_ne_nil _ _)
  rw [houtcome] at haligned
  obtain ⟨item, hitem, -⟩ := haligned.2 1 [2] rfl
  have hnone : ((batchResponse .pairs shiftedResponses [[97], [98], [99]] (1 / 2)).filter
      fun item => item.index = ((1 % 2 : ℕ) : ℤ)) = [] := by
    decide +kernel
  cases hnone.symm.trans hitem

end AssessmentPlatform
