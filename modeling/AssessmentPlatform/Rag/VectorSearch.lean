import AssessmentPlatform.Library.Keyed
import AssessmentPlatform.Library.Ranking
import AssessmentPlatform.Rag.Ingestion
import AssessmentPlatform.Rag.Retrieval
import Mathlib.Algebra.Order.Ring.Rat

/-!
# Vector search in a store

`search_similar` and the service above it. The database filters by distance, source type and
document, orders by distance and identifier and cuts; the service tests the similarity again, drops
repeated chunks, ranks by similarity and identifier and cuts again. The distance of two vectors is
a parameter with exact rational values.
-/

namespace AssessmentPlatform

open Library

/-- Documents and chunks, with their keys. -/
structure VectorStore where
  knowledge : KnowledgeStore
  document_ids : (knowledge.documents.map KnowledgeDocumentRecord.documentId).Nodup
  chunk_ids : (knowledge.chunks.map KnowledgeChunkRecord.chunkId).Nodup
  chunk_document : ∀ chunk ∈ knowledge.chunks,
    chunk.documentId ∈ knowledge.documents.map KnowledgeDocumentRecord.documentId

/-- The optional filters of a search. -/
structure SearchFilter where
  sourceType : Option KnowledgeSourceType := none
  documentId : Option UUID := none

/-- A chunk and its document. -/
abbrev ChunkRow := KnowledgeChunkRecord × KnowledgeDocumentRecord

/-- Whether the row passes the filters. -/
def SearchFilter.admits (filter : SearchFilter) (row : ChunkRow) : Bool :=
  filter.sourceType.all (fun sourceType => row.2.sourceType = sourceType) &&
    filter.documentId.all (fun documentId => row.1.documentId = documentId)

/-- A query in the space of the embeddings. -/
structure VectorQuery where
  cosineDistance : List ℚ → List ℚ → ℚ
  embedding : List ℚ

/-- The distance of a row to the query. -/
def VectorQuery.distance (query : VectorQuery) (row : ChunkRow) : ℚ :=
  query.cosineDistance row.1.embedding query.embedding

/-- The evidence of a row. -/
def VectorQuery.evidence (query : VectorQuery) (row : ChunkRow) : RetrievedEvidence where
  chunkId := row.1.chunkId
  documentId := row.2.documentId
  documentTitle := row.2.title
  content := row.1.content
  similarityScore := some (1 - query.distance row)
  sourceType := row.2.sourceType

/-- The order of the database. -/
def VectorQuery.nearer (query : VectorQuery) : ChunkRow → ChunkRow → Prop :=
  byThen query.distance fun row => row.1.chunkId

instance (query : VectorQuery) : DecidableRel query.nearer :=
  inferInstanceAs (DecidableRel (byThen _ _))

instance (query : VectorQuery) : Std.Total query.nearer := inferInstanceAs (Std.Total (byThen _ _))

instance (query : VectorQuery) : IsTrans ChunkRow query.nearer :=
  inferInstanceAs (IsTrans _ (byThen _ _))

/-- A result, unless the database raises. -/
def unlessFault {α : Type} (fault : Option SQLAlchemyError) (r : Except Failure α) :
    Except Failure α :=
  match fault with
  | some error => .error (.database error)
  | none => r

/-- A read without a fault gives its value. -/
theorem unlessFault_eq_ok {α : Type} {fault : Option SQLAlchemyError} {r : Except Failure α} {a : α}
    (h : unlessFault fault r = .ok a) : r = .ok a := by
  unfold unlessFault at h
  split at h
  · cases h
  · exact h

namespace VectorStore

variable (store : VectorStore)

/-- The chunks joined with their documents. -/
def rows : List ChunkRow :=
  store.knowledge.chunks.filterMap fun chunk =>
    (getBy KnowledgeDocumentRecord.documentId chunk.documentId store.knowledge.documents).map
      fun document => (chunk, document)

section Search

variable (query : VectorQuery) (limit : ℕ) (similarityThreshold : ℚ) (filter : SearchFilter)

/-- `search_similar`. -/
def searchSimilar : List RetrievedEvidence :=
  let found := ((store.rows.filter fun row =>
    query.distance row ≤ 1 - similarityThreshold && filter.admits row).insertionSort
      query.nearer).take limit
  found.foldl (fun evidence row => setDefaultBy RetrievedEvidence.chunkId (query.evidence row)
    evidence) []

/-- The evidence that a search is to rank: all rows that pass the filters and reach the
threshold. -/
def relevant : List RetrievedEvidence :=
  (store.rows.filter fun row =>
    filter.admits row && similarityThreshold ≤ 1 - query.distance row).map query.evidence

end Search

/-! ## The service -/

/-- The settings of the service, its embedding provider, and the errors of its session, if there
are any. -/
structure SearchSession where
  embedTexts : List Str → Except Failure (List (List ℚ))
  cosineDistance : List ℚ → List ℚ → ℚ
  fault : Option SQLAlchemyError := none
  rollback : Except Failure Unit := .ok ()
  topK : ℕ
  similarityThreshold : ℚ

/-- The service over a store, for the calls that use its default threshold and no filters. -/
def retrievalService (session : SearchSession) : RetrievalService where
  embedTexts := session.embedTexts
  searchSimilar embedding limit threshold :=
    unlessFault session.fault
      (.ok (store.searchSimilar ⟨session.cosineDistance, embedding⟩ limit threshold {}))
  rollback := session.rollback
  topK := session.topK
  similarityThreshold := session.similarityThreshold

/-- `RetrievalService.search` with all its arguments. -/
def search (session : SearchSession) (query : Str) (topK : Option ℕ)
    (similarityThreshold : Option ℚ) (filter : SearchFilter) :
    Except Failure (List RetrievedEvidence) := do
  let queryEmbedding ← (store.retrievalService session).embedQuery query
  let resolvedTopK := limitOr topK session.topK
  let resolvedThreshold := similarityThreshold.getD session.similarityThreshold
  let evidence ← guardStore session.rollback .knowledgeStoreUnavailable .knowledgePersistence
    (unlessFault session.fault (.ok (store.searchSimilar ⟨session.cosineDistance, queryEmbedding⟩
      resolvedTopK resolvedThreshold filter)))
  let unique ← uniqueEvidence resolvedThreshold evidence []
  pure ((unique.insertionSort RetrievedEvidence.ranksBefore).take resolvedTopK)

/-- The calls of the assessment workflows. -/
theorem search_default (session : SearchSession) (query : Str) (topK : Option ℕ) :
    store.search session query topK none {} = (store.retrievalService session).search query topK :=
  rfl

/-! ## One filter, one sort, one cut -/

/-- The evidence that a search returns. -/
def ranking (query : VectorQuery) (limit : ℕ) (similarityThreshold : ℚ) (filter : SearchFilter) :
    List RetrievedEvidence :=
  ((store.relevant query similarityThreshold filter).insertionSort
    RetrievedEvidence.ranksBefore).take limit

section Ranking

variable {store : VectorStore} {query : VectorQuery} {limit : ℕ} {similarityThreshold : ℚ}
  {filter : SearchFilter}

/-- Every chunk has one row. -/
theorem rows_chunks : store.rows.map Prod.fst = store.knowledge.chunks := by
  unfold rows
  rw [List.map_filterMap]
  refine (List.filterMap_congr fun chunk hchunk => ?_).trans List.filterMap_some
  obtain ⟨document, hfound⟩ := getBy_isSome (store.chunk_document chunk hchunk)
  rw [hfound]
  rfl

/-- The rows of the vector store have distinct chunks. -/
theorem nodup_rows : (store.rows.map fun row => row.1.chunkId).Nodup := by
  have h := store.chunk_ids
  rw [← rows_chunks, List.map_map] at h
  exact h

/-- The relevant evidence holds each chunk once. -/
theorem nodup_relevant :
    ((store.relevant query similarityThreshold filter).map RetrievedEvidence.chunkId).Nodup := by
  unfold relevant
  rw [List.map_map]
  exact nodup_rows.sublist (List.filter_sublist.map _)

/-- The relevant evidence has scores above the threshold. -/
theorem relevant_scored : ∀ item ∈ store.relevant query similarityThreshold filter,
    ∃ score, item.similarityScore = some score ∧ similarityThreshold ≤ score := by
  intro item hitem
  obtain ⟨row, hrow, rfl⟩ := List.mem_map.mp hitem
  have hadmits := (List.mem_filter.mp hrow).2
  exact ⟨_, rfl, by simpa using (Bool.and_eq_true_iff.mp hadmits).2⟩

instance : Std.Total RetrievedEvidence.ranksBefore where
  total a b := by
    unfold RetrievedEvidence.ranksBefore
    rcases lt_trichotomy (a.similarityScore.getD 0) (b.similarityScore.getD 0) with h | h | h
    · exact .inr (.inl h)
    · exact (le_total a.chunkId b.chunkId).imp (fun hid => .inr ⟨h, hid⟩)
        fun hid => .inr ⟨h.symm, hid⟩
    · exact .inl (.inl h)

instance : IsTrans RetrievedEvidence RetrievedEvidence.ranksBefore where
  trans a b c := by
    unfold RetrievedEvidence.ranksBefore
    rintro (hab | ⟨hab, hid⟩) (hbc | ⟨hbc, hid'⟩)
    · exact .inl (hbc.trans hab)
    · exact .inl (hbc ▸ hab)
    · exact .inl (hab ▸ hbc)
    · exact .inr ⟨hab.trans hbc, hid.trans hid'⟩

/-- The two orders agree: a nearer row is a more similar one. -/
theorem nearer_iff {a b : ChunkRow} :
    query.nearer a b ↔ (query.evidence a).ranksBefore (query.evidence b) := by
  unfold VectorQuery.nearer byThen RetrievedEvidence.ranksBefore VectorQuery.evidence
  simp only [Option.getD_some, sub_lt_sub_iff_left, sub_right_inj]

/-- The rows of the database are already the ranking. -/
theorem searchSimilar_eq : store.searchSimilar query limit similarityThreshold filter =
    store.ranking query limit similarityThreshold filter := by
  have hfilter : (store.rows.filter fun row =>
      query.distance row ≤ 1 - similarityThreshold && filter.admits row) =
      store.rows.filter fun row =>
        filter.admits row && similarityThreshold ≤ 1 - query.distance row := by
    refine List.filter_congr fun row _ => ?_
    rw [Bool.and_comm]
    exact congrArg _ (decide_eq_decide.mpr le_sub_comm)
  have hsorted : (store.ranking query limit similarityThreshold filter) =
      (((store.rows.filter fun row =>
        filter.admits row && similarityThreshold ≤ 1 - query.distance row).insertionSort
          query.nearer).take limit).map query.evidence := by
    unfold ranking relevant
    rw [List.map_take, List.map_insertionSort query.nearer RetrievedEvidence.ranksBefore]
    exact fun a _ b _ => nearer_iff
  unfold searchSimilar
  dsimp only
  rw [hfilter, foldl_setDefaultBy, List.nil_append, hsorted]
  rw [List.nil_append, List.map_map]
  have hperm := (List.perm_insertionSort query.nearer (store.rows.filter fun row =>
    filter.admits row && similarityThreshold ≤ 1 - query.distance row)).map
      fun row => row.1.chunkId
  exact (hperm.nodup_iff.mpr (nodup_rows.sublist (List.filter_sublist.map _))).sublist
    ((List.take_sublist _ _).map _)

/-- The ranking holds relevant evidence. -/
theorem mem_ranking {item : RetrievedEvidence}
    (h : item ∈ store.ranking query limit similarityThreshold filter) :
    item ∈ store.relevant query similarityThreshold filter :=
  (List.mem_insertionSort _).mp (List.mem_of_mem_take h)

/-- The ranking holds the best of the relevant evidence, in order. -/
theorem firstBy_ranking :
    FirstBy RetrievedEvidence.ranksBefore limit
      {item | item ∈ store.relevant query similarityThreshold filter}
      (store.ranking query limit similarityThreshold filter) :=
  firstBy_sort (nodup_relevant.of_map _)

/-- The ranking holds each chunk once. -/
theorem nodup_ranking :
    ((store.ranking query limit similarityThreshold filter).map
      RetrievedEvidence.chunkId).Nodup := by
  have hperm := (List.perm_insertionSort RetrievedEvidence.ranksBefore
    (store.relevant query similarityThreshold filter)).map RetrievedEvidence.chunkId
  exact (hperm.nodup_iff.mpr nodup_relevant).sublist ((List.take_sublist _ _).map _)

/-- Distinct chunks that reach the threshold are all kept. -/
theorem uniqueEvidence_of_nodup {threshold : ℚ} {evidence unique : List RetrievedEvidence}
    (hscored : ∀ item ∈ evidence, ∃ score, item.similarityScore = some score ∧ threshold ≤ score)
    (hnodup : ((unique ++ evidence).map RetrievedEvidence.chunkId).Nodup) :
    uniqueEvidence threshold evidence unique = .ok (unique ++ evidence) := by
  induction evidence generalizing unique with
  | nil => simp [uniqueEvidence]
  | cons item rest ih =>
    obtain ⟨score, hscore, hreaches⟩ := hscored item List.mem_cons_self
    have hnew : item.chunkId ∉ unique.map RetrievedEvidence.chunkId := by
      intro hmem
      rw [List.map_append, List.nodup_append] at hnodup
      exact hnodup.2.2 _ hmem _ (by simp) rfl
    unfold uniqueEvidence
    rw [hscore]
    dsimp only
    rw [if_pos ⟨hreaches, hnew⟩, ih (fun i hi => hscored i (List.mem_cons_of_mem _ hi))
      (by simpa using hnodup)]
    simp

variable (store query limit similarityThreshold filter) in
/-- What the service does to a ranking changes nothing. -/
theorem rerank_ranking : (do
      let unique ← uniqueEvidence similarityThreshold
        (store.ranking query limit similarityThreshold filter) []
      pure ((unique.insertionSort RetrievedEvidence.ranksBefore).take limit)) =
    (.ok (store.ranking query limit similarityThreshold filter) :
      Except Failure (List RetrievedEvidence)) := by
  rw [uniqueEvidence_of_nodup (fun item hitem => relevant_scored item (mem_ranking hitem))
    nodup_ranking, List.nil_append]
  have hfirst : FirstBy _ _ _ (store.ranking query limit similarityThreshold filter) :=
    firstBy_ranking
  change Except.ok _ = _
  rw [hfirst.sorted.insertionSort_eq, List.take_of_length_le hfirst.length_le]

end Ranking

/-- The ranking takes the place of all that a search does to the rows. -/
theorem search_ranks (session : SearchSession) (query : Str) (topK : Option ℕ)
    (similarityThreshold : Option ℚ) (filter : SearchFilter) :
    store.search session query topK similarityThreshold filter = (do
      let embedding ← (store.retrievalService session).embedQuery query
      guardStore session.rollback .knowledgeStoreUnavailable .knowledgePersistence
        (unlessFault session.fault (.ok (store.ranking ⟨session.cosineDistance, embedding⟩
          (limitOr topK session.topK)
          (similarityThreshold.getD session.similarityThreshold) filter)))) := by
  unfold search
  cases (store.retrievalService session).embedQuery query with
  | error e => rfl
  | ok embedding =>
    cases hfault : session.fault with
    | some error =>
      unfold guardStore unlessFault
      cases session.rollback with
      | ok _ => rfl
      | error e => cases e <;> rfl
    | none =>
      have hrerank := store.rerank_ranking ⟨session.cosineDistance, embedding⟩
        (limitOr topK session.topK) (similarityThreshold.getD session.similarityThreshold) filter
      rw [← searchSimilar_eq] at hrerank
      exact hrerank.trans (congrArg Except.ok searchSimilar_eq)

/-- A search embeds its query and returns the first relevant chunks, by falling similarity and
rising identifier. -/
theorem search_eq_ranking (session : SearchSession) (query : Str) (topK : Option ℕ)
    (similarityThreshold : Option ℚ) (filter : SearchFilter) :
    (store.search session query topK similarityThreshold filter = do
      let embedding ← (store.retrievalService session).embedQuery query
      guardStore session.rollback .knowledgeStoreUnavailable .knowledgePersistence
        (unlessFault session.fault (.ok (store.ranking ⟨session.cosineDistance, embedding⟩
          (limitOr topK session.topK)
          (similarityThreshold.getD session.similarityThreshold) filter)))) ∧
      ∀ (vector : VectorQuery) (limit : ℕ) (threshold : ℚ),
        FirstBy RetrievedEvidence.ranksBefore limit
          {item | item ∈ store.relevant vector threshold filter}
          (store.ranking vector limit threshold filter) ∧
        ((store.ranking vector limit threshold filter).map RetrievedEvidence.chunkId).Nodup :=
  ⟨store.search_ranks session query topK similarityThreshold filter,
    fun _ _ _ => ⟨firstBy_ranking, nodup_ranking⟩⟩

/-- A document of two chunks. -/
def architectureChunks : VectorStore where
  knowledge :=
    { documents :=
        [{ documentId := 3, title := "Architecture", sourceType := .text,
           content := "The portal depends on the ledger.", contentHash := "c0ffee",
           createdAt := 0 }]
      chunks :=
        [{ chunkId := 2, documentId := 3, chunkIndex := 0, content := "The portal depends",
           embedding := [1], contentHash := "c0", provenance := {} },
         { chunkId := 4, documentId := 3, chunkIndex := 1, content := "on the ledger.",
           embedding := [2], contentHash := "fe", provenance := {} }] }
  document_ids := by decide
  chunk_ids := by decide
  chunk_document := by decide

/-- Every text has one embedding, which is close to another embedding. -/
def oneEmbedding : SearchSession where
  embedTexts texts := .ok (texts.map fun _ => [2])
  cosineDistance a b := if a = b then 0 else 1 / 4
  topK := 5
  similarityThreshold := 1 / 2

/-- The chunk with the embedding of the query comes first. -/
theorem architecture_search_eq_ranking :
    ∃ found, architectureChunks.search oneEmbedding "ledger" none none {} = .ok found ∧
      FirstBy RetrievedEvidence.ranksBefore 5
        {item | item ∈ architectureChunks.relevant ⟨oneEmbedding.cosineDistance, [2]⟩ (1 / 2) {}}
        found ∧
      found.map RetrievedEvidence.chunkId = [4, 2] := by
  obtain ⟨hsearch, hranking⟩ :=
    search_eq_ranking architectureChunks oneEmbedding "ledger" none none {}
  exact ⟨_, hsearch, (hranking ⟨oneEmbedding.cosineDistance, [2]⟩ 5 (1 / 2)).1, by decide +kernel⟩

/-- A search that returns has a ranking as its result. -/
theorem search_eq_ok {store : VectorStore} {session : SearchSession} {query : Str}
    {topK : Option ℕ} {similarityThreshold : Option ℚ} {filter : SearchFilter}
    {found : List RetrievedEvidence}
    (h : store.search session query topK similarityThreshold filter = .ok found) :
    ∃ vector limit threshold, found = store.ranking vector limit threshold filter := by
  rw [search_ranks] at h
  obtain ⟨embedding, -, hfound⟩ := except_bind_eq_ok.mp h
  have hranking := unlessFault_eq_ok (guardStore_eq_ok hfound)
  exact ⟨_, _, _, (Except.ok.inj hranking).symm⟩

end VectorStore

end AssessmentPlatform
