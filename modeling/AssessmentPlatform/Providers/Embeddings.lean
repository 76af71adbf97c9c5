import AssessmentPlatform.Core.Exceptions
import AssessmentPlatform.Library.Blocks
import AssessmentPlatform.Library.Program
import Mathlib.Algebra.Order.Field.Rat

/-!
# Embeddings of texts

The provider sends the texts in batches, sorts each response by the indices of its items, and
puts the embeddings of all responses together. It checks the number of all embeddings, but not
how many of them a response holds or which indices it uses. A batch whose response is longer than
it makes up for one whose response is shorter, and the embeddings behind them move.
-/

namespace AssessmentPlatform

open Library

/-- A value within an embedding, as `float` and `isfinite` see it. -/
inductive EmbeddingValue where
  | finite (value : ℚ)
  | nonFinite
  | unconvertible
  deriving DecidableEq

/-- The number that a value is converted to, if it is a finite one. -/
def EmbeddingValue.value? : EmbeddingValue → Option ℚ
  | .finite value => some value
  | .nonFinite | .unconvertible => none

/-- An item of a response: the embedding of the text at a position of the batch. -/
structure EmbeddingItem where
  index : ℤ
  embedding : List EmbeddingValue
  deriving DecidableEq

/-- Why there is no response: the client is not configured, the request fails with one of the
provider errors, the response has not the expected form (`AttributeError`, `TypeError` or
`ValueError`), or anything else. -/
inductive EmbeddingFault where
  | notConfigured | provider | malformed | other

/-- The exception that `embed_texts` raises instead. -/
def EmbeddingFault.failure : EmbeddingFault → Failure
  | .notConfigured => .application .embeddingNotConfigured
  | .provider => .application .embeddingProvider
  | .malformed => .application .invalidEmbedding
  | .other => .other

/-- The client of the vendor: whether it can be obtained, and what the request of a batch comes to
after its retries. -/
structure EmbeddingClient where
  obtain : Except EmbeddingFault Unit
  request : ℕ → List Str → Except EmbeddingFault (List EmbeddingItem)

/-- Ordered, dimension-constrained embedding adapter. -/
structure OpenAIEmbeddingProvider where
  dimension : ℕ
  batchSize : ℕ := 100
  dimension_pos : 0 < dimension
  batchSize_pos : 0 < batchSize

namespace OpenAIEmbeddingProvider

variable (provider : OpenAIEmbeddingProvider)

/-- The embeddings of all batches, in the order of their indices within each batch. -/
def collect (client : EmbeddingClient) (texts : List Str) :
    Except EmbeddingFault (List (List EmbeddingValue)) := do
  client.obtain
  let ordered ← (List.range (blockCount provider.batchSize texts.length)).mapM fun n => do
    let data ← client.request n (block provider.batchSize texts n)
    pure ((byLabel EmbeddingItem.index data).map EmbeddingItem.embedding)
  pure ordered.flatten

/-- The checks of all embeddings and their conversion. -/
def converted (texts : List Str) (vectors : List (List EmbeddingValue)) :
    Except Failure (List (List ℚ)) :=
  if vectors.length ≠ texts.length then .error (.application .invalidEmbedding)
  else if ∃ vector ∈ vectors, .unconvertible ∈ vector then .error (.application .invalidEmbedding)
  else if ∃ vector ∈ vectors, vector.length ≠ provider.dimension ∨ .nonFinite ∈ vector then
    .error (.application .invalidEmbedding)
  else .ok (vectors.map fun vector => vector.filterMap EmbeddingValue.value?)

/-- `embed_texts`. -/
def embedTexts (client : EmbeddingClient) (texts : List Str) : Except Failure (List (List ℚ)) :=
  if texts = [] ∨ ∃ text ∈ texts, text.strip = [] then .error (.application .invalidEmbedding)
  else do
    let vectors ← (provider.collect client texts).mapError EmbeddingFault.failure
    provider.converted texts vectors

end OpenAIEmbeddingProvider

/-- A client that answers every request. -/
def EmbeddingClient.answering (responses : ℕ → List Str → List EmbeddingItem) :
    EmbeddingClient where
  obtain := .ok ()
  request n batch := .ok (responses n batch)

section Alignment

variable (provider : OpenAIEmbeddingProvider) (responses : ℕ → List Str → List EmbeddingItem)
  (texts : List Str)

/-- The response to a batch of the texts. -/
def batchResponse (n : ℕ) : List EmbeddingItem :=
  responses n (block provider.batchSize texts n)

/-- The items of all responses, each response in the order of its indices. -/
def orderedItems : List EmbeddingItem :=
  gathered EmbeddingItem.index provider.batchSize texts.length
    (batchResponse provider responses texts)

/-- The response that answers a text labels exactly one item with the position of the text within
its batch, and the vector is the embedding of this item. -/
def LabelledVector (i : ℕ) (vector : List ℚ) : Prop :=
  ∃ item, ((batchResponse provider responses texts (i / provider.batchSize)).filter
      fun item => item.index = ((i % provider.batchSize : ℕ) : ℤ)) = [item] ∧
    vector.map EmbeddingValue.finite = item.embedding

/-- What `embed_texts` may come to: one vector for each text, each of them the one that is labelled
for it; or `InvalidEmbeddingError`. -/
def AlignedOutcome : Except Failure (List (List ℚ)) → Prop
  | .ok vectors => vectors.length = texts.length ∧
      ∀ i vector, vectors[i]? = some vector → LabelledVector provider responses texts i vector
  | .error e => e = .application .invalidEmbedding

/-- What is checked of the texts and the responses: no text is blank, there are as many items as
texts, and every embedding has the dimension and holds finite numbers only. -/
structure ChecksPass : Prop where
  texts_ne_nil : texts ≠ []
  visible : ∀ text ∈ texts, text.strip ≠ []
  length_eq : ∑ n ∈ Finset.range (blockCount provider.batchSize texts.length),
    (batchResponse provider responses texts n).length = texts.length
  embeddings : ∀ n < blockCount provider.batchSize texts.length,
    ∀ item ∈ batchResponse provider responses texts n,
      item.embedding.length = provider.dimension ∧
        ∀ value ∈ item.embedding, value.value?.isSome = true

/-- Every response labels its items with the positions within its batch, each of them once. -/
def LabelledResponses : Prop :=
  ∀ n < blockCount provider.batchSize texts.length,
    LabelledUpTo EmbeddingItem.index (batchResponse provider responses texts n)
      (blockLength provider.batchSize texts.length n)

variable {provider responses texts}

/-- The answers are collected in the order of their items. -/
theorem collect_answering :
    provider.collect (.answering responses) texts =
      .ok ((orderedItems provider responses texts).map EmbeddingItem.embedding) := by
  have hmapM : ((List.range (blockCount provider.batchSize texts.length)).mapM fun n =>
      (pure ((byLabel EmbeddingItem.index (batchResponse provider responses texts n)).map
        EmbeddingItem.embedding) : Except EmbeddingFault (List (List EmbeddingValue)))) =
      .ok ((List.range (blockCount provider.batchSize texts.length)).map fun n =>
        (byLabel EmbeddingItem.index (batchResponse provider responses texts n)).map
          EmbeddingItem.embedding) :=
    List.mapM_pure
  refine (congrArg (· >>= fun ordered => pure ordered.flatten) hmapM).trans ?_
  rw [except_ok_bind, orderedItems, gathered, List.map_flatten, List.map_map]
  rfl

/-- The ordered items are those of the responses. -/
theorem mem_orderedItems {item : EmbeddingItem} :
    item ∈ orderedItems provider responses texts ↔
      ∃ n < blockCount provider.batchSize texts.length,
        item ∈ batchResponse provider responses texts n := by
  unfold orderedItems gathered
  simp only [List.mem_flatten, List.mem_map, List.mem_range, exists_exists_and_eq_and,
    (byLabel_perm _ _).mem_iff]

/-- A finite embedding is what its numbers are made of. -/
theorem map_finite_filterMap {embedding : List EmbeddingValue}
    (h : ∀ value ∈ embedding, value.value?.isSome = true) :
    (embedding.filterMap EmbeddingValue.value?).map EmbeddingValue.finite = embedding := by
  induction embedding with
  | nil => rfl
  | cons value embedding ih =>
    have hrest := ih fun value hvalue => h value (List.mem_cons_of_mem _ hvalue)
    cases value with
    | finite q => exact congrArg (EmbeddingValue.finite q :: ·) hrest
    | nonFinite => cases h .nonFinite List.mem_cons_self
    | unconvertible => cases h .unconvertible List.mem_cons_self

/-- Without blank texts, what is collected is converted. -/
theorem embedTexts_answering (hblank : ¬ (texts = [] ∨ ∃ text ∈ texts, text.strip = [])) :
    provider.embedTexts (.answering responses) texts =
      provider.converted texts
        ((orderedItems provider responses texts).map EmbeddingItem.embedding) := by
  rw [OpenAIEmbeddingProvider.embedTexts, if_neg hblank, collect_answering]
  rfl

/-- If the checks pass, the numbers of the items are returned in their order. -/
theorem embedTexts_of_checksPass (h : ChecksPass provider responses texts) :
    provider.embedTexts (.answering responses) texts =
      .ok ((orderedItems provider responses texts).map fun item =>
        item.embedding.filterMap EmbeddingValue.value?) := by
  have hblank : ¬ (texts = [] ∨ ∃ text ∈ texts, text.strip = []) := by
    rintro (hnil | ⟨text, htext, hstrip⟩)
    · exact h.texts_ne_nil hnil
    · exact h.visible text htext hstrip
  have hvectors : ∀ vector ∈ (orderedItems provider responses texts).map EmbeddingItem.embedding,
      vector.length = provider.dimension ∧ ∀ value ∈ vector, value.value?.isSome = true := by
    intro vector hvector
    obtain ⟨item, hitem, rfl⟩ := List.mem_map.mp hvector
    obtain ⟨n, hn, hitem⟩ := mem_orderedItems.mp hitem
    exact h.embeddings n hn item hitem
  have hlength : ((orderedItems provider responses texts).map EmbeddingItem.embedding).length =
      texts.length := by
    rw [List.length_map]
    exact length_gathered.trans h.length_eq
  have hconvertible : ¬ ∃ vector ∈ (orderedItems provider responses texts).map
      EmbeddingItem.embedding, .unconvertible ∈ vector := by
    rintro ⟨vector, hvector, hunconvertible⟩
    cases (hvectors vector hvector).2 _ hunconvertible
  have hfits : ¬ ∃ vector ∈ (orderedItems provider responses texts).map EmbeddingItem.embedding,
      vector.length ≠ provider.dimension ∨ .nonFinite ∈ vector := by
    rintro ⟨vector, hvector, hwrong | hnonFinite⟩
    · exact hwrong (hvectors vector hvector).1
    · cases (hvectors vector hvector).2 _ hnonFinite
  rw [embedTexts_answering hblank, OpenAIEmbeddingProvider.converted,
    if_neg (not_not_intro hlength), if_neg hconvertible, if_neg hfits, List.map_map]
  rfl

/-- If a check fails, `InvalidEmbeddingError` is raised. -/
theorem embedTexts_of_not_checksPass (h : ¬ ChecksPass provider responses texts) :
    provider.embedTexts (.answering responses) texts =
      .error (.application .invalidEmbedding) := by
  by_cases hblank : texts = [] ∨ ∃ text ∈ texts, text.strip = []
  · rw [OpenAIEmbeddingProvider.embedTexts, if_pos hblank]
  rw [embedTexts_answering hblank, OpenAIEmbeddingProvider.converted]
  split_ifs with hlength hunconvertible hwrong
  · rfl
  · rfl
  · rfl
  -- Otherwise every check has passed.
  rw [not_ne_iff, List.length_map] at hlength
  refine absurd ?_ h
  refine
    { texts_ne_nil := fun hnil => hblank (.inl hnil)
      visible := fun text htext hstrip => hblank (.inr ⟨text, htext, hstrip⟩)
      length_eq := length_gathered.symm.trans hlength
      embeddings := fun n hn item hitem => ?_ }
  have hvector : item.embedding ∈ (orderedItems provider responses texts).map
      EmbeddingItem.embedding := List.mem_map_of_mem (mem_orderedItems.mpr ⟨n, hn, hitem⟩)
  refine ⟨by_contra fun hne => hwrong ⟨_, hvector, .inl hne⟩, fun value hvalue => ?_⟩
  cases value with
  | finite q => rfl
  | nonFinite => exact absurd ⟨_, hvector, .inr hvalue⟩ hwrong
  | unconvertible => exact absurd ⟨_, hvector, hvalue⟩ hunconvertible

/-- The vectors that are returned are the labelled ones exactly if every response labels its items
with the positions within its batch. -/
theorem labelledVectors_iff (h : ChecksPass provider responses texts) :
    (∀ i vector, ((orderedItems provider responses texts).map fun item =>
        item.embedding.filterMap EmbeddingValue.value?)[i]? = some vector →
        LabelledVector provider responses texts i vector) ↔
      LabelledResponses provider responses texts := by
  have hlength : (orderedItems provider responses texts).length = texts.length :=
    length_gathered.trans h.length_eq
  constructor
  · intro hvectors
    refine labelledUpTo_of_filter_eq provider.batchSize_pos hlength fun i hi => ?_
    have hitem := List.getElem?_eq_getElem (hi.trans_eq hlength.symm)
    obtain ⟨item, hfilter, -⟩ := hvectors i _ (by rw [List.getElem?_map, hitem]; rfl)
    exact ⟨item, hfilter⟩
  · intro hlabelled i vector hvector
    rw [List.getElem?_map, Option.map_eq_some_iff] at hvector
    obtain ⟨item, hitem, rfl⟩ := hvector
    have hi : i < texts.length := by
      rw [← hlength]
      exact (List.getElem?_eq_some_iff.mp hitem).1
    obtain ⟨found, hfilter, hfound⟩ := gathered_getElem? provider.batchSize_pos hlabelled hi
    cases hfound.symm.trans hitem
    obtain ⟨n, hn, hmem⟩ := mem_orderedItems.mp (List.mem_of_getElem? hitem)
    exact ⟨item, hfilter, map_finite_filterMap (h.embeddings n hn item hmem).2⟩

/-- The outcome is aligned exactly if responses that pass the checks are labelled with the
positions within their batches. -/
theorem alignedOutcome_iff :
    AlignedOutcome provider responses texts (provider.embedTexts (.answering responses) texts) ↔
      (ChecksPass provider responses texts → LabelledResponses provider responses texts) := by
  by_cases hpass : ChecksPass provider responses texts
  · have hlength : ((orderedItems provider responses texts).map fun item =>
        item.embedding.filterMap EmbeddingValue.value?).length = texts.length := by
      rw [List.length_map]
      exact length_gathered.trans hpass.length_eq
    rw [embedTexts_of_checksPass hpass, ← labelledVectors_iff hpass]
    exact ⟨fun h _ => h.2, fun h => ⟨hlength, h hpass⟩⟩
  · rw [embedTexts_of_not_checksPass hpass]
    exact ⟨fun _ h => absurd h hpass, fun _ => rfl⟩

end Alignment

end AssessmentPlatform
