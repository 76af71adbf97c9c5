import AssessmentPlatform.Evaluation.Models
import AssessmentPlatform.Library.Keyed
import AssessmentPlatform.Library.Program
import AssessmentPlatform.Models.Knowledge
import Mathlib.Data.Finset.Card

/-!
# Retrieval metrics

The rank metrics of one evaluation case. The results are cut, repeated chunks are dropped, and the
rest is compared with the expected chunks, or with the expected documents if no chunks are expected.
Two chunks of one document are two results; a case that expects this document counts it twice.
-/

namespace AssessmentPlatform

open Library

/-- Known relevant evidence for one query. -/
structure EvaluationExpectedEvidence where
  documentIds : List UUID := []
  chunkIds : List UUID := []

/-- Ranked-retrieval metrics for one case. -/
structure RetrievalMetrics where
  hitRateAtK : Option Rate := none
  precisionAtK : Option Rate := none
  recallAtK : Option Rate := none
  mrr : Option Rate := none
  falsePositiveRate : Option Rate := none
  deriving DecidableEq

/-- The validating constructor. -/
def RetrievalMetrics.create (hitRateAtK precisionAtK recallAtK mrr falsePositiveRate : Option ℚ) :
    Except Failure RetrievalMetrics := do
  let hitRateAtK ← Rate.createOptional hitRateAtK
  let precisionAtK ← Rate.createOptional precisionAtK
  let recallAtK ← Rate.createOptional recallAtK
  let mrr ← Rate.createOptional mrr
  let falsePositiveRate ← Rate.createOptional falsePositiveRate
  pure { hitRateAtK, precisionAtK, recallAtK, mrr, falsePositiveRate }

/-- `_deduplicate_evidence`. -/
def deduplicateEvidence (evidence : List RetrievedEvidence) : List RetrievedEvidence :=
  distinctBy RetrievedEvidence.chunkId evidence

namespace EvaluationExpectedEvidence

variable (expected : EvaluationExpectedEvidence)

/-- The expected identifiers: of chunks, or of documents when no chunks are expected. -/
def ids : List UUID := if expected.chunkIds ≠ [] then expected.chunkIds else expected.documentIds

/-- The identifier of a result that is compared with the expected ones. -/
def resultId (item : RetrievedEvidence) : UUID :=
  if expected.chunkIds ≠ [] then item.chunkId else item.documentId

/-- Whether a result is an expected one. -/
def isRelevant (item : RetrievedEvidence) : Bool := expected.resultId item ∈ expected.ids

end EvaluationExpectedEvidence

/-- `calculate_retrieval_metrics`. -/
def calculateRetrievalMetrics (evidence : List RetrievedEvidence)
    (expected : EvaluationExpectedEvidence) (k : ℕ) (negative : Bool) :
    Except Failure RetrievalMetrics :=
  if k < 1 then .error .value
  else
    let ranked := deduplicateEvidence (evidence.take k)
    if negative = true then
      RetrievalMetrics.create none none none none (some (flagValue (ranked ≠ [])))
    else if expected.ids = [] then RetrievalMetrics.create none none none none none
    else do
      let relevant := ranked.countP expected.isRelevant
      let precision ← divide relevant k
      let recallValue ← divide relevant expected.ids.toFinset.card
      let mrr ← match ranked.findIdx? expected.isRelevant with
        | none => pure 0
        | some index => divide 1 (index + 1)
      RetrievalMetrics.create (some (flagValue (relevant ≠ 0))) (some precision) (some recallValue)
        (some mrr) none

/-! ## What the metrics are meant to be -/

/-- How many expected identifiers are among some results. -/
def EvaluationExpectedEvidence.found (expected : EvaluationExpectedEvidence)
    (items : List RetrievedEvidence) : ℕ :=
  (expected.ids.filter fun id => id ∈ items.map expected.resultId).length

/-- The reciprocal rank of the first relevant result, or zero. -/
def ReciprocalRank (expected : EvaluationExpectedEvidence) (ranked : List RetrievedEvidence)
    (x : ℚ) : Prop :=
  (∀ item ∈ ranked, expected.isRelevant item = false) ∧ x = 0 ∨
    ∃ before item after, ranked = before ++ item :: after ∧ expected.isRelevant item = true ∧
      (∀ other ∈ before, expected.isRelevant other = false) ∧ x = 1 / (before.length + 1)

/-- The outcome is a record of metrics with the values that their definitions give to a positive
case with expected evidence. -/
def MeetsDefinitions (evidence : List RetrievedEvidence) (expected : EvaluationExpectedEvidence)
    (k : ℕ) (negative : Bool) (outcome : Except Failure RetrievalMetrics) : Prop :=
  ∃ metrics, outcome = .ok metrics ∧ (negative = false → expected.ids ≠ [] →
    metrics.recallAtK.map Subtype.val =
        some ((expected.found (deduplicateEvidence (evidence.take k)) : ℚ) / expected.ids.length) ∧
      metrics.precisionAtK.map Subtype.val =
        some ((expected.found (deduplicateEvidence (evidence.take k)) : ℚ) / k) ∧
      metrics.hitRateAtK.map Subtype.val =
        some (flagValue (expected.found (deduplicateEvidence (evidence.take k)) ≠ 0)) ∧
      ∃ x, metrics.mrr.map Subtype.val = some x ∧
        ReciprocalRank expected (deduplicateEvidence (evidence.take k)) x)

/-- The item is the first result of its chunk. -/
def FirstOfChunk (results : List RetrievedEvidence) (item : RetrievedEvidence) : Prop :=
  getBy RetrievedEvidence.chunkId item.chunkId results = some item

/-- No expected document has two different chunks among the results. -/
def OneChunkEach (expected : EvaluationExpectedEvidence) (results : List RetrievedEvidence) :
    Prop :=
  ∀ a b, FirstOfChunk results a → FirstOfChunk results b → a.documentId = b.documentId →
    a.documentId ∈ expected.documentIds → a.chunkId = b.chunkId

section Counts

variable {expected : EvaluationExpectedEvidence} {results ranked : List RetrievedEvidence}

/-- The relevant results, by their identifiers. -/
def EvaluationExpectedEvidence.relevantIds (expected : EvaluationExpectedEvidence)
    (ranked : List RetrievedEvidence) : List UUID :=
  (ranked.filter expected.isRelevant).map expected.resultId

/-- The relevant items are counted by their identifiers. -/
theorem countP_eq_length_relevantIds :
    ranked.countP expected.isRelevant = (expected.relevantIds ranked).length := by
  rw [EvaluationExpectedEvidence.relevantIds, List.length_map, List.countP_eq_length_filter]

/-- Unique expected identifiers are found as often as they differ. -/
theorem found_eq_card (hids : expected.ids.Nodup) :
    expected.found ranked = (expected.relevantIds ranked).toFinset.card := by
  unfold EvaluationExpectedEvidence.found
  rw [← List.toFinset_card_of_nodup (hids.filter _)]
  congr 1
  ext id
  simp only [EvaluationExpectedEvidence.relevantIds, EvaluationExpectedEvidence.isRelevant,
    List.mem_toFinset, List.mem_filter, List.mem_map, decide_eq_true_eq]
  constructor
  · rintro ⟨hid, item, hitem, rfl⟩
    exact ⟨item, ⟨hitem, hid⟩, rfl⟩
  · rintro ⟨item, ⟨hitem, hid⟩, rfl⟩
    exact ⟨hid, item, hitem, rfl⟩

/-- There are at most as many found items as expected ones. -/
theorem found_le_ids : expected.found ranked ≤ expected.ids.length :=
  List.length_filter_le _ _

/-- Every relevant result counts for another identifier if and only if none is repeated. -/
theorem found_eq_count_iff (hids : expected.ids.Nodup) :
    expected.found ranked = ranked.countP expected.isRelevant ↔
      (expected.relevantIds ranked).Nodup := by
  rw [found_eq_card hids, countP_eq_length_relevantIds]
  exact Multiset.toFinset_card_eq_card_iff_nodup

/-- The relevant results repeat an identifier only if they are chunks of one expected document. -/
theorem nodup_relevantIds_iff :
    (expected.relevantIds (deduplicateEvidence results)).Nodup ↔
      expected.chunkIds ≠ [] ∨ OneChunkEach expected results := by
  have hkeys : ((deduplicateEvidence results).map RetrievedEvidence.chunkId).Nodup :=
    nodup_map_distinctBy results
  unfold EvaluationExpectedEvidence.relevantIds
  by_cases hchunks : expected.chunkIds ≠ []
  · refine iff_of_true ?_ (.inl hchunks)
    have hid : expected.resultId = RetrievedEvidence.chunkId := by
      funext item
      exact if_pos hchunks
    rw [hid]
    exact hkeys.sublist (List.filter_sublist.map _)
  · have hid : expected.resultId = RetrievedEvidence.documentId := by
      funext item
      exact if_neg hchunks
    have hids : expected.ids = expected.documentIds := if_neg hchunks
    rw [or_iff_right hchunks, hid]
    constructor
    · intro hnodup a b ha hb hdocument hmem
      have hrelevant : ∀ item, FirstOfChunk results item →
          item.documentId ∈ expected.documentIds →
          item ∈ (deduplicateEvidence results).filter expected.isRelevant := by
        intro item hitem hexpected
        refine List.mem_filter.mpr ⟨mem_distinctBy.mpr hitem, ?_⟩
        rw [EvaluationExpectedEvidence.isRelevant, hid, hids]
        exact decide_eq_true hexpected
      rw [List.inj_on_of_nodup_map hnodup (hrelevant a ha hmem)
        (hrelevant b hb (hdocument ▸ hmem)) hdocument]
    · intro hone
      refine List.Nodup.map_on ?_ ((hkeys.of_map _).filter _)
      intro a ha b hb hdocument
      obtain ⟨ha, hrelevant⟩ := List.mem_filter.mp ha
      rw [EvaluationExpectedEvidence.isRelevant, hid, hids, decide_eq_true_eq] at hrelevant
      refine List.inj_on_of_nodup_map hkeys ha (List.mem_filter.mp hb).1 ?_
      exact hone a b (mem_distinctBy.mp ha) (mem_distinctBy.mp (List.mem_filter.mp hb).1)
        hdocument hrelevant

/-- Dropping repeated chunks loses no identifier while every chunk belongs to one document. -/
theorem found_deduplicate
    (hdocument : ∀ a ∈ results, ∀ b ∈ results, a.chunkId = b.chunkId →
      a.documentId = b.documentId) :
    expected.found (deduplicateEvidence results) = expected.found results := by
  unfold EvaluationExpectedEvidence.found
  congr 1
  refine List.filter_congr fun id _ => decide_eq_decide.mpr ?_
  constructor
  · intro h
    obtain ⟨item, hitem, rfl⟩ := List.mem_map.mp h
    exact List.mem_map_of_mem (getBy_mem (mem_distinctBy.mp hitem)).1
  · intro h
    obtain ⟨item, hitem, rfl⟩ := List.mem_map.mp h
    obtain ⟨first, hfirst⟩ := getBy_isSome (List.mem_map_of_mem (f := RetrievedEvidence.chunkId)
      hitem)
    obtain ⟨hmem, hchunk⟩ := getBy_mem hfirst
    have hsame : expected.resultId first = expected.resultId item := by
      unfold EvaluationExpectedEvidence.resultId
      split
      · exact hchunk
      · exact hdocument first hmem item hitem hchunk
    rw [← hsame]
    exact List.mem_map_of_mem (mem_distinctBy.mpr (hchunk ▸ hfirst))

end Counts

section Settlement

variable {evidence : List RetrievedEvidence} {expected : EvaluationExpectedEvidence} {k : ℕ}

/-- A negative case is judged by whether anything was returned. -/
theorem calculateRetrievalMetrics_negative (evidence : List RetrievedEvidence)
    (expected : EvaluationExpectedEvidence) (hk : 1 ≤ k) :
    ∃ metrics, calculateRetrievalMetrics evidence expected k true = .ok metrics := by
  have hflag := flagValue_mem (deduplicateEvidence (evidence.take k) ≠ [])
  refine ⟨{ falsePositiveRate := some ⟨_, hflag⟩ }, ?_⟩
  simp only [calculateRetrievalMetrics, if_neg (Nat.not_lt.mpr hk), if_true,
    RetrievalMetrics.create, Rate.createOptional_ok hflag]
  rfl

/-- A case without expected evidence has no metrics. -/
theorem calculateRetrievalMetrics_undefined (hk : 1 ≤ k) (hids : expected.ids = []) :
    calculateRetrievalMetrics evidence expected k false = .ok {} := by
  simp only [calculateRetrievalMetrics, if_neg (Nat.not_lt.mpr hk), if_pos hids]
  rfl

/-- A positive case computes its four values and then validates them. -/
theorem calculateRetrievalMetrics_positive (evidence : List RetrievedEvidence) (hk : 1 ≤ k)
    (hids : expected.ids ≠ []) :
    ∃ x, ReciprocalRank expected (deduplicateEvidence (evidence.take k)) x ∧ 0 ≤ x ∧ x ≤ 1 ∧
      calculateRetrievalMetrics evidence expected k false =
        RetrievalMetrics.create
          (some (flagValue
            ((deduplicateEvidence (evidence.take k)).countP expected.isRelevant ≠ 0)))
          (some (((deduplicateEvidence (evidence.take k)).countP expected.isRelevant : ℚ) / k))
          (some (((deduplicateEvidence (evidence.take k)).countP expected.isRelevant : ℚ) /
            expected.ids.toFinset.card))
          (some x) none := by
  have hcard : 0 < expected.ids.toFinset.card := by
    rw [Finset.card_pos, List.toFinset_nonempty_iff]
    exact hids
  simp only [calculateRetrievalMetrics, if_neg (Nat.not_lt.mpr hk), if_neg hids,
    divide_ok _ hk, divide_ok _ hcard, Bool.false_eq_true, if_false]
  cases hfind : (deduplicateEvidence (evidence.take k)).findIdx? expected.isRelevant with
  | none =>
    refine ⟨0, .inl ⟨List.findIdx?_eq_none_iff.mp hfind, rfl⟩, le_rfl, zero_le_one, rfl⟩
  | some index =>
    obtain ⟨hlt, hitem, hbefore⟩ := List.findIdx?_eq_some_iff_getElem.mp hfind
    have hmem : 0 ≤ ((1 : ℕ) : ℚ) / ((index + 1 : ℕ) : ℚ) ∧
        ((1 : ℕ) : ℚ) / ((index + 1 : ℕ) : ℚ) ≤ 1 := fraction_mem (by omega)
    have hdivide : divide 1 (index + 1) = .ok _ := divide_ok 1 (Nat.succ_pos index)
    refine ⟨_, .inr ?_, hmem.1, hmem.2, ?_⟩
    · refine ⟨_, _, _, (List.take_append_drop index _).symm.trans
        (congrArg _ (List.drop_eq_getElem_cons hlt)), hitem, ?_, ?_⟩
      · intro other hother
        obtain ⟨i, hi, rfl⟩ := List.mem_take_iff_getElem.mp hother
        exact Bool.eq_false_iff.mpr (hbefore i (by omega))
      · rw [List.length_take, min_eq_left hlt.le]
        push_cast
        rfl
    · simp only [hdivide]
      rfl

/-- Validated values are kept. -/
theorem RetrievalMetrics.create_recall {a b c d e : Option ℚ} {metrics : RetrievalMetrics}
    (h : RetrievalMetrics.create a b c d e = .ok metrics) :
    metrics.recallAtK.map Subtype.val = c := by
  obtain ⟨hit, _, h⟩ := except_bind_eq_ok.mp h
  obtain ⟨precision, _, h⟩ := except_bind_eq_ok.mp h
  obtain ⟨recallRate, hrecall, h⟩ := except_bind_eq_ok.mp h
  obtain ⟨mrr, _, h⟩ := except_bind_eq_ok.mp h
  obtain ⟨falsePositive, _, h⟩ := except_bind_eq_ok.mp h
  cases h
  exact Rate.createOptional_eq_ok hrecall

/-- If no relevant result repeats an identifier, the metrics are what they are meant to be. -/
theorem meetsDefinitions_of_nodup (hids : expected.ids.Nodup) (hk : 1 ≤ k)
    (hnonempty : expected.ids ≠ [])
    (hnodup : (expected.relevantIds (deduplicateEvidence (evidence.take k))).Nodup) :
    MeetsDefinitions evidence expected k false
      (calculateRetrievalMetrics evidence expected k false) := by
  obtain ⟨x, hrank, hx, hx', hrun⟩ :=
    calculateRetrievalMetrics_positive evidence hk hnonempty
  have hcount := ((found_eq_count_iff hids).mpr hnodup).symm
  have hfound : expected.found (deduplicateEvidence (evidence.take k)) ≤ expected.ids.length :=
    found_le_ids
  have hlength : expected.found (deduplicateEvidence (evidence.take k)) ≤ k := by
    rw [← hcount]
    calc _ ≤ (deduplicateEvidence (evidence.take k)).length := List.countP_le_length
      _ ≤ (evidence.take k).length := length_distinctBy_le _
      _ ≤ k := List.length_take_le k evidence
  rw [hcount, List.toFinset_card_of_nodup hids] at hrun
  rw [hrun]
  have hflag := flagValue_mem (expected.found (deduplicateEvidence (evidence.take k)) ≠ 0)
  refine ⟨{ hitRateAtK := some ⟨_, hflag⟩
            precisionAtK := some ⟨_, fraction_mem hlength⟩
            recallAtK := some ⟨_, fraction_mem hfound⟩
            mrr := some ⟨x, hx, hx'⟩ }, ?_, fun _ _ => ⟨rfl, rfl, rfl, x, rfl, hrank⟩⟩
  simp only [RetrievalMetrics.create, Rate.createOptional_ok hflag,
    Rate.createOptional_ok (fraction_mem hlength), Rate.createOptional_ok (fraction_mem hfound),
    Rate.createOptional_ok ⟨hx, hx'⟩]
  rfl

/-- The metrics of a positive case are what they are meant to be only if no relevant result
repeats an identifier. -/
theorem nodup_of_meetsDefinitions (hids : expected.ids.Nodup) (hk : 1 ≤ k)
    (hnonempty : expected.ids ≠ [])
    (h : MeetsDefinitions evidence expected k false
      (calculateRetrievalMetrics evidence expected k false)) :
    (expected.relevantIds (deduplicateEvidence (evidence.take k))).Nodup := by
  obtain ⟨metrics, hok, hvalues⟩ := h
  obtain ⟨hrecall, -⟩ := hvalues rfl hnonempty
  obtain ⟨x, -, -, -, hrun⟩ := calculateRetrievalMetrics_positive evidence hk hnonempty
  have hlength : (expected.ids.length : ℚ) ≠ 0 := by
    rw [Nat.cast_ne_zero]
    exact fun hzero => hnonempty (List.length_eq_zero_iff.mp hzero)
  have hequal := hrecall.symm.trans (RetrievalMetrics.create_recall (hrun.symm.trans hok))
  rw [List.toFinset_card_of_nodup hids, Option.some_inj, div_left_inj' hlength,
    Nat.cast_inj] at hequal
  exact (found_eq_count_iff hids).mp hequal

/-- The metrics exist and are what they are meant to be exactly if the case is negative, expects
chunks, or expects no document that has two chunks among the results. -/
theorem retrieval_metrics_meet_definitions_iff (negative : Bool)
    (hdocuments : expected.documentIds.Nodup) (hchunks : expected.chunkIds.Nodup) (hk : 1 ≤ k) :
    (MeetsDefinitions evidence expected k negative
        (calculateRetrievalMetrics evidence expected k negative) ↔
      negative = true ∨ expected.chunkIds ≠ [] ∨ OneChunkEach expected (evidence.take k)) ∧
    ((∀ a ∈ evidence, ∀ b ∈ evidence, a.chunkId = b.chunkId → a.documentId = b.documentId) →
      expected.found (deduplicateEvidence (evidence.take k)) =
        expected.found (evidence.take k)) := by
  have hids : expected.ids.Nodup := by
    unfold EvaluationExpectedEvidence.ids
    split
    · exact hchunks
    · exact hdocuments
  refine ⟨?_, fun hdocument => found_deduplicate fun a ha b hb =>
    hdocument a (List.mem_of_mem_take ha) b (List.mem_of_mem_take hb)⟩
  cases negative with
  | true =>
    obtain ⟨metrics, hok⟩ := calculateRetrievalMetrics_negative evidence expected hk
    exact iff_of_true ⟨metrics, hok, fun h => nomatch h⟩ (.inl rfl)
  | false =>
    rw [or_iff_right Bool.false_ne_true, ← nodup_relevantIds_iff]
    by_cases hnonempty : expected.ids = []
    · refine iff_of_true ⟨{}, calculateRetrievalMetrics_undefined hk hnonempty,
        fun _ hne => absurd hnonempty hne⟩ ?_
      have hirrelevant :
          (deduplicateEvidence (evidence.take k)).filter expected.isRelevant = [] := by
        refine List.filter_eq_nil_iff.mpr fun item _ => ?_
        simp [EvaluationExpectedEvidence.isRelevant, hnonempty]
      rw [EvaluationExpectedEvidence.relevantIds, hirrelevant]
      exact List.nodup_nil
    · exact ⟨nodup_of_meetsDefinitions hids hk hnonempty,
        meetsDefinitions_of_nodup hids hk hnonempty⟩

/-- Two chunks of one document that ought to be found. -/
def splitDocument : List RetrievedEvidence :=
  [{ chunkId := 1
     documentId := 7
     documentTitle := "Policy"
     content := "first"
     similarityScore := some 1
     sourceType := .text },
   { chunkId := 2
     documentId := 7
     documentTitle := "Policy"
     content := "second"
     similarityScore := some 1
     sourceType := .text }]

/-- The expected document is counted once for each of its chunks, so that the recall is two and
the validation of the metrics fails. -/
theorem split_document_counted_twice :
    calculateRetrievalMetrics splitDocument { documentIds := [7] } 2 false = .error .value ∧
      ¬ MeetsDefinitions splitDocument { documentIds := [7] } 2 false
        (calculateRetrievalMetrics splitDocument { documentIds := [7] } 2 false) := by
  have herror : calculateRetrievalMetrics splitDocument { documentIds := [7] } 2 false =
      .error .value := by decide +kernel
  refine ⟨herror, fun ⟨metrics, hok, _⟩ => ?_⟩
  rw [herror] at hok
  cases hok

/-- With the first of the two chunks alone the metrics are right. -/
theorem first_chunk_meets_definitions :
    MeetsDefinitions splitDocument { documentIds := [7] } 1 false
      (calculateRetrievalMetrics splitDocument { documentIds := [7] } 1 false) := by
  refine (retrieval_metrics_meet_definitions_iff false (by decide) (by decide)
    le_rfl).1.mpr (.inr (.inr ?_))
  intro a b ha hb _ _
  have hfirst : ∀ item, FirstOfChunk (splitDocument.take 1) item → item.chunkId = 1 := by
    intro item hitem
    have hmem := (getBy_mem hitem).1
    simp only [splitDocument, List.take_succ_cons, List.take_zero, List.mem_singleton] at hmem
    rw [hmem]
  rw [hfirst a ha, hfirst b hb]

end Settlement

end AssessmentPlatform
