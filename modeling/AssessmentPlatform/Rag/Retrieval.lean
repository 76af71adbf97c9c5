import AssessmentPlatform.Core.Exceptions
import AssessmentPlatform.Library.Program
import AssessmentPlatform.Models.Assessment
import AssessmentPlatform.Models.Knowledge
import Mathlib.Data.List.Sort

/-!
# Vector retrieval

The deterministic search query of an assessment, and the service that embeds a query and
ranks the chunks that the store finds similar. The embedding provider and the store are
parameters that return or raise. The optional filters by source and document are left
out, since no modelled caller supplies them.
-/

namespace AssessmentPlatform

open Library

/-! ## The query -/

/-- A field whose value is truthy. -/
def truthyField : Str × Option Str → Option (Str × Str)
  | (label, some (c :: rest)) => some (label, c :: rest)
  | _ => none

/-- The value of a list of items. -/
def joinedItems (items : List Str) : Option Str :=
  if items = [] then none else some (Str.join ("; " : String) items)

/-- The labelled fields of a request that have a value. -/
def AssessmentRequest.queryFields (request : AssessmentRequest) : List (Str × Str) :=
  [((("Company" : String) : Str), some request.companyName),
    (("Organization" : String), request.organizationDescription),
    (("Industry" : String), some request.industry),
    (("Business problem" : String), some request.businessProblem),
    (("Current process" : String), request.currentProcess),
    (("Pain points" : String), joinedItems request.painPoints),
    (("Desired outcome" : String), some request.desiredOutcome),
    (("Constraints" : String), joinedItems request.constraints)].filterMap truthyField

/-- One line of the query. -/
def queryLine (field : Str × Str) : Str := field.1 ++ Str.ofString ": " ++ field.2

/-- `build_retrieval_query`. -/
def buildRetrievalQuery (request : AssessmentRequest) : Str :=
  Str.join [CodePoint.lf] (request.queryFields.map queryLine)

/-! ## The search -/

/-- `value or default` of a limit. -/
def limitOr (value : Option ℕ) (default : ℕ) : ℕ :=
  match value with
  | some (n + 1) => n + 1
  | _ => default

/-- The common error handling of the two retrieval services: the transaction is rolled
back, database errors of the rollback are suppressed, and the error is translated. -/
def guardStore {α : Type} (rollback : Except Failure Unit)
    (unavailable otherwise : ApplicationError) : Except Failure α → Except Failure α
  | .error (.database e) =>
    match rollback with
    | .ok _ | .error (.database _) =>
      .error (.application (if e = .other then otherwise else unavailable))
    | .error e' => .error e'
  | r => r

/-- The guard of the store passes on a value. -/
theorem guardStore_eq_ok {α : Type} {rollback : Except Failure Unit}
    {unavailable otherwise : ApplicationError} {r : Except Failure α} {a : α}
    (h : guardStore rollback unavailable otherwise r = .ok a) : r = .ok a := by
  unfold guardStore at h
  split at h
  · split at h <;> cases h
  · exact h

/-- The configured service. -/
structure RetrievalService where
  embedTexts : List Str → Except Failure (List (List ℚ))
  searchSimilar : List ℚ → ℕ → ℚ → Except Failure (List RetrievedEvidence)
  rollback : Except Failure Unit := .ok ()
  topK : ℕ
  similarityThreshold : ℚ

/-- The chunks that meet the threshold, each chunk once; comparing a missing score
raises. -/
def uniqueEvidence (threshold : ℚ) :
    List RetrievedEvidence → List RetrievedEvidence → Except Failure (List RetrievedEvidence)
  | [], unique => .ok unique
  | item :: rest, unique =>
    match item.similarityScore with
    | none => .error .other
    | some score =>
      if threshold ≤ score ∧ item.chunkId ∉ unique.map RetrievedEvidence.chunkId then
        uniqueEvidence threshold rest (unique ++ [item])
      else uniqueEvidence threshold rest unique

/-- The ranking: by falling score, then by identifier. -/
def RetrievedEvidence.ranksBefore (a b : RetrievedEvidence) : Prop :=
  b.similarityScore.getD 0 < a.similarityScore.getD 0 ∨
    a.similarityScore.getD 0 = b.similarityScore.getD 0 ∧ a.chunkId ≤ b.chunkId

instance : DecidableRel RetrievedEvidence.ranksBefore :=
  fun _ _ => inferInstanceAs (Decidable (_ ∨ _))

/-- The embedding of a single text. -/
def RetrievalService.embedQuery (service : RetrievalService) (query : Str) :
    Except Failure (List ℚ) :=
  match service.embedTexts [query] with
  | .error e => .error e
  | .ok [] => .error .other
  | .ok (embedding :: _) => .ok embedding

/-- `RetrievalService.search`. -/
def RetrievalService.search (service : RetrievalService) (query : Str) (topK : Option ℕ := none) :
    Except Failure (List RetrievedEvidence) := do
  let queryEmbedding ← service.embedQuery query
  let limit := limitOr topK service.topK
  let evidence ← guardStore service.rollback .knowledgeStoreUnavailable .knowledgePersistence
    (service.searchSimilar queryEmbedding limit service.similarityThreshold)
  let unique ← uniqueEvidence service.similarityThreshold evidence []
  pure ((unique.insertionSort RetrievedEvidence.ranksBefore).take limit)

/-! ## What a search returns -/

/-- Evidence without repetitions keeps its scores. -/
theorem uniqueEvidence_scored {threshold : ℚ} {evidence unique found : List RetrievedEvidence}
    (hunique : ∀ item ∈ unique, item.similarityScore.isSome = true)
    (h : uniqueEvidence threshold evidence unique = .ok found) :
    ∀ item ∈ found, item.similarityScore.isSome = true := by
  induction evidence generalizing unique with
  | nil =>
    cases h
    exact hunique
  | cons item rest ih =>
    unfold uniqueEvidence at h
    split at h
    · cases h
    · rename_i score hscore
      split at h
      · refine ih ?_ h
        intro i hi
        rcases List.mem_append.mp hi with hi | hi
        · exact hunique i hi
        · rw [List.mem_singleton.mp hi, hscore]
          rfl
      · exact ih hunique h

/-- Every chunk that a search returns has a score, and there are no more chunks than the
limit allows. -/
theorem RetrievalService.search_eq_ok {service : RetrievalService} {query : Str} {topK : Option ℕ}
    {found : List RetrievedEvidence} (h : service.search query topK = .ok found) :
    (∀ item ∈ found, item.similarityScore.isSome = true) ∧
      found.length ≤ limitOr topK service.topK := by
  unfold RetrievalService.search at h
  obtain ⟨embedding, -, h⟩ := except_bind_eq_ok.mp h
  obtain ⟨evidence, -, h⟩ := except_bind_eq_ok.mp h
  obtain ⟨unique, hunique, h⟩ := except_bind_eq_ok.mp h
  cases h
  refine ⟨?_, by simp⟩
  intro item hitem
  refine uniqueEvidence_scored (by simp) hunique item ?_
  exact (List.perm_insertionSort _ _).mem_iff.mp (List.mem_of_mem_take hitem)

/-! ## The size of the query -/

/-- What an optional line adds to the query: the line feed, the label with its separator,
and the value. -/
def optionalLineSize (label : ℕ) : Option Str → ℕ
  | none => 0
  | some value => 1 + label + value.length

/-- What a line for a list of items adds: the items are joined by two characters. -/
def itemsLineSize (label : ℕ) : List Str → ℕ
  | [] => 0
  | item :: rest => 1 + label + item.length + (rest.map fun s => 2 + s.length).sum

/-- The size of the query in terms of the sizes of the fields. -/
def AssessmentRequest.querySize (request : AssessmentRequest) : ℕ :=
  9 + request.companyName.length +
    optionalLineSize 14 request.organizationDescription +
    (1 + 10 + request.industry.length) +
    (1 + 18 + request.businessProblem.length) +
    optionalLineSize 17 request.currentProcess +
    itemsLineSize 13 request.painPoints +
    (1 + 17 + request.desiredOutcome.length) +
    itemsLineSize 13 request.constraints

/-- The length of joined parts. -/
theorem Str.join_length (sep part : Str) (parts : List Str) :
    (Str.join sep (part :: parts)).length =
      part.length + (parts.map fun s => sep.length + s.length).sum := by
  induction parts generalizing part with
  | nil => simp [Str.join]
  | cons next parts ih =>
    have hnext := ih next
    simp only [Str.join, List.intercalate_cons_cons, List.length_append, List.map_cons,
      List.sum_cons] at hnext ⊢
    rw [hnext]
    omega

/-- Two texts can be encoded together if each can. -/
theorem Str.encodable_append (s t : Str) : Str.encodable (s ++ t) = (s.encodable && t.encodable) :=
  List.all_append

/-- Joined parts can be encoded if each can. -/
theorem Str.encodable_join {sep : Str} (hsep : sep.encodable = true) {parts : List Str}
    (h : ∀ s ∈ parts, Str.encodable s = true) : (Str.join sep parts).encodable = true := by
  induction parts with
  | nil => rfl
  | cons part parts ih =>
    cases parts with
    | nil => simpa [Str.join] using h part (by simp)
    | cons next parts =>
      have hrest := ih fun s hs => h s (by simp [hs])
      simp only [Str.join, List.intercalate_cons_cons, Str.encodable_append] at hrest ⊢
      simp [h part (by simp), hsep, hrest]

/-- A valid field is shown. -/
theorem truthyField_some {bound : ℕ} {label s : Str} (h : Str.ValidWithin bound s) :
    truthyField (label, some s) = some (label, s) := by
  cases s with
  | nil => exact absurd h.2.1 (by simp)
  | cons c rest => rfl

/-- An optional valid field is shown where it is there. -/
theorem truthyField_optional {bound : ℕ} {label : Str} {value : Option Str}
    (h : ∀ s ∈ value, Str.ValidWithin bound s) :
    truthyField (label, value) = value.map fun s => (label, s) := by
  cases value with
  | none => rfl
  | some s => exact truthyField_some (h s rfl)

/-- Valid items are shown where there are some. -/
theorem truthyField_items {bound : ℕ} {label : Str} {items : List Str}
    (h : ∀ s ∈ items, Str.ValidWithin bound s) :
    truthyField (label, joinedItems items) = (joinedItems items).map fun s => (label, s) := by
  cases items with
  | nil => rfl
  | cons item rest =>
    have hlength := Str.join_length ("; " : String) item rest
    have hitem := (h item (by simp)).2.1
    unfold joinedItems
    rw [if_neg (by simp)]
    cases hjoin : Str.join ("; " : String) (item :: rest) with
    | nil =>
      rw [hjoin, List.length_nil] at hlength
      omega
    | cons c rest => rfl

/-- The items need the line that their join needs. -/
theorem joinedItems_size (label : ℕ) (items : List Str) :
    optionalLineSize label (joinedItems items) = itemsLineSize label items := by
  cases items with
  | nil => rfl
  | cons item rest =>
    have hseparator : (Str.ofString "; ").length = 2 := by decide +kernel
    simp only [joinedItems, optionalLineSize, itemsLineSize, Str.join_length, hseparator,
      reduceCtorEq, if_false]
    omega

/-- The fields of a validated request. -/
theorem AssessmentRequest.queryFields_eq (request : AssessmentRequest) :
    request.queryFields =
      (Str.ofString "Company", request.companyName) ::
        ((request.organizationDescription.map fun s => (Str.ofString "Organization", s)).toList ++
          (Str.ofString "Industry", request.industry) ::
          (Str.ofString "Business problem", request.businessProblem) ::
          ((request.currentProcess.map fun s => (Str.ofString "Current process", s)).toList ++
            (((joinedItems request.painPoints).map fun s =>
              (Str.ofString "Pain points", s)).toList ++
              (Str.ofString "Desired outcome", request.desiredOutcome) ::
              ((joinedItems request.constraints).map
                fun s => (Str.ofString "Constraints", s)).toList))) := by
  have hoptional : ∀ (label : Str) (value : Option Str) (rest : List (Str × Option Str)),
      truthyField (label, value) = value.map (fun s => (label, s)) →
      ((label, value) :: rest).filterMap truthyField =
        (value.map fun s => (label, s)).toList ++ rest.filterMap truthyField := by
    intro label value rest h
    cases value with
    | none => simp [h]
    | some s => simp [h]
  unfold AssessmentRequest.queryFields
  rw [hoptional _ _ _ (truthyField_some request.companyName_accepted),
    hoptional _ _ _ (truthyField_optional request.organizationDescription_accepted),
    hoptional _ _ _ (truthyField_some request.industry_accepted),
    hoptional _ _ _ (truthyField_some request.businessProblem_accepted),
    hoptional _ _ _ (truthyField_optional request.currentProcess_accepted),
    hoptional _ _ _ (truthyField_items request.painPoints_accepted.2),
    hoptional _ _ _ (truthyField_some request.desiredOutcome_accepted),
    hoptional _ _ _ (truthyField_items request.constraints_accepted.2)]
  simp

/-- The length of a line of the query. -/
theorem queryLine_length (label value : Str) :
    (queryLine (label, value)).length = label.length + 2 + value.length := by
  have hseparator : (Str.ofString ": ").length = 2 := by decide +kernel
  simp [queryLine, hseparator]
  omega

/-- The length of an optional line of the query. -/
theorem optionalLine_size (label : Str) (value : Option Str) :
    ((value.map fun s => (label, s)).toList.map fun field => 1 + (queryLine field).length).sum =
      optionalLineSize (label.length + 2) value := by
  cases value with
  | none => rfl
  | some s => simp [optionalLineSize, queryLine_length, Nat.add_assoc]

/-- The size of the query is determined by the sizes of the fields. -/
theorem buildRetrievalQuery_length (request : AssessmentRequest) :
    (buildRetrievalQuery request).length = request.querySize := by
  have hlabels : (Str.ofString "Company").length + 2 = 9 ∧
      (Str.ofString "Organization").length + 2 = 14 ∧ (Str.ofString "Industry").length + 2 = 10 ∧
      (Str.ofString "Business problem").length + 2 = 18 ∧
      (Str.ofString "Current process").length + 2 = 17 ∧
      (Str.ofString "Pain points").length + 2 = 13 ∧
      (Str.ofString "Desired outcome").length + 2 = 17 ∧
      (Str.ofString "Constraints").length + 2 = 13 := by
    decide +kernel
  obtain ⟨h1, h2, h3, h4, h5, h6, h7, h8⟩ := hlabels
  unfold buildRetrievalQuery
  rw [request.queryFields_eq, List.map_cons, Str.join_length, List.map_map]
  change _ + (List.map (fun field => 1 + (queryLine field).length) _).sum = _
  simp only [List.map_append, List.map_cons, List.sum_append, List.sum_cons, optionalLine_size,
    queryLine_length, joinedItems_size, h1, h2, h3, h4, h5, h6, h7, h8]
  unfold AssessmentRequest.querySize
  omega

/-- A line of the query can be encoded if its parts can. -/
theorem queryLine_encodable {label value : Str} (hlabel : label.encodable = true)
    (hvalue : value.encodable = true) : (queryLine (label, value)).encodable = true := by
  have hseparator : (Str.ofString ": ").encodable = true := by decide +kernel
  simp [queryLine, Str.encodable_append, hlabel, hvalue, hseparator]

/-- An optional line of the query can be encoded if its parts can. -/
theorem optionalLine_encodable {label : Str} {value : Option Str} (hlabel : label.encodable = true)
    (hvalue : ∀ s ∈ value, Str.encodable s = true) :
    ∀ field ∈ (value.map fun s => (label, s)).toList, (queryLine field).encodable = true := by
  cases value with
  | none => simp
  | some s =>
    simp only [Option.map_some, Option.toList_some, List.mem_singleton, forall_eq]
    exact queryLine_encodable hlabel (hvalue s rfl)

/-- Joined valid items can be encoded. -/
theorem joinedItems_encodable {items : List Str} (h : ∀ s ∈ items, Str.ValidWithin 500 s) :
    ∀ s ∈ joinedItems items, Str.encodable s = true := by
  intro s hs
  unfold joinedItems at hs
  split at hs
  · cases hs
  · cases hs
    exact Str.encodable_join (by decide +kernel) fun s hs => (h s hs).1.1

/-- The query of a validated request can be encoded. -/
theorem buildRetrievalQuery_encodable (request : AssessmentRequest) :
    (buildRetrievalQuery request).encodable = true := by
  refine Str.encodable_join (by decide) ?_
  rw [List.forall_mem_map, request.queryFields_eq]
  simp only [List.forall_mem_cons, List.forall_mem_append]
  exact ⟨queryLine_encodable (by decide +kernel) request.companyName_accepted.1.1,
    optionalLine_encodable (by decide +kernel)
      fun s hs => (request.organizationDescription_accepted s hs).1.1,
    queryLine_encodable (by decide +kernel) request.industry_accepted.1.1,
    queryLine_encodable (by decide +kernel) request.businessProblem_accepted.1.1,
    optionalLine_encodable (by decide +kernel)
      fun s hs => (request.currentProcess_accepted s hs).1.1,
    optionalLine_encodable (by decide +kernel)
      (joinedItems_encodable request.painPoints_accepted.2),
    queryLine_encodable (by decide +kernel) request.desiredOutcome_accepted.1.1,
    optionalLine_encodable (by decide +kernel)
      (joinedItems_encodable request.constraints_accepted.2)⟩
end AssessmentPlatform
