import AssessmentPlatform.Assessments.Service
import AssessmentPlatform.Library.Keyed

/-!
# Grounding and its check

The two passes of `generate_assessment` over the references of a result. The check asks whether
every reference is in the evidence; the grounding keeps the first reference to every piece of
evidence. The check fails exactly on the results from which the grounding removes a citation.
-/

namespace AssessmentPlatform

open Library

/-- The kept references are, in order, the first ones to what is in the evidence. -/
structure FirstReferences (allowed : List (UUID × UUID)) (references kept : List SourceReference) :
    Prop where
  order : kept.Sublist references
  keys : kept.map SourceReference.key =
    ((references.map SourceReference.key).filter (· ∈ allowed)).eraseDups
  first : ∀ reference ∈ kept,
    getBy SourceReference.key reference.key references = some reference

section References

variable {allowed seen : List (UUID × UUID)} {references : List SourceReference}

/-- The grounded references are some of the references, in their order. -/
theorem groundedReferences_sublist :
    (groundedReferences allowed seen references).Sublist references := by
  induction references generalizing seen with
  | nil => exact List.Sublist.refl _
  | cons reference rest ih =>
    unfold groundedReferences
    split
    · exact ih.cons_cons reference
    · exact ih.cons reference

/-- The keys of what is kept, in order and without repetition. -/
theorem groundedReferences_keys :
    (groundedReferences allowed seen references).map SourceReference.key =
      ((references.map SourceReference.key).filter fun key =>
        key ∈ allowed ∧ key ∉ seen).eraseDups := by
  induction references generalizing seen with
  | nil => rfl
  | cons reference rest ih =>
    unfold groundedReferences
    rw [List.map_cons]
    split
    · rename_i hkept
      rw [List.map_cons, ih, List.filter_cons_of_pos (by simpa using hkept), List.eraseDups_cons,
        List.filter_filter]
      congr 2
      refine List.filter_congr fun key _ => ?_
      by_cases hkey : key = reference.key
      · simp [hkey]
      · simp [hkey]
    · rename_i hdropped
      rw [ih, List.filter_cons_of_neg (by simpa using hdropped)]

/-- What is kept is new and in the evidence, and comes first among the references to it. -/
theorem groundedReferences_first : ∀ reference ∈ groundedReferences allowed seen references,
    reference.key ∈ allowed ∧ reference.key ∉ seen ∧
      getBy SourceReference.key reference.key references = some reference := by
  induction references generalizing seen with
  | nil => exact nofun
  | cons next rest ih =>
    intro reference hreference
    unfold groundedReferences at hreference
    have hskip : next.key ≠ reference.key →
        getBy SourceReference.key reference.key (next :: rest) =
          getBy SourceReference.key reference.key rest := fun hne => by
      simp [getBy, hne]
    split at hreference
    · rename_i hkept
      rcases List.mem_cons.mp hreference with rfl | hmem
      · exact ⟨hkept.1, hkept.2, by simp [getBy]⟩
      · obtain ⟨hallowed, hnew, hfirst⟩ := ih reference hmem
        rw [List.mem_cons, not_or] at hnew
        exact ⟨hallowed, hnew.2, (hskip (Ne.symm hnew.1)).trans hfirst⟩
    · rename_i hdropped
      obtain ⟨hallowed, hnew, hfirst⟩ := ih reference hreference
      have hne : next.key ≠ reference.key := fun heq => hdropped (heq ▸ ⟨hallowed, hnew⟩)
      exact ⟨hallowed, hnew, (hskip hne).trans hfirst⟩

/-- Distinct references to the evidence are all kept. -/
theorem groundedReferences_eq_self
    (hallowed : ∀ reference ∈ references, reference.key ∈ allowed ∧ reference.key ∉ seen)
    (hnodup : (references.map SourceReference.key).Nodup) :
    groundedReferences allowed seen references = references := by
  induction references generalizing seen with
  | nil => rfl
  | cons reference rest ih =>
    rw [List.map_cons, List.nodup_cons] at hnodup
    unfold groundedReferences
    rw [if_pos (hallowed reference List.mem_cons_self), ih (fun next hnext => ?_) hnodup.2]
    obtain ⟨hkey, hnew⟩ := hallowed next (List.mem_cons_of_mem _ hnext)
    refine ⟨hkey, fun hmem => ?_⟩
    rcases List.mem_cons.mp hmem with heq | hmem
    · exact hnodup.1 (heq ▸ List.mem_map_of_mem hnext)
    · exact hnew hmem

end References

/-! ## The two passes -/

section Passes

variable {result : AssessmentResult} {evidence : List RetrievedEvidence}

/-- The grounded references are the first ones under each key of the evidence. -/
theorem firstReferences_grounded :
    FirstReferences (evidenceKeys evidence) result.sourceReferences
      (applyGroundingMetadata result evidence).sourceReferences where
  order := groundedReferences_sublist
  keys := by
    refine groundedReferences_keys.trans ?_
    simp
  first reference hreference := (groundedReferences_first reference hreference).2.2

/-- The check of the provenance: every reference has the key of an evidence item. -/
theorem provenanceIsValid_iff : provenanceIsValid result evidence = true ↔
    ∀ reference ∈ result.sourceReferences, reference.key ∈ evidenceKeys evidence := by
  simp [provenanceIsValid]

/-- A grounded result passes the check. -/
theorem provenanceIsValid_grounded :
    provenanceIsValid (applyGroundingMetadata result evidence) evidence = true :=
  provenanceIsValid_iff.mpr fun reference hreference =>
    (groundedReferences_first reference hreference).1

/-- A citation is still there after the grounding if and only if it is in the evidence. -/
theorem mem_grounded_keys {reference : SourceReference}
    (hreference : reference ∈ result.sourceReferences) :
    reference.key ∈ (applyGroundingMetadata result evidence).sourceReferences.map
        SourceReference.key ↔ reference.key ∈ evidenceKeys evidence := by
  have hmem : reference.key ∈ result.sourceReferences.map SourceReference.key :=
    List.mem_map_of_mem hreference
  rw [firstReferences_grounded.keys, List.mem_eraseDups, List.mem_filter, decide_eq_true_eq]
  exact and_iff_right hmem

/-- The check passes if and only if the grounding loses no citation. -/
theorem provenanceIsValid_iff_kept : provenanceIsValid result evidence = true ↔
    ∀ reference ∈ result.sourceReferences, reference.key ∈
      (applyGroundingMetadata result evidence).sourceReferences.map SourceReference.key := by
  rw [provenanceIsValid_iff]
  exact forall₂_congr fun reference hreference => (mem_grounded_keys hreference).symm

/-- Grounding a grounded result changes nothing. -/
theorem applyGroundingMetadata_idempotent :
    applyGroundingMetadata (applyGroundingMetadata result evidence) evidence =
      applyGroundingMetadata result evidence := by
  have hfirst := @firstReferences_grounded result evidence
  have hsame : groundedReferences (evidenceKeys evidence) []
      (applyGroundingMetadata result evidence).sourceReferences =
        (applyGroundingMetadata result evidence).sourceReferences := by
    refine groundedReferences_eq_self (fun reference hreference => ?_) ?_
    · exact ⟨(groundedReferences_first reference hreference).1, List.not_mem_nil⟩
    · rw [hfirst.keys]
      exact nodup_eraseDups _
  exact congrArg (fun references => { applyGroundingMetadata result evidence with
    sourceReferences := references }) hsame

end Passes

/-- The grounding keeps the first references to the evidence and changes nothing else but the
evidence status, once and for all. Its result passes the check, and the check of the original
result, which generation hands on, fails if and only if some citation was lost. -/
theorem grounding_and_check_agree (result : AssessmentResult) (evidence : List RetrievedEvidence) :
    FirstReferences (evidenceKeys evidence) result.sourceReferences
        (applyGroundingMetadata result evidence).sourceReferences ∧
      applyGroundingMetadata result evidence =
        { result with
          externalEvidenceStatus := (applyGroundingMetadata result evidence).externalEvidenceStatus
          sourceReferences := (applyGroundingMetadata result evidence).sourceReferences } ∧
      applyGroundingMetadata (applyGroundingMetadata result evidence) evidence =
        applyGroundingMetadata result evidence ∧
      provenanceIsValid (applyGroundingMetadata result evidence) evidence = true ∧
      (provenanceIsValid result evidence = true ↔ ∀ reference ∈ result.sourceReferences,
        reference.key ∈ (applyGroundingMetadata result evidence).sourceReferences.map
          SourceReference.key) ∧
      ∀ (service : AssessmentService) (requestId : Option RequestId) (timers : Timers)
        (assessmentId : UUID) (request : AssessmentRequest) (routing : ResolvedExecutionRoute)
        (candidate : Candidate),
        service.generate requestId timers assessmentId request routing = .ok candidate →
        ∃ output, service.runMode assessmentId request routing = .ok output ∧
          candidate.result = applyGroundingMetadata output.result output.evidence ∧
          (candidate.provenanceValid = true ↔
            ∀ reference ∈ output.result.sourceReferences,
              reference.key ∈ candidate.result.sourceReferences.map SourceReference.key) := by
  refine ⟨firstReferences_grounded, rfl, applyGroundingMetadata_idempotent,
    provenanceIsValid_grounded, provenanceIsValid_iff_kept, ?_⟩
  intro service requestId timers assessmentId request routing candidate h
  obtain ⟨output, houtput, hcandidate⟩ := except_bind_eq_ok.mp h
  cases hcandidate
  exact ⟨output, houtput, rfl, provenanceIsValid_iff_kept⟩

end AssessmentPlatform
