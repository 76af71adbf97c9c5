import AssessmentPlatform.Evaluation.Quality

/-!
# Rearranged outputs

The metrics are computed from sets and counts: writing the lists of an output in another order
leaves them unchanged.
-/

namespace AssessmentPlatform

open Library AssessmentEvaluation

/-- The same claim with its supports in another order. -/
structure AssessmentClaim.Rearranged (claim claim' : AssessmentClaim) : Prop where
  claimId : claim.claimId = claim'.claimId
  supports : claim.supports.Perm claim'.supports

/-- The same reports in another order. -/
structure SpecialistEvaluationTrace.Rearranged (specialists specialists' :
    SpecialistEvaluationTrace) : Prop where
  availableFindingIds :
    specialists.availableFindingIds.Perm specialists'.availableFindingIds
  importantFindingIds :
    specialists.importantFindingIds.Perm specialists'.importantFindingIds
  disagreementIds : specialists.disagreementIds.Perm specialists'.disagreementIds
  unavailableSpecialists :
    specialists.unavailableSpecialists.Perm specialists'.unavailableSpecialists

/-- The same output with its lists in another order. -/
structure AssessmentEvaluationOutput.Rearranged (output output' : AssessmentEvaluationOutput) :
    Prop where
  identifiedRisks : output.identifiedRisks.Perm output'.identifiedRisks
  recommendedControls : output.recommendedControls.Perm output'.recommendedControls
  governanceRequirements : output.governanceRequirements.Perm output'.governanceRequirements
  architectureCharacteristics :
    output.architectureCharacteristics.Perm output'.architectureCharacteristics
  humanOversightRecommended :
    output.humanOversightRecommended = output'.humanOversightRecommended
  uncertaintyAcknowledged : output.uncertaintyAcknowledged = output'.uncertaintyAcknowledged
  abstainedFromUnsupportedConclusion :
    output.abstainedFromUnsupportedConclusion = output'.abstainedFromUnsupportedConclusion
  validationRecommended : output.validationRecommended = output'.validationRecommended
  claims : ∃ claims, output.claims.Perm claims ∧
    List.Forall₂ AssessmentClaim.Rearranged claims output'.claims
  runStatus : output.runStatus = output'.runStatus
  degradationReasons : output.degradationReasons = output'.degradationReasons
  specialists :
    Option.Rel SpecialistEvaluationTrace.Rearranged output.specialists output'.specialists
  preservedSpecialistFindingIds :
    output.preservedSpecialistFindingIds.Perm output'.preservedSpecialistFindingIds
  surfacedDisagreementIds :
    output.surfacedDisagreementIds.Perm output'.surfacedDisagreementIds
  degradedStateAcknowledged :
    output.degradedStateAcknowledged = output'.degradedStateAcknowledged

/-- The specialists of both outputs are absent, or their reports are rearranged. -/
theorem AssessmentEvaluationOutput.Rearranged.specialists_cases
    {output output' : AssessmentEvaluationOutput} (h : output.Rearranged output') :
    (output.specialists = none ∧ output'.specialists = none) ∨
      ∃ specialists specialists', output.specialists = some specialists ∧
        output'.specialists = some specialists' ∧ specialists.Rearranged specialists' := by
  have hrel := h.specialists
  revert hrel
  generalize output.specialists = found
  generalize output'.specialists = found'
  intro hrel
  cases hrel with
  | none => exact .inl ⟨rfl, rfl⟩
  | some hsame => exact .inr ⟨_, _, rfl, rfl, hsame⟩

/-- Related items are counted alike. -/
theorem countP_forall₂ {α β : Type} {r : α → β → Prop} {p : α → Bool} {q : β → Bool} {l : List α}
    {l' : List β} (hcount : ∀ a b, r a b → p a = q b) (h : List.Forall₂ r l l') :
    l.countP p = l'.countP q := by
  induction h with
  | nil => rfl
  | cons hhead _ ih => rw [List.countP_cons, List.countP_cons, ih, hcount _ _ hhead]

namespace AssessmentEvaluation

variable {case : AssessmentEvaluationCase} {output output' : AssessmentEvaluationOutput}

/-- The categories of a dictionary of risks. -/
theorem identifiedRisks_eq (output : AssessmentEvaluationOutput) :
    identifiedRisks output = output.identifiedRisks := dictBy_eq output.identifiedRisks_nodup

/-- The common items do not depend on the order of those that are found. -/
theorem common_perm {α : Type} [DecidableEq α] (expected : List α) {found found' : List α}
    (h : found.Perm found') : common expected found = common expected found' := by
  rw [common, common, List.toFinset_eq_of_perm _ _ h]

/-- The matched risks do not depend on the order of the identified ones. -/
theorem matchedRisks_perm (h : output.identifiedRisks.Perm output'.identifiedRisks) :
    matchedRisks case output = matchedRisks case output' := by
  rw [matchedRisks, matchedRisks, identifiedCategories, identifiedCategories,
    identifiedRisks_eq, identifiedRisks_eq,
    List.toFinset_eq_of_perm _ _ (h.map IdentifiedRisk.category)]

/-- The matches in severity do not depend on the order of the identified risks. -/
theorem severityMatches_perm (h : output.identifiedRisks.Perm output'.identifiedRisks) :
    severityMatches case output = severityMatches case output' := by
  unfold severityMatches
  rw [matchedRisks_perm h]
  congr 1
  refine Finset.filter_congr fun category _ => ?_
  rw [identifiedRisks_eq, identifiedRisks_eq, getBy_perm output.identifiedRisks_nodup h]

/-- A support is valid against the same findings in any order. -/
theorem supportIsValid_congr {available available' : List Str}
    (h : ∀ id, id ∈ available ↔ id ∈ available') (support : ClaimSupport)
    (requirement : ExpectedEvidenceRequirement) :
    supportIsValid support requirement available =
      supportIsValid support requirement available' := by
  unfold supportIsValid
  simp only [h]

/-- The same findings are available. -/
theorem mem_availableSpecialistFindings (h : output.Rearranged output') (id : Str) :
    id ∈ availableSpecialistFindings output ↔ id ∈ availableSpecialistFindings output' := by
  unfold availableSpecialistFindings
  rcases h.specialists_cases with ⟨hnone, hnone'⟩ | ⟨specialists, specialists', hs, hs', hsame⟩
  · rw [hnone, hnone']
  · rw [hs, hs']
    exact hsame.availableFindingIds.mem_iff

/-- A claim is supported in any order of its supports and of the findings. -/
theorem isUnsupported_congr {requirements : List ExpectedEvidenceRequirement}
    {available available' : List Str} (h : ∀ id, id ∈ available ↔ id ∈ available')
    {claim claim' : AssessmentClaim} (hclaim : claim.Rearranged claim') :
    isUnsupported requirements available claim = isUnsupported requirements available' claim' := by
  unfold isUnsupported
  rw [hclaim.claimId]
  cases getBy ExpectedEvidenceRequirement.claimId claim'.claimId requirements with
  | none => rfl
  | some requirement =>
    simp only [supportIsValid_congr h, hclaim.supports.any_eq]

/-- The number of unsupported claims does not depend on the order of the output. -/
theorem unsupportedCount_perm (h : output.Rearranged output') :
    unsupportedCount case output = unsupportedCount case output' := by
  obtain ⟨claims, hperm, hclaims⟩ := h.claims
  rw [unsupportedCount_eq, unsupportedCount_eq, hperm.countP_eq]
  exact countP_forall₂ (fun _ _ => isUnsupported_congr (mem_availableSpecialistFindings h)) hclaims

/-- The score of the abstention does not depend on the order of the output. -/
theorem abstentionValue_congr (h : output.Rearranged output') :
    abstentionValue case output = abstentionValue case output' := by
  unfold abstentionValue abstentionChecks
  rw [h.abstainedFromUnsupportedConclusion, h.uncertaintyAcknowledged, h.validationRecommended]

/-- The preserved findings do not depend on the order of the output. -/
theorem preservationValue_perm (h : output.Rearranged output') :
    preservationValue output = preservationValue output' := by
  unfold preservationValue
  rcases h.specialists_cases with ⟨hnone, hnone'⟩ | ⟨specialists, specialists', hs, hs', hsame⟩
  · rw [hnone, hnone', Option.bind_none, Option.bind_none]
  · rw [hs, hs', Option.bind_some, Option.bind_some, preservedFindings, preservedFindings,
      List.toFinset_eq_of_perm _ _ hsame.importantFindingIds,
      List.toFinset_eq_of_perm _ _ h.preservedSpecialistFindingIds]

/-- A list of identifiers is contained in another one in any order of both. -/
theorem all_mem_perm {part part' whole whole' : List Str} (hpart : part.Perm part')
    (hwhole : whole.Perm whole') : part.all (· ∈ whole) = part'.all (· ∈ whole') := by
  rw [hpart.all_eq]
  simp only [hwhole.mem_iff]

/-- Lists in different orders are empty together. -/
theorem ne_nil_perm {ids ids' : List Str} (h : ids.Perm ids') : ids ≠ [] ↔ ids' ≠ [] := by
  rw [ne_eq, ne_eq, ← List.length_eq_zero_iff, ← List.length_eq_zero_iff, h.length_eq]

/-- The checks of the synthesis do not depend on the order of the output. -/
theorem synthesisChecks_perm {specialists specialists' : SpecialistEvaluationTrace}
    (h : output.Rearranged output') (hsame : specialists.Rearranged specialists') :
    synthesisChecks output specialists = synthesisChecks output' specialists' := by
  unfold synthesisChecks
  rw [all_mem_perm h.preservedSpecialistFindingIds hsame.availableFindingIds,
    all_mem_perm hsame.disagreementIds h.surfacedDisagreementIds, h.degradedStateAcknowledged,
    h.degradationReasons]
  simp only [ne_nil_perm hsame.disagreementIds, ne_nil_perm hsame.unavailableSpecialists]

/-- The transparent findings do not depend on the order of the output. -/
theorem transparencyValue_perm (h : output.Rearranged output') :
    transparencyValue output = transparencyValue output' := by
  unfold transparencyValue
  rcases h.specialists_cases with ⟨hnone, hnone'⟩ | ⟨specialists, specialists', hs, hs', hsame⟩
  · rw [hnone, hnone', Option.map_none, Option.map_none]
  · rw [hs, hs', Option.map_some, Option.map_some, synthesisChecks_perm h hsame]

/-- The judgement of the complexity does not depend on the order of the output. -/
theorem recommendsExcessiveComplexity_perm (h : output.Rearranged output') :
    recommendsExcessiveComplexity output = recommendsExcessiveComplexity output' := by
  unfold recommendsExcessiveComplexity
  rw [List.toFinset_eq_of_perm _ _ h.architectureCharacteristics]

/-- Rearranged outputs have as many claims. -/
theorem claims_length (h : output.Rearranged output') :
    output.claims.length = output'.claims.length := by
  obtain ⟨claims, hperm, hclaims⟩ := h.claims
  rw [hperm.length_eq, hclaims.length_eq]

/-- The fractions of rearranged outputs are the same. -/
theorem qualityValues_perm (h : output.Rearranged output') :
    qualityValues case output = qualityValues case output' := by
  have hidentified : (identifiedRisks output).length = (identifiedRisks output').length := by
    rw [identifiedRisks_eq, identifiedRisks_eq, h.identifiedRisks.length_eq]
  unfold qualityValues
  rw [matchedRisks_perm h.identifiedRisks, severityMatches_perm h.identifiedRisks, hidentified,
    common_perm _ h.recommendedControls, common_perm _ h.governanceRequirements,
    common_perm _ h.architectureCharacteristics, h.humanOversightRecommended,
    recommendsExcessiveComplexity_perm h, claims_length h, unsupportedCount_perm h,
    abstentionValue_congr h, preservationValue_perm h, transparencyValue_perm h]

end AssessmentEvaluation

/-- The metrics of two outputs with the same fractions are the same. -/
theorem metrics_eq_of_values {metrics metrics' : AssessmentQualityMetrics}
    (h : ∀ name, (metrics.get name).map Subtype.val = (metrics'.get name).map Subtype.val) :
    metrics = metrics' := by
  have hget : ∀ name, metrics.get name = metrics'.get name := fun name =>
    Option.map_injective Subtype.val_injective (h name)
  cases metrics
  cases metrics'
  simp only [QualityMetrics.mk.injEq]
  exact ⟨hget .riskRecall, hget .riskPrecision, hget .severityConsistency, hget .controlCoverage,
    hget .governanceCoverage, hget .humanOversightAccuracy, hget .architectureFitScore,
    hget .overEngineeringAvoidance, hget .groundedness, hget .unsupportedClaimRate,
    hget .appropriateAbstentionRate, hget .specialistPreservation, hget .synthesisTransparency⟩

/-- The evaluation of a valid output divides by no zero and validates. Groundedness and the rate of
unsupported claims add up to one, and the order of the lists does not matter. -/
theorem evaluated_metrics_valid (case : AssessmentEvaluationCase)
    (output : AssessmentEvaluationOutput) :
    ∃ metrics observations, evaluateAssessment case output = .ok (metrics, observations) ∧
      (∀ name, ∀ rate ∈ metrics.get name, 0 ≤ rate.val ∧ rate.val ≤ 1) ∧
      ((metrics.groundedness = none ∧ metrics.unsupportedClaimRate = none) ∨
        ∃ grounded unsupported, metrics.groundedness = some grounded ∧
          metrics.unsupportedClaimRate = some unsupported ∧
          grounded.val + unsupported.val = 1) ∧
      ∀ output', output.Rearranged output' →
        ∃ observations', evaluateAssessment case output' = .ok (metrics, observations') := by
  obtain ⟨metrics, hok, hvalues⟩ := evaluateAssessment_ok case output
  refine ⟨metrics, _, hok, fun name rate _ => rate.property, ?_, fun output' hsame => ?_⟩
  · have hgrounded := hvalues .groundedness
    have hunsupported := hvalues .unsupportedClaimRate
    simp only [QualityMetrics.get, qualityValues] at hgrounded hunsupported
    by_cases hclaims : output.claims.length = 0
    · rw [ratio, if_pos hclaims, Option.map_eq_none_iff] at hgrounded hunsupported
      exact .inl ⟨hgrounded, hunsupported⟩
    · right
      have hsum := @ratio_add _ _ (unsupportedCount_le case output)
      rw [ratio, if_neg hclaims] at hgrounded hunsupported
      obtain ⟨grounded, hg, hgval⟩ := Option.map_eq_some_iff.mp hgrounded
      obtain ⟨unsupported, hu, huval⟩ := Option.map_eq_some_iff.mp hunsupported
      refine ⟨grounded, unsupported, hg, hu, hsum ?_ ?_⟩
      · rw [ratio, if_neg hclaims, hgval]
        rfl
      · rw [ratio, if_neg hclaims, huval]
        rfl
  · obtain ⟨metrics', hok', hvalues'⟩ := evaluateAssessment_ok case output'
    have hequal : metrics = metrics' := metrics_eq_of_values fun name => by
      rw [hvalues, hvalues', qualityValues_perm hsame]
    exact ⟨_, hequal ▸ hok'⟩

/-- A case that expects one risk and one claim. -/
def privacyCase : AssessmentEvaluationCase where
  expectedRisks := [{ category := .privacy, severity := .high }]
  expectedControls := [.auditLogging]
  expectedGovernanceRequirements := [.riskReview]
  expectedArchitectureCharacteristics := [.ragAppropriate]
  humanOversightExpected := true
  evidenceRequirements :=
    [{ claimId := ⟨"personal-data", by decide +kernel⟩
       allowedSources := {.assessmentInput}
       allowedSources_nonempty := Finset.singleton_nonempty _ }]
  abstention := { expectation := .notRequired }
  requirements_available := by simp
  requirements_citable := by simp

/-- An output with some risks and one claim. -/
def privacyOutput (risks : List IdentifiedRisk)
    (hrisks : (risks.map IdentifiedRisk.category).Nodup) : AssessmentEvaluationOutput where
  identifiedRisks := risks
  humanOversightRecommended := true
  uncertaintyAcknowledged := false
  abstainedFromUnsupportedConclusion := false
  validationRecommended := false
  claims :=
    [{ claimId := ⟨"personal-data", by decide +kernel⟩
       supports := [{ source := .assessmentInput }] }]
  identifiedRisks_nodup := hrisks

/-- The risk that the case expects. -/
def privacyRisk : IdentifiedRisk where
  findingId := ⟨"finding-one", by decide +kernel⟩
  category := .privacy
  severity := .high

/-- A risk that the case does not expect. -/
def securityRisk : IdentifiedRisk where
  findingId := ⟨"finding-two", by decide +kernel⟩
  category := .security
  severity := .low

/-- Both risks, the expected one first. -/
def expectedFirst : AssessmentEvaluationOutput :=
  privacyOutput [privacyRisk, securityRisk] (by decide)

/-- Both risks, the expected one last. -/
def expectedLast : AssessmentEvaluationOutput :=
  privacyOutput [securityRisk, privacyRisk] (by decide)

/-- Outputs with the same risks in different orders are rearrangements. -/
theorem privacyOutput_rearranged {risks risks' : List IdentifiedRisk}
    (hrisks : (risks.map IdentifiedRisk.category).Nodup)
    (hrisks' : (risks'.map IdentifiedRisk.category).Nodup) (hperm : risks.Perm risks') :
    (privacyOutput risks hrisks).Rearranged (privacyOutput risks' hrisks') where
  identifiedRisks := hperm
  recommendedControls := List.Perm.refl _
  governanceRequirements := List.Perm.refl _
  architectureCharacteristics := List.Perm.refl _
  humanOversightRecommended := rfl
  uncertaintyAcknowledged := rfl
  abstainedFromUnsupportedConclusion := rfl
  validationRecommended := rfl
  claims := ⟨_, List.Perm.refl _, .cons ⟨rfl, List.Perm.refl _⟩ .nil⟩
  runStatus := rfl
  degradationReasons := rfl
  specialists := .none
  preservedSpecialistFindingIds := List.Perm.refl _
  surfacedDisagreementIds := List.Perm.refl _
  degradedStateAcknowledged := rfl

/-- Two risks in both orders give the same metrics. -/
theorem swapped_risks_same_metrics :
    ∃ metrics observations observations',
      evaluateAssessment privacyCase expectedFirst = .ok (metrics, observations) ∧
        evaluateAssessment privacyCase expectedLast = .ok (metrics, observations') := by
  obtain ⟨metrics, observations, hok, -, -, hsame⟩ :=
    evaluated_metrics_valid privacyCase expectedFirst
  obtain ⟨observations', hok'⟩ := hsame expectedLast
    (privacyOutput_rearranged _ _ (List.Perm.swap _ _ _))
  exact ⟨metrics, observations, observations', hok, hok'⟩

end AssessmentPlatform
