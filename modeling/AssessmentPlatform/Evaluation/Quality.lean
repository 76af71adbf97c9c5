import AssessmentPlatform.Evaluation.Evaluators
import Mathlib.Tactic.FieldSimp
import Mathlib.Tactic.Ring

/-!
# The metrics of an assessment

The evaluation of a valid output of a valid case raises nothing. Its metrics are fractions of
counts, which the validators of the case and of the output keep between zero and one.
-/

namespace AssessmentPlatform

open Library AssessmentEvaluation

/-- A fraction, or nothing if the whole is empty. -/
def ratio (a b : ℕ) : Option ℚ := if b = 0 then none else some (a / b)

/-- The guarded division returns the ratio. -/
theorem divideIfPositive_eq (a b : ℕ) : divideIfPositive a b = .ok (ratio a b) := by
  unfold divideIfPositive ratio
  by_cases hb : b = 0
  · rw [if_pos hb, if_pos hb]
  · rw [if_neg hb, if_neg hb, divide_ok a (Nat.pos_of_ne_zero hb)]
    rfl

/-- The division that falls back to zero returns a quotient, which is zero for zero. -/
theorem divideOrZero_eq (a b : ℕ) : divideOrZero a b = .ok ((a : ℚ) / b) := by
  unfold divideOrZero
  by_cases hb : b = 0
  · rw [if_pos hb, hb, Nat.cast_zero, div_zero]
  · rw [if_neg hb, divide_ok a (Nat.pos_of_ne_zero hb)]

/-- The ratio of a part is between zero and one. -/
theorem ratio_mem {a b : ℕ} (h : a ≤ b) : ∀ x ∈ ratio a b, 0 ≤ x ∧ x ≤ 1 := by
  intro x hx
  unfold ratio at hx
  split at hx
  · cases hx
  · rw [← Option.mem_some.mp hx]
    exact fraction_mem h

namespace AssessmentEvaluation

section Values

variable (case : AssessmentEvaluationCase) (output : AssessmentEvaluationOutput)

/-- The score of the abstention. -/
def abstentionValue : ℚ :=
  if case.abstention.expectation = .required then
    (abstentionChecks case output).count true / (abstentionChecks case output).length
  else flagValue !output.abstainedFromUnsupportedConclusion

/-- The share of the important findings that the output preserves. -/
def preservationValue : Option ℚ :=
  output.specialists.bind fun specialists =>
    ratio (preservedFindings output specialists).card specialists.importantFindingIds.toFinset.card

/-- The share of the checks of the synthesis that succeed. -/
def transparencyValue : Option ℚ :=
  output.specialists.map fun specialists =>
    ((synthesisChecks output specialists).count true : ℚ) /
      (synthesisChecks output specialists).length

/-- How many claims have no valid support. -/
def unsupportedCount : ℕ := (claimFindings case output).unsupportedClaims.length

/-- The metrics as exact fractions. -/
def qualityValues : QualityMetrics (Option ℚ) where
  riskRecall := some ((matchedRisks case output).card / (expectedRisks case).length)
  riskPrecision := some ((matchedRisks case output).card / (identifiedRisks output).length)
  severityConsistency := ratio (severityMatches case output) (matchedRisks case output).card
  controlCoverage := some
    (common case.expectedControls output.recommendedControls /
      case.expectedControls.toFinset.card)
  governanceCoverage := some
    (common case.expectedGovernanceRequirements output.governanceRequirements /
      case.expectedGovernanceRequirements.toFinset.card)
  humanOversightAccuracy :=
    some (flagValue (output.humanOversightRecommended == case.humanOversightExpected))
  architectureFitScore := some
    (common case.expectedArchitectureCharacteristics output.architectureCharacteristics /
      case.expectedArchitectureCharacteristics.toFinset.card)
  overEngineeringAvoidance :=
    if simpleExpected case then some (flagValue !recommendsExcessiveComplexity output) else none
  groundedness := ratio (output.claims.length - unsupportedCount case output) output.claims.length
  unsupportedClaimRate := ratio (unsupportedCount case output) output.claims.length
  appropriateAbstentionRate := some (abstentionValue case output)
  specialistPreservation := preservationValue output
  synthesisTransparency := transparencyValue output

/-- The synthesis is scored by its two fractions. -/
theorem evaluateSynthesis_eq :
    evaluateSynthesis output = .ok (preservationValue output, transparencyValue output) := by
  unfold evaluateSynthesis preservationValue transparencyValue
  cases output.specialists with
  | none => rfl
  | some specialists =>
    have hlength : 0 < (synthesisChecks output specialists).length := by
      simp [synthesisChecks]
    simp only [divideIfPositive_eq, divide_ok _ hlength]
    rfl

/-- The score of the abstention is always computed. -/
theorem abstentionScore_eq : abstentionScore case output = .ok (abstentionValue case output) := by
  unfold abstentionScore abstentionValue
  split
  · exact divide_ok _ (by simp [abstentionChecks])
  · rfl

/-- A case expects some risk. -/
theorem expectedRisks_length_pos : 0 < (expectedRisks case).length := by
  rw [expectedRisks, dictBy_eq case.expectedRisks_nodup]
  exact List.length_pos_of_ne_nil case.expectedRisks_ne_nil

/-- The denominator of a coverage is positive. -/
theorem card_toFinset_pos {α : Type} [DecidableEq α] {l : List α} (h : l ≠ []) :
    0 < l.toFinset.card :=
  Finset.card_pos.mpr (List.toFinset_nonempty_iff l |>.mpr h)

/-- The evaluation validates the fractions. -/
theorem evaluateAssessment_eq :
    evaluateAssessment case output =
      (AssessmentQualityMetrics.create (qualityValues case output)).map
        fun metrics => (metrics, observations case output) := by
  unfold evaluateAssessment
  simp only [evaluateSynthesis_eq, abstentionScore_eq, divideIfPositive_eq, divideOrZero_eq,
    divide_ok _ (expectedRisks_length_pos case),
    divide_ok _ (card_toFinset_pos case.expectedControls_ne_nil),
    divide_ok _ (card_toFinset_pos case.expectedGovernanceRequirements_ne_nil),
    divide_ok _ (card_toFinset_pos case.expectedArchitectureCharacteristics_ne_nil)]
  rfl

end Values

/-! ## The claims -/

/-- A claim without a valid support. -/
def isUnsupported (requirements : List ExpectedEvidenceRequirement) (available : List Str)
    (claim : AssessmentClaim) : Bool :=
  match getBy ExpectedEvidenceRequirement.claimId claim.claimId requirements with
  | none => true
  | some requirement => !claim.supports.any fun item => supportIsValid item requirement available

section Claims

variable {requirements : List ExpectedEvidenceRequirement} {available : List Str}

/-- The citations do not matter for the support. -/
theorem checkCitations_unsupported (requirement : ExpectedEvidenceRequirement)
    (claim : AssessmentClaim) (findings : ClaimFindings) :
    (checkCitations requirement claim findings).unsupportedClaims =
      findings.unsupportedClaims := by
  unfold checkCitations
  split
  · dsimp only
    split
    · rfl
    · split <;> rfl
  · rfl

/-- A claim is recorded if it has no valid support. -/
theorem checkClaim_unsupported (findings : ClaimFindings) (claim : AssessmentClaim) :
    (checkClaim requirements available findings claim).unsupportedClaims =
      findings.unsupportedClaims ++
        if isUnsupported requirements available claim then [claim.claimId] else [] := by
  unfold checkClaim isUnsupported
  cases getBy ExpectedEvidenceRequirement.claimId claim.claimId requirements with
  | none => rfl
  | some requirement =>
    simp only [checkCitations_unsupported]
    by_cases hvalid :
        (claim.supports.any fun item => supportIsValid item requirement available) = true
    · simp [hvalid]
    · simp [hvalid]

/-- The recorded claims are those without a valid support, in their order. -/
theorem checkClaims_unsupported (claims : List AssessmentClaim) (findings : ClaimFindings) :
    (claims.foldl (checkClaim requirements available) findings).unsupportedClaims =
      findings.unsupportedClaims ++
        (claims.filter (isUnsupported requirements available)).map AssessmentClaim.claimId := by
  induction claims generalizing findings with
  | nil => exact (List.append_nil _).symm
  | cons claim claims ih =>
    rw [List.foldl_cons, ih, checkClaim_unsupported, List.append_assoc, List.filter_cons]
    split <;> rfl

end Claims

/-! ## Bounds -/

section Bounds

variable (case : AssessmentEvaluationCase) (output : AssessmentEvaluationOutput)

/-- There are at most as many matched risks as expected ones. -/
theorem matchedRisks_le_expected :
    (matchedRisks case output).card ≤ (expectedRisks case).length :=
  calc (matchedRisks case output).card
    _ ≤ (expectedCategories case).toFinset.card := Finset.card_le_card Finset.inter_subset_left
    _ ≤ (expectedCategories case).length := List.toFinset_card_le _
    _ = (expectedRisks case).length := List.length_map _

/-- There are at most as many matched risks as identified ones. -/
theorem matchedRisks_le_identified :
    (matchedRisks case output).card ≤ (identifiedRisks output).length :=
  calc (matchedRisks case output).card
    _ ≤ (identifiedCategories output).toFinset.card :=
      Finset.card_le_card Finset.inter_subset_right
    _ ≤ (identifiedCategories output).length := List.toFinset_card_le _
    _ = (identifiedRisks output).length := List.length_map _

/-- There are at most as many common items as expected ones. -/
theorem common_le {α : Type} [DecidableEq α] (expected found : List α) :
    common expected found ≤ expected.toFinset.card :=
  Finset.card_le_card Finset.inter_subset_left

/-- The unsupported claims are counted one by one. -/
theorem unsupportedCount_eq :
    unsupportedCount case output =
      output.claims.countP (isUnsupported
        (dictBy ExpectedEvidenceRequirement.claimId case.evidenceRequirements)
        (availableSpecialistFindings output)) := by
  rw [unsupportedCount, claimFindings, checkClaims_unsupported, List.nil_append, List.length_map,
    List.countP_eq_length_filter]

/-- There are at most as many unsupported claims as claims. -/
theorem unsupportedCount_le : unsupportedCount case output ≤ output.claims.length := by
  rw [unsupportedCount_eq]
  exact List.countP_le_length

/-- The score of the abstention is between zero and one. -/
theorem abstentionValue_mem :
    0 ≤ abstentionValue case output ∧ abstentionValue case output ≤ 1 := by
  unfold abstentionValue
  split
  · exact fraction_mem List.count_le_length
  · exact flagValue_mem _

/-- The rate of the preserved findings is between zero and one. -/
theorem preservationValue_mem : ∀ x ∈ preservationValue output, 0 ≤ x ∧ x ≤ 1 := by
  unfold preservationValue
  cases output.specialists with
  | none => simp
  | some specialists => exact ratio_mem (Finset.card_le_card Finset.inter_subset_left)

/-- The rate of the transparent findings is between zero and one. -/
theorem transparencyValue_mem : ∀ x ∈ transparencyValue output, 0 ≤ x ∧ x ≤ 1 := by
  unfold transparencyValue
  cases output.specialists with
  | none => simp
  | some specialists =>
    rintro x ⟨⟩
    exact fraction_mem List.count_le_length

/-- Every fraction is between zero and one. -/
theorem qualityValues_mem (name : MetricName) :
    ∀ x ∈ (qualityValues case output).get name, 0 ≤ x ∧ x ≤ 1 := by
  have hsome : ∀ {y : ℚ}, 0 ≤ y ∧ y ≤ 1 → ∀ x ∈ some y, 0 ≤ x ∧ x ≤ 1 := by
    rintro y hy x ⟨⟩
    exact hy
  cases name with
  | riskRecall => exact hsome (fraction_mem (matchedRisks_le_expected case output))
  | riskPrecision => exact hsome (fraction_mem (matchedRisks_le_identified case output))
  | severityConsistency => exact ratio_mem (Finset.card_filter_le _ _)
  | controlCoverage => exact hsome (fraction_mem (common_le _ _))
  | governanceCoverage => exact hsome (fraction_mem (common_le _ _))
  | humanOversightAccuracy => exact hsome (flagValue_mem _)
  | architectureFitScore => exact hsome (fraction_mem (common_le _ _))
  | overEngineeringAvoidance =>
    simp only [QualityMetrics.get, qualityValues]
    split
    · exact hsome (flagValue_mem _)
    · simp
  | groundedness => exact ratio_mem (Nat.sub_le _ _)
  | unsupportedClaimRate => exact ratio_mem (unsupportedCount_le case output)
  | appropriateAbstentionRate => exact hsome (abstentionValue_mem case output)
  | specialistPreservation => exact preservationValue_mem output
  | synthesisTransparency => exact transparencyValue_mem output

/-- The evaluation returns the fractions. -/
theorem evaluateAssessment_ok :
    ∃ metrics, evaluateAssessment case output = .ok (metrics, observations case output) ∧
      ∀ name, (metrics.get name).map Subtype.val = (qualityValues case output).get name := by
  obtain ⟨metrics, hcreate, hvalues⟩ :=
    AssessmentQualityMetrics.create_ok (qualityValues_mem case output)
  refine ⟨metrics, ?_, hvalues⟩
  rw [evaluateAssessment_eq, hcreate]
  rfl

end Bounds

/-- A part and the rest. -/
theorem ratio_add {a b : ℕ} (hle : a ≤ b) {x y : ℚ} (hx : x ∈ ratio (b - a) b)
    (hy : y ∈ ratio a b) : x + y = 1 := by
  unfold ratio at hx hy
  split at hx
  · cases hx
  · rename_i hb
    rw [if_neg hb] at hy
    cases hx
    cases hy
    have hne : (b : ℚ) ≠ 0 := Nat.cast_ne_zero.mpr hb
    rw [Nat.cast_sub hle]
    field_simp
    ring

end AssessmentEvaluation

end AssessmentPlatform
