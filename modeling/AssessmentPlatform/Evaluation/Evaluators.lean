import AssessmentPlatform.Evaluation.AssessmentModels
import AssessmentPlatform.Library.Keyed
import Mathlib.Data.List.Dedup
import Mathlib.Data.List.Sort

/-!
# Evaluation of an assessment

The output of a mode is compared with what its case expects: sets of risks, controls, requirements
and characteristics, the supports of its claims, its abstention, and what became of the findings
of its specialists.
-/

namespace AssessmentPlatform

open Library

/-- A division that is left out if the denominator is zero. -/
def divideIfPositive (a b : ℕ) : Except Failure (Option ℚ) :=
  if b = 0 then .ok none else (divide a b).map some

/-- A division that gives zero if the denominator is zero. -/
def divideOrZero (a b : ℕ) : Except Failure ℚ := if b = 0 then .ok 0 else divide a b

/-- The members of a list in the order of their texts, without repetitions. -/
def sortedSet {α : Type} [DecidableEq α] (value : α → Str) (l : List α) : List α :=
  l.dedup.insertionSort fun a b => value a ≤ value b

/-- `_support_is_valid`. -/
def supportIsValid (support : ClaimSupport) (requirement : ExpectedEvidenceRequirement)
    (availableSpecialistFindings : List Str) : Bool :=
  if support.source ∉ requirement.allowedSources then false
  else
    match support.source with
    | .assessmentInput => support.referenceId = none ∧ support.systemKnowledgeCategory = none
    | .retrievedEvidence => support.referenceId.any (· ∈ requirement.allowedReferenceIds)
    | .specialistOutput =>
      support.referenceId.any (· ∈ requirement.allowedSpecialistFindingIds) &&
        support.referenceId.any (· ∈ availableSpecialistFindings)
    | .systemKnowledge =>
      support.systemKnowledgeCategory.any (· ∈ requirement.allowedSystemKnowledgeCategories)

/-- What the loop over the claims collects. -/
structure ClaimFindings where
  unsupportedClaims : List EvaluationId := []
  missingCitations : List EvaluationId := []
  invalidCitations : List EvaluationId := []

/-- The citations of one claim. -/
def checkCitations (requirement : ExpectedEvidenceRequirement) (claim : AssessmentClaim)
    (findings : ClaimFindings) : ClaimFindings :=
  if requirement.citationRequired then
    let evidenceSupports := claim.supports.filter fun item => item.source = .retrievedEvidence
    if evidenceSupports.isEmpty then
      { findings with missingCitations := findings.missingCitations ++ [claim.claimId] }
    else if evidenceSupports.any fun item =>
        item.referenceId.any (· ∈ requirement.allowedReferenceIds) then findings
    else { findings with invalidCitations := findings.invalidCitations ++ [claim.claimId] }
  else findings

/-- One claim of the loop. -/
def checkClaim (requirements : List ExpectedEvidenceRequirement)
    (availableSpecialistFindings : List Str) (findings : ClaimFindings)
    (claim : AssessmentClaim) : ClaimFindings :=
  match getBy ExpectedEvidenceRequirement.claimId claim.claimId requirements with
  | none => { findings with unsupportedClaims := findings.unsupportedClaims ++ [claim.claimId] }
  | some requirement =>
    let validSupport := claim.supports.any fun item =>
      supportIsValid item requirement availableSpecialistFindings
    checkCitations requirement claim (if validSupport then findings else
      { findings with unsupportedClaims := findings.unsupportedClaims ++ [claim.claimId] })

namespace AssessmentEvaluation

section Parts

variable (case : AssessmentEvaluationCase) (output : AssessmentEvaluationOutput)

/-- The expected risks by category. -/
def expectedRisks : List ExpectedRisk := dictBy ExpectedRisk.category case.expectedRisks

/-- The identified risks by category. -/
def identifiedRisks : List IdentifiedRisk :=
  dictBy IdentifiedRisk.category output.identifiedRisks

/-- The expected categories. -/
def expectedCategories : List EvaluationRiskCategory :=
  (expectedRisks case).map ExpectedRisk.category

/-- The identified categories. -/
def identifiedCategories : List EvaluationRiskCategory :=
  (identifiedRisks output).map IdentifiedRisk.category

/-- The categories that are expected and identified. -/
def matchedRisks : Finset EvaluationRiskCategory :=
  (expectedCategories case).toFinset ∩ (identifiedCategories output).toFinset

/-- How many matched risks have the expected severity. -/
def severityMatches : ℕ :=
  ((matchedRisks case output).filter fun category =>
    (getBy ExpectedRisk.category category (expectedRisks case)).map ExpectedRisk.severity =
      (getBy IdentifiedRisk.category category (identifiedRisks output)).map
        IdentifiedRisk.severity).card

/-- The findings that a claim may refer to. -/
def availableSpecialistFindings : List Str :=
  match output.specialists with
  | some specialists => specialists.availableFindingIds
  | none => []

/-- The loop over the claims. -/
def claimFindings : ClaimFindings :=
  output.claims.foldl (checkClaim
    (dictBy ExpectedEvidenceRequirement.claimId case.evidenceRequirements)
    (availableSpecialistFindings output)) {}

/-- Whether a simple architecture is expected. -/
def simpleExpected : Bool :=
  (({.deterministicSufficient, .simplerWorkflowPreferred, .multiAgentUnnecessary} : Finset _) ∩
    case.expectedArchitectureCharacteristics.toFinset) ≠ ∅

/-- Whether the output recommends agents. -/
def recommendsExcessiveComplexity : Bool :=
  (({.agentWorkflowJustified, .multiAgentJustified} : Finset _) ∩
    output.architectureCharacteristics.toFinset) ≠ ∅

/-- What a required abstention is checked for. -/
def abstentionChecks : List Bool :=
  [output.abstainedFromUnsupportedConclusion] ++
    (if case.abstention.uncertaintyAcknowledgmentRequired then [output.uncertaintyAcknowledged]
      else []) ++
    (if case.abstention.validationRecommendationRequired then [output.validationRecommended]
      else [])

/-- `_abstention_score`. -/
def abstentionScore : Except Failure ℚ :=
  if case.abstention.expectation = .required then
    divide ((abstentionChecks case output).count true) (abstentionChecks case output).length
  else .ok (flagValue !output.abstainedFromUnsupportedConclusion)

/-- What the synthesis of some specialists is checked for. -/
def synthesisChecks (specialists : SpecialistEvaluationTrace) : List Bool :=
  [output.preservedSpecialistFindingIds.all (· ∈ specialists.availableFindingIds)] ++
    (if specialists.disagreementIds ≠ [] then
      [specialists.disagreementIds.all (· ∈ output.surfacedDisagreementIds)] else []) ++
    (if specialists.unavailableSpecialists ≠ [] ∨ output.degradationReasons ≠ [] then
      [output.degradedStateAcknowledged] else [])

/-- The important findings that the output preserves. -/
def preservedFindings (specialists : SpecialistEvaluationTrace) : Finset Str :=
  specialists.importantFindingIds.toFinset ∩ output.preservedSpecialistFindingIds.toFinset

/-- `_evaluate_synthesis`. -/
def evaluateSynthesis : Except Failure (Option ℚ × Option ℚ) :=
  match output.specialists with
  | none => .ok (none, none)
  | some specialists => do
    let preservation ← divideIfPositive (preservedFindings output specialists).card
      specialists.importantFindingIds.toFinset.card
    let transparency ← divide ((synthesisChecks output specialists).count true)
      (synthesisChecks output specialists).length
    pure (preservation, some transparency)

/-- The observations. -/
def observations : AssessmentQualityObservations where
  identifiedRisks :=
    output.identifiedRisks.insertionSort fun a b => a.category.value ≤ b.category.value
  missingRisks := sortedSet EvaluationRiskCategory.value
    ((expectedCategories case).filter (· ∉ identifiedCategories output))
  unexpectedRisks := sortedSet EvaluationRiskCategory.value
    ((identifiedCategories output).filter (· ∉ expectedCategories case))
  recommendedControls := sortedSet EvaluationControlCategory.value output.recommendedControls
  missingControls := sortedSet EvaluationControlCategory.value
    (case.expectedControls.filter (· ∉ output.recommendedControls))
  governanceRequirements :=
    sortedSet EvaluationGovernanceRequirement.value output.governanceRequirements
  missingGovernanceRequirements := sortedSet EvaluationGovernanceRequirement.value
    (case.expectedGovernanceRequirements.filter (· ∉ output.governanceRequirements))
  architectureCharacteristics :=
    sortedSet ArchitectureCharacteristic.value output.architectureCharacteristics
  missingArchitectureCharacteristics := sortedSet ArchitectureCharacteristic.value
    (case.expectedArchitectureCharacteristics.filter (· ∉ output.architectureCharacteristics))
  unsupportedClaimIds := (claimFindings case output).unsupportedClaims
  missingCitationClaimIds := (claimFindings case output).missingCitations
  invalidCitationClaimIds := (claimFindings case output).invalidCitations
  unacceptableRisksIdentified := sortedSet EvaluationRiskCategory.value
    (case.unacceptableRisks.filter (· ∈ identifiedCategories output))
  humanOversightExpected := case.humanOversightExpected
  humanOversightRecommended := output.humanOversightRecommended
  abstentionExpected := case.abstention.expectation
  uncertaintyAcknowledged := output.uncertaintyAcknowledged
  abstainedFromUnsupportedConclusion := output.abstainedFromUnsupportedConclusion
  validationRecommended := output.validationRecommended
  runStatus := output.runStatus
  degradationReasons := output.degradationReasons

end Parts

/-- How many expected members are found. -/
def common {α : Type} [DecidableEq α] (expected found : List α) : ℕ :=
  (expected.toFinset ∩ found.toFinset).card

end AssessmentEvaluation

open AssessmentEvaluation in
/-- `evaluate_assessment`. -/
def evaluateAssessment (case : AssessmentEvaluationCase) (output : AssessmentEvaluationOutput) :
    Except Failure (AssessmentQualityMetrics × AssessmentQualityObservations) := do
  let matched := (matchedRisks case output).card
  let claimCount := output.claims.length
  let unsupported := (claimFindings case output).unsupportedClaims.length
  let (specialistPreservation, synthesisTransparency) ← evaluateSynthesis output
  let observations := observations case output
  let riskRecall ← divide matched (expectedRisks case).length
  let riskPrecision ← divideOrZero matched (identifiedRisks output).length
  let severityConsistency ← divideIfPositive (severityMatches case output) matched
  let controlCoverage ← divide (common case.expectedControls output.recommendedControls)
    case.expectedControls.toFinset.card
  let governanceCoverage ←
    divide (common case.expectedGovernanceRequirements output.governanceRequirements)
      case.expectedGovernanceRequirements.toFinset.card
  let architectureFitScore ←
    divide (common case.expectedArchitectureCharacteristics output.architectureCharacteristics)
      case.expectedArchitectureCharacteristics.toFinset.card
  let groundedness ← divideIfPositive (claimCount - unsupported) claimCount
  let unsupportedClaimRate ← divideIfPositive unsupported claimCount
  let appropriateAbstentionRate ← abstentionScore case output
  let metrics ← AssessmentQualityMetrics.create
    { riskRecall := some riskRecall
      riskPrecision := some riskPrecision
      severityConsistency
      controlCoverage := some controlCoverage
      governanceCoverage := some governanceCoverage
      humanOversightAccuracy :=
        some (flagValue (output.humanOversightRecommended == case.humanOversightExpected))
      architectureFitScore := some architectureFitScore
      overEngineeringAvoidance :=
        if simpleExpected case then some (flagValue !recommendsExcessiveComplexity output)
        else none
      groundedness
      unsupportedClaimRate
      appropriateAbstentionRate := some appropriateAbstentionRate
      specialistPreservation
      synthesisTransparency }
  pure (metrics, observations)

end AssessmentPlatform
