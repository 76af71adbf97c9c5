import AssessmentPlatform.Evaluation.Models
import AssessmentPlatform.Library.Program
import Mathlib.Data.Finset.Card

/-!
# The assessment benchmark

The case that an assessment is judged against, the normalized output that is judged, and the
metrics. A case and an output carry what their validators check, so only valid ones exist here.
-/

namespace AssessmentPlatform

open Library

/-- The execution paths that are compared. -/
inductive AssessmentEvaluationMode where
  | deterministic | singleAgent | multiAgent
  deriving DecidableEq

/-- The taxonomy of risks. -/
inductive EvaluationRiskCategory where
  | privacy | security | modelRisk | hallucinationGrounding | compliance | operationalRisk
  | accessControl | dataGovernance | thirdPartyVendorRisk | explainability | humanOversight
  | monitoring | auditability
  deriving DecidableEq

/-- The vocabulary of controls. -/
inductive EvaluationControlCategory where
  | retrievalGrounding | roleBasedAccessControl | leastPrivilege | toolAllowlisting
  | humanApproval | escalation | auditLogging | dataMinimization | modelMonitoring
  | outputValidation | fallbackBehavior | versioning | approvalGates | vendorDueDiligence
  | incidentResponse
  deriving DecidableEq

/-- The governance expectations. -/
inductive EvaluationGovernanceRequirement where
  | accountableOwner | documentedUseCase | riskReview | dataUseApproval | vendorOversight
  | humanDecisionAuthority | auditRecord | periodicReview
  deriving DecidableEq

/-- The properties of an architecture. -/
inductive ArchitectureCharacteristic where
  | deterministicSufficient | ragAppropriate | graphRetrievalAppropriate
  | agentWorkflowJustified | multiAgentJustified | multiAgentUnnecessary
  | humanApprovalRequired | externalToolPermissionsConstrained | simplerWorkflowPreferred
  deriving DecidableEq

/-- The text of a risk category. -/
def EvaluationRiskCategory.value : EvaluationRiskCategory → Str
  | .privacy => "privacy"
  | .security => "security"
  | .modelRisk => "model_risk"
  | .hallucinationGrounding => "hallucination_grounding"
  | .compliance => "compliance"
  | .operationalRisk => "operational_risk"
  | .accessControl => "access_control"
  | .dataGovernance => "data_governance"
  | .thirdPartyVendorRisk => "third_party_vendor_risk"
  | .explainability => "explainability"
  | .humanOversight => "human_oversight"
  | .monitoring => "monitoring"
  | .auditability => "auditability"

/-- The text of a control. -/
def EvaluationControlCategory.value : EvaluationControlCategory → Str
  | .retrievalGrounding => "retrieval_grounding"
  | .roleBasedAccessControl => "role_based_access_control"
  | .leastPrivilege => "least_privilege"
  | .toolAllowlisting => "tool_allowlisting"
  | .humanApproval => "human_approval"
  | .escalation => "escalation"
  | .auditLogging => "audit_logging"
  | .dataMinimization => "data_minimization"
  | .modelMonitoring => "model_monitoring"
  | .outputValidation => "output_validation"
  | .fallbackBehavior => "fallback_behavior"
  | .versioning => "versioning"
  | .approvalGates => "approval_gates"
  | .vendorDueDiligence => "vendor_due_diligence"
  | .incidentResponse => "incident_response"

/-- The text of a governance expectation. -/
def EvaluationGovernanceRequirement.value : EvaluationGovernanceRequirement → Str
  | .accountableOwner => "accountable_owner"
  | .documentedUseCase => "documented_use_case"
  | .riskReview => "risk_review"
  | .dataUseApproval => "data_use_approval"
  | .vendorOversight => "vendor_oversight"
  | .humanDecisionAuthority => "human_decision_authority"
  | .auditRecord => "audit_record"
  | .periodicReview => "periodic_review"

/-- The text of a property of an architecture. -/
def ArchitectureCharacteristic.value : ArchitectureCharacteristic → Str
  | .deterministicSufficient => "deterministic_sufficient"
  | .ragAppropriate => "rag_appropriate"
  | .graphRetrievalAppropriate => "graph_retrieval_appropriate"
  | .agentWorkflowJustified => "agent_workflow_justified"
  | .multiAgentJustified => "multi_agent_justified"
  | .multiAgentUnnecessary => "multi_agent_unnecessary"
  | .humanApprovalRequired => "human_approval_required"
  | .externalToolPermissionsConstrained => "external_tool_permissions_constrained"
  | .simplerWorkflowPreferred => "simpler_workflow_preferred"

/-- The severity scale of the benchmark. -/
inductive EvaluationSeverity where
  | low | medium | high | critical
  deriving DecidableEq

/-- Whether a case has enough evidence for a specific conclusion. -/
inductive AbstentionExpectation where
  | required | notRequired
  deriving DecidableEq

/-- The origins of a claim. -/
inductive ClaimSupportSource where
  | assessmentInput | retrievedEvidence | specialistOutput | systemKnowledge
  deriving DecidableEq

/-- The outcome of a run. -/
inductive AssessmentRunStatus where
  | completed | degraded | failed
  deriving DecidableEq

/-- A letter of `a-z` or a digit. -/
def CodePoint.isLowerAlnum (c : CodePoint) : Bool :=
  (97 ≤ c.val && c.val ≤ 122) || (48 ≤ c.val && c.val ≤ 57)

/-- The pattern `^[a-z0-9][a-z0-9_-]{2,99}$`. -/
def Str.isEvaluationId : Str → Bool
  | [] => false
  | c :: rest => c.isLowerAlnum && rest.all (fun d => d.isLowerAlnum || d == 95 || d == 45) &&
      (2 ≤ rest.length && rest.length ≤ 99)

/-- The identity of a claim or of a finding. -/
abbrev EvaluationId := {id : Str // id.isEvaluationId = true}

/-- One expected risk and its severity. -/
structure ExpectedRisk where
  category : EvaluationRiskCategory
  severity : EvaluationSeverity
  deriving DecidableEq

/-- The support that one claim may have. -/
structure ExpectedEvidenceRequirement where
  claimId : EvaluationId
  allowedSources : Finset ClaimSupportSource
  allowedReferenceIds : List Str := []
  allowedSpecialistFindingIds : List Str := []
  allowedSystemKnowledgeCategories : List Str := []
  citationRequired : Bool := false
  allowedSources_nonempty : allowedSources.Nonempty

/-- The expected uncertainty behavior. -/
structure ExpectedAbstentionBehavior where
  expectation : AbstentionExpectation
  uncertaintyAcknowledgmentRequired : Bool := false
  validationRecommendationRequired : Bool := false
  required_behavior : expectation = .required →
    uncertaintyAcknowledgmentRequired = true ∧ validationRecommendationRequired = true := by simp

/-- One normalized risk of an output. -/
structure IdentifiedRisk where
  findingId : EvaluationId
  category : EvaluationRiskCategory
  severity : EvaluationSeverity
  deriving DecidableEq

/-- One asserted support of a claim. -/
structure ClaimSupport where
  source : ClaimSupportSource
  referenceId : Option Str := none
  systemKnowledgeCategory : Option Str := none
  referenceId_bounds : ∀ id ∈ referenceId, 1 ≤ id.length ∧ id.length ≤ 200 := by simp
  systemKnowledgeCategory_bounds :
    ∀ category ∈ systemKnowledgeCategory, 1 ≤ category.length ∧ category.length ≤ 100 := by simp

/-- A claim and its supports. -/
structure AssessmentClaim where
  claimId : EvaluationId
  supports : List ClaimSupport := []
  supports_le : supports.length ≤ 10 := by simp

/-- What the specialists reported. -/
structure SpecialistEvaluationTrace where
  availableFindingIds : List Str := []
  importantFindingIds : List Str := []
  disagreementIds : List Str := []
  unavailableSpecialists : List Str := []
  availableFindingIds_nodup : availableFindingIds.Nodup := by simp
  importantFindingIds_nodup : importantFindingIds.Nodup := by simp
  disagreementIds_nodup : disagreementIds.Nodup := by simp
  importantFindingIds_sub : importantFindingIds ⊆ availableFindingIds := by simp

/-- The normalized output of one mode. -/
structure AssessmentEvaluationOutput where
  identifiedRisks : List IdentifiedRisk := []
  recommendedControls : List EvaluationControlCategory := []
  governanceRequirements : List EvaluationGovernanceRequirement := []
  architectureCharacteristics : List ArchitectureCharacteristic := []
  humanOversightRecommended : Bool
  uncertaintyAcknowledged : Bool
  abstainedFromUnsupportedConclusion : Bool
  validationRecommended : Bool
  claims : List AssessmentClaim := []
  runStatus : AssessmentRunStatus := .completed
  degradationReasons : List Str := []
  specialists : Option SpecialistEvaluationTrace := none
  preservedSpecialistFindingIds : List Str := []
  surfacedDisagreementIds : List Str := []
  degradedStateAcknowledged : Bool := false
  identifiedRisks_nodup : (identifiedRisks.map IdentifiedRisk.category).Nodup := by simp
  recommendedControls_nodup : recommendedControls.Nodup := by simp
  governanceRequirements_nodup : governanceRequirements.Nodup := by simp
  architectureCharacteristics_nodup : architectureCharacteristics.Nodup := by simp
  claims_nodup : (claims.map AssessmentClaim.claimId).Nodup := by simp
  preservedSpecialistFindingIds_nodup : preservedSpecialistFindingIds.Nodup := by simp
  surfacedDisagreementIds_nodup : surfacedDisagreementIds.Nodup := by simp
  degraded_reason : runStatus = .degraded → degradationReasons ≠ [] := by simp
  completed_reasons : runStatus = .completed → degradationReasons = [] := by simp
  synthesis_specialists : specialists = none →
    preservedSpecialistFindingIds = [] ∧ surfacedDisagreementIds = [] := by simp

/-- One scenario with its expected qualities. -/
structure AssessmentEvaluationCase where
  expectedRisks : List ExpectedRisk
  unacceptableRisks : List EvaluationRiskCategory := []
  expectedControls : List EvaluationControlCategory
  expectedGovernanceRequirements : List EvaluationGovernanceRequirement
  expectedArchitectureCharacteristics : List ArchitectureCharacteristic
  humanOversightExpected : Bool
  availableEvidenceIds : List Str := []
  evidenceRequirements : List ExpectedEvidenceRequirement
  abstention : ExpectedAbstentionBehavior
  expectedRisks_ne_nil : expectedRisks ≠ [] := by simp
  expectedControls_ne_nil : expectedControls ≠ [] := by simp
  expectedGovernanceRequirements_ne_nil : expectedGovernanceRequirements ≠ [] := by simp
  expectedArchitectureCharacteristics_ne_nil : expectedArchitectureCharacteristics ≠ [] := by simp
  evidenceRequirements_ne_nil : evidenceRequirements ≠ [] := by simp
  expectedRisks_nodup : (expectedRisks.map ExpectedRisk.category).Nodup := by simp
  unacceptableRisks_nodup : unacceptableRisks.Nodup := by simp
  risks_disjoint : (expectedRisks.map ExpectedRisk.category).Disjoint unacceptableRisks := by simp
  expectedControls_nodup : expectedControls.Nodup := by simp
  expectedGovernanceRequirements_nodup : expectedGovernanceRequirements.Nodup := by simp
  expectedArchitectureCharacteristics_nodup : expectedArchitectureCharacteristics.Nodup := by simp
  availableEvidenceIds_nodup : availableEvidenceIds.Nodup := by simp
  evidenceRequirements_nodup :
    (evidenceRequirements.map ExpectedEvidenceRequirement.claimId).Nodup := by simp
  requirements_available :
    ∀ requirement ∈ evidenceRequirements, requirement.allowedReferenceIds ⊆ availableEvidenceIds
  requirements_citable : ∀ requirement ∈ evidenceRequirements,
    requirement.citationRequired = true → requirement.allowedReferenceIds ≠ []

/-- The names of the metrics. -/
inductive MetricName where
  | riskRecall | riskPrecision | severityConsistency | controlCoverage | governanceCoverage
  | humanOversightAccuracy | architectureFitScore | overEngineeringAvoidance | groundedness
  | unsupportedClaimRate | appropriateAbstentionRate | specialistPreservation
  | synthesisTransparency
  deriving DecidableEq

/-- The metrics, with values of some type. -/
structure QualityMetrics (α : Type) where
  riskRecall : α
  riskPrecision : α
  severityConsistency : α
  controlCoverage : α
  governanceCoverage : α
  humanOversightAccuracy : α
  architectureFitScore : α
  overEngineeringAvoidance : α
  groundedness : α
  unsupportedClaimRate : α
  appropriateAbstentionRate : α
  specialistPreservation : α
  synthesisTransparency : α
  deriving DecidableEq

/-- The metric of a name. -/
def QualityMetrics.get {α : Type} (metrics : QualityMetrics α) : MetricName → α
  | .riskRecall => metrics.riskRecall
  | .riskPrecision => metrics.riskPrecision
  | .severityConsistency => metrics.severityConsistency
  | .controlCoverage => metrics.controlCoverage
  | .governanceCoverage => metrics.governanceCoverage
  | .humanOversightAccuracy => metrics.humanOversightAccuracy
  | .architectureFitScore => metrics.architectureFitScore
  | .overEngineeringAvoidance => metrics.overEngineeringAvoidance
  | .groundedness => metrics.groundedness
  | .unsupportedClaimRate => metrics.unsupportedClaimRate
  | .appropriateAbstentionRate => metrics.appropriateAbstentionRate
  | .specialistPreservation => metrics.specialistPreservation
  | .synthesisTransparency => metrics.synthesisTransparency

/-- Metrics whose present values are validated. -/
abbrev AssessmentQualityMetrics := QualityMetrics (Option Rate)

/-- The validating constructor. -/
def AssessmentQualityMetrics.create (values : QualityMetrics (Option ℚ)) :
    Except Failure AssessmentQualityMetrics := do
  let riskRecall ← Rate.createOptional values.riskRecall
  let riskPrecision ← Rate.createOptional values.riskPrecision
  let severityConsistency ← Rate.createOptional values.severityConsistency
  let controlCoverage ← Rate.createOptional values.controlCoverage
  let governanceCoverage ← Rate.createOptional values.governanceCoverage
  let humanOversightAccuracy ← Rate.createOptional values.humanOversightAccuracy
  let architectureFitScore ← Rate.createOptional values.architectureFitScore
  let overEngineeringAvoidance ← Rate.createOptional values.overEngineeringAvoidance
  let groundedness ← Rate.createOptional values.groundedness
  let unsupportedClaimRate ← Rate.createOptional values.unsupportedClaimRate
  let appropriateAbstentionRate ← Rate.createOptional values.appropriateAbstentionRate
  let specialistPreservation ← Rate.createOptional values.specialistPreservation
  let synthesisTransparency ← Rate.createOptional values.synthesisTransparency
  pure
    { riskRecall, riskPrecision, severityConsistency, controlCoverage, governanceCoverage
      humanOversightAccuracy, architectureFitScore, overEngineeringAvoidance, groundedness
      unsupportedClaimRate, appropriateAbstentionRate, specialistPreservation
      synthesisTransparency }

/-- The facts behind the metrics of one case. -/
structure AssessmentQualityObservations where
  identifiedRisks : List IdentifiedRisk
  missingRisks : List EvaluationRiskCategory
  unexpectedRisks : List EvaluationRiskCategory
  recommendedControls : List EvaluationControlCategory
  missingControls : List EvaluationControlCategory
  governanceRequirements : List EvaluationGovernanceRequirement
  missingGovernanceRequirements : List EvaluationGovernanceRequirement
  architectureCharacteristics : List ArchitectureCharacteristic
  missingArchitectureCharacteristics : List ArchitectureCharacteristic
  unsupportedClaimIds : List EvaluationId
  missingCitationClaimIds : List EvaluationId
  invalidCitationClaimIds : List EvaluationId
  unacceptableRisksIdentified : List EvaluationRiskCategory
  humanOversightExpected : Bool
  humanOversightRecommended : Bool
  abstentionExpected : AbstentionExpectation
  uncertaintyAcknowledged : Bool
  abstainedFromUnsupportedConclusion : Bool
  validationRecommended : Bool
  runStatus : AssessmentRunStatus
  degradationReasons : List Str

/-- Values between zero and one are all validated. -/
theorem AssessmentQualityMetrics.create_ok {values : QualityMetrics (Option ℚ)}
    (h : ∀ name, ∀ x ∈ values.get name, 0 ≤ x ∧ x ≤ 1) :
    ∃ metrics, AssessmentQualityMetrics.create values = .ok metrics ∧
      ∀ name, (metrics.get name).map Subtype.val = values.get name := by
  have hrate : ∀ name, ∃ rate, Rate.createOptional (values.get name) = .ok rate ∧
      rate.map Subtype.val = values.get name :=
    fun name => Rate.exists_createOptional (h name)
  choose rate hok hval using hrate
  refine ⟨{ riskRecall := rate .riskRecall
            riskPrecision := rate .riskPrecision
            severityConsistency := rate .severityConsistency
            controlCoverage := rate .controlCoverage
            governanceCoverage := rate .governanceCoverage
            humanOversightAccuracy := rate .humanOversightAccuracy
            architectureFitScore := rate .architectureFitScore
            overEngineeringAvoidance := rate .overEngineeringAvoidance
            groundedness := rate .groundedness
            unsupportedClaimRate := rate .unsupportedClaimRate
            appropriateAbstentionRate := rate .appropriateAbstentionRate
            specialistPreservation := rate .specialistPreservation
            synthesisTransparency := rate .synthesisTransparency }, ?_, ?_⟩
  · refine except_bind_eq_ok.mpr ⟨_, hok .riskRecall, ?_⟩
    refine except_bind_eq_ok.mpr ⟨_, hok .riskPrecision, ?_⟩
    refine except_bind_eq_ok.mpr ⟨_, hok .severityConsistency, ?_⟩
    refine except_bind_eq_ok.mpr ⟨_, hok .controlCoverage, ?_⟩
    refine except_bind_eq_ok.mpr ⟨_, hok .governanceCoverage, ?_⟩
    refine except_bind_eq_ok.mpr ⟨_, hok .humanOversightAccuracy, ?_⟩
    refine except_bind_eq_ok.mpr ⟨_, hok .architectureFitScore, ?_⟩
    refine except_bind_eq_ok.mpr ⟨_, hok .overEngineeringAvoidance, ?_⟩
    refine except_bind_eq_ok.mpr ⟨_, hok .groundedness, ?_⟩
    refine except_bind_eq_ok.mpr ⟨_, hok .unsupportedClaimRate, ?_⟩
    refine except_bind_eq_ok.mpr ⟨_, hok .appropriateAbstentionRate, ?_⟩
    refine except_bind_eq_ok.mpr ⟨_, hok .specialistPreservation, ?_⟩
    refine except_bind_eq_ok.mpr ⟨_, hok .synthesisTransparency, ?_⟩
    rfl
  · intro name
    cases name <;> exact hval _

end AssessmentPlatform
