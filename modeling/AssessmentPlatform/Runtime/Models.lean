import AssessmentPlatform.Models.Assessment
import AssessmentPlatform.Agents.Models

/-!
# Runtime governance contracts

The vocabulary of the runtime gate and of human review, the policy, the signals that
the gate evaluates, the operational telemetry, and the persisted checkpoint. A gate
result carries the agreement of its flags with its decision, which its validator
enforces.
-/

namespace AssessmentPlatform

/-- Centralized post-validation gate outcomes. -/
inductive RuntimeRiskDecision where
  | autoComplete | completeWithWarning | requireHumanReview | blockAndEscalate
  deriving DecidableEq

/-- The persisted value of a gate outcome. -/
def RuntimeRiskDecision.value : RuntimeRiskDecision → Str
  | .autoComplete => "auto_complete"
  | .completeWithWarning => "complete_with_warning"
  | .requireHumanReview => "require_human_review"
  | .blockAndEscalate => "block_and_escalate"

/-- Small policy-neutral risk scale. -/
inductive RuntimeRiskLevel where
  | low | medium | high | critical
  deriving DecidableEq

/-- The position of a level in the declaration order, `list(RuntimeRiskLevel).index`. -/
def RuntimeRiskLevel.index : RuntimeRiskLevel → ℕ
  | .low => 0
  | .medium => 1
  | .high => 2
  | .critical => 3

/-- Machine-readable explanations for non-automatic outcomes. -/
inductive RuntimeReasonCode where
  | mediumRisk | highRisk | criticalRisk | insufficientEvidence | invalidProvenance
  | degradedExecution | specialistUnavailable | missingHumanOversight | missingRiskMitigation
  | unsupportedClaim | modelFailure | toolFailure | retrievalFailure | qualityGateFailed
  deriving DecidableEq

/-- Persisted lifecycle of the application-level review boundary. -/
inductive HumanReviewStatus where
  | notRequired | pending | approved | rejected | revisionRequested
  deriving DecidableEq

/-- The persisted value of a review status. -/
def HumanReviewStatus.value : HumanReviewStatus → Str
  | .notRequired => "not_required"
  | .pending => "pending"
  | .approved => "approved"
  | .rejected => "rejected"
  | .revisionRequested => "revision_requested"

/-- Immutable-style audit event actions. -/
inductive HumanReviewAction where
  | requested | approved | rejected | revisionRequested | revisionSubmitted
  deriving DecidableEq

/-- Public-safe health of an assessment execution. -/
inductive ExecutionHealth where
  | full | degraded | blocked | pendingHumanReview
  deriving DecidableEq

/-- Safe event vocabulary of the telemetry. -/
inductive RuntimeTraceEventType where
  | assessmentStarted | retrievalStarted | retrievalCompleted | agentStarted | agentCompleted
  | toolStarted | toolCompleted | retry | timeout | qualityGateEvaluated
  | humanReviewRequested | humanReviewResumed | humanReviewApproved | humanReviewRejected
  | revisionRequested | assessmentCompleted | assessmentFailed
  deriving DecidableEq

/-- One compact telemetry event. -/
structure RuntimeTraceEvent where
  timestamp : Time
  requestId : Option RequestId := none
  eventType : RuntimeTraceEventType
  component : Str
  status : Str
  durationMs : Option ℕ := none
  reasonCode : Option RuntimeReasonCode := none
  deriving DecidableEq

/-- Provider usage when available; absent counters remain absent. -/
structure ProviderTokenUsage where
  inputTokens : Option ℕ := none
  outputTokens : Option ℕ := none
  totalTokens : Option ℕ := none
  deriving DecidableEq

/-- Structured per-assessment telemetry. Costs are exact rationals. -/
structure OperationalTelemetry where
  requestId : Option RequestId := none
  executionMode : Str
  executionHealth : ExecutionHealth
  totalDurationMs : ℤ
  executionDurationMs : ℤ
  humanWaitDurationMs : Option ℤ := none
  retrievalDurationMs : Option ℕ := none
  synthesisDurationMs : Option ℕ := none
  modelCallCount : Option ℕ := none
  modelCallDurationsMs : List ℕ := []
  embeddingCallCount : Option ℕ := none
  toolCallCount : ℕ
  graphRetrievalUsed : Bool
  vectorRetrievalUsed : Bool
  specialistDurationsMs : Option MultiAgentDurations := none
  retryCount : ℕ := 0
  timeoutCount : ℕ := 0
  degradedStateCount : ℕ := 0
  humanReviewStatus : HumanReviewStatus
  terminationReason : Str
  tokenUsage : Option ProviderTokenUsage := none
  estimatedCost : Option ℚ := none
  events : List RuntimeTraceEvent := []
  deriving DecidableEq

/-- The numeric limits that `OperationalTelemetry` validates. The remaining counters
are natural numbers, and the remaining texts are constants within their limits. -/
def OperationalTelemetry.Valid (t : OperationalTelemetry) : Prop :=
  0 ≤ t.totalDurationMs ∧ 0 ≤ t.executionDurationMs ∧
    (∀ ms ∈ t.humanWaitDurationMs, 0 ≤ ms) ∧ ∀ cost ∈ t.estimatedCost, 0 ≤ cost

instance (t : OperationalTelemetry) : Decidable t.Valid :=
  inferInstanceAs (Decidable (_ ∧ _ ∧ _ ∧ _))

/-- Configurable internal policy. -/
structure RuntimeRiskPolicy where
  mediumRiskDecision : RuntimeRiskDecision := .completeWithWarning
  highRiskDecision : RuntimeRiskDecision := .requireHumanReview
  criticalRiskDecision : RuntimeRiskDecision := .blockAndEscalate
  reviewOnInsufficientEvidence : Bool := true
  reviewOnDegradedExecution : Bool := true
  reviewOnSpecialistUnavailable : Bool := true
  reviewOnToolFailure : Bool := true
  blockHighRiskInvalidProvenance : Bool := true
  blockCriticalMissingMitigation : Bool := true
  maxHumanRevisions : ℕ := 2
  maxHumanRevisions_le : maxHumanRevisions ≤ 10 := by decide

/-- The policy of the default settings. -/
def RuntimeRiskPolicy.default : RuntimeRiskPolicy := {}

/-- Lightweight structured inputs derived from one generated assessment. -/
structure QualityGateSignals where
  riskLevel : RuntimeRiskLevel
  evidenceRequired : Bool := false
  evidenceAvailable : Bool := false
  provenanceValid : Bool := true
  unsupportedClaimsDetected : Bool := false
  degradedExecution : Bool := false
  specialistUnavailable : Bool := false
  retrievalFailed : Bool := false
  toolFailed : Bool := false
  modelFailed : Bool := false
  humanOversightRequired : Bool := false
  humanOversightPresent : Bool := true
  mitigationsComplete : Bool := true
  deriving DecidableEq

/-- The fields that a caller of the service may override in the derived signals. -/
structure SignalOverrides where
  riskLevel : Option RuntimeRiskLevel := none
  evidenceRequired : Option Bool := none
  evidenceAvailable : Option Bool := none
  provenanceValid : Option Bool := none
  unsupportedClaimsDetected : Option Bool := none
  degradedExecution : Option Bool := none
  specialistUnavailable : Option Bool := none
  retrievalFailed : Option Bool := none
  toolFailed : Option Bool := none
  modelFailed : Option Bool := none
  humanOversightRequired : Option Bool := none
  humanOversightPresent : Option Bool := none
  mitigationsComplete : Option Bool := none

/-- `signals.model_copy(update=signal_overrides)`. -/
def QualityGateSignals.override (s : QualityGateSignals) (o : SignalOverrides) :
    QualityGateSignals where
  riskLevel := o.riskLevel.getD s.riskLevel
  evidenceRequired := o.evidenceRequired.getD s.evidenceRequired
  evidenceAvailable := o.evidenceAvailable.getD s.evidenceAvailable
  provenanceValid := o.provenanceValid.getD s.provenanceValid
  unsupportedClaimsDetected := o.unsupportedClaimsDetected.getD s.unsupportedClaimsDetected
  degradedExecution := o.degradedExecution.getD s.degradedExecution
  specialistUnavailable := o.specialistUnavailable.getD s.specialistUnavailable
  retrievalFailed := o.retrievalFailed.getD s.retrievalFailed
  toolFailed := o.toolFailed.getD s.toolFailed
  modelFailed := o.modelFailed.getD s.modelFailed
  humanOversightRequired := o.humanOversightRequired.getD s.humanOversightRequired
  humanOversightPresent := o.humanOversightPresent.getD s.humanOversightPresent
  mitigationsComplete := o.mitigationsComplete.getD s.mitigationsComplete

/-- Explainable runtime decision and contributing reason codes. The two flags agree
with the decision, as `validate_decision_flags` demands. -/
structure QualityGateResult where
  decision : RuntimeRiskDecision
  riskLevel : RuntimeRiskLevel
  reasonCodes : List RuntimeReasonCode
  reviewRequired : Bool
  blocked : Bool
  reviewRequired_eq : reviewRequired = decide (decision = .requireHumanReview)
  blocked_eq : blocked = decide (decision = .blockAndEscalate)
  deriving DecidableEq

/-- Bounded untrusted reviewer action input. -/
structure HumanReviewRequest where
  reviewerId : Option Str := none
  comment : Option Str := none
  reviewerId_accepted : ∀ s ∈ reviewerId, Str.ValidWithin 100 s := by simp
  comment_accepted : ∀ s ∈ comment, Str.ValidWithin 2000 s := by simp

/-- A review action without a comment is accepted. -/
theorem HumanReviewRequest.comment_unset : ∀ s ∈ (none : Option Str), Str.ValidWithin 2000 s :=
  Str.validWithin_none

/-- A review action without a legacy identifier and without a comment. -/
def HumanReviewRequest.blank : HumanReviewRequest where
  reviewerId_accepted := Str.validWithin_none
  comment_accepted := HumanReviewRequest.comment_unset

/-- Roles of an authenticated principal. -/
inductive Role where
  | analyst | reviewer | admin
  deriving DecidableEq

/-- The persisted value of a role. -/
def Role.value : Role → Str
  | .analyst => "analyst"
  | .reviewer => "reviewer"
  | .admin => "admin"

/-- Typed, provider-neutral identity claims. The frozen set of roles is a list here,
of which only membership is used. -/
structure AuthenticatedPrincipal where
  subject : Str
  email : Option Str := none
  roles : List Role
  issuer : Str
  subject_bounds : 0 < subject.length ∧ subject.length ≤ 255
  email_le : ∀ s ∈ email, s.length ≤ 320
  roles_nonempty : roles ≠ []
  issuer_bounds : 0 < issuer.length ∧ issuer.length ≤ 255

/-- The strongest role of a principal, as audit events record it. -/
def AuthenticatedPrincipal.auditRole (p : AuthenticatedPrincipal) : Role :=
  if .admin ∈ p.roles then .admin
  else if .reviewer ∈ p.roles then .reviewer
  else .analyst

/-- Immutable-style persisted audit record. -/
structure HumanReviewRecord where
  reviewId : UUID
  assessmentId : UUID
  action : HumanReviewAction
  previousStatus : HumanReviewStatus
  newStatus : HumanReviewStatus
  reviewerId : Option Str
  reviewerSubject : Option Str := none
  reviewerEmail : Option Str := none
  reviewerRole : Option Str := none
  reviewerIssuer : Option Str := none
  requestId : Option RequestId := none
  comment : Option Str
  reasonCodes : List RuntimeReasonCode
  revisionNumber : ℕ
  createdAt : Time
  deriving DecidableEq

/-- Persisted checkpoint state sufficient to resume finalization. -/
structure RuntimeAssessmentState where
  assessmentId : UUID
  gateResult : QualityGateResult
  reviewStatus : HumanReviewStatus
  candidateResult : Option AssessmentResult := none
  candidateExecution : Option ExecutionMetadata := none
  telemetry : OperationalTelemetry
  revisionCount : ℕ
  maxRevisions : ℕ
  createdAt : Time
  updatedAt : Time
  deriving DecidableEq

/-- Review transition result returned to API callers. -/
structure HumanReviewDecision where
  assessmentId : UUID
  action : HumanReviewAction
  reviewStatus : HumanReviewStatus
  assessmentStatus : AssessmentStatus
  revisionCount : ℕ
  deriving DecidableEq

end AssessmentPlatform
