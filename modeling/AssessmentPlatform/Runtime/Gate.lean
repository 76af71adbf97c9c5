import AssessmentPlatform.Runtime.Models
import Mathlib.Order.MinMax

/-!
# The runtime risk and quality gate

`RuntimeRiskGate.evaluate` starts from the decision that the policy assigns to the
risk level, raises it to a block or to a human review, and lists every contributing
reason. The order of the overrides matters to the code; the lemmas here restate the
outcome without it: the priority of the decision is a maximum of two terms, and both
are monotone in the signals.
-/

namespace AssessmentPlatform

/-- The decision that the policy assigns to a risk level (`_risk_decision`). -/
def riskDecision (riskLevel : RuntimeRiskLevel) (policy : RuntimeRiskPolicy) :
    RuntimeRiskDecision :=
  if riskLevel = .critical then policy.criticalRiskDecision
  else if riskLevel = .high then policy.highRiskDecision
  else if riskLevel = .medium then policy.mediumRiskDecision
  else .autoComplete

/-- The reason that the risk level itself contributes; a low level gives none. -/
def riskLevelReason : RuntimeRiskLevel → List RuntimeReasonCode
  | .medium => [.mediumRisk]
  | .high => [.highRisk]
  | .critical => [.criticalRisk]
  | .low => []

/-- Every contributing reason, in the order in which the gate appends them
(`_reason_codes`). -/
def reasonCodes (signals : QualityGateSignals) : List RuntimeReasonCode :=
  riskLevelReason signals.riskLevel ++
  (if signals.evidenceRequired && !signals.evidenceAvailable then [.insufficientEvidence]
    else []) ++
  (if !signals.provenanceValid then [.invalidProvenance] else []) ++
  (if signals.degradedExecution then [.degradedExecution] else []) ++
  (if signals.specialistUnavailable then [.specialistUnavailable] else []) ++
  (if signals.humanOversightRequired && !signals.humanOversightPresent then
    [.missingHumanOversight] else []) ++
  (if !signals.mitigationsComplete then [.missingRiskMitigation] else []) ++
  (if signals.unsupportedClaimsDetected then [.unsupportedClaim] else []) ++
  (if signals.modelFailed then [.modelFailure] else []) ++
  (if signals.toolFailed then [.toolFailure] else []) ++
  (if signals.retrievalFailed then [.retrievalFailure] else [])

/-- The strength of a decision (`_priority`). -/
def RuntimeRiskDecision.priority : RuntimeRiskDecision → ℕ
  | .autoComplete => 0
  | .completeWithWarning => 1
  | .requireHumanReview => 2
  | .blockAndEscalate => 3

/-- The conditions under which the gate asks for a human review. -/
def reviewConditions (policy : RuntimeRiskPolicy) (signals : QualityGateSignals) : List Bool :=
  [signals.evidenceRequired && !signals.evidenceAvailable && policy.reviewOnInsufficientEvidence,
    signals.degradedExecution && policy.reviewOnDegradedExecution,
    signals.specialistUnavailable && policy.reviewOnSpecialistUnavailable,
    signals.toolFailed && policy.reviewOnToolFailure,
    signals.retrievalFailed && policy.reviewOnInsufficientEvidence,
    signals.humanOversightRequired && !signals.humanOversightPresent,
    signals.unsupportedClaimsDetected]

/-- The decision of `evaluate`: the policy's decision for the level, overridden by the
blocks and then, if it is still weaker, by the review conditions. -/
def gateDecision (policy : RuntimeRiskPolicy) (signals : QualityGateSignals) :
    RuntimeRiskDecision :=
  let decision := riskDecision signals.riskLevel policy
  let decision := if signals.modelFailed then .blockAndEscalate else decision
  let decision :=
    if !signals.provenanceValid && policy.blockHighRiskInvalidProvenance &&
        (signals.riskLevel = .high || signals.riskLevel = .critical) then
      .blockAndEscalate
    else decision
  let decision :=
    if !signals.mitigationsComplete && policy.blockCriticalMissingMitigation &&
        signals.riskLevel = .critical then
      .blockAndEscalate
    else decision
  if (reviewConditions policy signals).any id &&
      decision.priority < RuntimeRiskDecision.requireHumanReview.priority then
    .requireHumanReview
  else decision

/-- The strongest justified outcome and every contributing reason. -/
def evaluate (policy : RuntimeRiskPolicy) (signals : QualityGateSignals) : QualityGateResult :=
  let decision := gateDecision policy signals
  ⟨decision, signals.riskLevel, reasonCodes signals, decide (decision = .requireHumanReview),
    decide (decision = .blockAndEscalate), rfl, rfl⟩

/-- There are four priorities. -/
theorem RuntimeRiskDecision.priority_le (d : RuntimeRiskDecision) : d.priority ≤ 3 := by
  cases d <;> decide

/-- The three conditions under which the gate blocks regardless of the policy's
decision for the level. -/
def blockCondition (policy : RuntimeRiskPolicy) (s : QualityGateSignals) : Bool :=
  s.modelFailed ||
    (!s.provenanceValid && policy.blockHighRiskInvalidProvenance &&
      (s.riskLevel = .high || s.riskLevel = .critical)) ||
    (!s.mitigationsComplete && policy.blockCriticalMissingMitigation && s.riskLevel = .critical)

/-- The outcome without the order of the overrides: a block has the highest priority,
and a review condition raises every other decision to at least a review. -/
theorem evaluate_priority (policy : RuntimeRiskPolicy) (s : QualityGateSignals) :
    (evaluate policy s).decision.priority =
      max (if blockCondition policy s then 3 else (riskDecision s.riskLevel policy).priority)
        (if (reviewConditions policy s).any id then 2 else 0) := by
  change (gateDecision policy s).priority = _
  unfold gateDecision blockCondition
  generalize riskDecision s.riskLevel policy = base
  generalize (reviewConditions policy s).any id = review
  generalize (!s.provenanceValid && policy.blockHighRiskInvalidProvenance &&
    (s.riskLevel = .high || s.riskLevel = .critical)) = provenance
  generalize (!s.mitigationsComplete && policy.blockCriticalMissingMitigation &&
    s.riskLevel = .critical) = mitigation
  generalize s.modelFailed = model
  cases model <;> cases provenance <;> cases mitigation <;> cases review <;> cases base <;> rfl

/-- The signals `s'` are at least as alarming as `s` in every field that the gate
reads. -/
structure QualityGateSignals.LE (s s' : QualityGateSignals) : Prop where
  riskLevel : s.riskLevel.index ≤ s'.riskLevel.index
  evidenceRequired : s.evidenceRequired = true → s'.evidenceRequired = true
  evidenceAvailable : s'.evidenceAvailable = true → s.evidenceAvailable = true
  provenanceValid : s'.provenanceValid = true → s.provenanceValid = true
  unsupportedClaimsDetected :
    s.unsupportedClaimsDetected = true → s'.unsupportedClaimsDetected = true
  degradedExecution : s.degradedExecution = true → s'.degradedExecution = true
  specialistUnavailable : s.specialistUnavailable = true → s'.specialistUnavailable = true
  retrievalFailed : s.retrievalFailed = true → s'.retrievalFailed = true
  toolFailed : s.toolFailed = true → s'.toolFailed = true
  modelFailed : s.modelFailed = true → s'.modelFailed = true
  humanOversightRequired : s.humanOversightRequired = true → s'.humanOversightRequired = true
  humanOversightPresent : s'.humanOversightPresent = true → s.humanOversightPresent = true
  mitigationsComplete : s'.mitigationsComplete = true → s.mitigationsComplete = true

/-- The decisions of the policy do not get weaker as the risk level rises. -/
def RuntimeRiskPolicy.Monotone (policy : RuntimeRiskPolicy) : Prop :=
  policy.mediumRiskDecision.priority ≤ policy.highRiskDecision.priority ∧
    policy.highRiskDecision.priority ≤ policy.criticalRiskDecision.priority

instance (policy : RuntimeRiskPolicy) : Decidable policy.Monotone :=
  inferInstanceAs (Decidable (_ ∧ _))

/-- The codes that only restate the risk level. -/
def RuntimeReasonCode.isRiskLevel : RuntimeReasonCode → Bool
  | .mediumRisk | .highRisk | .criticalRisk => true
  | _ => false

/-- A higher level never gets a weaker decision from a monotone policy. -/
theorem riskDecision_mono {policy : RuntimeRiskPolicy} (hpolicy : policy.Monotone)
    {l l' : RuntimeRiskLevel} (h : l.index ≤ l'.index) :
    (riskDecision l policy).priority ≤ (riskDecision l' policy).priority := by
  obtain ⟨hmedium, hhigh⟩ := hpolicy
  cases l <;> cases l' <;>
    simp_all [riskDecision, RuntimeRiskLevel.index, RuntimeRiskDecision.priority]
  exact hmedium.trans hhigh

/-- With worse signals no condition of a review goes away. -/
theorem reviewConditions_mono {policy : RuntimeRiskPolicy} {s s' : QualityGateSignals}
    (h : s.LE s') (hs : (reviewConditions policy s).any id = true) :
    (reviewConditions policy s').any id = true := by
  obtain ⟨-, h1, h2, -, h3, h4, h5, h6, h7, -, h8, h9, -⟩ := h
  simp only [reviewConditions, List.any_cons, List.any_nil, id, Bool.or_eq_true, Bool.and_eq_true,
    Bool.not_eq_true'] at hs ⊢
  grind

/-- With worse signals the condition of a block does not go away. -/
theorem blockCondition_mono {policy : RuntimeRiskPolicy} {s s' : QualityGateSignals}
    (h : s.LE s') (hs : blockCondition policy s = true) : blockCondition policy s' = true := by
  obtain ⟨hlevel, -, -, h1, -, -, -, -, -, h2, -, -, h3⟩ := h
  simp only [blockCondition, Bool.or_eq_true, Bool.and_eq_true, Bool.not_eq_true',
    decide_eq_true_eq] at hs ⊢
  cases hl : s.riskLevel <;> cases hl' : s'.riskLevel <;>
    simp_all [RuntimeRiskLevel.index] <;> grind

/-- More alarming signals never lower the priority of the decision. -/
theorem evaluate_mono {policy : RuntimeRiskPolicy} (hpolicy : policy.Monotone)
    {s s' : QualityGateSignals} (h : s.LE s') :
    (evaluate policy s).decision.priority ≤ (evaluate policy s').decision.priority := by
  rw [evaluate_priority, evaluate_priority]
  apply max_le_max
  · have hbase := riskDecision_mono hpolicy h.riskLevel
    have hle := (riskDecision s.riskLevel policy).priority_le
    by_cases hb : blockCondition policy s = true
    · simp [hb, blockCondition_mono h hb]
    · rw [if_neg hb]
      split <;> omega
  · by_cases hr : (reviewConditions policy s).any id = true
    · rw [if_pos hr, if_pos (reviewConditions_mono h hr)]
    · rw [if_neg hr]
      exact Nat.zero_le _

/-- More alarming signals keep every reason except the one for the level. -/
theorem reasonCodes_mono {s s' : QualityGateSignals} (h : s.LE s') {code : RuntimeReasonCode}
    (hcode : code.isRiskLevel = false) (hmem : code ∈ reasonCodes s) : code ∈ reasonCodes s' := by
  obtain ⟨-, h1, h2, h3, h4, h5, h6, h7, h8, h9, h10, h11, h12⟩ := h
  cases code <;> simp [RuntimeReasonCode.isRiskLevel] at hcode <;>
    simp [reasonCodes, riskLevelReason] at hmem ⊢ <;> grind

/-- A decision other than automatic completion is always explained. -/
theorem reasonCodes_ne_nil {policy : RuntimeRiskPolicy} {s : QualityGateSignals}
    (h : (evaluate policy s).decision ≠ .autoComplete) : (evaluate policy s).reasonCodes ≠ [] := by
  intro hnil
  apply h
  have hcodes : reasonCodes s = [] := hnil
  simp only [reasonCodes, List.append_eq_nil_iff, ite_eq_right_iff, List.cons_ne_self,
    imp_false, Bool.and_eq_true, Bool.not_eq_true', not_and, Bool.not_eq_false,
    Bool.not_eq_true] at hcodes
  obtain ⟨⟨⟨⟨⟨⟨⟨⟨⟨⟨hlevel, hevidence⟩, hprovenance⟩, hdegraded⟩, hspecialist⟩, hoversight⟩,
    hmitigation⟩, hclaims⟩, hmodel⟩, htool⟩, hretrieval⟩ := hcodes
  have hlow : s.riskLevel = .low := by
    cases hl : s.riskLevel <;> simp_all [riskLevelReason]
  have hzero : (evaluate policy s).decision.priority = 0 := by
    rw [evaluate_priority]
    have hblock : blockCondition policy s = false := by
      simp [blockCondition, hmodel, hprovenance, hmitigation]
    have hreview : (reviewConditions policy s).any id = false := by
      simp only [reviewConditions, List.any_cons, List.any_nil, id, hdegraded, hspecialist, htool,
        hretrieval, hclaims, Bool.false_and, Bool.or_false, Bool.false_or]
      cases he : s.evidenceRequired <;> cases ho : s.humanOversightRequired <;> simp_all
    simp [hblock, hreview, hlow, riskDecision, RuntimeRiskDecision.priority]
  cases hd : (evaluate policy s).decision <;> simp_all [RuntimeRiskDecision.priority]

end AssessmentPlatform
