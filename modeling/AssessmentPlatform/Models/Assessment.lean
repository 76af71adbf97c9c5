import AssessmentPlatform.Python

/-!
# Assessments

The request that a client submits, the structured result that a workflow produces,
and the lifecycle states of an assessment. A request carries the proofs of its
schema bounds, so only requests that passed validation exist here. Of the result
the fields are kept that the grounding, the gate and the workflows read or write;
the summary stands for the remaining narrative.
-/

namespace AssessmentPlatform

/-- Lifecycle states supported by an assessment. -/
inductive AssessmentStatus where
  | pending | processing | completed | failed | pendingReview
  deriving DecidableEq

/-- Severity of an identified enterprise risk. -/
inductive RiskSeverity where
  | low | medium | high | critical
  deriving DecidableEq

/-- Whether a structured assessment used retrieved external knowledge. -/
inductive ExternalEvidenceStatus where
  | retrieved | notRetrieved
  deriving DecidableEq

/-- A validated `AssessmentRequest`. Its model strips every string before it checks
the length, so the stored values are stripped and within their bounds. -/
structure AssessmentRequest where
  companyName : Str
  organizationDescription : Option Str
  industry : Str
  businessProblem : Str
  currentProcess : Option Str
  painPoints : List Str
  desiredOutcome : Str
  constraints : List Str
  additionalContext : Option Str
  companyName_accepted : Str.ValidWithin 200 companyName
  organizationDescription_accepted : ∀ s ∈ organizationDescription, Str.ValidWithin 2000 s
  industry_accepted : Str.ValidWithin 120 industry
  businessProblem_accepted : Str.ValidWithin 2000 businessProblem
  currentProcess_accepted : ∀ s ∈ currentProcess, Str.ValidWithin 4000 s
  painPoints_accepted : painPoints.length ≤ 20 ∧ ∀ s ∈ painPoints, Str.ValidWithin 500 s
  desiredOutcome_accepted : Str.ValidWithin 2000 desiredOutcome
  constraints_accepted : constraints.length ≤ 20 ∧ ∀ s ∈ constraints, Str.ValidWithin 500 s
  additionalContext_accepted : ∀ s ∈ additionalContext, Str.ValidWithin 4000 s
  deriving DecidableEq

/-- The smallest valid request: each required field has one letter. -/
def AssessmentRequest.minimal : AssessmentRequest where
  companyName := [65]
  organizationDescription := none
  industry := [65]
  businessProblem := [65]
  currentProcess := none
  painPoints := []
  desiredOutcome := [65]
  constraints := []
  additionalContext := none
  companyName_accepted := by decide
  organizationDescription_accepted := Str.validWithin_none
  industry_accepted := by decide
  businessProblem_accepted := by decide
  currentProcess_accepted := by simp
  painPoints_accepted := by simp
  desiredOutcome_accepted := by decide
  constraints_accepted := by simp
  additionalContext_accepted := by simp

/-- A delivery or operational risk and its proposed mitigation. -/
structure AssessmentRisk where
  severity : RiskSeverity
  mitigation : Str
  deriving DecidableEq

/-- Reference to retrieved evidence without reproducing source content. -/
structure SourceReference where
  documentId : UUID
  chunkId : UUID
  documentTitle : Str
  deriving DecidableEq

/-- The structured assessment. `reviewRecommended` is the field
`human_oversight.review_recommended`. -/
structure AssessmentResult where
  executiveSummary : Str
  risks : List AssessmentRisk
  reviewRecommended : Bool
  informationGaps : List Str
  externalEvidenceStatus : ExternalEvidenceStatus := .notRetrieved
  sourceReferences : List SourceReference := []
  deriving DecidableEq

end AssessmentPlatform
