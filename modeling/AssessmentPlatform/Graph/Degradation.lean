import AssessmentPlatform.Governance.Runs
import AssessmentPlatform.Graph.Convergence

/-!
# Degraded runs are reviewed

A multi-agent run that completes without one of its specialists says so everywhere: in the
mode, in the status and the error code of the specialist, and in the information gaps of
its result. Handed to the gate, its candidate is never completed automatically.
-/

namespace AssessmentPlatform

open Library

/-- The exception that an outcome carries. -/
def failureOf {α : Type} : Except Failure α → Option Failure
  | .ok _ => none
  | .error e => some e

/-- The exception that a specialist has raised before the synthesis. -/
def Specialists.failure (agents : Specialists) (request : AssessmentRequest) :
    MultiAgentName → Option Failure
  | .evidence => failureOf (agents.gather request)
  | .architecture => failureOf (agents.architecture request)
  | .riskGovernance => failureOf (agents.riskGovernance request)
  | .synthesis => none

/-- The recorded status of a specialist. -/
def MultiAgentStatuses.status (s : MultiAgentStatuses) : MultiAgentName → MultiAgentStatus
  | .evidence => s.evidence
  | .architecture => s.architecture
  | .riskGovernance => s.riskGovernance
  | .synthesis => s.synthesis

/-- The recorded error code of a specialist. -/
def MultiAgentErrors.code (s : MultiAgentErrors) : MultiAgentName → Option Str
  | .evidence => s.evidence
  | .architecture => s.architecture
  | .riskGovernance => s.riskGovernance
  | .synthesis => s.synthesis

/-- The status of an agent is one of the statuses. -/
theorem MultiAgentStatuses.status_mem (s : MultiAgentStatuses) (name : MultiAgentName) :
    s.status name ∈ s.values := by
  cases name <;> simp [MultiAgentStatuses.status, MultiAgentStatuses.values]

/-! ## What the run records -/

section Record

variable {α : Type} {r : Except Failure α} {e : Failure}

/-- A specialist with a failure has failed. -/
theorem statusOf_of_failure (h : failureOf r = some e) : statusOf r = .failed := by
  cases r with
  | ok a => cases h
  | error e => rfl

/-- The error of a failure is its safe code. -/
theorem errorOf_of_failure (h : failureOf r = some e) : errorOf r = some (safeErrorCode e) := by
  cases r with
  | ok a => cases h
  | error e' =>
    cases h
    rfl

/-- No recorded code has whitespace at its ends. -/
theorem trim_safeErrorCode (e : Failure) : (safeErrorCode e).trim = safeErrorCode e := by
  have hother : (Str.ofString "specialist_generation_failed").Valid :=
    Str.valid_ofList _ (by decide +kernel)
  cases e with
  | application e => cases e <;> exact (Str.valid_ofList _ (by decide +kernel)).2
  | _ => exact hother.2

end Record

section Run

variable {agents : Specialists} {request : AssessmentRequest} {maxFailures : ℤ}
  {output : AgentWorkflowOutput MultiAgentExecutionMetadata} {name : MultiAgentName} {e : Failure}

/-- A run that returns is one of which all fields are known. -/
theorem multiAgentRun_of_ok (h : runMultiAgent agents maxFailures request = .ok output) :
    MultiAgentRun agents request output := by
  rcases runMultiAgent_cases agents maxFailures request with
    ⟨-, e, herror⟩ | ⟨-, ⟨-, e, herror⟩ | ⟨-, ⟨-, e, -, herror⟩ | ⟨output', hok, hrun⟩⟩⟩
  · cases h.symm.trans herror
  · cases h.symm.trans herror
  · cases h.symm.trans herror
  · cases h.symm.trans hok
    exact hrun

/-- A failed specialist gives a degradation reason. -/
theorem Specialists.reasons_ne_nil (h : agents.failure request name = some e) :
    agents.reasons request ≠ [] := by
  unfold Specialists.reasons
  cases name with
  | evidence => simp [errorOf_of_failure h]
  | architecture => simp [errorOf_of_failure h]
  | riskGovernance => simp [errorOf_of_failure h]
  | synthesis => cases h

/-- No degradation reason has whitespace at its ends. -/
theorem Specialists.trim_of_mem_reasons {reason : Str} (h : reason ∈ agents.reasons request) :
    reason.trim = reason := by
  simp only [Specialists.reasons, List.mem_append, List.mem_ite_nil_right, List.mem_singleton] at h
  rcases h with (⟨-, rfl⟩ | ⟨-, rfl⟩) | ⟨-, rfl⟩
  all_goals exact (Str.valid_ofList _ (by decide +kernel)).2

namespace MultiAgentRun

variable (run : MultiAgentRun agents request output)

include run

/-- With a failure the execution is degraded. -/
theorem degradedMode_of_failure (h : agents.failure request name = some e) :
    output.execution.degradedMode = true := by
  rw [run.degradedMode_eq]
  simpa using Specialists.reasons_ne_nil h

/-- The status of a specialist with a failure says so. -/
theorem status_of_failure (h : agents.failure request name = some e) :
    output.execution.agentStatuses.status name = .failed := by
  rw [run.statuses_eq]
  cases name with
  | evidence => exact statusOf_of_failure h
  | architecture => exact statusOf_of_failure h
  | riskGovernance => exact statusOf_of_failure h
  | synthesis => cases h

/-- The error of a specialist with a failure is its safe code. -/
theorem code_of_failure (h : agents.failure request name = some e) :
    output.execution.agentErrors.code name = some (safeErrorCode e) := by
  rw [run.errors_eq]
  have htrim : (some (safeErrorCode e)).map Str.trim = some (safeErrorCode e) :=
    congrArg some (trim_safeErrorCode e)
  cases name with
  | evidence => exact (congrArg _ (errorOf_of_failure h)).trans htrim
  | architecture => exact (congrArg _ (errorOf_of_failure h)).trans htrim
  | riskGovernance => exact (congrArg _ (errorOf_of_failure h)).trans htrim
  | synthesis => cases h

/-- Every recorded reason is a limitation of the result. -/
theorem limitation_mem {reason : Str} (h : reason ∈ output.execution.degradationReasons) :
    limitation reason ∈ output.result.informationGaps := by
  rw [run.degradationReasons_eq] at h
  obtain ⟨reason', hreason', rfl⟩ := List.mem_map.mp h
  rw [Specialists.trim_of_mem_reasons hreason']
  obtain ⟨result, -, hresult⟩ := run.result_eq
  rw [hresult]
  exact List.mem_append_right _ (List.mem_map_of_mem hreason')

end MultiAgentRun

end Run

/-! ## What the gate decides -/

/-- A policy that sends degraded or incomplete executions to review. -/
def RuntimeRiskPolicy.ReviewsDegradation (policy : RuntimeRiskPolicy) : Prop :=
  policy.reviewOnSpecialistUnavailable = true ∨ policy.reviewOnDegradedExecution = true

/-- A decision of at least the priority of a review is a review or a block. -/
theorem RuntimeRiskDecision.review_or_block {d : RuntimeRiskDecision} (h : 2 ≤ d.priority) :
    d = .requireHumanReview ∨ d = .blockAndEscalate := by
  cases d <;> simp [RuntimeRiskDecision.priority] at h ⊢

/-- A degraded execution with a failed specialist is reviewed or blocked, whatever the
result, the evidence and the provenance are. -/
theorem evaluate_of_degraded {policy : RuntimeRiskPolicy} (hpolicy : policy.ReviewsDegradation)
    {m : MultiAgentExecutionMetadata} {name : MultiAgentName} (hdegraded : m.degradedMode = true)
    (hstatus : m.agentStatuses.status name = .failed) (result : AssessmentResult)
    (evidence : List RetrievedEvidence) (provenanceValid : Bool) :
    2 ≤ (evaluate policy
      (deriveSignals result evidence (.multiAgent m) provenanceValid)).decision.priority := by
  have hmode : degradedExecution (.multiAgent m) = true := by
    simp [degradedExecution, hdegraded]
  have hspecialist : specialistUnavailable (.multiAgent m) = true :=
    List.any_eq_true.mpr ⟨_, m.agentStatuses.status_mem name, by simp [hstatus]⟩
  rw [evaluate_priority]
  refine le_max_of_le_right ?_
  rw [if_pos]
  rcases hpolicy with h | h
  · simp [reviewConditions, deriveSignals, hspecialist, h]
  · simp [reviewConditions, deriveSignals, hmode, h]

/-- The assignment that a review or a block leads to. -/
theorem gateWrite_reviewed {decision : RuntimeRiskDecision} (h : 2 ≤ decision.priority)
    (result : AssessmentResult) (execution : ExecutionMetadata) (now : Time) (row : AssessmentRow) :
    ((gateWrite result execution decision now).apply row).status = .pendingReview ∨
      ((gateWrite result execution decision now).apply row).status = .failed := by
  rcases RuntimeRiskDecision.review_or_block h with rfl | rfl
  · exact .inl rfl
  · exact .inr rfl

/-- A run that completes although a specialist has failed is recorded as degraded, with
the status and the error code of that specialist and with every degradation reason among
the information gaps of the result. Gating its candidate under a policy that reviews
degradation never completes the assessment. -/
theorem degraded_run_is_reviewed {agents : Specialists} {maxFailures : ℤ}
    {request : AssessmentRequest} {output : AgentWorkflowOutput MultiAgentExecutionMetadata}
    {name : MultiAgentName} {e : Failure}
    (hrun : runMultiAgent agents maxFailures request = .ok output)
    (hfailed : agents.failure request name = some e) :
    output.execution.degradedMode = true ∧
      output.execution.agentStatuses.status name = .failed ∧
      output.execution.agentErrors.code name = some (safeErrorCode e) ∧
      (∀ reason ∈ output.execution.degradationReasons,
        limitation reason ∈ output.result.informationGaps) ∧
      ∀ policy : RuntimeRiskPolicy, policy.ReviewsDegradation →
        ∀ c : Candidate, c.result = output.result → c.evidence = output.evidence →
          c.execution = .multiAgent output.execution →
          ((evaluate policy c.signals).decision = .requireHumanReview ∨
            (evaluate policy c.signals).decision = .blockAndEscalate) ∧
          ∀ (inputCost outputCost : Option ℚ) (assessmentId : UUID) (env : Env)
            (revisionCount : ℕ) (recordReviewRequest : Bool) (t : Tables) (row : AssessmentRow),
            t.assessment = some row →
            let x : Session AssessmentRow := do
              let record ← processCandidate (.standard policy inputCost outputCost) env
                assessmentId c {} revisionCount recordReviewRequest
              commit env
              pure record
            let committed := (Prog.exec x { db := .open t }).2.db.committed
            committed = t ∨ ∃ row', committed.assessment = some row' ∧
              (row'.status = .pendingReview ∨ row'.status = .failed) := by
  have run := multiAgentRun_of_ok hrun
  have hdegraded := run.degradedMode_of_failure hfailed
  have hstatus := run.status_of_failure hfailed
  refine ⟨hdegraded, hstatus, run.code_of_failure hfailed, fun reason => run.limitation_mem, ?_⟩
  intro policy hpolicy c hresult hevidence hexecution
  have hpriority : 2 ≤ (evaluate policy c.signals).decision.priority := by
    unfold Candidate.signals
    rw [hexecution]
    exact evaluate_of_degraded hpolicy hdegraded hstatus _ _ _
  refine ⟨RuntimeRiskDecision.review_or_block hpriority, ?_⟩
  intro inputCost outputCost assessmentId env revisionCount recordReviewRequest t row hrow
  rcases processCandidate_commit_cases (.standard policy inputCost outputCost)
    assessmentId env c {} revisionCount recordReviewRequest hrow with
    hsame | ⟨tr, htr, hcommitted⟩
  · exact .inl hsame
  · right
    obtain ⟨gateResult, telemetry, hgate, -, -, rfl⟩ := processTransition_eq_ok htr
    have hgateResult : gateResult = evaluate policy c.signals := (Except.ok.inj hgate).symm
    rw [hcommitted]
    refine ⟨_, congrArg (Option.map _) hrow, ?_⟩
    rw [hgateResult]
    exact gateWrite_reviewed hpriority _ _ _ _

/-- Specialists of which only the architecture agent fails. -/
def Specialists.withoutArchitecture : Specialists where
  gather _ := .ok { brief := .unavailable }
  analyze _ _ := .error (.application .assessmentGeneration)
  review _ _ := .ok ⟨.low, false⟩
  synthesize _ _ _ _ _ := .ok
    { executiveSummary := [], risks := [], reviewRecommended := false, informationGaps := [] }

/-- The statement applies: such a run completes when one failure is allowed, and although
its result is clean, the gate of the default policy asks for a review. -/
theorem degraded_run_is_reviewed_withoutArchitecture :
    ∃ output, runMultiAgent .withoutArchitecture 1 .minimal = .ok output ∧
      output.execution.degradedMode = true ∧
      output.execution.agentErrors.architecture =
        some (safeErrorCode (.application .assessmentGeneration)) ∧
      (evaluate {} (deriveSignals output.result output.evidence (.multiAgent output.execution)
        true)).decision ≠ .autoComplete := by
  cases hrun : runMultiAgent .withoutArchitecture 1 .minimal with
  | error e =>
    have hok : (runMultiAgent .withoutArchitecture 1 .minimal).toBool = true := by decide +kernel
    rw [hrun] at hok
    cases hok
  | ok output =>
    have hfailed : Specialists.withoutArchitecture.failure .minimal .architecture =
        some (.application .assessmentGeneration) := rfl
    obtain ⟨hdegraded, -, hcode, -, hgate⟩ :=
      degraded_run_is_reviewed hrun hfailed
    obtain ⟨hdecision, -⟩ := hgate {} (.inl rfl)
      ⟨output.result, output.evidence, .multiAgent output.execution, 1, true, none⟩ rfl rfl rfl
    refine ⟨output, rfl, hdegraded, hcode, ?_⟩
    rcases hdecision with h | h <;> exact fun hauto => nomatch h.symm.trans hauto

end AssessmentPlatform
