import AssessmentPlatform.Governance.Runs

/-!
# The lifecycle invariant

The assessment row and the checkpoint are written by five operations. In every
committed state that a run can reach they agree: the row is paused exactly while a
review is open, and a closed review or a decision of the gate has left the row
completed with the candidate or failed with the matching code.
-/

namespace AssessmentPlatform

/-- The agreement of an assessment row with its checkpoint. -/
structure ReviewLifecycle (row : AssessmentRow) (state : RuntimeAssessmentState) : Prop where
  /-- The row is paused exactly while a review is open. -/
  pendingReview_iff : state.reviewStatus = .pending ∨ state.reviewStatus = .revisionRequested ↔
    row.status = .pendingReview
  /-- A paused row carries neither a result nor an error. -/
  pendingReview : row.status = .pendingReview →
    row.resultPayload = none ∧ row.errorCode = none ∧ row.completedAt = none
  /-- A paused row records the execution of the candidate. -/
  pendingReview_execution : row.status = .pendingReview →
    row.executionMetadata = state.candidateExecution
  /-- An approved row carries the candidate. -/
  approved : state.reviewStatus = .approved →
    row.status = .completed ∧ row.resultPayload.isSome ∧
      row.resultPayload = state.candidateResult ∧ row.executionMetadata = state.candidateExecution
  /-- A rejected row carries the code of the rejection. -/
  rejected : state.reviewStatus = .rejected →
    row.status = .failed ∧ row.errorCode = some (Str.ofString "human_review_rejected") ∧
      row.resultPayload = none
  /-- Without review, the gate has completed the row with the candidate. -/
  completed : state.reviewStatus = .notRequired →
    state.gateResult.decision = .autoComplete ∨ state.gateResult.decision = .completeWithWarning →
      row.status = .completed ∧ row.resultPayload.isSome ∧
        row.resultPayload = state.candidateResult ∧
        row.executionMetadata = state.candidateExecution
  /-- Without review, the gate has failed a blocked row. -/
  blocked : state.reviewStatus = .notRequired → state.gateResult.decision = .blockAndEscalate →
    row.status = .failed ∧ row.errorCode = some (Str.ofString "runtime_risk_gate_blocked") ∧
      row.resultPayload = none
  /-- The revision counter respects its limit. -/
  revisions : state.revisionCount ≤ state.maxRevisions

/-- The lifecycle invariant of the committed tables: before the gate has decided the
row is in `PROCESSING`, afterwards it agrees with the checkpoint. -/
def Tables.Lifecycle (t : Tables) : Prop :=
  ∃ row, t.assessment = some row ∧
    match t.checkpoint with
    | none => row.status = .processing
    | some state => ReviewLifecycle row state

section

variable {service : RuntimeGovernanceService} {assessmentId : UUID} {env : Env}

/-- The codes of the governance service are short enough to be stored whole. -/
theorem governanceCode_take : ∀ code ∈ ["human_review_rejected", "runtime_risk_gate_blocked"],
    (Str.ofString code).take 100 = Str.ofString code := by
  decide +kernel

/-- The gate leaves row and checkpoint in agreement, whatever they were before. -/
theorem reviewLifecycle_gate (row : AssessmentRow) (c : Candidate) {revisionCount : ℕ}
    (gateResult : QualityGateResult) (telemetry : OperationalTelemetry)
    (hbound : revisionCount ≤ service.policy.maxHumanRevisions) (now saved updatedAt : Time)
    (existing : Option RuntimeAssessmentState) :
    ReviewLifecycle ((gateWrite c.result c.execution gateResult.decision now).apply row)
      { (gateValues service c revisionCount gateResult telemetry).toState assessmentId saved
          existing with updatedAt } := by
  cases hdecision : gateResult.decision <;>
    constructor <;>
    simp_all [gateWrite, gateStatus, gateValues, StateValues.toState, RowWrite.apply,
      AssessmentRow.markCompleted, AssessmentRow.markFailed, AssessmentRow.markPendingReview,
      governanceCode_take]

/-- A reviewer action on a pending checkpoint keeps row and checkpoint in agreement. -/
theorem ReviewLifecycle.reviewerAction {row : AssessmentRow} {state : RuntimeAssessmentState}
    (h : ReviewLifecycle row state) (hpending : state.reviewStatus = .pending) {op : ReviewOp}
    {request : HumanReviewRequest} {principal : Option AuthenticatedPrincipal}
    {action : HumanReviewAction} {newStatus : HumanReviewStatus} {revision : ℕ} {write : RowWrite}
    (haction : ReviewerAction env state op request principal action newStatus revision write)
    (hbound : revision ≤ state.maxRevisions) (telemetry : OperationalTelemetry) (saved : Time)
    (existing : Option RuntimeAssessmentState) :
    ReviewLifecycle (write.apply row)
      ((transitionState state newStatus telemetry revision).toState assessmentId saved
        existing) := by
  have hrow := h.pendingReview_iff.mp (.inl hpending)
  have hclear := h.pendingReview hrow
  have hexecution := h.pendingReview_execution hrow
  cases haction with
  | approve hcandidate =>
    constructor <;> simp [transitionState, StateValues.toState, RowWrite.apply,
      AssessmentRow.markCompleted, hcandidate, hbound]
  | reject =>
    constructor <;> simp [transitionState, StateValues.toState, RowWrite.apply,
      AssessmentRow.markFailed, governanceCode_take, hbound]
  | requestRevision hlimit =>
    constructor <;> simp [transitionState, StateValues.toState, RowWrite.apply, hrow, hclear,
      hexecution, hbound]

/-- Every transition of a review request keeps the lifecycle invariant. -/
theorem Tables.Lifecycle.transition {t : Tables} (h : t.Lifecycle) {op : ReviewOp}
    {tr : Transition} (htr : op.transition service env assessmentId t = .ok tr) :
    (tr.apply t).Lifecycle := by
  obtain ⟨row, hrow, hagree⟩ := h
  obtain ⟨state, row', hrow', hcheckpoint, -, hstatus, haction | ⟨c, rfl, hresume⟩⟩ :=
    ReviewOp.transition_eq_ok htr
  all_goals
    cases hrow.symm.trans hrow'
    rw [hcheckpoint] at hagree
  · obtain
      ⟨action, newStatus, revision, write, request, principal, telemetry, n, haction, -, hbound,
      rfl⟩ := haction
    have hpending : state.reviewStatus = .pending := by
      cases haction <;> exact hstatus
    exact ⟨write.apply row, by simp [Transition.apply, hrow],
      hagree.reviewerAction hpending haction hbound telemetry (env.clock n) t.checkpoint⟩
  · obtain ⟨gateResult, telemetry, -, -, hbound, rfl⟩ := resumeTransition_eq_ok hresume
    exact ⟨(gateWrite c.result c.execution gateResult.decision (env.clock 1)).apply row,
      by simp [Transition.apply, hrow],
      reviewLifecycle_gate row c gateResult telemetry hbound (env.clock 1) (env.clock 3)
        (env.clock 5) t.checkpoint⟩

/-- The lifecycle invariant holds in every committed state of every run. -/
theorem Reachable.lifecycle {t : Tables} (h : Reachable service assessmentId t) : t.Lifecycle := by
  refine h.induction ?_ ?_ ?_
  · intro row hrow
    exact ⟨row, rfl, hrow⟩
  · intro row env c tr hrow htr
    obtain ⟨gateResult, telemetry, -, -, hbound, rfl⟩ := processTransition_eq_ok htr
    exact ⟨(gateWrite c.result c.execution gateResult.decision (env.clock 1)).apply row, rfl,
      reviewLifecycle_gate row c gateResult _ hbound (env.clock 1) (env.clock 3)
        (env.clock 3) none⟩
  · intro t env op tr ih htr
    exact ih.transition htr

/-- No request changes the tables once the review is closed or was never needed. -/
theorem performRequest_closed {t : Tables} {state : RuntimeAssessmentState}
    (hcheckpoint : t.checkpoint = some state) (hpending : state.reviewStatus ≠ .pending)
    (hrevision : state.reviewStatus ≠ .revisionRequested) (env : Env) (op : ReviewOp) :
    performRequest service assessmentId env op t = t := by
  rcases performRequest_cases env op t with heq | ⟨tr, htr, -⟩
  · exact heq
  · obtain ⟨state', -, -, hcheckpoint', -, hstatus, -⟩ := ReviewOp.transition_eq_ok htr
    cases hcheckpoint.symm.trans hcheckpoint'
    cases op with
    | resumeRevision c => exact absurd hstatus hrevision
    | approve _ _ | reject _ _ | requestRevision _ _ => exact absurd hstatus hpending

end

/-- In every committed state that a run can reach under a fixed policy, the row is
still in `PROCESSING` with no checkpoint, or row and checkpoint agree; and no request
changes a state whose review is approved, rejected or not required. -/
theorem review_lifecycle (policy : RuntimeRiskPolicy) (inputCost outputCost : Option ℚ)
    (assessmentId : UUID) {t : Tables}
    (h : Reachable (.standard policy inputCost outputCost) assessmentId t) :
    (∃ row, t.assessment = some row ∧
      (t.checkpoint = none → row.status = .processing) ∧
      ∀ state, t.checkpoint = some state → ReviewLifecycle row state) ∧
    ∀ state, t.checkpoint = some state →
      state.reviewStatus = .approved ∨ state.reviewStatus = .rejected ∨
        state.reviewStatus = .notRequired →
      ∀ env op,
        performRequest (.standard policy inputCost outputCost) assessmentId env op t = t := by
  constructor
  · obtain ⟨row, hrow, hagree⟩ := h.lifecycle
    refine ⟨row, hrow, fun hnone => ?_, fun state hstate => ?_⟩
    · rwa [hnone] at hagree
    · rwa [hstate] at hagree
  · intro state hstate hclosed env op
    refine performRequest_closed hstate ?_ ?_ env op <;>
      rcases hclosed with h | h | h <;> simp [h]

/-- A candidate with one high risk is held for review, and its approval completes the
row with the candidate. -/
theorem review_lifecycle_approved :
    let t := performRequest (.standard {}) 7 (.ticking 10) (.approve {} none)
      (submit (.standard {}) 7 (.ticking 0) .highRisk { assessment := some .inProcessing })
    Reachable (.standard {}) 7 t ∧ t.checkpoint.map (·.reviewStatus) = some .approved ∧
      ∃ row, t.assessment = some row ∧ row.status = .completed ∧ row.resultPayload.isSome := by
  intro t
  have hreach : Reachable (.standard {}) 7 t := .request (.submit rfl _ _) _ _
  have hstatus : t.checkpoint.map (·.reviewStatus) = some .approved := by decide +kernel
  obtain ⟨⟨row, hrow, -, hagree⟩, -⟩ := review_lifecycle {} none none 7 hreach
  obtain ⟨state, hstate, happroved⟩ := Option.map_eq_some_iff.mp hstatus
  have h := (hagree state hstate).approved happroved
  exact ⟨hreach, hstatus, row, hrow, h.1, h.2.1⟩

end AssessmentPlatform
