import AssessmentPlatform.Governance.Transitions

/-!
# What successful transitions have done

One inversion lemma for each transition: the status it found, the bounds it checked,
and all that it wrote. The invariants of the review workflow are derived from these
lemmas alone.
-/

namespace AssessmentPlatform

open Library

/-! ## Telemetry stays valid -/

/-- The event of the gate keeps the telemetry valid. -/
theorem gateTelemetry_valid {telemetry : OperationalTelemetry} (h : telemetry.Valid)
    (decision : RuntimeRiskDecision) (now : Time) :
    (gateTelemetry decision telemetry now).Valid := by
  cases decision <;> exact h

/-- A wait is not negative. -/
theorem waitMs_nonneg (state : RuntimeAssessmentState) (now : Time) : 0 ≤ waitMs state now :=
  le_max_left _ _

/-- Replacing the waiting time keeps a valid record valid. -/
theorem OperationalTelemetry.Valid.withWait {telemetry updated : OperationalTelemetry} {wait : ℤ}
    (h : telemetry.Valid) (hwait : 0 ≤ wait)
    (htotal : updated.totalDurationMs = telemetry.executionDurationMs + wait)
    (hexecution : updated.executionDurationMs = telemetry.executionDurationMs)
    (hhuman : updated.humanWaitDurationMs = some wait)
    (hcost : updated.estimatedCost = telemetry.estimatedCost) : updated.Valid := by
  obtain ⟨-, hduration, -, hcost'⟩ := h
  refine ⟨?_, ?_, ?_, ?_⟩
  · rw [htotal]
    exact Int.add_nonneg hduration hwait
  · rw [hexecution]
    exact hduration
  · rw [hhuman]
    rintro ms ⟨⟩
    exact hwait
  · rw [hcost]
    exact hcost'

/-- The event of a review keeps the telemetry valid. -/
theorem reviewTelemetryAt_valid {state : RuntimeAssessmentState} (h : state.telemetry.Valid)
    (clock : ℕ → Time) (n : ℕ) (status : HumanReviewStatus) (eventType : RuntimeTraceEventType) :
    (reviewTelemetryAt clock n state status eventType).Valid :=
  h.withWait (waitMs_nonneg state (clock n)) rfl rfl rfl rfl

/-- The merged telemetry is valid. -/
theorem mergedTelemetry_valid {new : OperationalTelemetry} (h : new.Valid)
    (old : OperationalTelemetry) {wait : ℤ} (hwait : 0 ≤ wait) (resumedAt : Time) :
    (mergedTelemetry old new wait resumedAt).Valid :=
  h.withWait hwait rfl rfl rfl rfl

/-- The telemetry of a candidate is a built record to which the metrics are added. -/
theorem candidateTelemetry_eq_ok {service : RuntimeGovernanceService} {env : Env} {c : Candidate}
    {decision : RuntimeRiskDecision} {now : Time} {telemetry : OperationalTelemetry}
    (h : service.candidateTelemetry env c decision now = .ok telemetry) :
    ∃ built, buildOperationalTelemetry c.execution c.durationMs decision
        (env.metrics.bind RuntimeMetrics.tokenUsage) c.evidence.length
        (env.metrics.map fun m => m.modelCallDurationsMs.length) service.inputCostPerMillion
        service.outputCostPerMillion env.requestId now = .ok built ∧
      built.withMetrics env.metrics c.retrievalDurationMs = telemetry :=
  except_map_eq_ok.mp h

/-- The metrics of the recorder keep the telemetry valid. -/
theorem OperationalTelemetry.Valid.withMetrics {telemetry : OperationalTelemetry}
    (h : telemetry.Valid) (metrics : Option RuntimeMetrics) (retrievalDurationMs : Option ℕ) :
    (telemetry.withMetrics metrics retrievalDurationMs).Valid := by
  cases metrics <;> exact h

/-- The telemetry of a candidate is valid. -/
theorem candidateTelemetry_valid {service : RuntimeGovernanceService} {env : Env} {c : Candidate}
    {decision : RuntimeRiskDecision} {now : Time} {telemetry : OperationalTelemetry}
    (h : service.candidateTelemetry env c decision now = .ok telemetry) : telemetry.Valid := by
  obtain ⟨built, hbuilt, rfl⟩ := candidateTelemetry_eq_ok h
  have hvalid : built.Valid := OperationalTelemetry.valid_of_validate hbuilt
  exact hvalid.withMetrics _ _

/-! ## Inversion -/

section Inversion

variable {service : RuntimeGovernanceService} {env : Env} {assessmentId : UUID} {t : Tables}
  {tr : Transition}

/-- What a successful `process_candidate` has decided and written. -/
theorem processTransition_eq_ok {c : Candidate} {overrides : SignalOverrides} {revisionCount n : ℕ}
    {recordReviewRequest : Bool} {t : Tables} {tr : Transition}
    (h : processTransition service env assessmentId c overrides revisionCount recordReviewRequest
      n t = .ok tr) :
    ∃ gateResult telemetry, service.evaluate (c.signals.override overrides) = .ok gateResult ∧
      service.candidateTelemetry env c gateResult.decision (env.clock n) = .ok telemetry ∧
      revisionCount ≤ service.policy.maxHumanRevisions ∧
      tr =
        { write := gateWrite c.result c.execution gateResult.decision (env.clock (n + 1))
          checkpoint := (gateValues service c revisionCount gateResult
            (gateTelemetry gateResult.decision telemetry (env.clock (n + 2)))).toState assessmentId
              (env.clock (n + 3)) t.checkpoint
          event :=
            if gateStatus gateResult.decision = .pending ∧ recordReviewRequest = true then
              some ((requestEvent revisionCount gateResult).toRecord assessmentId (env.newId 0)
                (env.clock (n + 4)))
            else none } := by
  unfold processTransition at h
  obtain ⟨gateResult, hgate, h⟩ := except_bind_eq_ok.mp h
  obtain ⟨telemetry, htelemetry, h⟩ := except_bind_eq_ok.mp h
  split at h
  · cases h
  split at h
  · cases h
  rename_i hbound _
  exact ⟨gateResult, telemetry, hgate, htelemetry, not_lt.mp hbound, (Except.ok.inj h).symm⟩

/-- The checkpoint of a successful `process_candidate` within a resumed revision. -/
theorem processTransition_checkpoint {c : Candidate} {overrides : SignalOverrides}
    {revisionCount n : ℕ} {t : Tables} {tr : Transition}
    (h : processTransition service env assessmentId c overrides revisionCount false n t = .ok tr) :
    tr.checkpoint.telemetry.Valid ∧ tr.checkpoint.revisionCount ≤ tr.checkpoint.maxRevisions ∧
      tr.checkpoint.assessmentId = assessmentId ∧ tr.event = none := by
  obtain ⟨gateResult, telemetry, -, htelemetry, hbound, rfl⟩ := processTransition_eq_ok h
  exact ⟨gateTelemetry_valid (candidateTelemetry_valid htelemetry) _ _, hbound, rfl,
    if_neg (by simp)⟩

/-- A checkpoint that was read is stored, belongs to a row, and is valid. -/
theorem Tables.required_eq_ok {state : RuntimeAssessmentState} (h : t.required = .ok state) :
    t.assessment ≠ none ∧ t.checkpoint = some state ∧ state.telemetry.Valid := by
  unfold Tables.required at h
  split at h
  · cases h
  · cases h
  · rename_i row s hrow hcheckpoint
    split at h
    · cases h
      exact ⟨by simp [hrow], hcheckpoint, by assumption⟩
    · cases h

/-- A required checkpoint is stored, valid and in the status. -/
theorem Tables.requiredIn_eq_ok {status : HumanReviewStatus} {state : RuntimeAssessmentState}
    (h : t.requiredIn status = .ok state) :
    t.assessment ≠ none ∧ t.checkpoint = some state ∧ state.telemetry.Valid ∧
      state.reviewStatus = status := by
  unfold Tables.requiredIn at h
  obtain ⟨s, hrequired, h⟩ := except_bind_eq_ok.mp h
  split at h
  · cases h
    obtain ⟨hrow, hcheckpoint, hvalid⟩ := required_eq_ok hrequired
    exact ⟨hrow, hcheckpoint, hvalid, by assumption⟩
  · cases h

/-- What a reviewer action has stored: the checkpoint in its new status, and the
audit event that leads to it. -/
theorem persistedTransition_eq_ok {write : RowWrite} {state : RuntimeAssessmentState}
    {action : HumanReviewAction} {newStatus : HumanReviewStatus} {request : HumanReviewRequest}
    {telemetry : OperationalTelemetry} {principal : Option AuthenticatedPrincipal} {revision n : ℕ}
    (h : persistedTransition env assessmentId write state action newStatus request telemetry
      principal revision n t = .ok tr) :
    revision ≤ state.maxRevisions ∧ tr =
      { write
        checkpoint := (transitionState state newStatus telemetry revision).toState assessmentId
          (env.clock n) t.checkpoint
        event := some ((transitionEvent env state action newStatus request principal
          revision).toRecord assessmentId (env.newId 0) (env.clock (n + 1))) } := by
  unfold persistedTransition at h
  split at h
  · cases h
  split at h
  · cases h
  rename_i hbound _
  exact ⟨not_lt.mp hbound, (Except.ok.inj h).symm⟩

/-- The reviewer actions that succeed, with their arguments, the status they lead to,
the revision they record and what they assign to the row. -/
inductive ReviewerAction (env : Env) (state : RuntimeAssessmentState) :
    ReviewOp → HumanReviewRequest → Option AuthenticatedPrincipal → HumanReviewAction →
      HumanReviewStatus → ℕ → RowWrite → Prop
  | approve {request : HumanReviewRequest} {principal : Option AuthenticatedPrincipal}
    {result : AssessmentResult} (h : state.candidateResult = some result) :
    ReviewerAction env state (.approve request principal) request principal .approved .approved
      state.revisionCount (.completed result state.candidateExecution (env.clock 0))
  | reject {request : HumanReviewRequest} {principal : Option AuthenticatedPrincipal} :
    ReviewerAction env state (.reject request principal) request principal .rejected .rejected
      state.revisionCount (.failed ("human_review_rejected" : String)
        ("The assessment was rejected during human review." : String) (env.clock 0))
  | requestRevision {request : HumanReviewRequest} {principal : Option AuthenticatedPrincipal}
    (h : state.revisionCount < state.maxRevisions) :
    ReviewerAction env state (.requestRevision request principal) request principal
      .revisionRequested .revisionRequested (state.revisionCount + 1) .unchanged

/-- A request that succeeds has found the status it accepts. It is a reviewer action,
which turns a pending checkpoint to its new status, or it resumes a revision. -/
theorem ReviewOp.transition_eq_ok {op : ReviewOp}
    (h : op.transition service env assessmentId t = .ok tr) :
    ∃ state row, t.assessment = some row ∧ t.checkpoint = some state ∧
      state.telemetry.Valid ∧ state.reviewStatus = op.accepts ∧
      ((∃ action newStatus revision write request principal telemetry n,
          ReviewerAction env state op request principal action newStatus revision write ∧
          telemetry.Valid ∧
          revision ≤ state.maxRevisions ∧ tr =
            { write
              checkpoint := (transitionState state newStatus telemetry revision).toState
                assessmentId (env.clock n) t.checkpoint
              event := some ((transitionEvent env state action newStatus request principal
                revision).toRecord assessmentId (env.newId 0) (env.clock (n + 1))) }) ∨
        ∃ c, op = .resumeRevision c ∧
          resumeTransition service env assessmentId c state t = .ok tr) := by
  obtain ⟨state, hrequired, h⟩ := except_bind_eq_ok.mp h
  obtain ⟨hrow, hcheckpoint, hvalid, hstatus⟩ := Tables.requiredIn_eq_ok hrequired
  obtain ⟨row, hrow⟩ := Option.ne_none_iff_exists'.mp hrow
  refine ⟨state, row, hrow, hcheckpoint, hvalid, hstatus, ?_⟩
  cases op with
  | approve request principal =>
    left
    cases hcandidate : state.candidateResult with
    | none =>
      simp only [hcandidate] at h
      cases h
    | some result =>
      simp only [hcandidate] at h
      obtain ⟨hbound, rfl⟩ := persistedTransition_eq_ok h
      exact ⟨_, _, _, _, request, principal, _, _, .approve hcandidate,
        reviewTelemetryAt_valid hvalid _ _ _ _, hbound, rfl⟩
  | reject request principal =>
    obtain ⟨hbound, rfl⟩ := persistedTransition_eq_ok h
    refine .inl ⟨_, _, _, _, request, principal, _, _, .reject, ?_, hbound, rfl⟩
    exact reviewTelemetryAt_valid hvalid env.clock 1 .rejected .humanReviewRejected
  | requestRevision request principal =>
    left
    by_cases hlimit : state.revisionCount ≥ state.maxRevisions
    · simp only [if_pos hlimit] at h
      cases h
    · simp only [if_neg hlimit] at h
      obtain ⟨hbound, rfl⟩ := persistedTransition_eq_ok h
      exact ⟨_, _, _, _, request, principal, _, _, .requestRevision (not_le.mp hlimit),
        reviewTelemetryAt_valid hvalid _ _ _ _, hbound, rfl⟩
  | resumeRevision c => exact .inr ⟨c, rfl, h⟩

/-- What a resumed revision has decided and stored. -/
theorem resumeTransition_eq_ok {c : Candidate} {state : RuntimeAssessmentState}
    (h : resumeTransition service env assessmentId c state t = .ok tr) :
    ∃ gateResult telemetry,
      service.evaluate (Candidate.signals c |>.override {}) = .ok gateResult ∧ telemetry.Valid ∧
      state.revisionCount ≤ service.policy.maxHumanRevisions ∧
      tr =
        { write := gateWrite c.result c.execution gateResult.decision (env.clock 1)
          checkpoint :=
            { (gateValues service c state.revisionCount gateResult telemetry).toState assessmentId
                (env.clock 3) t.checkpoint with
              updatedAt := env.clock 5 }
          event := some
            { reviewId := env.newId 0, assessmentId, action := .revisionSubmitted
              previousStatus := state.reviewStatus, newStatus := gateStatus gateResult.decision
              reviewerId := none, comment := none, reasonCodes := gateResult.reasonCodes
              revisionNumber := state.revisionCount, createdAt := env.clock 6 } } := by
  obtain ⟨tr', htr, h⟩ := except_bind_eq_ok.mp h
  obtain ⟨gateResult, telemetry, hgate, htelemetry, hbound, rfl⟩ := processTransition_eq_ok htr
  have hvalid := gateTelemetry_valid (candidateTelemetry_valid htelemetry) gateResult.decision
    (env.clock 2)
  split at h
  · cases h
  · cases h
    exact ⟨gateResult, _, hgate, mergedTelemetry_valid hvalid state.telemetry
      (waitMs_nonneg state (env.clock 4)) (env.clock 4), hbound, rfl⟩

end Inversion

end AssessmentPlatform
