import AssessmentPlatform.Governance.Runs

/-!
# Runs under changing deployments

One assessment is gated by `process_candidate` first, with any arguments, and review requests
follow. The service may be deployed anew between any two of them, so each has its own service
and environment. One step lemma says what a request that is carried out records in the
checkpoint; the invariants over whole runs are derived from it alone.
-/

namespace AssessmentPlatform

open Library

/-- The call of `process_candidate` that gates an assessment first. -/
structure Gating where
  service : RuntimeGovernanceService
  env : Env
  candidate : Candidate
  signalOverrides : SignalOverrides := {}
  revisionCount : ℕ := 0
  recordReviewRequest : Bool := true

/-- A review request, and the service that is deployed when it arrives. -/
structure ServedRequest where
  service : RuntimeGovernanceService
  env : Env
  op : ReviewOp

section Runs

variable (assessmentId : UUID)

/-- The committed tables after the first gating; its caller commits. -/
def Gating.perform (gating : Gating) (t : Tables) : Tables :=
  let x : Session AssessmentRow := do
    let record ← processCandidate gating.service gating.env assessmentId gating.candidate
      gating.signalOverrides gating.revisionCount gating.recordReviewRequest
    commit gating.env
    pure record
  (Prog.exec x { db := .open t }).2.db.committed

/-- The committed tables after one request. -/
def ServedRequest.perform (request : ServedRequest) (t : Tables) : Tables :=
  performRequest request.service assessmentId request.env request.op t

/-- A request is carried out on the tables that it finds: its transition succeeds on them, and the
database refuses none of its statements, so that it returns. -/
def ServedRequest.CarriedOut (request : ServedRequest) (t : Tables) : Prop :=
  (request.op.transition request.service request.env assessmentId t).toBool = true ∧
    (Prog.exec (request.op.program request.service request.env assessmentId)
      { db := .open t }).1.toBool = true

instance (request : ServedRequest) (t : Tables) :
    Decidable (request.CarriedOut assessmentId t) :=
  inferInstanceAs (Decidable (_ ∧ _))

/-- The committed tables after the first gating of a row and the first `n` requests. -/
def tablesAfter (gating : Gating) (row : AssessmentRow) (requests : ℕ → ServedRequest) : ℕ → Tables
  | 0 => gating.perform assessmentId { assessment := some row }
  | n + 1 => (requests n).perform assessmentId (tablesAfter gating row requests n)

end Runs

/-! ## What is recorded -/

/-- The candidate that a request submits. -/
def ReviewOp.candidate : ReviewOp → Option Candidate
  | .resumeRevision c => some c
  | _ => none

/-- The clock reading that ends the wait of a request. -/
def ReviewOp.waitReading : ReviewOp → ℕ
  | .requestRevision _ _ => 0
  | .approve _ _ | .reject _ _ => 1
  | .resumeRevision _ => 4

/-- What `process_candidate` records of the status, the durations and the revisions. -/
structure RuntimeAssessmentState.Gated (service : RuntimeGovernanceService) (c : Candidate)
    (state : RuntimeAssessmentState) : Prop where
  valid : state.telemetry.Valid
  status_eq : state.telemetry.humanReviewStatus = state.reviewStatus
  execution_eq : state.telemetry.executionDurationMs = c.durationMs
  wait_eq : state.telemetry.humanWaitDurationMs = none
  total_eq : state.telemetry.totalDurationMs = c.durationMs
  maxRevisions_eq : state.maxRevisions = service.policy.maxHumanRevisions
  revisionCount_le : state.revisionCount ≤ state.maxRevisions

/-- What a request that finds the checkpoint `state` records in the checkpoint `new`. The waiting
time replaces an earlier one, and a submitted candidate replaces the execution time and takes
the number of revisions from the policy in force. -/
structure ServedRequest.Records (request : ServedRequest) (state new : RuntimeAssessmentState) :
    Prop where
  valid : new.telemetry.Valid
  status_eq : new.telemetry.humanReviewStatus = new.reviewStatus
  execution_eq : new.telemetry.executionDurationMs =
    request.op.candidate.elim state.telemetry.executionDurationMs Candidate.durationMs
  wait_eq : new.telemetry.humanWaitDurationMs =
    some (waitMs state (request.env.clock request.op.waitReading))
  total_eq : new.telemetry.totalDurationMs = new.telemetry.executionDurationMs +
    waitMs state (request.env.clock request.op.waitReading)
  events_extend : state.telemetry.events <+: new.telemetry.events
  maxRevisions_eq : new.maxRevisions =
    request.op.candidate.elim state.maxRevisions fun _ => request.service.policy.maxHumanRevisions
  revisionCount_le : new.revisionCount ≤ new.maxRevisions

section Recorded

variable {service : RuntimeGovernanceService} {env : Env} {assessmentId : UUID} {t : Tables}
  {tr : Transition}

/-- The telemetry of a candidate records its duration, no wait and the status of the gate. -/
theorem candidateTelemetry_recorded {c : Candidate} {decision : RuntimeRiskDecision} {now : Time}
    {telemetry : OperationalTelemetry}
    (h : service.candidateTelemetry env c decision now = .ok telemetry) :
    telemetry.totalDurationMs = c.durationMs ∧ telemetry.executionDurationMs = c.durationMs ∧
      telemetry.humanWaitDurationMs = none ∧
      telemetry.humanReviewStatus = gateStatus decision := by
  obtain ⟨built, hbuilt, rfl⟩ := candidateTelemetry_eq_ok h
  have hstatus : (if decision = .requireHumanReview then HumanReviewStatus.pending
      else .notRequired) = gateStatus decision := by
    cases decision <;> rfl
  cases OperationalTelemetry.eq_of_validate hbuilt
  unfold OperationalTelemetry.withMetrics
  cases env.metrics <;> exact ⟨rfl, rfl, rfl, hstatus⟩

/-- The event that a decision appends changes neither the status nor a duration. -/
theorem gateTelemetry_recorded (decision : RuntimeRiskDecision) (telemetry : OperationalTelemetry)
    (now : Time) :
    (gateTelemetry decision telemetry now).totalDurationMs = telemetry.totalDurationMs ∧
      (gateTelemetry decision telemetry now).executionDurationMs = telemetry.executionDurationMs ∧
      (gateTelemetry decision telemetry now).humanWaitDurationMs = telemetry.humanWaitDurationMs ∧
      (gateTelemetry decision telemetry now).humanReviewStatus = telemetry.humanReviewStatus := by
  cases decision <;> exact ⟨rfl, rfl, rfl, rfl⟩

/-- A processed candidate is recorded as the gate records it. -/
theorem processTransition_gated {c : Candidate} {overrides : SignalOverrides} {revisionCount n : ℕ}
    {recordReviewRequest : Bool}
    (h : processTransition service env assessmentId c overrides revisionCount recordReviewRequest
      n t = .ok tr) :
    tr.checkpoint.Gated service c := by
  obtain ⟨gateResult, telemetry, -, htelemetry, hbound, rfl⟩ := processTransition_eq_ok h
  obtain ⟨htotal, hexecution, hwait, hstatus⟩ := candidateTelemetry_recorded htelemetry
  obtain ⟨htotal', hexecution', hwait', hstatus'⟩ :=
    gateTelemetry_recorded gateResult.decision telemetry (env.clock (n + 2))
  exact
    { valid := gateTelemetry_valid (candidateTelemetry_valid htelemetry) _ _
      status_eq := hstatus'.trans hstatus
      execution_eq := hexecution'.trans hexecution
      wait_eq := hwait'.trans hwait
      total_eq := htotal'.trans htotal
      maxRevisions_eq := rfl
      revisionCount_le := hbound }

/-- A reviewer action appends to the telemetry that it finds. -/
theorem reviewTelemetryAt_events (clock : ℕ → Time) (n : ℕ) (state : RuntimeAssessmentState)
    (status : HumanReviewStatus) (eventType : RuntimeTraceEventType) :
    state.telemetry.events <+: (reviewTelemetryAt clock n state status eventType).events := by
  have hresumed : ∀ resumed, state.telemetry.events <+: state.telemetry.events ++ resumed :=
    List.prefix_append _
  exact (hresumed _).trans (List.prefix_append _ _)

/-- The merged telemetry keeps the earlier events in front. -/
theorem mergedTelemetry_events (old new : OperationalTelemetry) (wait : ℤ) (resumedAt : Time) :
    old.events <+: (mergedTelemetry old new wait resumedAt).events :=
  ⟨_, (List.append_assoc _ _ _).symm⟩

/-- A resumed candidate is recorded with its event. -/
theorem resumeTransition_records {c : Candidate} {state : RuntimeAssessmentState}
    (h : resumeTransition service env assessmentId c state t = .ok tr) :
    tr.event ≠ none ∧ ServedRequest.Records ⟨service, env, .resumeRevision c⟩ state
      tr.checkpoint := by
  obtain ⟨inner, hinner, h⟩ := except_bind_eq_ok.mp h
  have hgated := processTransition_gated hinner
  split at h
  · cases h
  cases h
  exact ⟨by simp,
    { valid := mergedTelemetry_valid hgated.valid _ (waitMs_nonneg _ _) _
      status_eq := hgated.status_eq
      execution_eq := hgated.execution_eq
      wait_eq := rfl
      total_eq := rfl
      events_extend := mergedTelemetry_events _ _ _ _
      maxRevisions_eq := hgated.maxRevisions_eq
      revisionCount_le := hgated.revisionCount_le }⟩

/-- A request whose transition succeeds finds the status that it accepts, adds an audit event,
and records its durations. -/
theorem ReviewOp.transition_records {op : ReviewOp}
    (h : op.transition service env assessmentId t = .ok tr) :
    ∃ state, t.requiredIn op.accepts = .ok state ∧ tr.event ≠ none ∧
      ServedRequest.Records ⟨service, env, op⟩ state tr.checkpoint := by
  obtain ⟨state, hrequired, h⟩ := except_bind_eq_ok.mp h
  have hvalid : state.telemetry.Valid := (Tables.requiredIn_eq_ok hrequired).2.2.1
  refine ⟨state, hrequired, ?_⟩
  cases op with
  | approve request principal =>
    cases hcandidate : state.candidateResult with
    | none =>
      simp only [hcandidate] at h
      cases h
    | some result =>
      simp only [hcandidate] at h
      obtain ⟨hbound, rfl⟩ := persistedTransition_eq_ok h
      exact ⟨by simp, reviewTelemetryAt_valid hvalid _ _ _ _, rfl, rfl, rfl, rfl,
        reviewTelemetryAt_events _ _ _ _ _, rfl, hbound⟩
  | reject request principal =>
    obtain ⟨hbound, rfl⟩ := persistedTransition_eq_ok h
    refine ⟨by simp, ?_, rfl, rfl, rfl, rfl, ?_, rfl, hbound⟩
    · exact reviewTelemetryAt_valid hvalid env.clock 1 .rejected .humanReviewRejected
    · exact reviewTelemetryAt_events env.clock 1 state .rejected .humanReviewRejected
  | requestRevision request principal =>
    by_cases hlimit : state.revisionCount ≥ state.maxRevisions
    · simp only [if_pos hlimit] at h
      cases h
    · simp only [if_neg hlimit] at h
      obtain ⟨hbound, rfl⟩ := persistedTransition_eq_ok h
      exact ⟨by simp, reviewTelemetryAt_valid hvalid _ _ _ _, rfl, rfl, rfl, rfl,
        reviewTelemetryAt_events _ _ _ _ _, rfl, hbound⟩
  | resumeRevision c => exact resumeTransition_records h

end Recorded

/-! ## Steps and runs -/

section Steps

variable {assessmentId : UUID}

/-- The first gating stores nothing, or a checkpoint for its candidate. -/
theorem Gating.perform_cases (gating : Gating) (row : AssessmentRow) :
    (gating.perform assessmentId { assessment := some row }).checkpoint = none ∨
      ∃ state, (gating.perform assessmentId { assessment := some row }).checkpoint = some state ∧
        state.Gated gating.service gating.candidate := by
  rcases processCandidate_commit_cases gating.service assessmentId gating.env gating.candidate
    gating.signalOverrides gating.revisionCount gating.recordReviewRequest
    (t := { assessment := some row }) rfl with heq | ⟨tr, htr, heq⟩
  · left
    exact congrArg Tables.checkpoint heq
  · right
    exact ⟨tr.checkpoint, congrArg Tables.checkpoint heq, processTransition_gated htr⟩

/-- A request is not carried out and changes nothing, or it is and records what it has done in the
checkpoint that it finds. -/
theorem ServedRequest.perform_cases (request : ServedRequest) (t : Tables) :
    ¬ request.CarriedOut assessmentId t ∧ request.perform assessmentId t = t ∨
      request.CarriedOut assessmentId t ∧
        ∃ state new, t.requiredIn request.op.accepts = .ok state ∧ t.checkpoint = some state ∧
          (request.perform assessmentId t).checkpoint = some new ∧ request.Records state new := by
  have hpublishes := ReviewOp.publishes request.service request.env assessmentId (Db.open t)
    request.op rfl rfl
  rcases hpublishes.outcome (w := { db := .open t }) rfl with
    ⟨a, hreturns, hdb⟩ | ⟨e, hraises, -, hdb⟩
  · right
    change (request.op.transition request.service request.env assessmentId t).map _ = _ at hdb
    obtain ⟨tr, htr, heq⟩ := except_map_eq_ok.mp hdb
    obtain ⟨state, hrequired, -, hrecords⟩ := ReviewOp.transition_records htr
    refine ⟨⟨by rw [htr]; rfl, by rw [hreturns]; rfl⟩, state, tr.checkpoint, hrequired,
      (Tables.requiredIn_eq_ok hrequired).2.1, congrArg Tables.checkpoint heq.symm, hrecords⟩
  · refine .inl ⟨fun hcarried => ?_, hdb⟩
    have hreturns := hcarried.2
    rw [hraises] at hreturns
    cases hreturns

variable {gating : Gating} {row : AssessmentRow} {requests : ℕ → ServedRequest}

/-- The rule by which a property of every checkpoint of a run is established. -/
theorem tablesAfter_invariant {P : RuntimeAssessmentState → Prop}
    (hgated : ∀ state, state.Gated gating.service gating.candidate → P state)
    (hrecords : ∀ n state new, (requests n).Records state new → P state → P new) (n : ℕ) :
    ∀ state, (tablesAfter assessmentId gating row requests n).checkpoint = some state →
      P state := by
  induction n with
  | zero =>
    intro state hstate
    rcases gating.perform_cases row with hnone | ⟨s, hs, hgate⟩
    · cases hnone.symm.trans hstate
    · cases hs.symm.trans hstate
      exact hgated _ hgate
  | succ n ih =>
    intro state hstate
    rcases (requests n).perform_cases (tablesAfter assessmentId gating row requests n) with
      ⟨-, heq⟩ | ⟨-, s, new, -, hs, hnew, hrecord⟩
    · rw [tablesAfter, heq] at hstate
      exact ih state hstate
    · cases hnew.symm.trans hstate
      exact hrecords n s _ hrecord (ih s hs)

end Steps

end AssessmentPlatform
