import AssessmentPlatform.Governance.Concurrency
import AssessmentPlatform.Governance.ServedRuns

/-!
# The revision budget under changing policies

The reviewer actions carry the recorded number of permitted revisions over. A submitted revision
takes it from the policy in force, but keeps the recorded number of requested revisions. So a
policy that was changed in between changes the budget of the assessment, and one that permits
fewer revisions than were requested violates the bound of the table, so that no revision can be
submitted any more.
-/

namespace AssessmentPlatform

open Library

/-- The number of revisions that an assessment is permitted. -/
def Tables.revisionBudget (t : Tables) : Option ℕ := t.checkpoint.map (·.maxRevisions)

/-- A request submits a revision: the checkpoint waits for one, the gate and the telemetry accept
the candidate, and the identifier of the audit event is fresh. -/
def ServedRequest.Submits (request : ServedRequest) (t : Tables) : Prop :=
  ∃ c state gateResult telemetry, request.op = .resumeRevision c ∧
    t.requiredIn .revisionRequested = .ok state ∧
    request.service.evaluate c.signals = .ok gateResult ∧
    request.service.candidateTelemetry request.env { c with retrievalDurationMs := none }
      gateResult.decision (request.env.clock 0) = .ok telemetry ∧
    t.idTaken (request.env.newId 0) = false

/-- On a database that fails no step, the request returns. -/
def ServedRequest.Succeeds (assessmentId : UUID) (request : ServedRequest) (t : Tables) : Prop :=
  (Prog.exec (request.op.program request.service request.env.reliable assessmentId)
    { db := .open t }).1 = .ok ()

/-- The request on a database that fails no step. -/
def ServedRequest.reliable (request : ServedRequest) : ServedRequest :=
  { request with env := request.env.reliable }

section Submission

variable {request : ServedRequest} {assessmentId : UUID} {t : Tables}

/-- A request succeeds on a reliable database exactly if its transition does. -/
theorem ServedRequest.succeeds_iff :
    request.Succeeds assessmentId t ↔
      ∃ tr, request.op.transition request.service request.env assessmentId t = .ok tr := by
  have hpublishes := ReviewOp.publishes request.service request.env.reliable assessmentId
    (Db.open t) request.op rfl rfl
  have hreliable : request.op.transition request.service request.env.reliable assessmentId t =
    request.op.transition request.service request.env assessmentId t := rfl
  rw [show (Db.open t).working = t from rfl, hreliable] at hpublishes
  unfold Succeeds
  rcases hpublishes.outcome (w := { db := .open t }) rfl with
    ⟨a, hok, hr⟩ | ⟨e, herror, hr | ⟨step, n, error, hfault, -⟩, -⟩
  · refine ⟨fun _ => ?_, fun _ => hok⟩
    cases htr : request.op.transition request.service request.env assessmentId t with
    | error e =>
      rw [htr] at hr
      cases hr
    | ok tr => exact ⟨tr, rfl⟩
  · refine ⟨fun hok => ?_, fun ⟨tr, htr⟩ => ?_⟩
    · cases herror.symm.trans hok
    · rw [htr] at hr
      cases hr
  · cases hfault

/-- A revision can be submitted exactly if the policy in force permits the revisions that were
requested. -/
theorem ServedRequest.Submits.succeeds_iff (h : request.Submits t)
    {state : RuntimeAssessmentState} (hstate : t.checkpoint = some state) :
    request.Succeeds assessmentId t ↔
      state.revisionCount ≤ request.service.policy.maxHumanRevisions := by
  obtain ⟨c, found, gateResult, telemetry, hop, hrequired, hgate, htelemetry, hfresh⟩ := h
  cases (Tables.requiredIn_eq_ok hrequired).2.1.symm.trans hstate
  rw [ServedRequest.succeeds_iff, hop]
  constructor
  · rintro ⟨tr, htr⟩
    obtain ⟨found, hfound, htr⟩ := except_bind_eq_ok.mp htr
    cases hrequired.symm.trans hfound
    obtain ⟨-, -, -, -, hbound, -⟩ := resumeTransition_eq_ok htr
    exact hbound
  · intro hbound
    obtain ⟨inner, hinner⟩ : ∃ inner, processTransition request.service request.env assessmentId
        { c with retrievalDurationMs := none } {} state.revisionCount false 0 t = .ok inner := by
      unfold processTransition
      have hgate' : request.service.evaluate (Candidate.signals
          { c with retrievalDurationMs := none } |>.override {}) = .ok gateResult := hgate
      rw [hgate', except_ok_bind, htelemetry, except_ok_bind, if_neg (not_lt.mpr hbound),
        if_neg (by simp)]
      exact ⟨_, rfl⟩
    unfold ReviewOp.transition
    rw [show (ReviewOp.resumeRevision c).accepts = .revisionRequested from rfl, hrequired,
      except_ok_bind]
    change ∃ tr, resumeTransition request.service request.env assessmentId c state t = .ok tr
    unfold resumeTransition
    rw [hinner, except_ok_bind, if_neg (by rw [hfresh]; exact Bool.false_ne_true)]
    exact ⟨_, rfl⟩

/-- A submitted candidate that is stored has been a valid one. -/
theorem ServedRequest.submits_of_transition {c : Candidate} {tr : Transition}
    (hop : request.op = .resumeRevision c)
    (h : request.op.transition request.service request.env assessmentId t = .ok tr) :
    request.Submits t := by
  rw [hop] at h
  obtain ⟨state, hrequired, h⟩ := except_bind_eq_ok.mp h
  obtain ⟨inner, hinner, h⟩ := except_bind_eq_ok.mp h
  obtain ⟨gateResult, telemetry, hgate, htelemetry, -, -⟩ := processTransition_eq_ok hinner
  refine ⟨c, state, gateResult, telemetry, hop, hrequired, hgate, htelemetry, ?_⟩
  by_contra hfresh
  rw [Bool.not_eq_false] at hfresh
  rw [if_pos hfresh] at h
  cases h

/-- A request that is carried out leaves the budget, or it is a submitted revision, after which
the budget is that of the policy in force. -/
theorem ServedRequest.revisionBudget_perform :
    (request.perform assessmentId t).revisionBudget = t.revisionBudget ∨
      request.Submits t ∧ (request.perform assessmentId t).revisionBudget =
        some request.service.policy.maxHumanRevisions := by
  rcases @performRequest_cases request.service assessmentId request.env request.op t with
    heq | ⟨tr, htr, heq⟩
  · exact .inl (congrArg Tables.revisionBudget heq)
  · obtain ⟨state, hrequired, -, hrecords⟩ := ReviewOp.transition_records htr
    have hstate := (Tables.requiredIn_eq_ok hrequired).2.1
    have hmax := hrecords.maxRevisions_eq
    have hbudget : (request.perform assessmentId t).revisionBudget =
        some tr.checkpoint.maxRevisions := congrArg Tables.revisionBudget heq
    rw [hbudget, hmax, Tables.revisionBudget, hstate]
    cases hcandidate : request.op.candidate with
    | none => exact .inl rfl
    | some c =>
      refine .inr ⟨ServedRequest.submits_of_transition (c := c) ?_ htr, rfl⟩
      cases hop : request.op with
      | resumeRevision c' =>
        rw [hop] at hcandidate
        cases hcandidate
        rfl
      | _ =>
        rw [hop] at hcandidate
        cases hcandidate

/-- On a reliable database, a submitted revision that succeeds takes the budget of the policy in
force. -/
theorem ServedRequest.Submits.revisionBudget (h : request.Submits t)
    (hsucceeds : request.Succeeds assessmentId t) :
    (request.reliable.perform assessmentId t).revisionBudget =
      some request.service.policy.maxHumanRevisions := by
  obtain ⟨tr, htr⟩ := ServedRequest.succeeds_iff.mp hsucceeds
  have hperform := performRequest_reliable request.op htr
  obtain ⟨c, -, -, -, hop, -⟩ := h
  obtain ⟨state, -, -, hrecords⟩ := ReviewOp.transition_records htr
  refine (congrArg Tables.revisionBudget hperform).trans (congrArg some ?_)
  refine hrecords.maxRevisions_eq.trans ?_
  rw [show request.op.candidate = some c by rw [hop]; rfl]
  rfl

end Submission

/-- Every revision that is submitted with a valid candidate succeeds and keeps the budget, and the
budget is always the one of the first gating, exactly if every revision is submitted under a
policy that permits as many revisions as the checkpoint records. -/
theorem revision_budget_kept_iff (assessmentId : UUID) (gating : Gating) (row : AssessmentRow)
    (requests : ℕ → ServedRequest) (n : ℕ) :
    let tables := tablesAfter assessmentId gating row requests
    ((∀ k < n, (requests k).Submits (tables k) → (requests k).Succeeds assessmentId (tables k) ∧
        ((requests k).reliable.perform assessmentId (tables k)).revisionBudget =
          (tables k).revisionBudget) ∧
      ∀ k ≤ n, (tables k).revisionBudget = (tables 0).revisionBudget) ↔
    ∀ k < n, (requests k).Submits (tables k) →
      (tables k).revisionBudget = some (requests k).service.policy.maxHumanRevisions := by
  intro tables
  constructor
  · rintro ⟨hsubmitted, -⟩ k hk hsubmits
    obtain ⟨hsucceeds, hbudget⟩ := hsubmitted k hk hsubmits
    exact hbudget.symm.trans (hsubmits.revisionBudget hsucceeds)
  · intro hagree
    refine ⟨fun k hk hsubmits => ?_, fun k hk => ?_⟩
    · have hbudget := hagree k hk hsubmits
      obtain ⟨state, hstate, hmax⟩ := Option.map_eq_some_iff.mp hbudget
      have hbound : state.revisionCount ≤ state.maxRevisions :=
        tablesAfter_invariant (fun _ h => h.revisionCount_le) (fun _ _ _ h _ => h.revisionCount_le)
          k state hstate
      have hsucceeds : (requests k).Succeeds assessmentId (tables k) :=
        (hsubmits.succeeds_iff hstate).mpr (hbound.trans hmax.le)
      exact ⟨hsucceeds, (hsubmits.revisionBudget hsucceeds).trans hbudget.symm⟩
    · induction k with
      | zero => rfl
      | succ k ih =>
        rw [← ih (Nat.le_of_lt hk)]
        rcases @ServedRequest.revisionBudget_perform (requests k) assessmentId (tables k) with
          hsame | ⟨hsubmits, hbudget⟩
        · exact hsame
        · exact hbudget.trans (hagree k hk hsubmits).symm

/-! ## A policy that is lowered in between -/

/-- The policy that permits no revision. -/
def RuntimeRiskPolicy.noRevisions : RuntimeRiskPolicy := { maxHumanRevisions := 0 }

/-- A candidate that the default policy holds. -/
def Gating.highRisk : Gating where
  service := .standard .default
  env := .ticking 0
  candidate := .highRisk

/-- A revision is requested under the default policy and submitted under a policy that permits
none. -/
def loweredPolicy : ℕ → ServedRequest
  | 0 => ⟨.standard .default, .ticking 100, .requestRevision .blank none⟩
  | _ => ⟨.standard .noRevisions, .ticking 200, .resumeRevision .highRisk⟩

/-- The revision that was requested can no longer be submitted. -/
theorem lowered_policy_blocks_revision :
    ¬ ∀ (assessmentId : UUID) (gating : Gating) (row : AssessmentRow)
      (requests : ℕ → ServedRequest) (n : ℕ),
      let tables := tablesAfter assessmentId gating row requests
      (∀ k < n, (requests k).Submits (tables k) → (requests k).Succeeds assessmentId (tables k) ∧
        ((requests k).reliable.perform assessmentId (tables k)).revisionBudget =
          (tables k).revisionBudget) ∧
      ∀ k ≤ n, (tables k).revisionBudget = (tables 0).revisionBudget := by
  intro hclaim
  let t := tablesAfter 7 .highRisk .inProcessing loweredPolicy 1
  obtain ⟨state, hstate⟩ : ∃ state, t.requiredIn .revisionRequested = .ok state :=
    except_exists_of_toBool (by decide +kernel)
  obtain ⟨telemetry, htelemetry⟩ : ∃ telemetry, (loweredPolicy 1).service.candidateTelemetry
      (loweredPolicy 1).env .highRisk (evaluate .noRevisions Candidate.highRisk.signals).decision
      ((loweredPolicy 1).env.clock 0) = .ok telemetry :=
    except_exists_of_toBool (by decide +kernel)
  have hsubmits : (loweredPolicy 1).Submits t :=
    ⟨.highRisk, state, _, telemetry, rfl, hstate, rfl, htelemetry, by decide +kernel⟩
  have hcount : t.checkpoint.map (·.revisionCount) = some 1 := by decide +kernel
  have hsucceeds := ((hclaim 7 .highRisk .inProcessing loweredPolicy 2).1 1 (by decide) hsubmits).1
  obtain ⟨found, hfound, hone⟩ := Option.map_eq_some_iff.mp hcount
  have hbound : found.revisionCount ≤ 0 := (hsubmits.succeeds_iff hfound).mp hsucceeds
  omega

end AssessmentPlatform
