import AssessmentPlatform.Governance.Lifecycle
import AssessmentPlatform.Governance.AuditTrail
import AssessmentPlatform.Library.LockedRequests

/-!
# Concurrent review requests

Every request reads the assessment row first, without a lock, and then locks the
checkpoint row until it commits or rolls back. Of the first read only the existence of
the row remains: `get_by_id` returns a copy, the identity map of the session holds weak
references, and the assignments to the row load it again under the lock.
-/

namespace AssessmentPlatform

open Library Locked

/-- The database of a request that read the row earlier and now holds the lock of the
checkpoint: it goes on with the stored tables if it has found a row. -/
def Db.locked (row : Option AssessmentRow) (t : Tables) : Db :=
  { Db.open t with working := { t with assessment := row.bind fun _ => t.assessment } }

/-- The environment in which no database step fails. -/
def Env.reliable (env : Env) : Env := { env with fault := fun _ _ => none }

section Protocol

variable (service : RuntimeGovernanceService) (assessmentId : UUID) (requests : ℕ → ReviewOp × Env)

/-- The run of a request that read the row earlier and now holds the lock. -/
def ReviewOp.execLocked (env : Env) (op : ReviewOp) (row : Option AssessmentRow) (t : Tables) :
    Except Failure Unit × World :=
  Prog.exec (op.program service env assessmentId) { db := .locked row t }

/-- The review requests on one assessment: the row is read without a lock, everything
else happens under the lock of the checkpoint, and a request commits if it returns. -/
def reviewProtocol : Protocol ℕ Tables (Option AssessmentRow) (Except Failure Unit) where
  read t := t.assessment
  body i row t :=
    let result := (requests i).1.execLocked service assessmentId (requests i).2 row t
    (result.1, result.2.db.committed)
  commits outcome := outcome.isOk

/-- One request alone, on a database that fails no step. -/
def serialRequest (i : ℕ) (t : Tables) : Tables :=
  performRequest service assessmentId (requests i).2.reliable (requests i).1 t

end Protocol

/-- A review of the assessment is open. -/
def Tables.ReviewOpen (t : Tables) : Prop :=
  ∃ state, t.checkpoint = some state ∧
    (state.reviewStatus = .pending ∨ state.reviewStatus = .revisionRequested)

/-! ## A stale row does no harm -/

section Stale

variable {service : RuntimeGovernanceService} {assessmentId : UUID} {env : Env}

/-- What is known of a row that was read earlier: it existed. -/
def StaleRow (row : Option AssessmentRow) (_ : Tables) : Prop := ∃ found, row = some found

variable (service env assessmentId) in
/-- A request that commits has carried out its transition on the tables under the lock. -/
theorem ReviewOp.execLocked_cases (op : ReviewOp) {row : Option AssessmentRow} {t : Tables}
    (hstale : StaleRow row t) :
    ((op.execLocked service assessmentId env row t).1 = .ok () ∧
      ∃ tr, op.transition service env assessmentId t = .ok tr ∧
        (op.execLocked service assessmentId env row t).2.db.committed = tr.apply t) ∨
      ∃ e, (op.execLocked service assessmentId env row t).1 = .error e ∧
        (op.transition service env assessmentId t = .error e ∨ env.Faults e) := by
  obtain ⟨found, rfl⟩ := hstale
  have hpublishes := ReviewOp.publishes service env assessmentId (Db.locked (some found) t) op rfl
    rfl
  rw [show (Db.locked (some found) t).working = t from rfl] at hpublishes
  rcases hpublishes.outcome (w := { db := .locked (some found) t }) rfl with
    ⟨⟨⟩, hok, hr⟩ | ⟨e, herror, hr, -⟩
  · obtain ⟨tr, htr, hcommitted⟩ := except_map_eq_ok.mp hr
    exact .inl ⟨hok, tr, htr, hcommitted.symm⟩
  · refine .inr ⟨e, herror, hr.imp_left fun hr => ?_⟩
    cases htr : op.transition service env assessmentId t with
    | error e' =>
      rw [htr] at hr
      exact congrArg _ (Except.error.inj hr)
    | ok tr =>
      rw [htr] at hr
      cases hr

/-- A request that raises publishes nothing. -/
theorem ReviewOp.execLocked_error (op : ReviewOp) {t : Tables} {row : Option AssessmentRow}
    (h : (op.execLocked service assessmentId env row t).1.isOk = false) :
    (op.execLocked service assessmentId env row t).2.db.committed = t := by
  have hpublishes := ReviewOp.publishes service env assessmentId (Db.locked row t) op rfl rfl
  rcases hpublishes.outcome (w := { db := .locked row t }) rfl with ⟨a, hok, -⟩ | ⟨e, -, -, hdb⟩
  · rw [show (op.execLocked service assessmentId env row t).1 = .ok a from hok] at h
    cases h
  · exact hdb

/-- On a database that fails no step, a request carries out its transition. -/
theorem performRequest_reliable (op : ReviewOp) {t : Tables} {tr : Transition}
    (h : op.transition service env assessmentId t = .ok tr) :
    performRequest service assessmentId env.reliable op t = tr.apply t := by
  have hreliable : op.transition service env.reliable assessmentId t = .ok tr := h
  have hpublishes := ReviewOp.publishes service env.reliable assessmentId (Db.open t) op rfl rfl
  rw [show (Db.open t).working = t from rfl, hreliable, except_map_ok] at hpublishes
  rcases hpublishes.outcome (w := { db := .open t }) rfl with
    ⟨a, -, hr⟩ | ⟨e, -, hr | ⟨step, n, error, hfault, -⟩, -⟩
  · exact (Except.ok.inj hr).symm
  · cases hr
  · cases hfault

variable {requests : ℕ → ReviewOp × Env}

/-- The row is never removed, so a stale row does no harm. -/
theorem harmless_review :
    Harmless (reviewProtocol service assessmentId requests)
      (serialRequest service assessmentId requests) (Reachable service assessmentId) StaleRow := by
  refine ⟨?_, ?_, ?_⟩
  · exact fun t h => h.assessment_eq_some
  · intro i row t h hstale hcommits
    rcases (requests i).1.execLocked_cases service assessmentId (requests i).2 hstale with
      ⟨-, tr, htr, hcommitted⟩ | ⟨e, herror, -⟩
    · have hserial : serialRequest service assessmentId requests i t = tr.apply t :=
        performRequest_reliable _ htr
      exact ⟨hcommitted.trans hserial.symm, .request h _ _, fun view hview => hview⟩
    · have hok : ((requests i).1.execLocked service assessmentId (requests i).2 row t).1.isOk =
          true := hcommits
      rw [herror] at hok
      cases hok
  · intro i row t _ hcommits
    exact (requests i).1.execLocked_error hcommits

end Stale

/-! ## The outcome of concurrent requests -/

/-- The requests that close a review. -/
def ReviewOp.decides : ReviewOp → Bool
  | .approve _ _ | .reject _ _ => true
  | .requestRevision _ _ | .resumeRevision _ => false

section Outcome

variable {service : RuntimeGovernanceService} {assessmentId : UUID} {env : Env} {t : Tables}

/-- A request that finds a transition acts in an open review. -/
theorem ReviewOp.reviewOpen_of_transition {op : ReviewOp} {tr : Transition}
    (htr : op.transition service env assessmentId t = .ok tr) : t.ReviewOpen := by
  obtain ⟨state, row, -, hstate, -, hstatus, -⟩ := ReviewOp.transition_eq_ok htr
  refine ⟨state, hstate, ?_⟩
  cases op <;> simp_all [ReviewOp.accepts]

/-- A decision closes the review. -/
theorem ReviewOp.transition_closes {op : ReviewOp} {tr : Transition}
    (htr : op.transition service env assessmentId t = .ok tr) (hdecides : op.decides = true) :
    ¬ (tr.apply t).ReviewOpen := by
  obtain ⟨state, row, -, -, -, -, haction | ⟨c, rfl, -⟩⟩ := ReviewOp.transition_eq_ok htr
  · obtain ⟨action, newStatus, revision, write, request, principal, telemetry, n, haction, -, -,
      rfl⟩ := haction
    rintro ⟨state', hstate', hopen⟩
    cases hstate'
    cases haction <;> simp_all [ReviewOp.decides, transitionState, StateValues.toState]
  · cases hdecides

/-- A request that finds another status than it accepts is refused. -/
theorem ReviewOp.transition_refused {op : ReviewOp} {row : AssessmentRow}
    {state : RuntimeAssessmentState} (hrow : t.assessment = some row)
    (hstate : t.checkpoint = some state) (hvalid : state.telemetry.Valid)
    (hstatus : state.reviewStatus ≠ op.accepts) :
    op.transition service env assessmentId t = .error (.application .invalidReviewTransition) := by
  have hrequired : t.requiredIn op.accepts =
      .error (.application .invalidReviewTransition) := by
    unfold Tables.requiredIn Tables.required
    simp only [hrow, hstate, if_pos hvalid, except_ok_bind, if_neg hstatus]
    rfl
  unfold ReviewOp.transition
  rw [hrequired]
  rfl

/-- A revision request beyond the limit is refused. -/
theorem ReviewOp.transition_limit {request : HumanReviewRequest}
    {principal : Option AuthenticatedPrincipal} {row : AssessmentRow}
    {state : RuntimeAssessmentState} (hrow : t.assessment = some row)
    (hstate : t.checkpoint = some state) (hvalid : state.telemetry.Valid)
    (hstatus : state.reviewStatus = .pending) (hlimit : state.revisionCount ≥ state.maxRevisions) :
    (ReviewOp.requestRevision request principal).transition service env assessmentId t =
      .error (.application .revisionLimitReached) := by
  have hrequired : t.requiredIn .pending = .ok state := by
    unfold Tables.requiredIn Tables.required
    simp only [hrow, hstate, if_pos hvalid, except_ok_bind, if_pos hstatus]
    rfl
  unfold ReviewOp.transition
  rw [show (ReviewOp.requestRevision request principal).accepts = .pending from rfl, hrequired,
    except_ok_bind]
  exact if_pos hlimit

end Outcome

section Serialized

variable {service : RuntimeGovernanceService} {assessmentId : UUID} {requests : ℕ → ReviewOp × Env}

/-- The invariant of concurrent review requests. -/
abbrev SerializedReview (service : RuntimeGovernanceService) (assessmentId : UUID)
    (requests : ℕ → ReviewOp × Env) (t₀ : Tables)
    (s : System ℕ Tables (Option AssessmentRow) (Except Failure Unit)) : Prop :=
  Serialized (reviewProtocol service assessmentId requests)
    (serialRequest service assessmentId requests) (Reachable service assessmentId) StaleRow t₀ s

/-- The outcome of a request is that of its transition on the tables it found. -/
theorem computed_review {i : ℕ} {found : Tables} {outcome : Except Failure Unit}
    (h : Computed (reviewProtocol service assessmentId requests) (Reachable service assessmentId)
      StaleRow i found outcome) :
    (outcome = .ok () ∧
      ∃ tr, (requests i).1.transition service (requests i).2 assessmentId found = .ok tr) ∨
    ∃ e, outcome = .error e ∧
      ((requests i).1.transition service (requests i).2 assessmentId found = .error e ∨
        (requests i).2.Faults e) := by
  obtain ⟨row, -, hstale, rfl⟩ := h
  rcases (requests i).1.execLocked_cases service assessmentId (requests i).2 hstale with
    ⟨hok, tr, htr, -⟩ | ⟨e, herror, hcause⟩
  · exact .inl ⟨hok, tr, htr⟩
  · exact .inr ⟨e, herror, hcause⟩

/-- A committed decision is the last commit. -/
theorem SerializedReview.decision_last {t₀ : Tables}
    {s : System ℕ Tables (Option AssessmentRow) (Except Failure Unit)}
    (hs : SerializedReview service assessmentId requests t₀ s) {i : ℕ}
    (hi : i ∈ s.log) (hdecides : (requests i).1.decides = true) :
    ∃ before, s.log = before ++ [i] := by
  have hcommitted : ∀ before j after, s.log = before ++ j :: after →
      ∃ tr, (requests j).1.transition service (requests j).2 assessmentId
        (serial (serialRequest service assessmentId requests) before t₀) = .ok tr := by
    intro before j after hsplit
    obtain ⟨outcome, hcomputed, hcommits⟩ := hs.history before j after hsplit
    rcases computed_review hcomputed with ⟨-, htr⟩ | ⟨e, rfl, -⟩
    · exact htr
    · cases hcommits
  obtain ⟨before, after, hsplit⟩ := List.append_of_mem hi
  cases after with
  | nil => exact ⟨before, hsplit⟩
  | cons j after =>
    -- a later commit would have found an open review
    obtain ⟨tr, htr⟩ := hcommitted before i (j :: after) hsplit
    obtain ⟨tr', htr'⟩ := hcommitted (before ++ [i]) j after (by simp [hsplit])
    have hafter : serial (serialRequest service assessmentId requests) (before ++ [i]) t₀ =
        tr.apply (serial (serialRequest service assessmentId requests) before t₀) := by
      simp only [serial, List.foldl_append, List.foldl_cons, List.foldl_nil]
      exact performRequest_reliable _ htr
    rw [hafter] at htr'
    exact absurd (ReviewOp.reviewOpen_of_transition htr')
      (ReviewOp.transition_closes htr hdecides)

/-- A request whose transition fails raises and commits nothing. -/
theorem SerializedReview.refused {t₀ : Tables}
    {s : System ℕ Tables (Option AssessmentRow) (Except Failure Unit)}
    (hs : SerializedReview service assessmentId requests t₀ s) {i : ℕ}
    {found : Tables} {outcome : Except Failure Unit} {refusal : ApplicationError}
    (hphase : s.phase i = .finished found outcome)
    (htransition : (requests i).1.transition service (requests i).2 assessmentId found =
      .error (.application refusal)) :
    i ∉ s.log ∧ ∃ e, outcome = .error e ∧
      (e = .application refusal ∨ (requests i).2.Faults e) := by
  rcases computed_review (hs.finished i found outcome hphase) with ⟨-, tr, htr⟩ | ⟨e, rfl, hcause⟩
  · rw [htransition] at htr
    cases htr
  · refine ⟨?_, e, rfl, hcause.imp_left fun he => ?_⟩
    · rw [hs.log i, hphase]
      rintro ⟨found', outcome', hsame, hcommits⟩
      cases hsame
      cases hcommits
    · rw [htransition] at he
      exact (Except.error.inj he).symm

end Serialized

/-- In every run of concurrent review requests the committed tables are those of the
committed requests run one after the other in the order of their commits; at most one of
these approves or rejects; and a request that finds a status it does not accept, or no
revision left, raises accordingly (or a database error) and commits nothing. -/
theorem review_requests_serializable (service : RuntimeGovernanceService) (assessmentId : UUID)
    (t₀ : Tables) (h₀ : Reachable service assessmentId t₀) (requests : ℕ → ReviewOp × Env)
    (schedule : List ℕ) :
    let s := run (reviewProtocol service assessmentId requests) schedule (start t₀)
    (s.log.Nodup ∧ (∀ i, i ∈ s.log ↔ ∃ found, s.phase i = .finished found (.ok ())) ∧
      s.shared = serial (serialRequest service assessmentId requests) s.log t₀) ∧
    (∀ i ∈ s.log, ∀ j ∈ s.log,
      (requests i).1.decides = true → (requests j).1.decides = true → i = j) ∧
    ∀ i found outcome, s.phase i = .finished found outcome → ∀ state ∈ found.checkpoint,
      (state.reviewStatus ≠ (requests i).1.accepts → i ∉ s.log ∧
        ∃ e, outcome = .error e ∧
          (e = .application .invalidReviewTransition ∨ (requests i).2.Faults e)) ∧
      (∀ request principal, (requests i).1 = .requestRevision request principal →
        state.reviewStatus = .pending → state.revisionCount ≥ state.maxRevisions → i ∉ s.log ∧
          ∃ e, outcome = .error e ∧
            (e = .application .revisionLimitReached ∨ (requests i).2.Faults e)) := by
  intro s
  have hs : SerializedReview service assessmentId requests t₀ s :=
    serialized_run harmless_review h₀ schedule
  refine ⟨⟨hs.nodup, ?_, hs.shared⟩, ?_, ?_⟩
  · intro i
    rw [hs.log i]
    constructor
    · rintro ⟨found, outcome, hphase, hcommits⟩
      cases outcome with
      | error e => cases hcommits
      | ok _ => exact ⟨found, hphase⟩
    · rintro ⟨found, hphase⟩
      exact ⟨found, _, hphase, rfl⟩
  · intro i hi j hj hdi hdj
    obtain ⟨before, hbefore⟩ := hs.decision_last hi hdi
    obtain ⟨before', hbefore'⟩ := hs.decision_last hj hdj
    exact List.singleton_inj.mp (List.append_inj' (hbefore.symm.trans hbefore') rfl).2
  · intro i found outcome hphase state hstate
    have hreach : Reachable service assessmentId found := by
      obtain ⟨view, hreach, -⟩ := hs.finished i found outcome hphase
      exact hreach
    obtain ⟨row, hrow⟩ := hreach.assessment_eq_some
    have hvalid := hreach.telemetry_valid state hstate
    constructor
    · intro hstatus
      exact hs.refused hphase (ReviewOp.transition_refused hrow hstate hvalid hstatus)
    · intro request principal hop hstatus hlimit
      refine hs.refused hphase ?_
      rw [hop]
      exact ReviewOp.transition_limit hrow hstate hvalid hstatus hlimit

/-- The tables of an assessment that waits for its review. -/
def pendingTables : Tables :=
  submit (.standard .default) 7 (.ticking 0) .highRisk { assessment := some .inProcessing }

/-- Two reviewers who decide at the same time, one way and the other. -/
def racingDecisions : ℕ → ReviewOp × Env
  | 0 => (.approve .blank none, .ticking 100)
  | _ => (.reject .blank none, .ticking 200)

/-- Of two reviewers who both read the pending row, only the first to lock it decides. -/
theorem review_requests_serializable_race :
    let s := run (reviewProtocol (.standard {}) 7 racingDecisions) [0, 1, 0, 1, 0, 0, 1, 1, 1]
      (start pendingTables)
    s.log = [0] ∧ s.shared = serialRequest (.standard {}) 7 racingDecisions 0 pendingTables := by
  intro s
  have hlog : s.log = [0] := by decide +kernel
  have hshared := (review_requests_serializable (.standard {}) 7 pendingTables (.submit rfl _ _)
    racingDecisions [0, 1, 0, 1, 0, 0, 1, 1, 1]).1.2.2
  refine ⟨hlog, hshared.trans ?_⟩
  rw [show (run _ _ (start pendingTables)).log = [0] from hlog]
  rfl

end AssessmentPlatform
