import AssessmentPlatform.Governance.Inversion

/-!
# The programs carry out their transitions

Every governance program publishes exactly what its transition says, or raises what
its transition raises, or is cut short by a failing database step. In the last two
cases the committed tables stay as they were.
-/

namespace AssessmentPlatform

open Library

/-! ## Reading the checkpoint -/

section Reading

variable {α : Type} {env : Env} {d : Db} {steps : List DbStep}

/-- A handler that only renames exceptions, and none of those of the database. -/
theorem Computes.tryCatch_throw {x : Session α} {r : Except Failure (α × Db)}
    {g : Failure → Failure} (hx : Computes env steps x d r) (hg : ∀ e, env.Faults e → g e = e) :
    Computes env steps (tryCatch x fun e => throw (g e)) d (r.mapError g) := by
  refine Prog.Triple.tryCatch
    (hx.conseq (fun _ h => h) (fun a w h => ?_) (fun _ _ h => h)) fun e => Prog.triple_throw ?_
  · rw [h.1]
    exact ⟨rfl, h.2⟩
  · rintro w ⟨h | h, hdb⟩
    · exact ⟨.inl (by rw [h]; rfl), hdb⟩
    · exact ⟨.inr (by rw [hg e h.faults]; exact h), hdb⟩

/-- A stored row is read with one statement. -/
theorem computes_requiredAssessment {row : AssessmentRow} (h : d.working.assessment = some row) :
    Computes env [.getAssessment] (requiredAssessment env) d (.ok (row, d)) := by
  unfold requiredAssessment
  refine computes_getById.bind rfl ?_
  rw [h]
  exact computes_pure _

/-- Without a row the read of a required one fails after one statement. -/
theorem computes_requiredAssessment_none (h : d.working.assessment = none) :
    Computes env [.getAssessment] (requiredAssessment env) d
      (.error (.application .assessmentNotFound)) := by
  unfold requiredAssessment
  refine computes_getById.bind rfl ?_
  rw [h]
  exact computes_throw _

variable (env d) in
/-- Reading the checkpoint, or why it cannot be read. -/
theorem computes_requiredState :
    Computes env [.getAssessment, .getState] (requiredState env) d
      (d.working.required.map fun state => (state, d)) := by
  have hg : ∀ e, env.Faults e →
      (if e = .value then Failure.application .persistence else e) = e := by
    rintro e ⟨step, n, error, -, rfl⟩
    exact if_neg (by simp)
  unfold requiredState Tables.required
  cases hrow : d.working.assessment with
  | none => exact (computes_requiredAssessment_none hrow).bind_error
  | some row =>
    refine (computes_requiredAssessment hrow).bind rfl ?_
    cases hstate : d.working.checkpoint with
    | none =>
      exact ((computes_getState_none hstate).tryCatch_throw hg).bind rfl (computes_throw _)
    | some state =>
      by_cases hvalid : state.telemetry.Valid
      · simp only [if_pos hvalid]
        exact ((computes_getState hstate hvalid).tryCatch_throw hg).bind rfl (computes_pure _)
      · simp only [if_neg hvalid]
        exact ((computes_getState_invalid hstate hvalid).tryCatch_throw hg).bind_error

variable (env d) in
/-- A checkpoint in a status is read with two statements. -/
theorem computes_requiredStateIn (status : HumanReviewStatus) :
    Computes env [.getAssessment, .getState] (requiredStateIn env status) d
      ((d.working.requiredIn status).map fun state => (state, d)) := by
  unfold requiredStateIn Tables.requiredIn
  have h := computes_requiredState env d
  cases hrequired : d.working.required with
  | error e =>
    rw [hrequired] at h
    exact h.bind_error
  | ok state =>
    rw [hrequired] at h
    refine h.bind rfl ?_
    change Computes env _ _ d (Except.map _ (if state.reviewStatus = status then _ else _))
    by_cases hstatus : state.reviewStatus = status
    · simp only [if_pos hstatus]
      exact computes_pure _
    · simp only [if_neg hstatus]
      exact computes_throw _

end Reading

/-! ## Processing a candidate -/

section Processing

variable {service : RuntimeGovernanceService} {env : Env} {assessmentId : UUID} {d : Db}

/-- An event is appended at the time that the clock shows. -/
theorem computes_appendEvent (telemetry : OperationalTelemetry) (eventType : RuntimeTraceEventType)
    (status component : Str) :
    Computes env [] (appendEvent env telemetry eventType status component) d
      (.ok (telemetry.addEvent eventType status component (env.clock d.readings),
        { d with readings := d.readings + 1 })) :=
  computes_now.bind rfl (computes_pure _)

/-- The database step with which a decision moves the row. -/
def gateStep : RuntimeRiskDecision → DbStep
  | .requireHumanReview => .markPendingReview
  | .blockAndEscalate => .markFailed
  | _ => .markCompleted

/-- The database steps of `process_candidate` after the gate has decided. -/
def gateSteps (decision : RuntimeRiskDecision) (recordReviewRequest : Bool) : List DbStep :=
  [gateStep decision] ++ ([.saveState] ++
    if gateStatus decision = .pending ∧ recordReviewRequest = true then [.addReviewEvent] else [])

/-- The database steps of `process_candidate`. -/
def RuntimeGovernanceService.processSteps (service : RuntimeGovernanceService) (c : Candidate)
    (overrides : SignalOverrides) (recordReviewRequest : Bool) : List DbStep :=
  match service.evaluate (c.signals.override overrides) with
  | .ok gateResult => gateSteps gateResult.decision recordReviewRequest
  | .error _ => []

/-- The row is moved as the decision says, and one event is appended. -/
theorem computes_applyDecision {row : AssessmentRow} (hrow : d.working.assessment = some row)
    (c : Candidate) (decision : RuntimeRiskDecision) (telemetry : OperationalTelemetry) :
    Computes env [gateStep decision] (applyDecision env c decision telemetry) d
      (.ok ((gateStatus decision,
          some ((gateWrite c.result c.execution decision (env.clock d.readings)).apply row),
          gateTelemetry decision telemetry (env.clock (d.readings + 1))),
        { d.assignRow
            ((gateWrite c.result c.execution decision (env.clock d.readings)).apply row) with
          readings := d.readings + 2 })) := by
  cases decision <;>
    exact (computes_updateRow hrow).bind rfl
      ((computes_appendEvent _ _ _ _).bind rfl (computes_pure _))

/-- The tail of a request that cannot fail: hand over the telemetry and return. -/
theorem computes_exportTelemetry {α : Type} (telemetry : OperationalTelemetry)
    (gateResult : QualityGateResult) (a : α) :
    Computes env [] (do exportTelemetry telemetry gateResult; pure a) d (.ok (a, d)) := by
  rintro w rfl
  exact ⟨rfl, by simp [Env.Passes]⟩

/-- The database after the writes of a transition, before the commit. -/
def Db.perform (d : Db) (tr : Transition) : Db :=
  { d with
    working := tr.apply d.working
    readings := d.readings + 4 + tr.event.toList.length
    ids := d.ids + tr.event.toList.length }

variable (service env assessmentId) in
/-- `process_candidate` carries out its transition. -/
theorem computes_processCandidate (hids : d.ids = 0) {row : AssessmentRow}
    (hrow : d.working.assessment = some row) (c : Candidate) (overrides : SignalOverrides)
    (revisionCount : ℕ) (recordReviewRequest : Bool) :
    Computes env (service.processSteps c overrides recordReviewRequest)
      (processCandidate service env assessmentId c overrides revisionCount recordReviewRequest) d
      ((processTransition service env assessmentId c overrides revisionCount recordReviewRequest
        d.readings d.working).map fun tr => (tr.write.apply row, d.perform tr)) := by
  unfold processTransition processCandidate RuntimeGovernanceService.processSteps
  cases hgate : service.evaluate (c.signals.override overrides) with
  | error e => exact (computes_ofExcept_error rfl).bind_error
  | ok gateResult =>
  refine (computes_ofExcept_ok rfl).bind rfl (computes_now.bind rfl ?_)
  cases htelemetry : service.candidateTelemetry env c gateResult.decision
    (env.clock d.readings) with
  | error e =>
    rw [except_ok_bind, htelemetry]
    exact (computes_ofExcept_error rfl).bind_error
  | ok telemetry =>
  have hvalid := candidateTelemetry_valid htelemetry
  rw [except_ok_bind, htelemetry, except_ok_bind]
  refine (computes_ofExcept_ok rfl).bind rfl ((computes_applyDecision
    (d := { d with readings := d.readings + 1 }) hrow c _ telemetry).bind rfl ?_)
  by_cases hbound : service.policy.maxHumanRevisions < revisionCount
  · rw [if_pos hbound]
    exact (computes_saveState_bound hbound).bind_error
  rw [if_neg hbound]
  refine (computes_saveState (not_lt.mp hbound)
    (gateTelemetry_valid hvalid gateResult.decision _)).bind rfl ?_
  dsimp only
  by_cases hrecord : gateStatus gateResult.decision = .pending ∧ recordReviewRequest = true
  · simp only [if_pos hrecord]
    by_cases htaken : d.working.idTaken (env.newId 0) = true
    · rw [if_pos ⟨hrecord.1, hrecord.2, htaken⟩]
      exact (computes_addReviewEvent_taken (by rw [← hids] at htaken; exact htaken)).bind_error_last
    · rw [if_neg fun h => htaken h.2.2]
      refine (computes_addReviewEvent ?_).bind rfl ((computes_exportTelemetry _ _ _).of_eq ?_)
      · rw [← hids] at htaken
        exact Bool.eq_false_iff.mpr htaken
      · simp [Db.perform, Transition.apply, hrow, Db.putState, Db.assignRow, Db.appendEvent, pure,
          Except.pure, hids, requestEvent]
        rfl
  · simp only [if_neg hrecord]
    rw [if_neg fun h => hrecord ⟨h.1, h.2.1⟩]
    refine (computes_exportTelemetry _ _ _).of_eq ?_
    simp [Db.perform, Transition.apply, hrow, Db.putState, Db.assignRow, pure, Except.pure]
    rfl

end Processing

/-! ## Reviewer actions -/

section Actions

variable {service : RuntimeGovernanceService} {env : Env} {assessmentId : UUID} {d : Db}

/-- The telemetry of a review is that at the time that the clock shows. -/
theorem computes_reviewTelemetry (state : RuntimeAssessmentState) (status : HumanReviewStatus)
    (eventType : RuntimeTraceEventType) :
    Computes env [] (reviewTelemetry env state status eventType) d
      (.ok (reviewTelemetryAt env.clock d.readings state status eventType,
        { d with readings := d.readings + 3 })) :=
  computes_now.bind rfl ((computes_appendEvent _ _ _ _).bind rfl (computes_appendEvent _ _ _ _))

variable (env assessmentId) in
/-- The checkpoint and the audit event of a reviewer action. -/
theorem computes_persistTransition {t : Tables} (hids : d.ids = 0)
    (hcheckpoint : d.working.checkpoint = t.checkpoint) (hevents : d.working.events = t.events)
    {telemetry : OperationalTelemetry} (hvalid : telemetry.Valid) (write : RowWrite)
    (state : RuntimeAssessmentState) (action : HumanReviewAction) (newStatus : HumanReviewStatus)
    (request : HumanReviewRequest) (principal : Option AuthenticatedPrincipal) (revision : ℕ) :
    Computes env [.saveState, .addReviewEvent]
      (persistTransition env assessmentId state action newStatus request telemetry principal
        revision) d
      ((persistedTransition env assessmentId write state action newStatus request telemetry
        principal revision d.readings t).map fun tr =>
          ((), { d with
            working :=
              { assessment := d.working.assessment, checkpoint := some tr.checkpoint
                events := t.events ++ tr.event.toList }
            readings := d.readings + 2
            ids := 1 })) := by
  have htaken : d.working.idTaken (env.newId d.ids) = t.idTaken (env.newId 0) := by
    rw [Tables.idTaken, hevents, hids]
    rfl
  unfold persistTransition persistedTransition
  by_cases hbound : state.maxRevisions < revision
  · rw [if_pos hbound]
    exact (computes_saveState_bound hbound).bind_error
  rw [if_neg hbound]
  refine (computes_saveState (not_lt.mp hbound) hvalid).bind rfl ?_
  by_cases hid : t.idTaken (env.newId 0) = true
  · rw [if_pos hid]
    refine (computes_addReviewEvent_taken ?_).bind_error
    exact htaken.trans hid
  · rw [if_neg hid]
    refine (computes_addReviewEvent ?_).bind rfl ((computes_pure _).of_eq ?_)
    · exact htaken.trans (Bool.eq_false_iff.mpr hid)
    simp [Db.appendEvent, Db.putState, pure, Except.pure, hids, hcheckpoint, hevents]

variable (env d) in
/-- The end of a transition publishes the tables of the session. -/
theorem publishes_finishTransition {α : Type} (telemetry : OperationalTelemetry)
    (gateResult : QualityGateResult) (value : α) :
    Publishes env (finishTransition env telemetry gateResult value) d
      (.ok d.commit.committed) := by
  exact publishes_commit fun w h => ⟨value, _, rfl, h⟩

/-- A program publishes an equal outcome as well. -/
theorem Publishes.of_eq {α : Type} {x : Session α} {r r' : Except Failure Tables}
    (h : Publishes env x d r) (hr : r = r') : Publishes env x d r' :=
  hr ▸ h

/-- A reviewer action: the row has been assigned, and the rest of the request stores
checkpoint and event, commits, and returns. -/
theorem publishes_persistTransition {t : Tables} {row : AssessmentRow} {α : Type}
    (write : RowWrite) (hids : d.ids = 0) (hrow : t.assessment = some row)
    (hwrite : d.working.assessment = some (write.apply row))
    (hcheckpoint : d.working.checkpoint = t.checkpoint) (hevents : d.working.events = t.events)
    {telemetry : OperationalTelemetry} (hvalid : telemetry.Valid)
    (state : RuntimeAssessmentState) (action : HumanReviewAction) (newStatus : HumanReviewStatus)
    (request : HumanReviewRequest) (principal : Option AuthenticatedPrincipal) (revision : ℕ)
    (value : α) :
    Publishes env
      (do
        persistTransition env assessmentId state action newStatus request telemetry principal
          revision
        finishTransition env telemetry state.gateResult value) d
      ((persistedTransition env assessmentId write state action newStatus request telemetry
        principal revision d.readings t).map (·.apply t)) := by
  have h := computes_persistTransition env assessmentId hids hcheckpoint
    hevents hvalid write state action newStatus request principal revision
  cases htr : persistedTransition env assessmentId write state action newStatus request telemetry
    principal revision d.readings t with
  | error e =>
    rw [htr] at h
    exact h.bind_error_publishes
  | ok tr =>
    rw [htr] at h
    refine h.bind_publishes rfl ?_
    have hw : tr.write = write := by
      unfold persistedTransition at htr
      split at htr
      · cases htr
      · split at htr <;> cases htr
        rfl
    have hfinal := publishes_finishTransition env
      { d with
        working :=
          { assessment := d.working.assessment, checkpoint := some tr.checkpoint
            events := t.events ++ tr.event.toList }
        readings := d.readings + 2
        ids := 1 } telemetry state.gateResult value
    simpa [Db.commit, Transition.apply, hwrite, hrow, hw] using hfinal

/-- A request that acts only in one review status. -/
theorem publishes_requiredStateIn {α : Type} {status : HumanReviewStatus}
    {f : RuntimeAssessmentState → Session α}
    {g : RuntimeAssessmentState → Except Failure Transition}
    (h : ∀ state row, d.working.assessment = some row → d.working.checkpoint = some state →
      state.telemetry.Valid → Publishes env (f state) d ((g state).map (·.apply d.working))) :
    Publishes env (requiredStateIn env status >>= f) d
      ((d.working.requiredIn status >>= g).map (·.apply d.working)) := by
  have hread := computes_requiredStateIn env d status
  cases hstate : d.working.requiredIn status with
  | error e =>
    rw [hstate] at hread
    exact hread.bind_error_publishes
  | ok state =>
    rw [hstate] at hread
    obtain ⟨hrow, hcheckpoint, hvalid, -⟩ := Tables.requiredIn_eq_ok hstate
    obtain ⟨row, hrow⟩ := Option.ne_none_iff_exists'.mp hrow
    exact hread.bind_publishes rfl (h state row hrow hcheckpoint hvalid)

/-- A failure publishes nothing. -/
theorem publishes_throw {α : Type} (e : Failure) :
    Publishes env (throw e : Session α) d (.error e) :=
  Prog.triple_throw fun _ h => ⟨.inl rfl, by rw [h]⟩

/-- An approval publishes the tables after its transition. -/
theorem publishes_approve (hreadings : d.readings = 0) (hids : d.ids = 0)
    (request : HumanReviewRequest) (principal : Option AuthenticatedPrincipal) :
    Publishes env (approve env assessmentId request principal) d
      (((ReviewOp.approve request principal).transition service env assessmentId
        d.working).map (·.apply d.working)) := by
  refine publishes_requiredStateIn fun state row hrow _ hvalid => ?_
  obtain ⟨committed, working, readings, ids⟩ := d
  subst hreadings
  cases hcandidate : state.candidateResult with
  | none => exact publishes_throw _
  | some result =>
    refine (computes_updateRow hrow).bind_publishes rfl
      ((computes_reviewTelemetry _ _ _).bind_publishes rfl ?_)
    refine publishes_persistTransition (t := working)
      (.completed result state.candidateExecution (env.clock 0)) ?_ hrow ?_ ?_ ?_ ?_
      state .approved .approved request principal state.revisionCount _
    · exact hids
    · rfl
    · rfl
    · rfl
    · exact reviewTelemetryAt_valid hvalid _ _ _ _

/-- A rejection publishes the tables after its transition. -/
theorem publishes_reject (hreadings : d.readings = 0) (hids : d.ids = 0)
    (request : HumanReviewRequest) (principal : Option AuthenticatedPrincipal) :
    Publishes env (reject env assessmentId request principal) d
      (((ReviewOp.reject request principal).transition service env assessmentId
        d.working).map (·.apply d.working)) := by
  refine publishes_requiredStateIn fun state row hrow _ hvalid => ?_
  obtain ⟨committed, working, readings, ids⟩ := d
  subst hreadings
  refine (computes_updateRow hrow).bind_publishes rfl
    ((computes_reviewTelemetry _ _ _).bind_publishes rfl ?_)
  refine publishes_persistTransition (t := working) (.failed _ _ (env.clock 0))
    ?_ hrow ?_ ?_ ?_ ?_ state .rejected .rejected request principal state.revisionCount _
  · exact hids
  · rfl
  · rfl
  · rfl
  · exact reviewTelemetryAt_valid hvalid env.clock 1 .rejected .humanReviewRejected

/-- A request for a revision publishes the tables after its transition. -/
theorem publishes_requestRevision (hreadings : d.readings = 0) (hids : d.ids = 0)
    (request : HumanReviewRequest) (principal : Option AuthenticatedPrincipal) :
    Publishes env (requestRevision env assessmentId request principal) d
      (((ReviewOp.requestRevision request principal).transition service env assessmentId
        d.working).map (·.apply d.working)) := by
  refine publishes_requiredStateIn fun state row hrow _ hvalid => ?_
  obtain ⟨committed, working, readings, ids⟩ := d
  subst hreadings
  by_cases hlimit : state.revisionCount ≥ state.maxRevisions
  · simp only [if_pos hlimit]
    exact publishes_throw _
  · simp only [if_neg hlimit]
    refine (computes_reviewTelemetry _ _ _).bind_publishes rfl ?_
    refine publishes_persistTransition (t := working) .unchanged ?_ hrow ?_ ?_ ?_ ?_
      state .revisionRequested .revisionRequested request principal (state.revisionCount + 1) _
    · exact hids
    · exact hrow
    · rfl
    · rfl
    · exact reviewTelemetryAt_valid hvalid _ _ _ _

/-- After the writes of a transition its checkpoint can be read. -/
theorem Tables.required_perform {tr : Transition} {row : AssessmentRow}
    (hrow : d.working.assessment = some row) (hvalid : tr.checkpoint.telemetry.Valid) :
    (d.perform tr).working.required = .ok tr.checkpoint := by
  simp [Db.perform, Transition.apply, Tables.required, hrow, hvalid]

/-- `resume_revision` carries out its transition. -/
theorem publishes_resumeRevision (hreadings : d.readings = 0) (hids : d.ids = 0) (c : Candidate) :
    Publishes env (resumeRevision service env assessmentId c) d
      (((ReviewOp.resumeRevision c).transition service env assessmentId
        d.working).map (·.apply d.working)) := by
  refine publishes_requiredStateIn fun state row hrow _ hvalid => ?_
  obtain ⟨committed, working, readings, ids⟩ := d
  subst hreadings hids
  have hprocess := computes_processCandidate service env assessmentId
    (d := ⟨committed, working, 0, 0⟩) rfl hrow
    { c with retrievalDurationMs := none } {} state.revisionCount false
  dsimp only [resumeTransition]
  cases htr : processTransition service env assessmentId { c with retrievalDurationMs := none } {}
    state.revisionCount false 0 working with
  | error e =>
    rw [htr] at hprocess
    exact hprocess.bind_error_publishes
  | ok tr =>
  rw [htr] at hprocess
  refine hprocess.bind_publishes rfl ?_
  obtain ⟨hvalid', hbound, hid, hevent⟩ := processTransition_checkpoint htr
  have hread := computes_requiredState env
    (Db.perform ⟨committed, working, 0, 0⟩ tr)
  rw [Tables.required_perform hrow hvalid'] at hread
  refine hread.bind_publishes rfl (computes_now.bind_publishes rfl
    ((computes_saveState hbound ?_).bind_publishes rfl ?_))
  · exact mergedTelemetry_valid hvalid' _ (waitMs_nonneg _ _) _
  by_cases htaken : working.idTaken (env.newId 0) = true
  · simp only [except_ok_bind, if_pos htaken]
    refine (computes_addReviewEvent_taken ?_).bind_error_publishes
    simpa [Db.putState, Db.perform, Transition.apply, hevent, Tables.idTaken] using htaken
  · simp only [except_ok_bind, if_neg htaken]
    refine (computes_addReviewEvent ?_).bind_publishes rfl ?_
    · simpa [Db.putState, Db.perform, Transition.apply, hevent, Tables.idTaken] using htaken
    · refine (publishes_finishTransition _ _ _ _ _).of_eq ?_
      simp [Db.commit, Db.appendEvent, Db.putState, Db.perform, Transition.apply, hevent,
        StateValues.toState, EventValues.toRecord, ← hid, pure, Except.pure]

variable (service env assessmentId d) in
/-- Every request of the review workflow publishes what its transition says. -/
theorem ReviewOp.publishes (op : ReviewOp) (hreadings : d.readings = 0) (hids : d.ids = 0) :
    Publishes env (op.program service env assessmentId) d
      ((op.transition service env assessmentId d.working).map (·.apply d.working)) := by
  cases op with
  | approve request principal => exact (publishes_approve hreadings hids request principal).discard
  | reject request principal => exact (publishes_reject hreadings hids request principal).discard
  | requestRevision request principal =>
    exact (publishes_requestRevision hreadings hids request principal).discard
  | resumeRevision c => exact (publishes_resumeRevision hreadings hids c).discard

end Actions

end AssessmentPlatform
