import AssessmentPlatform.Governance.Runs
import Mathlib.Data.List.Chain
import Mathlib.Data.List.Nodup

/-!
# The audit trail

Review events are inserted by the gate, by the reviewer actions and by a resumed
revision. In every run they form one chain of status changes that ends at the status
of the checkpoint, and the revision requests among them are numbered in order, which
is why the feedback of the latest one is always found.
-/

namespace AssessmentPlatform

open Library

/-- The revision counter of the checkpoint; there are no revisions before the gate. -/
def Tables.revisionCount (t : Tables) : ℕ :=
  (t.checkpoint.map (·.revisionCount)).getD 0

/-- The events with which a reviewer asked for a revision. -/
def Tables.revisionRequests (t : Tables) : List HumanReviewRecord :=
  t.events.filter fun e => decide (e.action = .revisionRequested)

/-- The review events form a chain that leads to the status of the checkpoint. -/
structure AuditTrail (t : Tables) : Prop where
  /-- Each event starts from the status that the preceding one led to. -/
  chain : t.events.IsChain fun a b => b.previousStatus = a.newStatus
  /-- The first event starts from `NOT_REQUIRED`. -/
  first : ∀ e ∈ t.events.head?, e.previousStatus = .notRequired
  /-- The last event led to the status of the checkpoint. -/
  last : ∀ e ∈ t.events.getLast?, t.checkpoint.map (·.reviewStatus) = some e.newStatus
  /-- Without events no review was ever needed. -/
  quiet : t.events = [] → ∀ state ∈ t.checkpoint, state.reviewStatus = .notRequired
  /-- The revision requests are numbered from one to the revision counter. -/
  revisions : t.revisionRequests.map (·.revisionNumber) = List.range' 1 t.revisionCount
  /-- An open revision was requested by the last event. -/
  open_revision : ∀ state ∈ t.checkpoint, state.reviewStatus = .revisionRequested →
    ∃ e, t.events.getLast? = some e ∧ e.action = .revisionRequested ∧
      e.revisionNumber = state.revisionCount

section Steps

variable {service : RuntimeGovernanceService} {assessmentId : UUID} {env : Env}

/-- Every reviewer action asks for a status that a review can have. -/
theorem ReviewOp.accepts_ne_notRequired (op : ReviewOp) : op.accepts ≠ .notRequired := by
  cases op <;> nofun

/-- The gate never asks for a revision. -/
theorem gateStatus_ne_revisionRequested (decision : RuntimeRiskDecision) :
    gateStatus decision ≠ .revisionRequested := by
  cases decision <;> nofun

/-- Appending an event that starts from the status of the checkpoint and leads to the
status of the new one extends the trail. -/
theorem AuditTrail.append {t : Tables} (h : AuditTrail t) {state state' : RuntimeAssessmentState}
    {e : HumanReviewRecord} {row : Option AssessmentRow} (hstate : t.checkpoint = some state)
    (hopen : state.reviewStatus ≠ .notRequired) (hprevious : e.previousStatus = state.reviewStatus)
    (hnew : state'.reviewStatus = e.newStatus)
    (hrevision : e.action = .revisionRequested ∧ e.revisionNumber = state.revisionCount + 1 ∧
        state'.revisionCount = state.revisionCount + 1 ∨
      e.action ≠ .revisionRequested ∧ state'.revisionCount = state.revisionCount ∧
        e.newStatus ≠ .revisionRequested) :
    AuditTrail { assessment := row, checkpoint := some state', events := t.events ++ [e] } := by
  have hne : t.events ≠ [] := fun hnil => hopen (h.quiet hnil state (by rw [hstate]; rfl))
  refine ⟨?_, ?_, ?_, ?_, ?_, ?_⟩
  · refine h.chain.append (List.isChain_singleton _) ?_
    rintro a ha b ⟨⟩
    have hlast := h.last a ha
    rw [hstate] at hlast
    exact hprevious.trans (Option.some.inj hlast)
  · intro a ha
    rw [List.head?_append_of_ne_nil _ hne] at ha
    exact h.first a ha
  · intro a ha
    simp only [List.getLast?_append, List.getLast?_singleton, Option.some_or] at ha
    cases ha
    simp [hnew]
  · simp
  · have hcount : t.revisionCount = state.revisionCount := by simp [Tables.revisionCount, hstate]
    have hrevisions := h.revisions
    rw [hcount] at hrevisions
    rcases hrevision with ⟨haction, hnumber, hcount'⟩ | ⟨haction, hcount', -⟩
    · simp [Tables.revisionRequests, Tables.revisionCount, haction, hcount', hnumber,
        List.range'_1_concat] at hrevisions ⊢
      exact ⟨hrevisions, Nat.add_comm _ _⟩
    · simpa [Tables.revisionRequests, Tables.revisionCount, haction, hcount'] using hrevisions
  · rintro s ⟨⟩ hs
    refine ⟨e, by simp, ?_⟩
    rcases hrevision with ⟨haction, hnumber, hcount'⟩ | ⟨-, -, hnot⟩
    · exact ⟨haction, hnumber.trans hcount'.symm⟩
    · exact absurd (hnew.symm.trans hs) hnot

/-- Every transition of a review request extends the trail by one event. -/
theorem AuditTrail.transition {t : Tables} (h : AuditTrail t) {op : ReviewOp} {tr : Transition}
    (htr : op.transition service env assessmentId t = .ok tr) : AuditTrail (tr.apply t) := by
  obtain ⟨state, row, -, hstate, -, hstatus, haction | ⟨c, rfl, hresume⟩⟩ :=
    ReviewOp.transition_eq_ok htr
  · obtain ⟨action, newStatus, revision, write, request, principal, telemetry, n, haction, -, -,
      rfl⟩ := haction
    have hopen : state.reviewStatus ≠ .notRequired := by
      rw [hstatus]
      exact op.accepts_ne_notRequired
    cases haction with
    | approve _ => exact h.append hstate hopen hstatus.symm rfl (.inr ⟨nofun, rfl, nofun⟩)
    | reject => exact h.append hstate hopen hstatus.symm rfl (.inr ⟨nofun, rfl, nofun⟩)
    | requestRevision _ => exact h.append hstate hopen hstatus.symm rfl (.inl ⟨rfl, rfl, rfl⟩)
  · obtain ⟨gateResult, telemetry, -, -, -, rfl⟩ := resumeTransition_eq_ok hresume
    have hopen : state.reviewStatus ≠ .notRequired := by
      rw [hstatus]
      exact ReviewOp.accepts_ne_notRequired _
    refine h.append hstate hopen rfl rfl (.inr ⟨nofun, rfl, ?_⟩)
    exact gateStatus_ne_revisionRequested _

/-- The trail holds in every committed state of every run. -/
theorem Reachable.auditTrail {t : Tables} (h : Reachable service assessmentId t) :
    AuditTrail t := by
  refine h.induction ?_ ?_ ?_
  · intro row _
    exact ⟨.nil, by simp, by simp, by simp, rfl, by simp⟩
  · intro row env c tr _ htr
    obtain ⟨gateResult, telemetry, -, -, -, rfl⟩ := processTransition_eq_ok htr
    by_cases hpending : gateStatus gateResult.decision = .pending
    · simp only [Transition.apply, hpending, true_and, if_true, List.nil_append,
        Option.toList_some]
      refine ⟨List.isChain_singleton _, ?_, ?_, by simp, rfl, ?_⟩
      · rintro e ⟨⟩
        rfl
      · rintro e ⟨⟩
        exact congrArg some hpending
      · rintro state ⟨⟩ hstate
        exact absurd hstate (gateStatus_ne_revisionRequested _)
    · simp only [Transition.apply, hpending, false_and, if_false, List.nil_append,
        Option.toList_none]
      refine ⟨.nil, by simp, by simp, ?_, rfl, ?_⟩
      · rintro - state ⟨⟩
        cases hdecision : gateResult.decision <;>
          simp_all [gateStatus, gateValues, StateValues.toState]
      · rintro state ⟨⟩ hstate
        exact absurd hstate (gateStatus_ne_revisionRequested _)
  · intro t env op tr ih htr
    exact ih.transition htr

/-- The row of the assessment is never lost. -/
theorem Reachable.assessment_eq_some {t : Tables} (h : Reachable service assessmentId t) :
    ∃ row, t.assessment = some row := by
  refine h.induction (P := fun t => ∃ row, t.assessment = some row) ?_ ?_ ?_
  · exact fun row _ => ⟨row, rfl⟩
  · exact fun row env c tr _ _ => ⟨_, rfl⟩
  · rintro t env op tr ⟨row, hrow⟩ -
    exact ⟨tr.write.apply row, by simp [Transition.apply, hrow]⟩

/-- Every committed checkpoint can be read back. -/
theorem Reachable.telemetry_valid {t : Tables} (h : Reachable service assessmentId t) :
    ∀ state ∈ t.checkpoint, state.telemetry.Valid := by
  refine h.induction (P := fun t => ∀ state ∈ t.checkpoint, state.telemetry.Valid) ?_ ?_ ?_
  · simp
  · rintro row env c tr _ htr state ⟨⟩
    obtain ⟨gateResult, telemetry, -, htelemetry, -, rfl⟩ := processTransition_eq_ok htr
    exact gateTelemetry_valid (candidateTelemetry_valid htelemetry) _ _
  · rintro t env op tr - htr state ⟨⟩
    obtain ⟨state, row, -, -, -, -, haction | ⟨c, rfl, hresume⟩⟩ := ReviewOp.transition_eq_ok htr
    · obtain ⟨action, newStatus, revision, write, request, principal, telemetry, n, -, hvalid, -,
        rfl⟩ := haction
      exact hvalid
    · obtain ⟨gateResult, telemetry, -, hvalid, -, rfl⟩ := resumeTransition_eq_ok hresume
      exact hvalid

end Steps

section Feedback

variable {service : RuntimeGovernanceService} {assessmentId : UUID}

/-- The numbers of the revision requests tell them apart. -/
theorem AuditTrail.revision_unique {t : Tables} (h : AuditTrail t) {a b : HumanReviewRecord}
    (ha : a ∈ t.revisionRequests) (hb : b ∈ t.revisionRequests)
    (hab : a.revisionNumber = b.revisionNumber) : a = b := by
  have hnodup : (t.revisionRequests.map (·.revisionNumber)).Nodup := by
    rw [h.revisions]
    exact List.nodup_range'
  exact List.inj_on_of_nodup_map hnodup ha hb hab

/-- The feedback search finds the last event, in whatever order the events are listed. -/
theorem AuditTrail.find_feedback {t : Tables} (h : AuditTrail t) {state : RuntimeAssessmentState}
    (hstate : t.checkpoint = some state) (hstatus : state.reviewStatus = .revisionRequested) :
    ∃ event, t.events.getLast? = some event ∧ event.action = .revisionRequested ∧
      event.revisionNumber = state.revisionCount ∧
      (t.events.mergeSort HumanReviewRecord.le).reverse.find? (fun item =>
        decide (item.action = .revisionRequested) &&
          decide (item.revisionNumber = state.revisionCount)) = some event := by
  obtain ⟨event, hlast, haction, hnumber⟩ := h.open_revision state (by rw [hstate]; rfl) hstatus
  refine ⟨event, hlast, haction, hnumber, ?_⟩
  have hmem : event ∈ (t.events.mergeSort HumanReviewRecord.le).reverse := by
    rw [List.mem_reverse, List.mem_mergeSort]
    exact List.mem_of_getLast? hlast
  cases hfind : (t.events.mergeSort HumanReviewRecord.le).reverse.find? (fun item =>
      decide (item.action = .revisionRequested) &&
        decide (item.revisionNumber = state.revisionCount)) with
  | none =>
    have hnot := List.find?_eq_none.mp hfind event hmem
    simp [haction, hnumber] at hnot
  | some found =>
    have hfound := List.find?_some hfind
    have hfoundMem := List.mem_of_find?_eq_some hfind
    rw [List.mem_reverse, List.mem_mergeSort] at hfoundMem
    simp only [Bool.and_eq_true, decide_eq_true_eq] at hfound
    refine congrArg some (h.revision_unique ?_ ?_ (hfound.2.trans hnumber.symm))
    · simp [Tables.revisionRequests, hfoundMem, hfound.1]
    · simp [Tables.revisionRequests, List.mem_of_getLast? hlast, haction]

/-- Reading the feedback of an open revision returns its event. -/
theorem computes_getRevisionFeedback {t : Tables} (h : AuditTrail t) {row : AssessmentRow}
    {state : RuntimeAssessmentState} (hrow : t.assessment = some row)
    (hstate : t.checkpoint = some state) (hvalid : state.telemetry.Valid)
    (hstatus : state.reviewStatus = .revisionRequested) (env : Env) {event : HumanReviewRecord}
    (hlast : t.events.getLast? = some event) :
    Computes env [.getAssessment, .getState, .listReviewEvents] (getRevisionFeedback env)
      (Db.open t) (.ok (event, Db.open t)) := by
  obtain ⟨event', hlast', -, -, hfind⟩ := h.find_feedback hstate hstatus
  cases hlast.symm.trans hlast'
  have hread := computes_requiredState env (Db.open t)
  have hrequired : t.required = .ok state := by
    simp [Tables.required, hrow, hstate, hvalid]
  rw [show (Db.open t).working = t from rfl, hrequired] at hread
  unfold getRevisionFeedback
  refine hread.bind rfl ?_
  rw [if_neg (by simpa using hstatus)]
  refine computes_listReviewEvents.bind rfl ?_
  rw [show (Db.open t).working = t from rfl, hfind]
  exact computes_pure _

end Feedback

/-- In every committed state of every run the review events form a chain that no
request shortens or rewrites; a revision request appends its own event, with its
comment and the new revision number; and while a revision is open, reading its
feedback returns the event of the latest revision request unless the database fails. -/
theorem audit_trail (service : RuntimeGovernanceService) (assessmentId : UUID) {t : Tables}
    (h : Reachable service assessmentId t) :
    AuditTrail t ∧
    (∀ env op, t.events <+: (performRequest service assessmentId env op t).events) ∧
    (∀ env request principal,
      let t' := performRequest service assessmentId env (.requestRevision request principal) t
      t' = t ∨ ∃ event, t'.events = t.events ++ [event] ∧ event.action = .revisionRequested ∧
        event.comment = request.comment ∧ event.revisionNumber = t'.revisionCount ∧
        t'.checkpoint.map (·.reviewStatus) = some .revisionRequested) ∧
    ∀ state ∈ t.checkpoint, state.reviewStatus = .revisionRequested →
      ∃ event, t.events.getLast? = some event ∧ event.action = .revisionRequested ∧
        event.revisionNumber = state.revisionCount ∧
        ∀ env, (Prog.exec (getRevisionFeedback env) { db := .open t }).1 = .ok event ∨
          ∃ step n error, env.fault step n = some error ∧
            (Prog.exec (getRevisionFeedback env) { db := .open t }).1 =
              .error (.database error) := by
  refine ⟨h.auditTrail, ?_, ?_, ?_⟩
  · intro env op
    rcases performRequest_cases env op t with heq | ⟨tr, -, heq⟩
    · exact ⟨[], by rw [heq, List.append_nil]⟩
    · rw [heq]
      exact List.prefix_append _ _
  · intro env request principal t'
    rcases performRequest_cases env (.requestRevision request principal) t with
      heq | ⟨tr, htr, heq⟩
    · exact .inl heq
    · right
      obtain ⟨state, row, -, -, -, -, haction | ⟨c, hc, -⟩⟩ := ReviewOp.transition_eq_ok htr
      · obtain ⟨action, newStatus, revision, write, request, principal, telemetry, n, haction, -, -,
          rfl⟩ := haction
        cases haction
        rw [show t' = _ from heq]
        exact ⟨_, rfl, rfl, rfl, rfl, rfl⟩
      · cases hc
  · intro state hstate hstatus
    obtain ⟨row, hrow⟩ := h.assessment_eq_some
    obtain ⟨event, hlast, haction, hnumber⟩ := h.auditTrail.open_revision state hstate hstatus
    refine ⟨event, hlast, haction, hnumber, fun env => ?_⟩
    have hfeedback := computes_getRevisionFeedback h.auditTrail hrow hstate
      (h.telemetry_valid state hstate) hstatus env hlast { db := .open t } rfl
    generalize Prog.exec (getRevisionFeedback env) { db := .open t } = result at hfeedback ⊢
    rcases result with ⟨e | a, w⟩
    · obtain ⟨hraise | ⟨step, -, n, error, hfault, rfl⟩, -⟩ := hfeedback
      · cases hraise
      · exact .inr ⟨step, n, error, hfault, rfl⟩
    · obtain ⟨hresult, -⟩ := hfeedback
      simp only [Except.ok.injEq, Prod.mk.injEq] at hresult
      exact .inl (by rw [hresult.1])

/-- A revision requested with the comment `A` is found again, with its comment. -/
theorem audit_trail_revision :
    let request : HumanReviewRequest := { comment := some [65], comment_accepted := by decide }
    let t₀ := submit (.standard {}) 7 (.ticking 0) .highRisk { assessment := some .inProcessing }
    let t := performRequest (.standard {}) 7 (.ticking 10) (.requestRevision request none) t₀
    Reachable (.standard {}) 7 t ∧ t.revisionCount = 1 ∧
      ∃ event, event.comment = some [65] ∧
        (Prog.exec (getRevisionFeedback (.ticking 20)) { db := .open t }).1 = .ok event := by
  intro request t₀ t
  have hreach₀ : Reachable (.standard {}) 7 t₀ := .submit rfl _ _
  have hreach : Reachable (.standard {}) 7 t := .request hreach₀ _ _
  have hcount₀ : t₀.revisionCount = 0 := by decide +kernel
  have hcount : t.revisionCount = 1 := by decide +kernel
  refine ⟨hreach, hcount, ?_⟩
  rcases (audit_trail _ 7 hreach₀).2.2.1 (.ticking 10) request none with
    heq | ⟨event, hevents, -, hcomment, -, hstatus⟩
  · have hsame : t.revisionCount = t₀.revisionCount := congrArg _ heq
    omega
  · obtain ⟨state, hstate, hstatus⟩ := Option.map_eq_some_iff.mp hstatus
    obtain ⟨event', hlast, -, -, hfeedback⟩ :=
      (audit_trail _ 7 hreach).2.2.2 state hstate hstatus
    have hevent : event' = event := by
      change t.events = t₀.events ++ [event] at hevents
      rw [hevents, List.getLast?_append, List.getLast?_singleton] at hlast
      exact (Option.some.inj hlast).symm
    rcases hfeedback (.ticking 20) with hok | ⟨step, n, error, hfault, -⟩
    · exact ⟨event, hcomment, hevent ▸ hok⟩
    · cases hfault

end AssessmentPlatform
