import AssessmentPlatform.Governance.Runs
import AssessmentPlatform.Rag.SourceBoundaries

/-!
# The columns of the audit events

The table of review events bounds nine of its text columns. Each of them is filled from a value
that is bounded elsewhere: identity claims, the request identifier that the middleware admits, the
legacy identifier of the request, and the values of the enumerations. All bounds agree but one. The
column of the legacy identifier also receives the subject of an authenticated reviewer, and it is
narrower than a subject may be. A database that enforces the widths refuses such an event, and the
decision of the reviewer is lost.
-/

namespace AssessmentPlatform

open Library

/-! ## Request identifiers -/

/-- The characters that a request identifier starts with. -/
def CodePoint.startsRequestId (c : CodePoint) : Bool :=
  (48 ≤ c.val && c.val ≤ 57) || (65 ≤ c.val && c.val ≤ 90) || (97 ≤ c.val && c.val ≤ 122)

/-- The characters that it goes on with: also the full stop, the underscore and the hyphen. -/
def CodePoint.continuesRequestId (c : CodePoint) : Bool :=
  c.startsRequestId || c.val == 46 || c.val == 95 || c.val == 45

/-- `_request_id_is_valid`, for a header that is present. -/
def requestIdIsValid (value : Str) (maxLength : ℕ) : Bool :=
  decide (value.length ≤ maxLength) &&
    match value with
    | [] => false
    | c :: rest => c.startsRequestId && rest.all CodePoint.continuesRequestId

/-- `_safe_request_id`: the valid header, or a generated identifier. -/
def safeRequestId (value : Option Str) (maxLength : ℕ) (generated : UUID) : Str :=
  match value.filter fun header => requestIdIsValid header maxLength with
  | some header => header
  | none => UUID.text generated

/-- What may continue a request identifier is not white space. -/
theorem CodePoint.isSpace_of_continuesRequestId {c : CodePoint}
    (h : c.continuesRequestId = true) : c.isSpace = false := by
  simp only [continuesRequestId, startsRequestId, Bool.or_eq_true, Bool.and_eq_true,
    decide_eq_true_eq, beq_iff_eq] at h
  simp only [isSpace, Bool.or_eq_false_iff, Bool.and_eq_false_iff, decide_eq_false_iff_not,
    beq_eq_false_iff_ne]
  omega

/-- A valid request identifier starts with an admitted character and continues with such ones. -/
theorem requestIdIsValid_iff {value : Str} {maxLength : ℕ} :
    requestIdIsValid value maxLength = true ↔ value.length ≤ maxLength ∧
      ∃ c rest, value = c :: rest ∧ c.startsRequestId = true ∧
        ∀ d ∈ rest, d.continuesRequestId = true := by
  cases value <;> simp [requestIdIsValid]

/-- A padded number has the given width. -/
theorem Str.padded_length (base width n : ℕ) : (Str.padded base width n).length = width := by
  induction width generalizing n with
  | zero => rfl
  | succ width ih => simp [Str.padded, ih]

/-- A UUID is written with 36 characters. -/
theorem UUID.text_length (id : UUID) : (UUID.text id).length = 36 := by
  simp [UUID.text, Str.join, List.intercalate, List.intersperse, Str.padded_length]

/-- A hexadecimal digit is not white space. -/
theorem digitChar_isSpace :
    ∀ n < 16, (CodePoint.ofChar (Nat.digitChar n)).isSpace = false := by
  decide +kernel

/-- A padded number holds no white space. -/
theorem Str.padded_isSpace (width n : ℕ) : ∀ c ∈ Str.padded 16 width n, c.isSpace = false := by
  induction width generalizing n with
  | zero => simp [Str.padded]
  | succ width ih =>
    intro c hc
    rw [Str.padded, List.mem_append, List.mem_singleton] at hc
    rcases hc with hc | rfl
    · exact ih _ c hc
    · exact digitChar_isSpace _ (Nat.mod_lt n (by decide))

/-- A UUID is written without white space. -/
theorem UUID.text_isSpace (id : UUID) : ∀ c ∈ UUID.text id, c.isSpace = false := by
  intro c hc
  rcases mem_join hc with rfl | ⟨group, hgroup, hc⟩
  · decide
  · simp only [List.mem_cons, List.not_mem_nil, or_false] at hgroup
    rcases hgroup with rfl | rfl | rfl | rfl | rfl
    all_goals exact Str.padded_isSpace _ _ c hc

/-- The middleware admits identifiers of at most the configured length, and its own are shorter
than any identifier that the settings let it refuse for its length. -/
theorem safeRequestId_length_le (value : Option Str) {maxLength : ℕ} (hmax : maxLength ≤ 128)
    (generated : UUID) : (safeRequestId value maxLength generated).length ≤ 128 := by
  unfold safeRequestId
  split
  · rename_i header hheader
    have hvalid := (Option.filter_eq_some_iff.mp hheader).2
    exact (requestIdIsValid_iff.mp hvalid).1.trans hmax
  · rw [UUID.text_length]
    decide

/-- A request identifier holds no white space, whether it was given or generated. -/
theorem safeRequestId_no_space (value : Option Str) (maxLength : ℕ) (generated : UUID) :
    ∀ c ∈ safeRequestId value maxLength generated, c.isSpace = false := by
  unfold safeRequestId
  split
  · rename_i header hheader
    obtain ⟨-, c, rest, rfl, hstart, hrest⟩ :=
      requestIdIsValid_iff.mp (Option.filter_eq_some_iff.mp hheader).2
    intro d hd
    rcases List.mem_cons.mp hd with rfl | hd
    · exact CodePoint.isSpace_of_continuesRequestId (by simp [CodePoint.continuesRequestId, hstart])
    · exact CodePoint.isSpace_of_continuesRequestId (hrest d hd)
  · exact UUID.text_isSpace generated

/-- The identifier that the middleware binds to a request. -/
def RequestId.safe (value : Option Str) (maxLength : ℕ) (hmax : maxLength ≤ 128)
    (generated : UUID) : RequestId where
  value := safeRequestId value maxLength generated
  length_le := safeRequestId_length_le value hmax generated
  no_space := safeRequestId_no_space value maxLength generated

/-! ## Widths -/

/-- The persisted value of an audit action. -/
def HumanReviewAction.value : HumanReviewAction → Str
  | .requested => "requested"
  | .approved => "approved"
  | .rejected => "rejected"
  | .revisionRequested => "revision_requested"
  | .revisionSubmitted => "revision_submitted"

/-- The bounded text columns of `human_review_events`: the width of each column, and what an event
stores in it. -/
def HumanReviewRecord.boundedColumns (event : HumanReviewRecord) : List (ℕ × Option Str) :=
  [(30, some event.action.value), (30, some event.previousStatus.value),
    (30, some event.newStatus.value), (100, event.reviewerId), (255, event.reviewerSubject),
    (320, event.reviewerEmail), (20, event.reviewerRole), (255, event.reviewerIssuer),
    (128, event.requestId.map RequestId.value)]

/-- An event fits the columns if none of its texts is wider than its column. -/
def HumanReviewRecord.FitsColumns (event : HumanReviewRecord) : Prop :=
  ∀ column ∈ event.boundedColumns, ∀ text ∈ column.2, text.length ≤ column.1

instance (event : HumanReviewRecord) : Decidable event.FitsColumns :=
  inferInstanceAs (Decidable (∀ column ∈ event.boundedColumns, _))

/-- The name of an action fits its column. -/
theorem HumanReviewAction.value_length_le (action : HumanReviewAction) :
    action.value.length ≤ 30 := by
  cases action <;> exact Str.length_le_ofList _ (by decide)

/-- The name of a review status fits its column. -/
theorem HumanReviewStatus.value_length_le (status : HumanReviewStatus) :
    status.value.length ≤ 30 := by
  cases status <;> exact Str.length_le_ofList _ (by decide)

/-- The name of a role fits its column. -/
theorem Role.value_length_le (role : Role) : role.value.length ≤ 20 := by
  cases role <;> exact Str.length_le_ofList _ (by decide)

/-- The event of a reviewer action fits the columns exactly if the recorded reviewer fits its
column: all other columns admit whatever the request can bring. -/
theorem transitionEvent_fitsColumns_iff (env : Env) (state : RuntimeAssessmentState)
    (action : HumanReviewAction) (newStatus : HumanReviewStatus) (request : HumanReviewRequest)
    (principal : Option AuthenticatedPrincipal) (revision : ℕ) (assessmentId reviewId : UUID)
    (now : Time) :
    ((transitionEvent env state action newStatus request principal revision).toRecord assessmentId
        reviewId now).FitsColumns ↔ ∀ p ∈ principal, p.subject.length ≤ 100 := by
  have haction := action.value_length_le
  have hprevious := HumanReviewStatus.pending.value_length_le
  have hnew := newStatus.value_length_le
  cases principal with
  | none =>
    have hlegacy : ∀ text ∈ request.reviewerId, text.length ≤ 100 :=
      fun text htext => (request.reviewerId_accepted text htext).2.2
    simpa [HumanReviewRecord.FitsColumns, HumanReviewRecord.boundedColumns, EventValues.toRecord,
      transitionEvent, reviewer, actorFields, haction, hprevious, hnew] using hlegacy
  | some p =>
    have hemail := p.email_le
    have hrole := p.auditRole.value_length_le
    have hid : ∀ id ∈ env.requestId, id.value.length ≤ 128 := fun id _ => id.length_le
    simp only [HumanReviewRecord.FitsColumns, HumanReviewRecord.boundedColumns,
      EventValues.toRecord, transitionEvent, reviewer, actorFields, List.forall_mem_cons,
      Option.mem_def, Option.some.injEq, forall_eq', haction, hprevious, hnew,
      p.subject_bounds.2, hrole, p.issuer_bounds.2, true_and]
    simpa using fun _ => ⟨hemail, hid⟩

/-! ## Databases that enforce the widths -/

/-- The environment of a request to which the middleware has bound an identifier. -/
def Env.serving (env : Env) (header : Option Str) {maxLength : ℕ} (hmax : maxLength ≤ 128)
    (generated : UUID) : Env :=
  { env with requestId := some (.safe header maxLength hmax generated) }

/-- The environment in which the database refuses an event that does not fit its columns, and every
other step passes. -/
def Env.enforcingWidths (env : Env) (event : HumanReviewRecord) : Env :=
  { env with
    fault := fun step _ =>
      if step = .addReviewEvent ∧ ¬event.FitsColumns then some .other else none }

/-- The arguments of a reviewer action. -/
def ReviewOp.reviewed : ReviewOp → Option (HumanReviewRequest × Option AuthenticatedPrincipal)
  | .approve request principal | .reject request principal | .requestRevision request principal =>
    some (request, principal)
  | .resumeRevision _ => none

/-- A program that raises from every state. -/
def Session.Raises {α : Type} (x : Session α) : Prop :=
  Prog.Triple (fun _ => True) x (fun _ _ => False) fun _ _ => True

section Raises

variable {α β : Type} {x : Session α} {f : α → Session β}

/-- A throw raises. -/
theorem Session.raises_throw (e : Failure) : Session.Raises (throw e : Session α) :=
  Prog.triple_throw fun _ h => h

/-- What is behind a computation that raises is not reached. -/
theorem Session.Raises.bind_left (hx : Session.Raises x) : Session.Raises (x >>= f) :=
  Prog.Triple.bind hx fun _ _ h => h.elim

/-- Whatever the first part does, the second one raises. -/
theorem Session.Raises.bind (hf : ∀ a, Session.Raises (f a)) : Session.Raises (x >>= f) := by
  refine Prog.Triple.bind (Q := fun _ _ => True) (fun w _ => ?_) hf
  generalize Prog.exec x w = result
  rcases result with ⟨e | a, w'⟩ <;> trivial

variable {env : Env} {assessmentId : UUID}

/-- A statement that the database always refuses raises. -/
theorem raises_dbStep {step : DbStep} (h : ∀ n, env.fault step n ≠ none) :
    Session.Raises (dbStep env step) := by
  intro w _
  unfold dbStep
  simp only [Prog.exec_bind, Prog.exec_get, Prog.exec_modify]
  cases hfault : env.fault step w.steps with
  | none => exact h _ hfault
  | some error => trivial

variable (h : ∀ n, env.fault .addReviewEvent n ≠ none)

include h

/-- An event that is refused raises. -/
theorem raises_addReviewEvent (v : EventValues) :
    Session.Raises (addReviewEvent env assessmentId v) := by
  refine .bind fun reviewId => .bind fun time => .bind fun t => ?_
  split
  · exact Session.raises_throw _
  · exact .bind fun _ => (raises_dbStep h).bind_left

/-- A transition whose event is refused raises. -/
theorem raises_persistTransition (state : RuntimeAssessmentState) (action : HumanReviewAction)
    (newStatus : HumanReviewStatus) (request : HumanReviewRequest)
    (telemetry : OperationalTelemetry) (principal : Option AuthenticatedPrincipal) (revision : ℕ) :
    Session.Raises (persistTransition env assessmentId state action newStatus request telemetry
      principal revision) :=
  .bind fun _ => (raises_addReviewEvent h _).bind_left

/-- If the audit event cannot be inserted, no reviewer action returns. -/
theorem raises_reviewOp {service : RuntimeGovernanceService} {op : ReviewOp}
    {arguments : HumanReviewRequest × Option AuthenticatedPrincipal}
    (hop : op.reviewed = some arguments) :
    Session.Raises (op.program service env assessmentId) := by
  cases op with
  | approve request principal =>
    refine Session.Raises.bind_left (.bind fun state => ?_)
    split
    · exact Session.raises_throw _
    · refine .bind fun record => ?_
      split
      · exact Session.raises_throw _
      · exact .bind fun _ => (raises_persistTransition h _ _ _ _ _ _ _).bind_left
  | reject request principal =>
    refine Session.Raises.bind_left (.bind fun state => .bind fun record => ?_)
    split
    · exact Session.raises_throw _
    · exact .bind fun _ => (raises_persistTransition h _ _ _ _ _ _ _).bind_left
  | requestRevision request principal =>
    refine Session.Raises.bind_left (.bind fun state => ?_)
    split
    · exact Session.raises_throw _
    · exact .bind fun _ => (raises_persistTransition h _ _ _ _ _ _ _).bind_left
  | resumeRevision candidate => cases hop

end Raises

section Enforced

variable {service : RuntimeGovernanceService} {env : Env} {assessmentId : UUID} {t : Tables}
  {tr : Transition} {op : ReviewOp} {request : HumanReviewRequest}
  {principal : Option AuthenticatedPrincipal}

/-- A reviewer action that succeeds writes one event, which fits its columns exactly if the subject
of the reviewer fits that of the legacy identifier. -/
theorem ReviewOp.transition_event (hop : op.reviewed = some (request, principal))
    (h : op.transition service env assessmentId t = .ok tr) :
    ∃ event, tr.event = some event ∧
      (event.FitsColumns ↔ ∀ p ∈ principal, p.subject.length ≤ 100) := by
  obtain ⟨state, row, -, -, -, -, haction | ⟨c, rfl, -⟩⟩ := ReviewOp.transition_eq_ok h
  · obtain ⟨action, newStatus, revision, write, request', principal', telemetry, n, haction, -, -,
      rfl⟩ := haction
    have harguments : op.reviewed = some (request', principal') := by
      cases haction <;> rfl
    obtain ⟨rfl, rfl⟩ : request' = request ∧ principal' = principal := by
      simpa using harguments.symm.trans hop
    exact ⟨_, rfl, transitionEvent_fitsColumns_iff _ _ _ _ _ _ _ _ _ _⟩
  · cases hop

/-- The widths that the database enforces do not change the transition. -/
theorem Env.enforcingWidths_transition (event : HumanReviewRecord) :
    op.transition service (env.enforcingWidths event) assessmentId t =
      op.transition service env assessmentId t := by
  cases op <;> rfl

/-- An event that fits is stored, and the decision with it. -/
theorem performRequest_of_fits {event : HumanReviewRecord} (hfits : event.FitsColumns)
    (h : op.transition service env assessmentId t = .ok tr) :
    (Prog.exec (op.program service (env.enforcingWidths event) assessmentId)
        { db := .open t }).1 = .ok () ∧
      performRequest service assessmentId (env.enforcingWidths event) op t = tr.apply t := by
  have hpublishes := ReviewOp.publishes service (env.enforcingWidths event) assessmentId (Db.open t)
    op rfl rfl
  rcases hpublishes.outcome (w := { db := .open t }) rfl with
    ⟨a, hreturns, hdb⟩ | ⟨e, -, hraises | ⟨step, n, error, hfault, -⟩, -⟩
  · refine ⟨hreturns, ?_⟩
    change (op.transition service (env.enforcingWidths event) assessmentId t).map _ = _ at hdb
    rw [Env.enforcingWidths_transition, h, except_map_ok] at hdb
    exact (Except.ok.inj hdb).symm
  · change (op.transition service (env.enforcingWidths event) assessmentId t).map _ = _ at hraises
    rw [Env.enforcingWidths_transition, h] at hraises
    cases hraises
  · simp [Env.enforcingWidths, hfits] at hfault

/-- An event that does not fit is refused, and the decision is rolled back. -/
theorem performRequest_of_not_fits {event : HumanReviewRecord} (hfits : ¬event.FitsColumns)
    (hop : op.reviewed = some (request, principal)) :
    (Prog.exec (op.program service (env.enforcingWidths event) assessmentId)
        { db := .open t }).1 ≠ .ok () ∧
      performRequest service assessmentId (env.enforcingWidths event) op t = t := by
  have hraises : Session.Raises (op.program service (env.enforcingWidths event) assessmentId) :=
    raises_reviewOp (by simp [Env.enforcingWidths, hfits]) hop
  have hpublishes := ReviewOp.publishes service (env.enforcingWidths event) assessmentId (Db.open t)
    op rfl rfl
  have hoff := hraises { db := .open t } trivial
  rcases hpublishes.outcome (w := { db := .open t }) rfl with
    ⟨a, hreturns, -⟩ | ⟨e, herror, -, hdb⟩
  · generalize Prog.exec (op.program service (env.enforcingWidths event) assessmentId)
      { db := .open t } = result at hoff hreturns
    rcases result with ⟨e | a, w⟩
    · cases hreturns
    · exact hoff.elim
  · exact ⟨by simp [herror], hdb⟩

end Enforced

/-! ## Decisions of authenticated reviewers -/

/-- Whatever a reviewer action finds and whoever takes it, the one event that it writes fits its
columns exactly if the subject of the reviewer is at most as long as the column of the legacy
identifier is wide. A database that enforces the widths keeps the decision in this case and rolls
it back in every other. -/
theorem review_event_fits_iff (service : RuntimeGovernanceService) (assessmentId : UUID)
    (env : Env) (header : Option Str) {maxLength : ℕ} (hmax : maxLength ≤ 128) (generated : UUID)
    {t : Tables} {tr : Transition} {op : ReviewOp} {request : HumanReviewRequest}
    {principal : Option AuthenticatedPrincipal}
    (hop : op.reviewed = some (request, principal))
    (h : op.transition service (env.serving header hmax generated) assessmentId t = .ok tr) :
    ∃ event, tr.event = some event ∧
      (event.FitsColumns ↔ ∀ p ∈ principal, p.subject.length ≤ 100) ∧
      let enforcing := (env.serving header hmax generated).enforcingWidths event
      ((Prog.exec (op.program service enforcing assessmentId) { db := .open t }).1 = .ok () ↔
        ∀ p ∈ principal, p.subject.length ≤ 100) ∧
      ((∀ p ∈ principal, p.subject.length ≤ 100) →
        performRequest service assessmentId enforcing op t = tr.apply t) ∧
      ((¬∀ p ∈ principal, p.subject.length ≤ 100) →
        performRequest service assessmentId enforcing op t = t) := by
  obtain ⟨event, hevent, hfits⟩ := ReviewOp.transition_event hop h
  have hkept (hsubject : ∀ p ∈ principal, p.subject.length ≤ 100) :=
    performRequest_of_fits (hfits.mpr hsubject) h
  have hlost (hsubject : ¬∀ p ∈ principal, p.subject.length ≤ 100) :
      (Prog.exec (op.program service
        ((env.serving header hmax generated).enforcingWidths event) assessmentId)
          { db := .open t }).1 ≠ .ok () ∧
        performRequest service assessmentId
          ((env.serving header hmax generated).enforcingWidths event) op t = t :=
    performRequest_of_not_fits (fun hevent => hsubject (hfits.mp hevent)) hop
  refine ⟨event, hevent, hfits, ⟨fun hreturns => ?_, fun hsubject => (hkept hsubject).1⟩,
    fun hsubject => (hkept hsubject).2, fun hsubject => (hlost hsubject).2⟩
  by_contra hsubject
  exact (hlost hsubject).1 hreturns

/-- A reviewer whose subject has one character more than the given number. -/
def AuthenticatedPrincipal.withSubject (n : Fin 255) : AuthenticatedPrincipal where
  subject := List.replicate (n + 1) 97
  roles := [.reviewer]
  issuer := [97]
  subject_bounds := by
    rw [List.length_replicate]
    omega
  email_le := by simp
  roles_nonempty := by simp
  issuer_bounds := by simp

/-- The tables of an assessment that waits for its review. -/
def Tables.awaitingReview : Tables :=
  submit (.standard .default) 7 (.ticking 0) .highRisk { assessment := some .inProcessing }

/-- The approval of such a reviewer. -/
def ReviewOp.approvedBy (n : Fin 255) : ReviewOp :=
  .approve .blank (some (.withSubject n))

/-- The environment of the approval. -/
def Env.approving : Env :=
  (Env.ticking 10).serving none (by decide : 64 ≤ 128) 0

/-- A subject of a hundred characters keeps the decision. -/
theorem review_event_fits_hundred :
    ∃ tr event, (ReviewOp.approvedBy 99).transition (.standard {}) .approving 7 .awaitingReview =
        .ok tr ∧
      tr.event = some event ∧ event.FitsColumns ∧
      performRequest (.standard {}) 7 (Env.approving.enforcingWidths event) (.approvedBy 99)
        .awaitingReview = tr.apply .awaitingReview := by
  have hreturns : ((ReviewOp.approvedBy 99).transition (.standard {}) .approving 7
      .awaitingReview).toBool = true := by decide +kernel
  obtain ⟨tr, htr⟩ := except_exists_of_toBool hreturns
  have hsubject : ∀ p ∈ some (AuthenticatedPrincipal.withSubject 99), p.subject.length ≤ 100 := by
    rintro p ⟨⟩
    exact (List.length_replicate ..).le
  obtain ⟨event, hevent, hfits, -, hkept, -⟩ :=
    review_event_fits_iff (.standard {}) 7 (.ticking 10) none (by decide : 64 ≤ 128) 0 rfl htr
  exact ⟨tr, event, htr, hevent, hfits.mpr hsubject, hkept hsubject⟩

/-- One character more, and a database that enforces the widths refuses the event: the checkpoint
stays pending, and the approval is lost. -/
theorem review_event_refused :
    ∃ tr event, (ReviewOp.approvedBy 100).transition (.standard {}) .approving 7 .awaitingReview =
        .ok tr ∧
      tr.event = some event ∧ ¬event.FitsColumns ∧
      performRequest (.standard {}) 7 (Env.approving.enforcingWidths event) (.approvedBy 100)
        .awaitingReview = .awaitingReview := by
  have hreturns : ((ReviewOp.approvedBy 100).transition (.standard {}) .approving 7
      .awaitingReview).toBool = true := by decide +kernel
  obtain ⟨tr, htr⟩ := except_exists_of_toBool hreturns
  obtain ⟨event, hevent, hfits⟩ := ReviewOp.transition_event rfl htr
  have hwide : ¬event.FitsColumns := by
    intro hevent
    have hsubject : (List.replicate 101 97 : Str).length ≤ 100 := hfits.mp hevent _ rfl
    rw [List.length_replicate] at hsubject
    omega
  exact ⟨tr, event, htr, hevent, hwide, (performRequest_of_not_fits hwide rfl).2⟩

end AssessmentPlatform
