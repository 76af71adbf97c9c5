import AssessmentPlatform.Agents.Constraints
import AssessmentPlatform.Api.Dashboard
import AssessmentPlatform.Governance.Refinement
import AssessmentPlatform.Library.Relational

/-!
# Reading through the API

The requests of the API that read assessments and reviews. The candidate of a checkpoint, which no
reviewer has released yet, is shown on one route only, and that route requires a reviewer or an
administrator: whoever is neither reads the same from two stores that differ in candidates alone.
The row of a held assessment has no result, but it has the execution metadata of the candidate.
-/

namespace AssessmentPlatform

open Library

/-! ## The source -/

/-- The status of the gate and of the review, without the candidate. -/
structure RuntimeStatusResponse where
  assessmentId : UUID
  gateResult : QualityGateResult
  reviewStatus : HumanReviewStatus
  revisionCount : ℕ
  maxRevisions : ℕ
  telemetry : OperationalTelemetry
  deriving DecidableEq

/-- The candidate that waits for a reviewer. -/
structure ReviewCandidateResponse where
  assessmentId : UUID
  result : AssessmentResult
  execution : Option ExecutionMetadata
  gateResult : QualityGateResult
  reviewStatus : HumanReviewStatus
  telemetry : OperationalTelemetry
  revisionCount : ℕ
  maxRevisions : ℕ
  deriving DecidableEq

instance (result : AssessmentResult) : Decidable result.Valid :=
  decidable_of_iff
    (result.executiveSummary.encodable = true ∧
      (∀ risk ∈ result.risks, risk.mitigation.encodable = true) ∧
      (∀ gap ∈ result.informationGaps, gap.encodable = true) ∧
      ∀ reference ∈ result.sourceReferences, reference.documentTitle.encodable = true)
    ⟨fun h => ⟨h.1, h.2.1, h.2.2.1, h.2.2.2⟩, fun h =>
      ⟨h.executiveSummary, h.risks, h.informationGaps, h.sourceReferences⟩⟩

section Programs

variable (env : Env) (assessmentId : UUID)

/-- `get_runtime_status`. -/
def getRuntimeStatus : Session RuntimeStatusResponse := do
  let state ← requiredState env
  pure
    { assessmentId, gateResult := state.gateResult, reviewStatus := state.reviewStatus
      revisionCount := state.revisionCount, maxRevisions := state.maxRevisions
      telemetry := state.telemetry }

/-- `list_reviews`. -/
def listReviews : Session (List HumanReviewRecord) := do
  let _ ← requiredAssessment env
  listReviewEvents env

/-- The response to a reviewer: the stored candidate is validated again. -/
def RuntimeAssessmentState.candidate (state : RuntimeAssessmentState) :
    Except Failure ReviewCandidateResponse :=
  match state.candidateResult with
  | none => .error (.application .persistence)
  | some result =>
    if result.Valid then
      .ok
        { assessmentId, result, execution := state.candidateExecution
          gateResult := state.gateResult, reviewStatus := state.reviewStatus
          telemetry := state.telemetry, revisionCount := state.revisionCount
          maxRevisions := state.maxRevisions }
    else .error (.application .persistence)

/-- `get_review_candidate`. -/
def getReviewCandidate : Session ReviewCandidateResponse := do
  let _ ← requiredAssessment env
  let state ← requiredState env
  Session.ofExcept (state.candidate assessmentId)

end Programs

/-- A page that the routes accept. -/
structure PageQuery where
  offset : ℕ
  limit : ℕ
  offset_le : offset ≤ 100000
  limit_bounds : 1 ≤ limit ∧ limit ≤ 100

/-- The calls that read. -/
inductive ReadCall where
  | getSession
  | getAssessment (assessmentId : UUID)
  | getRuntimeStatus (assessmentId : UUID)
  | listReviews (assessmentId : UUID)
  | getReviewCandidate (assessmentId : UUID)
  | listAssessments (status : Option AssessmentStatus) (query : PageQuery)
  | listPendingReviews (query : PageQuery)

/-- The route of a call. -/
def ReadCall.route : ReadCall → ApiRoute
  | .getSession => .getSession
  | .getAssessment _ => .getAssessment
  | .getRuntimeStatus _ => .getRuntimeStatus
  | .listReviews _ => .listReviews
  | .getReviewCandidate _ => .getReviewCandidate
  | .listAssessments _ _ => .listAssessments
  | .listPendingReviews _ => .listPendingReviews

/-- The safe identity of the principal; its roles form a set. -/
structure PrincipalResponse where
  subject : Str
  email : Option Str
  displayName : Option Str
  roles : List Str
  issuer : Str
  deriving DecidableEq

/-- `get_session`. -/
def NamedPrincipal.session (principal : NamedPrincipal) : PrincipalResponse where
  subject := principal.subject
  email := principal.email
  displayName := principal.displayName
  roles := (principal.roles.map Role.value).dedup.insertionSort (· ≤ ·)
  issuer := principal.issuer

/-- What a call answers. -/
inductive ReadResponse where
  | session (response : PrincipalResponse)
  | assessment (response : AssessmentResponse)
  | runtimeStatus (response : RuntimeStatusResponse)
  | reviews (response : List HumanReviewRecord)
  | candidate (response : ReviewCandidateResponse)
  | listing (response : AssessmentListResponse)

/-- A request that reads: what is deployed when it arrives, its credentials, what the JWT library
answers, the faults of the database, and its call. -/
structure ReadRequest (κ : Type) where
  settings : ApplicationSettings
  folding : CaseFolding
  library : JWTLibrary κ
  credentials : Option HTTPAuthorizationCredentials
  env : Env
  fault : ReadStep → Option SQLAlchemyError
  call : ReadCall

/-- The outcome of a session that is opened on the given tables. -/
def Session.outcome {α : Type} (x : Session α) (t : Tables) : Except Failure α :=
  (Prog.exec x { db := .open t }).1

namespace ReadRequest

variable {κ : Type} (request : ReadRequest κ)

/-- The principal under which the request is served. -/
def principal : Except Failure NamedPrincipal :=
  authorize request.settings request.library request.folding request.credentials request.call.route

/-- What the route answers the principal. -/
def served (s : Store) (principal : NamedPrincipal) : Except Failure ReadResponse :=
  match request.call with
  | .getSession => .ok (.session principal.session)
  | .getAssessment assessmentId =>
    ((AssessmentPlatform.getAssessment request.env).outcome (s.lookup assessmentId)).map .assessment
  | .getRuntimeStatus assessmentId =>
    ((AssessmentPlatform.getRuntimeStatus request.env assessmentId).outcome
      (s.lookup assessmentId)).map .runtimeStatus
  | .listReviews assessmentId =>
    ((AssessmentPlatform.listReviews request.env).outcome (s.lookup assessmentId)).map .reviews
  | .getReviewCandidate assessmentId =>
    ((AssessmentPlatform.getReviewCandidate request.env assessmentId).outcome
      (s.lookup assessmentId)).map .candidate
  | .listAssessments status query =>
    (s.readTables.listAssessments request.fault status query.offset query.limit).map .listing
  | .listPendingReviews query =>
    (s.readTables.listAssessments request.fault (some .pendingReview) query.offset
      query.limit).map .listing

/-- The answer to the request. -/
def answer (s : Store) : Except Failure ReadResponse := do
  let principal ← request.principal
  request.served s principal

end ReadRequest

/-! ## Stores that differ in candidates -/

/-- The checkpoint without its candidate. -/
def RuntimeAssessmentState.withoutCandidate (state : RuntimeAssessmentState) :
    RuntimeAssessmentState :=
  { state with candidateResult := none, candidateExecution := none }

/-- The checkpoints differ in their candidates alone. -/
def RuntimeAssessmentState.Alike (a b : RuntimeAssessmentState) : Prop :=
  a.withoutCandidate = b.withoutCandidate

/-- What is stored about an assessment, without its candidate. -/
def Tables.withoutCandidate (t : Tables) : Tables :=
  { t with checkpoint := t.checkpoint.map RuntimeAssessmentState.withoutCandidate }

/-- What is stored about an assessment differs in the candidate alone. -/
structure Tables.Alike (t t' : Tables) : Prop where
  assessment : t.assessment = t'.assessment
  checkpoint : Option.Rel RuntimeAssessmentState.Alike t.checkpoint t'.checkpoint
  events : t.events = t'.events

/-- The stores differ in candidates alone. -/
def Store.Alike (s s' : Store) : Prop :=
  (s.entries.map fun entry => (entry.1, entry.2.withoutCandidate)) =
    s'.entries.map fun entry => (entry.1, entry.2.withoutCandidate)

instance (s s' : Store) : Decidable (s.Alike s') := inferInstanceAs (Decidable (_ = _))

section Alike

variable {a b : RuntimeAssessmentState} {s s' : Store}

/-- What alike checkpoints have in common. -/
theorem RuntimeAssessmentState.Alike.fields (h : a.Alike b) :
    a.assessmentId = b.assessmentId ∧ a.gateResult = b.gateResult ∧
      a.reviewStatus = b.reviewStatus ∧ a.telemetry = b.telemetry ∧
      a.revisionCount = b.revisionCount ∧ a.maxRevisions = b.maxRevisions := by
  have hfields := RuntimeAssessmentState.mk.inj h
  obtain ⟨hid, hgate, hstatus, -, -, htelemetry, hrevision, hmax, -⟩ := hfields
  exact ⟨hid, hgate, hstatus, htelemetry, hrevision, hmax⟩

/-- Tables are alike to themselves. -/
theorem Tables.Alike.refl (t : Tables) : t.Alike t where
  assessment := rfl
  checkpoint := by
    cases t.checkpoint with
    | none => exact .none
    | some state => exact .some rfl
  events := rfl

/-- Tables that are equal without the candidate are alike. -/
theorem Tables.alike_of_eq {t t' : Tables} (h : t.withoutCandidate = t'.withoutCandidate) :
    t.Alike t' := by
  obtain ⟨hassessment, hcheckpoint, hevents⟩ := Tables.mk.inj h
  refine ⟨hassessment, ?_, hevents⟩
  generalize t.checkpoint = checkpoint at hcheckpoint ⊢
  generalize t'.checkpoint = checkpoint' at hcheckpoint ⊢
  cases checkpoint with
  | none =>
    cases checkpoint' with
    | none => exact .none
    | some state' => cases hcheckpoint
  | some state =>
    cases checkpoint' with
    | none => cases hcheckpoint
    | some state' => exact .some (Option.some.inj hcheckpoint)

/-- Alike stores have alike tables under the same identifiers. -/
theorem Store.Alike.entries (h : s.Alike s') :
    List.Forall₂ (fun entry entry' => entry.1 = entry'.1 ∧ entry.2.Alike entry'.2)
      s.entries s'.entries := by
  unfold Store.Alike at h
  rw [← List.forall₂_eq_eq_eq, List.forall₂_map_left_iff, List.forall₂_map_right_iff] at h
  refine h.imp fun entry entry' hentry => ?_
  obtain ⟨hkey, htables⟩ := Prod.mk.inj hentry
  exact ⟨hkey, Tables.alike_of_eq htables⟩

/-- What is stored under an identifier in alike stores is alike. -/
theorem Store.Alike.lookup (h : s.Alike s') (assessmentId : UUID) :
    (s.lookup assessmentId).Alike (s'.lookup assessmentId) := by
  have hentries := h.entries
  unfold Store.lookup
  generalize s.entries = entries at hentries ⊢
  generalize s'.entries = entries' at hentries ⊢
  induction hentries with
  | nil => exact Tables.Alike.refl _
  | @cons entry entry' rest rest' hentry _ ih =>
    obtain ⟨hkey, halike⟩ := hentry
    unfold getBy at ih ⊢
    by_cases hid : entry.1 = assessmentId
    · rw [List.find?_cons_of_pos (by simpa using hid),
        List.find?_cons_of_pos (by simpa [← hkey] using hid)]
      exact halike
    · rw [List.find?_cons_of_neg (by simpa using hid),
        List.find?_cons_of_neg (by simpa [← hkey] using hid)]
      exact ih

/-- Alike stores have the same rows. -/
theorem Store.Alike.rows (h : s.Alike s') : s.readTables.rows = s'.readTables.rows := by
  have hentries := h.entries
  unfold Store.readTables
  dsimp only
  generalize s.entries = entries at hentries ⊢
  generalize s'.entries = entries' at hentries ⊢
  induction hentries with
  | nil => rfl
  | cons hentry _ ih => simp only [List.filterMap_cons, hentry.2.assessment, ih]

/-- Alike stores have alike checkpoints. -/
theorem Store.Alike.states (h : s.Alike s') :
    List.Forall₂ RuntimeAssessmentState.Alike s.readTables.states s'.readTables.states := by
  have hentries := h.entries
  unfold Store.readTables
  dsimp only
  generalize s.entries = entries at hentries ⊢
  generalize s'.entries = entries' at hentries ⊢
  induction hentries with
  | nil => exact .nil
  | @cons entry entry' rest rest' hentry _ ih =>
    have hcheckpoint := hentry.2.checkpoint
    rw [List.filterMap_cons, List.filterMap_cons]
    generalize entry.2.checkpoint = checkpoint at hcheckpoint ⊢
    generalize entry'.2.checkpoint = checkpoint' at hcheckpoint ⊢
    cases hcheckpoint with
    | none => exact ih
    | some hstate => exact .cons hstate ih

end Alike

/-! ## Sessions that read -/

/-- The sessions differ in candidates alone. -/
structure World.Alike (w w' : World) : Prop where
  steps : w.steps = w'.steps
  working : w.db.working.Alike w'.db.working
  committed : w.db.committed.Alike w'.db.committed

/-- The program reads the same value from sessions that differ in candidates alone. -/
def Session.Blind {α : Type} (x : Session α) : Prop := Prog.Related World.Alike (· = ·) x x

section Blind

variable {env : Env} {α β : Type}

/-- A sequence of blind computations is blind. -/
theorem Session.Blind.bind {x : Session α} {f : α → Session β} (hx : x.Blind)
    (hf : ∀ a, (f a).Blind) : (x >>= f).Blind :=
  Prog.Related.bind hx (by rintro a _ rfl; exact hf a)

/-- An outcome that is given is blind. -/
theorem blind_ofExcept (outcome : Except Failure α) : (Session.ofExcept outcome).Blind := by
  cases outcome with
  | ok a => exact Prog.related_pure rfl
  | error e => exact Prog.related_throw

/-- A statement is blind. -/
theorem blind_dbStep (step : DbStep) : (dbStep env step).Blind := by
  refine Prog.Related.bind Prog.related_get fun w w' hw => ?_
  refine Prog.Related.bind (Prog.related_modify fun v v' hv => ?_) fun _ _ _ => ?_
  · exact ⟨congrArg (· + 1) hv.steps, hv.working, hv.committed⟩
  · rw [hw.steps]
    cases env.fault step w'.steps with
    | some error => exact Prog.related_throw
    | none => exact Prog.related_pure rfl

/-- The tables of alike worlds are alike. -/
theorem related_workingTables :
    Prog.Related World.Alike Tables.Alike workingTables workingTables :=
  Prog.Related.bind Prog.related_get fun _ _ hw => Prog.related_pure hw.working

/-- A rollback is blind. -/
theorem blind_rollback : (rollback env).Blind := by
  refine (blind_dbStep _).bind fun _ => Prog.related_modify fun w w' hw => ?_
  exact ⟨hw.steps, hw.committed, hw.committed⟩

/-- A read of the row is blind. -/
theorem blind_getById : (getById env).Blind := by
  refine (blind_dbStep _).bind fun _ => Prog.Related.bind related_workingTables fun t t' ht => ?_
  rw [ht.assessment]
  exact Prog.related_pure rfl

/-- A read of a required row is blind. -/
theorem blind_requiredAssessment : (requiredAssessment env).Blind := by
  refine blind_getById.bind fun row => ?_
  cases row with
  | none => exact Prog.related_throw
  | some row => exact Prog.related_pure rfl

/-- The checkpoint that a session finds. -/
theorem related_getState :
    Prog.Related World.Alike (Option.Rel RuntimeAssessmentState.Alike) (getState env)
      (getState env) := by
  refine Prog.Related.bind (blind_dbStep _) fun _ _ _ =>
    Prog.Related.bind related_workingTables fun t t' ht => ?_
  have hcheckpoint := ht.checkpoint
  generalize t.checkpoint = checkpoint at hcheckpoint ⊢
  generalize t'.checkpoint = checkpoint' at hcheckpoint ⊢
  cases hcheckpoint with
  | none => exact Prog.related_pure .none
  | @some state state' hstate =>
    have hread : Prog.Related World.Alike RuntimeAssessmentState.Alike (stateFromModel state)
        (stateFromModel state') := by
      unfold stateFromModel
      rw [hstate.fields.2.2.2.1]
      split
      · exact Prog.related_pure hstate
      · exact Prog.related_throw
    exact Prog.Related.bind hread fun _ _ h => Prog.related_pure (.some h)

/-- A read of a required checkpoint gives alike checkpoints. -/
theorem related_requiredState :
    Prog.Related World.Alike RuntimeAssessmentState.Alike (requiredState env)
      (requiredState env) := by
  refine Prog.Related.bind blind_requiredAssessment fun _ _ _ => ?_
  refine Prog.Related.bind
    (Prog.Related.tryCatch related_getState fun _ => Prog.related_throw) fun state state' h => ?_
  cases h with
  | none => exact Prog.related_throw
  | some hstate => exact Prog.related_pure hstate

/-- `get_runtime_status` is blind. -/
theorem blind_getRuntimeStatus (assessmentId : UUID) :
    (getRuntimeStatus env assessmentId).Blind := by
  refine Prog.Related.bind related_requiredState fun state state' h => ?_
  obtain ⟨-, hgate, hstatus, htelemetry, hrevision, hmax⟩ := h.fields
  rw [hgate, hstatus, htelemetry, hrevision, hmax]
  exact Prog.related_pure rfl

/-- The guard of the database keeps a computation blind. -/
theorem blind_guardDatabase {x : Session α} (hx : x.Blind) : (guardDatabase env x).Blind := by
  refine Prog.Related.tryCatch hx fun e => ?_
  cases e with
  | database error =>
    refine Session.Blind.bind (Session.Blind.bind ?_ fun _ => ?_) fun _ => Prog.related_throw
    · refine Prog.Related.tryCatch blind_rollback fun e => ?_
      cases e with
      | database _ => exact Prog.related_pure rfl
      | _ => exact Prog.related_throw
    · exact Prog.related_pure rfl
  | _ => exact Prog.related_throw

/-- `get_assessment` is blind. -/
theorem blind_getAssessment : (getAssessment env).Blind := by
  refine (blind_guardDatabase blind_getById).bind fun row => ?_
  cases row with
  | none => exact Prog.related_throw
  | some row => exact blind_ofExcept _

/-- A blind computation has the same outcome on alike tables. -/
theorem Session.Blind.outcome_eq {x : Session α} (hx : x.Blind) {t t' : Tables} (h : t.Alike t') :
    x.outcome t = x.outcome t' :=
  Prog.Related.outcome_eq hx ⟨rfl, h, h⟩

end Blind

/-! ## Listings -/

section Listings

variable {fault : ReadStep → Option SQLAlchemyError} {states states' : List RuntimeAssessmentState}

/-- Two outcomes that are related in their values, or the same exception. -/
def SameOutcome {α : Type} (V : α → α → Prop) : Except Failure α → Except Failure α → Prop
  | .ok a, .ok a' => V a a'
  | .error e, .error e' => e = e'
  | _, _ => False

/-- Computations with the same outcomes, followed by such ones, have the same outcomes. -/
theorem SameOutcome.bind {α β : Type} {V : α → α → Prop} {W : β → β → Prop}
    {x x' : Except Failure α} {f f' : α → Except Failure β} (hx : SameOutcome V x x')
    (hf : ∀ a a', V a a' → SameOutcome W (f a) (f' a')) : SameOutcome W (x >>= f) (x' >>= f') := by
  rcases x with e | a <;> rcases x' with e' | a'
  · exact hx
  · exact hx.elim
  · exact hx.elim
  · exact hf a a' hx

/-- Outcomes with equal values are equal. -/
theorem sameOutcome_eq {α : Type} {x x' : Except Failure α} :
    SameOutcome (· = ·) x x' ↔ x = x' := by
  rcases x with e | a <;> rcases x' with e' | a' <;> simp [SameOutcome]

/-- Reads of related rows have the same outcome. -/
theorem sameOutcome_read {α : Type} {V : α → α → Prop} (step : ReadStep) {rows rows' : α}
    (h : V rows rows') :
    SameOutcome V (ReadTables.read fault step rows) (ReadTables.read fault step rows') := by
  unfold ReadTables.read
  cases fault step with
  | none => exact h
  | some error => rfl

/-- Alike checkpoints are read with the same outcome. -/
theorem sameOutcome_mapM_readState
    (h : List.Forall₂ RuntimeAssessmentState.Alike states states') :
    SameOutcome (List.Forall₂ RuntimeAssessmentState.Alike) (states.mapM readState)
      (states'.mapM readState) := by
  induction h with
  | nil => exact .nil
  | @cons state state' rest rest' hstate _ ih =>
    rw [List.mapM_cons, List.mapM_cons]
    have hread : SameOutcome RuntimeAssessmentState.Alike (readState state) (readState state') := by
      unfold readState
      rw [hstate.fields.2.2.2.1]
      split
      · exact hstate
      · rfl
    exact hread.bind fun _ _ hfirst => ih.bind fun _ _ hrest => .cons hfirst hrest

/-- The same selection of alike checkpoints gives alike ones. -/
theorem forall₂_filter_states (h : List.Forall₂ RuntimeAssessmentState.Alike states states')
    (ids : List UUID) :
    List.Forall₂ RuntimeAssessmentState.Alike
      (states.filter fun state => state.assessmentId ∈ ids)
      (states'.filter fun state => state.assessmentId ∈ ids) := by
  induction h with
  | nil => exact .nil
  | @cons state state' rest rest' hstate _ ih =>
    have hid := hstate.fields.1
    by_cases hmem : state.assessmentId ∈ ids
    · rw [List.filter_cons_of_pos (by simpa using hmem),
        List.filter_cons_of_pos (by simpa [← hid] using hmem)]
      exact .cons hstate ih
    · rw [List.filter_cons_of_neg (by simpa using hmem),
        List.filter_cons_of_neg (by simpa [← hid] using hmem)]
      exact ih

/-- An item shows nothing of a candidate. -/
theorem toListItem_alike (h : List.Forall₂ RuntimeAssessmentState.Alike states states')
    (record : AssessmentRow) :
    toListItem record (getBy RuntimeAssessmentState.assessmentId record.assessmentId states) =
      toListItem record
        (getBy RuntimeAssessmentState.assessmentId record.assessmentId states') := by
  induction h with
  | nil => rfl
  | @cons state state' rest rest' hstate _ ih =>
    obtain ⟨hid, hgate, hstatus, -⟩ := hstate.fields
    unfold getBy at ih ⊢
    by_cases hfound : state.assessmentId = record.assessmentId
    · rw [List.find?_cons_of_pos (by simpa using hfound),
        List.find?_cons_of_pos (by simpa [← hid] using hfound)]
      simp only [toListItem, Option.map_some, Option.elim_some, hgate, hstatus]
    · rw [List.find?_cons_of_neg (by simpa using hfound),
        List.find?_cons_of_neg (by simpa [← hid] using hfound)]
      exact ih

/-- What does not depend on the candidate is the same for alike checkpoints. -/
theorem map_alike {γ : Type} {f : RuntimeAssessmentState → γ}
    (h : List.Forall₂ RuntimeAssessmentState.Alike states states')
    (hf : ∀ a b : RuntimeAssessmentState, a.Alike b → f a = f b) :
    states.map f = states'.map f := by
  induction h with
  | nil => rfl
  | cons hstate _ ih => rw [List.map_cons, List.map_cons, hf _ _ hstate, ih]

/-- A listing shows nothing of a candidate. -/
theorem listAssessments_alike {t t' : ReadTables} (hrows : t.rows = t'.rows)
    (hstates : List.Forall₂ RuntimeAssessmentState.Alike t.states t'.states)
    (status : Option AssessmentStatus) (offset limit : ℕ) :
    t.listAssessments fault status offset limit = t'.listAssessments fault status offset limit := by
  have hdecisions := map_alike hstates fun a b h =>
    congrArg (fun g => RuntimeRiskDecision.value (QualityGateResult.decision g)) h.fields.2.1
  have hreviews := map_alike hstates fun a b h => congrArg HumanReviewStatus.value h.fields.2.2.1
  have hsame : t.readListing fault status offset limit =
      t'.readListing fault status offset limit := by
    refine sameOutcome_eq.mp ?_
    unfold ReadTables.readListing ReadTables.listPage ReadTables.count ReadTables.countByStatus
      ReadTables.countByGateDecision ReadTables.countByReviewStatus ReadTables.listed
    rw [hrows, hdecisions, hreviews]
    refine (sameOutcome_read (V := (· = ·)) _ rfl).bind ?_
    rintro records _ rfl
    have hfound : SameOutcome (List.Forall₂ RuntimeAssessmentState.Alike)
        (t.getStates fault (records.map AssessmentRow.assessmentId))
        (t'.getStates fault (records.map AssessmentRow.assessmentId)) := by
      unfold ReadTables.getStates
      split
      · exact .nil
      · exact (sameOutcome_read _ (forall₂_filter_states hstates _)).bind fun _ _ h =>
          sameOutcome_mapM_readState h
    refine hfound.bind fun runtimeStates runtimeStates' halike => ?_
    have hitems : (fun record => toListItem record
        (getBy RuntimeAssessmentState.assessmentId record.assessmentId runtimeStates)) =
        fun record => toListItem record
          (getBy RuntimeAssessmentState.assessmentId record.assessmentId runtimeStates') :=
      funext fun record => toListItem_alike halike record
    rw [hitems]
    exact sameOutcome_eq.mpr rfl
  unfold ReadTables.listAssessments
  rw [hsame]

end Listings

/-- The row of an assessment that waits for its review, or has failed, holds no result. -/
theorem Tables.Governed.result_withheld {t : Tables} {row : AssessmentRow} (h : t.Governed)
    (hrow : t.assessment = some row)
    (hstatus : row.status = .pendingReview ∨ row.status = .failed) :
    row.resultPayload = none := by
  rcases hstatus with hstatus | hstatus
  · cases hcheckpoint : t.checkpoint with
    | none => exact absurd hstatus (h.ungated hcheckpoint row hrow)
    | some state =>
      obtain ⟨found, hfound, hagree⟩ := h.gated state hcheckpoint
      cases hrow.symm.trans hfound
      exact (hagree.pendingReview hstatus).1
  · exact ((AssessmentRow.checked_iff.mp (h.checked row hrow)).2 hstatus).1

/-- A request that is not served to a reviewer or an administrator is answered alike from alike
stores. -/
theorem ReadRequest.answer_alike {κ : Type} (request : ReadRequest κ)
    (h : ∀ principal, request.principal = .ok principal → principal.canReview = false)
    {s s' : Store} (halike : s.Alike s') : request.answer s = request.answer s' := by
  unfold ReadRequest.answer
  cases hserved : request.principal with
  | error failure => rfl
  | ok principal =>
    have hnot : ¬RequiredAccess.reviewerOrAdmin.Admits principal := by
      intro hadmits
      have htrue := (AuthenticatedPrincipal.canReview_iff _).mpr hadmits
      rw [h principal hserved] at htrue
      cases htrue
    have hadmitted : request.call.route.access.Admits principal := by
      unfold ReadRequest.principal authorize at hserved
      obtain ⟨found, -, hcheck⟩ := except_bind_eq_ok.mp hserved
      obtain ⟨rfl, hadmits⟩ := RequiredAccess.check_eq_ok.mp hcheck
      exact hadmits
    rw [except_ok_bind, except_ok_bind]
    unfold ReadRequest.served
    cases hcall : request.call with
    | getSession => rfl
    | getAssessment assessmentId =>
      exact congrArg (Except.map ReadResponse.assessment)
        (blind_getAssessment.outcome_eq (halike.lookup assessmentId))
    | getRuntimeStatus assessmentId =>
      exact congrArg (Except.map ReadResponse.runtimeStatus)
        ((blind_getRuntimeStatus assessmentId).outcome_eq (halike.lookup assessmentId))
    | listAssessments status query =>
      exact congrArg (Except.map ReadResponse.listing)
        (listAssessments_alike halike.rows halike.states _ _ _)
    | listReviews _ | getReviewCandidate _ | listPendingReviews _ =>
      rw [hcall] at hadmitted
      exact absurd hadmitted hnot

/-- A request that is not served to a reviewer or an administrator is answered alike from any two
stores that differ in candidates alone; and no row shows the result of a candidate that waits for
its review, was rejected or was blocked. -/
theorem candidates_confined {κ : Type} (request : ReadRequest κ)
    (h : ∀ principal, request.principal = .ok principal → principal.canReview = false) :
    (∀ s s' : Store, s.Alike s' → request.answer s = request.answer s') ∧
      ∀ (s : Store) (assessmentId : UUID) (row : AssessmentRow),
        (s.lookup assessmentId).assessment = some row →
        row.status = .pendingReview ∨ row.status = .failed → row.resultPayload = none :=
  ⟨fun _ _ halike => request.answer_alike h halike,
    fun s assessmentId _ hrow hstatus => (s.lookup_governed assessmentId).result_withheld hrow
      hstatus⟩

/-! ## A sample -/

/-- Local settings with one verification key. -/
def ApplicationSettings.localTokens : ApplicationSettings where
  authEnabled := true
  authJwtVerificationKey := some ("key" : String)
  authJwtIssuer := some ("issuer" : String)
  authJwtAudience := some ("desk" : String)

/-- An analyst asks for the status of an assessment. -/
def ReadRequest.analyst : ReadRequest Unit where
  settings := .localTokens
  folding := .ascii
  library := ⟨fun _ _ _ => .ok [(("sub" : Str), .str ("ana" : Str)), (("iss" : Str),
    .str ("issuer" : Str)), (("role" : Str), .str ("analyst" : Str))], fun _ _ => .error .other⟩
  credentials := some ⟨("Bearer" : Str), ("token" : Str)⟩
  env := .ticking 20
  fault _ := none
  call := .getRuntimeStatus 7

/-- The store after the generation of a candidate with the given summary. -/
def Store.generated (executiveSummary : Str) : Store :=
  PriorAssessments.empty.store.platform
    [.request { ApiRequest.local 0 (.createAssessment 7 .minimal ⟨1, 1⟩) with
      parts := { ServiceParts.highRisk with
        generator := fun _ => .ok { Candidate.highRisk.result with executiveSummary } } }]

/-- The analyst cannot tell two candidates apart. -/
theorem candidates_confined_analyst :
    ((Store.generated [65]).lookup 7).checkpoint.bind (·.candidateResult) ≠
        ((Store.generated [66]).lookup 7).checkpoint.bind (·.candidateResult) ∧
      ReadRequest.analyst.answer (Store.generated [65]) =
        ReadRequest.analyst.answer (Store.generated [66]) := by
  constructor
  · decide +kernel
  · refine (candidates_confined ReadRequest.analyst ?_).1 _ _ (by decide +kernel)
    have hroles : ReadRequest.analyst.principal.map (·.canReview) = .ok false := by
      decide +kernel
    intro principal hprincipal
    rw [hprincipal] at hroles
    exact Except.ok.inj hroles

end AssessmentPlatform
