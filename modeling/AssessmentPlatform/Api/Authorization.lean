import AssessmentPlatform.Api.Dependencies
import AssessmentPlatform.Assessments.Downgrade
import AssessmentPlatform.Identity.Access
import AssessmentPlatform.Library.Ledger

/-!
# Reviews through the API

The requests of the API that write assessments and reviews, each with its deployment, its
credentials and what the JWT library answers it, and the resumption of revisions, which is no
route. A request that is not authorized changes nothing. In every run each decision of an audit
trail is the decision of an authorized request of its own.
-/

namespace AssessmentPlatform

open Library

/-! ## The source -/

/-- The routes on which a reviewer decides. -/
inductive ReviewerRoute where
  | approveReview | rejectReview | requestReviewRevision
  deriving DecidableEq

namespace ReviewerRoute

/-- The route in the table of the API. -/
def apiRoute : ReviewerRoute → ApiRoute
  | .approveReview => .approveReview
  | .rejectReview => .rejectReview
  | .requestReviewRevision => .requestReviewRevision

/-- The method of the governance service that the route calls. -/
def op (request : HumanReviewRequest) (principal : Option AuthenticatedPrincipal) :
    ReviewerRoute → ReviewOp
  | .approveReview => .approve request principal
  | .rejectReview => .reject request principal
  | .requestReviewRevision => .requestRevision request principal

/-- The action that its audit event records. -/
def action : ReviewerRoute → HumanReviewAction
  | .approveReview => .approved
  | .rejectReview => .rejected
  | .requestReviewRevision => .revisionRequested

end ReviewerRoute

/-- The calls that write assessments and reviews, with the fresh identifier of a new
assessment. -/
inductive ApiCall where
  | createAssessment (assessmentId : UUID) (request : AssessmentRequest) (timers : Timers)
  | review (route : ReviewerRoute) (assessmentId : UUID) (request : HumanReviewRequest)

/-- The route of a call. -/
def ApiCall.route : ApiCall → ApiRoute
  | .createAssessment _ _ _ => .createAssessment
  | .review route _ _ => route.apiRoute

/-- One request of the API: what is deployed when it arrives, its credentials, what the JWT
library answers while it is served, and its call. -/
structure ApiRequest (κ : Type) where
  settings : ApplicationSettings
  parts : ServiceParts
  folding : CaseFolding
  library : JWTLibrary κ
  credentials : Option HTTPAuthorizationCredentials
  env : Env
  call : ApiCall

namespace ApiRequest

variable {κ : Type} (request : ApiRequest κ)

/-- The principal under which the request is served. -/
def principal : Except Failure NamedPrincipal :=
  authorize request.settings request.library request.folding request.credentials request.call.route

/-- What the route does for the principal. -/
def served (principal : NamedPrincipal) : StoreRequest :=
  match request.call with
  | .createAssessment assessmentId assessmentRequest timers =>
    .generate assessmentId (getAssessmentService request.settings request.parts)
      ⟨request.env, timers, assessmentRequest, some principal.toAuthenticatedPrincipal⟩
  | .review route assessmentId reviewRequest =>
    .review assessmentId
      { service := getRuntimeGovernanceService request.settings
        env := request.env
        op := route.op reviewRequest (some principal.toAuthenticatedPrincipal) }

end ApiRequest

/-- A step of the platform: a request of the API, or a revised candidate that is resumed. -/
inductive PlatformStep (κ : Type) where
  | request (request : ApiRequest κ)
  | resume (assessmentId : UUID) (settings : ApplicationSettings) (env : Env)
    (candidate : Candidate)

namespace PlatformStep

variable {κ : Type}

/-- What a step does in the store; a request that is not authorized is answered before. -/
def storeRequest : PlatformStep κ → Option StoreRequest
  | .request call =>
    match call.principal with
    | .error _ => none
    | .ok principal => some (call.served principal)
  | .resume assessmentId settings env candidate =>
    some (.review assessmentId
      { service := getRuntimeGovernanceService settings, env, op := .resumeRevision candidate })

/-- The store after a step. -/
def perform (s : Store) (step : PlatformStep κ) : Store :=
  match step.storeRequest with
  | none => s
  | some change => change.perform s

end PlatformStep

/-- The store after a sequence of steps. -/
def Store.platform {κ : Type} (s : Store) (steps : List (PlatformStep κ)) : Store :=
  steps.foldl PlatformStep.perform s

/-! ## Steps -/

/-- A put changes the tables of its assessment and of no other one. -/
theorem Store.lookup_put {s : Store} {assessmentId other : UUID} {t : Tables} (h : t.Governed) :
    (s.put assessmentId t h).lookup other =
      if assessmentId = other then t else s.lookup other := by
  unfold Store.put Store.lookup
  rw [getBy_putBy]
  split <;> rfl

/-- What a step does to the tables of one assessment. -/
inductive PlatformStep.Acts {κ : Type} (assessmentId : UUID) :
    PlatformStep κ → Tables → Tables → Prop
  | unchanged {step : PlatformStep κ} {t : Tables} : Acts assessmentId step t t
  | generated {call : ApiRequest κ} {principal : NamedPrincipal} {request : AssessmentRequest}
    {timers : Timers} {t : Tables} (hserved : call.principal = .ok principal)
    (hfresh : t.assessment = none) :
    Acts assessmentId (.request call) t
      (GenerationRequest.perform
        ⟨call.env, timers, request, some principal.toAuthenticatedPrincipal⟩
        (getAssessmentService call.settings call.parts) assessmentId)
  | decided {call : ApiRequest κ} {principal : NamedPrincipal} {route : ReviewerRoute}
    {request : HumanReviewRequest} {t : Tables} (hserved : call.principal = .ok principal)
    (hcall : call.call = .review route assessmentId request) :
    Acts assessmentId (.request call) t
      (performRequest (getRuntimeGovernanceService call.settings) assessmentId call.env
        (route.op request (some principal.toAuthenticatedPrincipal)) t)
  | resumed {settings : ApplicationSettings} {env : Env} {candidate : Candidate} {t : Tables} :
    Acts assessmentId (.resume assessmentId settings env candidate) t
      (performRequest (getRuntimeGovernanceService settings) assessmentId env
        (.resumeRevision candidate) t)

/-- A step acts on every assessment. -/
theorem PlatformStep.acts {κ : Type} (step : PlatformStep κ) (s : Store) (assessmentId : UUID) :
    step.Acts assessmentId (s.lookup assessmentId) ((step.perform s).lookup assessmentId) := by
  cases step with
  | request call =>
    cases hserved : call.principal with
    | error failure =>
      simp only [PlatformStep.perform, PlatformStep.storeRequest, hserved]
      exact .unchanged
    | ok principal =>
      simp only [PlatformStep.perform, PlatformStep.storeRequest, hserved, ApiRequest.served]
      cases hcall : call.call with
      | createAssessment fresh request timers =>
        dsimp only [StoreRequest.perform]
        split
        · exact .unchanged
        · next hfresh =>
          rw [Store.lookup_put]
          by_cases hid : fresh = assessmentId
          · subst hid
            rw [if_pos rfl]
            exact .generated hserved (by simpa using hfresh)
          · rw [if_neg hid]
            exact .unchanged
      | review route reviewed request =>
        dsimp only [StoreRequest.perform]
        rw [Store.lookup_put]
        by_cases hid : reviewed = assessmentId
        · subst hid
          rw [if_pos rfl]
          exact .decided hserved hcall
        · rw [if_neg hid]
          exact .unchanged
  | resume resumed settings env candidate =>
    dsimp only [PlatformStep.perform, PlatformStep.storeRequest, StoreRequest.perform]
    rw [Store.lookup_put]
    by_cases hid : resumed = assessmentId
    · subst hid
      rw [if_pos rfl]
      exact .resumed
    · rw [if_neg hid]
      exact .unchanged

/-! ## Decisions -/

/-- The event records a decision of a reviewer. -/
def HumanReviewRecord.isDecision (e : HumanReviewRecord) : Bool :=
  decide (e.action = .approved) || decide (e.action = .rejected) ||
    decide (e.action = .revisionRequested)

/-- The decisions of the audit trail. -/
def Tables.decisions (t : Tables) : List HumanReviewRecord :=
  t.events.filter HumanReviewRecord.isDecision

/-- The event records the decision on a route, with the comment of the request and the identity of
the principal. -/
structure HumanReviewRecord.Records (e : HumanReviewRecord) (assessmentId : UUID) (env : Env)
    (route : ReviewerRoute) (request : HumanReviewRequest) (principal : AuthenticatedPrincipal) :
    Prop where
  assessmentId_eq : e.assessmentId = assessmentId
  action_eq : e.action = route.action
  comment_eq : e.comment = request.comment
  reviewerId_eq : e.reviewerId = some principal.subject
  subject_eq : e.reviewerSubject = some principal.subject
  email_eq : e.reviewerEmail = principal.email
  role_eq : e.reviewerRole = some principal.auditRole.value
  issuer_eq : e.reviewerIssuer = some principal.issuer
  requestId_eq : e.requestId = env.requestId

section Decisions

variable {assessmentId : UUID} {t : Tables}

/-- The action of a reviewer route is a decision. -/
theorem ReviewerRoute.action_isDecision (route : ReviewerRoute) {e : HumanReviewRecord}
    (h : e.action = route.action) : e.isDecision = true := by
  unfold HumanReviewRecord.isDecision
  rw [h]
  cases route <;> rfl

/-- A decision on a route is recorded, or nothing changes. -/
theorem performRequest_decides (service : RuntimeGovernanceService) (assessmentId : UUID)
    (t : Tables) (env : Env) (route : ReviewerRoute) (request : HumanReviewRequest)
    (principal : AuthenticatedPrincipal) :
    performRequest service assessmentId env (route.op request (some principal)) t = t ∨
      ∃ e, (performRequest service assessmentId env (route.op request (some principal)) t).events =
          t.events ++ [e] ∧ e.Records assessmentId env route request principal := by
  rcases performRequest_cases env (route.op request (some principal)) t with heq | ⟨tr, htr, heq⟩
  · exact .inl heq
  · right
    rw [heq]
    obtain ⟨state, row, -, -, -, -, haction | ⟨c, hc, -⟩⟩ := ReviewOp.transition_eq_ok htr
    · obtain ⟨action, newStatus, revision, write, request', principal', telemetry, n, haction, -, -,
        rfl⟩ := haction
      refine ⟨_, rfl, ?_⟩
      cases route <;> cases haction <;> exact ⟨rfl, rfl, rfl, rfl, rfl, rfl, rfl, rfl, rfl⟩
    · cases route <;> cases hc

/-- Resuming a revision records no decision. -/
theorem performRequest_resume_decisions {service : RuntimeGovernanceService} (env : Env)
    (c : Candidate) :
    (performRequest service assessmentId env (.resumeRevision c) t).decisions = t.decisions := by
  rcases performRequest_cases env (.resumeRevision c) t with heq | ⟨tr, htr, heq⟩
  · rw [heq]
  · rw [heq]
    obtain ⟨state, row, -, -, -, -, haction | ⟨c, -, hresume⟩⟩ := ReviewOp.transition_eq_ok htr
    · obtain ⟨action, newStatus, revision, write, request', principal', telemetry, n, haction, -, -,
        rfl⟩ := haction
      cases haction
    · obtain ⟨gateResult, telemetry, -, -, -, rfl⟩ := resumeTransition_eq_ok hresume
      simp [Tables.decisions, Transition.apply, HumanReviewRecord.isDecision]

/-- A generation records no decision. -/
theorem GenerationEnd.decisions_eq {service : AssessmentService} {env : Env} {timers : Timers}
    {request : AssessmentRequest} {principal : Option AuthenticatedPrincipal}
    (h : GenerationEnd service env timers assessmentId request principal t) : t.decisions = [] := by
  cases h with
  | nothing | created | started | failed | completed => rfl
  | gated _ _ htr =>
    obtain ⟨gateResult, telemetry, -, -, -, rfl⟩ := processTransition_eq_ok htr
    by_cases hpending : gateStatus gateResult.decision = .pending
    · simp [Tables.decisions, Transition.apply, hpending, HumanReviewRecord.isDecision,
        requestEvent, EventValues.toRecord]
    · simp [Tables.decisions, Transition.apply, hpending]

/-- No request removes the row of an assessment. -/
theorem performRequest_assessment_isSome (service : RuntimeGovernanceService)
    (assessmentId : UUID) (t : Tables) (env : Env) (op : ReviewOp) :
    (performRequest service assessmentId env op t).assessment.isSome = t.assessment.isSome := by
  rcases performRequest_cases env op t with heq | ⟨tr, -, heq⟩
  · rw [heq]
  · rw [heq]
    simp [Transition.apply]

end Decisions

/-! ## Runs -/

/-- The request is authorized for a reviewer or an administrator, and the event records its
decision under the identity of the principal. With authentication the principal is the one that
the claims describe which the library has decoded for the bearer token. -/
structure ApiRequest.Decides {κ : Type} (request : ApiRequest κ) (assessmentId : UUID)
    (e : HumanReviewRecord) (principal : NamedPrincipal) : Prop where
  served : request.principal = .ok principal
  recorded : ∃ route reviewRequest, request.call = .review route assessmentId reviewRequest ∧
    e.Records assessmentId request.env route reviewRequest principal.toAuthenticatedPrincipal
  role : .reviewer ∈ principal.roles ∨ .admin ∈ principal.roles
  verified : request.settings.authEnabled = true → ∃ verifier token claims,
    getTokenVerifier request.settings = .ok (some verifier) ∧
      IsBearer request.folding request.credentials token ∧
      verifier.decoded request.library token = .ok claims ∧
      Describes request.folding claims principal

/-- A step accounts for a decision. -/
def PlatformStep.Accounts {κ : Type} (assessmentId : UUID) :
    PlatformStep κ → HumanReviewRecord → Prop
  | .request call, e => ∃ principal, call.Decides assessmentId e principal
  | .resume _ _ _ _, _ => False

section Runs

variable {κ : Type} {assessmentId : UUID} {s : Store}

/-- A served request whose action is recorded decides with that record. -/
theorem ApiRequest.decides {request : ApiRequest κ} {principal : NamedPrincipal}
    {e : HumanReviewRecord} {route : ReviewerRoute} {reviewRequest : HumanReviewRequest}
    (hserved : request.principal = .ok principal)
    (hcall : request.call = .review route assessmentId reviewRequest)
    (hrecords : e.Records assessmentId request.env route reviewRequest
      principal.toAuthenticatedPrincipal) :
    request.Decides assessmentId e principal := by
  have hauthorized := hserved
  unfold ApiRequest.principal authorize at hauthorized
  obtain ⟨authenticated, hauthenticated, hcheck⟩ := except_bind_eq_ok.mp hauthorized
  obtain ⟨rfl, hadmits⟩ := RequiredAccess.check_eq_ok.mp hcheck
  refine ⟨hserved, ⟨route, reviewRequest, hcall, hrecords⟩, ?_, fun henabled => ?_⟩
  · rw [hcall] at hadmits
    cases route <;> exact hadmits
  · obtain ⟨verifier, token, hverifier, hbearer, hverify⟩ :=
      (authenticate_eq_ok henabled).mp hauthenticated
    obtain ⟨claims, hdecoded, hclaims⟩ := TokenVerifier.verify_eq_ok.mp hverify
    exact ⟨verifier, token, claims, hverifier, hbearer, hdecoded,
      principalFromClaims_eq_ok hclaims⟩

/-- Where no row is stored, no event is. -/
def Store.Trailed (s : Store) (assessmentId : UUID) : Prop :=
  (s.lookup assessmentId).assessment = none → (s.lookup assessmentId).events = []

/-- What a review request does to an assessment without a row: nothing. -/
theorem performRequest_missing {service : RuntimeGovernanceService} {env : Env} {op : ReviewOp}
    {t : Tables} (h : t.assessment = none) : performRequest service assessmentId env op t = t := by
  rcases performRequest_cases env op t with heq | ⟨tr, htr, -⟩
  · exact heq
  · obtain ⟨state, row, hrow, -⟩ := ReviewOp.transition_eq_ok htr
    cases h.symm.trans hrow

/-- A generation for an identifier without a row leaves no record of a review. -/
theorem GenerationEnd.trailed {service : AssessmentService} {env : Env} {timers : Timers}
    {request : AssessmentRequest} {principal : Option AuthenticatedPrincipal} {t : Tables}
    (h : GenerationEnd service env timers assessmentId request principal t)
    (hmissing : t.assessment = none) : t.events = [] := by
  cases h with
  | nothing => rfl
  | created | started | failed | completed => cases hmissing
  | gated _ _ _ => cases hmissing

/-- Every step keeps the events together with the row. -/
theorem PlatformStep.perform_trailed (step : PlatformStep κ) (h : s.Trailed assessmentId) :
    (step.perform s).Trailed assessmentId := by
  have hrequest : ∀ service env op, (s.lookup assessmentId).assessment = none ∨
      (performRequest service assessmentId env op (s.lookup assessmentId)).assessment ≠ none := by
    intro service env op
    have hisSome := performRequest_assessment_isSome service assessmentId (s.lookup assessmentId)
      env op
    cases hrow : (s.lookup assessmentId).assessment with
    | none => exact .inl rfl
    | some row =>
      right
      rw [hrow] at hisSome
      exact Option.isSome_iff_ne_none.mp hisSome
  have hacts := step.acts s assessmentId
  unfold Store.Trailed at h ⊢
  generalize (step.perform s).lookup assessmentId = after at hacts ⊢
  cases hacts with
  | unchanged => exact h
  | generated => exact (GenerationRequest.perform_end _ _ assessmentId).trailed
  | decided _ _ =>
    rcases hrequest _ _ _ with hmissing | hrow
    · rw [performRequest_missing hmissing]
      exact h
    · exact fun hmissing => absurd hmissing hrow
  | resumed =>
    rcases hrequest _ _ _ with hmissing | hrow
    · rw [performRequest_missing hmissing]
      exact h
    · exact fun hmissing => absurd hmissing hrow

/-- A step leaves the decisions of an assessment as they are, or it adds its own. -/
theorem PlatformStep.extends_decisions (step : PlatformStep κ) (h : s.Trailed assessmentId) :
    Extends PlatformStep.perform (fun s => (s.lookup assessmentId).decisions)
      (PlatformStep.Accounts assessmentId) s step := by
  have hacts := step.acts s assessmentId
  unfold Extends
  dsimp only
  generalize (step.perform s).lookup assessmentId = after at hacts ⊢
  cases hacts with
  | unchanged => exact .inl rfl
  | generated hserved hfresh =>
    left
    have hbefore : (s.lookup assessmentId).decisions = [] := by
      rw [Tables.decisions, h hfresh]
      rfl
    rw [hbefore]
    exact (GenerationRequest.perform_end _ _ assessmentId).decisions_eq
  | @decided call principal route request _ hserved hcall =>
    rcases performRequest_decides (getRuntimeGovernanceService call.settings) assessmentId
        (s.lookup assessmentId) call.env route request principal.toAuthenticatedPrincipal with
      hsame | ⟨e, hevents, hrecords⟩
    · exact .inl (congrArg Tables.decisions hsame)
    · refine .inr ⟨e, ?_, principal, ApiRequest.decides hserved hcall hrecords⟩
      have hdecision : e.isDecision = true := route.action_isDecision hrecords.action_eq
      rw [Tables.decisions, hevents, List.filter_append]
      simp [hdecision, Tables.decisions]
  | resumed => exact .inl (performRequest_resume_decisions _ _)

/-- A database from before the migration holds no record of a review. -/
theorem PriorAssessments.lookup_events (prior : PriorAssessments) (assessmentId : UUID) :
    (prior.store.lookup assessmentId).events = [] := by
  unfold Store.lookup
  cases hentry : getBy Prod.fst assessmentId prior.store.entries with
  | none => rfl
  | some entry =>
    obtain ⟨row, -, rfl⟩ := List.mem_map.mp (getBy_mem hentry).1
    rfl

/-- The decisions of a run from a migrated database. -/
theorem platform_decisions (prior : PriorAssessments) (steps : List (PlatformStep κ))
    (assessmentId : UUID) :
    List.SublistForall₂ (fun e step => PlatformStep.Accounts assessmentId step e)
      ((prior.store.platform steps).lookup assessmentId).decisions steps := by
  have hprior : prior.store.Trailed assessmentId := fun _ => prior.lookup_events assessmentId
  obtain ⟨entries, hentries, haccounted⟩ := ledger_accounted PlatformStep.perform
    (fun s => (s.lookup assessmentId).decisions) (PlatformStep.Accounts assessmentId)
    (fun s => s.Trailed assessmentId)
    (fun s step h => ⟨step.perform_trailed h, step.extends_decisions h⟩) steps hprior
  have hnone : (prior.store.lookup assessmentId).decisions = [] := by
    rw [Tables.decisions, prior.lookup_events]
    rfl
  have hdecisions : ((prior.store.platform steps).lookup assessmentId).decisions = entries := by
    rw [Store.platform, hentries, hnone, List.nil_append]
  rwa [hdecisions]

/-- Each decision of a run is the decision of an authorized request of the run. -/
theorem decision_authorized (prior : PriorAssessments) (steps : List (PlatformStep κ))
    (assessmentId : UUID) {e : HumanReviewRecord}
    (h : e ∈ ((prior.store.platform steps).lookup assessmentId).decisions) :
    ∃ step ∈ steps, step.Accounts assessmentId e := by
  obtain ⟨accepted, haccounts, hsublist⟩ :=
    List.sublistForall₂_iff.mp (platform_decisions prior steps assessmentId)
  obtain ⟨step, hstep, hstepAccounts⟩ := exists_of_forall₂ haccounts h
  exact ⟨step, hsublist.subset hstep, hstepAccounts⟩

end Runs

/-- In every run of the platform from a migrated database, the decisions in the audit trail of an
assessment are those of authorized requests of the run, each of a request of its own and in the
order of the requests. -/
theorem decisions_authorized {κ : Type} (prior : PriorAssessments) (steps : List (PlatformStep κ))
    (assessmentId : UUID) :
    ∃ accepted : List (ApiRequest κ), (accepted.map PlatformStep.request).Sublist steps ∧
      List.Forall₂ (fun e request => ∃ principal, request.Decides assessmentId e principal)
        ((prior.store.platform steps).lookup assessmentId).decisions accepted := by
  obtain ⟨accepted, haccounts, hsublist⟩ :=
    List.sublistForall₂_iff.mp (platform_decisions prior steps assessmentId)
  generalize ((prior.store.platform steps).lookup assessmentId).decisions = decisions
    at haccounts ⊢
  have hrequests : ∃ requests : List (ApiRequest κ),
      accepted = requests.map PlatformStep.request ∧
        List.Forall₂ (fun e request => ∃ principal, request.Decides assessmentId e principal)
          decisions requests := by
    clear hsublist
    induction haccounts with
    | nil => exact ⟨[], rfl, .nil⟩
    | @cons e step _ _ haccounts _ ih =>
      obtain ⟨requests, rfl, hrequests⟩ := ih
      cases step with
      | request call => exact ⟨call :: requests, rfl, .cons haccounts hrequests⟩
      | resume _ _ _ _ => exact haccounts.elim
  obtain ⟨requests, rfl, hrequests⟩ := hrequests
  exact ⟨requests, hsublist, hrequests⟩

end AssessmentPlatform
