import AssessmentPlatform.Identity.Tokens

/-!
# Access to the routes

The dependencies that authenticate a request and require a role, and the routes with the access
that they require. With authentication the verifier is built from the settings; validated settings
always give one. A route is served if and only if the library has decoded the bearer token under
the configured checks and the claims name a role that the route admits.
-/

namespace AssessmentPlatform

open Library

/-! ## The source -/

/-- The scheme and the credentials of an authorization header. -/
structure HTTPAuthorizationCredentials where
  scheme : Str
  credentials : Str
  deriving DecidableEq

/-- `get_token_verifier`. -/
def getTokenVerifier (settings : ApplicationSettings) : Except Failure (Option TokenVerifier) :=
  if !settings.authEnabled then .ok none
  else
    match settings.authJwtIssuer, settings.authJwtAudience with
    | some issuer, some audience =>
      if Str.given settings.authJwksUrl then
        .ok (some (.oidcJWKS (settings.authJwksUrl.getD []) issuer audience
          settings.authJwtLeewaySeconds))
      else
        match settings.authJwtVerificationKey with
        | none => .error (.application .authenticationRequired)
        | some key =>
          .ok (some (.localJWT key
            ⟨settings.authJwtAlgorithm, issuer, audience, settings.authJwtLeewaySeconds⟩))
    | _, _ => .error (.application .authenticationRequired)

/-- The subject of the development principal has an admitted length. -/
theorem localDevelopment_bounds : 0 < (Str.ofString "local-development").length ∧
    (Str.ofString "local-development").length ≤ 255 := by
  rw [Str.ofString_ofList]
  decide

/-- The development principal has no e-mail address to be bounded. -/
theorem localDevelopment_email : ∀ s ∈ (none : Option Str), s.length ≤ 320 := by
  simp

/-- The display name of the development principal has an admitted length. -/
theorem localDevelopment_displayName :
    ∀ s ∈ some (Str.ofString "Local development principal"), s.length ≤ 255 := by
  rintro s ⟨⟩
  exact Str.length_le_ofList _ (by decide)

/-- The texts of the development principal can be encoded. -/
theorem localDevelopment_encodable :
    (Str.ofString "local-development").encodable = true ∧
      (Str.ofString "local-development").encodable = true ∧
      (∀ s ∈ (none : Option Str), s.encodable = true) ∧
      ∀ s ∈ some (Str.ofString "Local development principal"), s.encodable = true := by
  refine ⟨Str.encodable_ofString _, Str.encodable_ofString _, by simp, ?_⟩
  rintro s ⟨⟩
  exact Str.encodable_ofString _

/-- The principal of a platform without authentication. -/
def NamedPrincipal.localDevelopment : NamedPrincipal where
  subject := ("local-development" : String)
  email := none
  displayName := some ("Local development principal" : String)
  roles := [.admin]
  issuer := ("local-development" : String)
  subject_bounds := localDevelopment_bounds
  email_le := localDevelopment_email
  roles_nonempty := List.cons_ne_nil _ _
  issuer_bounds := localDevelopment_bounds
  displayName_le := localDevelopment_displayName
  encodable := localDevelopment_encodable

section Dependencies

variable {κ : Type} (settings : ApplicationSettings) (library : JWTLibrary κ)
  (folding : CaseFolding) (credentials : Option HTTPAuthorizationCredentials)

/-- `get_authenticated_principal`, for the verifier that its dependency has given. -/
def getAuthenticatedPrincipal (verifier : Option TokenVerifier) : Except Failure NamedPrincipal :=
  if !settings.authEnabled then .ok .localDevelopment
  else
    match credentials, verifier with
    | some credentials, some verifier =>
      if folding.casefold credentials.scheme ≠ ("bearer" : Str) then
        .error (.application .authenticationRequired)
      else verifier.verify library folding credentials.credentials
    | _, _ => .error (.application .authenticationRequired)

/-- The principal of a request: the dependency with the dependency that it needs. -/
def authenticate : Except Failure NamedPrincipal := do
  let verifier ← getTokenVerifier settings
  getAuthenticatedPrincipal settings library folding credentials verifier

/-- `require_reviewer_or_admin`. -/
def requireReviewerOrAdmin (principal : NamedPrincipal) : Except Failure NamedPrincipal :=
  if !principal.canReview then .error (.application .permissionDenied) else .ok principal

/-- `require_admin`. -/
def requireAdmin (principal : NamedPrincipal) : Except Failure NamedPrincipal :=
  if .admin ∉ principal.roles then .error (.application .permissionDenied) else .ok principal

/-- The routes below the prefix of the API. -/
inductive ApiRoute where
  | syncPolicyRepository
  | createAssessment | getAssessment | getRuntimeStatus
  | listReviews | getReviewCandidate | approveReview | rejectReview | requestReviewRevision
  | ingestFile | ingestDocument | getDocument | enrichDocumentGraph | searchKnowledge
  | getSession | listAssessments | listPendingReviews | getEvaluationSummary
  deriving DecidableEq

/-- What a route requires of the principal. -/
inductive RequiredAccess where
  | authenticated | reviewerOrAdmin | admin
  deriving DecidableEq

/-- The dependency of a route. Every router authenticates; the routes below the reviews require
more, and so does the router of the connectors. -/
def ApiRoute.access : ApiRoute → RequiredAccess
  | .syncPolicyRepository => .admin
  | .listReviews | .getReviewCandidate | .approveReview | .rejectReview | .requestReviewRevision
  | .listPendingReviews => .reviewerOrAdmin
  | _ => .authenticated

/-- The check of a requirement. -/
def RequiredAccess.check : RequiredAccess → NamedPrincipal → Except Failure NamedPrincipal
  | .authenticated, principal => .ok principal
  | .reviewerOrAdmin, principal => requireReviewerOrAdmin principal
  | .admin, principal => requireAdmin principal

/-- The principal under which a route is served. -/
def authorize (route : ApiRoute) : Except Failure NamedPrincipal := do
  let principal ← authenticate settings library folding credentials
  route.access.check principal

end Dependencies

/-! ## Who is served -/

section Served

variable {κ : Type} {settings : ApplicationSettings} {facts : TextFacts} {library : JWTLibrary κ}
  {folding : CaseFolding} {credentials : Option HTTPAuthorizationCredentials}
  {principal : NamedPrincipal} {route : ApiRoute}

/-- What a requirement admits. -/
def RequiredAccess.Admits : RequiredAccess → NamedPrincipal → Prop
  | .authenticated, _ => True
  | .reviewerOrAdmin, principal => .reviewer ∈ principal.roles ∨ .admin ∈ principal.roles
  | .admin, principal => .admin ∈ principal.roles

/-- Reviewers and administrators can review. -/
theorem AuthenticatedPrincipal.canReview_iff (p : AuthenticatedPrincipal) :
    p.canReview = true ↔ .reviewer ∈ p.roles ∨ .admin ∈ p.roles := by
  simp [AuthenticatedPrincipal.canReview, and_or_left, exists_or]

/-- A requirement returns the principal that it is given. -/
theorem RequiredAccess.check_eq_ok {access : RequiredAccess} {p q : NamedPrincipal} :
    access.check p = .ok q ↔ p = q ∧ access.Admits p := by
  cases access with
  | authenticated => simp [RequiredAccess.check, RequiredAccess.Admits]
  | reviewerOrAdmin =>
    change requireReviewerOrAdmin p = .ok q ↔ p = q ∧ (.reviewer ∈ p.roles ∨ .admin ∈ p.roles)
    unfold requireReviewerOrAdmin
    rw [← p.canReview_iff]
    cases p.canReview <;> simp
  | admin =>
    change requireAdmin p = .ok q ↔ p = q ∧ .admin ∈ p.roles
    unfold requireAdmin
    by_cases hadmin : .admin ∈ p.roles <;> simp [hadmin]

/-- The bearer token of the credentials. -/
def IsBearer (folding : CaseFolding) (credentials : Option HTTPAuthorizationCredentials)
    (token : Str) : Prop :=
  ∃ given, credentials = some given ∧ folding.casefold given.scheme = ("bearer" : Str) ∧
    given.credentials = token

/-- A principal is authenticated under the verifier of the settings. -/
theorem authenticate_eq_ok (henabled : settings.authEnabled = true) :
    authenticate settings library folding credentials = .ok principal ↔
      ∃ verifier token, getTokenVerifier settings = .ok (some verifier) ∧
        IsBearer folding credentials token ∧
        verifier.verify library folding token = .ok principal := by
  unfold authenticate
  rw [except_bind_eq_ok]
  simp only [getAuthenticatedPrincipal, henabled, Bool.not_true, Bool.false_eq_true, if_false]
  constructor
  · rintro ⟨verifier, hverifier, h⟩
    cases credentials with
    | none => cases h
    | some given =>
      cases verifier with
      | none => cases h
      | some verifier =>
        dsimp only at h
        split at h
        · cases h
        · next hbearer =>
          exact ⟨verifier, _, hverifier, ⟨given, rfl, not_not.mp hbearer, rfl⟩, h⟩
  · rintro ⟨verifier, token, hverifier, ⟨given, rfl, hbearer, rfl⟩, h⟩
    refine ⟨some verifier, hverifier, ?_⟩
    simp only [hbearer, ne_eq, not_true_eq_false, if_false]
    exact h

/-- Complete settings of the authentication give a verifier. -/
theorem AuthConfigured.verifier (h : AuthConfigured settings facts)
    (henabled : settings.authEnabled = true) :
    ∃ verifier, getTokenVerifier settings = .ok (some verifier) ∧
      some verifier.checks.issuer = settings.authJwtIssuer ∧ verifier.checks.issuer ≠ [] ∧
      some verifier.checks.audience = settings.authJwtAudience ∧
      verifier.checks.audience ≠ [] := by
  obtain ⟨issuer, hissuer, hissuerNe⟩ := Str.given_iff.mp h.issuer
  obtain ⟨audience, haudience, haudienceNe⟩ := Str.given_iff.mp h.audience
  unfold getTokenVerifier
  rw [henabled, hissuer, haudience]
  simp only [Bool.not_true, Bool.false_eq_true, if_false]
  cases hgiven : Str.given settings.authJwksUrl with
  | true =>
    refine ⟨_, rfl, ?_⟩
    exact ⟨rfl, hissuerNe, rfl, haudienceNe⟩
  | false =>
    rcases h.source with ⟨url, hurl, hne, -⟩ | ⟨key, hkey, -⟩
    · have htrue : Str.given settings.authJwksUrl = true := Str.given_iff.mpr ⟨url, hurl, hne⟩
      simp [htrue] at hgiven
    · rw [hkey]
      refine ⟨_, rfl, ?_⟩
      exact ⟨rfl, hissuerNe, rfl, haudienceNe⟩

end Served

/-! ## Production -/

/-- The key of a verifier is published over HTTPS, or it is long and no placeholder. -/
def TokenVerifier.KeySafe (facts : TextFacts) : TokenVerifier → Prop
  | .localJWT key _ => 32 ≤ (Str.strip key).length ∧ facts.hasPlaceholder (Str.strip key) = false
  | .oidcJWKS url _ _ _ => facts.IsHttps url

/-- A verifier that checks a named issuer and audience with a safe key. -/
structure TokenVerifier.Safe (settings : ApplicationSettings) (facts : TextFacts)
    (verifier : TokenVerifier) : Prop where
  issuer : some verifier.checks.issuer = settings.authJwtIssuer ∧ verifier.checks.issuer ≠ []
  audience : some verifier.checks.audience = settings.authJwtAudience ∧
    verifier.checks.audience ≠ []
  key : verifier.KeySafe facts

section Production

variable {settings : ApplicationSettings} {facts : TextFacts}

/-- The verifier of a production deployment is safe. -/
theorem ProductionConfigured.verifier (h : ProductionConfigured settings facts) :
    ∃ verifier, getTokenVerifier settings = .ok (some verifier) ∧ verifier.Safe settings facts := by
  obtain ⟨verifier, hverifier, hissuer, hissuerNe, haudience, haudienceNe⟩ :=
    h.auth.verifier h.authEnabled
  refine ⟨verifier, hverifier, ⟨hissuer, hissuerNe⟩, ⟨haudience, haudienceNe⟩, ?_⟩
  unfold getTokenVerifier at hverifier
  simp only [h.authEnabled, Bool.not_true, Bool.false_eq_true, if_false] at hverifier
  split at hverifier
  · cases hgiven : Str.given settings.authJwksUrl with
    | true =>
      rw [hgiven, if_pos rfl] at hverifier
      cases hverifier
      exact h.verification.jwks hgiven
    | false =>
      obtain ⟨key, hkey, hsafe⟩ := h.verification.key hgiven
      rw [hgiven, if_neg Bool.false_ne_true, hkey] at hverifier
      cases hverifier
      exact hsafe
  · cases hverifier

/-- What an environment demands beyond the common checks, production demands as well. -/
theorem SettingsConfigured.inEnvironment (h : SettingsConfigured settings facts)
    (hproduction : settings.environment = .production) (environment : AppEnvironment) :
    SettingsConfigured { settings with environment } facts := by
  have hconfigured := h.production hproduction
  constructor
  · exact ⟨h.overlap, h.recursionLimit, h.costs, h.exporter, h.endpoint,
      fun henabled => ⟨(h.repository henabled).baseUrl, (h.repository henabled).token,
        (h.repository henabled).http, (h.repository henabled).path⟩, h.origins⟩
  · intro _
    obtain ⟨hgiven, hscheme, hsafe⟩ := hconfigured.database
    obtain ⟨hneeded, hembeddings, hkey⟩ := hconfigured.providers
    obtain ⟨hsource, hissuer, haudience⟩ := hconfigured.auth
    obtain ⟨hjwks, hverification⟩ := hconfigured.verification
    exact ⟨hconfigured.debug, hconfigured.tracebacks, hconfigured.origins, hconfigured.credentials,
      hconfigured.hosts, hconfigured.noWildcardHost, ⟨hgiven, hscheme, hsafe⟩,
      hconfigured.repository, ⟨hneeded, hembeddings, hkey⟩, hconfigured.authEnabled,
      ⟨hsource, hissuer, haudience⟩, ⟨hjwks, hverification⟩⟩
  · intro henabled
    obtain ⟨hsource, hissuer, haudience⟩ := h.auth henabled
    exact ⟨hsource, hissuer, haudience⟩

variable {κ : Type} {library : JWTLibrary κ} {folding : CaseFolding}
  {credentials : Option HTTPAuthorizationCredentials} {route : ApiRoute}
  {principal : NamedPrincipal} {verifier : TokenVerifier}

/-- A route is served under a decoded bearer token whose claims name an admitted role. -/
theorem authorize_eq_ok (henabled : settings.authEnabled = true)
    (hverifier : getTokenVerifier settings = .ok (some verifier)) :
    authorize settings library folding credentials route = .ok principal ↔
      ∃ token claims, IsBearer folding credentials token ∧
        verifier.decoded library token = .ok claims ∧
        principalFromClaims folding claims = .ok principal ∧ route.access.Admits principal := by
  unfold authorize
  rw [except_bind_eq_ok]
  constructor
  · rintro ⟨found, hfound, hcheck⟩
    obtain ⟨rfl, hadmits⟩ := RequiredAccess.check_eq_ok.mp hcheck
    obtain ⟨other, token, hother, hbearer, hverify⟩ := (authenticate_eq_ok henabled).mp hfound
    cases hverifier.symm.trans hother
    obtain ⟨claims, hdecoded, hclaims⟩ := TokenVerifier.verify_eq_ok.mp hverify
    exact ⟨token, claims, hbearer, hdecoded, hclaims, hadmits⟩
  · rintro ⟨token, claims, hbearer, hdecoded, hclaims, hadmits⟩
    refine ⟨principal, ?_, RequiredAccess.check_eq_ok.mpr ⟨rfl, hadmits⟩⟩
    refine (authenticate_eq_ok henabled).mpr ⟨verifier, token, hverifier, hbearer, ?_⟩
    exact TokenVerifier.verify_eq_ok.mpr ⟨claims, hdecoded, hclaims⟩

/-- The check of a role fails for a principal that is not admitted, with the permission error. -/
theorem RequiredAccess.check_error {access : RequiredAccess} {p : NamedPrincipal}
    {failure : Failure} (h : access.check p = .error failure) :
    failure = .application .permissionDenied ∧ ¬access.Admits p := by
  constructor
  · cases access with
    | authenticated => cases h
    | reviewerOrAdmin =>
      change requireReviewerOrAdmin p = _ at h
      unfold requireReviewerOrAdmin at h
      split at h <;> cases h
      rfl
    | admin =>
      change requireAdmin p = _ at h
      unfold requireAdmin at h
      split at h <;> cases h
      rfl
  · intro hadmits
    cases h.symm.trans (RequiredAccess.check_eq_ok.mpr ⟨rfl, hadmits⟩)

/-- Why a route is refused: the token, the role, or an error that the library did not name. -/
theorem authorize_error (henabled : settings.authEnabled = true)
    (hverifier : getTokenVerifier settings = .ok (some verifier)) {failure : Failure}
    (h : authorize settings library folding credentials route = .error failure) :
    failure = .application .authenticationRequired ∨
      failure = .application .permissionDenied ∨
      ∃ token fault, IsBearer folding credentials token ∧
        verifier.decoded library token = .error fault ∧ verifier.handles fault = false := by
  unfold authorize at h
  cases hfound : authenticate settings library folding credentials with
  | ok found =>
    rw [hfound] at h
    exact .inr (.inl (RequiredAccess.check_error h).1)
  | error e =>
    rw [hfound] at h
    cases h
    unfold authenticate at hfound
    rw [hverifier] at hfound
    change getAuthenticatedPrincipal settings library folding credentials (some verifier) = _
      at hfound
    unfold getAuthenticatedPrincipal at hfound
    simp only [henabled, Bool.not_true, Bool.false_eq_true, if_false] at hfound
    cases credentials with
    | none =>
      cases hfound
      exact .inl rfl
    | some given =>
      dsimp only at hfound
      split at hfound
      · cases hfound
        exact .inl rfl
      · next hbearer =>
        rcases TokenVerifier.verify_error hfound with hrefusal | ⟨fault, hdecoded, hhandles⟩
        · exact .inl hrefusal
        · exact .inr (.inr ⟨_, fault, ⟨given, rfl, not_not.mp hbearer, rfl⟩, hdecoded, hhandles⟩)

end Production

/-- The validation of settings never ends with a failed assertion. Settings that are accepted for
production are accepted in every environment, and they give a safe verifier; under it a request is
served if and only if its bearer token is decoded and the claims name a role that the route admits.
Every other request ends with the refusal of its token or of its role, or with an error of the
library that the verifier does not name. -/
theorem production_access (settings : ApplicationSettings) (facts : TextFacts) :
    NeverAsserts (settings.validateChunkSettings facts) ∧
    (settings.validateChunkSettings facts = .ok () → settings.environment = .production →
      (∀ environment, { settings with environment }.validateChunkSettings facts = .ok ()) ∧
      ∃ verifier, getTokenVerifier settings = .ok (some verifier) ∧ verifier.Safe settings facts ∧
        ∀ (κ : Type) (library : JWTLibrary κ) (folding : CaseFolding)
          (credentials : Option HTTPAuthorizationCredentials) (route : ApiRoute),
          (∀ principal, authorize settings library folding credentials route = .ok principal ↔
            ∃ token claims, IsBearer folding credentials token ∧
              verifier.decoded library token = .ok claims ∧
              principalFromClaims folding claims = .ok principal ∧
              route.access.Admits principal) ∧
          ∀ failure, authorize settings library folding credentials route = .error failure →
            failure = .application .authenticationRequired ∨
            failure = .application .permissionDenied ∨
            ∃ token fault, IsBearer folding credentials token ∧
              verifier.decoded library token = .error fault ∧
              verifier.handles fault = false) := by
  refine ⟨validateChunkSettings_neverAsserts, fun hvalid hproduction => ?_⟩
  have hconfigured := validateChunkSettings_eq_ok.mp hvalid
  have henabled := (hconfigured.production hproduction).authEnabled
  obtain ⟨verifier, hverifier, hsafe⟩ := (hconfigured.production hproduction).verifier
  constructor
  · intro environment
    exact validateChunkSettings_eq_ok.mpr (hconfigured.inEnvironment hproduction environment)
  · refine ⟨verifier, hverifier, hsafe, fun κ library folding credentials route => ?_⟩
    constructor
    · exact fun principal => authorize_eq_ok henabled hverifier
    · exact fun failure h => authorize_error henabled hverifier h

/-- Settings of a production deployment with the keys of an identity provider. -/
def ApplicationSettings.hosted : ApplicationSettings where
  environment := .production
  corsAllowedOrigins := ("https://desk.example" : String)
  trustedHosts := ("desk.example" : String)
  databaseUrl := some ("postgresql://db/assessments" : String)
  openaiApiKey := some ("live-key" : String)
  authEnabled := true
  authJwtAlgorithm := .rs256
  authJwksUrl := some ("https://login.example/keys" : String)
  authJwtIssuer := some ("https://login.example" : String)
  authJwtAudience := some ("assessments" : String)

/-- The settings of the sample are accepted, also for staging, and their verifier is safe. -/
theorem hosted_access :
    ({ ApplicationSettings.hosted with environment := .staging }.validateChunkSettings
        ⟨.ascii, fun _ => none⟩ = .ok ()) ∧
      ∃ verifier, getTokenVerifier .hosted = .ok (some verifier) ∧
        verifier.Safe .hosted ⟨.ascii, fun _ => none⟩ := by
  have hvalid : ApplicationSettings.hosted.validateChunkSettings ⟨.ascii, fun _ => none⟩ =
      .ok () := by
    decide +kernel
  obtain ⟨hevery, verifier, hverifier, hsafe, -⟩ := (production_access _ _).2 hvalid rfl
  exact ⟨hevery .staging, verifier, hverifier, hsafe⟩

end AssessmentPlatform
