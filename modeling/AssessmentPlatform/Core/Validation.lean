import AssessmentPlatform.Core.Urls
import AssessmentPlatform.Ingestion.Filenames
import AssessmentPlatform.Library.Program
import AssessmentPlatform.Providers.Factory
import AssessmentPlatform.Runtime.Models

/-!
# Validation of the application settings

The model validator of the settings: the checks of every environment, those of enabled
authentication and those of production, in the order of the source and with its messages. What
they accept is stated without the order, and neither of the two assertions of the source can fail.
-/

namespace AssessmentPlatform

open Library

/-! ## The source -/

/-- The environments that the application runs in. -/
inductive AppEnvironment where
  | local | development | test | staging | production
  deriving DecidableEq

/-- The signature algorithms that can be configured. -/
inductive JWTAlgorithm where
  | hs256 | rs256
  deriving DecidableEq

/-- Where metrics and traces are sent. -/
inductive ObservabilityExporter where
  | none | otlp
  deriving DecidableEq

/-- The default number of revisions that a reviewer may request. -/
def defaultHumanRevisions : Fin 11 := 2

/-- The settings that the validators, the authentication and the runtime gate read, with their
defaults. A secret is represented by its value. -/
structure ApplicationSettings extends ProviderSettings where
  environment : AppEnvironment := .local
  debug : Bool := false
  corsAllowedOrigins : Str := ("http://localhost:3000,http://127.0.0.1:3000" : String)
  corsAllowCredentials : Bool := false
  trustedHosts : Str := ("localhost,127.0.0.1,testserver" : String)
  logExceptionTracebacks : Bool := false
  databaseUrl : Option Str := none
  openaiApiKey : Option Str := none
  anthropicApiKey : Option Str := none
  providerRequired : Bool := true
  ragEnabled : Bool := false
  knowledgeGraphEnabled : Bool := false
  runtimeRiskGateEnabled : Bool := false
  runtimeMediumRiskDecision : RuntimeRiskDecision := .completeWithWarning
  runtimeHighRiskDecision : RuntimeRiskDecision := .requireHumanReview
  runtimeCriticalRiskDecision : RuntimeRiskDecision := .blockAndEscalate
  runtimeReviewOnInsufficientEvidence : Bool := true
  runtimeReviewOnDegradedExecution : Bool := true
  runtimeReviewOnSpecialistUnavailable : Bool := true
  runtimeReviewOnToolFailure : Bool := true
  runtimeBlockHighRiskInvalidProvenance : Bool := true
  runtimeBlockCriticalMissingMitigation : Bool := true
  maxHumanRevisions : Fin 11 := defaultHumanRevisions
  modelInputCostPer1mTokens : Option ℚ := none
  modelOutputCostPer1mTokens : Option ℚ := none
  evaluationLlmJudgeEnabled : Bool := false
  authEnabled : Bool := false
  authJwtAlgorithm : JWTAlgorithm := .hs256
  authJwtVerificationKey : Option Str := none
  authJwksUrl : Option Str := none
  authJwtIssuer : Option Str := none
  authJwtAudience : Option Str := none
  authJwtLeewaySeconds : ℕ := 30
  observabilityExporter : ObservabilityExporter := .none
  otelExporterOtlpEndpoint : Option Str := none
  policyRepositoryEnabled : Bool := false
  policyRepositoryBaseUrl : Option Str := none
  policyRepositoryToken : Option Str := none
  policyRepositoryDocumentsPath : Str := ("/v1/documents" : String)

/-- `UNSAFE_PLACEHOLDER_MARKERS`. -/
def unsafePlaceholderMarkers : List Str := ["change-me", "changeme", "placeholder", "replace-with"]

/-- Why settings are refused: a `ValueError` with its message, or a failed assertion. -/
inductive SettingsFault where
  | value (message : Str)
  | assertion
  deriving DecidableEq

/-- What the standard library tells about texts: the case folding, and what `urlsplit` finds wrong
with a network location. -/
structure TextFacts where
  folding : CaseFolding
  netlocFault : Str → Option Str

namespace TextFacts

variable (facts : TextFacts)

/-- `urlsplit`, whose error is the message of a `ValueError`. -/
def split (url : Str) : Except SettingsFault SplitResult :=
  (urlsplit facts.netlocFault url).mapError .value

/-- `any(marker in text for marker in UNSAFE_PLACEHOLDER_MARKERS)`, for a text in any case. -/
def hasPlaceholder (text : Str) : Bool :=
  unsafePlaceholderMarkers.any fun marker => decide (marker <:+: facts.folding.casefold text)

end TextFacts

/-- The truth value of an optional text: it is set, and it is not empty. -/
def Str.given (s : Option Str) : Bool := s.any fun text => !text.isEmpty

/-- `[value.strip() for value in text.split(",") if value.strip()]`. -/
def commaSeparated (text : Str) : List Str :=
  (text.splitOn 44).filterMap fun value =>
    if Str.strip value = [] then none else some (Str.strip value)

/-- The condition that refuses an address which is no HTTP(S) URL. -/
def SplitResult.isHttp (parts : SplitResult) : Bool :=
  (parts.scheme == ("http" : Str) || parts.scheme == ("https" : Str)) && !parts.netloc.isEmpty

/-- `if condition: raise ValueError(message)`. -/
def refuseIf (condition : Bool) (message : String) : Except SettingsFault Unit :=
  if condition then .error (.value message) else .ok ()

/-- The check that an address is an HTTP(S) URL. -/
def requireHttp (facts : TextFacts) (url : Str) (message : String) :
    Except SettingsFault Unit := do
  let parsed ← facts.split url
  refuseIf (!parsed.isHttp) message

/-- The check that an address has the scheme of HTTPS. -/
def requireHttps (facts : TextFacts) (url : Str) (message : String) :
    Except SettingsFault Unit := do
  let parsed ← facts.split url
  refuseIf (parsed.scheme != ("https" : Str)) message

namespace ApplicationSettings

variable (settings : ApplicationSettings)

/-- `parsed_cors_allowed_origins`. -/
def parsedCorsAllowedOrigins : List Str := commaSeparated settings.corsAllowedOrigins

/-- `parsed_trusted_hosts`. -/
def parsedTrustedHosts : List Str := commaSeparated settings.trustedHosts

/-- The credential of the selected chat provider. -/
def selectedKey : Option Str :=
  if settings.chatModelProvider = .anthropic then settings.anthropicApiKey
  else settings.openaiApiKey

/-- `provider_is_configured`. -/
def providerIsConfigured : Bool := settings.selectedKey.any fun key => !(Str.strip key).isEmpty

section Validators

variable (facts : TextFacts)

/-- The checks of the telemetry exporter. -/
def validateExporter : Except SettingsFault Unit := do
  refuseIf (settings.observabilityExporter = .otlp && !Str.given settings.otelExporterOtlpEndpoint)
    "OTEL_EXPORTER_OTLP_ENDPOINT is required for the OTLP exporter"
  if Str.given settings.otelExporterOtlpEndpoint then
    requireHttp facts (settings.otelExporterOtlpEndpoint.getD [])
      "OTEL_EXPORTER_OTLP_ENDPOINT must be a valid HTTP(S) URL"

/-- The condition under which a configured path stays below the address of the repository. -/
def isAbsolutePath (path : Str) (parsed : SplitResult) : Bool :=
  path.take 1 == [47] && path.take 2 != [47, 47] && parsed.scheme.isEmpty &&
    parsed.netloc.isEmpty && parsed.query.isEmpty && parsed.fragment.isEmpty

/-- The checks of the path of the policy documents. -/
def validateDocumentsPath : Except SettingsFault Unit := do
  let parsed ← facts.split settings.policyRepositoryDocumentsPath
  refuseIf (!isAbsolutePath settings.policyRepositoryDocumentsPath parsed)
    "POLICY_REPOSITORY_DOCUMENTS_PATH must be one absolute path"

/-- The checks of an enabled policy repository. -/
def validateRepository : Except SettingsFault Unit := do
  if settings.policyRepositoryEnabled then
    refuseIf (!Str.given settings.policyRepositoryBaseUrl ||
        !settings.policyRepositoryToken.any fun token => !(Str.strip token).isEmpty)
      ("POLICY_REPOSITORY_BASE_URL and POLICY_REPOSITORY_TOKEN are required " ++
        "when the connector is enabled")
    requireHttp facts (settings.policyRepositoryBaseUrl.getD [])
      "POLICY_REPOSITORY_BASE_URL must be a valid HTTP(S) URL"
    settings.validateDocumentsPath facts

/-- The checks of the allowed origins, one after another. -/
def validateOrigins : List Str → Except SettingsFault Unit
  | [] => pure ()
  | origin :: origins => do
    let parsed ← facts.split origin
    refuseIf (origin != [42] && !parsed.isHttp)
      "CORS_ALLOWED_ORIGINS must contain valid HTTP(S) origins"
    validateOrigins origins

/-- `_validate_auth_settings`. -/
def validateAuthSettings : Except SettingsFault Unit := do
  refuseIf (settings.authJwtVerificationKey.isNone && !Str.given settings.authJwksUrl)
    "AUTH_JWT_VERIFICATION_KEY or AUTH_JWKS_URL is required when authentication is enabled"
  refuseIf (settings.authJwtVerificationKey.isSome && Str.given settings.authJwksUrl)
    "Configure only one of AUTH_JWT_VERIFICATION_KEY or AUTH_JWKS_URL"
  if Str.given settings.authJwksUrl then
    requireHttp facts (settings.authJwksUrl.getD []) "AUTH_JWKS_URL must be a valid HTTP(S) URL"
    refuseIf (settings.authJwtAlgorithm != .rs256) "AUTH_JWKS_URL requires AUTH_JWT_ALGORITHM=RS256"
  refuseIf (!Str.given settings.authJwtIssuer || !Str.given settings.authJwtAudience)
    "AUTH_JWT_ISSUER and AUTH_JWT_AUDIENCE are required when authentication is enabled"

/-- The checks of the database address in production. -/
def validateDatabase : Except SettingsFault Unit := do
  refuseIf settings.databaseUrl.isNone "DATABASE_URL is required in production"
  let databaseUrl := Str.strip (settings.databaseUrl.getD [])
  refuseIf (!("postgresql://" : Str).isPrefixOf databaseUrl &&
      !("postgresql+psycopg://" : Str).isPrefixOf databaseUrl)
    "DATABASE_URL must use PostgreSQL in production"
  refuseIf (facts.hasPlaceholder databaseUrl)
    "DATABASE_URL contains an unsafe placeholder in production"

/-- The check of an enabled policy repository in production. -/
def validateRepositoryScheme : Except SettingsFault Unit :=
  if settings.policyRepositoryEnabled then
    match settings.policyRepositoryBaseUrl with
    | none => .error .assertion
    | some baseUrl =>
      requireHttps facts baseUrl "POLICY_REPOSITORY_BASE_URL must use HTTPS in production"
  else .ok ()

/-- Whether production needs the credential of the chat provider. -/
def providerNeeded : Bool :=
  settings.providerRequired || settings.ragEnabled || settings.agenticWorkflowEnabled ||
    settings.multiAgentWorkflowEnabled || settings.knowledgeGraphEnabled ||
    settings.evaluationLlmJudgeEnabled

/-- The checks of the provider credentials in production. -/
def validateProviders : Except SettingsFault Unit := do
  refuseIf (settings.providerNeeded && !settings.providerIsConfigured)
    ((if settings.chatModelProvider = .anthropic then "ANTHROPIC_API_KEY" else "OPENAI_API_KEY") ++
      " is required by the enabled production profile")
  refuseIf ((settings.ragEnabled || settings.knowledgeGraphEnabled) &&
      !settings.openaiApiKey.any fun key => !(Str.strip key).isEmpty)
    "OPENAI_API_KEY is required for OpenAI embeddings"
  refuseIf (settings.providerIsConfigured && settings.selectedKey.any facts.hasPlaceholder)
    "Selected provider API key contains an unsafe placeholder"

/-- The checks of the token verification that only production makes. -/
def validateVerification : Except SettingsFault Unit := do
  if Str.given settings.authJwksUrl then
    requireHttps facts (settings.authJwksUrl.getD []) "AUTH_JWKS_URL must use HTTPS in production"
  else
    match settings.authJwtVerificationKey with
    | none => throw .assertion
    | some key =>
      refuseIf ((Str.strip key).length < 32 || facts.hasPlaceholder (Str.strip key))
        "AUTH_JWT_VERIFICATION_KEY is unsafe for production"

/-- `_validate_production_settings`. -/
def validateProductionSettings : Except SettingsFault Unit := do
  refuseIf settings.debug "APP_DEBUG must be false in production"
  refuseIf settings.logExceptionTracebacks "LOG_EXCEPTION_TRACEBACKS must be false in production"
  refuseIf (settings.parsedCorsAllowedOrigins.contains [42])
    "CORS_ALLOWED_ORIGINS cannot contain '*' in production"
  refuseIf (settings.corsAllowCredentials && settings.parsedCorsAllowedOrigins.isEmpty)
    "CORS_ALLOWED_ORIGINS must be explicit when credentials are allowed"
  refuseIf (settings.parsedTrustedHosts.isEmpty || settings.parsedTrustedHosts.contains [42])
    "TRUSTED_HOSTS must be an explicit allowlist in production"
  settings.validateDatabase facts
  settings.validateRepositoryScheme facts
  settings.validateProviders facts
  refuseIf (!settings.authEnabled) "AUTH_ENABLED must be true in production"
  settings.validateAuthSettings facts
  settings.validateVerification facts

/-- `validate_chunk_settings`. -/
def validateChunkSettings : Except SettingsFault Unit := do
  refuseIf (settings.ragChunkOverlap ≥ settings.ragChunkSize)
    "RAG_CHUNK_OVERLAP must be smaller than RAG_CHUNK_SIZE"
  refuseIf (settings.agenticWorkflowEnabled &&
      settings.langgraphRecursionLimit < settings.agentMaxSteps * 2 + 3)
    ("LANGGRAPH_RECURSION_LIMIT must be at least 2 * AGENT_MAX_STEPS + 3 " ++
      "when AGENTIC_WORKFLOW_ENABLED is true")
  refuseIf (settings.modelInputCostPer1mTokens.isNone != settings.modelOutputCostPer1mTokens.isNone)
    ("MODEL_INPUT_COST_PER_1M_TOKENS and MODEL_OUTPUT_COST_PER_1M_TOKENS " ++
      "must be configured together")
  settings.validateExporter facts
  settings.validateRepository facts
  validateOrigins facts settings.parsedCorsAllowedOrigins
  if settings.environment = .production then settings.validateProductionSettings facts
  else if settings.authEnabled then settings.validateAuthSettings facts

end Validators

end ApplicationSettings

/-! ## What is accepted -/

/-- A check passes exactly if its condition does not hold. -/
theorem refuseIf_eq_ok {condition : Bool} {message : String} {u : Unit} :
    refuseIf condition message = .ok u ↔ condition = false := by
  cases condition <;> simp [refuseIf]

/-- A check in front of others passes if its condition does not hold and the others pass. -/
theorem refuseIf_bind_eq_ok {α : Type} {condition : Bool} {message : String}
    {next : Unit → Except SettingsFault α} {a : α} :
    (refuseIf condition message >>= next) = .ok a ↔ condition = false ∧ next () = .ok a := by
  cases condition <;> simp [refuseIf, bind, Except.bind]

/-- A text is given if it is there and not empty. -/
theorem Str.given_iff {s : Option Str} :
    Str.given s = true ↔ ∃ text, s = some text ∧ text ≠ [] := by
  cases s <;> simp [Str.given]

/-- The address is an HTTP(S) URL. -/
def TextFacts.IsHttp (facts : TextFacts) (url : Str) : Prop :=
  ∃ parts, facts.split url = .ok parts ∧ parts.isHttp = true

/-- The address has the scheme of HTTPS. -/
def TextFacts.IsHttps (facts : TextFacts) (url : Str) : Prop :=
  ∃ parts, facts.split url = .ok parts ∧ parts.scheme = ("https" : Str)

section Accepted

variable {settings : ApplicationSettings} {facts : TextFacts}

/-- The check of an address admits the addresses of the web. -/
theorem requireHttp_eq_ok {url : Str} {message : String} :
    requireHttp facts url message = .ok () ↔ facts.IsHttp url := by
  unfold requireHttp
  rw [except_bind_eq_ok]
  simp only [refuseIf_eq_ok, Bool.not_eq_false']
  exact Iff.rfl

/-- The stricter check of an address admits those over HTTPS. -/
theorem requireHttps_eq_ok {url : Str} {message : String} :
    requireHttps facts url message = .ok () ↔ facts.IsHttps url := by
  unfold requireHttps
  rw [except_bind_eq_ok]
  simp only [refuseIf_eq_ok, bne_eq_false_iff_eq]
  exact Iff.rfl

/-- Complete settings of the authentication: the keys of an identity provider, or one key. -/
structure AuthConfigured (settings : ApplicationSettings) (facts : TextFacts) : Prop where
  source : (∃ url, settings.authJwksUrl = some url ∧ url ≠ [] ∧ facts.IsHttp url ∧
      settings.authJwtAlgorithm = .rs256 ∧ settings.authJwtVerificationKey = none) ∨
    ∃ key, settings.authJwtVerificationKey = some key ∧ Str.given settings.authJwksUrl = false
  issuer : Str.given settings.authJwtIssuer = true
  audience : Str.given settings.authJwtAudience = true

/-- When the authentication is configured. -/
theorem validateAuthSettings_eq_ok :
    settings.validateAuthSettings facts = .ok () ↔ AuthConfigured settings facts := by
  unfold ApplicationSettings.validateAuthSettings
  have hlast : ∀ message, refuseIf (!Str.given settings.authJwtIssuer ||
      !Str.given settings.authJwtAudience) message = .ok () ↔
      Str.given settings.authJwtIssuer = true ∧ Str.given settings.authJwtAudience = true := by
    intro message
    rw [refuseIf_eq_ok]
    simp
  simp only [refuseIf_bind_eq_ok]
  cases hgiven : Str.given settings.authJwksUrl with
  | false =>
    rw [if_neg Bool.false_ne_true, hlast]
    constructor
    · rintro ⟨hkey, -, hissuer, haudience⟩
      obtain ⟨key, hkey⟩ : ∃ key, settings.authJwtVerificationKey = some key := by
        cases h : settings.authJwtVerificationKey <;> simp_all
      exact ⟨.inr ⟨key, hkey, hgiven⟩, hissuer, haudience⟩
    · rintro ⟨hsource, hissuer, haudience⟩
      rcases hsource with ⟨url, hurl, hne, -⟩ | ⟨key, hkey, -⟩
      · have htrue : Str.given settings.authJwksUrl = true := Str.given_iff.mpr ⟨url, hurl, hne⟩
        simp [htrue] at hgiven
      · simp [hkey, hissuer, haudience]
  | true =>
    obtain ⟨url, hurl, hne⟩ := Str.given_iff.mp hgiven
    rw [if_pos rfl, except_seq_eq_ok, requireHttp_eq_ok, hurl, Option.getD_some]
    simp only [refuseIf_bind_eq_ok, hlast]
    constructor
    · rintro ⟨-, hkey, hhttp, halgorithm, hissuer, haudience⟩
      have hnone : settings.authJwtVerificationKey = none := by
        cases h : settings.authJwtVerificationKey <;> simp_all
      exact ⟨.inl ⟨url, hurl, hne, hhttp, by simpa using halgorithm, hnone⟩, hissuer, haudience⟩
    · rintro ⟨⟨url', hurl', -, hhttp, halgorithm, hnone⟩ | ⟨-, -, hfalse⟩, hissuer, haudience⟩
      · cases hurl.symm.trans hurl'
        simp [hnone, hhttp, halgorithm, hissuer, haudience]
      · simp [hgiven] at hfalse

/-- An enabled policy repository has its address, a token and one absolute path. -/
structure RepositoryConfigured (settings : ApplicationSettings) (facts : TextFacts) : Prop where
  baseUrl : Str.given settings.policyRepositoryBaseUrl = true
  token : (settings.policyRepositoryToken.any fun token => !(Str.strip token).isEmpty) = true
  http : facts.IsHttp (settings.policyRepositoryBaseUrl.getD [])
  path : ∃ parts, facts.split settings.policyRepositoryDocumentsPath = .ok parts ∧
    ApplicationSettings.isAbsolutePath settings.policyRepositoryDocumentsPath parts = true

/-- When the policy repository is configured. -/
theorem validateRepository_eq_ok :
    settings.validateRepository facts = .ok () ↔
      (settings.policyRepositoryEnabled = true → RepositoryConfigured settings facts) := by
  unfold ApplicationSettings.validateRepository
  cases henabled : settings.policyRepositoryEnabled with
  | false => simp [pure, Except.pure]
  | true =>
    have hpath : settings.validateDocumentsPath facts = .ok () ↔
        ∃ parts, facts.split settings.policyRepositoryDocumentsPath = .ok parts ∧
          ApplicationSettings.isAbsolutePath settings.policyRepositoryDocumentsPath parts =
            true := by
      unfold ApplicationSettings.validateDocumentsPath
      rw [except_bind_eq_ok]
      simp only [refuseIf_eq_ok, Bool.not_eq_false']
    rw [if_pos rfl, refuseIf_bind_eq_ok, except_seq_eq_ok, requireHttp_eq_ok, hpath]
    rw [Bool.or_eq_false_iff, Bool.not_eq_false', Bool.not_eq_false']
    constructor
    · rintro ⟨⟨hbase, htoken⟩, hhttp, hparts⟩ -
      exact ⟨hbase, htoken, hhttp, hparts⟩
    · intro h
      obtain ⟨hbase, htoken, hhttp, hparts⟩ := h rfl
      exact ⟨⟨hbase, htoken⟩, hhttp, hparts⟩

/-- When the exporter is configured: the endpoint that it needs is an address of the web. -/
theorem validateExporter_eq_ok :
    settings.validateExporter facts = .ok () ↔
      (settings.observabilityExporter = .otlp →
        Str.given settings.otelExporterOtlpEndpoint = true) ∧
      (Str.given settings.otelExporterOtlpEndpoint = true →
        facts.IsHttp (settings.otelExporterOtlpEndpoint.getD [])) := by
  unfold ApplicationSettings.validateExporter
  rw [refuseIf_bind_eq_ok]
  cases Str.given settings.otelExporterOtlpEndpoint with
  | false => simp [pure, Except.pure]
  | true => simp [requireHttp_eq_ok]

/-- When the origins are accepted: each of them is an origin of the web, or a star. -/
theorem validateOrigins_eq_ok {origins : List Str} :
    ApplicationSettings.validateOrigins facts origins = .ok () ↔
      ∀ origin ∈ origins, ∃ parts, facts.split origin = .ok parts ∧
        (origin ≠ [42] → parts.isHttp = true) := by
  induction origins with
  | nil => simp [ApplicationSettings.validateOrigins, pure, Except.pure]
  | cons origin origins ih =>
    unfold ApplicationSettings.validateOrigins
    rw [List.forall_mem_cons, ← ih, except_bind_eq_ok]
    simp only [refuseIf_bind_eq_ok]
    constructor
    · rintro ⟨parts, hparts, hhttp, hrest⟩
      refine ⟨⟨parts, hparts, fun hne => ?_⟩, hrest⟩
      simpa [hne] using hhttp
    · rintro ⟨⟨parts, hparts, hhttp⟩, hrest⟩
      refine ⟨parts, hparts, ?_, hrest⟩
      by_cases hwildcard : origin = [42]
      · simp [hwildcard]
      · simp [hhttp hwildcard]

/-- The database address of a production deployment. -/
structure DatabaseConfigured (settings : ApplicationSettings) (facts : TextFacts) : Prop where
  given : settings.databaseUrl.isSome = true
  postgresql : ("postgresql://" : Str) <+: Str.strip (settings.databaseUrl.getD []) ∨
    ("postgresql+psycopg://" : Str) <+: Str.strip (settings.databaseUrl.getD [])
  safe : facts.hasPlaceholder (Str.strip (settings.databaseUrl.getD [])) = false

/-- When the database is configured for production. -/
theorem validateDatabase_eq_ok :
    settings.validateDatabase facts = .ok () ↔ DatabaseConfigured settings facts := by
  unfold ApplicationSettings.validateDatabase
  rw [refuseIf_bind_eq_ok, refuseIf_bind_eq_ok, refuseIf_eq_ok, Bool.and_eq_false_iff,
    Bool.not_eq_false', Bool.not_eq_false', List.isPrefixOf_iff_prefix, List.isPrefixOf_iff_prefix]
  constructor
  · rintro ⟨hgiven, hscheme, hsafe⟩
    exact ⟨by simpa [Option.isSome_iff_ne_none] using hgiven, hscheme, hsafe⟩
  · rintro ⟨hgiven, hscheme, hsafe⟩
    exact ⟨by simpa [Option.isSome_iff_ne_none] using hgiven, hscheme, hsafe⟩

/-- The credentials of a production deployment. -/
structure ProvidersConfigured (settings : ApplicationSettings) (facts : TextFacts) : Prop where
  needed : settings.providerNeeded = true → settings.providerIsConfigured = true
  embeddings : settings.ragEnabled = true ∨ settings.knowledgeGraphEnabled = true →
    (settings.openaiApiKey.any fun key => !(Str.strip key).isEmpty) = true
  safe : settings.providerIsConfigured = true →
    settings.selectedKey.any facts.hasPlaceholder = false

/-- When the providers are configured for production. -/
theorem validateProviders_eq_ok :
    settings.validateProviders facts = .ok () ↔ ProvidersConfigured settings facts := by
  unfold ApplicationSettings.validateProviders
  rw [refuseIf_bind_eq_ok, refuseIf_bind_eq_ok, refuseIf_eq_ok]
  simp only [Bool.and_eq_false_imp, Bool.not_eq_false', Bool.or_eq_true]
  exact ⟨fun ⟨hneeded, hembeddings, hsafe⟩ => ⟨hneeded, hembeddings, hsafe⟩,
    fun ⟨hneeded, hembeddings, hsafe⟩ => ⟨hneeded, hembeddings, hsafe⟩⟩

/-- The key with which production verifies tokens: published by an identity provider over HTTPS,
or long and no placeholder. -/
structure VerificationConfigured (settings : ApplicationSettings) (facts : TextFacts) : Prop where
  jwks : Str.given settings.authJwksUrl = true →
    facts.IsHttps (settings.authJwksUrl.getD [])
  key : Str.given settings.authJwksUrl = false →
    ∃ key, settings.authJwtVerificationKey = some key ∧ 32 ≤ (Str.strip key).length ∧
      facts.hasPlaceholder (Str.strip key) = false

/-- When the verification of tokens is configured for production. -/
theorem validateVerification_eq_ok :
    settings.validateVerification facts = .ok () ↔ VerificationConfigured settings facts := by
  unfold ApplicationSettings.validateVerification
  cases hgiven : Str.given settings.authJwksUrl with
  | true =>
    rw [if_pos rfl, requireHttps_eq_ok]
    constructor
    · intro h
      exact ⟨fun _ => h, fun hfalse => by simp [hgiven] at hfalse⟩
    · intro h
      exact h.jwks hgiven
  | false =>
    rw [if_neg Bool.false_ne_true]
    constructor
    · intro h
      refine ⟨fun htrue => by simp [hgiven] at htrue, fun _ => ?_⟩
      cases hkey : settings.authJwtVerificationKey with
      | none =>
        rw [hkey] at h
        cases h
      | some key =>
        rw [hkey] at h
        have hsafe := refuseIf_eq_ok.mp h
        rw [Bool.or_eq_false_iff, decide_eq_false_iff_not] at hsafe
        exact ⟨key, rfl, by omega, hsafe.2⟩
    · intro h
      obtain ⟨key, hkey, hlength, hsafe⟩ := h.key hgiven
      rw [hkey]
      refine refuseIf_eq_ok.mpr ?_
      rw [Bool.or_eq_false_iff, decide_eq_false_iff_not]
      exact ⟨by omega, hsafe⟩

/-- What production demands beyond the other environments. -/
structure ProductionConfigured (settings : ApplicationSettings) (facts : TextFacts) : Prop where
  debug : settings.debug = false
  tracebacks : settings.logExceptionTracebacks = false
  origins : [42] ∉ settings.parsedCorsAllowedOrigins
  credentials : settings.corsAllowCredentials = true → settings.parsedCorsAllowedOrigins ≠ []
  hosts : settings.parsedTrustedHosts ≠ []
  noWildcardHost : [42] ∉ settings.parsedTrustedHosts
  database : DatabaseConfigured settings facts
  repository : settings.policyRepositoryEnabled = true →
    ∃ url, settings.policyRepositoryBaseUrl = some url ∧ facts.IsHttps url
  providers : ProvidersConfigured settings facts
  authEnabled : settings.authEnabled = true
  auth : AuthConfigured settings facts
  verification : VerificationConfigured settings facts

/-- When the policy repository is configured for production: its address is one over HTTPS. -/
theorem validateRepositoryScheme_eq_ok :
    settings.validateRepositoryScheme facts = .ok () ↔ (settings.policyRepositoryEnabled = true →
      ∃ url, settings.policyRepositoryBaseUrl = some url ∧ facts.IsHttps url) := by
  unfold ApplicationSettings.validateRepositoryScheme
  cases settings.policyRepositoryEnabled with
  | false => simp
  | true =>
    cases settings.policyRepositoryBaseUrl with
    | none => simp
    | some url => simp [requireHttps_eq_ok]

/-- When the settings are configured for production. -/
theorem validateProductionSettings_eq_ok :
    settings.validateProductionSettings facts = .ok () ↔ ProductionConfigured settings facts := by
  unfold ApplicationSettings.validateProductionSettings
  simp only [except_seq_eq_ok, refuseIf_eq_ok, validateDatabase_eq_ok,
    validateRepositoryScheme_eq_ok, validateProviders_eq_ok, validateAuthSettings_eq_ok,
    validateVerification_eq_ok,
    Bool.or_eq_false_iff, Bool.and_eq_false_imp, Bool.not_eq_false', List.isEmpty_eq_false_iff,
    List.contains_eq_mem, decide_eq_false_iff_not]
  constructor
  · rintro ⟨hdebug, htracebacks, horigins, hcredentials, ⟨hhosts, hwildcard⟩, hdatabase,
      hrepository, hproviders, henabled, hauth, hverification⟩
    exact ⟨hdebug, htracebacks, horigins, hcredentials, hhosts, hwildcard, hdatabase, hrepository,
      hproviders, henabled, hauth, hverification⟩
  · intro h
    exact ⟨h.debug, h.tracebacks, h.origins, h.credentials, ⟨h.hosts, h.noWildcardHost⟩,
      h.database, h.repository, h.providers, h.authEnabled, h.auth, h.verification⟩

/-- What every environment demands. -/
structure CommonConfigured (settings : ApplicationSettings) (facts : TextFacts) : Prop where
  overlap : settings.ragChunkOverlap < settings.ragChunkSize
  recursionLimit : settings.agenticWorkflowEnabled = true →
    settings.agentMaxSteps * 2 + 3 ≤ settings.langgraphRecursionLimit
  costs : settings.modelInputCostPer1mTokens.isNone = settings.modelOutputCostPer1mTokens.isNone
  exporter : settings.observabilityExporter = .otlp →
    Str.given settings.otelExporterOtlpEndpoint = true
  endpoint : Str.given settings.otelExporterOtlpEndpoint = true →
    facts.IsHttp (settings.otelExporterOtlpEndpoint.getD [])
  repository : settings.policyRepositoryEnabled = true → RepositoryConfigured settings facts
  origins : ∀ origin ∈ settings.parsedCorsAllowedOrigins, ∃ parts, facts.split origin = .ok parts ∧
    (origin ≠ [42] → parts.isHttp = true)

/-- Settings that pass the validation. -/
structure SettingsConfigured (settings : ApplicationSettings) (facts : TextFacts) : Prop
    extends CommonConfigured settings facts where
  production : settings.environment = .production → ProductionConfigured settings facts
  auth : settings.authEnabled = true → AuthConfigured settings facts

/-- When the settings are accepted. -/
theorem validateChunkSettings_eq_ok :
    settings.validateChunkSettings facts = .ok () ↔ SettingsConfigured settings facts := by
  unfold ApplicationSettings.validateChunkSettings
  simp only [except_seq_eq_ok, refuseIf_eq_ok, validateExporter_eq_ok, validateRepository_eq_ok,
    validateOrigins_eq_ok, Bool.and_eq_false_imp, decide_eq_false_iff_not, Nat.not_le, Nat.not_lt,
    bne_eq_false_iff_eq]
  constructor
  · rintro ⟨hoverlap, hlimit, hcosts, ⟨hexporter, hendpoint⟩, hrepository, horigins, hlast⟩
    refine ⟨⟨hoverlap, hlimit, hcosts, hexporter, hendpoint, hrepository, horigins⟩, ?_, ?_⟩
    · intro hproduction
      rw [if_pos hproduction] at hlast
      exact validateProductionSettings_eq_ok.mp hlast
    · intro henabled
      by_cases hproduction : settings.environment = .production
      · rw [if_pos hproduction] at hlast
        exact (validateProductionSettings_eq_ok.mp hlast).auth
      · rw [if_neg hproduction, if_pos henabled] at hlast
        exact validateAuthSettings_eq_ok.mp hlast
  · intro h
    refine ⟨h.overlap, h.recursionLimit, h.costs, ⟨h.exporter, h.endpoint⟩, h.repository,
      h.origins, ?_⟩
    by_cases hproduction : settings.environment = .production
    · rw [if_pos hproduction]
      exact validateProductionSettings_eq_ok.mpr (h.production hproduction)
    · rw [if_neg hproduction]
      cases henabled : settings.authEnabled with
      | false => rfl
      | true =>
        rw [if_pos rfl]
        exact validateAuthSettings_eq_ok.mpr (h.auth henabled)

end Accepted

/-! ## The assertions -/

/-- The check does not end with a failed assertion. -/
def NeverAsserts {α : Type} (x : Except SettingsFault α) : Prop := x ≠ .error .assertion

section Assertions

variable {settings : ApplicationSettings} {facts : TextFacts}

/-- A refusal is not a failed assertion. -/
theorem refuseIf_neverAsserts (condition : Bool) (message : String) :
    NeverAsserts (refuseIf condition message) := by
  cases condition <;> exact nofun

/-- A sequence of checks without a failed assertion has none. -/
theorem NeverAsserts.bind {α β : Type} {x : Except SettingsFault α}
    {f : α → Except SettingsFault β} (hx : NeverAsserts x)
    (hf : ∀ a, x = .ok a → NeverAsserts (f a)) : NeverAsserts (x >>= f) := by
  cases x with
  | error fault =>
    intro h
    exact hx (congrArg Except.error (Except.error.inj h))
  | ok a => exact hf a rfl

/-- The split of an address fails with a refusal only. -/
theorem TextFacts.split_neverAsserts (facts : TextFacts) (url : Str) :
    NeverAsserts (facts.split url) := by
  unfold TextFacts.split
  cases urlsplit facts.netlocFault url <;> exact nofun

/-- The check of an address makes no assertion. -/
theorem requireHttp_neverAsserts (url : Str) (message : String) :
    NeverAsserts (requireHttp facts url message) :=
  (facts.split_neverAsserts url).bind fun _ _ => refuseIf_neverAsserts _ _

/-- The stricter check of an address makes no assertion. -/
theorem requireHttps_neverAsserts (url : Str) (message : String) :
    NeverAsserts (requireHttps facts url message) :=
  (facts.split_neverAsserts url).bind fun _ _ => refuseIf_neverAsserts _ _

/-- The issuer and the audience have been checked before they are asserted to be set. -/
theorem validateAuthSettings_neverAsserts : NeverAsserts (settings.validateAuthSettings facts) := by
  unfold ApplicationSettings.validateAuthSettings
  refine (refuseIf_neverAsserts _ _).bind fun _ _ => (refuseIf_neverAsserts _ _).bind fun _ _ => ?_
  split
  · exact (requireHttp_neverAsserts _ _).bind fun _ _ =>
      (refuseIf_neverAsserts _ _).bind fun _ _ => refuseIf_neverAsserts _ _
  · exact refuseIf_neverAsserts _ _

/-- The endpoint has been checked before it is asserted to be set. -/
theorem validateExporter_neverAsserts : NeverAsserts (settings.validateExporter facts) := by
  unfold ApplicationSettings.validateExporter
  refine (refuseIf_neverAsserts _ _).bind fun _ _ => ?_
  split
  · exact requireHttp_neverAsserts _ _
  · exact nofun

/-- The address of the repository has been checked before it is asserted to be set. -/
theorem validateRepository_neverAsserts : NeverAsserts (settings.validateRepository facts) := by
  unfold ApplicationSettings.validateRepository ApplicationSettings.validateDocumentsPath
  split
  · exact (refuseIf_neverAsserts _ _).bind fun _ _ => (requireHttp_neverAsserts _ _).bind fun _ _ =>
      (facts.split_neverAsserts _).bind fun _ _ => refuseIf_neverAsserts _ _
  · exact nofun

/-- The check of the origins makes no assertion. -/
theorem validateOrigins_neverAsserts (origins : List Str) :
    NeverAsserts (ApplicationSettings.validateOrigins facts origins) := by
  induction origins with
  | nil => exact nofun
  | cons origin origins ih =>
    unfold ApplicationSettings.validateOrigins
    exact (facts.split_neverAsserts origin).bind fun _ _ =>
      (refuseIf_neverAsserts _ _).bind fun _ _ => ih

/-- The address of an enabled repository has been checked before it is asserted to be set. -/
theorem validateRepositoryScheme_neverAsserts
    (h : settings.policyRepositoryEnabled = true → RepositoryConfigured settings facts) :
    NeverAsserts (settings.validateRepositoryScheme facts) := by
  unfold ApplicationSettings.validateRepositoryScheme
  cases henabled : settings.policyRepositoryEnabled with
  | false => exact nofun
  | true =>
    obtain ⟨url, hurl, -⟩ := Str.given_iff.mp (h henabled).baseUrl
    rw [hurl]
    exact requireHttps_neverAsserts _ _

/-- Without an identity provider the verification key has been checked before it is asserted to
be set. -/
theorem validateVerification_neverAsserts (h : AuthConfigured settings facts) :
    NeverAsserts (settings.validateVerification facts) := by
  unfold ApplicationSettings.validateVerification
  cases hgiven : Str.given settings.authJwksUrl with
  | true => exact requireHttps_neverAsserts _ _
  | false =>
    rcases h.source with ⟨url, hurl, hne, -⟩ | ⟨key, hkey, -⟩
    · have htrue : Str.given settings.authJwksUrl = true := Str.given_iff.mpr ⟨url, hurl, hne⟩
      simp [htrue] at hgiven
    · rw [if_neg Bool.false_ne_true, hkey]
      exact refuseIf_neverAsserts _ _

/-- The checks for production assert only what has been checked before. -/
theorem validateProductionSettings_neverAsserts
    (h : settings.policyRepositoryEnabled = true → RepositoryConfigured settings facts) :
    NeverAsserts (settings.validateProductionSettings facts) := by
  have hdatabase : NeverAsserts (settings.validateDatabase facts) :=
    (refuseIf_neverAsserts _ _).bind fun _ _ => (refuseIf_neverAsserts _ _).bind fun _ _ =>
      refuseIf_neverAsserts _ _
  have hproviders : NeverAsserts (settings.validateProviders facts) :=
    (refuseIf_neverAsserts _ _).bind fun _ _ => (refuseIf_neverAsserts _ _).bind fun _ _ =>
      refuseIf_neverAsserts _ _
  unfold ApplicationSettings.validateProductionSettings
  refine (refuseIf_neverAsserts _ _).bind fun _ _ => (refuseIf_neverAsserts _ _).bind fun _ _ =>
    (refuseIf_neverAsserts _ _).bind fun _ _ => (refuseIf_neverAsserts _ _).bind fun _ _ =>
    (refuseIf_neverAsserts _ _).bind fun _ _ => hdatabase.bind fun _ _ =>
    (validateRepositoryScheme_neverAsserts h).bind fun _ _ => hproviders.bind fun _ _ =>
    (refuseIf_neverAsserts _ _).bind fun _ _ =>
    validateAuthSettings_neverAsserts.bind fun _ hauth => ?_
  exact validateVerification_neverAsserts (validateAuthSettings_eq_ok.mp hauth)

/-- The validation never ends with a failed assertion. -/
theorem validateChunkSettings_neverAsserts :
    NeverAsserts (settings.validateChunkSettings facts) := by
  unfold ApplicationSettings.validateChunkSettings
  refine (refuseIf_neverAsserts _ _).bind fun _ _ => (refuseIf_neverAsserts _ _).bind fun _ _ =>
    (refuseIf_neverAsserts _ _).bind fun _ _ => validateExporter_neverAsserts.bind fun _ _ =>
    validateRepository_neverAsserts.bind fun _ hrepository =>
    (validateOrigins_neverAsserts _).bind fun _ _ => ?_
  split
  · exact validateProductionSettings_neverAsserts (validateRepository_eq_ok.mp hrepository)
  · split
    · exact validateAuthSettings_neverAsserts
    · exact nofun

end Assertions

end AssessmentPlatform
