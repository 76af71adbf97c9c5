import AssessmentPlatform.Core.Settings
import AssessmentPlatform.Providers.Embeddings
import AssessmentPlatform.Runtime.Resilience

/-!
# The provider factory

The settings bound the retry delay of the providers by the same sixty seconds as the retry policy
does. The factory leaves the longest delay of the policy at its default, which is shorter, and the
policy requires it to be at least the base delay. The builders therefore raise for a part of the
settings that pass their validation.

The recorder and the function that obtains a client are passed on unread and are left out.
-/

namespace AssessmentPlatform

/-- The names of the providers. -/
inductive ProviderName where
  | openai | anthropic
  deriving DecidableEq

/-- The settings with the fields that the factory reads, and their defaults. A timeout may be
infinite. -/
structure ProviderSettings extends Settings where
  chatModelProvider : ProviderName := .openai
  chatModelName : Str := "gpt-4.1-mini"
  embeddingProvider : ProviderName := .openai
  embeddingModel : Str := "text-embedding-3-small"
  openaiStoreResponses : Bool := false
  openaiEmbeddingDimension : ℕ := 1536
  providerMaxRetries : ℕ := 2
  providerRetryBaseDelayMs : ℕ := 250
  modelTimeoutSeconds : WithTop ℚ := (30 : ℚ)
  embeddingTimeoutSeconds : WithTop ℚ := (30 : ℚ)

/-- Settings that pass the validation of these fields. -/
structure ProviderSettings.Accepted (settings : ProviderSettings) : Prop
    extends settings.toSettings.Accepted where
  embeddingProvider_eq : settings.embeddingProvider = .openai
  openaiEmbeddingDimension_eq : settings.openaiEmbeddingDimension = 1536
  providerMaxRetries_le : settings.providerMaxRetries ≤ 10
  providerRetryBaseDelayMs_le : settings.providerRetryBaseDelayMs ≤ 60000
  modelTimeoutSeconds_pos : 0 < settings.modelTimeoutSeconds
  embeddingTimeoutSeconds_pos : 0 < settings.embeddingTimeoutSeconds

/-- The validation of a retry policy: the bounds of the fields, then the order of the delays. -/
def RetryPolicy.create (maxRetries baseDelayMs : ℕ) (maxDelayMs : ℕ := 4000)
    (jitterRatio : ℚ := 1 / 10) : Except Failure RetryPolicy :=
  if hbounds : maxRetries ≤ 10 ∧ baseDelayMs ≤ 60000 ∧ maxDelayMs ≤ 60000 ∧
      (0 ≤ jitterRatio ∧ jitterRatio ≤ 1) then
    if horder : maxDelayMs < baseDelayMs then .error .value
    else .ok ⟨maxRetries, baseDelayMs, maxDelayMs, jitterRatio, hbounds.1, hbounds.2.1,
      hbounds.2.2.1, hbounds.2.2.2, Nat.not_lt.mp horder⟩
  else .error .value

/-- What a structured model provider is constructed with. -/
structure ModelProviderConfig where
  model : Str
  retryPolicy : RetryPolicy
  timeoutSeconds : WithTop ℚ

/-- The adapters of structured models. Only that of OpenAI can store the responses. -/
inductive StructuredModelProvider where
  | openai (config : ModelProviderConfig) (storeResponses : Bool)
  | anthropic (config : ModelProviderConfig)

/-- The configuration of an adapter. -/
def StructuredModelProvider.config : StructuredModelProvider → ModelProviderConfig
  | .openai config _ | .anthropic config => config

/-- The embedding adapter with the model, the policy and the timeout of its requests. -/
structure ConfiguredEmbeddingProvider extends OpenAIEmbeddingProvider where
  model : Str
  retryPolicy : RetryPolicy
  timeoutSeconds : WithTop ℚ

/-- The constructor of `OpenAIEmbeddingProvider`. -/
def ConfiguredEmbeddingProvider.create (model : Str) (dimension : ℕ) (retryPolicy : RetryPolicy)
    (timeoutSeconds : WithTop ℚ) (batchSize : ℕ := 100) :
    Except Failure ConfiguredEmbeddingProvider :=
  if h : dimension ≤ 0 ∨ batchSize ≤ 0 then .error .value
  else .ok {
    dimension := dimension
    batchSize := batchSize
    dimension_pos := Nat.not_le.mp (not_or.mp h).1
    batchSize_pos := Nat.not_le.mp (not_or.mp h).2
    model := model
    retryPolicy := retryPolicy
    timeoutSeconds := timeoutSeconds }

/-- `timeout_seconds or settings.model_timeout_seconds`: a timeout of zero counts as none. -/
def ProviderSettings.timeoutOr (settings : ProviderSettings) (timeoutSeconds : Option (WithTop ℚ)) :
    WithTop ℚ :=
  match timeoutSeconds with
  | some seconds => if seconds = 0 then settings.modelTimeoutSeconds else seconds
  | none => settings.modelTimeoutSeconds

/-- `build_structured_model_provider`. -/
def buildStructuredModelProvider (settings : ProviderSettings)
    (timeoutSeconds : Option (WithTop ℚ)) : Except Failure StructuredModelProvider := do
  let retry ← RetryPolicy.create settings.providerMaxRetries settings.providerRetryBaseDelayMs
  let config : ModelProviderConfig :=
    { model := settings.chatModelName
      retryPolicy := retry
      timeoutSeconds := settings.timeoutOr timeoutSeconds }
  match settings.chatModelProvider with
  | .anthropic => pure (.anthropic config)
  | .openai => pure (.openai config settings.openaiStoreResponses)

/-- `build_embedding_provider`. -/
def buildEmbeddingProvider (settings : ProviderSettings) :
    Except Failure ConfiguredEmbeddingProvider := do
  if settings.embeddingProvider ≠ .openai then throw .value
  let retry ← RetryPolicy.create settings.providerMaxRetries settings.providerRetryBaseDelayMs
  ConfiguredEmbeddingProvider.create settings.embeddingModel settings.openaiEmbeddingDimension
    retry settings.embeddingTimeoutSeconds

/-! ## The policy that the factory builds -/

/-- Within the bounds of the settings only the order of the delays decides. -/
theorem RetryPolicy.create_default_iff {maxRetries baseDelayMs : ℕ} (hretries : maxRetries ≤ 10)
    (hdelay : baseDelayMs ≤ 60000) :
    (∃ policy, RetryPolicy.create maxRetries baseDelayMs = .ok policy) ↔ baseDelayMs ≤ 4000 := by
  have hbounds : maxRetries ≤ 10 ∧ baseDelayMs ≤ 60000 ∧ 4000 ≤ 60000 ∧
      ((0 : ℚ) ≤ 1 / 10 ∧ (1 : ℚ) / 10 ≤ 1) := ⟨hretries, hdelay, by norm_num⟩
  unfold RetryPolicy.create
  rw [dif_pos hbounds]
  by_cases horder : 4000 < baseDelayMs
  · simp [horder]
  · simp [horder, Nat.not_lt.mp horder]

/-! ## The builders -/

/-- The builder of the model provider returns if its policy is accepted. -/
theorem buildStructuredModelProvider_returns_iff (settings : ProviderSettings)
    (timeoutSeconds : Option (WithTop ℚ)) :
    (∃ provider, buildStructuredModelProvider settings timeoutSeconds = .ok provider) ↔
      ∃ policy, RetryPolicy.create settings.providerMaxRetries
        settings.providerRetryBaseDelayMs = .ok policy := by
  unfold buildStructuredModelProvider
  cases RetryPolicy.create settings.providerMaxRetries settings.providerRetryBaseDelayMs with
  | error failure => simp
  | ok policy => cases settings.chatModelProvider <;> simp [pure, Except.pure]

/-- So does the builder of the embedding provider: validated settings name a provider that
supports embeddings, and a positive dimension. -/
theorem buildEmbeddingProvider_returns_iff {settings : ProviderSettings}
    (haccepted : settings.Accepted) :
    (∃ provider, buildEmbeddingProvider settings = .ok provider) ↔
      ∃ policy, RetryPolicy.create settings.providerMaxRetries
        settings.providerRetryBaseDelayMs = .ok policy := by
  unfold buildEmbeddingProvider ConfiguredEmbeddingProvider.create
  rw [haccepted.embeddingProvider_eq, haccepted.openaiEmbeddingDimension_eq]
  cases RetryPolicy.create settings.providerMaxRetries settings.providerRetryBaseDelayMs with
  | error failure => simp
  | ok policy => simp

/-- For settings that pass validation both builders return exactly if the base delay is at most
the four seconds that the factory leaves as the longest delay. -/
theorem providers_built_iff (settings : ProviderSettings) (haccepted : settings.Accepted)
    (timeoutSeconds : Option (WithTop ℚ)) :
    ((∃ provider, buildStructuredModelProvider settings timeoutSeconds = .ok provider) ∧
        ∃ provider, buildEmbeddingProvider settings = .ok provider) ↔
      settings.providerRetryBaseDelayMs ≤ 4000 := by
  rw [buildStructuredModelProvider_returns_iff, buildEmbeddingProvider_returns_iff haccepted,
    and_self, RetryPolicy.create_default_iff haccepted.providerMaxRetries_le
      haccepted.providerRetryBaseDelayMs_le]

/-- The default settings pass their validation. -/
theorem Settings.default_accepted : ({} : Settings).Accepted where
  ragChunkSize := by decide
  ragChunkOverlap := by decide
  agentMaxSteps := by decide
  agentMaxToolCalls := by decide
  langgraphRecursionLimit := by decide
  overlap_lt := by decide
  recursionLimit_ge := by decide

/-- So do they with any base delay of at most a minute. -/
theorem ProviderSettings.accepted_of_baseDelay {baseDelayMs : ℕ} (h : baseDelayMs ≤ 60000) :
    ProviderSettings.Accepted { providerRetryBaseDelayMs := baseDelayMs } where
  toAccepted := Settings.default_accepted
  embeddingProvider_eq := rfl
  openaiEmbeddingDimension_eq := rfl
  providerMaxRetries_le := show 2 ≤ 10 by decide
  providerRetryBaseDelayMs_le := h
  modelTimeoutSeconds_pos := WithTop.coe_pos.mpr (by norm_num)
  embeddingTimeoutSeconds_pos := WithTop.coe_pos.mpr (by norm_num)

/-- The default delay of a quarter of a second is admitted. -/
theorem providers_built_quarterSecond :
    (∃ provider, buildStructuredModelProvider {} none = .ok provider) ∧
      ∃ provider, buildEmbeddingProvider {} = .ok provider :=
  (providers_built_iff {} (ProviderSettings.accepted_of_baseDelay (by decide)) none).mpr
    (by decide)

/-- A base delay of five seconds passes the validation of the settings, and neither builder
returns. -/
theorem providers_not_built_fiveSeconds :
    ∃ settings : ProviderSettings, settings.Accepted ∧ settings.providerRetryBaseDelayMs = 5000 ∧
      buildStructuredModelProvider settings none = .error .value ∧
      buildEmbeddingProvider settings = .error .value := by
  have hrefused : RetryPolicy.create 2 5000 = .error .value := by
    unfold RetryPolicy.create
    norm_num
  refine ⟨{ providerRetryBaseDelayMs := 5000 },
    ProviderSettings.accepted_of_baseDelay (by decide), rfl, ?_, ?_⟩
  · unfold buildStructuredModelProvider
    rw [hrefused]
    rfl
  · unfold buildEmbeddingProvider
    rw [hrefused]
    rfl

end AssessmentPlatform
