import AssessmentPlatform.Assessments.Routing
import AssessmentPlatform.Core.Validation

/-!
# Wiring of the assessment service

The dependencies that compose the assessment service from the settings: which workflows it gets,
whether it gets a router, and the policy of its gate. The flags decide together with the router
which mode executes a request; the modes that the wiring leaves executable are exactly those that
the settings force or enable.
-/

namespace AssessmentPlatform

open Library

/-! ## The source -/

/-- What the service is composed of: the generator, the two retrieval services, the workflows over
the agents, and the functions of the standard library that the router uses. -/
structure ServiceParts where
  generator : AssessmentPrompt → Except Failure AssessmentResult
  vectorRag : AssessmentRequest → Except Failure RAGPreparation
  hybridRag : AssessmentRequest → Except Failure RAGPreparation
  agenticWorkflow : UUID → AssessmentRequest →
    Except Failure (AgentWorkflowOutput AssessmentExecutionMetadata)
  multiAgentWorkflow : UUID → AssessmentRequest →
    Except Failure (AgentWorkflowOutput MultiAgentExecutionMetadata)
  unicode : Unicode
  word : CodePoint → Bool

section Dependencies

variable (settings : ApplicationSettings) (parts : ServiceParts)

/-- `get_assessment_rag_service`. -/
def getAssessmentRagService : Option (AssessmentRequest → Except Failure RAGPreparation) :=
  if !settings.ragEnabled then none
  else if settings.knowledgeGraphEnabled then some parts.hybridRag
  else some parts.vectorRag

/-- `get_agentic_assessment_workflow`. -/
def ServiceParts.getAgenticAssessmentWorkflow : Option (UUID → AssessmentRequest →
    Except Failure (AgentWorkflowOutput AssessmentExecutionMetadata)) :=
  let forcedSingleAgent := decide (settings.executionModeOverride = some .singleAgent)
  if settings.executionModeOverride.isSome && !forcedSingleAgent then none
  else if settings.executionModeOverride.isNone && settings.executionRoutingEnabled then
    if !settings.agenticWorkflowEnabled then none else some parts.agenticWorkflow
  else if settings.executionModeOverride.isNone &&
      (!settings.agenticWorkflowEnabled || settings.multiAgentWorkflowEnabled) then none
  else some parts.agenticWorkflow

/-- `get_multi_agent_assessment_workflow`. -/
def ServiceParts.getMultiAgentAssessmentWorkflow : Option (UUID → AssessmentRequest →
    Except Failure (AgentWorkflowOutput MultiAgentExecutionMetadata)) :=
  let forcedMultiAgent := decide (settings.executionModeOverride = some .multiAgent)
  if settings.executionModeOverride.isSome && !forcedMultiAgent then none
  else if settings.executionModeOverride.isNone && !settings.multiAgentWorkflowEnabled then none
  else some parts.multiAgentWorkflow

/-- `get_execution_router`. -/
def getExecutionRouter : Option ExecutionRouter :=
  if settings.executionModeOverride.isSome then
    some ⟨parts.unicode, parts.word, settings.executionModeOverride⟩
  else if settings.executionRoutingEnabled then some ⟨parts.unicode, parts.word, none⟩
  else none

/-- The configured number of revisions is at most ten. -/
theorem maxHumanRevisions_le (revisions : Fin 11) : revisions.val ≤ 10 :=
  Nat.le_of_lt_succ revisions.isLt

/-- The policy of the gate. -/
def runtimeRiskPolicy : RuntimeRiskPolicy where
  mediumRiskDecision := settings.runtimeMediumRiskDecision
  highRiskDecision := settings.runtimeHighRiskDecision
  criticalRiskDecision := settings.runtimeCriticalRiskDecision
  reviewOnInsufficientEvidence := settings.runtimeReviewOnInsufficientEvidence
  reviewOnDegradedExecution := settings.runtimeReviewOnDegradedExecution
  reviewOnSpecialistUnavailable := settings.runtimeReviewOnSpecialistUnavailable
  reviewOnToolFailure := settings.runtimeReviewOnToolFailure
  blockHighRiskInvalidProvenance := settings.runtimeBlockHighRiskInvalidProvenance
  blockCriticalMissingMitigation := settings.runtimeBlockCriticalMissingMitigation
  maxHumanRevisions := settings.maxHumanRevisions.val
  maxHumanRevisions_le := maxHumanRevisions_le settings.maxHumanRevisions

/-- `get_runtime_governance_service`. -/
def getRuntimeGovernanceService : RuntimeGovernanceService :=
  .standard (runtimeRiskPolicy settings) settings.modelInputCostPer1mTokens
    settings.modelOutputCostPer1mTokens

/-- `get_assessment_service`. -/
def getAssessmentService : AssessmentService where
  generator := parts.generator
  ragService := getAssessmentRagService settings parts
  agenticWorkflow := parts.getAgenticAssessmentWorkflow settings
  multiAgentWorkflow := parts.getMultiAgentAssessmentWorkflow settings
  runtimeGovernance :=
    if settings.runtimeRiskGateEnabled then some (getRuntimeGovernanceService settings) else none
  executionRouter := (getExecutionRouter settings parts).map fun router request =>
    .ok (router.route request)

end Dependencies

/-! ## The executed mode -/

section Modes

variable (settings : ApplicationSettings) (parts : ServiceParts)

/-- The modes that the settings admit: an override admits its own mode alone, and otherwise each
workflow is admitted by its flag. -/
def ApplicationSettings.Admits : ExecutionMode → Prop
  | .deterministic => settings.executionModeOverride = none ∨
      settings.executionModeOverride = some .deterministic
  | .singleAgent => settings.executionModeOverride = some .singleAgent ∨
      settings.executionModeOverride = none ∧ settings.agenticWorkflowEnabled = true ∧
        (settings.executionRoutingEnabled = true ∨ settings.multiAgentWorkflowEnabled = false)
  | .multiAgent => settings.executionModeOverride = some .multiAgent ∨
      settings.executionModeOverride = none ∧ settings.multiAgentWorkflowEnabled = true

/-- There is a single-agent workflow exactly if the settings admit that mode. -/
theorem agenticWorkflow_isSome_iff :
    (getAssessmentService settings parts).agenticWorkflow.isSome = true ↔
      settings.Admits .singleAgent := by
  change (parts.getAgenticAssessmentWorkflow settings).isSome = true ↔ _
  unfold ServiceParts.getAgenticAssessmentWorkflow ApplicationSettings.Admits
  cases settings.executionModeOverride with
  | none =>
    cases settings.executionRoutingEnabled <;> cases settings.agenticWorkflowEnabled <;>
      cases settings.multiAgentWorkflowEnabled <;> simp
  | some mode => cases mode <;> simp

/-- There is a multi-agent workflow exactly if the settings admit that mode. -/
theorem multiAgentWorkflow_isSome_iff :
    (getAssessmentService settings parts).multiAgentWorkflow.isSome = true ↔
      settings.Admits .multiAgent := by
  change (parts.getMultiAgentAssessmentWorkflow settings).isSome = true ↔ _
  unfold ServiceParts.getMultiAgentAssessmentWorkflow ApplicationSettings.Admits
  cases settings.executionModeOverride with
  | none => cases settings.multiAgentWorkflowEnabled <;> simp
  | some mode => cases mode <;> simp

/-- The service has the workflow of a mode; the deterministic mode needs none. -/
def AssessmentService.Available (service : AssessmentService) (mode : ExecutionMode) : Prop :=
  (mode = .multiAgent → service.multiAgentWorkflow.isSome = true) ∧
    (mode = .singleAgent → service.agenticWorkflow.isSome = true)

variable {settings parts}

/-- Without an override the wired service has available what the settings admit. -/
theorem available_iff (hoverride : settings.executionModeOverride = none) (mode : ExecutionMode) :
    (getAssessmentService settings parts).Available mode ↔ settings.Admits mode := by
  have hsingle := agenticWorkflow_isSome_iff settings parts
  have hmulti := multiAgentWorkflow_isSome_iff settings parts
  cases mode with
  | deterministic => exact ⟨fun _ => .inl hoverride, fun _ => ⟨nofun, nofun⟩⟩
  | singleAgent => exact ⟨fun h => hsingle.mp (h.2 rfl), fun h => ⟨nofun, fun _ => hsingle.mpr h⟩⟩
  | multiAgent => exact ⟨fun h => hmulti.mp (h.1 rfl), fun h => ⟨fun _ => hmulti.mpr h, nofun⟩⟩

/-- The executable mode of a service is available, not costlier than the preferred one, and the
costliest such mode; without a fallback it is the preferred one. -/
theorem AssessmentService.resolve_greatest (service : AssessmentService)
    (preferred : ExecutionMode) :
    service.Available (service.resolve preferred).1 ∧
      (service.resolve preferred).1.cost ≤ preferred.cost ∧
      (∀ mode, service.Available mode → mode.cost ≤ preferred.cost →
        mode.cost ≤ (service.resolve preferred).1.cost) ∧
      ((service.resolve preferred).2 = [] ↔ (service.resolve preferred).1 = preferred) := by
  cases preferred with
  | deterministic =>
    refine ⟨⟨by rintro ⟨⟩, by rintro ⟨⟩⟩, Nat.le_refl _, ?_, by simp [AssessmentService.resolve]⟩
    intro mode _ hmode
    exact hmode
  | singleAgent =>
    by_cases hsingle : service.agenticWorkflow.isSome = true
    · simp only [AssessmentService.resolve, if_pos hsingle]
      exact ⟨⟨by rintro ⟨⟩, fun _ => hsingle⟩, Nat.le_refl _, fun mode _ hmode => hmode, by simp⟩
    · simp only [AssessmentService.resolve, if_neg hsingle]
      refine ⟨⟨by rintro ⟨⟩, by rintro ⟨⟩⟩, Nat.zero_le _, ?_, by simp⟩
      rintro mode ⟨-, havailable⟩ hmode
      cases mode with
      | deterministic => exact Nat.le_refl _
      | singleAgent => exact absurd (havailable rfl) hsingle
      | multiAgent => simp [ExecutionMode.cost] at hmode
  | multiAgent =>
    by_cases hmulti : service.multiAgentWorkflow.isSome = true
    · simp only [AssessmentService.resolve, if_pos hmulti]
      exact ⟨⟨fun _ => hmulti, by rintro ⟨⟩⟩, Nat.le_refl _, fun mode _ hmode => hmode, by simp⟩
    · by_cases hsingle : service.agenticWorkflow.isSome = true
      · simp only [AssessmentService.resolve, if_neg hmulti, if_pos hsingle]
        refine ⟨⟨by rintro ⟨⟩, fun _ => hsingle⟩, by decide, ?_, by simp⟩
        rintro mode ⟨havailable, -⟩ -
        cases mode with
        | deterministic => exact Nat.zero_le _
        | singleAgent => exact Nat.le_refl _
        | multiAgent => exact absurd (havailable rfl) hmulti
      · simp only [AssessmentService.resolve, if_neg hmulti, if_neg hsingle]
        refine ⟨⟨by rintro ⟨⟩, by rintro ⟨⟩⟩, Nat.zero_le _, ?_, by simp⟩
        rintro mode ⟨havailable, havailable'⟩ -
        cases mode with
        | deterministic => exact Nat.le_refl _
        | singleAgent => exact absurd (havailable' rfl) hsingle
        | multiAgent => exact absurd (havailable rfl) hmulti

/-- The workflow that produced the execution metadata. -/
def ExecutionMetadata.mode : ExecutionMetadata → ExecutionMode
  | .deterministic _ => .deterministic
  | .singleAgent _ => .singleAgent
  | .multiAgent _ => .multiAgent

/-- The request identifier does not change the mode. -/
theorem ExecutionMetadata.withRequestId_mode (requestId : RequestId) (m : ExecutionMetadata) :
    (m.withRequestId requestId).mode = m.mode := by
  cases m <;> rfl

/-- The record of the graph retrieval does not change the mode. -/
theorem ExecutionMetadata.withGraphRetrieval_mode (record : GraphRetrievalExecutionMetadata)
    (m : ExecutionMetadata) : (m.withGraphRetrieval record).mode = m.mode := by
  cases m <;> rfl

/-- The routing metadata does not change the mode. -/
theorem AssessmentService.withRouting_mode (service : AssessmentService)
    (routing : ResolvedExecutionRoute) (m : ExecutionMetadata) :
    (service.withRouting routing m).mode = m.mode := by
  unfold AssessmentService.withRouting
  cases service.executionRouter with
  | none => rfl
  | some _ => cases m <;> rfl

/-- A generated candidate has been produced by the workflow of its route. -/
theorem AssessmentService.generate_mode {service : AssessmentService}
    {requestId : Option RequestId} {timers : Timers} {assessmentId : UUID}
    {request : AssessmentRequest} {routing : ResolvedExecutionRoute} {c : Candidate}
    (h : service.generate requestId timers assessmentId request routing = .ok c) :
    c.execution.mode = routing.executionMode := by
  obtain ⟨output, houtput, hc⟩ := except_bind_eq_ok.mp h
  have hmode : c.execution.mode = output.execution.mode := by
    cases hc
    cases requestId with
    | none => rfl
    | some requestId => exact output.execution.withRequestId_mode requestId
  rw [hmode]
  unfold AssessmentService.runMode at houtput
  split at houtput
  · next hrouting =>
    rw [hrouting]
    split at houtput
    · cases houtput
    · obtain ⟨generated, -, hresult⟩ := except_bind_eq_ok.mp houtput
      cases hresult
      exact service.withRouting_mode routing _
  · next hrouting =>
    rw [hrouting]
    split at houtput
    · cases houtput
    · obtain ⟨generated, -, hresult⟩ := except_bind_eq_ok.mp houtput
      cases hresult
      exact service.withRouting_mode routing _
  · next hrouting =>
    rw [hrouting]
    unfold AssessmentService.generateDeterministic at houtput
    split at houtput
    · obtain ⟨result, -, hresult⟩ := except_bind_eq_ok.mp houtput
      cases hresult
      exact service.withRouting_mode routing _
    · obtain ⟨preparation, -, hrest⟩ := except_bind_eq_ok.mp houtput
      obtain ⟨result, -, hresult⟩ := except_bind_eq_ok.mp hrest
      cases hresult
      dsimp only
      split
      · rw [ExecutionMetadata.withGraphRetrieval_mode]
        exact service.withRouting_mode routing _
      · exact service.withRouting_mode routing _

/-- Under an override the wired service executes exactly the mode of the override. -/
theorem resolve_of_override {mode : ExecutionMode}
    (h : settings.executionModeOverride = some mode) :
    (getAssessmentService settings parts).resolve mode = (mode, []) := by
  cases mode with
  | deterministic => rfl
  | singleAgent => exact if_pos ((agenticWorkflow_isSome_iff _ _).mpr (.inl h))
  | multiAgent => exact if_pos ((multiAgentWorkflow_isSome_iff _ _).mpr (.inl h))

/-- An override admits its own mode alone. -/
theorem ApplicationSettings.admits_of_override {mode : ExecutionMode}
    (h : settings.executionModeOverride = some mode) (other : ExecutionMode) :
    settings.Admits other ↔ other = mode := by
  unfold ApplicationSettings.Admits
  rw [h]
  cases other <;> cases mode <;> simp

/-- Without a router the service executes the costliest mode that it has available. -/
theorem AssessmentService.legacyMode_greatest (service : AssessmentService) :
    service.Available service.legacyMode ∧
      ∀ mode, service.Available mode → mode.cost ≤ service.legacyMode.cost := by
  unfold AssessmentService.legacyMode
  by_cases hmulti : service.multiAgentWorkflow.isSome = true
  · rw [if_pos hmulti]
    refine ⟨⟨fun _ => hmulti, nofun⟩, fun mode _ => ?_⟩
    cases mode <;> decide
  · rw [if_neg hmulti]
    by_cases hsingle : service.agenticWorkflow.isSome = true
    · rw [if_pos hsingle]
      refine ⟨⟨nofun, fun _ => hsingle⟩, fun mode hmode => ?_⟩
      cases mode with
      | deterministic => decide
      | singleAgent => decide
      | multiAgent => exact absurd (hmode.1 rfl) hmulti
    · rw [if_neg hsingle]
      refine ⟨⟨nofun, nofun⟩, fun mode hmode => ?_⟩
      cases mode with
      | deterministic => decide
      | singleAgent => exact absurd (hmode.2 rfl) hsingle
      | multiAgent => exact absurd (hmode.1 rfl) hmulti

/-- What `_route_execution` returns for a preferred mode. -/
structure ResolvedExecutionRoute.Resolves (routing : ResolvedExecutionRoute)
    (preferred : ExecutionMode) (executed : ExecutionMode × List FallbackReasonCode) : Prop where
  preferred_eq : routing.preferredExecutionMode = preferred
  executed_eq : routing.executionMode = executed.1
  fallback_eq : routing.fallbackReasonCodes = executed.2

/-- With a router the preferred mode is the decision of the router. -/
theorem routeExecution_of_router {service : AssessmentService} {router : ExecutionRouter}
    (request : AssessmentRequest)
    (h : service.executionRouter = some fun request => .ok (router.route request)) :
    ∃ routing, service.routeExecution request = .ok routing ∧
      routing.Resolves (router.route request).preferredExecutionMode
        (service.resolve (router.route request).preferredExecutionMode) := by
  unfold AssessmentService.routeExecution
  rw [h]
  refine ⟨_, rfl, ?_⟩
  exact ⟨rfl, rfl, rfl⟩

/-- Without a router it is the mode that is executed. -/
theorem routeExecution_of_none {service : AssessmentService} (request : AssessmentRequest)
    (h : service.executionRouter = none) :
    ∃ routing, service.routeExecution request = .ok routing ∧
      routing.Resolves service.legacyMode (service.legacyMode, []) := by
  unfold AssessmentService.routeExecution
  rw [h]
  refine ⟨_, rfl, ?_⟩
  exact ⟨rfl, rfl, rfl⟩

end Modes

/-- The route executes the costliest mode that the settings admit and that is not costlier than
the preferred one, and it reports a fallback exactly if these differ. -/
structure ResolvedExecutionRoute.Executes (routing : ResolvedExecutionRoute)
    (settings : ApplicationSettings) : Prop where
  admitted : settings.Admits routing.executionMode
  cost_le : routing.executionMode.cost ≤ routing.preferredExecutionMode.cost
  greatest : ∀ mode, settings.Admits mode → mode.cost ≤ routing.preferredExecutionMode.cost →
    mode.cost ≤ routing.executionMode.cost
  fallback_iff : routing.fallbackReasonCodes = [] ↔
    routing.executionMode = routing.preferredExecutionMode

section Executes

variable {settings : ApplicationSettings} {parts : ServiceParts} {routing : ResolvedExecutionRoute}
  {mode : ExecutionMode}

/-- A route that resolves the overriding mode executes that mode. -/
theorem ResolvedExecutionRoute.Resolves.executes_of_override
    (hoverride : settings.executionModeOverride = some mode)
    (h : routing.Resolves mode ((getAssessmentService settings parts).resolve mode)) :
    routing.executionMode = mode ∧ routing.Executes settings := by
  obtain ⟨hpreferred, hexecuted, hfallback⟩ := h
  rw [resolve_of_override hoverride] at hexecuted hfallback
  have hadmits := ApplicationSettings.admits_of_override hoverride mode
  refine ⟨hexecuted, ?_, ?_, ?_, ?_⟩
  · rw [hexecuted]
    exact hadmits.mpr rfl
  · rw [hexecuted, hpreferred]
  · intro other _ hcost
    rwa [hexecuted, ← hpreferred]
  · rw [hfallback, hexecuted, hpreferred]
    simp

/-- A route without an override executes a mode that the settings admit. -/
theorem ResolvedExecutionRoute.Resolves.executes
    (hoverride : settings.executionModeOverride = none)
    (h : routing.Resolves mode ((getAssessmentService settings parts).resolve mode)) :
    routing.Executes settings := by
  obtain ⟨hpreferred, hexecuted, hfallback⟩ := h
  obtain ⟨havailable, hle, hgreatest, hiff⟩ :=
    (getAssessmentService settings parts).resolve_greatest mode
  refine ⟨?_, ?_, ?_, ?_⟩
  · rw [hexecuted]
    exact (available_iff hoverride _).mp havailable
  · rw [hexecuted, hpreferred]
    exact hle
  · intro other hother hcost
    rw [hexecuted]
    rw [hpreferred] at hcost
    exact hgreatest other ((available_iff hoverride other).mpr hother) hcost
  · rw [hfallback, hexecuted, hpreferred]
    exact hiff

/-- A route without a router executes the costliest mode that the settings admit. -/
theorem ResolvedExecutionRoute.Resolves.executes_legacy
    (hoverride : settings.executionModeOverride = none)
    (h : routing.Resolves (getAssessmentService settings parts).legacyMode
      ((getAssessmentService settings parts).legacyMode, [])) :
    routing.Executes settings ∧ settings.Admits routing.preferredExecutionMode ∧
      routing.executionMode = routing.preferredExecutionMode ∧
      ∀ mode, settings.Admits mode → mode.cost ≤ routing.preferredExecutionMode.cost := by
  obtain ⟨hpreferred, hexecuted, hfallback⟩ := h
  obtain ⟨havailable, hgreatest⟩ := (getAssessmentService settings parts).legacyMode_greatest
  have hadmits : settings.Admits (getAssessmentService settings parts).legacyMode :=
    (available_iff hoverride _).mp havailable
  have hcostliest : ∀ mode, settings.Admits mode →
      mode.cost ≤ (getAssessmentService settings parts).legacyMode.cost :=
    fun mode hmode => hgreatest mode ((available_iff hoverride mode).mpr hmode)
  rw [← hpreferred] at hadmits hcostliest
  have hsame : routing.executionMode = routing.preferredExecutionMode :=
    hexecuted.trans hpreferred.symm
  refine ⟨⟨?_, ?_, ?_, ?_⟩, hadmits, hsame, hcostliest⟩
  · rwa [hsame]
  · rw [hsame]
  · intro other _ hcost
    rwa [hsame]
  · exact iff_of_true hfallback hsame

/-- The router under an override is forced to its mode. -/
theorem executionRouter_of_override (hoverride : settings.executionModeOverride = some mode) :
    (getAssessmentService settings parts).executionRouter =
      some fun request => .ok ((⟨parts.unicode, parts.word, some mode⟩ : ExecutionRouter).route
        request) := by
  simp [getAssessmentService, getExecutionRouter, hoverride]

/-- Without an override there is a router if routing is enabled. -/
theorem executionRouter_of_enabled (hoverride : settings.executionModeOverride = none)
    (henabled : settings.executionRoutingEnabled = true) :
    (getAssessmentService settings parts).executionRouter =
      some fun request => .ok ((⟨parts.unicode, parts.word, none⟩ : ExecutionRouter).route
        request) := by
  simp [getAssessmentService, getExecutionRouter, hoverride, henabled]

/-- Without an override there is no router if routing is disabled. -/
theorem executionRouter_of_disabled (hoverride : settings.executionModeOverride = none)
    (hdisabled : settings.executionRoutingEnabled = false) :
    (getAssessmentService settings parts).executionRouter = none := by
  simp [getAssessmentService, getExecutionRouter, hoverride, hdisabled]

end Executes

/-- For every request the wired service finds a route, and every candidate is produced in the mode
that it executes. The preferred mode is the override; else it is the router's decision, or without
routing the costliest mode that the settings admit, which is then executed. -/
theorem executed_mode (settings : ApplicationSettings) (parts : ServiceParts)
    (request : AssessmentRequest) :
    ∃ routing, (getAssessmentService settings parts).routeExecution request = .ok routing ∧
      routing.Executes settings ∧
      (∀ mode, settings.executionModeOverride = some mode →
        routing.preferredExecutionMode = mode ∧ routing.executionMode = mode) ∧
      (settings.executionModeOverride = none → settings.executionRoutingEnabled = true →
        routing.preferredExecutionMode =
          ((⟨parts.unicode, parts.word, none⟩ : ExecutionRouter).route
            request).preferredExecutionMode) ∧
      (settings.executionModeOverride = none → settings.executionRoutingEnabled = false →
        settings.Admits routing.preferredExecutionMode ∧
          routing.executionMode = routing.preferredExecutionMode ∧
          ∀ mode, settings.Admits mode → mode.cost ≤ routing.preferredExecutionMode.cost) ∧
      ∀ requestId timers assessmentId c,
        (getAssessmentService settings parts).generate requestId timers assessmentId request
          routing = .ok c → c.execution.mode = routing.executionMode := by
  cases hoverride : settings.executionModeOverride with
  | some mode =>
    obtain ⟨routing, hrouted, hresolves⟩ :=
      routeExecution_of_router request (executionRouter_of_override hoverride)
    obtain ⟨hexecuted, hexecutes⟩ := hresolves.executes_of_override hoverride
    refine ⟨routing, hrouted, hexecutes, ?_, nofun, nofun, fun _ _ _ _ => ?_⟩
    · rintro _ ⟨⟩
      exact ⟨hresolves.preferred_eq, hexecuted⟩
    · exact AssessmentService.generate_mode
  | none =>
    cases hrouting : settings.executionRoutingEnabled with
    | true =>
      obtain ⟨routing, hrouted, hresolves⟩ :=
        routeExecution_of_router request (executionRouter_of_enabled hoverride hrouting)
      refine ⟨routing, hrouted, hresolves.executes hoverride, nofun,
        fun _ _ => hresolves.preferred_eq, nofun, fun _ _ _ _ => ?_⟩
      exact AssessmentService.generate_mode
    | false =>
      obtain ⟨routing, hrouted, hresolves⟩ :=
        routeExecution_of_none request (executionRouter_of_disabled hoverride hrouting)
      obtain ⟨hexecutes, hcostliest⟩ := hresolves.executes_legacy hoverride
      exact ⟨routing, hrouted, hexecutes, nofun, nofun, fun _ _ => hcostliest,
        fun _ _ _ _ => AssessmentService.generate_mode⟩

end AssessmentPlatform
