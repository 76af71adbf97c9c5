import AssessmentPlatform.Graph.MultiAgent

/-!
# What a multi-agent run computes

The state in which the branches of the graph converge, as a function of what the
specialists return, and the result of the whole run. The only step besides the synthesis
that can abort a run is the conversion of the tool history into trace events.
-/

namespace AssessmentPlatform

open Library

/-- What a specialist's outcome contributes to the error record. -/
def errorOf {α : Type} : Except Failure α → Option Str
  | .ok _ => none
  | .error e => some (safeErrorCode e)

/-- What a specialist's outcome contributes to the status record. -/
def statusOf {α : Type} : Except Failure α → MultiAgentStatus
  | .ok _ => .completed
  | .error _ => .failed

/-- An entry that a trace event accepts. -/
def ToolHistoryEntry.Traceable (item : ToolHistoryEntry) : Prop :=
  MultiAgentTraceEvent.Accepts item.summary (some item.toolName) item.errorCode

instance (item : ToolHistoryEntry) : Decidable item.Traceable :=
  inferInstanceAs (Decidable (MultiAgentTraceEvent.Accepts _ _ _))

/-! ## Trace events -/

/-- A trace event that is accepted is created. -/
theorem traceEvent_ok (agent : Option MultiAgentName) (eventType : MultiAgentTraceEventType)
    {summary : Str} {toolName errorCode : Option Str}
    (h : MultiAgentTraceEvent.Accepts summary toolName errorCode) :
    ∃ event, traceEvent agent eventType summary toolName errorCode = .ok event :=
  ⟨_, dif_pos h⟩

/-- The event of a node without a tool. -/
theorem traceEvent_literal (agent : Option MultiAgentName) (eventType : MultiAgentTraceEventType)
    (summary : Str) (h : MultiAgentTraceEvent.Accepts summary none none) :
    ∃ event, traceEvent agent eventType summary none none = .ok event :=
  traceEvent_ok agent eventType h

/-- A trace event that is not accepted is refused. -/
theorem traceEvent_error {agent : Option MultiAgentName} {eventType : MultiAgentTraceEventType}
    {summary : Str} {toolName errorCode : Option Str}
    (h : ¬ MultiAgentTraceEvent.Accepts summary toolName errorCode) :
    traceEvent agent eventType summary toolName errorCode = .error .value :=
  dif_neg h

/-- Every code that the nodes record fits a trace event and the error record. -/
theorem safeErrorCode_fits (e : Failure) : (safeErrorCode e).trim.ValidUpTo 100 := by
  have hother : (Str.ofString "specialist_generation_failed").trim.ValidUpTo 100 :=
    Str.validUpTo_trim (Str.encodable_map_ofChar _) (Str.length_le_ofList _ (by decide))
  cases e with
  | application e => exact Str.validUpTo_trim e.errorCode_encodable e.errorCode_length_le
  | _ => exact hother

/-- The event with which a node records the failure of its specialist. -/
theorem traceEvent_failed (agent : Option MultiAgentName) (summary : Str) (e : Failure)
    (h : MultiAgentTraceEvent.Accepts summary none none) :
    ∃ event, traceEvent agent .agentFailed summary none (some (safeErrorCode e)) = .ok event :=
  traceEvent_ok agent .agentFailed ⟨h.1, h.2.1, fun _ hcode => Option.some.inj hcode ▸
    safeErrorCode_fits e⟩

/-- A history that can be traced gives its events. -/
theorem toolEvents_ok {history : List ToolHistoryEntry} (h : ∀ item ∈ history, item.Traceable) :
    ∃ events, toolEvents history = .ok events := by
  induction history with
  | nil => exact ⟨[], rfl⟩
  | cons item rest ih =>
    obtain ⟨event, hevent⟩ : ∃ event, toolEvent item = .ok event :=
      traceEvent_ok _ _ (h item (by simp))
    obtain ⟨events, hevents⟩ := ih fun i hi => h i (by simp [hi])
    refine ⟨event :: events, ?_⟩
    rw [toolEvents, hevent, except_ok_bind, hevents]
    rfl

/-- A history with an entry that cannot be traced is refused. -/
theorem toolEvents_error {history : List ToolHistoryEntry}
    (h : ∃ item ∈ history, ¬ item.Traceable) : toolEvents history = .error .value := by
  induction history with
  | nil => simp at h
  | cons item rest ih =>
    rw [toolEvents]
    by_cases hitem : item.Traceable
    · obtain ⟨event, hevent⟩ : ∃ event, toolEvent item = .ok event := traceEvent_ok _ _ hitem
      have hrest : ∃ i ∈ rest, ¬ i.Traceable := by
        obtain ⟨i, hi, hnot⟩ := h
        rcases List.mem_cons.mp hi with rfl | hi
        · exact absurd hitem hnot
        · exact ⟨i, hi, hnot⟩
      rw [hevent, except_ok_bind, ih hrest]
      rfl
    · rw [show toolEvent item = .error .value from traceEvent_error hitem]
      rfl

/-! ## Nodes -/

section Nodes

variable (agents : Specialists) (state : MultiAgentGraphState)

/-- The initialization writes its own trace. -/
theorem initializeNode_eq :
    ∃ trace, initializeNode = .ok fun s => { s with initializationTrace := trace } := by
  obtain ⟨started, hstarted⟩ := traceEvent_literal none .workflowStarted
    (Str.ofString "The controlled four-agent workflow started.") (by decide +kernel)
  exact ⟨[started], by rw [initializeNode, hstarted]; rfl⟩

/-- The update of the evidence node when the agent raises. -/
theorem evidenceNode_of_error {e : Failure} (h : agents.gather state.request = .error e) :
    ∃ trace, evidenceNode agents state = .ok fun s =>
      { s with
        evidenceBrief := some .unavailable
        evidenceStatus := .failed
        evidenceError := some (safeErrorCode e)
        evidenceDurationMs := some (agents.elapsedMs .evidence)
        evidenceTrace := trace } := by
  obtain ⟨started, hstarted⟩ := traceEvent_literal (some .evidence) .agentStarted
    (Str.ofString "Evidence analysis started with approved read-only tools.") (by decide +kernel)
  obtain ⟨failed, hfailed⟩ := traceEvent_failed (some .evidence)
    (Str.ofString "Evidence analysis did not complete.") e (by decide +kernel)
  obtain ⟨degraded, hdegraded⟩ := traceEvent_literal none .degradedMode
    (Str.ofString "The workflow continued with assessment-only evidence context.")
    (by decide +kernel)
  refine ⟨[started, failed, degraded], ?_⟩
  rw [evidenceNode, hstarted, except_ok_bind, h]
  dsimp only
  rw [hfailed, except_ok_bind, hdegraded]
  rfl

/-- The update of the evidence node when the agent returns a traceable history. -/
theorem evidenceNode_of_ok {outcome : EvidenceAgentOutcome}
    (h : agents.gather state.request = .ok outcome)
    (htraceable : ∀ item ∈ outcome.toolHistory, item.Traceable) :
    ∃ trace, evidenceNode agents state = .ok fun s =>
      { s with
        evidenceBrief := some outcome.brief
        retrievedEvidence := outcome.evidence
        observedDocuments := outcome.documents
        toolHistory := outcome.toolHistory
        evidenceStepsUsed := outcome.stepsUsed
        evidenceTerminationReason := some outcome.terminationReason
        graphRetrieval := outcome.graphRetrieval
        evidenceStatus := .completed
        evidenceDurationMs := some (agents.elapsedMs .evidence)
        evidenceTrace := trace } := by
  obtain ⟨started, hstarted⟩ := traceEvent_literal (some .evidence) .agentStarted
    (Str.ofString "Evidence analysis started with approved read-only tools.") (by decide +kernel)
  obtain ⟨tools, htools⟩ := toolEvents_ok htraceable
  obtain ⟨completed, hcompleted⟩ := traceEvent_literal (some .evidence) .agentCompleted
    (Str.ofString "The Evidence Agent produced a typed EvidenceBrief.") (by decide +kernel)
  refine ⟨started :: tools ++ [completed], ?_⟩
  rw [evidenceNode, hstarted, except_ok_bind, h]
  dsimp only
  rw [htools, except_ok_bind, hcompleted]
  rfl

/-- A history that is not traceable aborts the evidence node. -/
theorem evidenceNode_of_untraceable {outcome : EvidenceAgentOutcome}
    (h : agents.gather state.request = .ok outcome)
    (huntraceable : ∃ item ∈ outcome.toolHistory, ¬ item.Traceable) :
    evidenceNode agents state = .error .value := by
  obtain ⟨started, hstarted⟩ := traceEvent_literal (some .evidence) .agentStarted
    (Str.ofString "Evidence analysis started with approved read-only tools.") (by decide +kernel)
  rw [evidenceNode, hstarted, except_ok_bind, h]
  dsimp only
  rw [toolEvents_error huntraceable]
  rfl

/-- The update of the architecture node. -/
theorem architectureNode_eq :
    ∃ trace, architectureNode agents state = .ok fun s =>
      let r := agents.analyze state.request state.brief
      { s with
        architectureRecommendation := r.toOption.or s.architectureRecommendation
        architectureStatus := statusOf r
        architectureError := (errorOf r).or s.architectureError
        architectureDurationMs := some (agents.elapsedMs .architecture)
        architectureTrace := trace } := by
  obtain ⟨started, hstarted⟩ := traceEvent_literal (some .architecture) .agentStarted
    (Str.ofString "Independent solution architecture analysis started.") (by decide +kernel)
  obtain ⟨completed, hcompleted⟩ := traceEvent_literal (some .architecture) .agentCompleted
    (Str.ofString "The Architecture Agent produced a typed recommendation.") (by decide +kernel)
  rw [architectureNode, hstarted, except_ok_bind]
  cases agents.analyze state.request state.brief with
  | ok result =>
    refine ⟨[started, completed], ?_⟩
    dsimp only
    rw [hcompleted]
    rfl
  | error e =>
    obtain ⟨failed, hfailed⟩ := traceEvent_failed (some .architecture)
      (Str.ofString "Solution architecture analysis did not complete.") e (by decide +kernel)
    refine ⟨[started, failed], ?_⟩
    dsimp only
    rw [hfailed]
    rfl

/-- The update of the risk and governance node. -/
theorem riskGovernanceNode_eq :
    ∃ trace, riskGovernanceNode agents state = .ok fun s =>
      let r := agents.review state.request state.brief
      { s with
        riskGovernanceReview := r.toOption.or s.riskGovernanceReview
        riskGovernanceStatus := statusOf r
        riskGovernanceError := (errorOf r).or s.riskGovernanceError
        riskGovernanceDurationMs := some (agents.elapsedMs .riskGovernance)
        riskGovernanceTrace := trace } := by
  obtain ⟨started, hstarted⟩ := traceEvent_literal (some .riskGovernance) .agentStarted
    (Str.ofString "Independent risk and governance analysis started.") (by decide +kernel)
  obtain ⟨completed, hcompleted⟩ := traceEvent_literal (some .riskGovernance) .agentCompleted
    (Str.ofString "The Risk & Governance Agent produced a typed review.") (by decide +kernel)
  rw [riskGovernanceNode, hstarted, except_ok_bind]
  cases agents.review state.request state.brief with
  | ok result =>
    refine ⟨[started, completed], ?_⟩
    dsimp only
    rw [hcompleted]
    rfl
  | error e =>
    obtain ⟨failed, hfailed⟩ := traceEvent_failed (some .riskGovernance)
      (Str.ofString "Risk and governance analysis did not complete.") e (by decide +kernel)
    refine ⟨[started, failed], ?_⟩
    dsimp only
    rw [hfailed]
    rfl

end Nodes

/-! ## Convergence -/

section Outcomes

variable (agents : Specialists) (request : AssessmentRequest)

/-- The brief that both branches read. -/
def Specialists.brief : EvidenceBrief :=
  match agents.gather request with
  | .ok outcome => outcome.brief
  | .error _ => .unavailable

/-- The outcome of the architecture branch. -/
def Specialists.architecture : Except Failure ArchitectureRecommendation :=
  agents.analyze request (agents.brief request)

/-- The outcome of the risk and governance branch. -/
def Specialists.riskGovernance : Except Failure RiskGovernanceReview :=
  agents.review request (agents.brief request)

/-- The errors of the three specialists before the synthesis. -/
def Specialists.errors : List (Option Str) :=
  [errorOf (agents.gather request), errorOf (agents.architecture request),
    errorOf (agents.riskGovernance request)]

/-- The number of specialists that failed. -/
def Specialists.failures : ℕ := (agents.errors request).countP (·.isSome)

/-- The evidence that the run has observed. -/
def Specialists.evidence : List RetrievedEvidence :=
  match agents.gather request with
  | .ok outcome => outcome.evidence
  | .error _ => []

/-- The tool history that the run has observed. -/
def Specialists.toolHistory : List ToolHistoryEntry :=
  match agents.gather request with
  | .ok outcome => outcome.toolHistory
  | .error _ => []

/-- The retrieval record that the run has observed. -/
def Specialists.graphRetrieval : Option GraphRetrievalExecutionMetadata :=
  match agents.gather request with
  | .ok outcome => outcome.graphRetrieval
  | .error _ => none

/-- The degradation reasons, one for each failed specialist. -/
def Specialists.reasons : List Str :=
  (if (errorOf (agents.gather request)).isSome then
    [Str.ofString "Evidence Agent output unavailable; assessment-only context used."] else []) ++
  (if (errorOf (agents.architecture request)).isSome then
    [Str.ofString "Architecture Agent output unavailable."] else []) ++
  (if (errorOf (agents.riskGovernance request)).isSome then
    [Str.ofString "Risk & Governance Agent output unavailable; governance confidence reduced."]
    else [])

/-- The outcome of the synthesis on what the branches have handed over. -/
def Specialists.synthesis : Except Failure AssessmentResult :=
  agents.synthesize request (agents.brief request) (agents.architecture request).toOption
    (agents.riskGovernance request).toOption (agents.reasons request)

/-- The partial-failure policy refuses the run: more specialists failed than allowed, or
none has produced output. -/
def Specialists.Refused (maxFailures : ℤ) : Prop :=
  maxFailures < agents.failures request ∨ agents.failures request = 3

/-- Every entry of the gathered tool history fits a trace event. -/
def Specialists.Traceable : Prop := ∀ item ∈ agents.toolHistory request, item.Traceable

/-- What the state records about the evidence stage, up to its traces. -/
structure Gathered (maxFailures : ℤ) (state : MultiAgentGraphState) : Prop where
  request_eq : state.request = request
  maxFailures_eq : state.maxFailures = maxFailures
  brief_eq : state.brief = agents.brief request
  retrievedEvidence_eq : state.retrievedEvidence = agents.evidence request
  toolHistory_eq : state.toolHistory = agents.toolHistory request
  graphRetrieval_eq : state.graphRetrieval = agents.graphRetrieval request
  evidenceStatus_eq : state.evidenceStatus = statusOf (agents.gather request)
  evidenceError_eq : state.evidenceError = errorOf (agents.gather request)
  synthesisError_eq : state.synthesisError = none

/-- The state in which the branches converge, up to its traces. -/
structure Converged (maxFailures : ℤ) (state : MultiAgentGraphState) : Prop
    extends Gathered agents request maxFailures state where
  architecture_eq : state.architectureRecommendation = (agents.architecture request).toOption
  architectureStatus_eq : state.architectureStatus = statusOf (agents.architecture request)
  architectureError_eq : state.architectureError = errorOf (agents.architecture request)
  riskGovernance_eq : state.riskGovernanceReview = (agents.riskGovernance request).toOption
  riskGovernanceStatus_eq : state.riskGovernanceStatus = statusOf (agents.riskGovernance request)
  riskGovernanceError_eq : state.riskGovernanceError = errorOf (agents.riskGovernance request)

/-- The synthesis and the validation. -/
def finishGraph (state : MultiAgentGraphState) : Except Failure MultiAgentGraphState := do
  let synthesized ← synthesizeNode agents state
  let state := synthesized state
  let validated ← validateNode state
  pure (validated state)

end Outcomes

section Runs

variable {agents : Specialists} {request : AssessmentRequest} {maxFailures : ℤ}

/-- The two branches record their outcomes, whatever the evidence stage has recorded. -/
theorem branches_converge {state : MultiAgentGraphState}
    (h : Gathered agents request maxFailures state)
    (harchitecture : state.architectureRecommendation = none ∧ state.architectureError = none)
    (hriskGovernance : state.riskGovernanceReview = none ∧ state.riskGovernanceError = none) :
    ∃ analyzed reviewed, architectureNode agents state = .ok analyzed ∧
      riskGovernanceNode agents state = .ok reviewed ∧
      Converged agents request maxFailures (reviewed (analyzed state)) := by
  obtain ⟨trace, hanalyzed⟩ := architectureNode_eq agents state
  obtain ⟨trace', hreviewed⟩ := riskGovernanceNode_eq agents state
  refine ⟨_, _, hanalyzed, hreviewed, ?_⟩
  have hanalyze : agents.analyze state.request state.brief = agents.architecture request := by
    rw [h.request_eq, h.brief_eq, Specialists.architecture]
  have hreview : agents.review state.request state.brief = agents.riskGovernance request := by
    rw [h.request_eq, h.brief_eq, Specialists.riskGovernance]
  simp only [hanalyze, hreview, harchitecture.1, harchitecture.2, hriskGovernance.1,
    hriskGovernance.2, Option.or_none]
  exact
    { request_eq := h.request_eq
      maxFailures_eq := h.maxFailures_eq
      brief_eq := h.brief_eq
      retrievedEvidence_eq := h.retrievedEvidence_eq
      toolHistory_eq := h.toolHistory_eq
      graphRetrieval_eq := h.graphRetrieval_eq
      evidenceStatus_eq := h.evidenceStatus_eq
      evidenceError_eq := h.evidenceError_eq
      synthesisError_eq := h.synthesisError_eq
      architecture_eq := rfl
      architectureStatus_eq := rfl
      architectureError_eq := rfl
      riskGovernance_eq := rfl
      riskGovernanceStatus_eq := rfl
      riskGovernanceError_eq := rfl }

/-- The evidence stage of a traceable run. -/
theorem evidenceNode_gathers (state : MultiAgentGraphState) (hstate : state.request = request)
    (hfresh : state.maxFailures = maxFailures ∧ state.retrievedEvidence = [] ∧
      state.toolHistory = [] ∧ state.graphRetrieval = none ∧ state.evidenceError = none ∧
      state.synthesisError = none)
    (h : agents.Traceable request) :
    ∃ gathered, evidenceNode agents state = .ok gathered ∧
      Gathered agents request maxFailures (gathered state) ∧
      (gathered state).architectureRecommendation = state.architectureRecommendation ∧
      (gathered state).architectureError = state.architectureError ∧
      (gathered state).riskGovernanceReview = state.riskGovernanceReview ∧
      (gathered state).riskGovernanceError = state.riskGovernanceError := by
  obtain ⟨hmax, hevidence, hhistory, hgraph, herror, hsynthesis⟩ := hfresh
  unfold Specialists.Traceable Specialists.toolHistory at h
  cases hgather : agents.gather request with
  | ok outcome =>
    rw [hgather] at h
    obtain ⟨trace, hnode⟩ := evidenceNode_of_ok agents state (hstate ▸ hgather) h
    refine ⟨_, hnode, ⟨hstate, hmax, ?_, ?_, ?_, ?_, ?_, ?_, hsynthesis⟩, rfl, rfl, rfl, rfl⟩ <;>
      simp [Specialists.brief, Specialists.evidence, Specialists.toolHistory,
        Specialists.graphRetrieval, MultiAgentGraphState.brief, hgather, statusOf, errorOf, herror]
  | error e =>
    obtain ⟨trace, hnode⟩ := evidenceNode_of_error agents state (hstate ▸ hgather)
    refine ⟨_, hnode, ⟨hstate, hmax, ?_, ?_, ?_, ?_, ?_, ?_, hsynthesis⟩, rfl, rfl, rfl, rfl⟩ <;>
      simp [Specialists.brief, Specialists.evidence, Specialists.toolHistory,
        Specialists.graphRetrieval, MultiAgentGraphState.brief, hgather, statusOf, errorOf,
        hevidence, hhistory, hgraph]

variable (maxFailures) in
/-- A traceable run reaches the synthesis in a converged state. -/
theorem invokeGraph_of_traceable (h : agents.Traceable request) :
    ∃ state, Converged agents request maxFailures state ∧
      invokeGraph agents { request, maxFailures } = finishGraph agents state := by
  obtain ⟨trace, hinitialized⟩ := initializeNode_eq
  obtain ⟨gathered, hevidence, hgathered, harchitecture, harchitecture', hrisk, hrisk'⟩ :=
    evidenceNode_gathers { request, maxFailures, initializationTrace := trace } rfl
      ⟨rfl, rfl, rfl, rfl, rfl, rfl⟩ h
  obtain ⟨analyzed, reviewed, hanalyzed, hreviewed, hconverged⟩ :=
    branches_converge hgathered ⟨harchitecture, harchitecture'⟩ ⟨hrisk, hrisk'⟩
  refine ⟨_, hconverged, ?_⟩
  unfold invokeGraph
  rw [hinitialized, except_ok_bind]
  dsimp only
  rw [hevidence, except_ok_bind, hanalyzed, except_ok_bind, hreviewed, except_ok_bind]
  rfl

/-- An Evidence Agent whose history is not traceable aborts the evidence node. -/
theorem evidenceNode_of_not_traceable (maxFailures : ℤ) (h : ¬agents.Traceable request)
    (trace : List MultiAgentTraceEvent) :
    evidenceNode agents { request, maxFailures, initializationTrace := trace } =
      .error .value := by
  unfold Specialists.Traceable Specialists.toolHistory at h
  cases hgather : agents.gather request with
  | error e => simp [hgather] at h
  | ok outcome =>
    simp only [hgather, not_forall] at h
    obtain ⟨item, hitem, hnot⟩ := h
    exact evidenceNode_of_untraceable agents _ hgather ⟨item, hitem, hnot⟩

/-- A run whose tool history is not traceable is aborted in the evidence stage. -/
theorem invokeGraph_of_untraceable (h : ¬ agents.Traceable request) :
    invokeGraph agents { request, maxFailures } = .error .value := by
  obtain ⟨trace, hinitialized⟩ := initializeNode_eq
  have hnode := evidenceNode_of_not_traceable maxFailures h trace
  unfold invokeGraph
  rw [hinitialized, except_ok_bind]
  dsimp only
  rw [hnode]
  rfl

/-- The reasons that the state records are those of the specialists. -/
theorem Converged.reasons_eq {state : MultiAgentGraphState}
    (h : Converged agents request maxFailures state) :
    degradationReasons state = agents.reasons request := by
  unfold degradationReasons Specialists.reasons
  rw [h.evidenceError_eq, h.architectureError_eq, h.riskGovernanceError_eq]

/-- The policy of the synthesis node is the one of the specialists' outcomes. -/
theorem Converged.refused_iff {state : MultiAgentGraphState}
    (h : Converged agents request maxFailures state) :
    (state.maxFailures < state.failures ∨ state.available = false) ↔
      agents.Refused request maxFailures := by
  unfold MultiAgentGraphState.failures MultiAgentGraphState.available Specialists.Refused
    Specialists.failures Specialists.errors
  rw [h.maxFailures_eq, h.evidenceStatus_eq, h.evidenceError_eq, h.architecture_eq,
    h.architectureError_eq, h.riskGovernance_eq, h.riskGovernanceError_eq]
  refine or_congr_right ?_
  cases agents.gather request <;> cases agents.architecture request <;>
    cases agents.riskGovernance request <;>
    simp [errorOf, statusOf, Except.toOption]

end Runs

/-- What a run that returns has returned, up to the trace and the durations. -/
structure MultiAgentRun (agents : Specialists) (request : AssessmentRequest)
    (output : AgentWorkflowOutput MultiAgentExecutionMetadata) : Prop where
  result_eq : ∃ result, agents.synthesis request = .ok result ∧ output.result =
    { result with
      informationGaps := result.informationGaps ++ (agents.reasons request).map limitation }
  evidence_eq : output.evidence = agents.evidence request
  statuses_eq : output.execution.agentStatuses =
    { evidence := statusOf (agents.gather request)
      architecture := statusOf (agents.architecture request)
      riskGovernance := statusOf (agents.riskGovernance request)
      synthesis := .completed }
  errors_eq : output.execution.agentErrors =
    { evidence := (errorOf (agents.gather request)).map Str.trim
      architecture := (errorOf (agents.architecture request)).map Str.trim
      riskGovernance := (errorOf (agents.riskGovernance request)).map Str.trim }
  toolsUsed_eq : output.execution.toolsUsed =
    (((agents.toolHistory request).map ToolHistoryEntry.toolName).eraseDups).map Str.trim
  toolCalls_eq : output.execution.toolCalls = (agents.toolHistory request).length
  degradedMode_eq : output.execution.degradedMode = !(agents.reasons request).isEmpty
  degradationReasons_eq :
    output.execution.degradationReasons = (agents.reasons request).map Str.trim
  graphRetrieval_eq : output.execution.graphRetrieval = agents.graphRetrieval request

section Results

variable {agents : Specialists} {request : AssessmentRequest} {maxFailures : ℤ}
  {state : MultiAgentGraphState}

/-- The code of a failure is short enough for the record of the errors. -/
theorem errorOf_fits {α : Type} (r : Except Failure α) :
    ∀ code ∈ errorOf r, code.trim.ValidUpTo 100 := by
  cases r with
  | ok a => nofun
  | error e =>
    rintro _ ⟨⟩
    exact safeErrorCode_fits e

/-- After a refusal there is no result. -/
theorem finishGraph_of_refused (h : Converged agents request maxFailures state)
    (hrefused : agents.Refused request maxFailures) :
    finishGraph agents state = .error (.application .assessmentGeneration) := by
  unfold finishGraph synthesizeNode
  rw [if_pos (h.refused_iff.mpr hrefused)]
  rfl

/-- The synthesis node of a run that is not refused. -/
theorem synthesizeNode_eq (h : Converged agents request maxFailures state)
    (hrefused : ¬ agents.Refused request maxFailures) :
    ∃ trace, synthesizeNode agents state = (agents.synthesis request).map fun result s =>
      { s with
        finalResult := some
          { result with
            informationGaps :=
              result.informationGaps ++ (agents.reasons request).map limitation }
        synthesisStatus := .completed
        synthesisDurationMs := some (agents.elapsedMs .synthesis)
        synthesisTrace := trace } := by
  obtain ⟨started, hstarted⟩ := traceEvent_literal (some .synthesis) .agentStarted
    (Str.ofString "Typed specialist outputs converged for final synthesis.") (by decide +kernel)
  obtain ⟨completed, hcompleted⟩ := traceEvent_literal (some .synthesis) .agentCompleted
    (Str.ofString "The Synthesis Agent produced the existing AssessmentResult contract.")
    (by decide +kernel)
  refine ⟨[started, completed], ?_⟩
  unfold synthesizeNode Specialists.synthesis
  rw [if_neg (fun hpolicy => hrefused (h.refused_iff.mp hpolicy)), h.request_eq, h.brief_eq,
    h.architecture_eq, h.riskGovernance_eq, h.reasons_eq, hstarted, hcompleted]
  cases agents.synthesize request (agents.brief request) (agents.architecture request).toOption
    (agents.riskGovernance request).toOption (agents.reasons request) <;> rfl

/-- The validation of a state with a result succeeds. -/
theorem validateNode_eq (state : MultiAgentGraphState) {result : AssessmentResult}
    (hresult : state.finalResult = some result)
    (herrors : ∀ field ∈ [state.evidenceError, state.architectureError, state.riskGovernanceError,
      state.synthesisError], ∀ code ∈ field, code.trim.ValidUpTo 100) :
    ∃ trace last, validateNode state = .ok fun s =>
      { s with
        finalResult := some result
        execution := some (state.metadata
          ⟨state.evidenceError.map Str.trim, state.architectureError.map Str.trim,
            state.riskGovernanceError.map Str.trim, state.synthesisError.map Str.trim⟩ trace)
        validationTrace := last } := by
  have haccepts : MultiAgentTraceEvent.Accepts
      (if (degradationReasons state).isEmpty then
        Str.ofString "The multi-agent workflow completed with all specialists."
      else Str.ofString "The multi-agent workflow completed in degraded mode.") none none := by
    split
    · decide +kernel
    · decide +kernel
  obtain ⟨completed, hcompleted⟩ := traceEvent_ok none .workflowCompleted haccepts
  let trace := (state.convergedTrace completed).mapIdx fun index event =>
    { event with sequence := index }
  refine ⟨trace, trace.drop (trace.length - 1), ?_⟩
  unfold validateNode
  rw [hresult]
  dsimp only
  rw [hcompleted, except_ok_bind, MultiAgentErrors.create, if_pos herrors]
  rfl

/-- A run that is not refused and whose synthesis succeeds returns. -/
theorem finishGraph_of_ok (h : Converged agents request maxFailures state)
    (hrefused : ¬ agents.Refused request maxFailures) {result : AssessmentResult}
    (hsynthesis : agents.synthesis request = .ok result) :
    ∃ final output, finishGraph agents state = .ok final ∧
      final.finalResult = some output.result ∧ final.execution = some output.execution ∧
      final.retrievedEvidence = output.evidence ∧ MultiAgentRun agents request output := by
  obtain ⟨trace, hnode⟩ := synthesizeNode_eq h hrefused
  rw [hsynthesis, except_map_ok] at hnode
  let result' : AssessmentResult :=
    { result with
      informationGaps := result.informationGaps ++ (agents.reasons request).map limitation }
  let state' : MultiAgentGraphState :=
    { state with
      finalResult := some result'
      synthesisStatus := .completed
      synthesisDurationMs := some (agents.elapsedMs .synthesis)
      synthesisTrace := trace }
  have hreasons : degradationReasons state' = agents.reasons request := h.reasons_eq
  obtain ⟨trace', last, hvalidate⟩ := validateNode_eq state' (rfl : _ = some result') (by
    simp only [state', h.evidenceError_eq, h.architectureError_eq, h.riskGovernanceError_eq,
      h.synthesisError_eq, List.forall_mem_cons]
    exact ⟨errorOf_fits _, errorOf_fits _, errorOf_fits _,
      fun _ h => absurd h (Option.not_mem_none _), List.forall_mem_nil _⟩)
  have hfinish : finishGraph agents state = validateNode state' >>= fun validated =>
      pure (validated state') := by
    unfold finishGraph
    rw [hnode]
    rfl
  rw [hvalidate, except_ok_bind] at hfinish
  refine ⟨_, ⟨result', agents.evidence request, _⟩, hfinish, rfl, rfl, h.retrievedEvidence_eq, ?_⟩
  exact
    { result_eq := ⟨result, hsynthesis, rfl⟩
      evidence_eq := rfl
      statuses_eq := by
        simp only [state', h.evidenceStatus_eq, h.architectureStatus_eq, h.riskGovernanceStatus_eq]
      errors_eq := by
        simp only [state', h.evidenceError_eq, h.architectureError_eq, h.riskGovernanceError_eq,
          h.synthesisError_eq, Option.map_none]
      toolsUsed_eq := by simp only [state', h.toolHistory_eq]
      toolCalls_eq := by simp only [state', h.toolHistory_eq]
      degradedMode_eq := by simp only [hreasons]
      degradationReasons_eq := by simp only [hreasons]
      graphRetrieval_eq := by simp only [state', h.graphRetrieval_eq] }

/-- An error of the synthesis is that of the workflow. -/
theorem finishGraph_of_error (h : Converged agents request maxFailures state)
    (hrefused : ¬ agents.Refused request maxFailures) {e : Failure}
    (hsynthesis : agents.synthesis request = .error e) : finishGraph agents state = .error e := by
  obtain ⟨trace, hnode⟩ := synthesizeNode_eq h hrefused
  unfold finishGraph
  rw [hnode, hsynthesis]
  rfl

/-- The outcome of a run: it is aborted by its tool history, it is refused, its synthesis
fails, or it returns. -/
theorem runMultiAgent_cases (agents : Specialists) (maxFailures : ℤ) (request : AssessmentRequest) :
    (¬ agents.Traceable request ∧ ∃ e, runMultiAgent agents maxFailures request = .error e) ∨
    agents.Traceable request ∧
      ((agents.Refused request maxFailures ∧
          ∃ e, runMultiAgent agents maxFailures request = .error e) ∨
        ¬ agents.Refused request maxFailures ∧
          ((∃ e e', agents.synthesis request = .error e ∧
              runMultiAgent agents maxFailures request = .error e') ∨
            ∃ output, runMultiAgent agents maxFailures request = .ok output ∧
              MultiAgentRun agents request output)) := by
  unfold runMultiAgent
  by_cases htraceable : agents.Traceable request
  · right
    obtain ⟨state, hconverged, hinvoke⟩ := invokeGraph_of_traceable maxFailures htraceable
    rw [hinvoke]
    refine ⟨htraceable, ?_⟩
    by_cases hrefused : agents.Refused request maxFailures
    · exact .inl ⟨hrefused, _, by rw [finishGraph_of_refused hconverged hrefused]⟩
    · right
      refine ⟨hrefused, ?_⟩
      cases hsynthesis : agents.synthesis request with
      | error e =>
        left
        rw [finishGraph_of_error hconverged hrefused hsynthesis]
        cases e <;> exact ⟨_, _, rfl, rfl⟩
      | ok result =>
        right
        obtain ⟨final, output, hfinish, hresult, hexecution, hevidence, hrun⟩ :=
          finishGraph_of_ok hconverged hrefused hsynthesis
        refine ⟨output, ?_, hrun⟩
        rw [hfinish]
        dsimp only
        rw [hresult, hexecution, hevidence]
  · left
    refine ⟨htraceable, ?_⟩
    rw [invokeGraph_of_untraceable htraceable]
    exact ⟨_, rfl⟩

end Results

end AssessmentPlatform
