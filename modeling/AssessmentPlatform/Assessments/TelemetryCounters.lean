import AssessmentPlatform.Assessments.ReadBack
import AssessmentPlatform.Graph.Termination
import AssessmentPlatform.KnowledgeGraph.Hybrid

/-!
# What the telemetry counts

Three figures of the telemetry are summaries of something that the run knows in full: the
executed tools, the degradation, and the use of the vector path. Each of them is compared with
what it summarises.
-/

namespace AssessmentPlatform

open Library

/-! ## The figures of a record -/

/-- The figures that a telemetry record takes from its execution. -/
structure OperationalTelemetry.Summarises (telemetry : OperationalTelemetry)
    (execution : ExecutionMetadata) (evidenceCount : ℕ) : Prop where
  toolCallCount : telemetry.toolCallCount = (executionCounters execution none).toolCalls
  degradedStateCount : telemetry.degradedStateCount =
    if (executionCounters execution none).degraded then 1 else 0
  vectorRetrievalUsed : telemetry.vectorRetrievalUsed =
    (evidenceCount ≠ 0 && execution.graphRetrieval.all fun g =>
      0 < g.vectorEvidenceCount || 0 < g.hybridEvidenceCount)

section Records

variable {execution : ExecutionMetadata} {telemetry : OperationalTelemetry}

/-- The number of model calls has no part in the other counters. -/
theorem executionCounters_toolCalls (execution : ExecutionMetadata) (n : Option ℕ) :
    (executionCounters execution n).toolCalls = (executionCounters execution none).toolCalls ∧
      (executionCounters execution n).degraded = (executionCounters execution none).degraded := by
  cases execution <;> exact ⟨rfl, rfl⟩

/-- The telemetry that is built summarises the execution. -/
theorem buildOperationalTelemetry_summarises {durationMs : ℤ} {decision : RuntimeRiskDecision}
    {tokenUsage : Option ProviderTokenUsage} {evidenceCount : ℕ} {modelCallCount : Option ℕ}
    {inputCost outputCost : Option ℚ} {requestId : Option RequestId} {now : Time}
    (h : buildOperationalTelemetry execution durationMs decision tokenUsage evidenceCount
      modelCallCount inputCost outputCost requestId now = .ok telemetry) :
    telemetry.Summarises execution evidenceCount := by
  obtain ⟨htools, hdegraded⟩ := executionCounters_toolCalls execution modelCallCount
  rw [OperationalTelemetry.eq_of_validate h]
  exact ⟨htools, by dsimp only; rw [hdegraded], rfl⟩

/-- The metrics of the recorder leave the figures alone. -/
theorem candidateTelemetry_summarises {service : RuntimeGovernanceService} {env : Env}
    {c : Candidate} {decision : RuntimeRiskDecision} {now : Time}
    (h : service.candidateTelemetry env c decision now = .ok telemetry) :
    telemetry.Summarises c.execution c.evidence.length := by
  obtain ⟨built, hbuilt, rfl⟩ := candidateTelemetry_eq_ok h
  have hsummary := buildOperationalTelemetry_summarises hbuilt
  unfold OperationalTelemetry.withMetrics
  cases env.metrics with
  | none => exact hsummary
  | some metrics =>
    exact ⟨hsummary.toolCallCount, hsummary.degradedStateCount, hsummary.vectorRetrievalUsed⟩

end Records

/-! ## Tool executions -/

section Tools

variable {Args : Type}

/-- The tool history of a run of one of the two workflows. -/
inductive Collaborators.RunHistory (collaborators : Collaborators Args)
    (request : AssessmentRequest) : ExecutionMode → List ToolHistoryEntry → Prop
  | singleAgent {workflow : AgenticAssessmentWorkflow Args} {initial state : AssessmentGraphState}
    (hworkflow : collaborators.singleAgent = some workflow)
    (hinitial : initializeAssessmentState request workflow.maxSteps workflow.maxToolCalls =
      .ok initial)
    (hinvoke : workflow.invoke initial = .ok state) :
    RunHistory collaborators request .singleAgent state.toolHistory
  | multiAgent {agents : Specialists} {maxFailures : ℤ} {state : MultiAgentGraphState}
    (hworkflow : collaborators.multiAgent = some (agents, maxFailures))
    (hinvoke : invokeGraph agents { request, maxFailures } = .ok state) :
    RunHistory collaborators request .multiAgent state.toolHistory

/-- The single agent lists the names of its tools. -/
theorem AgenticAssessmentWorkflow.run_toolsUsed {workflow : AgenticAssessmentWorkflow Args}
    {request : AssessmentRequest} {initial state : AssessmentGraphState}
    {output : AgentWorkflowOutput AssessmentExecutionMetadata}
    (hinitial : initializeAssessmentState request workflow.maxSteps workflow.maxToolCalls =
      .ok initial)
    (hinvoke : workflow.invoke initial = .ok state) (h : workflow.run request = .ok output) :
    output.execution.toolsUsed = (state.toolHistory.map ToolHistoryEntry.toolName).eraseDups := by
  unfold AgenticAssessmentWorkflow.run at h
  rw [hinitial, except_ok_bind, hinvoke, except_ok_bind] at h
  unfold AssessmentGraphState.workflowResult at h
  split at h
  · cases h
    rfl
  · cases h

/-- The multi-agent workflow counts the entries of its tool history. -/
theorem invokeGraph_toolCalls {agents : Specialists} {state state' : MultiAgentGraphState}
    (h : invokeGraph agents state = .ok state') :
    ∃ m, state'.execution = some m ∧ m.toolCalls = state'.toolHistory.length := by
  unfold invokeGraph at h
  obtain ⟨initialized, -, h⟩ := except_bind_eq_ok.mp h
  obtain ⟨gathered, -, h⟩ := except_bind_eq_ok.mp h
  obtain ⟨analyzed, -, h⟩ := except_bind_eq_ok.mp h
  obtain ⟨reviewed, -, h⟩ := except_bind_eq_ok.mp h
  obtain ⟨synthesized, -, h⟩ := except_bind_eq_ok.mp h
  obtain ⟨validated, hvalidated, h⟩ := except_bind_eq_ok.mp h
  unfold validateNode at hvalidated
  split at hvalidated
  · cases hvalidated
  · obtain ⟨completed, -, hvalidated⟩ := except_bind_eq_ok.mp hvalidated
    obtain ⟨errors, -, hvalidated⟩ := except_bind_eq_ok.mp hvalidated
    cases hvalidated
    cases h
    exact ⟨_, rfl, rfl⟩

/-- The multi-agent run reports as many tool calls as its history has entries. -/
theorem runMultiAgent_toolCalls {agents : Specialists} {maxFailures : ℤ}
    {request : AssessmentRequest} {state : MultiAgentGraphState}
    {output : AgentWorkflowOutput MultiAgentExecutionMetadata}
    (hinvoke : invokeGraph agents { request, maxFailures } = .ok state)
    (h : runMultiAgent agents maxFailures request = .ok output) :
    output.execution.toolCalls = state.toolHistory.length := by
  obtain ⟨m, hexecution, hcount⟩ := invokeGraph_toolCalls hinvoke
  unfold runMultiAgent at h
  simp only [hinvoke, hexecution] at h
  split at h
  · rename_i heq
    cases heq
    cases h
    exact hcount
  · cases h

/-- The routing metadata does not change the counters. -/
@[simp] theorem executionCounters_withRouting (execution : ExecutionMetadata)
    (routing : RoutingMetadata) (n : Option ℕ) :
    executionCounters (execution.withRouting routing) n = executionCounters execution n := by
  cases execution <;> rfl

/-- The request identifier does not change the counters. -/
@[simp] theorem executionCounters_withRequestId (execution : ExecutionMetadata)
    (requestId : RequestId) (n : Option ℕ) :
    executionCounters (execution.withRequestId requestId) n = executionCounters execution n := by
  cases execution <;> rfl

/-- The service completes the metadata of the mode without touching its counters. -/
theorem AssessmentService.generate_counters {service : AssessmentService}
    {requestId : Option RequestId} {timers : Timers} {assessmentId : UUID}
    {request : AssessmentRequest} {routing : ResolvedExecutionRoute} {c : Candidate}
    (h : service.generate requestId timers assessmentId request routing = .ok c) :
    ∃ output, service.runMode assessmentId request routing = .ok output ∧
      executionCounters c.execution none = executionCounters output.execution none := by
  unfold AssessmentService.generate at h
  obtain ⟨output, houtput, h⟩ := except_bind_eq_ok.mp h
  cases h
  refine ⟨output, houtput, ?_⟩
  cases requestId with
  | none => rfl
  | some requestId => exact executionCounters_withRequestId _ _ _

/-- The routing of a service does not change the counters. -/
theorem AssessmentService.withRouting_counters (service : AssessmentService)
    (routing : ResolvedExecutionRoute) (execution : ExecutionMetadata) :
    executionCounters (service.withRouting routing execution) none =
      executionCounters execution none := by
  unfold AssessmentService.withRouting
  cases service.executionRouter with
  | none => rfl
  | some route => exact executionCounters_withRouting _ _ _

/-- The count of tool calls is the number of executions in the tool history, if and only if a
single agent has executed no tool twice. -/
theorem tool_call_count_eq_executions_iff (collaborators : Collaborators Args)
    (requestId : Option RequestId) (timers : Timers) (assessmentId : UUID)
    (request : AssessmentRequest) (routing : ResolvedExecutionRoute) (c : Candidate)
    (history : List ToolHistoryEntry) (governance : RuntimeGovernanceService) (env : Env)
    (decision : RuntimeRiskDecision) (now : Time) (telemetry : OperationalTelemetry)
    (h : collaborators.service.generate requestId timers assessmentId request routing = .ok c)
    (hhistory : collaborators.RunHistory request routing.executionMode history)
    (htelemetry : governance.candidateTelemetry env c decision now = .ok telemetry) :
    telemetry.toolCallCount = history.length ↔
      (routing.executionMode = .singleAgent →
        (history.map ToolHistoryEntry.toolName).Nodup) := by
  obtain ⟨output, houtput, hcounters⟩ := AssessmentService.generate_counters h
  rw [(candidateTelemetry_summarises htelemetry).toolCallCount, hcounters]
  unfold AssessmentService.runMode at houtput
  cases hmode : routing.executionMode with
  | deterministic =>
    rw [hmode] at hhistory
    cases hhistory
  | singleAgent =>
    rw [hmode] at hhistory
    obtain ⟨hworkflow, hinitial, hinvoke⟩ := hhistory
    have hservice : collaborators.service.agenticWorkflow = _ :=
      congrArg (Option.map _) hworkflow
    simp only [hmode, hservice, Option.map_some] at houtput
    obtain ⟨workflowOutput, hrun, houtput⟩ := except_bind_eq_ok.mp houtput
    cases houtput
    rw [AssessmentService.withRouting_counters]
    change workflowOutput.execution.toolsUsed.length = _ ↔ _
    rw [AgenticAssessmentWorkflow.run_toolsUsed hinitial hinvoke hrun, ← length_eraseDups_eq_iff,
      List.length_map]
    exact ⟨fun heq _ => heq, fun heq => heq rfl⟩
  | multiAgent =>
    rw [hmode] at hhistory
    obtain ⟨⟩ | ⟨hworkflow, hinvoke⟩ := hhistory
    have hservice : collaborators.service.multiAgentWorkflow = _ :=
      congrArg (Option.map _) hworkflow
    simp only [hmode, hservice, Option.map_some] at houtput
    obtain ⟨workflowOutput, hrun, houtput⟩ := except_bind_eq_ok.mp houtput
    cases houtput
    rw [AssessmentService.withRouting_counters]
    exact iff_of_true (runMultiAgent_toolCalls hinvoke hrun) fun hsingle => by cases hsingle

end Tools

/-- A single agent that requests the same search in each of its steps. -/
def AgenticAssessmentWorkflow.searching (maxSteps : ℕ) :
    AgenticAssessmentWorkflow KnowledgeArguments where
  agent := .ofStream (fun _ => .tool .letter) fun _ _ _ => .blank
  tools := KnowledgeTools.empty.registry id
  maxSteps
  maxToolCalls := 3
  recursionLimit := 25

/-- A service with this agent. -/
def Collaborators.searching (maxSteps : ℕ) : Collaborators KnowledgeArguments where
  generator _ := .error .other
  singleAgent := some (.searching maxSteps)

/-- The reason of the legacy flags is one code. -/
theorem ResolvedExecutionRoute.legacyFlagSelection_le :
    [RoutingReasonCode.legacyFlagSelection].length ≤ 12 := by
  decide

/-- There is no fallback code without a fallback. -/
theorem ResolvedExecutionRoute.noFallback_le : ([] : List FallbackReasonCode).length ≤ 12 := by
  decide

/-- The route of the single agent. -/
def ResolvedExecutionRoute.singleAgent : ResolvedExecutionRoute where
  preferredExecutionMode := .singleAgent
  executionMode := .singleAgent
  routingReasonCodes := [.legacyFlagSelection]
  routingReasonCodes_le := ResolvedExecutionRoute.legacyFlagSelection_le
  fallbackReasonCodes_le := ResolvedExecutionRoute.noFallback_le

/-- The count that the telemetry of such a run reports, and the names in its tool history. -/
def searchReport (maxSteps : ℕ) : Except Failure (ℕ × List Str) := do
  let initial ← initializeAssessmentState .minimal maxSteps 3
  let state ← (AgenticAssessmentWorkflow.searching maxSteps).invoke initial
  let c ← (Collaborators.searching maxSteps).service.generate none ⟨1, 1⟩ 7 .minimal .singleAgent
  let telemetry ← (RuntimeGovernanceService.standard .default).candidateTelemetry (.ticking 0) c
    .autoComplete 0
  pure (telemetry.toolCallCount, state.toolHistory.map ToolHistoryEntry.toolName)

/-- A report of the sample search comes from a run and its telemetry. -/
theorem searchReport_eq_ok {maxSteps : ℕ} {report : ℕ × List Str}
    (h : searchReport maxSteps = .ok report) :
    ∃ c history telemetry,
      (Collaborators.searching maxSteps).service.generate none ⟨1, 1⟩ 7 .minimal .singleAgent =
        .ok c ∧
      (Collaborators.searching maxSteps).RunHistory .minimal .singleAgent history ∧
      (RuntimeGovernanceService.standard .default).candidateTelemetry (.ticking 0) c
        .autoComplete 0 = .ok telemetry ∧
      report = (telemetry.toolCallCount, history.map ToolHistoryEntry.toolName) := by
  obtain ⟨initial, hinitial, h⟩ := except_bind_eq_ok.mp h
  obtain ⟨state, hstate, h⟩ := except_bind_eq_ok.mp h
  obtain ⟨c, hc, h⟩ := except_bind_eq_ok.mp h
  obtain ⟨telemetry, htelemetry, h⟩ := except_bind_eq_ok.mp h
  cases h
  exact ⟨c, state.toolHistory, telemetry, hc, .singleAgent rfl hinitial hstate, htelemetry, rfl⟩

/-- A single search is counted. -/
theorem single_search_is_counted :
    ∃ (c : Candidate) (history : List ToolHistoryEntry) (telemetry : OperationalTelemetry),
      (Collaborators.searching 1).service.generate none ⟨1, 1⟩ 7 .minimal .singleAgent = .ok c ∧
      (Collaborators.searching 1).RunHistory .minimal .singleAgent history ∧
      telemetry.toolCallCount = history.length := by
  have hreport : searchReport 1 = .ok (1, [Str.ofString "search_knowledge"]) := by
    decide +kernel
  obtain ⟨c, history, telemetry, hc, hhistory, htelemetry, heq⟩ := searchReport_eq_ok hreport
  have hnames := (Prod.mk.inj heq).2
  refine ⟨c, history, telemetry, hc, hhistory,
    (tool_call_count_eq_executions_iff (.searching 1) none ⟨1, 1⟩ 7 .minimal .singleAgent c history
      (.standard .default) (.ticking 0) .autoComplete 0 telemetry hc hhistory htelemetry).mpr ?_⟩
  rw [← hnames]
  exact fun _ => List.nodup_singleton _

/-- A repeated search is counted once. -/
theorem repeated_search_is_counted_once :
    ¬ ∀ (collaborators : Collaborators KnowledgeArguments) (requestId : Option RequestId)
        (timers : Timers) (assessmentId : UUID) (request : AssessmentRequest)
        (routing : ResolvedExecutionRoute) (c : Candidate) (history : List ToolHistoryEntry)
        (governance : RuntimeGovernanceService) (env : Env) (decision : RuntimeRiskDecision)
        (now : Time) (telemetry : OperationalTelemetry),
      collaborators.service.generate requestId timers assessmentId request routing = .ok c →
      collaborators.RunHistory request routing.executionMode history →
      governance.candidateTelemetry env c decision now = .ok telemetry →
      telemetry.toolCallCount = history.length := by
  intro hclaim
  have hreport : searchReport 2 =
      .ok (1, [Str.ofString "search_knowledge", Str.ofString "search_knowledge"]) := by
    decide +kernel
  obtain ⟨c, history, telemetry, hc, hhistory, htelemetry, heq⟩ := searchReport_eq_ok hreport
  obtain ⟨hcount, hnames⟩ := Prod.mk.inj heq
  have hequal := hclaim (.searching 2) none ⟨1, 1⟩ 7 .minimal .singleAgent c history
    (.standard .default) (.ticking 0) .autoComplete 0 telemetry hc hhistory htelemetry
  have hlength := congrArg List.length hnames
  rw [List.length_map, ← hequal, ← hcount] at hlength
  cases hlength

/-! ## Degradation -/

/-- What an execution reports about its own course: a single agent that was stopped by a limit
or a failure, or a multi-agent workflow without one of its specialists. -/
def ExecutionMetadata.RanDegraded : ExecutionMetadata → Prop
  | .deterministic _ => False
  | .singleAgent m => m.terminationReason ≠ .completed ∧ m.terminationReason ≠ .agentStopped
  | .multiAgent m => m.degradedMode = true

/-- The retrieval record of an execution is degraded. -/
def ExecutionMetadata.RetrievedDegraded (execution : ExecutionMetadata) : Prop :=
  ∃ graph, execution.graphRetrieval = some graph ∧ graph.degradedGraphMode = true

section Degradation

variable {execution : ExecutionMetadata}

/-- The degraded counter says that an agent ran degraded. -/
theorem executionCounters_degraded_iff (n : Option ℕ) :
    (executionCounters execution n).degraded = true ↔ execution.RanDegraded := by
  cases execution with
  | deterministic m => simp [executionCounters, ExecutionMetadata.RanDegraded]
  | singleAgent m => simp [executionCounters, ExecutionMetadata.RanDegraded]
  | multiAgent m => simp [executionCounters, ExecutionMetadata.RanDegraded]

/-- An execution is degraded exactly if its retrieval or an agent was. -/
theorem degradedExecution_iff :
    degradedExecution execution = true ↔
      execution.RetrievedDegraded ∨ execution.RanDegraded := by
  cases execution with
  | deterministic m | singleAgent m | multiAgent m =>
    cases hrecord : m.graphRetrieval <;>
      simp [degradedExecution, ExecutionMetadata.RetrievedDegraded, ExecutionMetadata.RanDegraded,
        ExecutionMetadata.graphRetrieval, hrecord]

end Degradation

/-- The telemetry of an execution counts a degraded state exactly when its signals report a
degraded execution, if and only if the retrieval record is not the only part that is degraded. -/
theorem degraded_state_count_agrees_iff (execution : ExecutionMetadata) (durationMs : ℤ)
    (decision : RuntimeRiskDecision) (tokenUsage : Option ProviderTokenUsage) (evidenceCount : ℕ)
    (modelCallCount : Option ℕ) (inputCost outputCost : Option ℚ) (requestId : Option RequestId)
    (now : Time) (telemetry : OperationalTelemetry) (result : AssessmentResult)
    (evidence : List RetrievedEvidence) (provenanceValid : Bool)
    (h : buildOperationalTelemetry execution durationMs decision tokenUsage evidenceCount
      modelCallCount inputCost outputCost requestId now = .ok telemetry) :
    (telemetry.degradedStateCount = 1 ↔
        (deriveSignals result evidence execution provenanceValid).degradedExecution = true) ↔
      (execution.RetrievedDegraded → execution.RanDegraded) := by
  have hcount : telemetry.degradedStateCount = 1 ↔ execution.RanDegraded := by
    rw [(buildOperationalTelemetry_summarises h).degradedStateCount,
      ← executionCounters_degraded_iff none]
    split <;> simp_all
  have hsignal : (deriveSignals result evidence execution provenanceValid).degradedExecution =
      degradedExecution execution := rfl
  rw [hcount, hsignal, degradedExecution_iff]
  tauto

/-- An execution in which nothing is degraded is not counted. -/
theorem undegraded_execution_agrees :
    ∃ telemetry, buildOperationalTelemetry (.deterministic {}) 1 .autoComplete none 0 none none
        none none 0 = .ok telemetry ∧
      (telemetry.degradedStateCount = 1 ↔
        (deriveSignals Candidate.highRisk.result [] (.deterministic {}) true).degradedExecution =
          true) := by
  refine ⟨_, rfl, (degraded_state_count_agrees_iff (.deterministic {}) 1 .autoComplete none 0 none
    none none none 0 _ Candidate.highRisk.result [] true rfl).mpr ?_⟩
  rintro ⟨graph, hgraph, -⟩
  cases hgraph

/-- Without an error there is no code to be bounded. -/
theorem GraphRetrievalExecutionMetadata.noErrorCode_le :
    ∀ code ∈ (none : Option Str), code.length ≤ 100 := by
  simp

/-- The metadata of a deterministic execution whose graph path has failed. -/
def DeterministicExecutionMetadata.graphFallback : DeterministicExecutionMetadata where
  graphRetrieval := some
    { degradedGraphMode := true
      graphErrorCode := some ApplicationError.knowledgeGraphUnavailable.errorCode
      graphErrorCode_le := fun code hcode => by
        cases hcode
        exact ApplicationError.errorCode_length_le _
      graphDepthUsed_le := noHops_le
      vectorErrorCode_le := GraphRetrievalExecutionMetadata.noErrorCode_le }

/-- The signals report the failed graph path, which the telemetry does not count. -/
theorem graph_fallback_is_not_counted :
    ¬ ∀ (execution : ExecutionMetadata) (durationMs : ℤ) (decision : RuntimeRiskDecision)
        (tokenUsage : Option ProviderTokenUsage) (evidenceCount : ℕ) (modelCallCount : Option ℕ)
        (inputCost outputCost : Option ℚ) (requestId : Option RequestId) (now : Time)
        (telemetry : OperationalTelemetry) (result : AssessmentResult)
        (evidence : List RetrievedEvidence) (provenanceValid : Bool),
      buildOperationalTelemetry execution durationMs decision tokenUsage evidenceCount
        modelCallCount inputCost outputCost requestId now = .ok telemetry →
      (telemetry.degradedStateCount = 1 ↔
        (deriveSignals result evidence execution provenanceValid).degradedExecution = true) := by
  intro hclaim
  have hagree := hclaim (.deterministic .graphFallback) 1 .requireHumanReview none 0 none none none
    none 0 _ Candidate.highRisk.result [] true rfl
  exact absurd (hagree.mpr rfl) (by decide)

/-! ## The vector path -/

section Hybrid

variable {hybrid : HybridRetrievalService} {request : AssessmentRequest} {query : Str}

/-- The vector path gives the evidence that its retrieval contributes. -/
theorem vectorPath_evidence {r : Except Failure (List RetrievedEvidence)}
    {evidence : List RetrievedEvidence} {error : Option ApplicationError}
    (h : vectorPath r = .ok (evidence, error)) : evidence = contributed r := by
  unfold vectorPath at h
  split at h
  · cases h
    rfl
  · cases h
    rfl
  · cases h

/-- The empty neighborhood has no evidence. -/
theorem GraphNeighborhood.evidence_of_empty {neighborhood : GraphNeighborhood}
    (h : GraphNeighborhood.empty query = .ok neighborhood) : neighborhood.evidence = [] := by
  unfold GraphNeighborhood.empty GraphNeighborhood.create at h
  split at h
  · cases h
    rfl
  · cases h

/-- The evidence of the traversal that a lookup has found. -/
def traversedEvidence (found : Option GraphTraversalData) : List RetrievedEvidence :=
  match found with
  | none => []
  | some traversal => traversal.evidence

/-- The evidence of a traversal holds each chunk once. -/
theorem traversedEvidence_nodup (found : Option GraphTraversalData) :
    ((traversedEvidence found).map RetrievedEvidence.chunkId).Nodup := by
  cases found with
  | none => exact List.nodup_nil
  | some traversal => exact traversal.evidence_nodup

variable (hybrid request) in
/-- The graph path contributes each chunk once. -/
theorem graphOutcome_nodup :
    ((contributed (hybrid.graphOutcome request)).map RetrievedEvidence.chunkId).Nodup := by
  change ((contributed ((hybrid.graph.lookup (buildRetrievalQuery request) none none).map
    traversedEvidence)).map RetrievedEvidence.chunkId).Nodup
  cases hybrid.graph.lookup (buildRetrievalQuery request) none none with
  | error e => exact List.nodup_nil
  | ok found => exact traversedEvidence_nodup found

/-- The graph path gives the evidence that its look-up contributes. -/
theorem graphPath_evidence {graph : GraphRetrievalService} {neighborhood : GraphNeighborhood}
    {error : Option ApplicationError}
    (h : graphPath query (graph.search query none none) = .ok (neighborhood, error)) :
    neighborhood.evidence =
      contributed ((graph.lookup query none none).map traversedEvidence) := by
  unfold GraphRetrievalService.search at h
  cases hlookup : graph.lookup query none none with
  | error e =>
    rw [hlookup, except_error_bind] at h
    unfold graphPath at h
    split at h
    · rename_i hsearch
      cases hsearch
    · obtain ⟨fallback, hfallback, heq⟩ := except_map_eq_ok.mp h
      cases heq
      exact GraphNeighborhood.evidence_of_empty hfallback
    · cases h
  | ok found =>
    rw [hlookup, except_ok_bind] at h
    unfold graphPath at h
    split at h
    · rename_i found' hsearch
      cases h
      cases found with
      | none => exact GraphNeighborhood.evidence_of_empty hsearch
      | some traversal => exact (traversal.toNeighborhood_eq_ok hsearch).1
    · rename_i e hsearch
      cases found with
      | none =>
        dsimp only [GraphNeighborhood.empty, GraphNeighborhood.create] at hsearch
        split at hsearch <;> cases hsearch
      | some traversal =>
        dsimp only [GraphTraversalData.toNeighborhood, GraphNeighborhood.create] at hsearch
        split at hsearch <;> cases hsearch
    · cases h

/-- A prepared request holds the merge of what the two paths contribute. -/
theorem HybridRetrievalService.prepare_eq_ok {preparation : RAGPreparation}
    (h : hybrid.prepare request = .ok preparation) :
    ∃ neighborhood vectorError graphError,
      neighborhood.evidence = contributed (hybrid.graphOutcome request) ∧
      preparation.evidence =
        mergeEvidence (contributed (hybrid.vectorOutcome request)) neighborhood.evidence ∧
      preparation.graphRetrieval = some (hybridMetadata
        (contributed (hybrid.vectorOutcome request)) vectorError neighborhood graphError) := by
  unfold HybridRetrievalService.prepare HybridRetrievalService.search hybridSearch at h
  obtain ⟨result, hresult, h⟩ := except_bind_eq_ok.mp h
  obtain ⟨⟨vector, vectorError⟩, hvector, hresult⟩ := except_bind_eq_ok.mp hresult
  obtain ⟨⟨neighborhood, graphError⟩, hgraph, hresult⟩ := except_bind_eq_ok.mp hresult
  cases hresult
  obtain ⟨context, -, h⟩ := except_bind_eq_ok.mp h
  cases h
  have hcontributed : vector = contributed (hybrid.vectorOutcome request) :=
    vectorPath_evidence hvector
  exact ⟨neighborhood, vectorError, graphError, graphPath_evidence hgraph, by rw [← hcontributed],
    by rw [← hcontributed]⟩

end Hybrid

section Merge

variable {vector graph : List RetrievedEvidence}

/-- The merged evidence is empty exactly if both paths give none. -/
theorem mergeEvidence_eq_nil_iff : mergeEvidence vector graph = [] ↔ vector = [] ∧ graph = [] := by
  constructor
  · intro hnil
    have hnone : ∀ id, ¬ (id ∈ vector.map RetrievedEvidence.chunkId ∨
        id ∈ graph.map RetrievedEvidence.chunkId) := by
      intro id hid
      have hmem := mem_map_mergeEvidence.mpr hid
      rw [hnil] at hmem
      cases hmem
    constructor
    · exact List.eq_nil_iff_forall_not_mem.mpr fun item hitem =>
        hnone _ (.inl (List.mem_map_of_mem hitem))
    · exact List.eq_nil_iff_forall_not_mem.mpr fun item hitem =>
        hnone _ (.inr (List.mem_map_of_mem hitem))
  · rintro ⟨rfl, rfl⟩
    rfl

/-- Some merged item has the label of the vector path, alone or with the graph path, exactly if
the vector path contributes an item. -/
theorem exists_vector_label_iff (hgraph : (graph.map RetrievedEvidence.chunkId).Nodup) :
    (∃ item ∈ mergeEvidence vector graph,
        item.retrievalSource = .vector ∨ item.retrievalSource = .both) ↔ vector ≠ [] := by
  constructor
  · rintro ⟨item, hitem, hlabel⟩ rfl
    have hmerged := mem_mergeEvidence hgraph hitem
    unfold MergedFrom at hmerged
    rw [if_neg (by simp)] at hmerged
    obtain ⟨source, -, rfl⟩ := hmerged
    rcases hlabel with hlabel | hlabel <;> cases hlabel
  · intro hvector
    obtain ⟨source, hsource⟩ := List.exists_mem_of_ne_nil vector hvector
    have hid : source.chunkId ∈ vector.map RetrievedEvidence.chunkId := List.mem_map_of_mem hsource
    have hmem : source.chunkId ∈ (mergeEvidence vector graph).map RetrievedEvidence.chunkId :=
      mem_map_mergeEvidence.mpr (.inl hid)
    obtain ⟨item, hitem, hsame⟩ := List.mem_map.mp hmem
    have hmerged := mem_mergeEvidence hgraph hitem
    unfold MergedFrom at hmerged
    rw [hsame, if_pos hid] at hmerged
    obtain ⟨origin, -, rfl⟩ := hmerged
    refine ⟨_, hitem, ?_⟩
    dsimp only
    split
    · exact .inr rfl
    · exact .inl rfl

end Merge

/-- The request identifier does not change the record of the graph retrieval. -/
@[simp] theorem ExecutionMetadata.graphRetrieval_withRequestId (execution : ExecutionMetadata)
    (requestId : RequestId) :
    (execution.withRequestId requestId).graphRetrieval = execution.graphRetrieval := by
  cases execution <;> rfl

/-- The record of the graph retrieval is the one that was added. -/
@[simp] theorem ExecutionMetadata.graphRetrieval_withGraphRetrieval (execution : ExecutionMetadata)
    (record : GraphRetrievalExecutionMetadata) :
    (execution.withGraphRetrieval record).graphRetrieval = some record := by
  cases execution <;> rfl

/-- A deterministic candidate has the evidence and the retrieval record of its preparation. -/
theorem AssessmentService.generate_deterministic {service : AssessmentService}
    {requestId : Option RequestId} {timers : Timers} {assessmentId : UUID}
    {request : AssessmentRequest} {routing : ResolvedExecutionRoute} {c : Candidate}
    {prepare : AssessmentRequest → Except Failure RAGPreparation}
    (hrag : service.ragService = some prepare) (hmode : routing.executionMode = .deterministic)
    (h : service.generate requestId timers assessmentId request routing = .ok c) :
    ∃ preparation, prepare request = .ok preparation ∧ c.evidence = preparation.evidence ∧
      ∀ record, preparation.graphRetrieval = some record →
        c.execution.graphRetrieval = some record := by
  unfold AssessmentService.generate AssessmentService.runMode
    AssessmentService.generateDeterministic at h
  simp only [hmode, hrag] at h
  obtain ⟨output, houtput, h⟩ := except_bind_eq_ok.mp h
  obtain ⟨preparation, hprepare, houtput⟩ := except_bind_eq_ok.mp houtput
  obtain ⟨result, -, houtput⟩ := except_bind_eq_ok.mp houtput
  cases houtput
  cases h
  refine ⟨preparation, hprepare, rfl, fun record hrecord => ?_⟩
  cases requestId <;> simp [hrecord]

/-- The telemetry of a deterministic run with hybrid retrieval reports the use of the vector path
exactly when some evidence is labelled with it, if and only if the vector path contributes
evidence or the graph path contributes none. -/
theorem vector_retrieval_used_iff (service : AssessmentService) (hybrid : HybridRetrievalService)
    (requestId : Option RequestId) (timers : Timers) (assessmentId : UUID)
    (request : AssessmentRequest) (routing : ResolvedExecutionRoute) (c : Candidate)
    (governance : RuntimeGovernanceService) (env : Env) (decision : RuntimeRiskDecision)
    (now : Time) (telemetry : OperationalTelemetry)
    (hrag : service.ragService = some hybrid.prepare)
    (hmode : routing.executionMode = .deterministic)
    (h : service.generate requestId timers assessmentId request routing = .ok c)
    (htelemetry : governance.candidateTelemetry env c decision now = .ok telemetry) :
    (telemetry.vectorRetrievalUsed = true ↔
        ∃ item ∈ c.evidence, item.retrievalSource = .vector ∨ item.retrievalSource = .both) ↔
      (contributed (hybrid.vectorOutcome request) ≠ [] ∨
        contributed (hybrid.graphOutcome request) = []) := by
  obtain ⟨preparation, hprepare, hevidence, hexecution⟩ :=
    AssessmentService.generate_deterministic hrag hmode h
  obtain ⟨neighborhood, vectorError, graphError, hgraph, hmerged, hrecord⟩ :=
    HybridRetrievalService.prepare_eq_ok hprepare
  have hnodup := graphOutcome_nodup hybrid request
  rw [← hgraph] at hnodup ⊢
  rw [hmerged] at hevidence
  -- the hybrid count is positive with any evidence, so the vector count has no part in the flag
  have hused : telemetry.vectorRetrievalUsed = true ↔ c.evidence ≠ [] := by
    rw [(candidateTelemetry_summarises htelemetry).vectorRetrievalUsed,
      hexecution _ hrecord, hevidence]
    simp only [Option.all_some, hybridMetadata, Bool.and_eq_true, Bool.or_eq_true,
      decide_eq_true_eq, List.length_pos_iff, ne_eq, List.length_eq_zero_iff]
    tauto
  rw [hused, hevidence, exists_vector_label_iff hnodup, ne_eq, mergeEvidence_eq_nil_iff]
  tauto

/-- The deterministic service with hybrid retrieval. -/
def HybridRetrievalService.assessmentService (hybrid : HybridRetrievalService) :
    AssessmentService where
  generator _ := .ok Candidate.highRisk.result
  ragService := some hybrid.prepare

/-- The route of the deterministic mode. -/
def ResolvedExecutionRoute.deterministic : ResolvedExecutionRoute where
  preferredExecutionMode := .deterministic
  executionMode := .deterministic
  routingReasonCodes := [.legacyFlagSelection]
  routingReasonCodes_le := ResolvedExecutionRoute.legacyFlagSelection_le
  fallbackReasonCodes_le := ResolvedExecutionRoute.noFallback_le

/-- The outcome of a deterministic run: its telemetry flag, and the labels of its evidence. -/
def HybridRetrievalService.reported (hybrid : HybridRetrievalService) :
    Except Failure (Bool × List RetrievalSource) := do
  let c ← hybrid.assessmentService.generate none ⟨1, 1⟩ 7 .minimal .deterministic
  let telemetry ← (RuntimeGovernanceService.standard .default).candidateTelemetry (.ticking 0) c
    .requireHumanReview 0
  pure (telemetry.vectorRetrievalUsed, c.evidence.map RetrievedEvidence.retrievalSource)

/-- A report of the sample comes from a candidate and its telemetry. -/
theorem HybridRetrievalService.reported_eq_ok {hybrid : HybridRetrievalService}
    {outcome : Bool × List RetrievalSource} (h : hybrid.reported = .ok outcome) :
    ∃ c telemetry,
      hybrid.assessmentService.generate none ⟨1, 1⟩ 7 .minimal .deterministic = .ok c ∧
      (RuntimeGovernanceService.standard .default).candidateTelemetry (.ticking 0) c
        .requireHumanReview 0 = .ok telemetry ∧
      outcome =
        (telemetry.vectorRetrievalUsed, c.evidence.map RetrievedEvidence.retrievalSource) := by
  obtain ⟨c, hc, h⟩ := except_bind_eq_ok.mp h
  obtain ⟨telemetry, htelemetry, h⟩ := except_bind_eq_ok.mp h
  cases h
  exact ⟨c, telemetry, hc, htelemetry, rfl⟩

/-- When both paths fail, the telemetry rightly reports no use of the vector path. -/
theorem failed_paths_are_reported :
    ∃ (c : Candidate) (telemetry : OperationalTelemetry),
      HybridRetrievalService.failing.assessmentService.generate none ⟨1, 1⟩ 7 .minimal
        .deterministic = .ok c ∧
      (RuntimeGovernanceService.standard .default).candidateTelemetry (.ticking 0) c
        .requireHumanReview 0 = .ok telemetry ∧
      (telemetry.vectorRetrievalUsed = true ↔
        ∃ item ∈ c.evidence, item.retrievalSource = .vector ∨ item.retrievalSource = .both) := by
  have hreported : HybridRetrievalService.failing.reported = .ok (false, []) := by
    decide +kernel
  obtain ⟨c, telemetry, hc, htelemetry, -⟩ := HybridRetrievalService.reported_eq_ok hreported
  exact ⟨c, telemetry, hc, htelemetry, (vector_retrieval_used_iff _ .failing none ⟨1, 1⟩ 7 .minimal
    .deterministic c (.standard .default) (.ticking 0) .requireHumanReview 0 telemetry rfl rfl hc
    htelemetry).mpr (.inr rfl)⟩

/-- A service whose vector path fails, while its graph path finds one chunk. -/
def HybridRetrievalService.graphOnly : HybridRetrievalService where
  vector := HybridRetrievalService.failing.vector
  graph :=
    { findMatchingQuery := fun _ _ _ => .ok
        [{ entityId := 1, entityType := .policy, canonicalName := [65], normalizedName := [97]
           description := none }]
      getNeighborhood := fun _ _ _ _ => .ok
        { matchedEntities :=
            [{ entityId := 1, entityType := .policy, canonicalName := [65], normalizedName := [97]
               description := none }]
          relatedEntities := []
          relationships := []
          evidence :=
            [{ chunkId := 2, documentId := 3, documentTitle := [65], content := [65]
               similarityScore := none, sourceType := .policy }]
          depthUsed := 0
          evidence_nodup := by decide
          matchedEntities_lt := by decide
          relationships_lt := by decide }
      maxDepth := 2
      maxEntities := 20
      minConfidence := 0
      maxDepth_le := twoHops_le
      depthUsed_le := fun _ _ _ _ _ h => by
        cases h
        exact Nat.zero_le _ }

/-- The telemetry reports the use of the vector path, although the only evidence of the run was
found by the graph path. -/
theorem graph_evidence_counts_as_vector :
    ¬ ∀ (service : AssessmentService) (hybrid : HybridRetrievalService)
        (requestId : Option RequestId) (timers : Timers) (assessmentId : UUID)
        (request : AssessmentRequest) (routing : ResolvedExecutionRoute) (c : Candidate)
        (governance : RuntimeGovernanceService) (env : Env) (decision : RuntimeRiskDecision)
        (now : Time) (telemetry : OperationalTelemetry),
      service.ragService = some hybrid.prepare → routing.executionMode = .deterministic →
      service.generate requestId timers assessmentId request routing = .ok c →
      governance.candidateTelemetry env c decision now = .ok telemetry →
      (telemetry.vectorRetrievalUsed = true ↔
        ∃ item ∈ c.evidence, item.retrievalSource = .vector ∨ item.retrievalSource = .both) := by
  intro hclaim
  have hreported : HybridRetrievalService.graphOnly.reported = .ok (true, [.graph]) := by
    decide +kernel
  obtain ⟨c, telemetry, hc, htelemetry, heq⟩ := HybridRetrievalService.reported_eq_ok hreported
  obtain ⟨hused, hlabels⟩ := Prod.mk.inj heq
  obtain ⟨item, hitem, hlabel⟩ := (hclaim _ .graphOnly none ⟨1, 1⟩ 7 .minimal .deterministic c
    (.standard .default) (.ticking 0) .requireHumanReview 0 telemetry rfl rfl hc htelemetry).mp
      hused.symm
  have hmem := List.mem_map_of_mem (f := RetrievedEvidence.retrievalSource) hitem
  rw [← hlabels, List.mem_singleton] at hmem
  rw [hmem] at hlabel
  rcases hlabel with hlabel | hlabel <;> cases hlabel

end AssessmentPlatform
