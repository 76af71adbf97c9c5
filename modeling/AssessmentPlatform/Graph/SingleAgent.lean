import AssessmentPlatform.Library.Keyed
import AssessmentPlatform.Tools.Registry

/-!
# The single-agent graph

The bounded loop of reasoning and tool calls, with its two ends: the synthesis of the
assessment and an explicit failure. The graph is a machine that executes one node at a time;
the engine aborts a run that would execute more nodes than its recursion limit. The agent is a
parameter. A decision is asked for by its step, so a function of the request covers every
stream of decisions. Identifiers that are only logged are left out.
-/

namespace AssessmentPlatform

open Library

/-- A function request selected by the reasoning agent. -/
structure AgentToolRequest where
  name : Str
  arguments : ArgumentObject
  name_encodable : name.encodable = true
  name_bounds : 0 < name.length ∧ name.length ≤ 100

/-- The name of the search tool has an admitted length. -/
theorem AgentToolRequest.searchKnowledge_bounds :
    0 < (Str.ofString "search_knowledge").length ∧
      (Str.ofString "search_knowledge").length ≤ 100 := by
  decide +kernel

/-- One bounded routing decision; exactly the tool decisions carry a request. -/
inductive AgentDecision where
  | tool (request : AgentToolRequest)
  | synthesize
  | fail

/-- The transition that a decision asks for. -/
def AgentDecision.action : AgentDecision → AgentDecisionType
  | .tool _ => .tool
  | .synthesize => .synthesize
  | .fail => .fail

/-- The operations that the nodes require of the agent. -/
structure AssessmentAgent where
  decide : AssessmentRequest → List RetrievedEvidence → List ObservedKnowledgeDocument →
    List ToolHistoryEntry → ℕ → ℕ → Except Failure AgentDecision
  synthesize : AssessmentRequest → List RetrievedEvidence → List ObservedKnowledgeDocument →
    Except Failure AssessmentResult

/-- Application state shared by the graph nodes. -/
structure AssessmentGraphState where
  request : AssessmentRequest
  retrievedEvidence : List RetrievedEvidence := []
  observedDocuments : List ObservedKnowledgeDocument := []
  toolHistory : List ToolHistoryEntry := []
  toolCache : ToolCache := []
  pendingToolName : Option Str := none
  pendingToolArguments : ArgumentObject := []
  nextAction : AgentDecisionType := .synthesize
  step : ℕ := 0
  maxSteps : ℕ
  toolCallsUsed : ℕ := 0
  maxToolCalls : ℕ
  finalResult : Option AssessmentResult := none
  terminationReason : Option AgentTerminationReason := none
  error : Option Str := none
  trace : List AgentTraceEvent := []

/-- `initialize_assessment_state`. -/
def initializeAssessmentState (request : AssessmentRequest) (maxSteps maxToolCalls : ℕ) :
    Except Failure AssessmentGraphState :=
  if maxSteps < 1 ∨ maxToolCalls < 1 then throw .value
  else pure { request, maxSteps, maxToolCalls }

/-! ## Nodes -/

/-- `_event`: the model validates its fields. -/
def agentEvent (event : AgentTraceEvent) : Except Failure AgentTraceEvent :=
  if event.Valid then .ok event else .error .value

section Nodes

variable {Args : Type} (agent : AssessmentAgent) (tools : ToolRegistry Args)
  (state : AssessmentGraphState)

/-- The state after a decision that asks for no tool. -/
def AssessmentGraphState.decided (decision : AgentDecision) (started : AgentTraceEvent) :
    AssessmentGraphState :=
  { state with
    step := state.step + 1
    nextAction := decision.action
    pendingToolName := none
    pendingToolArguments := []
    trace := state.trace ++ [started] }

/-- The node `reason`. -/
def reason : Except Failure AssessmentGraphState :=
  if state.maxSteps ≤ state.step then do
    let event ← agentEvent
      { step := state.step
        eventType := .maxStepsReached
        summary := ("The configured reasoning-step limit was reached." : String)
        terminationReason := some .maxStepsReached }
    pure { state with
      nextAction := .synthesize
      terminationReason := some .maxStepsReached
      trace := state.trace ++ [event] }
  else if state.maxToolCalls ≤ state.toolCallsUsed then do
    let event ← agentEvent
      { step := state.step
        eventType := .maxToolCallsReached
        summary := ("The configured tool-call limit was reached." : String)
        terminationReason := some .maxToolCallsReached }
    pure { state with
      nextAction := .synthesize
      terminationReason := some .maxToolCallsReached
      trace := state.trace ++ [event] }
  else do
    let started ← agentEvent
      { step := state.step + 1
        eventType := .reasoningStarted
        summary := ("The agent evaluated whether more approved evidence was needed." : String) }
    let decision ← agent.decide state.request state.retrievedEvidence state.observedDocuments
      state.toolHistory (state.step + 1) state.maxSteps
    match decision with
    | .tool request => do
      let requested ← agentEvent
        { step := state.step + 1
          eventType := .toolRequested
          summary := ("The agent requested one approved read-only tool." : String)
          toolName := some request.name }
      pure { state.decided decision started with
        pendingToolName := some request.name
        pendingToolArguments := request.arguments
        trace := state.trace ++ [started, requested] }
    | .synthesize => pure { state.decided decision started with
        terminationReason := some .agentStopped }
    | .fail => pure { state.decided decision started with
        terminationReason := some .failed }

/-- The history entry of a call of the single agent, which records no graph retrieval. -/
def AssessmentGraphState.historyEntry (name : Str) (answer : ToolAnswer) : ToolHistoryEntry where
  step := state.step
  toolName := name
  success := answer.result.success
  summary := answer.result.summary
  argumentKeys := answer.argumentKeys
  callFingerprint := answer.fingerprint
  cached := answer.result.cached
  errorCode := answer.result.errorCode

/-- The reported outcome of a call. -/
def ToolExecutionResult.status (result : ToolExecutionResult) : ToolStatus :=
  if result.cached then .cached else if result.success then .completed else .failed

/-- The event of an answered call. -/
def AssessmentGraphState.toolEvent (name : Str) (result : ToolExecutionResult) :
    AgentTraceEvent where
  step := state.step
  eventType := if result.success then .toolCompleted else .toolFailed
  summary := result.summary
  toolName := some name
  toolStatus := some result.status

/-- The state after an answered call; chunks and documents that are known stay as they are. -/
def AssessmentGraphState.observed (name : Str) (answer : ToolAnswer) (event : AgentTraceEvent) :
    AssessmentGraphState :=
  { state with
    retrievedEvidence := answer.result.evidence.foldl
      (fun known item => setDefaultBy RetrievedEvidence.chunkId item known)
      (putAll RetrievedEvidence.chunkId (fun _ item => item) [] state.retrievedEvidence)
    observedDocuments := answer.result.document.toList.foldl
      (fun known item => setDefaultBy ObservedKnowledgeDocument.documentId item known)
      (putAll ObservedKnowledgeDocument.documentId (fun _ item => item) [] state.observedDocuments)
    toolHistory := state.toolHistory ++ [state.historyEntry name answer]
    toolCache := answer.cache
    toolCallsUsed := state.toolCallsUsed + 1
    pendingToolName := none
    pendingToolArguments := []
    trace := state.trace ++ [event] }

/-- The node `execute_tool`. -/
def executeTool : Prog (ToolLog Args) Failure AssessmentGraphState := do
  let name := state.pendingToolName.getD []
  let answer ← tools.execute name state.pendingToolArguments state.toolCache
  match agentEvent (state.toolEvent name answer.result) with
  | .error e => throw e
  | .ok event => pure (state.observed name answer event)

/-- The node `synthesize`. -/
def synthesize : Except Failure AssessmentGraphState := do
  let terminationReason := state.terminationReason.getD .completed
  let started ← agentEvent
    { step := state.step
      eventType := .synthesisStarted
      summary := ("Schema-constrained assessment synthesis started." : String) }
  let result ← agent.synthesize state.request state.retrievedEvidence state.observedDocuments
  let completed ← agentEvent
    { step := state.step
      eventType := .workflowCompleted
      summary := ("The agentic workflow produced a structured assessment." : String)
      terminationReason := some terminationReason }
  pure { state with
    finalResult := some result
    terminationReason := some terminationReason
    trace := state.trace ++ [started, completed] }

/-- The node `fail`. -/
def fail : Except Failure AssessmentGraphState := do
  let event ← agentEvent
    { step := state.step
      eventType := .workflowFailed
      summary := ("The agentic workflow terminated without a final result." : String)
      terminationReason := some .failed }
  pure { state with
    error := some ("agent_terminated_without_result" : String)
    terminationReason := some .failed
    trace := state.trace ++ [event] }

end Nodes

/-! ## The graph -/

/-- The nodes of the graph. -/
inductive GraphNode where
  | reason | executeTool | synthesize | fail
  deriving DecidableEq

/-- Where an execution stands: at a node, at the end, or raised out of a node. -/
inductive GraphStatus where
  | next (node : GraphNode)
  | ended
  | raised (failure : Failure)
  deriving DecidableEq

/-- `route_after_reason`. -/
def routeAfterReason (state : AssessmentGraphState) : GraphNode :=
  match state.nextAction with
  | .tool => .executeTool
  | .synthesize => .synthesize
  | .fail => .fail

/-- The edges of `build_assessment_graph`. -/
def GraphNode.successor (state : AssessmentGraphState) : GraphNode → GraphStatus
  | .reason => .next (routeAfterReason state)
  | .executeTool => .next .reason
  | .synthesize | .fail => .ended

/-- An execution: its state, the log of its tools, where it stands, and the nodes that were
executed. -/
structure GraphExecution (Args : Type) where
  state : AssessmentGraphState
  log : ToolLog Args := {}
  status : GraphStatus := .next .reason
  executed : List GraphNode := []

section Machine

variable {Args : Type} (agent : AssessmentAgent) (tools : ToolRegistry Args)

/-- A node that does not touch the log. -/
def logless (result : Except Failure AssessmentGraphState) :
    Prog (ToolLog Args) Failure AssessmentGraphState :=
  match result with
  | .error e => throw e
  | .ok state => pure state

/-- The execution of one node. -/
def GraphNode.run (state : AssessmentGraphState) :
    GraphNode → Prog (ToolLog Args) Failure AssessmentGraphState
  | .reason => logless (AssessmentPlatform.reason agent state)
  | .executeTool => AssessmentPlatform.executeTool tools state
  | .synthesize => logless (AssessmentPlatform.synthesize agent state)
  | .fail => logless (AssessmentPlatform.fail state)

/-- One step of the engine. -/
def GraphExecution.advance (execution : GraphExecution Args) : GraphExecution Args :=
  match execution.status with
  | .next node =>
    match Prog.exec (node.run agent tools execution.state) execution.log with
    | (.ok state, log) =>
      { state, log, status := node.successor state, executed := execution.executed ++ [node] }
    | (.error e, log) =>
      { execution with log, status := .raised e, executed := execution.executed ++ [node] }
  | _ => execution

/-- The execution of at most `n` nodes. -/
def executionAfter (state : AssessmentGraphState) : ℕ → GraphExecution Args
  | 0 => { state }
  | n + 1 => (executionAfter state n).advance agent tools

end Machine

/-- One compiled graph with its limits. -/
structure AgenticAssessmentWorkflow (Args : Type) where
  agent : AssessmentAgent
  tools : ToolRegistry Args
  maxSteps : ℕ
  maxToolCalls : ℕ
  recursionLimit : ℕ

/-- The invocation of the graph. That the engine aborts exactly the runs that have not ended after
as many nodes as the recursion limit is assumed: the pinned engine also stops a run that needs
exactly that many. -/
def AgenticAssessmentWorkflow.invoke {Args : Type} (workflow : AgenticAssessmentWorkflow Args)
    (state : AssessmentGraphState) : Except Failure AssessmentGraphState :=
  let execution := executionAfter workflow.agent workflow.tools state workflow.recursionLimit
  match execution.status with
  | .ended => .ok execution.state
  | .raised e => .error e
  | .next _ => .error .other

/-- The result of a state in which the graph ended; a run without a result raises. -/
def AssessmentGraphState.workflowResult (state : AssessmentGraphState) :
    Except Failure (AgentWorkflowOutput AssessmentExecutionMetadata) :=
  match state.finalResult, state.terminationReason, state.error with
  | some result, some terminationReason, none => .ok
    { result
      evidence := state.retrievedEvidence
      execution :=
        { stepsUsed := state.step
          toolsUsed := (state.toolHistory.map ToolHistoryEntry.toolName).eraseDups
          terminationReason
          trace := state.trace } }
  | _, _, _ => .error (.application .assessmentGeneration)

/-- `AgenticAssessmentWorkflow.run`. -/
def AgenticAssessmentWorkflow.run {Args : Type} (workflow : AgenticAssessmentWorkflow Args)
    (request : AssessmentRequest) :
    Except Failure (AgentWorkflowOutput AssessmentExecutionMetadata) := do
  let initial ← initializeAssessmentState request workflow.maxSteps workflow.maxToolCalls
  let state ← workflow.invoke initial
  state.workflowResult

end AssessmentPlatform
