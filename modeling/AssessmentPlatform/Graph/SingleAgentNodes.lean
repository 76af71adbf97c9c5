import AssessmentPlatform.Graph.SingleAgent
import AssessmentPlatform.Tools.Totality

/-!
# What the nodes of the single-agent graph do

One lemma for each node says all that the node can do, up to the trace that it appends to.
The events of a node with a fixed summary are always valid; the event of a tool call is
valid if the result of the call can be recorded.
-/

namespace AssessmentPlatform

open Library

/-! ## Events -/

/-- A valid trace event is accepted. -/
theorem agentEvent_ok {event : AgentTraceEvent} (h : event.Valid) : agentEvent event = .ok event :=
  if_pos h

/-- An event with a fixed summary is valid if its tool name is. -/
theorem AgentTraceEvent.valid_ofList {event : AgentTraceEvent} (l : List Char)
    (hsummary : event.summary = Str.ofString (String.ofList l))
    (hlength : 0 < l.length ∧ l.length ≤ 300)
    (hname : ∀ name ∈ event.toolName, name.encodable = true ∧ name.length ≤ 100) :
    event.Valid := by
  refine ⟨?_, hname⟩
  rw [hsummary, Str.ofString_ofList, List.length_map]
  exact ⟨Str.encodable_map_ofChar l, hlength⟩

/-! ## Nodes -/

section Nodes

variable (agent : AssessmentAgent) (state : AssessmentGraphState)

/-- The decision that the agent is asked for in a state. -/
def AssessmentGraphState.decision : Except Failure AgentDecision :=
  agent.decide state.request state.retrievedEvidence state.observedDocuments state.toolHistory
    (state.step + 1) state.maxSteps

/-- The state in which a limit ends the loop. -/
def AssessmentGraphState.limited (terminationReason : AgentTerminationReason)
    (trace : List AgentTraceEvent) : AssessmentGraphState :=
  { state with
    nextAction := .synthesize
    terminationReason := some terminationReason
    trace }

/-- The state in which a decision ends the loop. -/
def AssessmentGraphState.stopped (action : AgentDecisionType)
    (terminationReason : AgentTerminationReason) (trace : List AgentTraceEvent) :
    AssessmentGraphState :=
  { state with
    step := state.step + 1
    nextAction := action
    pendingToolName := none
    pendingToolArguments := []
    terminationReason := some terminationReason
    trace }

/-- The state in which a tool call is pending. -/
def AssessmentGraphState.requested (request : AgentToolRequest) (trace : List AgentTraceEvent) :
    AssessmentGraphState :=
  { state with
    step := state.step + 1
    nextAction := .tool
    pendingToolName := some request.name
    pendingToolArguments := request.arguments
    trace }

/-- The node `reason` below both limits. -/
inductive Decided : Except Failure AssessmentGraphState → Prop
  | raised {e : Failure} (hdecision : state.decision agent = .error e) : Decided (.error e)
  | tool {request : AgentToolRequest} {trace : List AgentTraceEvent}
    (hdecision : state.decision agent = .ok (.tool request)) :
    Decided (.ok (state.requested request trace))
  | synthesize {trace : List AgentTraceEvent} (hdecision : state.decision agent = .ok .synthesize) :
    Decided (.ok (state.stopped .synthesize .agentStopped trace))
  | fail {trace : List AgentTraceEvent} (hdecision : state.decision agent = .ok .fail) :
    Decided (.ok (state.stopped .fail .failed trace))

/-- All that the node `reason` can do. -/
inductive Reasoned : Except Failure AssessmentGraphState → Prop
  | stepLimit {trace : List AgentTraceEvent} (hstep : state.maxSteps ≤ state.step) :
    Reasoned (.ok (state.limited .maxStepsReached trace))
  | toolLimit {trace : List AgentTraceEvent} (hstep : state.step < state.maxSteps)
    (hcalls : state.maxToolCalls ≤ state.toolCallsUsed) :
    Reasoned (.ok (state.limited .maxToolCallsReached trace))
  | decided {outcome : Except Failure AssessmentGraphState} (hstep : state.step < state.maxSteps)
    (hcalls : state.toolCallsUsed < state.maxToolCalls) (hdecided : Decided agent state outcome) :
    Reasoned outcome

/-- What the reasoning node does. -/
theorem reason_cases : Reasoned agent state (reason agent state) := by
  unfold reason
  by_cases hstep : state.maxSteps ≤ state.step
  · rw [if_pos hstep, agentEvent_ok, except_ok_bind]
    · exact .stepLimit hstep
    · exact AgentTraceEvent.valid_ofList _ rfl (by decide) (by simp)
  · rw [if_neg hstep]
    rw [Nat.not_le] at hstep
    by_cases hcalls : state.maxToolCalls ≤ state.toolCallsUsed
    · rw [if_pos hcalls, agentEvent_ok, except_ok_bind]
      · exact .toolLimit hstep hcalls
      · exact AgentTraceEvent.valid_ofList _ rfl (by decide) (by simp)
    · rw [if_neg hcalls, agentEvent_ok, except_ok_bind]
      · refine .decided hstep (Nat.not_le.mp hcalls) ?_
        change Decided agent state (state.decision agent >>= _)
        cases hdecision : state.decision agent with
        | error e => exact .raised hdecision
        | ok decision =>
          rw [except_ok_bind]
          cases decision with
          | synthesize => exact .synthesize hdecision
          | fail => exact .fail hdecision
          | tool request =>
            dsimp only
            rw [agentEvent_ok, except_ok_bind]
            · exact .tool hdecision
            · refine AgentTraceEvent.valid_ofList _ rfl (by decide) ?_
              rintro name ⟨⟩
              exact ⟨request.name_encodable, request.name_bounds.2⟩
      · exact AgentTraceEvent.valid_ofList _ rfl (by decide) (by simp)

/-- The node `synthesize` raises only if the agent does. -/
theorem synthesize_eq : ∃ trace, synthesize agent state =
    (agent.synthesize state.request state.retrievedEvidence state.observedDocuments).map
      fun result => { state with
        finalResult := some result
        terminationReason := some (state.terminationReason.getD .completed)
        trace } := by
  unfold synthesize
  dsimp only
  rw [agentEvent_ok, except_ok_bind]
  · cases agent.synthesize state.request state.retrievedEvidence state.observedDocuments with
    | error e => exact ⟨[], rfl⟩
    | ok result =>
      rw [except_ok_bind, agentEvent_ok, except_ok_bind]
      · exact ⟨_, rfl⟩
      · exact AgentTraceEvent.valid_ofList _ rfl (by decide) (by simp)
  · exact AgentTraceEvent.valid_ofList _ rfl (by decide) (by simp)

/-- The node `fail` never raises. -/
theorem fail_eq : ∃ trace, fail state = .ok
    { state with
      error := some ("agent_terminated_without_result" : String)
      terminationReason := some .failed
      trace } := by
  unfold fail
  rw [agentEvent_ok, except_ok_bind]
  · exact ⟨_, rfl⟩
  · exact AgentTraceEvent.valid_ofList _ rfl (by decide) (by simp)

end Nodes

/-! ## The engine -/

section Engine

variable {Args : Type} (execution : GraphExecution Args) (agent : AssessmentAgent)
  (tools : ToolRegistry Args)

/-- What the execution does where a node is next. -/
theorem GraphExecution.advance_of_next {node : GraphNode} (h : execution.status = .next node) :
    execution.advance agent tools =
      match Prog.exec (node.run agent tools execution.state) execution.log with
      | (.ok state, log) =>
        { state, log, status := node.successor state, executed := execution.executed ++ [node] }
      | (.error e, log) =>
        { execution with log, status := .raised e, executed := execution.executed ++ [node] } := by
  obtain ⟨state, log, status, executed⟩ := execution
  change status = .next node at h
  subst h
  rfl

/-- A run that has ended stays as it is. -/
theorem GraphExecution.advance_of_ended (h : execution.status = .ended) :
    execution.advance agent tools = execution := by
  rw [GraphExecution.advance, h]

/-- A run that has raised stays as it is. -/
theorem GraphExecution.advance_of_raised {e : Failure} (h : execution.status = .raised e) :
    execution.advance agent tools = execution := by
  rw [GraphExecution.advance, h]

end Engine

/-! ## Tool calls -/

section Tools

variable {Args : Type} {registry : ToolRegistry Args} {name : Str} {raw : ArgumentObject}
  {cache : ToolCache}

/-- A cache of results that can be recorded. -/
def RecordableCache (cache : ToolCache) : Prop := ∀ entry ∈ cache, entry.2.Recordable

/-- A call whose text can be encoded is answered by a result that can be recorded. -/
theorem exec_execute_returns (hregistry : registry.Recordable) (hcache : RecordableCache cache)
    (log : ToolLog Args) (h : (registry.hashedText name raw).encodable = true) :
    ∃ answer log', Prog.exec (registry.execute name raw cache) log = (.ok answer, log') ∧
      answer.result.Recordable ∧ RecordableCache answer.cache := by
  obtain ⟨answer, log', hexec, hanswered⟩ := exec_execute_answers cache log h
  refine ⟨answer, log', hexec, ?_⟩
  rcases hanswered with ⟨hrecordable, hsame⟩ | ⟨fingerprint, result, hlookup, hresult, hsame⟩ |
    ⟨definition, hmem, arguments, n, fingerprint, hresult, hadded⟩
  · exact ⟨hrecordable, hsame ▸ hcache⟩
  · rw [hresult, hsame]
    exact ⟨hcache _ (mem_of_lookup hlookup), hcache⟩
  · have hrecordable : answer.result.Recordable := by
      rw [hresult]
      exact hregistry definition hmem arguments n name
    refine ⟨hrecordable, ?_⟩
    rw [hadded]
    intro entry hentry
    rcases List.mem_cons.mp hentry with rfl | hentry
    · exact hrecordable
    · exact hcache entry hentry

variable (state : AssessmentGraphState) {request : AgentToolRequest}

/-- The node `execute_tool` for a pending call whose text cannot be encoded. -/
theorem exec_executeTool_raises (log : ToolLog Args)
    (hname : state.pendingToolName = some request.name)
    (harguments : state.pendingToolArguments = request.arguments)
    (h : (registry.hashedText request.name request.arguments).encodable = false) :
    Prog.exec (executeTool registry state) log = (.error .value, log) := by
  unfold executeTool
  rw [hname, harguments, Option.getD_some, Prog.exec_bind, exec_execute_raises log h]

/-- The node `execute_tool` for every other pending call. -/
theorem exec_executeTool_returns (hregistry : registry.Recordable)
    (hcache : RecordableCache state.toolCache) (log : ToolLog Args)
    (hname : state.pendingToolName = some request.name)
    (harguments : state.pendingToolArguments = request.arguments)
    (h : (registry.hashedText request.name request.arguments).encodable = true) :
    ∃ answer event log', RecordableCache answer.cache ∧
      Prog.exec (executeTool registry state) log =
        (.ok (state.observed request.name answer event), log') := by
  obtain ⟨answer, log', hexec, hrecordable, hcache'⟩ :=
    exec_execute_returns hregistry hcache log h
  have hvalid : (state.toolEvent request.name answer.result).Valid := by
    obtain ⟨⟨⟨⟨hencodable, -⟩, hpos, -⟩, -⟩, hlength⟩ := hrecordable
    refine ⟨⟨Str.encodable_of_trim hencodable, hpos.trans_le (Str.trim_length_le _), hlength⟩, ?_⟩
    rintro name ⟨⟩
    exact ⟨request.name_encodable, request.name_bounds.2⟩
  refine ⟨answer, state.toolEvent request.name answer.result, log', hcache', ?_⟩
  unfold executeTool
  rw [hname, harguments, Option.getD_some, Prog.exec_bind, hexec]
  dsimp only
  rw [agentEvent_ok hvalid]
  rfl

/-- Every outcome of the node: it raises before the call, or the call was answered. -/
theorem exec_executeTool_cases (registry : ToolRegistry Args) (state : AssessmentGraphState)
    (log : ToolLog Args) :
    (∃ e, Prog.exec (executeTool registry state) log = (.error e, log)) ∨
      ∃ answer log', Answered registry (fun _ => True) (state.pendingToolName.getD [])
          state.pendingToolArguments state.toolCache log answer log' ∧
        ((∃ e, Prog.exec (executeTool registry state) log = (.error e, log')) ∨
          ∃ event, Prog.exec (executeTool registry state) log =
            (.ok (state.observed (state.pendingToolName.getD []) answer event), log')) := by
  unfold executeTool
  rw [Prog.exec_bind]
  have hcall := @exec_execute Args registry (fun _ => True) (state.pendingToolName.getD [])
    state.pendingToolArguments state.toolCache log trivial
  rcases hcall with ⟨e, hexec⟩ | ⟨answer, log', hexec, hanswer⟩
  · rw [hexec]
    exact .inl ⟨e, rfl⟩
  · rw [hexec]
    refine .inr ⟨answer, log', hanswer, ?_⟩
    dsimp only
    cases agentEvent (state.toolEvent (state.pendingToolName.getD []) answer.result) with
    | error e => exact .inl ⟨e, rfl⟩
    | ok event => exact .inr ⟨event, rfl⟩

end Tools

end AssessmentPlatform
