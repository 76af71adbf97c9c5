import AssessmentPlatform.Graph.SingleAgentNodes

/-!
# The limits of the single-agent loop

The loop is driven by a stream of decisions and bounded by two counters that different nodes
update. One invariant relates the counters to the number of executed nodes, for every agent and
every registry. For a stream of decisions, each round of the loop is then followed to the
node that ends it; the only way out of the loop is a requested call whose text cannot be
encoded, which raises.
-/

namespace AssessmentPlatform

open Library

/-! ## Counters -/

section Counters

variable {Args : Type} {agent : AssessmentAgent} {registry : ToolRegistry Args}
  {maxSteps maxToolCalls : ℕ} {execution : GraphExecution Args}

/-- How many nodes were executed when an execution stands at a given place. -/
def GraphExecution.Position (execution : GraphExecution Args) : GraphStatus → Prop
  | .next .reason =>
    execution.executed.length = 2 * execution.state.toolCallsUsed ∧
      execution.state.step = execution.state.toolCallsUsed
  | .next .executeTool =>
    execution.executed.length = 2 * execution.state.toolCallsUsed + 1 ∧
      execution.state.step = execution.state.toolCallsUsed + 1 ∧
      execution.state.toolCallsUsed < execution.state.maxToolCalls
  | .next .synthesize | .next .fail =>
    execution.executed.length ≤
      2 * min execution.state.maxSteps execution.state.maxToolCalls + 1
  | .ended | .raised _ =>
    execution.executed.length ≤
      2 * min execution.state.maxSteps execution.state.maxToolCalls + 2

/-- The counters of an execution. -/
structure GraphExecution.Counted (execution : GraphExecution Args) (maxSteps maxToolCalls : ℕ) :
    Prop where
  maxSteps_eq : execution.state.maxSteps = maxSteps
  maxToolCalls_eq : execution.state.maxToolCalls = maxToolCalls
  step_le : execution.state.step ≤ maxSteps
  toolCallsUsed_eq : execution.state.toolCallsUsed = execution.state.toolHistory.length
  toolCallsUsed_le : execution.state.toolCallsUsed ≤ maxToolCalls
  position : execution.Position execution.status

/-- A node that raises leaves the counters alone. -/
theorem GraphExecution.Counted.raise (h : execution.Counted maxSteps maxToolCalls)
    {node : GraphNode} (hnext : execution.status = .next node) (e : Failure)
    (log : ToolLog Args) :
    GraphExecution.Counted { execution with
      log, status := .raised e, executed := execution.executed ++ [node] }
      maxSteps maxToolCalls := by
  refine ⟨h.maxSteps_eq, h.maxToolCalls_eq, h.step_le, h.toolCallsUsed_eq, h.toolCallsUsed_le, ?_⟩
  have hposition := h.position
  have hsteps := h.maxSteps_eq
  have hcalls := h.maxToolCalls_eq
  have hle := h.step_le
  have hused := h.toolCallsUsed_le
  rw [hnext] at hposition
  change (execution.executed ++ [node]).length ≤
    2 * min execution.state.maxSteps execution.state.maxToolCalls + 2
  rw [List.length_append, List.length_singleton]
  cases node with
  | reason | executeTool =>
    simp only [GraphExecution.Position] at hposition
    omega
  | synthesize | fail =>
    simp only [GraphExecution.Position] at hposition
    omega

/-- The node `reason` keeps the counters. -/
theorem GraphExecution.Counted.reason (h : execution.Counted maxSteps maxToolCalls)
    (hnext : execution.status = .next .reason) {state : AssessmentGraphState}
    (hreasoned : Reasoned agent execution.state (.ok state)) :
    GraphExecution.Counted { execution with
      state, status := .next (routeAfterReason state),
      executed := execution.executed ++ [.reason] } maxSteps maxToolCalls := by
  have hposition := h.position
  have hsteps := h.maxSteps_eq
  have hcalls := h.maxToolCalls_eq
  have hle := h.step_le
  have hused := h.toolCallsUsed_le
  rw [hnext] at hposition
  simp only [GraphExecution.Position] at hposition
  cases hreasoned with
  | stepLimit | toolLimit =>
    refine ⟨h.maxSteps_eq, h.maxToolCalls_eq, h.step_le, h.toolCallsUsed_eq, h.toolCallsUsed_le, ?_⟩
    simp only [GraphExecution.Position, routeAfterReason, AssessmentGraphState.limited,
      List.length_append, List.length_singleton]
    omega
  | decided hstep hlimit hdecided =>
    cases hdecided with
    | tool =>
      refine ⟨h.maxSteps_eq, h.maxToolCalls_eq, ?_, h.toolCallsUsed_eq, h.toolCallsUsed_le, ?_⟩
      · simp only [AssessmentGraphState.requested]
        omega
      · simp only [GraphExecution.Position, routeAfterReason, AssessmentGraphState.requested,
          List.length_append, List.length_singleton]
        omega
    | synthesize | fail =>
      refine ⟨h.maxSteps_eq, h.maxToolCalls_eq, ?_, h.toolCallsUsed_eq, h.toolCallsUsed_le, ?_⟩
      · simp only [AssessmentGraphState.stopped]
        omega
      · simp only [GraphExecution.Position, routeAfterReason, AssessmentGraphState.stopped,
          List.length_append, List.length_singleton]
        omega

/-- The state with which a node ends the graph keeps the counters. -/
theorem GraphExecution.Counted.finish (h : execution.Counted maxSteps maxToolCalls)
    {node : GraphNode} (hnode : node = .synthesize ∨ node = .fail)
    (hnext : execution.status = .next node) {state : AssessmentGraphState} {log : ToolLog Args}
    (hstate : (state.maxSteps, state.maxToolCalls, state.step, state.toolCallsUsed,
        state.toolHistory) = (execution.state.maxSteps, execution.state.maxToolCalls,
        execution.state.step, execution.state.toolCallsUsed, execution.state.toolHistory)) :
    GraphExecution.Counted
      { state, log, status := .ended, executed := execution.executed ++ [node] }
      maxSteps maxToolCalls := by
  simp only [Prod.mk.injEq] at hstate
  obtain ⟨hmaxSteps, hmaxToolCalls, hstep, hused, hhistory⟩ := hstate
  refine ⟨hmaxSteps.trans h.maxSteps_eq, hmaxToolCalls.trans h.maxToolCalls_eq,
    hstep.trans_le h.step_le, ?_, hused.trans_le h.toolCallsUsed_le, ?_⟩
  · rw [hused, hhistory]
    exact h.toolCallsUsed_eq
  · have hposition := h.position
    rw [hnext] at hposition
    rcases hnode with rfl | rfl
    · simp only [GraphExecution.Position, hmaxSteps, hmaxToolCalls, List.length_append,
        List.length_singleton] at hposition ⊢
      omega
    · simp only [GraphExecution.Position, hmaxSteps, hmaxToolCalls, List.length_append,
        List.length_singleton] at hposition ⊢
      omega

/-- An answered call keeps the counters. -/
theorem GraphExecution.Counted.observe (h : execution.Counted maxSteps maxToolCalls)
    (hnext : execution.status = .next .executeTool) (name : Str) (answer : ToolAnswer)
    (event : AgentTraceEvent) (log : ToolLog Args) :
    GraphExecution.Counted
      { state := execution.state.observed name answer event, log, status := .next .reason
        executed := execution.executed ++ [.executeTool] }
      maxSteps maxToolCalls := by
  have hposition := h.position
  have hcalls := h.maxToolCalls_eq
  rw [hnext] at hposition
  simp only [GraphExecution.Position] at hposition
  refine ⟨h.maxSteps_eq, h.maxToolCalls_eq, h.step_le, ?_, ?_, ?_⟩
  · simp [AssessmentGraphState.observed, h.toolCallsUsed_eq]
  · simp only [AssessmentGraphState.observed]
    omega
  · simp only [GraphExecution.Position, AssessmentGraphState.observed, List.length_append,
      List.length_singleton]
    omega

/-- One node keeps the counters. -/
theorem GraphExecution.Counted.advance (h : execution.Counted maxSteps maxToolCalls) :
    (execution.advance agent registry).Counted maxSteps maxToolCalls := by
  cases hstatus : execution.status with
  | ended => rwa [execution.advance_of_ended agent registry hstatus]
  | raised e => rwa [execution.advance_of_raised agent registry hstatus]
  | next node =>
    rw [execution.advance_of_next agent registry hstatus]
    cases node with
    | reason =>
      have hcases := reason_cases agent execution.state
      dsimp only [GraphNode.run]
      cases hresult : AssessmentPlatform.reason agent execution.state with
      | error e => exact h.raise hstatus e execution.log
      | ok state =>
        rw [hresult] at hcases
        exact h.reason hstatus hcases
    | executeTool =>
      dsimp only [GraphNode.run]
      rcases exec_executeTool_cases registry execution.state execution.log with
        ⟨e, hexec⟩ | ⟨answer, log', -, ⟨e, hexec⟩ | ⟨event, hexec⟩⟩
      · rw [hexec]
        exact h.raise hstatus e execution.log
      · rw [hexec]
        exact h.raise hstatus e log'
      · rw [hexec]
        exact h.observe hstatus _ answer event log'
    | synthesize =>
      obtain ⟨trace, heq⟩ := synthesize_eq agent execution.state
      dsimp only [GraphNode.run]
      rw [heq]
      cases agent.synthesize execution.state.request execution.state.retrievedEvidence
        execution.state.observedDocuments with
      | error e => exact h.raise hstatus e execution.log
      | ok result => exact h.finish (.inl rfl) hstatus rfl
    | fail =>
      obtain ⟨trace, heq⟩ := fail_eq execution.state
      dsimp only [GraphNode.run]
      rw [heq]
      exact h.finish (.inr rfl) hstatus rfl

variable (agent registry) in
/-- The counters of every run, whatever the agent and the tools do. -/
theorem counted_executionAfter (request : AssessmentRequest) (maxSteps maxToolCalls n : ℕ) :
    (executionAfter agent registry { request, maxSteps, maxToolCalls } n).Counted
      maxSteps maxToolCalls := by
  induction n with
  | zero => exact ⟨rfl, rfl, Nat.zero_le _, rfl, Nat.zero_le _, rfl, rfl⟩
  | succ n ih => exact ih.advance

/-- No run executes more nodes than two for each round and two at the end. -/
theorem GraphExecution.Counted.executed_length_le (h : execution.Counted maxSteps maxToolCalls) :
    execution.executed.length ≤ 2 * min maxSteps maxToolCalls + 2 := by
  have hposition := h.position
  have hsteps := h.maxSteps_eq
  have hcalls := h.maxToolCalls_eq
  have hle := h.step_le
  have hused := h.toolCallsUsed_le
  cases hstatus : execution.status with
  | ended | raised =>
    rw [hstatus] at hposition
    simp only [GraphExecution.Position] at hposition
    omega
  | next node =>
    rw [hstatus] at hposition
    cases node with
    | reason | executeTool | synthesize | fail =>
      simp only [GraphExecution.Position] at hposition
      omega

end Counters

end AssessmentPlatform
