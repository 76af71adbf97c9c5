import AssessmentPlatform.Graph.Limits

/-!
# Termination of the single-agent graph

The run of the graph for one stream of decisions that never raises. Each round of the loop
executes two nodes; the loop ends at a limit or at the first decision that asks for no
tool, and one last node follows. A requested call whose text cannot be encoded raises out of
the loop instead, so that neither of the two last nodes is executed.
-/

namespace AssessmentPlatform

open Library

/-- What the agent decides at each step. -/
abbrev DecisionStream := ℕ → AgentDecision

/-- The calls that a stream requests in the next `n` steps, up to its first decision that asks
for no tool. -/
def toolRequests (decisions : DecisionStream) : ℕ → ℕ → List AgentToolRequest
  | 0, _ => []
  | n + 1, step =>
    match decisions step with
    | .tool request => request :: toolRequests decisions n (step + 1)
    | _ => []

/-- The agent that decides by a stream; neither operation raises. -/
def AssessmentAgent.ofStream (decisions : DecisionStream)
    (result : AssessmentRequest → List RetrievedEvidence → List ObservedKnowledgeDocument →
      AssessmentResult) : AssessmentAgent where
  decide _ _ _ _ step _ := .ok (decisions step)
  synthesize request evidence documents := .ok (result request evidence documents)

/-- What ends the loop: the step limit, the tool limit, or a decision. -/
def loopEnd (decisions : DecisionStream) (maxSteps maxToolCalls : ℕ) : AgentTerminationReason :=
  let calls := (toolRequests decisions (min maxSteps maxToolCalls) 1).length
  if calls = maxSteps then .maxStepsReached
  else if calls = maxToolCalls then .maxToolCallsReached
  else
    match decisions (calls + 1) with
    | .synthesize => .agentStopped
    | .fail | .tool _ => .failed

/-- What the limits promise of a run. -/
structure LimitedRun {Args : Type} (run : ℕ → GraphExecution Args) (maxSteps maxToolCalls : ℕ)
    (terminationReason : AgentTerminationReason) : Prop where
  /-- The graph ends within two nodes for each round and two more. -/
  terminates : ∃ n, (run n).status = .ended ∧
    (run n).executed.length ≤ 2 * min maxSteps maxToolCalls + 2
  step_le : ∀ n, (run n).state.step ≤ maxSteps
  toolCallsUsed : ∀ n, (run n).state.toolCallsUsed = (run n).state.toolHistory.length ∧
    (run n).state.toolCallsUsed ≤ maxToolCalls
  /-- Exactly one of the two last nodes is executed, once, at the end. -/
  last : ∀ n, (run n).status = .ended → ∃ before last,
    (run n).executed = before ++ [last] ∧ (last = .synthesize ∨ last = .fail) ∧
      ∀ node ∈ before, node ≠ .synthesize ∧ node ≠ .fail
  terminationReason_eq : ∀ n, (run n).status = .ended →
    (run n).state.terminationReason = some terminationReason

/-! ## Requested calls -/

section Requests

variable {decisions : DecisionStream}

variable (decisions) in
/-- There are at most as many requests for tools as steps. -/
theorem toolRequests_length_le (n step : ℕ) : (toolRequests decisions n step).length ≤ n := by
  induction n generalizing step with
  | zero => simp [toolRequests]
  | succ n ih =>
    unfold toolRequests
    split
    · exact Nat.succ_le_succ (ih _)
    · exact Nat.zero_le _

/-- The decisions behind the requested calls. -/
theorem decision_of_toolRequests {n step i : ℕ} {request : AgentToolRequest}
    (h : (toolRequests decisions n step)[i]? = some request) :
    decisions (step + i) = .tool request := by
  induction n generalizing step i with
  | zero => simp [toolRequests] at h
  | succ n ih =>
    unfold toolRequests at h
    split at h
    · rename_i first hfirst
      cases i with
      | zero =>
        cases h
        exact hfirst
      | succ i =>
        rw [List.getElem?_cons_succ] at h
        rw [← ih h, Nat.add_right_comm, Nat.add_assoc]
    · simp at h

variable (decisions) in
/-- The decision after the requested calls asks for no tool, unless the steps are used up. -/
theorem decision_after_toolRequests (n step : ℕ)
    (h : (toolRequests decisions n step).length < n) (request : AgentToolRequest) :
    decisions (step + (toolRequests decisions n step).length) ≠ .tool request := by
  induction n generalizing step with
  | zero => exact absurd h (Nat.not_lt_zero _)
  | succ n ih =>
    unfold toolRequests at h ⊢
    cases hfirst : decisions step with
    | tool first =>
      rw [hfirst] at h
      dsimp only at h ⊢
      rw [List.length_cons] at h ⊢
      have hrest := ih (step + 1) (Nat.lt_of_succ_lt_succ h)
      rwa [Nat.add_right_comm, Nat.add_assoc] at hrest
    | synthesize =>
      dsimp only
      rw [List.length_nil, Nat.add_zero, hfirst]
      nofun
    | fail =>
      dsimp only
      rw [List.length_nil, Nat.add_zero, hfirst]
      nofun

end Requests

/-! ## Ends of a run -/

section Ends

variable {Args : Type} {agent : AssessmentAgent} {registry : ToolRegistry Args}
  {state : AssessmentGraphState}

/-- A run that stands at no node stays as it is. -/
theorem executionAfter_of_halted {n m : ℕ} (hle : n ≤ m)
    (hhalted : ∀ node, (executionAfter agent registry state n).status ≠ .next node) :
    executionAfter agent registry state m = executionAfter agent registry state n := by
  induction m, hle using Nat.le_induction with
  | base => rfl
  | succ m _ ih =>
    rw [executionAfter, ih]
    cases hstatus : (executionAfter agent registry state n).status with
    | next node => exact absurd hstatus (hhalted node)
    | ended => exact GraphExecution.advance_of_ended _ agent registry hstatus
    | raised e => exact GraphExecution.advance_of_raised _ agent registry hstatus

/-- A run halts in one way only. -/
theorem executionAfter_halted_unique {n m : ℕ}
    (hn : ∀ node, (executionAfter agent registry state n).status ≠ .next node)
    (hm : ∀ node, (executionAfter agent registry state m).status ≠ .next node) :
    executionAfter agent registry state n = executionAfter agent registry state m := by
  rcases Nat.le_total n m with hle | hle
  · exact (executionAfter_of_halted hle hn).symm
  · exact executionAfter_of_halted hle hm

end Ends

/-! ## Rounds -/

section Rounds

variable {Args : Type} {registry : ToolRegistry Args} {decisions : DecisionStream}
  {result : AssessmentRequest → List RetrievedEvidence → List ObservedKnowledgeDocument →
    AssessmentResult}
  {maxSteps maxToolCalls i : ℕ} {execution : GraphExecution Args}

/-- An execution after `i` full rounds. -/
structure AtReason (maxSteps maxToolCalls i : ℕ) (execution : GraphExecution Args) : Prop where
  status_eq : execution.status = .next .reason
  maxSteps_eq : execution.state.maxSteps = maxSteps
  maxToolCalls_eq : execution.state.maxToolCalls = maxToolCalls
  step_eq : execution.state.step = i
  toolCallsUsed_eq : execution.state.toolCallsUsed = i
  executed : ∀ node ∈ execution.executed, node ≠ .synthesize ∧ node ≠ .fail
  recordable : RecordableCache execution.state.toolCache

/-- An execution that has ended by one of the two last nodes. -/
structure EndedBy (terminationReason : AgentTerminationReason) (execution : GraphExecution Args) :
    Prop where
  status_eq : execution.status = .ended
  executed : ∃ before last, execution.executed = before ++ [last] ∧
    (last = .synthesize ∨ last = .fail) ∧ ∀ node ∈ before, node ≠ .synthesize ∧ node ≠ .fail
  terminationReason_eq : execution.state.terminationReason = some terminationReason

variable (decisions result) in
/-- The node `reason` never raises for a stream of decisions. -/
theorem reason_ofStream (state : AssessmentGraphState) :
    ∃ state', reason (.ofStream decisions result) state = .ok state' ∧
      Reasoned (.ofStream decisions result) state (.ok state') := by
  have hcases := reason_cases (.ofStream decisions result) state
  cases hreason : reason (.ofStream decisions result) state with
  | ok state' =>
    rw [hreason] at hcases
    exact ⟨state', rfl, hcases⟩
  | error e =>
    rw [hreason] at hcases
    cases hcases with
    | decided _ _ hdecided =>
      cases hdecided with
      | raised hraised => cases hraised

/-- The node `reason` in an execution. -/
theorem advance_reason {agent : AssessmentAgent} {state : AssessmentGraphState}
    (hstatus : execution.status = .next .reason)
    (hreason : reason agent execution.state = .ok state) :
    execution.advance agent registry =
      { execution with
        state
        status := .next (routeAfterReason state)
        executed := execution.executed ++ [.reason] } := by
  rw [execution.advance_of_next agent registry hstatus]
  dsimp only [GraphNode.run]
  rw [hreason]
  rfl

/-- The node `synthesize` ends the run with the reason that was recorded. -/
theorem advance_synthesize {terminationReason : AgentTerminationReason}
    (hstatus : execution.status = .next .synthesize)
    (hexecuted : ∀ node ∈ execution.executed, node ≠ .synthesize ∧ node ≠ .fail)
    (hreason : execution.state.terminationReason = some terminationReason) :
    EndedBy terminationReason (execution.advance (.ofStream decisions result) registry) := by
  rw [execution.advance_of_next _ registry hstatus]
  obtain ⟨trace, heq⟩ := synthesize_eq (.ofStream decisions result) execution.state
  dsimp only [GraphNode.run]
  rw [heq]
  refine ⟨rfl, ⟨execution.executed, .synthesize, rfl, .inl rfl, hexecuted⟩, ?_⟩
  change some (execution.state.terminationReason.getD .completed) = some terminationReason
  rw [hreason, Option.getD_some]

/-- The node `fail` ends the run as failed. -/
theorem advance_fail {agent : AssessmentAgent} (hstatus : execution.status = .next .fail)
    (hexecuted : ∀ node ∈ execution.executed, node ≠ .synthesize ∧ node ≠ .fail) :
    EndedBy .failed (execution.advance agent registry) := by
  rw [execution.advance_of_next _ registry hstatus]
  obtain ⟨trace, heq⟩ := fail_eq execution.state
  dsimp only [GraphNode.run]
  rw [heq]
  exact ⟨rfl, ⟨execution.executed, .fail, rfl, .inr rfl, hexecuted⟩, rfl⟩

/-- The nodes before the last one, with one more `reason`. -/
theorem AtReason.executed_concat (h : AtReason maxSteps maxToolCalls i execution) :
    ∀ node ∈ execution.executed ++ [.reason], node ≠ .synthesize ∧ node ≠ .fail := by
  intro node hnode
  rcases List.mem_append.mp hnode with hnode | hnode
  · exact h.executed node hnode
  · obtain rfl := List.mem_singleton.mp hnode
    exact ⟨by nofun, by nofun⟩

variable (registry decisions result) in
/-- The round in which a limit ends the loop. -/
theorem AtReason.end_of_limit (h : AtReason maxSteps maxToolCalls i execution)
    (hlimit : i = maxSteps ∨ i = maxToolCalls ∧ i < maxSteps) :
    EndedBy (if i = maxSteps then .maxStepsReached else .maxToolCallsReached)
      ((execution.advance (.ofStream decisions result) registry).advance
        (.ofStream decisions result) registry) := by
  obtain ⟨state, hreason, hcases⟩ := reason_ofStream decisions result execution.state
  rw [advance_reason h.status_eq hreason]
  have hstep := h.step_eq
  have hused := h.toolCallsUsed_eq
  have hsteps := h.maxSteps_eq
  have hcalls := h.maxToolCalls_eq
  cases hcases with
  | stepLimit hle =>
    rw [if_pos (by omega)]
    exact advance_synthesize rfl h.executed_concat rfl
  | toolLimit hlt hle =>
    rw [if_neg (by omega)]
    exact advance_synthesize rfl h.executed_concat rfl
  | decided hlt hlt' _ => omega

variable (registry result) in
/-- The round in which a decision ends the loop. -/
theorem AtReason.end_of_decision (h : AtReason maxSteps maxToolCalls i execution)
    (hlimits : i < maxSteps ∧ i < maxToolCalls)
    (hdecision : ∀ request, decisions (i + 1) ≠ .tool request) :
    EndedBy (match decisions (i + 1) with | .synthesize => .agentStopped | _ => .failed)
      ((execution.advance (.ofStream decisions result) registry).advance
        (.ofStream decisions result) registry) := by
  have hstep := h.step_eq
  have hused := h.toolCallsUsed_eq
  have hsteps := h.maxSteps_eq
  have hcalls := h.maxToolCalls_eq
  have hasked : execution.state.decision (.ofStream decisions result) =
      .ok (decisions (i + 1)) := by
    rw [← hstep]
    rfl
  obtain ⟨state, hreason, hcases⟩ := reason_ofStream decisions result execution.state
  rw [advance_reason h.status_eq hreason]
  cases hcases with
  | stepLimit hle => omega
  | toolLimit hlt hle => omega
  | decided _ _ hdecided =>
    cases hdecided with
    | tool htool => exact absurd (Except.ok.inj (hasked.symm.trans htool)) (hdecision _)
    | synthesize hsynthesize =>
      rw [Except.ok.inj (hasked.symm.trans hsynthesize)]
      exact advance_synthesize rfl h.executed_concat rfl
    | fail hfail =>
      rw [Except.ok.inj (hasked.symm.trans hfail)]
      exact advance_fail rfl h.executed_concat

/-- The first node of a round that requests a tool. -/
theorem AtReason.request (h : AtReason maxSteps maxToolCalls i execution)
    (hlimits : i < maxSteps ∧ i < maxToolCalls) {request : AgentToolRequest}
    (hdecision : decisions (i + 1) = .tool request) :
    ∃ trace, execution.advance (.ofStream decisions result) registry =
      { execution with
        state := execution.state.requested request trace
        status := .next .executeTool
        executed := execution.executed ++ [.reason] } := by
  have hstep := h.step_eq
  have hused := h.toolCallsUsed_eq
  have hsteps := h.maxSteps_eq
  have hcalls := h.maxToolCalls_eq
  have hasked : execution.state.decision (.ofStream decisions result) = .ok (.tool request) := by
    rw [← hdecision, ← hstep]
    rfl
  obtain ⟨state, hreason, hcases⟩ := reason_ofStream decisions result execution.state
  rw [advance_reason h.status_eq hreason]
  cases hcases with
  | stepLimit hle => omega
  | toolLimit hlt hle => omega
  | decided _ _ hdecided =>
    cases hdecided with
    | synthesize hother => cases hasked.symm.trans hother
    | fail hother => cases hasked.symm.trans hother
    | tool htool =>
      cases hasked.symm.trans htool
      exact ⟨_, rfl⟩

/-- A round whose call can be encoded. -/
theorem AtReason.round (h : AtReason maxSteps maxToolCalls i execution)
    (hregistry : registry.Recordable) (hlimits : i < maxSteps ∧ i < maxToolCalls)
    {request : AgentToolRequest} (hdecision : decisions (i + 1) = .tool request)
    (hencodable : (registry.hashedText request.name request.arguments).encodable = true) :
    AtReason maxSteps maxToolCalls (i + 1)
      ((execution.advance (.ofStream decisions result) registry).advance
        (.ofStream decisions result) registry) := by
  obtain ⟨trace, hfirst⟩ := h.request hlimits hdecision
  rw [hfirst, GraphExecution.advance_of_next _ _ registry rfl]
  obtain ⟨answer, event, log', hcache, hexec⟩ := exec_executeTool_returns
    (execution.state.requested request trace) hregistry h.recordable execution.log rfl rfl
    hencodable
  dsimp only [GraphNode.run]
  rw [hexec]
  refine ⟨rfl, h.maxSteps_eq, h.maxToolCalls_eq, ?_, ?_, ?_, hcache⟩
  · exact congrArg (· + 1) h.step_eq
  · exact congrArg (· + 1) h.toolCallsUsed_eq
  · intro node hnode
    rcases List.mem_append.mp hnode with hnode | hnode
    · exact h.executed_concat node hnode
    · obtain rfl := List.mem_singleton.mp hnode
      exact ⟨by nofun, by nofun⟩

/-- A round whose call cannot be encoded raises. -/
theorem AtReason.raise (h : AtReason maxSteps maxToolCalls i execution)
    (hlimits : i < maxSteps ∧ i < maxToolCalls) {request : AgentToolRequest}
    (hdecision : decisions (i + 1) = .tool request)
    (hencodable : (registry.hashedText request.name request.arguments).encodable = false) :
    ((execution.advance (.ofStream decisions result) registry).advance
      (.ofStream decisions result) registry).status = .raised .value := by
  obtain ⟨trace, hfirst⟩ := h.request hlimits hdecision
  rw [hfirst, GraphExecution.advance_of_next _ _ registry rfl]
  dsimp only [GraphNode.run]
  rw [exec_executeTool_raises (execution.state.requested request trace) execution.log rfl rfl
    hencodable]

end Rounds

/-! ## The run -/

section Run

variable (tools : KnowledgeTools) (sha256 : Str → Str) (decisions : DecisionStream)
  (result : AssessmentRequest → List RetrievedEvidence → List ObservedKnowledgeDocument →
    AssessmentResult)
  (request : AssessmentRequest) (maxSteps maxToolCalls : ℕ)

/-- The run of the graph with the knowledge tools for one stream of decisions. -/
def streamRun (n : ℕ) : GraphExecution KnowledgeArguments :=
  executionAfter (.ofStream decisions result) (tools.registry sha256)
    { request, maxSteps, maxToolCalls } n

/-- The calls that are requested within the limits can be encoded. -/
def Encodable : Prop :=
  ∀ call ∈ toolRequests decisions (min maxSteps maxToolCalls) 1,
    ((tools.registry sha256).hashedText call.name call.arguments).encodable = true

variable {tools sha256 decisions result request maxSteps maxToolCalls}

/-- A run begins in front of the first round. -/
theorem atReason_zero :
    AtReason maxSteps maxToolCalls 0
      (streamRun tools sha256 decisions result request maxSteps maxToolCalls 0) :=
  ⟨rfl, rfl, rfl, rfl, rfl, by simp [streamRun, executionAfter],
    by simp [streamRun, executionAfter, RecordableCache]⟩

/-- The limits of the round of a requested call. -/
theorem round_limits {i : ℕ} {call : AgentToolRequest}
    (hcall : (toolRequests decisions (min maxSteps maxToolCalls) 1)[i]? = some call) :
    (i < maxSteps ∧ i < maxToolCalls) ∧ decisions (i + 1) = .tool call := by
  have hlt := (List.getElem?_eq_some_iff.mp hcall).1
  have hle := toolRequests_length_le decisions (min maxSteps maxToolCalls) 1
  refine ⟨by omega, ?_⟩
  rw [Nat.add_comm]
  exact decision_of_toolRequests hcall

variable (result request) in
/-- The rounds of calls that can be encoded. -/
theorem atReason_of_encodable (i : ℕ)
    (h : ∀ j < i, ∃ call, (toolRequests decisions (min maxSteps maxToolCalls) 1)[j]? = some call ∧
      ((tools.registry sha256).hashedText call.name call.arguments).encodable = true) :
    AtReason maxSteps maxToolCalls i
      (streamRun tools sha256 decisions result request maxSteps maxToolCalls (2 * i)) := by
  induction i with
  | zero => exact atReason_zero
  | succ i ih =>
    obtain ⟨call, hcall, hencodable⟩ := h i (Nat.lt_succ_self i)
    obtain ⟨hlimits, hdecision⟩ := round_limits hcall
    exact (ih fun j hj => h j (hj.trans (Nat.lt_succ_self i))).round
      (tools.registry_recordable sha256) hlimits hdecision hencodable

variable (result request) in
/-- The end of a run whose calls can be encoded. -/
theorem endedBy_of_encodable (h : Encodable tools sha256 decisions maxSteps maxToolCalls) :
    EndedBy (loopEnd decisions maxSteps maxToolCalls)
      (streamRun tools sha256 decisions result request maxSteps maxToolCalls
        (2 * (toolRequests decisions (min maxSteps maxToolCalls) 1).length + 2)) := by
  have hle := toolRequests_length_le decisions (min maxSteps maxToolCalls) 1
  have hreason := atReason_of_encodable result request
    (toolRequests decisions (min maxSteps maxToolCalls) 1).length fun j hj =>
      ⟨_, List.getElem?_eq_getElem hj, h _ (List.getElem_mem hj)⟩
  unfold loopEnd
  generalize hcalls :
    (toolRequests decisions (min maxSteps maxToolCalls) 1).length = k at hle hreason
  dsimp only
  by_cases hlimit : k = maxSteps ∨ k = maxToolCalls ∧ k < maxSteps
  · have hend := hreason.end_of_limit (tools.registry sha256) decisions result hlimit
    by_cases hsteps : k = maxSteps
    · rw [if_pos hsteps] at hend ⊢
      exact hend
    · rw [if_neg hsteps] at hend ⊢
      rw [if_pos (by omega)]
      exact hend
  · rw [if_neg (by omega), if_neg (by omega)]
    have hdecision := decision_after_toolRequests decisions (min maxSteps maxToolCalls) 1 (by omega)
    rw [hcalls, Nat.add_comm] at hdecision
    have hend := hreason.end_of_decision (tools.registry sha256) result (by omega) hdecision
    cases hlast : decisions (k + 1) with
    | tool call => exact absurd hlast (hdecision call)
    | synthesize | fail =>
      rw [hlast] at hend
      exact hend

/-- A run that ends has only made calls that can be encoded. -/
theorem encodable_of_ended {n : ℕ}
    (hended : (streamRun tools sha256 decisions result request maxSteps maxToolCalls n).status =
      .ended) (i : ℕ) (call : AgentToolRequest)
    (hcall : (toolRequests decisions (min maxSteps maxToolCalls) 1)[i]? = some call) :
    ((tools.registry sha256).hashedText call.name call.arguments).encodable = true := by
  induction i using Nat.strong_induction_on generalizing call with
  | _ i ih =>
    have hbefore : ∀ j < i, ∃ call,
        (toolRequests decisions (min maxSteps maxToolCalls) 1)[j]? = some call ∧
        ((tools.registry sha256).hashedText call.name call.arguments).encodable = true := by
      intro j hj
      have hlt := hj.trans (List.getElem?_eq_some_iff.mp hcall).1
      exact ⟨_, List.getElem?_eq_getElem hlt, ih j hj _ (List.getElem?_eq_getElem hlt)⟩
    obtain ⟨hlimits, hdecision⟩ := round_limits hcall
    by_contra hencodable
    rw [Bool.not_eq_true] at hencodable
    have hraised : (streamRun tools sha256 decisions result request maxSteps maxToolCalls
        (2 * i + 2)).status = .raised .value :=
      (atReason_of_encodable result request i hbefore).raise hlimits hdecision hencodable
    have hsame : streamRun tools sha256 decisions result request maxSteps maxToolCalls n =
        streamRun tools sha256 decisions result request maxSteps maxToolCalls (2 * i + 2) := by
      refine executionAfter_halted_unique (fun node hnode => ?_) fun node hnode => ?_
      · cases hended.symm.trans hnode
      · cases hraised.symm.trans hnode
    rw [hsame, hraised] at hended
    cases hended

end Run

/-- For every stream of decisions and whatever the tools do, the run from the initial state
keeps to its limits and ends by exactly one last node, for the reason that ended the loop, if
and only if the calls that are requested within the limits can be encoded. -/
theorem single_agent_run_is_limited (tools : KnowledgeTools) (sha256 : Str → Str)
    (decisions : DecisionStream)
    (result : AssessmentRequest → List RetrievedEvidence → List ObservedKnowledgeDocument →
      AssessmentResult)
    (request : AssessmentRequest) (maxSteps maxToolCalls : ℕ) (initial : AssessmentGraphState)
    (hinitial : initializeAssessmentState request maxSteps maxToolCalls = .ok initial) :
    LimitedRun (executionAfter (.ofStream decisions result) (tools.registry sha256) initial)
        maxSteps maxToolCalls (loopEnd decisions maxSteps maxToolCalls) ↔
      Encodable tools sha256 decisions maxSteps maxToolCalls := by
  obtain rfl : { request, maxSteps, maxToolCalls } = initial := by
    unfold initializeAssessmentState at hinitial
    split at hinitial
    · cases hinitial
    · exact Except.ok.inj hinitial
  have hcounted := counted_executionAfter (.ofStream decisions result) (tools.registry sha256)
    request maxSteps maxToolCalls
  constructor
  · rintro ⟨⟨n, hended, -⟩, -⟩ call hcall
    obtain ⟨i, hi⟩ := List.mem_iff_getElem?.mp hcall
    exact encodable_of_ended hended i call hi
  · intro hencodable
    have hend := endedBy_of_encodable result request hencodable
    -- Whenever the run has ended, it is the execution of the last round.
    have hsame : ∀ n, (executionAfter (.ofStream decisions result) (tools.registry sha256)
        { request, maxSteps, maxToolCalls } n).status = .ended →
        EndedBy (loopEnd decisions maxSteps maxToolCalls) (executionAfter
          (.ofStream decisions result) (tools.registry sha256)
          { request, maxSteps, maxToolCalls } n) := by
      intro n hended
      rw [executionAfter_halted_unique (fun node hnode => by cases hended.symm.trans hnode)
        (fun node hnode => by cases hend.status_eq.symm.trans hnode)]
      exact hend
    exact ⟨⟨_, hend.status_eq, (hcounted _).executed_length_le⟩, fun n => (hcounted n).step_le,
      fun n => ⟨(hcounted n).toolCallsUsed_eq, (hcounted n).toolCallsUsed_le⟩,
      fun n hended => (hsame n hended).executed,
      fun n hended => (hsame n hended).terminationReason_eq⟩

/-- A search whose query holds an unpaired surrogate. -/
def AgentToolRequest.surrogate : AgentToolRequest where
  name := ("search_knowledge" : String)
  arguments := [(("query" : String), .str [0xD800]), (("top_k" : String), .int 3)]
  name_encodable := Str.encodable_ofString "search_knowledge"
  name_bounds := AgentToolRequest.searchKnowledge_bounds

/-- A search for one letter. -/
def AgentToolRequest.letter : AgentToolRequest where
  name := ("search_knowledge" : String)
  arguments := [(("query" : String), .str [65]), (("top_k" : String), .int 3)]
  name_encodable := Str.encodable_ofString "search_knowledge"
  name_bounds := AgentToolRequest.searchKnowledge_bounds

/-- An assessment with empty fields. -/
def AssessmentResult.blank : AssessmentResult :=
  { executiveSummary := [], risks := [], reviewRecommended := false, informationGaps := [] }

/-- A stream that always requests the same search runs into the step limit. -/
theorem repeated_search_is_limited :
    LimitedRun (executionAfter (.ofStream (fun _ => .tool .letter) fun _ _ _ => .blank)
      (KnowledgeTools.empty.registry id) { request := .minimal, maxSteps := 2, maxToolCalls := 3 })
      2 3 .maxStepsReached :=
  (single_agent_run_is_limited .empty id (fun _ => .tool .letter) (fun _ _ _ => .blank) .minimal 2 3
    _ rfl).mpr (by
      intro call hcall
      obtain rfl : call = .letter := by
        simpa [toolRequests] using hcall
      decide +kernel)

/-- One requested call with an unpaired surrogate raises out of the loop. -/
theorem surrogate_search_escapes :
    ¬ ∀ (tools : KnowledgeTools) (sha256 : Str → Str) (decisions : DecisionStream)
      (result : AssessmentRequest → List RetrievedEvidence → List ObservedKnowledgeDocument →
        AssessmentResult)
      (request : AssessmentRequest) (maxSteps maxToolCalls : ℕ) (initial : AssessmentGraphState),
      initializeAssessmentState request maxSteps maxToolCalls = .ok initial →
      LimitedRun (executionAfter (.ofStream decisions result) (tools.registry sha256) initial)
        maxSteps maxToolCalls (loopEnd decisions maxSteps maxToolCalls) := by
  intro hclaim
  obtain ⟨n, hended, -⟩ := (hclaim .empty id (fun _ => .tool .surrogate) (fun _ _ _ => .blank)
    .minimal 2 3 _ rfl).terminates
  have hencodable := encodable_of_ended hended 0 .surrogate rfl
  have hsurrogate : ((KnowledgeTools.empty.registry id).hashedText AgentToolRequest.surrogate.name
      AgentToolRequest.surrogate.arguments).encodable = false := by
    decide +kernel
  cases hsurrogate.symm.trans hencodable

end AssessmentPlatform
