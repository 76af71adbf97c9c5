import AssessmentPlatform.Core.Settings
import AssessmentPlatform.Graph.Termination

/-!
# The recursion limit of the configured workflow

The settings are validated in one place and the workflow is built in another. A run never
executes more than two nodes for each round and two at the end, and some runs execute as many;
the validated limit covers that number only if the flag of the workflow is set, while an
override of the execution mode builds the workflow without the flag.
-/

namespace AssessmentPlatform

open Library

/-- `get_agentic_assessment_workflow`. -/
def getAgenticAssessmentWorkflow {Args : Type} (settings : Settings) (agent : AssessmentAgent)
    (tools : ToolRegistry Args) : Option (AgenticAssessmentWorkflow Args) :=
  let workflow : AgenticAssessmentWorkflow Args :=
    { agent
      tools
      maxSteps := settings.agentMaxSteps
      maxToolCalls := settings.agentMaxToolCalls
      recursionLimit := settings.langgraphRecursionLimit }
  if settings.executionModeOverride ≠ none ∧
      settings.executionModeOverride ≠ some .singleAgent then none
  else if settings.executionModeOverride = none ∧ settings.executionRoutingEnabled then
    if settings.agenticWorkflowEnabled then some workflow else none
  else if settings.executionModeOverride = none ∧
      (settings.agenticWorkflowEnabled = false ∨ settings.multiAgentWorkflowEnabled) then none
  else some workflow

/-- The workflow that is built, and when. -/
theorem getAgenticAssessmentWorkflow_eq_some {Args : Type} {settings : Settings}
    {agent : AssessmentAgent} {tools : ToolRegistry Args}
    {workflow : AgenticAssessmentWorkflow Args}
    (h : getAgenticAssessmentWorkflow settings agent tools = some workflow) :
    workflow = ⟨agent, tools, settings.agentMaxSteps, settings.agentMaxToolCalls,
        settings.langgraphRecursionLimit⟩ ∧
      (settings.agenticWorkflowEnabled = true ∨
        settings.executionModeOverride = some .singleAgent) := by
  unfold getAgenticAssessmentWorkflow at h
  dsimp only at h
  split at h
  · cases h
  · rename_i hforced
    split at h
    · split at h
      · rename_i henabled
        exact ⟨(Option.some.inj h).symm, .inl henabled⟩
      · cases h
    · split at h
      · cases h
      · rename_i hlegacy
        refine ⟨(Option.some.inj h).symm, ?_⟩
        by_cases hnone : settings.executionModeOverride = none
        · rw [hnone] at hlegacy
          have hflags : settings.agenticWorkflowEnabled = true ∧
              settings.multiAgentWorkflowEnabled = false := by
            simpa using hlegacy
          exact .inl hflags.1
        · exact .inr (by simpa [hnone] using hforced)

/-- The override builds the workflow. -/
theorem getAgenticAssessmentWorkflow_override {Args : Type} {settings : Settings}
    (agent : AssessmentAgent) (tools : ToolRegistry Args)
    (h : settings.executionModeOverride = some .singleAgent) :
    getAgenticAssessmentWorkflow settings agent tools =
      some ⟨agent, tools, settings.agentMaxSteps, settings.agentMaxToolCalls,
        settings.langgraphRecursionLimit⟩ := by
  simp [getAgenticAssessmentWorkflow, h]

/-- No run of the workflow executes more nodes than its recursion limit. -/
def AgenticAssessmentWorkflow.Contained {Args : Type} (workflow : AgenticAssessmentWorkflow Args) :
    Prop :=
  ∀ (request : AssessmentRequest) (n : ℕ),
    (executionAfter workflow.agent workflow.tools
      { request, maxSteps := workflow.maxSteps, maxToolCalls := workflow.maxToolCalls }
      n).executed.length ≤ workflow.recursionLimit

/-! ## The longest run -/

section Longest

/-- The request of a tool that no registry knows. -/
def AgentToolRequest.unknown : AgentToolRequest where
  name := ("unknown_tool" : String)
  arguments := []
  name_encodable := Str.encodable_ofString "unknown_tool"
  name_bounds := by decide +kernel

/-- The agent that requests the unknown tool at every step. -/
def AssessmentAgent.stubborn : AssessmentAgent :=
  .ofStream (fun _ => .tool .unknown) fun _ _ _ => .blank

/-- An agent that always asks for the same call asks for it in every step. -/
theorem toolRequests_const (request : AgentToolRequest) (n step : ℕ) :
    toolRequests (fun _ => .tool request) n step = List.replicate n request := by
  induction n generalizing step with
  | zero => rfl
  | succ n ih => rw [toolRequests, ih, List.replicate_succ]

/-- A node is executed once. -/
theorem executed_length_advance {Args : Type} {execution : GraphExecution Args}
    {agent : AssessmentAgent} {registry : ToolRegistry Args} {node : GraphNode}
    (h : execution.status = .next node) :
    (execution.advance agent registry).executed.length = execution.executed.length + 1 := by
  rw [execution.advance_of_next agent registry h]
  rcases Prog.exec (node.run agent registry execution.state) execution.log with ⟨_ | _, _⟩
  · exact List.length_append
  · exact List.length_append

variable (tools : KnowledgeTools) (sha256 : Str → Str) (request : AssessmentRequest)
  (maxSteps maxToolCalls : ℕ)

/-- The stubborn agent makes the graph execute two nodes in each round and two at the end. -/
theorem stubborn_executed_length :
    (executionAfter .stubborn (tools.registry sha256) { request, maxSteps, maxToolCalls }
      (2 * min maxSteps maxToolCalls + 2)).executed.length =
      2 * min maxSteps maxToolCalls + 2 := by
  have hencodable : ((tools.registry sha256).hashedText AgentToolRequest.unknown.name
      AgentToolRequest.unknown.arguments).encodable = true := by
    unfold ToolRegistry.hashedText
    rw [tools.find_eq_none sha256 (by decide +kernel)]
    decide +kernel
  have hreason : AtReason maxSteps maxToolCalls (min maxSteps maxToolCalls)
      (executionAfter .stubborn (tools.registry sha256) { request, maxSteps, maxToolCalls }
        (2 * min maxSteps maxToolCalls)) := by
    refine atReason_of_encodable _ request _ fun j hj => ⟨.unknown, ?_, hencodable⟩
    rw [toolRequests_const, List.getElem?_replicate, if_pos hj]
  have hcounted := (counted_executionAfter .stubborn (tools.registry sha256) request maxSteps
    maxToolCalls (2 * min maxSteps maxToolCalls)).position
  rw [hreason.status_eq] at hcounted
  obtain ⟨state, hstate, -⟩ := reason_ofStream (fun _ => .tool .unknown) (fun _ _ _ => .blank)
    (executionAfter .stubborn (tools.registry sha256) { request, maxSteps, maxToolCalls }
      (2 * min maxSteps maxToolCalls)).state
  have hnext : (executionAfter .stubborn (tools.registry sha256)
      { request, maxSteps, maxToolCalls } (2 * min maxSteps maxToolCalls + 1)).status =
      .next (routeAfterReason state) :=
    congrArg GraphExecution.status (advance_reason hreason.status_eq hstate)
  rw [executionAfter, executed_length_advance hnext, executionAfter,
    executed_length_advance hreason.status_eq, hcounted.1, hreason.toolCallsUsed_eq]

end Longest

/-- The workflows that accepted settings build never execute more nodes than the recursion limit
if and only if, under the override of the execution mode, the flag of the workflow is set or
the limit covers the longest run. -/
theorem recursion_limit_contains_runs (settings : Settings) (haccepted : settings.Accepted)
    (tools : KnowledgeTools) (sha256 : Str → Str) :
    (∀ agent workflow,
      getAgenticAssessmentWorkflow settings agent (tools.registry sha256) = some workflow →
      workflow.Contained) ↔
    (settings.executionModeOverride = some .singleAgent →
      settings.agenticWorkflowEnabled = true ∨
        2 * min settings.agentMaxSteps settings.agentMaxToolCalls + 2 ≤
          settings.langgraphRecursionLimit) := by
  constructor
  · intro hcontained hoverride
    refine .inr ?_
    have hrun :=
      hcontained .stubborn _ (getAgenticAssessmentWorkflow_override .stubborn _ hoverride)
      .minimal (2 * min settings.agentMaxSteps settings.agentMaxToolCalls + 2)
    rwa [stubborn_executed_length] at hrun
  · intro hlimit agent workflow hworkflow request n
    obtain ⟨rfl, hbuilt⟩ := getAgenticAssessmentWorkflow_eq_some hworkflow
    have hcounted := (counted_executionAfter agent (tools.registry sha256) request
      settings.agentMaxSteps settings.agentMaxToolCalls n).executed_length_le
    refine hcounted.trans ?_
    change _ ≤ settings.langgraphRecursionLimit
    have hcovered : settings.agenticWorkflowEnabled = true ∨
        2 * min settings.agentMaxSteps settings.agentMaxToolCalls + 2 ≤
          settings.langgraphRecursionLimit :=
      hbuilt.elim .inl hlimit
    rcases hcovered with henabled | hcovers
    · have hvalidated := haccepted.recursionLimit_ge henabled
      omega
    · exact hcovers

/-- Settings that force the single agent, with the same limit for steps and tool calls. -/
def Settings.forced (limit : ℕ) : Settings where
  agentMaxSteps := limit
  agentMaxToolCalls := limit
  executionModeOverride := some .singleAgent

/-- The settings of the sample are accepted. -/
theorem Settings.forced_accepted {limit : ℕ} (h : 1 ≤ limit ∧ limit ≤ 50) :
    (Settings.forced limit).Accepted where
  ragChunkSize := by simp [Settings.forced]
  ragChunkOverlap := by simp [Settings.forced]
  agentMaxSteps := h
  agentMaxToolCalls := h
  langgraphRecursionLimit := by simp [Settings.forced]
  overlap_lt := by simp [Settings.forced]
  recursionLimit_ge := nofun

/-- The default limits keep to the recursion limit under the override. -/
theorem default_limit_contains_runs :
    (Settings.forced 5).Accepted ∧
      ∀ agent workflow, getAgenticAssessmentWorkflow (.forced 5) agent
        (KnowledgeTools.empty.registry id) = some workflow → workflow.Contained := by
  have haccepted : (Settings.forced 5).Accepted := Settings.forced_accepted (by decide)
  exact ⟨haccepted, (recursion_limit_contains_runs (.forced 5) haccepted .empty id).mpr
    fun _ => .inr (by decide)⟩

/-- The override builds a workflow whose runs can exceed the recursion limit. -/
theorem forced_run_exceeds_limit :
    ¬ ∀ (settings : Settings) (_ : settings.Accepted) (tools : KnowledgeTools)
      (sha256 : Str → Str) (agent : AssessmentAgent) workflow,
      getAgenticAssessmentWorkflow settings agent (tools.registry sha256) = some workflow →
      workflow.Contained := by
  intro hclaim
  have hrun := hclaim (.forced 20) (Settings.forced_accepted (by decide)) .empty id .stubborn _
    (getAgenticAssessmentWorkflow_override .stubborn _ rfl) .minimal (2 * min 20 20 + 2)
  change (executionAfter .stubborn _ { request := .minimal, maxSteps := 20, maxToolCalls := 20 }
    (2 * min 20 20 + 2)).executed.length ≤ 25 at hrun
  rw [stubborn_executed_length] at hrun
  exact absurd hrun (by decide)

end AssessmentPlatform
