import AssessmentPlatform.Agents.EvidenceAgent
import AssessmentPlatform.Graph.SingleAgentNodes
import AssessmentPlatform.Tools.AtMostOnce

/-!
# The tool use of both agents

Every run of the single-agent graph and of the Evidence Agent loop makes one sequence of tool
calls that hands the cache on, whatever the agent decides and wherever the run raises. So
the handlers of a run are invoked at most once for each tool and its normalized arguments.
-/

namespace AssessmentPlatform

open Library

variable {Args : Type}

/-- A call whose answer does not depend on the cache, which it leaves as it is. -/
def Uncached (name : Str) (raw : ArgumentObject)
    (call : ToolCache → Prog (ToolLog Args) Failure ToolAnswer) : Prop :=
  ∃ outcome : Except Failure (ToolExecutionResult × Str), ∀ cache log,
    Prog.exec (call cache) log = match outcome with
      | .error e => (.error e, log)
      | .ok (result, fingerprint) =>
        (.ok ⟨result, fingerprint, argumentKeys raw, cache⟩, log.answered name raw result)

section Refusals

variable {registry : ToolRegistry Args} {name : Str} {raw : ArgumentObject}

/-- A refusal does not depend on the cache. -/
theorem uncached_refuse (fingerprint : Except Failure Str) (summary errorCode : Str) :
    Uncached name raw fun cache =>
      (refuse name raw fingerprint summary errorCode cache :
        Prog (ToolLog Args) Failure ToolAnswer) := by
  cases fingerprint with
  | error e => exact ⟨.error e, fun _ _ => rfl⟩
  | ok fingerprint => exact ⟨.ok (.failure name summary errorCode, fingerprint), fun _ _ => rfl⟩

/-- The registry refuses an unknown tool and arguments outside of its schema. -/
theorem uncached_execute {allowed : Str → Prop} (hallowed : allowed name)
    (hrefused : ∀ d x, ¬ registry.Accepts allowed name raw d x) :
    Uncached name raw (registry.execute name raw) := by
  unfold ToolRegistry.execute
  cases hfind : registry.find name with
  | none => exact uncached_refuse _ _ _
  | some definition =>
    cases hvalidate : definition.validate raw with
    | none =>
      simp only [hvalidate]
      exact uncached_refuse _ _ _
    | some arguments => exact absurd ⟨hallowed, hfind, hvalidate⟩ (hrefused definition arguments)

/-- The permissions of a specialist refuse every other tool. -/
theorem uncached_executePermitted (agent : MultiAgentName)
    (hrefused : ∀ d x, ¬ registry.Accepts (· ∈ permissions agent) name raw d x) :
    Uncached name raw (executePermitted registry agent name raw) := by
  unfold executePermitted
  by_cases hallowed : name ∈ permissions agent
  · simp only [if_pos hallowed]
    exact uncached_execute hallowed hrefused
  · simp only [if_neg hallowed]
    exact uncached_refuse _ _ _

end Refusals

/-! ## The Evidence Agent -/

section Evidence

variable {agent : OpenAIEvidenceAgent Args} {request : AssessmentRequest}

variable (agent request) in
/-- The loop of the Evidence Agent is a sequence of permitted calls. -/
theorem gatherLoop_callRun (n step : ℕ) (o : EvidenceObservations) (log : ToolLog Args) :
    ∃ cache, CallRun agent.tools (· ∈ permissions .evidence) (o.cache, log)
      (cache, (Prog.exec (gatherLoop agent request n step o) log).2) := by
  induction n generalizing step o log with
  | zero => exact ⟨o.cache, .refl⟩
  | succ n ih =>
    unfold gatherLoop
    by_cases hlimit : agent.maxToolCalls ≤ o.history.length
    · rw [if_pos hlimit]
      exact ⟨o.cache, .refl⟩
    · rw [if_neg hlimit]
      rcases agent.decideToolCall request o step with e | _ | ⟨name, raw⟩
      · exact ⟨o.cache, .refl⟩
      · exact ⟨o.cache, .refl⟩
      · dsimp only
        rw [Prog.exec_bind]
        rcases exec_executePermitted agent.tools name raw o.cache log .evidence with
          ⟨e, hexec⟩ | ⟨answer, log₁, hexec, hanswer⟩
        · rw [hexec]
          exact ⟨o.cache, .refl⟩
        · rw [hexec]
          obtain ⟨cache, hrest⟩ := ih (step + 1) (o.observe step name answer) log₁
          exact ⟨cache, hanswer.run hrest⟩

variable (agent request) in
/-- A run of the Evidence Agent is a sequence of permitted calls. -/
theorem gather_callRun : ∃ cache, CallRun agent.tools (· ∈ permissions .evidence) ([], {})
    (cache, (Prog.exec (gather agent request) {}).2) := by
  obtain ⟨cache, hloop⟩ := gatherLoop_callRun agent request agent.maxSteps 1 {} {}
  refine ⟨cache, ?_⟩
  unfold gather
  rw [Prog.exec_bind]
  rcases hexec : Prog.exec (gatherLoop agent request agent.maxSteps 1 {}) {} with
    ⟨e | ⟨o, terminationReason⟩, log⟩
  · rw [hexec] at hloop
    exact hloop
  · rw [hexec] at hloop
    dsimp only
    split <;> exact hloop

end Evidence

/-! ## The single agent -/

section SingleAgent

variable {agent : AssessmentAgent} {registry : ToolRegistry Args}

/-- The calls of an execution, and the cache that its next node finds. -/
def GraphExecution.Called (registry : ToolRegistry Args) (execution : GraphExecution Args) :
    Prop :=
  ∃ cache, CallRun registry (fun _ => True) ([], {}) (cache, execution.log) ∧
    ∀ node, execution.status = .next node → execution.state.toolCache = cache

/-- The node `reason` leaves the cache and the evidence alone. -/
theorem Reasoned.kept {state state' : AssessmentGraphState}
    (h : Reasoned agent state (.ok state')) :
    state'.toolCache = state.toolCache ∧ state'.retrievedEvidence = state.retrievedEvidence := by
  cases h with
  | stepLimit => exact ⟨rfl, rfl⟩
  | toolLimit => exact ⟨rfl, rfl⟩
  | decided _ _ hdecided => cases hdecided <;> exact ⟨rfl, rfl⟩

/-- No node but `execute_tool` touches the log, the cache or the evidence. -/
theorem GraphNode.run_logless {node : GraphNode} (hnode : node ≠ .executeTool)
    (state : AssessmentGraphState) :
    ∃ result, node.run agent registry state = logless result ∧
      ∀ state', result = .ok state' → state'.toolCache = state.toolCache ∧
        state'.retrievedEvidence = state.retrievedEvidence := by
  cases node with
  | executeTool => exact absurd rfl hnode
  | reason =>
    refine ⟨_, rfl, fun state' hstate' => ?_⟩
    have hcases := reason_cases agent state
    rw [hstate'] at hcases
    exact hcases.kept
  | synthesize =>
    refine ⟨_, rfl, fun state' hstate' => ?_⟩
    obtain ⟨trace, heq⟩ := synthesize_eq agent state
    rw [heq] at hstate'
    cases hresult : agent.synthesize state.request state.retrievedEvidence
      state.observedDocuments with
    | error e =>
      rw [hresult] at hstate'
      cases hstate'
    | ok result =>
      rw [hresult] at hstate'
      cases hstate'
      exact ⟨rfl, rfl⟩
  | fail =>
    refine ⟨AssessmentPlatform.fail state, rfl, fun state' hstate' => ?_⟩
    obtain ⟨trace, heq⟩ := fail_eq state
    rw [heq] at hstate'
    cases hstate'
    exact ⟨rfl, rfl⟩

/-- One node makes at most one call. -/
theorem GraphExecution.Called.advance {execution : GraphExecution Args}
    (h : execution.Called registry) : (execution.advance agent registry).Called registry := by
  obtain ⟨cache, hrun, hcache⟩ := h
  cases hstatus : execution.status with
  | ended =>
    rw [execution.advance_of_ended agent registry hstatus]
    exact ⟨cache, hrun, hcache⟩
  | raised e =>
    rw [execution.advance_of_raised agent registry hstatus]
    exact ⟨cache, hrun, hcache⟩
  | next node =>
    rw [execution.advance_of_next agent registry hstatus]
    have hcurrent := hcache node hstatus
    by_cases hnode : node = .executeTool
    · subst hnode
      dsimp only [GraphNode.run]
      rcases exec_executeTool_cases registry execution.state execution.log with
        ⟨e, hexec⟩ | ⟨answer, log', hanswer, ⟨e, hexec⟩ | ⟨event, hexec⟩⟩
      · rw [hexec]
        exact ⟨cache, hrun, fun _ hnext => by cases hnext⟩
      · rw [hexec]
        rw [hcurrent] at hanswer
        exact ⟨answer.cache, hrun.tail ⟨_, _, answer, hanswer, rfl⟩, fun _ hnext => by cases hnext⟩
      · rw [hexec]
        rw [hcurrent] at hanswer
        exact ⟨answer.cache, hrun.tail ⟨_, _, answer, hanswer, rfl⟩, fun _ _ => rfl⟩
    · obtain ⟨result, hresult, hkept⟩ := GraphNode.run_logless hnode execution.state
      rw [hresult]
      cases result with
      | error e => exact ⟨cache, hrun, fun _ hnext => by cases hnext⟩
      | ok state => exact ⟨cache, hrun, fun _ _ => (hkept state rfl).1.trans hcurrent⟩

variable (agent registry) in
/-- The calls of every execution that starts with an empty cache. -/
theorem called_executionAfter {state : AssessmentGraphState} (hcache : state.toolCache = [])
    (n : ℕ) : (executionAfter agent registry state n).Called registry := by
  induction n with
  | zero => exact ⟨[], .refl, fun _ _ => hcache⟩
  | succ n ih => exact ih.advance

end SingleAgent

/-- In every run of the single-agent graph and of the Evidence Agent, whatever tools and
arguments are requested, handlers run for accepted calls only and at most once for each tool
and its normalized arguments, and identical calls are given the result of the first one. Every
other call neither reads nor writes the cache. -/
theorem tools_run_at_most_once :
    (∀ (agent : AssessmentAgent) (registry : ToolRegistry Args) (request : AssessmentRequest)
      (maxSteps maxToolCalls : ℕ) (initial : AssessmentGraphState),
      initializeAssessmentState request maxSteps maxToolCalls = .ok initial → ∀ n,
      (executionAfter agent registry initial n).log.CollisionFree registry (fun _ => True) →
      (executionAfter agent registry initial n).log.AtMostOnce registry fun _ => True) ∧
    (∀ (agent : OpenAIEvidenceAgent Args) (request : AssessmentRequest),
      (Prog.exec (gather agent request) {}).2.CollisionFree agent.tools
        (· ∈ permissions .evidence) →
      (Prog.exec (gather agent request) {}).2.AtMostOnce agent.tools
        (· ∈ permissions .evidence)) ∧
    (∀ (registry : ToolRegistry Args) (name : Str) (raw : ArgumentObject),
      (∀ d x, ¬ registry.Accepts (fun _ => True) name raw d x) →
      Uncached name raw (registry.execute name raw)) ∧
    ∀ (registry : ToolRegistry Args) (name : Str) (raw : ArgumentObject),
      (∀ d x, ¬ registry.Accepts (· ∈ permissions .evidence) name raw d x) →
      Uncached name raw (executePermitted registry .evidence name raw) := by
  refine ⟨fun agent registry request maxSteps maxToolCalls initial hinitial n hcollision => ?_,
    fun agent request hcollision => ?_, fun registry name raw hrefused => ?_,
    fun registry name raw hrefused => ?_⟩
  · have hcache : initial.toolCache = [] := by
      unfold initializeAssessmentState at hinitial
      split at hinitial
      · cases hinitial
      · cases hinitial
        rfl
    obtain ⟨cache, hrun, -⟩ := called_executionAfter agent registry hcache n
    exact hrun.atMostOnce hcollision
  · obtain ⟨cache, hrun⟩ := gather_callRun agent request
    exact hrun.atMostOnce hcollision
  · exact uncached_execute trivial hrefused
  · exact uncached_executePermitted .evidence hrefused

/-! ## A tool that is requested twice -/

/-- A search request. -/
def policySearch : ArgumentObject :=
  [(("query" : String), .str ("policy" : String)), (("top_k" : String), .int 3)]

/-- The schema of the search arguments on objects with the two fields in order. -/
def validateOrderedSearch : ArgumentObject → Option SearchKnowledgeArguments
  | [(first, .str query), (second, .int topK)] =>
    if h : (first = Str.ofString "query" ∧ second = Str.ofString "top_k") ∧
        Str.ValidWithin 4000 query ∧ 1 ≤ topK.toNat ∧ topK.toNat ≤ 20 then
      some ⟨query, topK.toNat, h.2.1, h.2.2⟩
    else none
  | _ => none

/-- Knowledge tools whose invocations all exceed the time limit. -/
def KnowledgeTools.slow : KnowledgeTools :=
  { KnowledgeTools.empty with
    validateSearch := validateOrderedSearch
    exceedsLimit := fun _ => true }

/-- The digest of the serialized search; other texts stand for themselves. -/
def policyDigest (text : Str) : Str :=
  if text = callText ("search_knowledge" : String) policySearch then
    ("008ab77e61beef80e4045c59e709b7b48348bd57b1b28db33df4bcd388169cfb" : String)
  else text

/-- An agent that requests the search twice. -/
def AssessmentAgent.insistent : AssessmentAgent where
  decide _ _ _ _ step _ := .ok (if step ≤ 2 then
    .tool ⟨("search_knowledge" : String), policySearch, Str.encodable_ofString "search_knowledge",
      AgentToolRequest.searchKnowledge_bounds⟩
    else .synthesize)
  synthesize _ _ _ := .ok
    { executiveSummary := [], risks := [], reviewRecommended := false, informationGaps := [] }

/-- The text of a call begins with a brace. -/
theorem callText_head (name : Str) (arguments : ArgumentObject) :
    (callText name arguments).head? = some 123 := by
  have horder : ¬ Str.ofString "name" ≤ Str.ofString "arguments" := by
    decide +kernel
  simp [callText, Json.dumps, Json.sorted, Json.sortedFields, horder, Json.render]

/-- The digest of the sample tells calls apart. -/
theorem policyDigest_injective {name name' : Str} {arguments arguments' : ArgumentObject}
    (h : policyDigest (callText name arguments) = policyDigest (callText name' arguments')) :
    callText name arguments = callText name' arguments' := by
  have hdigest :
      (Str.ofString "008ab77e61beef80e4045c59e709b7b48348bd57b1b28db33df4bcd388169cfb").head? ≠
        some 123 := by
    decide +kernel
  unfold policyDigest at h
  split at h
  · rename_i hfirst
    split at h
    · rename_i hlater
      rw [hfirst, hlater]
    · rw [h, callText_head] at hdigest
      exact absurd rfl hdigest
  · split at h
    · rw [← h, callText_head] at hdigest
      exact absurd rfl hdigest
    · exact h

/-- An Evidence Agent that requests the search twice. -/
def OpenAIEvidenceAgent.insistent (tools : ToolRegistry Args) : OpenAIEvidenceAgent Args where
  tools
  maxSteps := 5
  maxToolCalls := 5
  decideToolCall _ _ step := .ok (if step ≤ 2 then
    some (("search_knowledge" : String), policySearch) else none)
  generateBrief _ _ := .ok .unavailable

/-- The handler of a search that times out is not run again by either agent, and an unknown
tool is refused without the cache. -/
theorem slow_search_runs_once :
    let registry := KnowledgeTools.slow.registry policyDigest
    let log := (executionAfter .insistent registry
      { request := .minimal, maxSteps := 5, maxToolCalls := 5 } 6).log
    let evidenceLog := (Prog.exec (gather (.insistent registry) .minimal) {}).2
    (log.AtMostOnce registry (fun _ => True) ∧ log.invocations.length = 1 ∧
      log.calls.map (fun call => call.result.cached) = [false, true]) ∧
    (evidenceLog.AtMostOnce registry (· ∈ permissions .evidence) ∧
      evidenceLog.invocations.length = 1 ∧
      evidenceLog.calls.map (fun call => call.result.cached) = [false, true]) ∧
    Uncached ("drop_tables" : String) [] (registry.execute ("drop_tables" : String) []) ∧
    Uncached ("drop_tables" : String) []
      (executePermitted registry .evidence ("drop_tables" : String) []) := by
  intro registry log evidenceLog
  have hunknown : (registry.find ("drop_tables" : String)).isNone = true := by
    decide +kernel
  have hrefused : ∀ allowed d x, ¬ registry.Accepts allowed ("drop_tables" : String) [] d x := by
    intro allowed d x haccepted
    rw [haccepted.find_eq] at hunknown
    cases hunknown
  -- Each run is evaluated once for both of its observations.
  have hlog : (log.invocations.length, log.calls.map fun call => call.result.cached) =
      (1, [false, true]) := by
    decide +kernel
  have hevidence :
      (evidenceLog.invocations.length, evidenceLog.calls.map fun call => call.result.cached) =
        (1, [false, true]) := by
    decide +kernel
  refine ⟨⟨?_, Prod.mk.inj hlog⟩, ⟨?_, Prod.mk.inj hevidence⟩,
    tools_run_at_most_once.2.2.1 registry _ _ (hrefused _),
    tools_run_at_most_once.2.2.2 registry _ _ (hrefused _)⟩
  · exact tools_run_at_most_once.1 .insistent _ .minimal 5 5 _ rfl 6
      fun _ _ _ _ _ _ _ _ _ _ hhash => policyDigest_injective hhash
  · exact tools_run_at_most_once.2.1 (.insistent registry) .minimal
      fun _ _ _ _ _ _ _ _ _ _ hhash => policyDigest_injective hhash

end AssessmentPlatform
