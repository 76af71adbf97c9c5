import AssessmentPlatform.Agents.Constraints
import AssessmentPlatform.Graph.MultiAgent
import AssessmentPlatform.Graph.SingleAgentNodes

/-!
# What the workflows record

The execution metadata that a workflow returns is built from events and texts that were
validated one by one. Every node keeps this property of the state, so the metadata of
every run that returns meets the constraints of its model.
-/

namespace AssessmentPlatform

open Library

/-! ## The single-agent graph -/

/-- A trace event that is created is valid. -/
theorem agentEvent_valid {event event' : AgentTraceEvent} (h : agentEvent event = .ok event') :
    event'.Valid := by
  unfold agentEvent at h
  split at h
  · cases h
    assumption
  · cases h

/-- A state of the single-agent graph whose records meet their constraints. -/
structure AssessmentGraphState.Recorded (state : AssessmentGraphState) : Prop where
  trace : ∀ event ∈ state.trace, event.Valid
  toolHistory : ∀ item ∈ state.toolHistory, item.toolName.encodable = true
  pendingToolName : ∀ name ∈ state.pendingToolName, name.encodable = true
  finalResult : ∀ result ∈ state.finalResult, result.Valid

section SingleAgent

variable {Args : Type} {agent : AssessmentAgent} {tools : ToolRegistry Args}
  {state state' : AssessmentGraphState}

/-- Events that were validated are appended to a trace of such events. -/
theorem AssessmentGraphState.Recorded.append (h : state.Recorded) {events : List AgentTraceEvent}
    (hevents : ∀ event ∈ events, event.Valid) :
    ∀ event ∈ state.trace ++ events, event.Valid := by
  intro event hevent
  rcases List.mem_append.mp hevent with hevent | hevent
  · exact h.trace event hevent
  · exact hevents event hevent

/-- The reasoning node keeps the records of the state. -/
theorem AssessmentGraphState.Recorded.reason (h : state.Recorded)
    (hreason : AssessmentPlatform.reason agent state = .ok state') : state'.Recorded := by
  unfold AssessmentPlatform.reason at hreason
  split at hreason
  · obtain ⟨event, hevent, hreason⟩ := except_bind_eq_ok.mp hreason
    cases hreason
    exact { h with trace := h.append (by simpa using agentEvent_valid hevent) }
  split at hreason
  · obtain ⟨event, hevent, hreason⟩ := except_bind_eq_ok.mp hreason
    cases hreason
    exact { h with trace := h.append (by simpa using agentEvent_valid hevent) }
  obtain ⟨started, hstarted, hreason⟩ := except_bind_eq_ok.mp hreason
  have hvalid := agentEvent_valid hstarted
  obtain ⟨decision, -, hreason⟩ := except_bind_eq_ok.mp hreason
  cases decision with
  | tool request =>
    obtain ⟨requested, hrequested, hreason⟩ := except_bind_eq_ok.mp hreason
    cases hreason
    refine ⟨h.append ?_, h.toolHistory, ?_, h.finalResult⟩
    · simpa using ⟨hvalid, agentEvent_valid hrequested⟩
    · rintro name ⟨⟩
      exact request.name_encodable
  | synthesize | fail =>
    cases hreason
    exact ⟨h.append (by simpa using hvalid), h.toolHistory, by simp [AssessmentGraphState.decided],
      h.finalResult⟩

/-- The tool node keeps the records of the state. -/
theorem AssessmentGraphState.Recorded.executeTool (h : state.Recorded) {log log' : ToolLog Args}
    (hexec : Prog.exec (AssessmentPlatform.executeTool tools state) log = (.ok state', log')) :
    state'.Recorded := by
  unfold AssessmentPlatform.executeTool at hexec
  rw [Prog.exec_bind] at hexec
  generalize Prog.exec (tools.execute _ _ _) log = call at hexec
  rcases call with ⟨e | answer, log₁⟩
  · cases hexec
  dsimp only at hexec
  cases hevent : agentEvent (state.toolEvent (state.pendingToolName.getD []) answer.result) with
  | error e =>
    rw [hevent] at hexec
    cases hexec
  | ok event =>
    rw [hevent] at hexec
    cases hexec
    refine ⟨h.append (by simpa using agentEvent_valid hevent), ?_,
      by simp [AssessmentGraphState.observed], h.finalResult⟩
    intro item hitem
    rcases List.mem_append.mp hitem with hitem | hitem
    · exact h.toolHistory item hitem
    · rw [List.mem_singleton.mp hitem]
      change (state.pendingToolName.getD []).encodable = true
      cases hname : state.pendingToolName with
      | none => rfl
      | some name => exact h.pendingToolName name hname

/-- The synthesis node keeps the records of the state. -/
theorem AssessmentGraphState.Recorded.synthesize (h : state.Recorded)
    (hagent : ∀ request evidence documents result,
      agent.synthesize request evidence documents = .ok result → result.Valid)
    (hsynthesize : AssessmentPlatform.synthesize agent state = .ok state') : state'.Recorded := by
  obtain ⟨started, hstarted, hsynthesize⟩ := except_bind_eq_ok.mp hsynthesize
  obtain ⟨result, hresult, hsynthesize⟩ := except_bind_eq_ok.mp hsynthesize
  obtain ⟨completed, hcompleted, hsynthesize⟩ := except_bind_eq_ok.mp hsynthesize
  cases hsynthesize
  refine ⟨h.append ?_, h.toolHistory, h.pendingToolName, ?_⟩
  · simpa using ⟨agentEvent_valid hstarted, agentEvent_valid hcompleted⟩
  · rintro _ ⟨⟩
    exact hagent _ _ _ _ hresult

/-- The failure node keeps the records of the state. -/
theorem AssessmentGraphState.Recorded.fail (h : state.Recorded)
    (hfail : AssessmentPlatform.fail state = .ok state') : state'.Recorded := by
  obtain ⟨event, hevent, hfail⟩ := except_bind_eq_ok.mp hfail
  cases hfail
  exact { h with trace := h.append (by simpa using agentEvent_valid hevent) }

/-- One step of the engine keeps the records valid. -/
theorem AssessmentGraphState.Recorded.advance {execution : GraphExecution Args}
    (h : execution.state.Recorded)
    (hagent : ∀ request evidence documents result,
      agent.synthesize request evidence documents = .ok result → result.Valid) :
    (execution.advance agent tools).state.Recorded := by
  cases hstatus : execution.status with
  | ended => rwa [execution.advance_of_ended agent tools hstatus]
  | raised e => rwa [execution.advance_of_raised agent tools hstatus]
  | next node =>
    rw [execution.advance_of_next agent tools hstatus]
    cases hexec : Prog.exec (node.run agent tools execution.state) execution.log with
    | mk outcome log =>
    cases outcome with
    | error e => exact h
    | ok state =>
      cases node with
      | reason =>
        cases hnode : AssessmentPlatform.reason agent execution.state with
        | error e => simp [GraphNode.run, hnode, logless] at hexec
        | ok state₁ =>
          simp only [GraphNode.run, hnode, logless, Prog.exec_pure, Prod.mk.injEq,
            Except.ok.injEq] at hexec
          exact hexec.1 ▸ h.reason hnode
      | executeTool => exact h.executeTool hexec
      | synthesize =>
        cases hnode : AssessmentPlatform.synthesize agent execution.state with
        | error e => simp [GraphNode.run, hnode, logless] at hexec
        | ok state₁ =>
          simp only [GraphNode.run, hnode, logless, Prog.exec_pure, Prod.mk.injEq,
            Except.ok.injEq] at hexec
          exact hexec.1 ▸ h.synthesize hagent hnode
      | fail =>
        cases hnode : AssessmentPlatform.fail execution.state with
        | error e => simp [GraphNode.run, hnode, logless] at hexec
        | ok state₁ =>
          simp only [GraphNode.run, hnode, logless, Prog.exec_pure, Prod.mk.injEq,
            Except.ok.injEq] at hexec
          exact hexec.1 ▸ h.fail hnode

/-- The metadata of every single-agent run meets its constraints. -/
theorem AgenticAssessmentWorkflow.run_valid {workflow : AgenticAssessmentWorkflow Args}
    (hagent : ∀ request evidence documents result,
      workflow.agent.synthesize request evidence documents = .ok result → result.Valid)
    {request : AssessmentRequest} {output : AgentWorkflowOutput AssessmentExecutionMetadata}
    (h : workflow.run request = .ok output) : output.result.Valid ∧ output.execution.Valid := by
  obtain ⟨initial, hinitial, h⟩ := except_bind_eq_ok.mp h
  obtain ⟨state, hinvoke, h⟩ := except_bind_eq_ok.mp h
  have hstart : initial.Recorded := by
    unfold initializeAssessmentState at hinitial
    split at hinitial
    · cases hinitial
    · cases hinitial
      exact ⟨by simp, by simp, by simp, by simp⟩
  have hafter : ∀ n, (executionAfter workflow.agent workflow.tools initial n).state.Recorded := by
    intro n
    induction n with
    | zero => exact hstart
    | succ n ih => exact ih.advance hagent
  have hstate : state.Recorded := by
    unfold AgenticAssessmentWorkflow.invoke at hinvoke
    dsimp only at hinvoke
    split at hinvoke
    · cases hinvoke
      exact hafter _
    · cases hinvoke
    · cases hinvoke
  unfold AssessmentGraphState.workflowResult at h
  split at h
  · rename_i result reason hresult _ _
    cases h
    refine ⟨hstate.finalResult result hresult, ⟨by simp, by simp, by simp, by simp⟩, ?_,
      hstate.trace⟩
    intro name hname
    obtain ⟨item, hitem, rfl⟩ := List.mem_map.mp (List.mem_eraseDups.mp hname)
    exact hstate.toolHistory item hitem
  · cases h

end SingleAgent

/-! ## The multi-agent graph -/

/-- A trace event of the multi-agent graph that is created is valid. -/
theorem traceEvent_valid {agent : Option MultiAgentName} {eventType : MultiAgentTraceEventType}
    {summary : Str} {toolName errorCode : Option Str} {event : MultiAgentTraceEvent}
    (h : traceEvent agent eventType summary toolName errorCode = .ok event) : event.Valid := by
  unfold traceEvent MultiAgentTraceEvent.create at h
  split at h
  · rename_i haccepts
    cases h
    refine ⟨haccepts.1.1, fun name hname => ?_, fun code hcode => ?_⟩
    · obtain ⟨s, hs, rfl⟩ := Option.map_eq_some_iff.mp hname
      exact (haccepts.2.1 s hs).1
    · obtain ⟨s, hs, rfl⟩ := Option.map_eq_some_iff.mp hcode
      exact (haccepts.2.2 s hs).1
  · cases h

/-- The events of a tool history, whose entries were validated with them. -/
theorem toolEvents_valid {history : List ToolHistoryEntry} {events : List MultiAgentTraceEvent}
    (h : toolEvents history = .ok events) :
    (∀ event ∈ events, event.Valid) ∧ ∀ item ∈ history, item.toolName.encodable = true := by
  induction history generalizing events with
  | nil =>
    cases h
    simp
  | cons item rest ih =>
    obtain ⟨event, hevent, h⟩ := except_bind_eq_ok.mp h
    obtain ⟨later, hlater, h⟩ := except_bind_eq_ok.mp h
    cases h
    obtain ⟨hevents, hitems⟩ := ih hlater
    have hname : item.toolName.encodable = true := by
      unfold toolEvent traceEvent MultiAgentTraceEvent.create at hevent
      split at hevent
      · rename_i haccepts
        exact Str.encodable_of_trim (haccepts.2.1 _ rfl).1.1
      · cases hevent
    exact ⟨List.forall_mem_cons.mpr ⟨traceEvent_valid hevent, hevents⟩,
      List.forall_mem_cons.mpr ⟨hname, hitems⟩⟩

/-- A state of the multi-agent graph whose records meet their constraints. -/
structure MultiAgentGraphState.Recorded (state : MultiAgentGraphState) : Prop where
  initializationTrace : ∀ event ∈ state.initializationTrace, event.Valid
  evidenceTrace : ∀ event ∈ state.evidenceTrace, event.Valid
  architectureTrace : ∀ event ∈ state.architectureTrace, event.Valid
  riskGovernanceTrace : ∀ event ∈ state.riskGovernanceTrace, event.Valid
  synthesisTrace : ∀ event ∈ state.synthesisTrace, event.Valid
  toolHistory : ∀ item ∈ state.toolHistory, item.toolName.encodable = true
  graphRetrieval : ∀ record ∈ state.graphRetrieval, record.Valid
  finalResult : ∀ result ∈ state.finalResult, result.Valid

/-- The specialists return validated instances. -/
structure Specialists.Validated (agents : Specialists) : Prop where
  gather : ∀ request outcome, agents.gather request = .ok outcome →
    ∀ record ∈ outcome.graphRetrieval, record.Valid
  synthesize : ∀ request brief architecture review reasons result,
    agents.synthesize request brief architecture review reasons = .ok result → result.Valid

section MultiAgent

variable {agents : Specialists} {state s : MultiAgentGraphState} {update : NodeUpdate}

/-- The initialization keeps the records of the state. -/
theorem MultiAgentGraphState.Recorded.started (h : s.Recorded)
    (hnode : initializeNode = .ok update) : (update s).Recorded := by
  obtain ⟨started, hstarted, hnode⟩ := except_bind_eq_ok.mp hnode
  cases hnode
  exact { h with initializationTrace := by simpa using traceEvent_valid hstarted }

/-- The evidence node keeps the records of the state. -/
theorem MultiAgentGraphState.Recorded.evidence (h : s.Recorded) (hagents : agents.Validated)
    (hnode : evidenceNode agents state = .ok update) : (update s).Recorded := by
  obtain ⟨started, hstarted, hnode⟩ := except_bind_eq_ok.mp hnode
  have hvalid := traceEvent_valid hstarted
  cases hgather : agents.gather state.request with
  | error e =>
    rw [hgather] at hnode
    obtain ⟨failed, hfailed, hnode⟩ := except_bind_eq_ok.mp hnode
    obtain ⟨degraded, hdegraded, hnode⟩ := except_bind_eq_ok.mp hnode
    cases hnode
    refine { h with evidenceTrace := ?_ }
    simpa using ⟨hvalid, traceEvent_valid hfailed, traceEvent_valid hdegraded⟩
  | ok outcome =>
    rw [hgather] at hnode
    obtain ⟨tools, htools, hnode⟩ := except_bind_eq_ok.mp hnode
    obtain ⟨completed, hcompleted, hnode⟩ := except_bind_eq_ok.mp hnode
    cases hnode
    obtain ⟨hevents, hitems⟩ := toolEvents_valid htools
    refine { h with
      evidenceTrace := ?_
      toolHistory := hitems
      graphRetrieval := hagents.gather _ _ hgather }
    intro event hevent
    simp only [List.cons_append, List.mem_cons, List.mem_append, List.not_mem_nil, or_false]
      at hevent
    rcases hevent with rfl | hevent | rfl
    · exact hvalid
    · exact hevents event hevent
    · exact traceEvent_valid hcompleted

/-- The architecture node keeps the records of the state. -/
theorem MultiAgentGraphState.Recorded.architecture (h : s.Recorded)
    (hnode : architectureNode agents state = .ok update) : (update s).Recorded := by
  obtain ⟨started, hstarted, hnode⟩ := except_bind_eq_ok.mp hnode
  have hvalid := traceEvent_valid hstarted
  cases hanalyze : agents.analyze state.request state.brief with
  | error e =>
    rw [hanalyze] at hnode
    obtain ⟨failed, hfailed, hnode⟩ := except_bind_eq_ok.mp hnode
    cases hnode
    exact { h with architectureTrace := by simpa using ⟨hvalid, traceEvent_valid hfailed⟩ }
  | ok recommendation =>
    rw [hanalyze] at hnode
    obtain ⟨completed, hcompleted, hnode⟩ := except_bind_eq_ok.mp hnode
    cases hnode
    exact { h with architectureTrace := by simpa using ⟨hvalid, traceEvent_valid hcompleted⟩ }

/-- The governance node keeps the records of the state. -/
theorem MultiAgentGraphState.Recorded.riskGovernance (h : s.Recorded)
    (hnode : riskGovernanceNode agents state = .ok update) : (update s).Recorded := by
  obtain ⟨started, hstarted, hnode⟩ := except_bind_eq_ok.mp hnode
  have hvalid := traceEvent_valid hstarted
  cases hreview : agents.review state.request state.brief with
  | error e =>
    rw [hreview] at hnode
    obtain ⟨failed, hfailed, hnode⟩ := except_bind_eq_ok.mp hnode
    cases hnode
    exact { h with riskGovernanceTrace := by simpa using ⟨hvalid, traceEvent_valid hfailed⟩ }
  | ok review =>
    rw [hreview] at hnode
    obtain ⟨completed, hcompleted, hnode⟩ := except_bind_eq_ok.mp hnode
    cases hnode
    exact { h with riskGovernanceTrace := by simpa using ⟨hvalid, traceEvent_valid hcompleted⟩ }

/-- No degradation reason has white space at its ends. -/
theorem degradationReasons_valid {reason : Str} (h : reason ∈ degradationReasons state) :
    reason.Valid := by
  simp only [degradationReasons, List.mem_append, List.mem_ite_nil_right, List.mem_singleton] at h
  rcases h with (⟨-, rfl⟩ | ⟨-, rfl⟩) | ⟨-, rfl⟩
  · exact Str.valid_ofList _ (by decide +kernel)
  · exact Str.valid_ofList _ (by decide +kernel)
  · exact Str.valid_ofList _ (by decide +kernel)

/-- A limitation can be encoded if its reason can. -/
theorem limitation_encodable {reason : Str} (h : reason.encodable = true) :
    (limitation reason).encodable = true := by
  unfold limitation
  rw [Str.encodable_append, h, Bool.and_true]
  exact Str.encodable_map_ofChar _

/-- The synthesis node keeps the records of the state. -/
theorem MultiAgentGraphState.Recorded.synthesis (h : s.Recorded) (hagents : agents.Validated)
    (hnode : synthesizeNode agents state = .ok update) : (update s).Recorded := by
  unfold synthesizeNode at hnode
  split at hnode
  · cases hnode
  obtain ⟨started, hstarted, hnode⟩ := except_bind_eq_ok.mp hnode
  obtain ⟨result, hresult, hnode⟩ := except_bind_eq_ok.mp hnode
  obtain ⟨completed, hcompleted, hnode⟩ := except_bind_eq_ok.mp hnode
  cases hnode
  have hvalid := hagents.synthesize _ _ _ _ _ _ hresult
  refine { h with
    synthesisTrace := by simpa using ⟨traceEvent_valid hstarted, traceEvent_valid hcompleted⟩
    finalResult := ?_ }
  rintro _ ⟨⟩
  refine { hvalid with informationGaps := fun gap hgap => ?_ }
  rcases List.mem_append.mp hgap with hgap | hgap
  · exact hvalid.informationGaps gap hgap
  · obtain ⟨reason, hreason, rfl⟩ := List.mem_map.mp hgap
    exact limitation_encodable (degradationReasons_valid hreason).1

/-- The record of the errors that is created is valid. -/
theorem MultiAgentErrors.create_valid {evidence architecture riskGovernance synthesis : Option Str}
    {errors : MultiAgentErrors}
    (h : MultiAgentErrors.create evidence architecture riskGovernance synthesis = .ok errors) :
    errors.Valid := by
  unfold MultiAgentErrors.create at h
  split at h
  · rename_i hfits
    cases h
    have hcode : ∀ field ∈ [evidence, architecture, riskGovernance, synthesis],
        ∀ code ∈ field.map Str.trim, code.ValidUpTo 100 := by
      intro field hfield code hcode
      obtain ⟨s, hs, rfl⟩ := Option.map_eq_some_iff.mp hcode
      exact hfits field hfield s hs
    simpa [MultiAgentErrors.Valid] using hcode
  · cases h

/-- The trace of the converged branches holds valid events. -/
theorem MultiAgentGraphState.Recorded.convergedTrace (h : state.Recorded)
    {completed : MultiAgentTraceEvent} (hcompleted : completed.Valid) :
    ∀ event ∈ state.convergedTrace completed, event.Valid := by
  intro event hevent
  simp only [MultiAgentGraphState.convergedTrace, List.mem_append, List.mem_singleton] at hevent
  rcases hevent with ((((hevent | hevent) | hevent) | hevent) | hevent) | rfl
  · exact h.initializationTrace event hevent
  · exact h.evidenceTrace event hevent
  · exact h.architectureTrace event hevent
  · exact h.riskGovernanceTrace event hevent
  · exact h.synthesisTrace event hevent
  · exact hcompleted

/-- The validation builds metadata that meets its constraints. -/
theorem MultiAgentGraphState.Recorded.validate (h : state.Recorded)
    (hnode : validateNode state = .ok update) :
    (∀ result ∈ (update s).finalResult, result.Valid) ∧
      ∀ execution ∈ (update s).execution, execution.Valid := by
  unfold validateNode at hnode
  split at hnode
  · cases hnode
  rename_i result hresult
  obtain ⟨completed, hcompleted, hnode⟩ := except_bind_eq_ok.mp hnode
  obtain ⟨errors, herrors, hnode⟩ := except_bind_eq_ok.mp hnode
  cases hnode
  refine ⟨?_, ?_⟩
  · rintro _ ⟨⟩
    exact h.finalResult result hresult
  · rintro _ ⟨⟩
    refine ⟨⟨by simp [MultiAgentGraphState.metadata], by simp [MultiAgentGraphState.metadata],
      by simp [MultiAgentGraphState.metadata], h.graphRetrieval⟩,
      MultiAgentErrors.create_valid herrors, ?_, ?_, ?_⟩
    · intro name hname
      obtain ⟨raw, hraw, rfl⟩ := List.mem_map.mp hname
      obtain ⟨item, hitem, rfl⟩ := List.mem_map.mp (List.mem_eraseDups.mp hraw)
      exact Str.valid_trim (h.toolHistory item hitem)
    · intro reason hreason
      obtain ⟨raw, hraw, rfl⟩ := List.mem_map.mp hreason
      exact Str.valid_trim (degradationReasons_valid hraw).1
    · intro event hevent
      obtain ⟨i, hi, rfl⟩ := List.mem_mapIdx.mp hevent
      have hvalid := h.convergedTrace (traceEvent_valid hcompleted) _ (List.getElem_mem hi)
      exact ⟨hvalid.summary, hvalid.toolName, hvalid.errorCode⟩

/-- The result and the metadata of every multi-agent run meet their constraints. -/
theorem runMultiAgent_valid (hagents : agents.Validated) {maxFailures : ℤ}
    {request : AssessmentRequest} {output : AgentWorkflowOutput MultiAgentExecutionMetadata}
    (h : runMultiAgent agents maxFailures request = .ok output) :
    output.result.Valid ∧ output.execution.Valid := by
  unfold runMultiAgent at h
  split at h
  · cases h
  · cases h
  rename_i final hinvoke
  have hstart : MultiAgentGraphState.Recorded { request, maxFailures } :=
    ⟨by simp, by simp, by simp, by simp, by simp, by simp, by simp, by simp⟩
  obtain ⟨initialized, hinitialized, hinvoke⟩ := except_bind_eq_ok.mp hinvoke
  obtain ⟨gathered, hgathered, hinvoke⟩ := except_bind_eq_ok.mp hinvoke
  obtain ⟨analyzed, hanalyzed, hinvoke⟩ := except_bind_eq_ok.mp hinvoke
  obtain ⟨reviewed, hreviewed, hinvoke⟩ := except_bind_eq_ok.mp hinvoke
  obtain ⟨synthesized, hsynthesized, hinvoke⟩ := except_bind_eq_ok.mp hinvoke
  obtain ⟨validated, hvalidated, hinvoke⟩ := except_bind_eq_ok.mp hinvoke
  have hrecorded := ((((hstart.started hinitialized).evidence hagents hgathered).architecture
    hanalyzed).riskGovernance hreviewed).synthesis hagents hsynthesized
  cases hinvoke
  split at h
  · rename_i result execution hresult hexecution
    cases h
    exact ⟨(hrecorded.validate hvalidated).1 _ hresult,
      (hrecorded.validate hvalidated).2 _ hexecution⟩
  · cases h

end MultiAgent

end AssessmentPlatform
