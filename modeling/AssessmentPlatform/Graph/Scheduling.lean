import AssessmentPlatform.Graph.Containment
import Mathlib.Data.Fintype.Basic
import Mathlib.Data.Set.BooleanAlgebra
import Mathlib.Logic.Relation
import Mathlib.Order.CompletePartialOrder

/-!
# Scheduling of the multi-agent graph

The graph as the engine runs it: a node becomes ready when all of its predecessors are done, and
the two branches may run in either order or in one step in which both read the same state. The
branches write different keys and read none that the other one writes, so every schedule
computes what the invocation of the graph computes, and the synthesis follows both branches.
-/

namespace AssessmentPlatform

open Library

/-! ## Keys of the state -/

/-- The keys of the state. -/
inductive StateKey where
  | request | maxFailures | evidenceBrief | retrievedEvidence | observedDocuments | toolHistory
  | evidenceStepsUsed | evidenceTerminationReason | graphRetrieval | architectureRecommendation
  | riskGovernanceReview | finalResult | execution | evidenceStatus | architectureStatus
  | riskGovernanceStatus | synthesisStatus | evidenceError | architectureError
  | riskGovernanceError | synthesisError | evidenceDurationMs | architectureDurationMs
  | riskGovernanceDurationMs | synthesisDurationMs | initializationTrace | evidenceTrace
  | architectureTrace | riskGovernanceTrace | synthesisTrace | validationTrace
  deriving DecidableEq

/-- Two states hold the same value under a key. -/
def StateKey.Same (s t : MultiAgentGraphState) : StateKey → Prop
  | .request => s.request = t.request
  | .maxFailures => s.maxFailures = t.maxFailures
  | .evidenceBrief => s.evidenceBrief = t.evidenceBrief
  | .retrievedEvidence => s.retrievedEvidence = t.retrievedEvidence
  | .observedDocuments => s.observedDocuments = t.observedDocuments
  | .toolHistory => s.toolHistory = t.toolHistory
  | .evidenceStepsUsed => s.evidenceStepsUsed = t.evidenceStepsUsed
  | .evidenceTerminationReason => s.evidenceTerminationReason = t.evidenceTerminationReason
  | .graphRetrieval => s.graphRetrieval = t.graphRetrieval
  | .architectureRecommendation => s.architectureRecommendation = t.architectureRecommendation
  | .riskGovernanceReview => s.riskGovernanceReview = t.riskGovernanceReview
  | .finalResult => s.finalResult = t.finalResult
  | .execution => s.execution = t.execution
  | .evidenceStatus => s.evidenceStatus = t.evidenceStatus
  | .architectureStatus => s.architectureStatus = t.architectureStatus
  | .riskGovernanceStatus => s.riskGovernanceStatus = t.riskGovernanceStatus
  | .synthesisStatus => s.synthesisStatus = t.synthesisStatus
  | .evidenceError => s.evidenceError = t.evidenceError
  | .architectureError => s.architectureError = t.architectureError
  | .riskGovernanceError => s.riskGovernanceError = t.riskGovernanceError
  | .synthesisError => s.synthesisError = t.synthesisError
  | .evidenceDurationMs => s.evidenceDurationMs = t.evidenceDurationMs
  | .architectureDurationMs => s.architectureDurationMs = t.architectureDurationMs
  | .riskGovernanceDurationMs => s.riskGovernanceDurationMs = t.riskGovernanceDurationMs
  | .synthesisDurationMs => s.synthesisDurationMs = t.synthesisDurationMs
  | .initializationTrace => s.initializationTrace = t.initializationTrace
  | .evidenceTrace => s.evidenceTrace = t.evidenceTrace
  | .architectureTrace => s.architectureTrace = t.architectureTrace
  | .riskGovernanceTrace => s.riskGovernanceTrace = t.riskGovernanceTrace
  | .synthesisTrace => s.synthesisTrace = t.synthesisTrace
  | .validationTrace => s.validationTrace = t.validationTrace

/-- The keys that an update writes. -/
def writes (update : NodeUpdate) : Set StateKey := {key | ∃ s, ¬ key.Same s (update s)}

/-- The keys of the architecture branch. -/
def architectureKeys : List StateKey :=
  [.architectureRecommendation, .architectureStatus, .architectureError, .architectureDurationMs,
    .architectureTrace]

/-- The keys of the risk and governance branch. -/
def riskGovernanceKeys : List StateKey :=
  [.riskGovernanceReview, .riskGovernanceStatus, .riskGovernanceError, .riskGovernanceDurationMs,
    .riskGovernanceTrace]

/-! ## Branches -/

section Branches

variable (agents : Specialists) {state : MultiAgentGraphState} {analyzed reviewed : NodeUpdate}

/-- The architecture branch reads the request and the brief only. -/
theorem architectureNode_congr {s t : MultiAgentGraphState} (hrequest : s.request = t.request)
    (hbrief : s.brief = t.brief) : architectureNode agents s = architectureNode agents t := by
  unfold architectureNode
  rw [hrequest, hbrief]

/-- The risk and governance branch reads the request and the brief only. -/
theorem riskGovernanceNode_congr {s t : MultiAgentGraphState} (hrequest : s.request = t.request)
    (hbrief : s.brief = t.brief) : riskGovernanceNode agents s = riskGovernanceNode agents t := by
  unfold riskGovernanceNode
  rw [hrequest, hbrief]

/-- What the two branches do to each other: they write different keys, neither reads what the
other one writes, and their updates commute. -/
structure Independent (state : MultiAgentGraphState) (analyzed reviewed : NodeUpdate) : Prop where
  disjoint : Disjoint (writes analyzed) (writes reviewed)
  analyzed_unread : riskGovernanceNode agents (analyzed state) = riskGovernanceNode agents state
  reviewed_unread : architectureNode agents (reviewed state) = architectureNode agents state
  commute : ∀ s, reviewed (analyzed s) = analyzed (reviewed s)

/-- The architecture node writes its own keys. -/
theorem writes_analyzed (h : architectureNode agents state = .ok analyzed) {key : StateKey}
    (hkey : key ∈ writes analyzed) : key ∈ architectureKeys := by
  obtain ⟨trace, hnode⟩ := architectureNode_eq agents state
  obtain rfl := Except.ok.inj (h.symm.trans hnode)
  obtain ⟨s, hs⟩ := hkey
  by_contra hother
  cases key <;> first | exact hs rfl | exact hother (by decide)

/-- The governance node writes its own keys. -/
theorem writes_reviewed (h : riskGovernanceNode agents state = .ok reviewed) {key : StateKey}
    (hkey : key ∈ writes reviewed) : key ∈ riskGovernanceKeys := by
  obtain ⟨trace, hnode⟩ := riskGovernanceNode_eq agents state
  obtain rfl := Except.ok.inj (h.symm.trans hnode)
  obtain ⟨s, hs⟩ := hkey
  by_contra hother
  cases key <;> first | exact hs rfl | exact hother (by decide)

/-- The branches are independent, whatever their specialists return. -/
theorem branches_independent (hanalyzed : architectureNode agents state = .ok analyzed)
    (hreviewed : riskGovernanceNode agents state = .ok reviewed) :
    Independent agents state analyzed reviewed := by
  refine ⟨?_, ?_, ?_, ?_⟩
  · rw [Set.disjoint_left]
    intro key hkey hkey'
    have harchitecture := writes_analyzed agents hanalyzed hkey
    have hrisk := writes_reviewed agents hreviewed hkey'
    have hkeys : ∀ key ∈ architectureKeys, key ∉ riskGovernanceKeys := by
      decide
    exact hkeys key harchitecture hrisk
  · obtain ⟨trace, hnode⟩ := architectureNode_eq agents state
    obtain rfl := Except.ok.inj (hanalyzed.symm.trans hnode)
    exact riskGovernanceNode_congr agents rfl rfl
  · obtain ⟨trace, hnode⟩ := riskGovernanceNode_eq agents state
    obtain rfl := Except.ok.inj (hreviewed.symm.trans hnode)
    exact architectureNode_congr agents rfl rfl
  · obtain ⟨trace, hnode⟩ := architectureNode_eq agents state
    obtain ⟨trace', hnode'⟩ := riskGovernanceNode_eq agents state
    obtain rfl := Except.ok.inj (hanalyzed.symm.trans hnode)
    obtain rfl := Except.ok.inj (hreviewed.symm.trans hnode')
    exact fun s => rfl

/-- Neither branch raises. -/
theorem branches_return (state : MultiAgentGraphState) : ∃ analyzed reviewed,
    architectureNode agents state = .ok analyzed ∧
      riskGovernanceNode agents state = .ok reviewed := by
  obtain ⟨trace, hanalyzed⟩ := architectureNode_eq agents state
  obtain ⟨trace', hreviewed⟩ := riskGovernanceNode_eq agents state
  exact ⟨_, _, hanalyzed, hreviewed⟩

end Branches

/-! ## Schedules -/

/-- The nodes of the graph. -/
inductive MultiAgentNode where
  | initialization | evidence | architecture | riskGovernance | synthesis | validate
  deriving DecidableEq

instance : Fintype MultiAgentNode where
  elems := {.initialization, .evidence, .architecture, .riskGovernance, .synthesis, .validate}
  complete node := by cases node <;> decide

/-- The edges of `build_multi_agent_graph`: the nodes that a node waits for. -/
def MultiAgentNode.predecessors : MultiAgentNode → List MultiAgentNode
  | .initialization => []
  | .evidence => [.initialization]
  | .architecture => [.evidence]
  | .riskGovernance => [.evidence]
  | .synthesis => [.architecture, .riskGovernance]
  | .validate => [.synthesis]

/-- A node that has not run and waits for nothing. -/
def MultiAgentNode.Ready (executed : List MultiAgentNode) (node : MultiAgentNode) : Prop :=
  node ∉ executed ∧ ∀ predecessor ∈ node.predecessors, predecessor ∈ executed

instance (executed : List MultiAgentNode) (node : MultiAgentNode) :
    Decidable (node.Ready executed) :=
  inferInstanceAs (Decidable (_ ∧ _))

section Schedules

variable (agents : Specialists)

/-- The update that a node returns in a state. -/
def MultiAgentNode.update (state : MultiAgentGraphState) :
    MultiAgentNode → Except Failure NodeUpdate
  | .initialization => initializeNode
  | .evidence => evidenceNode agents state
  | .architecture => architectureNode agents state
  | .riskGovernance => riskGovernanceNode agents state
  | .synthesis => synthesizeNode agents state
  | .validate => validateNode state

/-- An execution of the graph: the nodes that ran, and the state or the exception that the last
one left. -/
structure MultiAgentExecution where
  executed : List MultiAgentNode
  outcome : Except Failure MultiAgentGraphState

/-- One step of the engine. -/
inductive ScheduleStep : MultiAgentExecution → MultiAgentExecution → Prop
  /-- A ready node runs on the current state. -/
  | node {executed : List MultiAgentNode} {state : MultiAgentGraphState} {node : MultiAgentNode}
    (hready : node.Ready executed) :
    ScheduleStep ⟨executed, .ok state⟩
      ⟨executed ++ [node], (node.update agents state).map fun update => update state⟩
  /-- Both branches run on the same state, and the update of the architecture branch is
  applied first. -/
  | architectureFirst {executed : List MultiAgentNode} {state : MultiAgentGraphState}
    {analyzed reviewed : NodeUpdate} (harchitecture : MultiAgentNode.architecture.Ready executed)
    (hrisk : MultiAgentNode.riskGovernance.Ready executed)
    (hanalyzed : architectureNode agents state = .ok analyzed)
    (hreviewed : riskGovernanceNode agents state = .ok reviewed) :
    ScheduleStep ⟨executed, .ok state⟩
      ⟨executed ++ [.architecture, .riskGovernance], .ok (reviewed (analyzed state))⟩
  /-- Both branches run on the same state, and the update of the other branch is applied
  first. -/
  | riskGovernanceFirst {executed : List MultiAgentNode} {state : MultiAgentGraphState}
    {analyzed reviewed : NodeUpdate} (harchitecture : MultiAgentNode.architecture.Ready executed)
    (hrisk : MultiAgentNode.riskGovernance.Ready executed)
    (hanalyzed : architectureNode agents state = .ok analyzed)
    (hreviewed : riskGovernanceNode agents state = .ok reviewed) :
    ScheduleStep ⟨executed, .ok state⟩
      ⟨executed ++ [.riskGovernance, .architecture], .ok (analyzed (reviewed state))⟩

/-- The executions that some schedule of the engine reaches from a state. -/
def Scheduled (start : MultiAgentGraphState) (execution : MultiAgentExecution) : Prop :=
  Relation.ReflTransGen (ScheduleStep agents) ⟨[], .ok start⟩ execution

/-- An execution that the engine does not continue: a node has raised, or none is ready. -/
def MultiAgentExecution.Finished (execution : MultiAgentExecution) : Prop :=
  (∃ e, execution.outcome = .error e) ∨ ∀ node : MultiAgentNode, ¬ node.Ready execution.executed

/-- The nodes of a list, one after the other. -/
def replay (state : MultiAgentGraphState) :
    List MultiAgentNode → Except Failure MultiAgentGraphState
  | [] => .ok state
  | node :: rest => do
    let update ← node.update agents state
    replay (update state) rest

variable {agents} {start : MultiAgentGraphState} {execution : MultiAgentExecution}

/-- Nodes are replayed one after the other. -/
theorem replay_append (state : MultiAgentGraphState) (before after : List MultiAgentNode) :
    replay agents state (before ++ after) =
      replay agents state before >>= fun state' => replay agents state' after := by
  induction before generalizing state with
  | nil => rfl
  | cons node before ih =>
    rw [List.cons_append, replay, replay]
    cases node.update agents state with
    | error e => rfl
    | ok update => exact ih (update state)

/-- One step runs its nodes one after the other. -/
theorem ScheduleStep.replay_eq {next : MultiAgentExecution}
    (hstep : ScheduleStep agents execution next)
    (h : replay agents start execution.executed = execution.outcome) :
    replay agents start next.executed = next.outcome := by
  cases hstep with
  | @node executed state node hready =>
    dsimp only at h ⊢
    rw [replay_append, h, except_ok_bind, replay]
    cases node.update agents state <;> rfl
  | @architectureFirst executed state analyzed reviewed _ _ hanalyzed hreviewed =>
    have hindependent := branches_independent agents hanalyzed hreviewed
    dsimp only at h ⊢
    rw [replay_append, h, except_ok_bind, replay, MultiAgentNode.update, hanalyzed, except_ok_bind,
      replay, MultiAgentNode.update, hindependent.analyzed_unread, hreviewed]
    rfl
  | @riskGovernanceFirst executed state analyzed reviewed _ _ hanalyzed hreviewed =>
    have hindependent := branches_independent agents hanalyzed hreviewed
    dsimp only at h ⊢
    rw [replay_append, h, except_ok_bind, replay, MultiAgentNode.update, hreviewed, except_ok_bind,
      replay, MultiAgentNode.update, hindependent.reviewed_unread, hanalyzed]
    rfl

/-- Every schedule is a sequence of nodes that each read what the former ones wrote. -/
theorem Scheduled.replay_eq (h : Scheduled agents start execution) :
    replay agents start execution.executed = execution.outcome := by
  induction h with
  | refl => rfl
  | tail _ hstep ih => exact hstep.replay_eq ih

/-- The two orders in which the nodes can run. -/
def nodeOrders : List (List MultiAgentNode) :=
  [[.initialization, .evidence, .architecture, .riskGovernance, .synthesis, .validate],
    [.initialization, .evidence, .riskGovernance, .architecture, .synthesis, .validate]]

/-- The places that a schedule can reach. -/
def Places : List (List MultiAgentNode) := nodeOrders.flatMap List.inits

/-- A ready node leads to a place that a schedule can reach. -/
theorem ready_mem_places : ∀ executed ∈ Places, ∀ node : MultiAgentNode, node.Ready executed →
    executed ++ [node] ∈ Places := by
  decide

/-- The two branches lead to such a place in both orders. -/
theorem both_ready_mem_places : ∀ executed ∈ Places,
    MultiAgentNode.architecture.Ready executed → MultiAgentNode.riskGovernance.Ready executed →
    executed ++ [.architecture, .riskGovernance] ∈ Places ∧
      executed ++ [.riskGovernance, .architecture] ∈ Places := by
  decide

/-- The nodes of a schedule are a prefix of one of the two orders. -/
theorem Scheduled.mem_places (h : Scheduled agents start execution) :
    execution.executed ∈ Places := by
  induction h with
  | refl => exact (by decide : [] ∈ Places)
  | tail _ hstep ih =>
    cases hstep with
    | node hready => exact ready_mem_places _ ih _ hready
    | architectureFirst harchitecture hrisk =>
      exact (both_ready_mem_places _ ih harchitecture hrisk).1
    | riskGovernanceFirst harchitecture hrisk =>
      exact (both_ready_mem_places _ ih harchitecture hrisk).2

variable (agents) in
/-- The graph after the evidence stage. -/
def convergeGraph (state : MultiAgentGraphState) : Except Failure MultiAgentGraphState := do
  let analyzed ← architectureNode agents state
  let reviewed ← riskGovernanceNode agents state
  finishGraph agents (reviewed (analyzed state))

/-- The graph is invoked with its first two nodes, and then the branches. -/
theorem invokeGraph_eq : invokeGraph agents start =
    replay agents start [.initialization, .evidence] >>= convergeGraph agents := by
  obtain ⟨trace, hinitialized⟩ := initializeNode_eq
  rw [replay, MultiAgentNode.update, hinitialized, except_ok_bind, replay, MultiAgentNode.update]
  unfold invokeGraph
  rw [hinitialized, except_ok_bind]
  dsimp only
  cases evidenceNode agents { start with initializationTrace := trace } <;> rfl

/-- The rest of both orders. -/
theorem replay_branches (state : MultiAgentGraphState) :
    replay agents state [.architecture, .riskGovernance, .synthesis, .validate] =
      convergeGraph agents state ∧
    replay agents state [.riskGovernance, .architecture, .synthesis, .validate] =
      convergeGraph agents state := by
  obtain ⟨analyzed, reviewed, hanalyzed, hreviewed⟩ := branches_return agents state
  have hindependent := branches_independent agents hanalyzed hreviewed
  have hfinish : ∀ converged, replay agents converged [.synthesis, .validate] =
      finishGraph agents converged := fun converged => rfl
  unfold convergeGraph
  rw [hanalyzed, hreviewed, except_ok_bind, except_ok_bind]
  constructor
  · rw [replay, MultiAgentNode.update, hanalyzed, except_ok_bind, replay, MultiAgentNode.update,
      hindependent.analyzed_unread, hreviewed, except_ok_bind, hfinish]
  · rw [replay, MultiAgentNode.update, hreviewed, except_ok_bind, replay, MultiAgentNode.update,
      hindependent.reviewed_unread, hanalyzed, except_ok_bind, hfinish, hindependent.commute]

/-- Both orders compute what the invocation of the graph computes. -/
theorem replay_order {order : List MultiAgentNode} (horder : order ∈ nodeOrders) :
    replay agents start order = invokeGraph agents start := by
  rw [invokeGraph_eq]
  obtain ⟨rest, rfl, hrest⟩ : ∃ rest, order = [.initialization, .evidence] ++ rest ∧
      ∀ state, replay agents state rest = convergeGraph agents state := by
    simp only [nodeOrders, List.mem_cons, List.not_mem_nil, or_false] at horder
    rcases horder with rfl | rfl
    · exact ⟨_, rfl, fun state => (replay_branches state).1⟩
    · exact ⟨_, rfl, fun state => (replay_branches state).2⟩
  rw [replay_append]
  cases replay agents start [.initialization, .evidence] with
  | error e => rfl
  | ok state => exact hrest state

/-- Every place is on the way of some order. -/
theorem exists_order_of_mem_places : ∀ executed ∈ Places, ∃ order ∈ nodeOrders,
    executed <+: order := by
  decide

/-- Where no node is ready, an order has been gone through. -/
theorem mem_nodeOrders_of_done : ∀ executed ∈ Places,
    (∀ node : MultiAgentNode, ¬ node.Ready executed) → executed ∈ nodeOrders := by
  decide

/-- Every schedule that is finished has the outcome of the invocation of the graph. -/
theorem Scheduled.outcome_eq (h : Scheduled agents start execution)
    (hfinished : execution.Finished) :
    execution.outcome = invokeGraph agents start := by
  have hreplay := h.replay_eq
  rcases hfinished with ⟨e, herror⟩ | hdone
  · obtain ⟨order, horder, rest, rfl⟩ := exists_order_of_mem_places _ h.mem_places
    rw [← replay_order horder, replay_append, hreplay, herror]
    rfl
  · rw [← replay_order (mem_nodeOrders_of_done _ h.mem_places hdone), hreplay]

/-- The synthesis ran exactly once, after both branches. -/
def SynthesisFollowsBranches (executed : List MultiAgentNode) : Prop :=
  executed.count .synthesis = 1 ∧
    .architecture ∈ executed.takeWhile (· ≠ .synthesis) ∧
    .riskGovernance ∈ executed.takeWhile (· ≠ .synthesis)

instance (executed : List MultiAgentNode) : Decidable (SynthesisFollowsBranches executed) :=
  inferInstanceAs (Decidable (_ ∧ _))

/-- An execution that ends with the evidence node has no synthesis. -/
theorem not_synthesized_after_evidence :
    ¬ SynthesisFollowsBranches [.initialization, .evidence] := by
  decide

/-- The synthesis runs behind both branches only. -/
theorem synthesis_follows_of_mem : ∀ executed ∈ Places, .synthesis ∈ executed →
    SynthesisFollowsBranches executed := by
  decide

/-- Before the synthesis, the nodes have run in one of two orders. -/
theorem before_synthesis_of_mem_places : ∀ executed ∈ Places, .synthesis ∉ executed →
    executed <+: [.initialization, .evidence, .architecture, .riskGovernance] ∨
      executed <+: [.initialization, .evidence, .riskGovernance, .architecture] := by
  decide

/-- Nothing before the synthesis raises in a traceable run. -/
theorem replay_before_synthesis {request : AssessmentRequest} {maxFailures : ℤ}
    (h : agents.Traceable request) {executed : List MultiAgentNode} (hplace : executed ∈ Places)
    (hbefore : .synthesis ∉ executed) (e : Failure) :
    replay agents { request, maxFailures } executed ≠ .error e := by
  obtain ⟨trace, hinitialized⟩ := initializeNode_eq
  obtain ⟨gathered, hevidence, -⟩ := evidenceNode_gathers
    { request, maxFailures, initializationTrace := trace } rfl ⟨rfl, rfl, rfl, rfl, rfl, rfl⟩ h
  have hstage : replay agents { request, maxFailures } [.initialization, .evidence] =
      .ok (gathered { request, maxFailures, initializationTrace := trace }) := by
    rw [replay, MultiAgentNode.update, hinitialized, except_ok_bind, replay, MultiAgentNode.update,
      hevidence]
    rfl
  generalize gathered { request, maxFailures, initializationTrace := trace } = state at hstage
  obtain ⟨analyzed, reviewed, hanalyzed, hreviewed⟩ := branches_return agents state
  have hindependent := branches_independent agents hanalyzed hreviewed
  -- A node list that raises keeps raising when it is continued.
  have hcontinued : ∀ rest, replay agents { request, maxFailures } executed = .error e →
      replay agents { request, maxFailures } (executed ++ rest) = .error e := by
    intro rest herror
    rw [replay_append, herror]
    rfl
  intro herror
  rcases before_synthesis_of_mem_places executed hplace hbefore with ⟨rest, hrest⟩ | ⟨rest, hrest⟩
  · have hboth := hcontinued rest herror
    rw [hrest, show [MultiAgentNode.initialization, .evidence, .architecture, .riskGovernance] =
      [.initialization, .evidence] ++ [.architecture, .riskGovernance] from rfl, replay_append,
      hstage, except_ok_bind, replay, MultiAgentNode.update, hanalyzed, except_ok_bind, replay,
      MultiAgentNode.update, hindependent.analyzed_unread, hreviewed] at hboth
    cases hboth
  · have hboth := hcontinued rest herror
    rw [hrest, show [MultiAgentNode.initialization, .evidence, .riskGovernance, .architecture] =
      [.initialization, .evidence] ++ [.riskGovernance, .architecture] from rfl, replay_append,
      hstage, except_ok_bind, replay, MultiAgentNode.update, hreviewed, except_ok_bind, replay,
      MultiAgentNode.update, hindependent.reviewed_unread, hanalyzed] at hboth
    cases hboth

/-- Every finished schedule of a traceable run has executed the synthesis. -/
theorem Scheduled.synthesis_mem {request : AssessmentRequest} {maxFailures : ℤ}
    (h : Scheduled agents { request, maxFailures } execution) (hfinished : execution.Finished)
    (htraceable : agents.Traceable request) : .synthesis ∈ execution.executed := by
  by_contra hbefore
  rcases hfinished with ⟨e, herror⟩ | hdone
  · exact replay_before_synthesis htraceable h.mem_places hbefore e (h.replay_eq.trans herror)
  · have hall : ∀ executed ∈ nodeOrders, .synthesis ∈ executed := by
      decide
    exact hbefore (hall _ (mem_nodeOrders_of_done _ h.mem_places hdone))

/-- A run that is not traceable finishes in the evidence stage. -/
theorem scheduled_of_untraceable {request : AssessmentRequest} (maxFailures : ℤ)
    (h : ¬ agents.Traceable request) :
    ∃ e, Scheduled agents { request, maxFailures }
      ⟨[.initialization, .evidence], .error e⟩ := by
  obtain ⟨trace, hinitialized⟩ := initializeNode_eq
  have hnode := evidenceNode_of_not_traceable maxFailures h trace
  have hfirst : ScheduleStep agents ⟨[], .ok { request, maxFailures }⟩
      ⟨[.initialization], .ok { request, maxFailures, initializationTrace := trace }⟩ := by
    have hstep : ScheduleStep agents ⟨[], .ok { request, maxFailures }⟩ _ :=
      .node (by decide : MultiAgentNode.initialization.Ready [])
    rwa [MultiAgentNode.update, hinitialized] at hstep
  have hsecond : ScheduleStep agents
      ⟨[.initialization], .ok { request, maxFailures, initializationTrace := trace }⟩
      ⟨[.initialization, .evidence], .error .value⟩ := by
    have hstep : ScheduleStep agents
        ⟨[.initialization], .ok { request, maxFailures, initializationTrace := trace }⟩ _ :=
      .node (by decide : MultiAgentNode.evidence.Ready [.initialization])
    rwa [MultiAgentNode.update, hnode] at hstep
  exact ⟨_, (Relation.ReflTransGen.single hfirst).tail hsecond⟩

end Schedules

/-! ## The final trace -/

/-- The execution record holds the traces of all stages in order, numbered from zero. -/
def MultiAgentGraphState.TraceInOrder (final : MultiAgentGraphState) : Prop :=
  ∃ (execution : MultiAgentExecutionMetadata) (completed : MultiAgentTraceEvent),
    final.execution = some execution ∧ completed.eventType = .workflowCompleted ∧
    execution.trace = (final.initializationTrace ++ final.evidenceTrace ++
      final.architectureTrace ++ final.riskGovernanceTrace ++ final.synthesisTrace ++
      [completed]).mapIdx (fun index event => { event with sequence := index }) ∧
    execution.trace.map MultiAgentTraceEvent.sequence = List.range execution.trace.length

section Trace

variable {agents : Specialists} {state final : MultiAgentGraphState}

/-- A trace event has the type that was asked for. -/
theorem traceEvent_eventType {agent : Option MultiAgentName} {eventType : MultiAgentTraceEventType}
    {summary : Str} {toolName errorCode : Option Str} {event : MultiAgentTraceEvent}
    (h : traceEvent agent eventType summary toolName errorCode = .ok event) :
    event.eventType = eventType := by
  unfold traceEvent MultiAgentTraceEvent.create at h
  split at h
  · cases h
    rfl
  · cases h

/-- The validation numbers the events of the state. -/
theorem validateNode_trace {update : NodeUpdate} (h : validateNode state = .ok update) :
    (update state).TraceInOrder := by
  unfold validateNode at h
  cases hresult : state.finalResult with
  | none =>
    rw [hresult] at h
    cases h
  | some result =>
    rw [hresult] at h
    dsimp only at h
    obtain ⟨completed, hcompleted, h⟩ := except_bind_eq_ok.mp h
    obtain ⟨errors, -, h⟩ := except_bind_eq_ok.mp h
    cases h
    refine ⟨_, completed, rfl, traceEvent_eventType hcompleted, rfl, ?_⟩
    change ((state.convergedTrace completed).mapIdx _).map _ =
      List.range ((state.convergedTrace completed).mapIdx _).length
    exact List.ext_getElem (by simp) fun i _ _ => by simp

/-- The trace of a run is in order. -/
theorem invokeGraph_trace {start : MultiAgentGraphState}
    (h : invokeGraph agents start = .ok final) :
    final.TraceInOrder := by
  unfold invokeGraph at h
  obtain ⟨initialized, -, h⟩ := except_bind_eq_ok.mp h
  obtain ⟨gathered, -, h⟩ := except_bind_eq_ok.mp h
  obtain ⟨analyzed, -, h⟩ := except_bind_eq_ok.mp h
  obtain ⟨reviewed, -, h⟩ := except_bind_eq_ok.mp h
  obtain ⟨synthesized, -, h⟩ := except_bind_eq_ok.mp h
  obtain ⟨validated, hvalidated, h⟩ := except_bind_eq_ok.mp h
  cases h
  exact validateNode_trace hvalidated

end Trace

/-- The branches are independent in every state, and every schedule of a run executes the
synthesis once, after both branches, has the same outcome and the same final trace, if and
only if the tool history that the Evidence Agent returns fits the trace. -/
theorem branches_commute_in_every_run (agents : Specialists) (maxFailures : ℤ)
    (request : AssessmentRequest) :
    ((∀ state analyzed reviewed, architectureNode agents state = .ok analyzed →
        riskGovernanceNode agents state = .ok reviewed →
        Independent agents state analyzed reviewed) ∧
      ∀ execution, Scheduled agents { request, maxFailures } execution → execution.Finished →
        SynthesisFollowsBranches execution.executed ∧
        execution.outcome = invokeGraph agents { request, maxFailures } ∧
        ∀ final, execution.outcome = .ok final → final.TraceInOrder) ↔
      agents.Traceable request := by
  constructor
  · rintro ⟨-, hruns⟩
    by_contra huntraceable
    obtain ⟨e, hrun⟩ := scheduled_of_untraceable maxFailures huntraceable
    obtain ⟨hsynthesis, -⟩ := hruns _ hrun (.inl ⟨e, rfl⟩)
    exact not_synthesized_after_evidence hsynthesis
  · intro htraceable
    refine ⟨fun state analyzed reviewed => branches_independent agents,
      fun execution hrun hfinished => ⟨?_, hrun.outcome_eq hfinished, fun final hfinal => ?_⟩⟩
    · exact synthesis_follows_of_mem _ hrun.mem_places (hrun.synthesis_mem hfinished htraceable)
    · rw [hrun.outcome_eq hfinished] at hfinal
      exact invokeGraph_trace hfinal

/-- Specialists that succeed, with one refused tool call of a hundred and one letters. -/
def Specialists.overlong : Specialists :=
  { Specialists.succeeding with
    gather := fun _ => .ok
      { brief := .unavailable
        toolHistory := [{
          step := 1
          toolName := List.replicate 101 65
          success := false
          summary := ("The specialist is not authorized to use the requested tool." : String)
          argumentKeys := []
          callFingerprint := []
          cached := false
          errorCode := some ("unauthorized_tool" : String) }] } }

/-- One overlong tool name keeps the synthesis from running. -/
theorem overlong_name_skips_synthesis :
    ¬ ∀ (agents : Specialists) (maxFailures : ℤ) (request : AssessmentRequest),
      ∀ execution, Scheduled agents { request, maxFailures } execution → execution.Finished →
        SynthesisFollowsBranches execution.executed := by
  intro hclaim
  have huntraceable : ¬ Specialists.overlong.Traceable .minimal := by
    have hname : ¬ (Str.trim (List.replicate 101 65)).ValidUpTo 100 := by
      decide +kernel
    exact fun htraceable => hname ((htraceable _ (List.mem_singleton_self _)).2.1 _ rfl)
  obtain ⟨e, hrun⟩ := scheduled_of_untraceable 1 huntraceable
  exact not_synthesized_after_evidence (hclaim _ _ _ _ hrun (.inl ⟨e, rfl⟩))

end AssessmentPlatform
