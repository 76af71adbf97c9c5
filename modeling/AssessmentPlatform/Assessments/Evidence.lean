import AssessmentPlatform.Api.Dependencies
import AssessmentPlatform.Assessments.Grounding
import AssessmentPlatform.Assessments.TelemetryCounters
import AssessmentPlatform.Graph.Containment
import AssessmentPlatform.Graph.Degradation
import AssessmentPlatform.Graph.Observations
import AssessmentPlatform.Rag.Context

/-!
# Where the evidence comes from

An assessment has evidence from the retrieval services alone, on whichever way it is generated: from
a preparation, from the tools of the single agent, or from those of the Evidence Agent. No cache, no
merge and no agent adds an item, and a reference without evidence does not survive the grounding.
-/

namespace AssessmentPlatform

open Library

/-! ## The source -/

/-- `RAGService.prepare`. -/
def RetrievalService.prepare (service : RetrievalService) (request : AssessmentRequest) :
    Except Failure RAGPreparation := do
  let query := buildRetrievalQuery request
  let evidence ← service.search query
  pure { query, evidence, context := buildRagContext evidence }

/-- What an assessment is generated with: the retrieval services, the agents with their limits, and
the tools of the two agents that have any. -/
structure AssessmentAgents where
  generator : AssessmentPrompt → Except Failure AssessmentResult
  retrieval : RetrievalService
  graph : GraphRetrievalService
  agent : AssessmentAgent
  agentTools : KnowledgeTools
  maxSteps : ℕ
  maxToolCalls : ℕ
  recursionLimit : ℕ
  decideToolCall : AssessmentRequest → EvidenceObservations → ℕ →
    Except Failure (Option (Str × ArgumentObject))
  generateBrief : AssessmentRequest → EvidenceObservations → Except Failure EvidenceBrief
  evidenceTools : KnowledgeTools
  evidenceMaxSteps : ℕ
  evidenceMaxToolCalls : ℕ
  specialists : Specialists
  maxFailures : ℤ
  sha256 : Str → Str
  unicode : Unicode
  word : CodePoint → Bool

namespace AssessmentAgents

variable (agents : AssessmentAgents)

/-- The workflow of the single agent. -/
def singleAgent : AgenticAssessmentWorkflow KnowledgeArguments where
  agent := agents.agent
  tools := agents.agentTools.registry agents.sha256
  maxSteps := agents.maxSteps
  maxToolCalls := agents.maxToolCalls
  recursionLimit := agents.recursionLimit

/-- `get_evidence_agent`. -/
def evidenceAgent : OpenAIEvidenceAgent KnowledgeArguments where
  tools := agents.evidenceTools.registry agents.sha256
  maxSteps := agents.evidenceMaxSteps
  maxToolCalls := agents.evidenceMaxToolCalls
  decideToolCall := agents.decideToolCall
  generateBrief := agents.generateBrief

/-- What the assessment service is composed of. -/
def parts : ServiceParts where
  generator := agents.generator
  vectorRag := agents.retrieval.prepare
  hybridRag := HybridRetrievalService.prepare { vector := agents.retrieval, graph := agents.graph }
  agenticWorkflow _ request := agents.singleAgent.run request
  multiAgentWorkflow _ request :=
    runMultiAgent (agents.specialists.withEvidenceAgent agents.evidenceAgent) agents.maxFailures
      request
  unicode := agents.unicode
  word := agents.word

end AssessmentAgents

/-! ## Services and tools -/

/-- Everything that the service finds has a property. -/
def RetrievalService.Finds (service : RetrievalService) (P : RetrievedEvidence → Prop) : Prop :=
  ∀ query topK found, service.search query topK = .ok found → ∀ item ∈ found, P item

/-- Everything that the service finds has a property. -/
def GraphRetrievalService.Finds (service : GraphRetrievalService) (P : RetrievedEvidence → Prop) :
    Prop :=
  ∀ query maxDepth entityTypes found, service.search query maxDepth entityTypes = .ok found →
    ∀ item ∈ found.evidence, P item

/-- Every invocation of a tool finds what has a property. -/
structure KnowledgeTools.Find (tools : KnowledgeTools) (P : RetrievedEvidence → Prop) : Prop where
  retrieval : ∀ n, (tools.retrieval n).Finds P
  graph : ∀ graph ∈ tools.graph, ∀ n, (graph n).Finds P

/-- The evidence of a result has a property. -/
def ToolExecutionResult.Shows (result : ToolExecutionResult) (P : RetrievedEvidence → Prop) :
    Prop :=
  ∀ item ∈ result.evidence, P item

/-- The handlers of a registry give results whose evidence has a property. -/
def ToolRegistry.Shows {Args : Type} (registry : ToolRegistry Args)
    (P : RetrievedEvidence → Prop) : Prop :=
  ∀ definition ∈ registry.definitions, ∀ arguments n name,
    ((definition.handler arguments n).toResult name).Shows P

section Tools

variable {tools : KnowledgeTools} {P : RetrievedEvidence → Prop}

/-- The result of a failed tool shows nothing. -/
theorem ToolExecutionResult.shows_failure (name summary errorCode : Str) :
    (ToolExecutionResult.failure name summary errorCode).Shows P :=
  List.forall_mem_nil _

/-- A failure has no evidence. -/
theorem HandlerOutcome.toResult_shows {name : Str} {outcome : HandlerOutcome}
    (h : ∀ result, outcome = .returned result → result.Shows P) :
    (outcome.toResult name).Shows P := by
  cases outcome with
  | returned result => exact h result rfl
  | timedOut => exact ToolExecutionResult.shows_failure _ _ _
  | raised e => cases e <;> exact ToolExecutionResult.shows_failure _ _ _

/-- The answer of a tool shows what its results show. -/
theorem KnowledgeTools.outcome_shows {n : ℕ} {name : Str}
    {r : Except Failure ToolExecutionResult} (h : ∀ result, r = .ok result → result.Shows P) :
    ((tools.outcome n r).toResult name).Shows P := by
  refine HandlerOutcome.toResult_shows fun result hresult => ?_
  unfold KnowledgeTools.outcome at hresult
  split at hresult
  · cases hresult
  · split at hresult
    · cases hresult
      exact h _ rfl
    · cases hresult

/-- What the search tool shows has been found. -/
theorem KnowledgeTools.Find.searchKnowledge (h : tools.Find P)
    {arguments : SearchKnowledgeArguments} {n : ℕ} {result : ToolExecutionResult}
    (hresult : tools.searchKnowledge arguments n = .ok result) : result.Shows P := by
  obtain ⟨evidence, hevidence, hresult⟩ := except_bind_eq_ok.mp hresult
  cases hresult
  exact h.retrieval n _ _ _ hevidence

/-- The result of the document tool shows no evidence. -/
theorem KnowledgeTools.getKnowledgeDocument_shows {arguments : GetKnowledgeDocumentArguments}
    {n : ℕ} {result : ToolExecutionResult}
    (hresult : tools.getKnowledgeDocument arguments n = .ok result) : result.Shows P := by
  obtain ⟨found, -, rfl⟩ := except_map_eq_ok.mp hresult
  cases found with
  | none => exact List.forall_mem_nil _
  | some record => exact List.forall_mem_nil _

/-- What the graph tool shows has been found. -/
theorem GraphRetrievalService.Finds.searchKnowledgeGraph {graph : GraphRetrievalService}
    (h : graph.Finds P) {arguments : SearchKnowledgeGraphArguments} {result : ToolExecutionResult}
    (hresult : AssessmentPlatform.searchKnowledgeGraph graph arguments = .ok result) :
    result.Shows P := by
  unfold AssessmentPlatform.searchKnowledgeGraph at hresult
  split at hresult
  · cases hresult
    exact List.forall_mem_nil _
  · cases hresult
  · rename_i neighborhood hsearch
    cases hresult
    exact h _ _ _ _ hsearch

/-- The knowledge tools show what the services find. -/
theorem KnowledgeTools.Find.registry (h : tools.Find P) (sha256 : Str → Str) :
    (tools.registry sha256).Shows P := by
  intro definition hdefinition arguments n name
  have hcases : definition = tools.searchDefinition ∨ definition = tools.documentDefinition ∨
      ∃ graph ∈ tools.graph, definition = tools.graphDefinition graph := by
    simp only [KnowledgeTools.registry, KnowledgeTools.definitions, List.mem_append, List.mem_cons,
      List.not_mem_nil, or_false, Option.mem_toList, Option.map_eq_some_iff] at hdefinition
    rcases hdefinition with (heq | heq) | ⟨graph, hgraph, heq⟩
    · exact .inl heq
    · exact .inr (.inl heq)
    · exact .inr (.inr ⟨graph, hgraph, heq.symm⟩)
  rcases hcases with rfl | rfl | ⟨graph, hgraph, rfl⟩
  · refine KnowledgeTools.outcome_shows fun result hresult => ?_
    cases arguments with
    | searchKnowledge a => exact h.searchKnowledge hresult
    | getKnowledgeDocument a => cases hresult
    | searchKnowledgeGraph a => cases hresult
  · refine KnowledgeTools.outcome_shows fun result hresult => ?_
    cases arguments with
    | searchKnowledge a => cases hresult
    | getKnowledgeDocument a => exact KnowledgeTools.getKnowledgeDocument_shows hresult
    | searchKnowledgeGraph a => cases hresult
  · refine KnowledgeTools.outcome_shows fun result hresult => ?_
    cases arguments with
    | searchKnowledge a => cases hresult
    | getKnowledgeDocument a => cases hresult
    | searchKnowledgeGraph a => exact (h.graph graph hgraph n).searchKnowledgeGraph hresult

end Tools

/-! ## Calls -/

/-- What the cache holds and what has been answered has evidence with a property. -/
structure CallsShow {Args : Type} (P : RetrievedEvidence → Prop)
    (s : ToolCache × ToolLog Args) : Prop where
  cache : ∀ entry ∈ s.1, entry.2.Shows P
  results : ∀ result ∈ s.2.results, result.Shows P

section Calls

variable {Args : Type} {registry : ToolRegistry Args} {allowed : Str → Prop}
  {P : RetrievedEvidence → Prop} {s s' : ToolCache × ToolLog Args}

/-- The result of a call comes from the cache or from a handler, unless it is a failure. -/
theorem CallsShow.step (h : CallsShow P s) (hregistry : registry.Shows P)
    (hstep : CallStep registry allowed s s') : CallsShow P s' := by
  obtain ⟨cache', log'⟩ := s'
  obtain ⟨name, raw, answer, hanswer, hcache⟩ := hstep
  dsimp only at hanswer hcache
  suffices hshows : answer.result.Shows P ∧ ∀ entry ∈ answer.cache, entry.2.Shows P by
    constructor
    · rw [hcache]
      exact hshows.2
    · rw [hanswer.results_eq, List.forall_mem_append]
      exact ⟨h.results, List.forall_mem_singleton.mpr hshows.1⟩
  cases hanswer with
  | refused => exact ⟨ToolExecutionResult.shows_failure _ _ _, h.cache⟩
  | cached haccepted hfingerprint hlookup => exact ⟨h.cache _ (mem_of_lookup hlookup), h.cache⟩
  | @invoked definition arguments fingerprint result haccepted hfingerprint hlookup hresult =>
    have hdefinition : definition ∈ registry.definitions :=
      List.mem_of_find?_eq_some haccepted.find_eq
    have hshows : result.Shows P := by
      rw [hresult]
      exact hregistry definition hdefinition _ _ _
    refine ⟨hshows, fun entry hentry => ?_⟩
    rcases List.mem_cons.mp hentry with rfl | hentry
    · exact hshows
    · exact h.cache entry hentry

/-- So it is after a sequence of calls. -/
theorem CallsShow.run (h : CallsShow P s) (hregistry : registry.Shows P)
    (hrun : CallRun registry allowed s s') : CallsShow P s' := by
  induction hrun with
  | refl => exact h
  | tail _ hstep ih => exact ih.step hregistry hstep

/-- Before the first call, nothing has been shown. -/
theorem callsShow_start : CallsShow P (([], {}) : ToolCache × ToolLog Args) :=
  ⟨List.forall_mem_nil _, List.forall_mem_nil _⟩

end Calls

/-! ## Agents -/

section Agents

variable {P : RetrievedEvidence → Prop}

/-- The observations of the Evidence Agent are those of its results. -/
theorem mergeResults_shows {results : List ToolExecutionResult}
    (h : ∀ result ∈ results, result.Shows P) :
    ∀ item ∈ (mergeResults results).evidence, P item := by
  induction results using List.reverseRecOn with
  | nil => exact List.forall_mem_nil _
  | append_singleton results result ih =>
    rw [List.forall_mem_append] at h
    have hlast := h.2 result List.mem_cons_self
    rw [mergeResults_concat]
    intro item hitem
    rcases List.mem_append.mp hitem with hitem | hitem
    · exact ih h.1 item hitem
    · exact hlast item (List.mem_filter.mp hitem).1

/-- What the evidence agent gathers has been found. -/
theorem gather_shows {Args : Type} {agent : OpenAIEvidenceAgent Args} {request : AssessmentRequest}
    (hregistry : agent.tools.Shows P) {outcome : EvidenceAgentOutcome}
    (h : (Prog.exec (gather agent request) {}).1 = .ok outcome) :
    ∀ item ∈ outcome.evidence, P item := by
  have hexec : Prog.exec (gather agent request) {} =
      (.ok outcome, (Prog.exec (gather agent request) {}).2) := Prod.ext h rfl
  obtain ⟨cache, hrun⟩ := gather_callRun agent request
  have hshows := callsShow_start.run hregistry hrun
  rw [(gather_observed hexec).1]
  exact mergeResults_shows hshows.results

/-- The single agent returns the evidence with which its graph has ended. -/
theorem AgenticAssessmentWorkflow.run_eq_ok {Args : Type}
    {workflow : AgenticAssessmentWorkflow Args} {request : AssessmentRequest}
    {output : AgentWorkflowOutput AssessmentExecutionMetadata}
    (h : workflow.run request = .ok output) :
    ∃ initial n, initial.toolCache = [] ∧ initial.retrievedEvidence = [] ∧
      (executionAfter workflow.agent workflow.tools initial n).status = .ended ∧
      output.evidence =
        (executionAfter workflow.agent workflow.tools initial n).state.retrievedEvidence := by
  obtain ⟨initial, hinitial, h⟩ := except_bind_eq_ok.mp h
  obtain ⟨state, hstate, h⟩ := except_bind_eq_ok.mp h
  have hempty : initial.toolCache = [] ∧ initial.retrievedEvidence = [] := by
    unfold initializeAssessmentState at hinitial
    split at hinitial
    · cases hinitial
    · cases hinitial
      exact ⟨rfl, rfl⟩
  refine ⟨initial, workflow.recursionLimit, hempty.1, hempty.2, ?_⟩
  unfold AgenticAssessmentWorkflow.invoke at hstate
  dsimp only at hstate
  split at hstate
  · rename_i hended
    cases hstate
    refine ⟨hended, ?_⟩
    unfold AssessmentGraphState.workflowResult at h
    split at h
    · cases h
      rfl
    · cases h
  · cases hstate
  · cases hstate

/-- What the agentic workflow collects has been found. -/
theorem AgenticAssessmentWorkflow.run_shows {Args : Type}
    {workflow : AgenticAssessmentWorkflow Args} (hregistry : workflow.tools.Shows P)
    {request : AssessmentRequest} {output : AgentWorkflowOutput AssessmentExecutionMetadata}
    (h : workflow.run request = .ok output) : ∀ item ∈ output.evidence, P item := by
  obtain ⟨initial, n, hcache, hempty, hended, hevidence⟩ := workflow.run_eq_ok h
  obtain ⟨cache, hrun, -⟩ := called_executionAfter workflow.agent workflow.tools hcache n
  have hshows := callsShow_start.run hregistry hrun
  have haccumulated := accumulated_executionAfter workflow.agent workflow.tools hempty n
    fun e he => by cases hended.symm.trans he
  rw [hevidence, haccumulated]
  intro item hitem
  have hmem := (getBy_mem (mem_distinctBy.mp hitem)).1
  obtain ⟨result, hresult, hitem⟩ := List.mem_flatMap.mp hmem
  exact hshows.results result hresult item hitem

/-- The four agents have the evidence of the Evidence Agent, or none if it has failed. -/
theorem runMultiAgent_shows {Args : Type} {others : Specialists} {agent : OpenAIEvidenceAgent Args}
    (hregistry : agent.tools.Shows P) {maxFailures : ℤ} {request : AssessmentRequest}
    {output : AgentWorkflowOutput MultiAgentExecutionMetadata}
    (h : runMultiAgent (others.withEvidenceAgent agent) maxFailures request = .ok output) :
    ∀ item ∈ output.evidence, P item := by
  rw [(multiAgentRun_of_ok h).evidence_eq]
  unfold Specialists.evidence
  split
  · rename_i outcome houtcome
    exact gather_shows hregistry houtcome
  · exact List.forall_mem_nil _

end Agents

/-! ## Preparations -/

/-- A property that does not depend on the path which has found an item. -/
def Unlabelled (P : RetrievedEvidence → Prop) : Prop :=
  ∀ item source, P item → P { item with retrievalSource := source }

section Preparations

variable {P : RetrievedEvidence → Prop} {request : AssessmentRequest} {preparation : RAGPreparation}

/-- What the retrieval prepares has been found. -/
theorem RetrievalService.Finds.prepare {service : RetrievalService} (h : service.Finds P)
    (hprepare : service.prepare request = .ok preparation) :
    ∀ item ∈ preparation.evidence, P item := by
  obtain ⟨evidence, hevidence, hprepare⟩ := except_bind_eq_ok.mp hprepare
  cases hprepare
  exact h _ _ _ hevidence

/-- A merged item is one of the two paths, up to its label. -/
theorem mergeEvidence_forall (hP : Unlabelled P) {vector graph : List RetrievedEvidence}
    (hvector : ∀ item ∈ vector, P item) (hgraph : ∀ item ∈ graph, P item) :
    ∀ item ∈ mergeEvidence vector graph, P item := by
  intro item hitem
  obtain ⟨source, hsource, heq⟩ := mem_mergeEvidence_origin hitem
  rw [heq]
  apply hP
  split at hsource
  · exact hvector source hsource
  · exact hgraph source hsource

/-- A path that has failed has no evidence. -/
theorem HybridRetrievalService.prepare_shows {hybrid : HybridRetrievalService}
    (hP : Unlabelled P) (hvector : hybrid.vector.Finds P) (hgraph : hybrid.graph.Finds P)
    (h : hybrid.prepare request = .ok preparation) : ∀ item ∈ preparation.evidence, P item := by
  obtain ⟨result, hresult, h⟩ := except_bind_eq_ok.mp h
  obtain ⟨⟨vector, vectorError⟩, hvectorPath, hresult⟩ := except_bind_eq_ok.mp hresult
  obtain ⟨⟨neighborhood, graphError⟩, hgraphPath, hresult⟩ := except_bind_eq_ok.mp hresult
  cases hresult
  obtain ⟨context, -, h⟩ := except_bind_eq_ok.mp h
  cases h
  refine mergeEvidence_forall hP ?_ ?_
  · unfold vectorPath at hvectorPath
    split at hvectorPath
    · rename_i evidence hevidence
      cases hvectorPath
      exact hvector _ _ _ hevidence
    · cases hvectorPath
      exact List.forall_mem_nil _
    · cases hvectorPath
  · unfold graphPath at hgraphPath
    split at hgraphPath
    · rename_i found hfound
      cases hgraphPath
      exact hgraph _ _ _ _ hfound
    · obtain ⟨empty, hempty, heq⟩ := except_map_eq_ok.mp hgraphPath
      cases heq
      rw [GraphNeighborhood.evidence_of_empty hempty]
      exact List.forall_mem_nil _
    · cases hgraphPath

end Preparations

/-! ## Generation -/

/-- Whatever the services of an assessment find has a property. -/
structure AssessmentAgents.Find (agents : AssessmentAgents) (P : RetrievedEvidence → Prop) :
    Prop where
  retrieval : agents.retrieval.Finds P
  graph : agents.graph.Finds P
  agentTools : agents.agentTools.Find P
  evidenceTools : agents.evidenceTools.Find P

namespace AssessmentAgents.Find

variable {agents : AssessmentAgents} {P : RetrievedEvidence → Prop} {settings : ApplicationSettings}
  {assessmentId : UUID} {request : AssessmentRequest} {routing : ResolvedExecutionRoute}

/-- What the deterministic mode cites has been found. -/
theorem ragService (h : agents.Find P) (hP : Unlabelled P)
    {prepare : AssessmentRequest → Except Failure RAGPreparation}
    (hprepare : getAssessmentRagService settings agents.parts = some prepare)
    {preparation : RAGPreparation} (hprepared : prepare request = .ok preparation) :
    ∀ item ∈ preparation.evidence, P item := by
  unfold getAssessmentRagService at hprepare
  split at hprepare
  · cases hprepare
  split at hprepare
  · cases hprepare
    exact HybridRetrievalService.prepare_shows hP h.retrieval h.graph hprepared
  · cases hprepare
    exact h.retrieval.prepare hprepared

/-- What the single agent cites has been found. -/
theorem agenticWorkflow (h : agents.Find P)
    {run : UUID → AssessmentRequest →
      Except Failure (AgentWorkflowOutput AssessmentExecutionMetadata)}
    (hrun : agents.parts.getAgenticAssessmentWorkflow settings = some run)
    {output : AgentWorkflowOutput AssessmentExecutionMetadata}
    (houtput : run assessmentId request = .ok output) : ∀ item ∈ output.evidence, P item := by
  have hworkflow : run = agents.parts.agenticWorkflow := by
    unfold ServiceParts.getAgenticAssessmentWorkflow at hrun
    dsimp only at hrun
    split_ifs at hrun
    all_goals exact (Option.some.inj hrun).symm
  rw [hworkflow] at houtput
  exact AgenticAssessmentWorkflow.run_shows (h.agentTools.registry agents.sha256) houtput

/-- What the specialists cite has been found. -/
theorem multiAgentWorkflow (h : agents.Find P)
    {run : UUID → AssessmentRequest →
      Except Failure (AgentWorkflowOutput MultiAgentExecutionMetadata)}
    (hrun : agents.parts.getMultiAgentAssessmentWorkflow settings = some run)
    {output : AgentWorkflowOutput MultiAgentExecutionMetadata}
    (houtput : run assessmentId request = .ok output) : ∀ item ∈ output.evidence, P item := by
  have hworkflow : run = agents.parts.multiAgentWorkflow := by
    unfold ServiceParts.getMultiAgentAssessmentWorkflow at hrun
    dsimp only at hrun
    split_ifs at hrun
    all_goals exact (Option.some.inj hrun).symm
  rw [hworkflow] at houtput
  exact runMultiAgent_shows (h.evidenceTools.registry agents.sha256) houtput

/-- In every mode the evidence has been found by a service. -/
theorem runMode (h : agents.Find P) (hP : Unlabelled P) {output : GeneratedAssessment}
    (houtput : (getAssessmentService settings agents.parts).runMode assessmentId request routing =
      .ok output) : ∀ item ∈ output.evidence, P item := by
  unfold AssessmentService.runMode at houtput
  split at houtput
  · split at houtput
    · cases houtput
    rename_i run hrun
    obtain ⟨generated, hgenerated, hresult⟩ := except_bind_eq_ok.mp houtput
    cases hresult
    exact h.multiAgentWorkflow hrun hgenerated
  · split at houtput
    · cases houtput
    rename_i run hrun
    obtain ⟨generated, hgenerated, hresult⟩ := except_bind_eq_ok.mp houtput
    cases hresult
    exact h.agenticWorkflow hrun hgenerated
  · unfold AssessmentService.generateDeterministic at houtput
    split at houtput
    · obtain ⟨result, -, hresult⟩ := except_bind_eq_ok.mp houtput
      cases hresult
      exact List.forall_mem_nil _
    · rename_i prepare hprepare
      obtain ⟨preparation, hprepared, hrest⟩ := except_bind_eq_ok.mp houtput
      obtain ⟨result, -, hresult⟩ := except_bind_eq_ok.mp hrest
      cases hresult
      exact h.ragService hP hprepare hprepared

/-- A candidate refers to nothing but its evidence, which a service has found. -/
theorem generate (h : agents.Find P) (hP : Unlabelled P) {requestId : Option RequestId}
    {timers : Timers} {candidate : Candidate}
    (hgenerate : (getAssessmentService settings agents.parts).generate requestId timers assessmentId
      request routing = .ok candidate) :
    (∀ item ∈ candidate.evidence, P item) ∧
      ∀ reference ∈ candidate.result.sourceReferences, ∃ item ∈ candidate.evidence,
        (item.documentId, item.chunkId) = reference.key := by
  obtain ⟨output, houtput, hcandidate⟩ := except_bind_eq_ok.mp hgenerate
  cases hcandidate
  refine ⟨h.runMode hP houtput, fun reference hreference => ?_⟩
  have hkey := (groundedReferences_first reference hreference).1
  exact List.mem_map.mp hkey

end AssessmentAgents.Find

end AssessmentPlatform
