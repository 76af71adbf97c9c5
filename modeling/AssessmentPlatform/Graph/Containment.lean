import AssessmentPlatform.Graph.Convergence
import AssessmentPlatform.Library.Keyed
import AssessmentPlatform.Tools.Calls
import AssessmentPlatform.Tools.Knowledge

/-!
# Containment of the evidence stage

The multi-agent workflow with the bounded Evidence Agent and the knowledge tools, for every
stream of tool decisions of the model provider. The evidence node guards the agent but not
the conversion of the tool history into trace events, and an event admits tool names of at
most a hundred characters: a run is aborted by a longer name, although the call itself
was refused.
-/

namespace AssessmentPlatform

open Library

/-- What the model provider answers to the decision request of each step. -/
abbrev ToolDecisions := ℕ → Except Failure (Option (Str × ArgumentObject))

/-- The calls that the provider requests in the next `n` steps, up to the first decision
that is no call. -/
def requestedCalls (decisions : ToolDecisions) : ℕ → ℕ → List (Str × ArgumentObject)
  | 0, _ => []
  | n + 1, step =>
    match decisions step with
    | .ok (some call) => call :: requestedCalls decisions n (step + 1)
    | _ => []

/-- The Evidence Agent for one stream of decisions. -/
def OpenAIEvidenceAgent.ofDecisions {Args : Type} (tools : ToolRegistry Args)
    (maxSteps maxToolCalls : ℕ) (decisions : ToolDecisions)
    (generateBrief : AssessmentRequest → EvidenceObservations → Except Failure EvidenceBrief) :
    OpenAIEvidenceAgent Args where
  tools
  maxSteps
  maxToolCalls
  decideToolCall _ _ step := decisions step
  generateBrief

/-- The specialists with a given Evidence Agent, whose tool log starts empty. -/
def Specialists.withEvidenceAgent {Args : Type} (agents : Specialists)
    (agent : OpenAIEvidenceAgent Args) : Specialists :=
  { agents with
    gather := fun request => (Prog.exec (AssessmentPlatform.gather agent request) {}).1 }

/-- The cases in which a run may raise: the partial-failure policy refuses it, or its
synthesis fails. -/
def Specialists.MayRaise (agents : Specialists) (maxFailures : ℤ) (request : AssessmentRequest) :
    Prop :=
  agents.Refused request maxFailures ∨ ∃ e, agents.synthesis request = .error e

/-! ## What the loop records -/

section Loop

variable {Args : Type} {registry : ToolRegistry Args}

/-- A cache of results that fit a trace event. -/
def TraceableCache (cache : ToolCache) : Prop := ∀ entry ∈ cache, entry.2.Traceable

/-- The answer to every call fits a trace event, up to the name of the tool. -/
theorem Answered.traceable (hregistry : registry.Traceable) {allowed : Str → Prop} {name : Str}
    {raw : ArgumentObject} {cache : ToolCache} {log log' : ToolLog Args} {answer : ToolAnswer}
    (h : Answered registry allowed name raw cache log answer log') (hcache : TraceableCache cache) :
    answer.result.Traceable ∧ TraceableCache answer.cache := by
  cases h with
  | refused _ haccepts => exact ⟨haccepts, hcache⟩
  | cached _ _ hlookup => exact ⟨hcache _ (mem_of_lookup hlookup), hcache⟩
  | @invoked definition arguments fingerprint result haccepted _ _ hresult =>
    have htraceable : result.Traceable := by
      rw [hresult]
      exact hregistry definition (List.mem_of_find?_eq_some haccepted.find_eq) _ _ _
    refine ⟨htraceable, fun entry hentry => ?_⟩
    rcases List.mem_cons.mp hentry with rfl | hentry
    · exact htraceable
    · exact hcache entry hentry

/-- An entry of the tool history for a requested call. -/
def RecordedCall (entry : ToolHistoryEntry) (call : Str × ArgumentObject) : Prop :=
  entry.toolName = call.1 ∧ MultiAgentTraceEvent.Accepts entry.summary none entry.errorCode

/-- The history of a loop that returns has one entry for each requested call. -/
theorem gatherLoop_history {agent : OpenAIEvidenceAgent Args} {request : AssessmentRequest}
    (decisions : ToolDecisions) (hregistry : agent.tools.Traceable)
    (hdecisions : ∀ o step, agent.decideToolCall request o step = decisions step) {n step : ℕ}
    {o o' : EvidenceObservations} {reason : AgentTerminationReason} {log log' : ToolLog Args}
    (hcache : TraceableCache o.cache)
    (h : Prog.exec (gatherLoop agent request n step o) log = (.ok (o', reason), log')) :
    ∃ entries, o'.history = o.history ++ entries ∧
      List.Forall₂ RecordedCall entries
        (requestedCalls decisions (min n (agent.maxToolCalls - o.history.length)) step) := by
  induction n generalizing step o log with
  | zero =>
    cases h
    exact ⟨[], by simp, by simp [requestedCalls]⟩
  | succ n ih =>
    unfold gatherLoop at h
    by_cases hlimit : agent.maxToolCalls ≤ o.history.length
    · rw [if_pos hlimit] at h
      cases h
      refine ⟨[], by simp, ?_⟩
      rw [Nat.sub_eq_zero_of_le hlimit, Nat.min_zero]
      exact .nil
    · rw [if_neg hlimit, hdecisions] at h
      obtain ⟨m, hm⟩ : ∃ m, agent.maxToolCalls - o.history.length = m + 1 :=
        ⟨agent.maxToolCalls - o.history.length - 1, by omega⟩
      rw [hm, Nat.succ_min_succ]
      unfold requestedCalls
      cases hdecision : decisions step with
      | error e =>
        rw [hdecision] at h
        cases h
      | ok decision =>
        rw [hdecision] at h
        cases decision with
        | none =>
          cases h
          exact ⟨[], by simp, .nil⟩
        | some call =>
          obtain ⟨name, raw⟩ := call
          dsimp only at h ⊢
          rw [Prog.exec_bind] at h
          rcases exec_executePermitted agent.tools name raw o.cache log .evidence with
            ⟨e, hexec⟩ | ⟨answer, log₁, hexec, hanswer⟩
          · rw [hexec] at h
            cases h
          · rw [hexec] at h
            obtain ⟨htraceable, hcache'⟩ := hanswer.traceable hregistry hcache
            obtain ⟨entries, hentries, hrecorded⟩ := ih (o := o.observe step name answer) hcache' h
            refine ⟨answer.historyEntry step name :: entries, ?_, ?_⟩
            · rw [hentries]
              simp [EvidenceObservations.observe]
            · refine .cons ⟨rfl, htraceable⟩ ?_
              have hlength :
                  agent.maxToolCalls - (o.observe step name answer).history.length = m := by
                simp only [EvidenceObservations.observe, List.length_append, List.length_singleton]
                omega
              rwa [hlength] at hrecorded

/-- Recorded entries fit a trace event exactly if the names of their calls do. -/
theorem recorded_traceable_iff {entries : List ToolHistoryEntry}
    {calls : List (Str × ArgumentObject)} (h : List.Forall₂ RecordedCall entries calls) :
    (∀ item ∈ entries, item.Traceable) ↔ ∀ call ∈ calls, call.1.trim.ValidUpTo 100 := by
  induction h with
  | nil => simp
  | @cons entry call entries calls hfirst _ ih =>
    rw [List.forall_mem_cons, List.forall_mem_cons, ih]
    refine and_congr_left' ?_
    unfold ToolHistoryEntry.Traceable MultiAgentTraceEvent.Accepts
    rw [hfirst.1]
    exact ⟨fun h => h.2.1 _ rfl,
      fun h => ⟨hfirst.2.1, fun _ hname => Option.some.inj hname ▸ h, hfirst.2.2.2⟩⟩

end Loop

section Stage

variable {Args : Type} {tools : ToolRegistry Args} {maxSteps maxToolCalls : ℕ}
  {decisions : ToolDecisions}
  {generateBrief : AssessmentRequest → EvidenceObservations → Except Failure EvidenceBrief}
  {agents : Specialists} {request : AssessmentRequest} {maxFailures : ℤ}

/-- A requested tool name that a trace event admits: it can be encoded, and it has at most
a hundred characters once it is trimmed. -/
def NamesFit (decisions : ToolDecisions) (limit : ℕ) : Prop :=
  ∀ call ∈ requestedCalls decisions limit 1, call.1.trim.ValidUpTo 100

/-- The tool history of a traceable registry is traceable if the Evidence Agent fails or
all requested names fit. -/
theorem traceable_iff (htools : tools.Traceable) :
    (agents.withEvidenceAgent (.ofDecisions tools maxSteps maxToolCalls decisions
        generateBrief)).Traceable request ↔
      (∃ e, (agents.withEvidenceAgent (.ofDecisions tools maxSteps maxToolCalls decisions
        generateBrief)).gather request = .error e) ∨
      NamesFit decisions (min maxSteps maxToolCalls) := by
  unfold Specialists.Traceable Specialists.toolHistory
  cases hgather : (agents.withEvidenceAgent (.ofDecisions tools maxSteps maxToolCalls decisions
    generateBrief)).gather request with
  | error e => simp
  | ok outcome =>
    have hfails : ¬ ∃ e, (Except.ok outcome : Except Failure EvidenceAgentOutcome) = .error e := by
      rintro ⟨e, he⟩
      cases he
    rw [or_iff_right hfails]
    dsimp only
    obtain ⟨o, reason, brief, hloop, -, rfl⟩ := gather_eq_ok (Prod.ext hgather rfl)
    obtain ⟨entries, hentries, hrecorded⟩ :=
      gatherLoop_history decisions htools (fun _ _ => rfl) (by simp [TraceableCache]) hloop
    change (∀ item ∈ o.history, item.Traceable) ↔ _
    rw [hentries]
    exact recorded_traceable_iff hrecorded

/-- A run returns exactly if its history is traceable and it may not raise. -/
theorem runMultiAgent_returns_iff (agents : Specialists) (maxFailures : ℤ)
    (request : AssessmentRequest) :
    (∃ output, runMultiAgent agents maxFailures request = .ok output) ↔
      agents.Traceable request ∧ ¬ agents.MayRaise maxFailures request := by
  unfold Specialists.MayRaise
  rcases runMultiAgent_cases agents maxFailures request with
    ⟨htrace, e, herror⟩ | ⟨htrace, ⟨hrefused, e, herror⟩ | ⟨hrefused, ⟨e, e', hsynthesis, herror⟩ |
      ⟨output, hok, hrun⟩⟩⟩
  · simp [herror, htrace]
  · simp [herror, hrefused]
  · simp [herror, hsynthesis]
  · obtain ⟨result, hsynthesis, -⟩ := hrun.result_eq
    simp [hok, htrace, hrefused, hsynthesis]

end Stage

/-- A multi-agent run with the knowledge tools raises only when it may, and returns in every
other case, if and only if the Evidence Agent fails, all tool names that the provider
requests within the limits fit a trace event, or the run may raise anyway. -/
theorem evidence_stage_contained (tools : KnowledgeTools) (sha256 : Str → Str)
    (maxSteps maxToolCalls : ℕ) (decisions : ToolDecisions)
    (generateBrief : AssessmentRequest → EvidenceObservations → Except Failure EvidenceBrief)
    (others : Specialists) (maxFailures : ℤ) (request : AssessmentRequest) :
    let agents := others.withEvidenceAgent
      (.ofDecisions (tools.registry sha256) maxSteps maxToolCalls decisions generateBrief)
    (((∃ e, runMultiAgent agents maxFailures request = .error e) →
        agents.MayRaise maxFailures request) ∧
      (¬ agents.MayRaise maxFailures request →
        ∃ output, runMultiAgent agents maxFailures request = .ok output)) ↔
      (∃ e, agents.gather request = .error e) ∨
        NamesFit decisions (min maxSteps maxToolCalls) ∨ agents.MayRaise maxFailures request := by
  intro agents
  have hreturns := runMultiAgent_returns_iff agents maxFailures request
  rw [← or_assoc, ← traceable_iff (tools.registry_traceable sha256)]
  change _ ↔ agents.Traceable request ∨ _
  constructor
  · rintro ⟨-, hreturn⟩
    by_cases hmay : agents.MayRaise maxFailures request
    · exact .inr hmay
    · exact .inl (hreturns.mp (hreturn hmay)).1
  · intro hcondition
    have hreturn : ¬ agents.MayRaise maxFailures request →
        ∃ output, runMultiAgent agents maxFailures request = .ok output := fun hmay =>
      hreturns.mpr ⟨hcondition.resolve_right hmay, hmay⟩
    refine ⟨?_, hreturn⟩
    rintro ⟨e, herror⟩
    by_contra hmay
    obtain ⟨output, hok⟩ := hreturn hmay
    cases herror.symm.trans hok

/-- Specialists that succeed. -/
def Specialists.succeeding : Specialists where
  gather _ := .ok { brief := .unavailable }
  analyze _ _ := .ok ⟨[65]⟩
  review _ _ := .ok ⟨.low, false⟩
  synthesize _ _ _ _ _ := .ok
    { executiveSummary := [], risks := [], reviewRecommended := false, informationGaps := [] }

/-- A provider that requests one tool with a name of a hundred and one letters. -/
def ToolDecisions.overlong : ToolDecisions := fun step =>
  if step = 1 then .ok (some (List.replicate 101 65, [])) else .ok none

/-- One overlong tool name aborts a run in which every specialist succeeds. -/
theorem evidence_stage_aborts_run :
    ¬ ∀ (tools : KnowledgeTools) (sha256 : Str → Str) (maxSteps maxToolCalls : ℕ)
      (decisions : ToolDecisions)
      (generateBrief : AssessmentRequest → EvidenceObservations → Except Failure EvidenceBrief)
      (others : Specialists) (maxFailures : ℤ) (request : AssessmentRequest),
      (∃ e, runMultiAgent (others.withEvidenceAgent
          (.ofDecisions (tools.registry sha256) maxSteps maxToolCalls decisions generateBrief))
          maxFailures request = .error e) →
        (others.withEvidenceAgent (.ofDecisions (tools.registry sha256) maxSteps maxToolCalls
          decisions generateBrief)).MayRaise maxFailures request := by
  intro hclaim
  let agents := Specialists.succeeding.withEvidenceAgent
    (.ofDecisions (KnowledgeTools.empty.registry id) 4 6 .overlong fun _ _ => .ok .unavailable)
  have herror : ∃ e, runMultiAgent agents 1 .minimal = .error e := by
    have hraises : (runMultiAgent agents 1 .minimal).toBool = false := by decide +kernel
    cases hrun : runMultiAgent agents 1 .minimal with
    | error e => exact ⟨e, rfl⟩
    | ok output =>
      rw [hrun] at hraises
      cases hraises
  have hfailures : agents.failures .minimal = 0 := by decide +kernel
  rcases hclaim _ _ _ _ _ _ _ _ _ herror with hrefused | ⟨e, hsynthesis⟩
  · rcases hrefused with h | h
    · rw [hfailures] at h
      exact absurd h (by decide)
    · cases hfailures.symm.trans h
  · cases hsynthesis

end AssessmentPlatform
