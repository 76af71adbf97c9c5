import AssessmentPlatform.Runtime.Gate
import Mathlib.Logic.Relation

/-!
# Signals derived from a candidate

`derive_signals` reduces an assessment result, its evidence and its execution
metadata to the booleans and the risk level that the gate reads. The relation
`Worsening` lists the ways in which a candidate can get worse; each of them moves the
signals up, so none of them can lower the gate's decision.
-/

namespace AssessmentPlatform

/-- The runtime level of a risk severity. -/
def severityOrder : RiskSeverity → RuntimeRiskLevel
  | .low => .low
  | .medium => .medium
  | .high => .high
  | .critical => .critical

/-- The greatest level of a list, `LOW` for the empty list. -/
def maxRiskLevel (levels : List RuntimeRiskLevel) : RuntimeRiskLevel :=
  levels.foldl (fun best level => if best.index < level.index then level else best) .low

/-- Whether an optional text is truthy. -/
def isSet : Option Str → Bool
  | some (_ :: _) => true
  | _ => false

/-- The degradation that the retrieval record and the execution report. -/
def degradedExecution (execution : ExecutionMetadata) : Bool :=
  let degraded := match execution.graphRetrieval with
    | some graph => graph.degradedGraphMode
    | none => false
  match execution with
  | .deterministic _ => degraded
  | .singleAgent m =>
    degraded || !(m.terminationReason = .completed || m.terminationReason = .agentStopped)
  | .multiAgent m => degraded || m.degradedMode

/-- Whether the retrieval record carries an error code. -/
def retrievalFailed (execution : ExecutionMetadata) : Bool :=
  match execution.graphRetrieval with
  | some graph => isSet graph.graphErrorCode || isSet graph.vectorErrorCode
  | none => false

/-- Whether a specialist of the multi-agent workflow failed or was skipped. -/
def specialistUnavailable : ExecutionMetadata → Bool
  | .multiAgent m => m.agentStatuses.values.any fun status => status = .failed || status = .skipped
  | _ => false

/-- Whether the trace records a failed tool. -/
def toolFailed : ExecutionMetadata → Bool
  | .deterministic _ => false
  | .singleAgent m => m.trace.any fun event => event.eventType = .toolFailed
  | .multiAgent m => m.trace.any fun event => event.eventType = .toolFailed

/-- `RuntimeGovernanceService.derive_signals`. -/
def deriveSignals (result : AssessmentResult) (evidence : List RetrievedEvidence)
    (execution : ExecutionMetadata) (provenanceValid : Bool) : QualityGateSignals :=
  let riskLevel := maxRiskLevel (result.risks.map fun risk => severityOrder risk.severity)
  let evidenceRequired : Bool := riskLevel = .high || riskLevel = .critical
  { riskLevel
    evidenceRequired
    evidenceAvailable := !evidence.isEmpty
    provenanceValid
    degradedExecution := degradedExecution execution
    specialistUnavailable := specialistUnavailable execution
    retrievalFailed := retrievalFailed execution
    toolFailed := toolFailed execution
    humanOversightRequired := evidenceRequired
    humanOversightPresent := result.reviewRecommended
    mitigationsComplete := result.risks.all fun risk => !(Str.strip risk.mitigation).isEmpty }

/-- What the gate is told about one candidate. -/
structure GateInput where
  result : AssessmentResult
  evidence : List RetrievedEvidence
  execution : ExecutionMetadata
  provenanceValid : Bool

/-- The signals of a candidate. -/
def GateInput.signals (x : GateInput) : QualityGateSignals :=
  deriveSignals x.result x.evidence x.execution x.provenanceValid

/-- Mark one specialist as failed. -/
def MultiAgentStatuses.fail (s : MultiAgentStatuses) : MultiAgentName → MultiAgentStatuses
  | .evidence => { s with evidence := .failed }
  | .architecture => { s with architecture := .failed }
  | .riskGovernance => { s with riskGovernance := .failed }
  | .synthesis => { s with synthesis := .failed }

/-- One change for the worse in what the gate is told. -/
inductive Worsening : GateInput → GateInput → Prop
  /-- Risks are added, of any severity, with any mitigation, at any place. -/
  | addRisks (x : GateInput) (risks : List AssessmentRisk) (h : x.result.risks.Sublist risks) :
    Worsening x { x with result := { x.result with risks } }
  /-- Evidence is removed. -/
  | removeEvidence (x : GateInput) (evidence : List RetrievedEvidence)
    (h : evidence.Sublist x.evidence) : Worsening x { x with evidence }
  /-- The provenance turns out to be invalid. -/
  | invalidateProvenance (x : GateInput) : Worsening x { x with provenanceValid := false }
  /-- Events are appended to a single-agent trace. -/
  | appendAgentTrace (x : GateInput) (m : AssessmentExecutionMetadata)
    (events : List AgentTraceEvent) (h : x.execution = .singleAgent m) :
    Worsening x { x with execution := .singleAgent { m with trace := m.trace ++ events } }
  /-- Events are appended to a multi-agent trace. -/
  | appendMultiAgentTrace (x : GateInput) (m : MultiAgentExecutionMetadata)
    (events : List MultiAgentTraceEvent) (h : x.execution = .multiAgent m) :
    Worsening x { x with execution := .multiAgent { m with trace := m.trace ++ events } }
  /-- A specialist status turns to `FAILED`. -/
  | failSpecialist (x : GateInput) (m : MultiAgentExecutionMetadata) (name : MultiAgentName)
    (h : x.execution = .multiAgent m) :
    Worsening x
      { x with execution := .multiAgent { m with agentStatuses := m.agentStatuses.fail name } }
  /-- The multi-agent execution becomes degraded. -/
  | setDegradedMode (x : GateInput) (m : MultiAgentExecutionMetadata)
    (h : x.execution = .multiAgent m) :
    Worsening x { x with execution := .multiAgent { m with degradedMode := true } }
  /-- The retrieval record becomes degraded. -/
  | setDegradedGraphMode (x : GateInput) (graph : GraphRetrievalExecutionMetadata)
    (h : x.execution.graphRetrieval = some graph) :
    Worsening x { x with
      execution := x.execution.withGraphRetrieval { graph with degradedGraphMode := true } }
  /-- The graph path records an error code. -/
  | setGraphErrorCode (x : GateInput) (graph : GraphRetrievalExecutionMetadata) (code : Str)
    (h : x.execution.graphRetrieval = some graph) (hcode : code ≠ []) (hle : code.length ≤ 100) :
    Worsening x { x with
      execution := x.execution.withGraphRetrieval
        { graph with graphErrorCode := some code, graphErrorCode_le := by simpa using hle } }
  /-- The vector path records an error code. -/
  | setVectorErrorCode (x : GateInput) (graph : GraphRetrievalExecutionMetadata) (code : Str)
    (h : x.execution.graphRetrieval = some graph) (hcode : code ≠ []) (hle : code.length ≤ 100) :
    Worsening x { x with
      execution := x.execution.withGraphRetrieval
        { graph with vectorErrorCode := some code, vectorErrorCode_le := by simpa using hle } }
  /-- A retrieval record appears where there was none. -/
  | recordRetrieval (x : GateInput) (graph : GraphRetrievalExecutionMetadata)
    (h : x.execution.graphRetrieval = none) :
    Worsening x { x with execution := x.execution.withGraphRetrieval graph }

/-- Signals are at most as bad as themselves. -/
theorem QualityGateSignals.LE.refl (s : QualityGateSignals) : s.LE s :=
  ⟨le_rfl, id, id, id, id, id, id, id, id, id, id, id, id⟩

/-- The order of the signals is transitive. -/
theorem QualityGateSignals.LE.trans {s t u : QualityGateSignals} (h : s.LE t) (h' : t.LE u) :
    s.LE u :=
  ⟨h.1.trans h'.1, h'.2 ∘ h.2, h.3 ∘ h'.3, h.4 ∘ h'.4, h'.5 ∘ h.5, h'.6 ∘ h.6, h'.7 ∘ h.7,
    h'.8 ∘ h.8, h'.9 ∘ h.9, h'.10 ∘ h.10, h'.11 ∘ h.11, h.12 ∘ h'.12, h.13 ∘ h'.13⟩

/-- The fold that computes the maximum dominates its start and every element. -/
private theorem foldl_maxRiskLevel (levels : List RuntimeRiskLevel) (start : RuntimeRiskLevel) :
    (levels.foldl (fun best level => if best.index < level.index then level else best)
      start).index = (levels.map RuntimeRiskLevel.index).foldr max start.index := by
  induction levels generalizing start with
  | nil => rfl
  | cons level levels ih =>
    rw [List.foldl_cons, ih, List.map_cons, List.foldr_cons]
    have hmax : ∀ a b : ℕ, (levels.map RuntimeRiskLevel.index).foldr max (max a b) =
        max b ((levels.map RuntimeRiskLevel.index).foldr max a) := by
      intro a b
      induction levels.map RuntimeRiskLevel.index with
      | nil => exact max_comm a b
      | cons x xs ih => rw [List.foldr_cons, ih, List.foldr_cons, max_left_comm]
    have hstart : (if start.index < level.index then level else start).index =
        max start.index level.index := by
      split <;> omega
    rw [hstart, hmax]

/-- More risks never lower the maximal level. -/
theorem maxRiskLevel_mono {l l' : List RuntimeRiskLevel} (h : l.Sublist l') :
    (maxRiskLevel l).index ≤ (maxRiskLevel l').index := by
  unfold maxRiskLevel
  rw [foldl_maxRiskLevel, foldl_maxRiskLevel]
  induction h with
  | slnil => exact le_rfl
  | cons a _ ih => exact ih.trans (le_max_right _ _)
  | cons_cons a _ ih => exact max_le_max le_rfl ih

/-- Evidence and oversight are demanded from the level `HIGH` on. -/
theorem high_or_critical_mono {l l' : RuntimeRiskLevel} (h : l.index ≤ l'.index)
    (hl : (decide (l = .high) || decide (l = .critical)) = true) :
    (decide (l' = .high) || decide (l' = .critical)) = true := by
  cases l <;> cases l' <;> simp_all [RuntimeRiskLevel.index]

/-- The signals of two candidates whose execution is the only difference. -/
theorem GateInput.signals_le_of_execution {x : GateInput} {execution : ExecutionMetadata}
    (hdegraded : degradedExecution x.execution = true → degradedExecution execution = true)
    (hspecialist : specialistUnavailable x.execution = true →
      specialistUnavailable execution = true)
    (hretrieval : retrievalFailed x.execution = true → retrievalFailed execution = true)
    (htool : toolFailed x.execution = true → toolFailed execution = true) :
    x.signals.LE ({ x with execution } : GateInput).signals :=
  ⟨le_rfl, id, id, id, id, hdegraded, hspecialist, hretrieval, htool, id, id, id, id⟩

/-- A new retrieval record that is at least as bad as the old one raises the signals. -/
theorem GateInput.signals_le_withGraphRetrieval {x : GateInput}
    {graph : GraphRetrievalExecutionMetadata}
    (hdegraded : ∀ g ∈ x.execution.graphRetrieval,
      g.degradedGraphMode = true → graph.degradedGraphMode = true)
    (hfailed : ∀ g ∈ x.execution.graphRetrieval,
      (isSet g.graphErrorCode || isSet g.vectorErrorCode) = true →
        (isSet graph.graphErrorCode || isSet graph.vectorErrorCode) = true) :
    x.signals.LE
      ({ x with execution := x.execution.withGraphRetrieval graph } : GateInput).signals := by
  apply GateInput.signals_le_of_execution
  all_goals
    cases hx : x.execution with
    | deterministic m | singleAgent m | multiAgent m =>
      rw [hx] at hdegraded hfailed
      cases hg : m.graphRetrieval <;>
        simp_all [degradedExecution, specialistUnavailable, retrievalFailed, toolFailed,
          ExecutionMetadata.withGraphRetrieval, ExecutionMetadata.graphRetrieval] <;>
        exact Or.imp_left hdegraded

/-- A set error code is truthy. -/
theorem isSet_some {code : Str} (h : code ≠ []) : isSet (some code) = true := by
  cases code with
  | nil => exact absurd rfl h
  | cons c rest => rfl

/-- Every change for the worse raises the signals. -/
theorem Worsening.signals_le {x y : GateInput} (h : Worsening x y) : x.signals.LE y.signals := by
  cases h with
  | addRisks risks h =>
    have hlevel := maxRiskLevel_mono (h.map fun risk => severityOrder risk.severity)
    refine ⟨hlevel, high_or_critical_mono hlevel, id, id, id, id, id, id, id, id,
      high_or_critical_mono hlevel, id, ?_⟩
    intro hall
    simp only [GateInput.signals, deriveSignals, List.all_eq_true] at hall ⊢
    exact fun risk hrisk => hall risk (h.subset hrisk)
  | removeEvidence evidence h =>
    refine ⟨le_rfl, id, ?_, id, id, id, id, id, id, id, id, id, id⟩
    intro havailable
    simp only [GateInput.signals, deriveSignals, Bool.not_eq_true', List.isEmpty_eq_false_iff]
      at havailable ⊢
    intro hnil
    rw [hnil, List.sublist_nil] at h
    exact havailable h
  | invalidateProvenance =>
    exact ⟨le_rfl, id, id, fun h => by simp [GateInput.signals, deriveSignals] at h, id, id, id,
      id, id, id, id, id, id⟩
  | appendAgentTrace m events h =>
    apply GateInput.signals_le_of_execution <;> rw [h] <;> intro hs <;>
      simp_all [degradedExecution, specialistUnavailable, retrievalFailed, toolFailed,
        ExecutionMetadata.graphRetrieval]
  | appendMultiAgentTrace m events h =>
    apply GateInput.signals_le_of_execution <;> rw [h] <;> intro hs <;>
      simp_all [degradedExecution, specialistUnavailable, retrievalFailed, toolFailed,
        ExecutionMetadata.graphRetrieval]
  | failSpecialist m name h =>
    apply GateInput.signals_le_of_execution <;> rw [h] <;> intro hs
    · exact hs
    · cases name <;> simp [specialistUnavailable, MultiAgentStatuses.fail,
        MultiAgentStatuses.values]
    · exact hs
    · exact hs
  | setDegradedMode m h =>
    apply GateInput.signals_le_of_execution <;> rw [h] <;> intro hs
    · simp [degradedExecution]
    · exact hs
    · exact hs
    · exact hs
  | setDegradedGraphMode graph h =>
    apply GateInput.signals_le_withGraphRetrieval
    · intro g _ _
      rfl
    · intro g hg hs
      rw [h] at hg
      cases hg
      exact hs
  | setGraphErrorCode graph code h hcode hle =>
    apply GateInput.signals_le_withGraphRetrieval
    · intro g hg hs
      rw [h] at hg
      cases hg
      exact hs
    · intro g _ _
      simp [isSet_some hcode]
  | setVectorErrorCode graph code h hcode hle =>
    apply GateInput.signals_le_withGraphRetrieval
    · intro g hg hs
      rw [h] at hg
      cases hg
      exact hs
    · intro g _ _
      simp [isSet_some hcode]
  | recordRetrieval graph h =>
    apply GateInput.signals_le_withGraphRetrieval <;> rw [h] <;> simp

/-- Any sequence of changes for the worse raises the signals. -/
theorem Worsening.signals_le_of_chain {x y : GateInput}
    (h : Relation.ReflTransGen Worsening x y) : x.signals.LE y.signals := by
  induction h with
  | refl => exact .refl _
  | tail _ hstep ih => exact ih.trans hstep.signals_le

/-- Under a policy whose decisions do not get weaker with the level, no sequence of
changes for the worse lowers the priority of the gate's decision or removes a reason
other than the one for the level, and every decision except automatic completion
comes with a reason. -/
theorem gate_monotone_in_candidate (policy : RuntimeRiskPolicy) (hpolicy : policy.Monotone) :
    (∀ x y : GateInput, Relation.ReflTransGen Worsening x y →
      (evaluate policy x.signals).decision.priority ≤
          (evaluate policy y.signals).decision.priority ∧
        ∀ code ∈ (evaluate policy x.signals).reasonCodes, code.isRiskLevel = false →
          code ∈ (evaluate policy y.signals).reasonCodes) ∧
      ∀ x : GateInput, (evaluate policy x.signals).decision ≠ .autoComplete →
        (evaluate policy x.signals).reasonCodes ≠ [] := by
  refine ⟨fun x y hchain => ?_, fun x => reasonCodes_ne_nil⟩
  have hle := Worsening.signals_le_of_chain hchain
  exact ⟨evaluate_mono hpolicy hle, fun code hmem hcode => reasonCodes_mono hle hcode hmem⟩

/-- The default policy is monotone: for a candidate with one high risk, losing the
provenance turns the demanded review into a block. -/
theorem gate_monotone_in_candidate_default :
    let x : GateInput :=
      { result :=
          { executiveSummary := [], risks := [⟨.high, [65]⟩], reviewRecommended := true,
            informationGaps := [] }
        evidence := [], execution := .deterministic {}, provenanceValid := true }
    let y : GateInput := { x with provenanceValid := false }
    RuntimeRiskPolicy.Monotone {} ∧
      (evaluate {} x.signals).decision = .requireHumanReview ∧
      (evaluate {} y.signals).decision = .blockAndEscalate ∧
      (evaluate {} x.signals).decision.priority ≤ (evaluate {} y.signals).decision.priority :=
  ⟨by decide, by decide, by decide, ((gate_monotone_in_candidate {} (by decide)).1 _ _
    (.single (.invalidateProvenance _))).1⟩

end AssessmentPlatform
