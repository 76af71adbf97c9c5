import AssessmentPlatform.Evaluation.Rearrangement
import AssessmentPlatform.Library.Dominance

/-!
# The modes on the frontier

A comparison lists the modes of a case that no other mode dominates. Only metrics that both modes
have are compared, so dominance is not transitive. Which metrics are absent depends on three
features of an output (claims, specialists, important findings), and these exclude cycles.
-/

namespace AssessmentPlatform

open Library AssessmentEvaluation

/-- The result of one mode on one case. -/
structure AssessmentCaseEvaluationResult where
  mode : AssessmentEvaluationMode
  failed : Bool := false
  metrics : AssessmentQualityMetrics

/-- `METRIC_NAMES`. -/
def metricNames : List MetricName :=
  [.riskRecall, .riskPrecision, .severityConsistency, .controlCoverage, .governanceCoverage,
    .humanOversightAccuracy, .architectureFitScore, .overEngineeringAvoidance, .groundedness,
    .unsupportedClaimRate, .appropriateAbstentionRate, .specialistPreservation,
    .synthesisTransparency]

/-- The value of a metric in a comparison, where more is better. -/
def comparableValue (name : MetricName) (x : ℚ) : ℚ :=
  if name = .unsupportedClaimRate then 1 - x else x

/-- The pairs of values that are compared. -/
def comparable (candidate baseline : AssessmentCaseEvaluationResult) : List (ℚ × ℚ) :=
  metricNames.filterMap fun name =>
    match candidate.metrics.get name, baseline.metrics.get name with
    | some a, some b => some (comparableValue name a.val, comparableValue name b.val)
    | _, _ => none

/-- `_dominates`. -/
def dominates (candidate baseline : AssessmentCaseEvaluationResult) : Bool :=
  !(comparable candidate baseline).isEmpty &&
    (comparable candidate baseline).all (fun pair => pair.2 ≤ pair.1) &&
    (comparable candidate baseline).any (fun pair => pair.2 < pair.1)

/-- `_pareto_modes`. -/
def paretoModes (cases : List AssessmentCaseEvaluationResult) : List AssessmentEvaluationMode :=
  let available := cases.filter fun item => !item.failed
  (available.filter fun candidate =>
    !available.any fun other => other.mode ≠ candidate.mode && dominates other candidate).map
      AssessmentCaseEvaluationResult.mode

/-- The scores that a result is compared by. -/
def AssessmentCaseEvaluationResult.scores (result : AssessmentCaseEvaluationResult)
    (name : MetricName) : Option ℚ :=
  (result.metrics.get name).map fun rate => comparableValue name rate.val

/-- The result has the metrics of some valid output of the case. -/
def AssessmentCaseEvaluationResult.EvaluatedOn (result : AssessmentCaseEvaluationResult)
    (case : AssessmentEvaluationCase) (output : AssessmentEvaluationOutput) : Prop :=
  ∃ observations, evaluateAssessment case output = .ok (result.metrics, observations)

/-! ## The comparison -/

section Comparison

variable {candidate baseline : AssessmentCaseEvaluationResult}

/-- Every metric is listed. -/
theorem mem_metricNames (name : MetricName) : name ∈ metricNames := by
  cases name <;> decide

/-- The compared pairs are the scores that both results have. -/
theorem mem_comparable {pair : ℚ × ℚ} :
    pair ∈ comparable candidate baseline ↔
      ∃ name, candidate.scores name = some pair.1 ∧ baseline.scores name = some pair.2 := by
  unfold comparable AssessmentCaseEvaluationResult.scores
  rw [List.mem_filterMap]
  constructor
  · rintro ⟨name, -, hpair⟩
    refine ⟨name, ?_⟩
    split at hpair
    · rename_i a b ha hb
      rw [ha, hb]
      cases hpair
      exact ⟨rfl, rfl⟩
    · cases hpair
  · rintro ⟨name, hcandidate, hbaseline⟩
    refine ⟨name, mem_metricNames name, ?_⟩
    obtain ⟨a, ha, hfst⟩ := Option.map_eq_some_iff.mp hcandidate
    obtain ⟨b, hb, hsnd⟩ := Option.map_eq_some_iff.mp hbaseline
    rw [ha, hb]
    simp only [hfst, hsnd]

/-- The comparison decides dominance. -/
theorem dominates_iff :
    dominates candidate baseline = true ↔ Dominates candidate.scores baseline.scores := by
  unfold dominates
  rw [Bool.and_eq_true, Bool.and_eq_true, List.all_eq_true, List.any_eq_true]
  simp only [decide_eq_true_eq, mem_comparable]
  constructor
  · rintro ⟨⟨-, hall⟩, pair, ⟨name, ha, hb⟩, hlt⟩
    exact ⟨fun i a b ha hb => hall (a, b) ⟨i, ha, hb⟩, name, pair.1, pair.2, ha, hb, hlt⟩
  · rintro ⟨hle, name, a, b, ha, hb, hlt⟩
    have hmem : (a, b) ∈ comparable candidate baseline := mem_comparable.mpr ⟨name, ha, hb⟩
    refine ⟨⟨?_, fun pair ⟨i, ha, hb⟩ => hle i _ _ ha hb⟩, (a, b), ⟨name, ha, hb⟩, hlt⟩
    cases hempty : comparable candidate baseline with
    | nil => rw [hempty] at hmem; cases hmem
    | cons pair pairs => rfl

end Comparison

/-! ## Absent metrics -/

/-- The output has important findings of its specialists. -/
def HasImportantFindings (output : AssessmentEvaluationOutput) : Prop :=
  ∃ specialists, output.specialists = some specialists ∧ specialists.importantFindingIds ≠ []

/-- When an output has a metric. -/
def Scored (case : AssessmentEvaluationCase) (output : AssessmentEvaluationOutput) :
    MetricName → Prop
  | .severityConsistency => (matchedRisks case output).card ≠ 0
  | .overEngineeringAvoidance => simpleExpected case = true
  | .groundedness | .unsupportedClaimRate => output.claims ≠ []
  | .specialistPreservation => HasImportantFindings output
  | .synthesisTransparency => output.specialists ≠ none
  | _ => True

/-- A ratio is there unless it divides by zero. -/
theorem ratio_ne_none_iff {a b : ℕ} : ratio a b ≠ none ↔ b ≠ 0 := by
  unfold ratio
  split <;> simp_all

/-- A quality metric is there exactly if the output is scored by it. -/
theorem qualityValues_ne_none_iff {case : AssessmentEvaluationCase}
    {output : AssessmentEvaluationOutput} {name : MetricName} :
    (qualityValues case output).get name ≠ none ↔ Scored case output name := by
  cases name with
  | severityConsistency => exact ratio_ne_none_iff
  | overEngineeringAvoidance =>
    simp only [QualityMetrics.get, qualityValues, Scored]
    split <;> simp_all
  | groundedness =>
    exact ratio_ne_none_iff.trans (not_congr List.length_eq_zero_iff)
  | unsupportedClaimRate =>
    exact ratio_ne_none_iff.trans (not_congr List.length_eq_zero_iff)
  | specialistPreservation =>
    simp only [QualityMetrics.get, qualityValues, Scored, preservationValue, HasImportantFindings]
    cases output.specialists with
    | none => simp
    | some specialists =>
      rw [Option.bind_some, ratio_ne_none_iff]
      simp
  | synthesisTransparency =>
    simp only [QualityMetrics.get, qualityValues, Scored, transparencyValue]
    simp
  | _ => exact iff_of_true (Option.some_ne_none _) trivial

/-- A metric that two outputs have and a third one lacks depends on claims, on specialists or on
important findings, if the first and the third output match as many risks. -/
theorem absent_cases {case : AssessmentEvaluationCase} {name : MetricName}
    {first second third : AssessmentEvaluationOutput}
    (hmatched : (matchedRisks case first).card = (matchedRisks case third).card)
    (hfirst : Scored case first name) (hsecond : Scored case second name)
    (hthird : ¬ Scored case third name) :
    (first.claims ≠ [] ∧ second.claims ≠ [] ∧ third.claims = []) ∨
      (first.specialists ≠ none ∧ second.specialists ≠ none ∧ third.specialists = none) ∨
      (HasImportantFindings first ∧ HasImportantFindings second ∧
        ¬ HasImportantFindings third) := by
  cases name with
  | severityConsistency => exact absurd (fun hzero => hfirst (hmatched.trans hzero)) hthird
  | overEngineeringAvoidance => exact absurd hfirst hthird
  | groundedness => exact .inl ⟨hfirst, hsecond, not_not.mp hthird⟩
  | unsupportedClaimRate => exact .inl ⟨hfirst, hsecond, not_not.mp hthird⟩
  | specialistPreservation => exact .inr (.inr ⟨hfirst, hsecond, hthird⟩)
  | synthesisTransparency => exact .inr (.inl ⟨hfirst, hsecond, not_not.mp hthird⟩)
  | _ => exact absurd trivial hthird

/-- Important findings are those of specialists. -/
theorem HasImportantFindings.specialists {output : AssessmentEvaluationOutput}
    (h : HasImportantFindings output) : output.specialists ≠ none := by
  obtain ⟨specialists, hs, -⟩ := h
  simp [hs]

namespace AssessmentCaseEvaluationResult

variable {case : AssessmentEvaluationCase}
  {result first second third : AssessmentCaseEvaluationResult}
  {output output₁ output₂ output₃ : AssessmentEvaluationOutput}

/-- The scores of an evaluated result are the fractions of its output. -/
theorem EvaluatedOn.scores_eq (h : result.EvaluatedOn case output) (name : MetricName) :
    result.scores name =
      ((qualityValues case output).get name).map (comparableValue name) := by
  obtain ⟨observations, hok⟩ := h
  obtain ⟨metrics, hok', hvalues⟩ := evaluateAssessment_ok case output
  rw [hok] at hok'
  cases hok'
  rw [← hvalues, Option.map_map]
  rfl

/-- A result has exactly the metrics that its case and output are scored by. -/
theorem EvaluatedOn.scored_iff (h : result.EvaluatedOn case output) (name : MetricName) :
    result.scores name ≠ none ↔ Scored case output name := by
  rw [h.scores_eq, ← qualityValues_ne_none_iff, ne_eq, ne_eq, Option.map_eq_none_iff]

/-- The risk recall is always compared. -/
theorem EvaluatedOn.recall (h : result.EvaluatedOn case output) :
    result.scores .riskRecall =
      some (((matchedRisks case output).card : ℚ) / (expectedRisks case).length) :=
  h.scores_eq .riskRecall

/-- One step of a cycle is strict on a metric that the third output lacks. -/
theorem cycle_step (hfirst : first.EvaluatedOn case output₁)
    (hsecond : second.EvaluatedOn case output₂) (hthird : third.EvaluatedOn case output₃)
    (h₁ : Dominates first.scores second.scores) (h₂ : Dominates second.scores third.scores)
    (h₃ : Dominates third.scores first.scores) :
    (output₁.claims ≠ [] ∧ output₂.claims ≠ [] ∧ output₃.claims = []) ∨
      (output₁.specialists ≠ none ∧ output₂.specialists ≠ none ∧ output₃.specialists = none) ∨
      (HasImportantFindings output₁ ∧ HasImportantFindings output₂ ∧
        ¬ HasImportantFindings output₃) := by
  obtain ⟨name, hone, htwo, hthree⟩ := h₁.cycle_absent h₂ h₃
  have hrecall := h₁.cycle_eq h₂ h₃ hfirst.recall hsecond.recall hthird.recall
  have hlength : ((expectedRisks case).length : ℚ) ≠ 0 :=
    Nat.cast_ne_zero.mpr (expectedRisks_length_pos case).ne'
  have hmatched : (matchedRisks case output₁).card = (matchedRisks case output₃).card := by
    have hequal := hrecall.1.trans hrecall.2
    rwa [div_left_inj' hlength, Nat.cast_inj] at hequal
  refine absent_cases hmatched ((hfirst.scored_iff name).mp hone)
    ((hsecond.scored_iff name).mp htwo) fun hscored => ?_
  exact (hthird.scored_iff name).mpr hscored hthree

/-- The results of one case have no cycle of three. -/
theorem no_cycle (hfirst : first.EvaluatedOn case output₁)
    (hsecond : second.EvaluatedOn case output₂) (hthird : third.EvaluatedOn case output₃)
    (h₁ : Dominates first.scores second.scores) (h₂ : Dominates second.scores third.scores) :
    ¬ Dominates third.scores first.scores := by
  intro h₃
  have hstep₁ := cycle_step hfirst hsecond hthird h₁ h₂ h₃
  have hstep₂ := cycle_step hsecond hthird hfirst h₂ h₃ h₁
  have hstep₃ := cycle_step hthird hfirst hsecond h₃ h₁ h₂
  have himportant₁ := @HasImportantFindings.specialists output₁
  have himportant₂ := @HasImportantFindings.specialists output₂
  have himportant₃ := @HasImportantFindings.specialists output₃
  -- A feature that makes one step strict is lacked by one output, so it makes no other step strict.
  -- Important findings need specialists, so two features do not suffice for three steps.
  grind

end AssessmentCaseEvaluationResult

/-- Different modes are at most three. -/
theorem modes_length_le {modes : List AssessmentEvaluationMode} (h : modes.Nodup) :
    modes.length ≤ 3 := by
  have hsub : modes ⊆ [.deterministic, .singleAgent, .multiAgent] := by
    intro mode _
    cases mode <;> simp
  exact (List.subperm_of_subset h hsub).length_le

section Frontier

variable {case : AssessmentEvaluationCase} {results : List AssessmentCaseEvaluationResult}

/-- The available results of a comparison. -/
def availableResults (results : List AssessmentCaseEvaluationResult) :
    List AssessmentCaseEvaluationResult := results.filter fun item => !item.failed

/-- The available results are those that have not failed. -/
theorem mem_availableResults {result : AssessmentCaseEvaluationResult} :
    result ∈ availableResults results ↔ result ∈ results ∧ result.failed = false := by
  simp [availableResults]

/-- A mode is listed if its result is not dominated by the result of another mode. -/
theorem mem_paretoModes {mode : AssessmentEvaluationMode} :
    mode ∈ paretoModes results ↔ ∃ candidate ∈ availableResults results, candidate.mode = mode ∧
      ∀ other ∈ availableResults results, other.mode ≠ candidate.mode →
        ¬ Dominates other.scores candidate.scores := by
  unfold paretoModes
  simp only [List.mem_map, List.mem_filter, Bool.not_eq_true', List.any_eq_false,
    Bool.and_eq_true, decide_eq_true_eq, not_and, dominates_iff]
  constructor
  · rintro ⟨candidate, ⟨hmem, hnone⟩, hmode⟩
    refine ⟨candidate, mem_availableResults.mpr hmem, hmode, fun other hother => ?_⟩
    exact hnone other (mem_availableResults.mp hother)
  · rintro ⟨candidate, hmem, hmode, hnone⟩
    refine ⟨candidate, ⟨mem_availableResults.mp hmem, fun other hother => ?_⟩, hmode⟩
    exact hnone other (mem_availableResults.mpr hother)

/-- Results of distinct modes are told apart by their modes. -/
theorem eq_of_mode_eq (hmodes : (results.map AssessmentCaseEvaluationResult.mode).Nodup)
    {a b : AssessmentCaseEvaluationResult} (ha : a ∈ availableResults results)
    (hb : b ∈ availableResults results) (hmode : a.mode = b.mode) : a = b :=
  List.inj_on_of_nodup_map hmodes (mem_availableResults.mp ha).1 (mem_availableResults.mp hb).1
    hmode

/-- Some available result is dominated by no other one. -/
theorem exists_frontier (hmodes : (results.map AssessmentCaseEvaluationResult.mode).Nodup)
    (havailable : availableResults results ≠ [])
    (hevaluated : ∀ result ∈ availableResults results, ∃ output, result.EvaluatedOn case output) :
    ∃ candidate ∈ availableResults results, ∀ other ∈ availableResults results,
      ¬ Dominates other.scores candidate.scores := by
  have hlength : (availableResults results).length ≤ 3 := by
    have hle := (List.filter_sublist (p := fun item => !item.failed) (l := results)).length_le
    have hmodesLe := modes_length_le hmodes
    rw [List.length_map] at hmodesLe
    exact hle.trans hmodesLe
  refine exists_undominated havailable hlength (fun x _ => Dominates.irrefl)
    (fun x _ y _ hxy => hxy.asymm) fun x hx y hy z hz hxy hyz => ?_
  obtain ⟨first, hfirst⟩ := hevaluated x hx
  obtain ⟨second, hsecond⟩ := hevaluated y hy
  obtain ⟨third, hthird⟩ := hevaluated z hz
  exact AssessmentCaseEvaluationResult.no_cycle hfirst hsecond hthird hxy hyz

/-- The frontier of the results of one case is not empty. It lists a mode exactly if its result is
dominated by no available result of another mode. -/
theorem frontier_of_evaluated_modes
    (hmodes : (results.map AssessmentCaseEvaluationResult.mode).Nodup)
    (havailable : ∃ result ∈ results, result.failed = false)
    (hevaluated : ∀ result ∈ results, result.failed = false →
      ∃ output, result.EvaluatedOn case output) :
    paretoModes results ≠ [] ∧
      ∀ candidate ∈ results, candidate.failed = false →
        (candidate.mode ∈ paretoModes results → ∀ other ∈ results, other.failed = false →
          other.mode ≠ candidate.mode → ¬ Dominates other.scores candidate.scores) ∧
        (candidate.mode ∉ paretoModes results → ∃ other ∈ results, other.failed = false ∧
          other.mode ≠ candidate.mode ∧ Dominates other.scores candidate.scores) := by
  have hsome : availableResults results ≠ [] := by
    obtain ⟨result, hmem, hfailed⟩ := havailable
    exact List.ne_nil_of_mem (mem_availableResults.mpr ⟨hmem, hfailed⟩)
  refine ⟨?_, fun candidate hmem hfailed => ⟨fun hlisted other hother hok hmode => ?_,
    fun hunlisted => ?_⟩⟩
  · obtain ⟨candidate, hmem, hnone⟩ := exists_frontier hmodes hsome fun result hresult =>
      hevaluated result (mem_availableResults.mp hresult).1 (mem_availableResults.mp hresult).2
    exact List.ne_nil_of_mem (mem_paretoModes.mpr
      ⟨candidate, hmem, rfl, fun other hother _ => hnone other hother⟩)
  · obtain ⟨listed, hlistedMem, hsame, hnone⟩ := mem_paretoModes.mp hlisted
    have hequal := eq_of_mode_eq hmodes hlistedMem (mem_availableResults.mpr ⟨hmem, hfailed⟩) hsame
    subst hequal
    exact hnone other (mem_availableResults.mpr ⟨hother, hok⟩) hmode
  · by_contra hnone
    push Not at hnone
    refine hunlisted (mem_paretoModes.mpr
      ⟨candidate, mem_availableResults.mpr ⟨hmem, hfailed⟩, rfl, fun other hother hmode => ?_⟩)
    obtain ⟨hotherMem, hok⟩ := mem_availableResults.mp hother
    exact hnone other hotherMem hok hmode

/-- The frontier of two modes of a case is not empty. -/
theorem two_modes_frontier :
    ∃ metrics metrics' observations observations',
      evaluateAssessment privacyCase expectedFirst = .ok (metrics, observations) ∧
      evaluateAssessment privacyCase (privacyOutput [securityRisk] (by decide)) =
        .ok (metrics', observations') ∧
      paretoModes [{ mode := .deterministic, metrics := metrics },
        { mode := .multiAgent, metrics := metrics' }] ≠ [] := by
  obtain ⟨metrics, hok, -⟩ := evaluateAssessment_ok privacyCase expectedFirst
  obtain ⟨metrics', hok', -⟩ :=
    evaluateAssessment_ok privacyCase (privacyOutput [securityRisk] (by decide))
  refine ⟨metrics, metrics', _, _, hok, hok', ?_⟩
  refine (@frontier_of_evaluated_modes privacyCase _ (by simp)
    ⟨_, List.mem_cons_self, rfl⟩ fun result hresult _ => ?_).1
  rcases List.mem_pair.mp hresult with rfl | rfl
  · exact ⟨_, _, hok⟩
  · exact ⟨_, _, hok'⟩

end Frontier

end AssessmentPlatform
