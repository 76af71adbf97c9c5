import AssessmentPlatform.Runtime.Models
import Mathlib.Algebra.Order.Field.Rat

/-!
# Operational telemetry

The summary of one execution that the checkpoint carries: counters, durations and
compact events, without any payload.
-/

namespace AssessmentPlatform

/-- Explicit configured pricing only; a missing counter or price gives no estimate. -/
def calculateEstimatedCost (usage : Option ProviderTokenUsage)
    (inputCostPerMillion outputCostPerMillion : Option ℚ) : Option ℚ := do
  let usage ← usage
  let inputTokens ← usage.inputTokens
  let outputTokens ← usage.outputTokens
  let inputCost ← inputCostPerMillion
  let outputCost ← outputCostPerMillion
  pure ((inputTokens * inputCost + outputTokens * outputCost) / 1000000)

/-- The counters of an execution: tool calls, model calls, specialist and synthesis
durations, degradation, and the reason of termination. -/
structure ExecutionCounters where
  toolCalls : ℕ := 0
  modelCalls : Option ℕ
  specialistDurations : Option MultiAgentDurations := none
  synthesisDuration : Option ℕ := none
  degraded : Bool := false
  termination : Str := ("completed" : String)

/-- The counters that `build_operational_telemetry` reads off the execution metadata. -/
def executionCounters (execution : ExecutionMetadata) (modelCallCount : Option ℕ) :
    ExecutionCounters :=
  match execution with
  | .deterministic _ => { modelCalls := some (modelCallCount.getD 1) }
  | .singleAgent m =>
    { toolCalls := m.toolsUsed.length
      modelCalls := some (modelCallCount.getD (m.stepsUsed + 1))
      degraded := m.terminationReason ≠ .completed && m.terminationReason ≠ .agentStopped
      termination := m.terminationReason.value }
  | .multiAgent m =>
    { toolCalls := m.toolCalls
      modelCalls := some (modelCallCount.getD (m.agentStatuses.values.count .completed))
      specialistDurations := some m.agentDurationsMs
      synthesisDuration := m.agentDurationsMs.synthesis
      degraded := m.degradedMode
      termination := m.terminationReason.value }

/-- The health that a gate decision and the degradation of the execution amount to. -/
def executionHealth (gateDecision : RuntimeRiskDecision) (degraded : Bool) : ExecutionHealth :=
  match gateDecision with
  | .requireHumanReview => .pendingHumanReview
  | .blockAndEscalate => .blocked
  | _ => if degraded then .degraded else .full

/-- The validation of a telemetry record. -/
def OperationalTelemetry.validate (telemetry : OperationalTelemetry) :
    Except Failure OperationalTelemetry :=
  if telemetry.Valid then .ok telemetry else .error .value

/-- Telemetry that is validated is valid. -/
theorem OperationalTelemetry.valid_of_validate {telemetry validated : OperationalTelemetry}
    (h : telemetry.validate = .ok validated) : validated.Valid := by
  unfold OperationalTelemetry.validate at h
  split at h
  · cases h
    assumption
  · cases h

/-- Validation does not change the telemetry. -/
theorem OperationalTelemetry.eq_of_validate {telemetry validated : OperationalTelemetry}
    (h : telemetry.validate = .ok validated) : validated = telemetry := by
  unfold OperationalTelemetry.validate at h
  split at h
  · cases h
    rfl
  · cases h

/-- `build_operational_telemetry`; the numeric limits of the model are checked last. -/
def buildOperationalTelemetry (execution : ExecutionMetadata) (durationMs : ℤ)
    (gateDecision : RuntimeRiskDecision) (tokenUsage : Option ProviderTokenUsage)
    (evidenceCount : ℕ) (modelCallCount : Option ℕ)
    (inputCostPerMillion outputCostPerMillion : Option ℚ) (requestId : Option RequestId)
    (now : Time) : Except Failure OperationalTelemetry :=
  let graph := execution.graphRetrieval
  let counters := executionCounters execution modelCallCount
  let telemetry : OperationalTelemetry :=
    { requestId
      executionMode := execution.executionMode
      executionHealth := executionHealth gateDecision counters.degraded
      totalDurationMs := durationMs
      executionDurationMs := durationMs
      synthesisDurationMs := counters.synthesisDuration
      modelCallCount := counters.modelCalls
      toolCallCount := counters.toolCalls
      graphRetrievalUsed := graph.any fun g => g.graphRetrievalUsed
      vectorRetrievalUsed := evidenceCount ≠ 0 &&
        graph.all fun g => 0 < g.vectorEvidenceCount || 0 < g.hybridEvidenceCount
      specialistDurationsMs := counters.specialistDurations
      degradedStateCount := if counters.degraded then 1 else 0
      humanReviewStatus :=
        if gateDecision = .requireHumanReview then .pending else .notRequired
      terminationReason := counters.termination
      tokenUsage
      estimatedCost := calculateEstimatedCost tokenUsage inputCostPerMillion outputCostPerMillion
      events :=
        [{ timestamp := now - 1000 * durationMs, requestId, eventType := .assessmentStarted
           component := ("assessment" : String), status := ("started" : String) },
         { timestamp := now, requestId, eventType := .qualityGateEvaluated
           component := ("runtime_risk_gate" : String), status := gateDecision.value
           durationMs := some 0 }] }
  telemetry.validate

end AssessmentPlatform
