import AssessmentPlatform.Agents.Models

/-!
# Application settings

The settings that choose the execution mode and bound the single-agent loop and the chunks,
with the checks that accept them. Settings that no modelled function reads, and their own
checks, are left out.
-/

namespace AssessmentPlatform

/-- The modelled settings, with their defaults. -/
structure Settings where
  ragChunkSize : ℕ := 1200
  ragChunkOverlap : ℕ := 200
  agenticWorkflowEnabled : Bool := false
  agentMaxSteps : ℕ := 5
  agentMaxToolCalls : ℕ := 5
  langgraphRecursionLimit : ℕ := 25
  multiAgentWorkflowEnabled : Bool := false
  executionRoutingEnabled : Bool := true
  executionModeOverride : Option ExecutionMode := none

/-- The bounds of the fields. -/
structure Settings.Bounded (settings : Settings) : Prop where
  ragChunkSize : 200 ≤ settings.ragChunkSize ∧ settings.ragChunkSize ≤ 20000
  ragChunkOverlap : settings.ragChunkOverlap ≤ 5000
  agentMaxSteps : 1 ≤ settings.agentMaxSteps ∧ settings.agentMaxSteps ≤ 50
  agentMaxToolCalls : 1 ≤ settings.agentMaxToolCalls ∧ settings.agentMaxToolCalls ≤ 50
  langgraphRecursionLimit : 1 ≤ settings.langgraphRecursionLimit ∧
    settings.langgraphRecursionLimit ≤ 1000

/-- Settings that the field bounds and `validate_chunk_settings` accept. -/
structure Settings.Accepted (settings : Settings) : Prop extends settings.Bounded where
  overlap_lt : settings.ragChunkOverlap < settings.ragChunkSize
  recursionLimit_ge : settings.agenticWorkflowEnabled = true →
    settings.agentMaxSteps * 2 + 3 ≤ settings.langgraphRecursionLimit

end AssessmentPlatform
