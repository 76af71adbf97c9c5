import AssessmentPlatform.Tools.Registry

/-!
# The Evidence Agent

The bounded tool loop of the one specialist that may use tools, and the sanitized brief
that it hands over. The model provider is a parameter: it answers each decision request
with a tool call, without one, or by raising, and it generates the raw brief. A decision
request names its step, so a function of the request covers every sequence of answers.
-/

namespace AssessmentPlatform

open Library

/-- Explainable qualitative confidence shared by all specialists. -/
inductive SpecialistConfidence where
  | low | medium | high
  deriving DecidableEq

/-- One bounded evidence claim with explicit observed provenance. -/
structure EvidenceItem where
  claim : Str
  supportingDocumentIds : List UUID := []
  supportingChunkIds : List UUID := []
  relevance : Str
  notes : Option Str := none
  deriving DecidableEq

/-- Evidence Agent output passed to both independent specialist branches. -/
structure EvidenceBrief where
  summary : Str
  evidenceItems : List EvidenceItem := []
  evidenceGaps : List Str := []
  confidence : SpecialistConfidence
  retrievedDocumentIds : List UUID := []
  retrievedChunkIds : List UUID := []
  deriving DecidableEq

/-- `EvidenceBrief.unavailable`. -/
def EvidenceBrief.unavailable : EvidenceBrief where
  summary := ("External evidence analysis was unavailable; use assessment input only." : String)
  evidenceGaps := [("External evidence retrieval and analysis did not complete." : String)]
  confidence := .low

/-- Typed evidence handoff plus safe observations from one bounded execution. -/
structure EvidenceAgentOutcome where
  brief : EvidenceBrief
  evidence : List RetrievedEvidence := []
  documents : List ObservedKnowledgeDocument := []
  toolHistory : List ToolHistoryEntry := []
  stepsUsed : ℕ := 0
  terminationReason : AgentTerminationReason := .agentStopped
  graphNeighborhoods : List GraphNeighborhood := []
  graphRetrieval : Option GraphRetrievalExecutionMetadata := none

/-- What the tool loop has observed so far, with the cache of the execution. -/
structure EvidenceObservations where
  evidence : List RetrievedEvidence := []
  documents : List ObservedKnowledgeDocument := []
  graphNeighborhoods : List GraphNeighborhood := []
  history : List ToolHistoryEntry := []
  cache : ToolCache := []
  stepsUsed : ℕ := 0

/-- The configured agent with its model provider. -/
structure OpenAIEvidenceAgent (Args : Type) where
  tools : ToolRegistry Args
  maxSteps : ℕ
  maxToolCalls : ℕ
  decideToolCall : AssessmentRequest → EvidenceObservations → ℕ →
    Except Failure (Option (Str × ArgumentObject))
  generateBrief : AssessmentRequest → EvidenceObservations → Except Failure EvidenceBrief

/-! ## Observations -/

/-- The history entry of an answered call. -/
def ToolAnswer.historyEntry (answer : ToolAnswer) (step : ℕ) (name : Str) : ToolHistoryEntry where
  step
  toolName := name
  success := answer.result.success
  summary := answer.result.summary
  argumentKeys := answer.argumentKeys
  callFingerprint := answer.fingerprint
  cached := answer.result.cached
  errorCode := answer.result.errorCode
  graphRetrieval := answer.result.graphRetrieval

/-- `_merge_observations`: chunks and documents that are already known are left out. -/
def EvidenceObservations.mergeObservations (o : EvidenceObservations)
    (result : ToolExecutionResult) : EvidenceObservations :=
  { o with
    evidence := o.evidence ++ result.evidence.filter fun item =>
      item.chunkId ∉ o.evidence.map RetrievedEvidence.chunkId
    documents := match result.document with
      | some document =>
        if o.documents.all fun item => item.documentId ≠ document.documentId then
          o.documents ++ [document]
        else o.documents
      | none => o.documents
    graphNeighborhoods := o.graphNeighborhoods ++ result.graphNeighborhood.toList }

/-- The observations after the call of one step. -/
def EvidenceObservations.observe (o : EvidenceObservations) (step : ℕ) (name : Str)
    (answer : ToolAnswer) : EvidenceObservations :=
  { o.mergeObservations answer.result with
    history := o.history ++ [answer.historyEntry step name]
    cache := answer.cache
    stepsUsed := step }

/-- The document identifiers that a brief may cite. -/
def EvidenceObservations.allowedDocuments (o : EvidenceObservations) : List UUID :=
  o.evidence.map RetrievedEvidence.documentId ++
    o.documents.map ObservedKnowledgeDocument.documentId

/-- The chunk identifiers that a brief may cite. -/
def EvidenceObservations.allowedChunks (o : EvidenceObservations) : List UUID :=
  o.evidence.map RetrievedEvidence.chunkId

/-- An item with the observed ones of its identifiers, unless none is left. -/
def EvidenceObservations.sanitizeItem (o : EvidenceObservations) (item : EvidenceItem) :
    Option EvidenceItem :=
  let documentIds := item.supportingDocumentIds.filter (· ∈ o.allowedDocuments)
  let chunkIds := item.supportingChunkIds.filter (· ∈ o.allowedChunks)
  if documentIds = [] ∧ chunkIds = [] then none
  else some { item with supportingDocumentIds := documentIds, supportingChunkIds := chunkIds }

/-- `_sanitize_brief`. -/
def EvidenceObservations.sanitizeBrief (o : EvidenceObservations) (brief : EvidenceBrief) :
    EvidenceBrief :=
  { brief with
    evidenceItems := brief.evidenceItems.filterMap o.sanitizeItem
    retrievedDocumentIds := o.allowedDocuments.dedup.insertionSort (· ≤ ·)
    retrievedChunkIds := o.allowedChunks.dedup.insertionSort (· ≤ ·) }

/-- The last code that is recorded and not empty. -/
def lastErrorCode (codes : List (Option Str)) : Option Str :=
  codes.reverse.findSome? fun code => code.bind fun s => if s = [] then none else some s

/-- The last error code is one of the codes. -/
theorem lastErrorCode_mem {codes : List (Option Str)} {s : Str}
    (h : s ∈ lastErrorCode codes) : some s ∈ codes := by
  obtain ⟨code, hcode, hs⟩ := List.exists_of_findSome?_eq_some h
  obtain ⟨t, rfl, ht⟩ := Option.bind_eq_some_iff.mp hs
  split at ht
  · cases ht
  · cases ht
    exact List.mem_reverse.mp hcode

/-- `_aggregate_graph_metadata`. -/
def aggregateGraphMetadata (history : List ToolHistoryEntry) :
    Option GraphRetrievalExecutionMetadata :=
  match history.filterMap ToolHistoryEntry.graphRetrieval with
  | [] => none
  | observations => some
    { graphRetrievalUsed := observations.any (·.graphRetrievalUsed)
      matchedEntityCount := (observations.map (·.matchedEntityCount)).sum
      relationshipCount := (observations.map (·.relationshipCount)).sum
      graphDepthUsed := (observations.map (·.graphDepthUsed)).foldl max 0
      vectorEvidenceCount := (observations.map (·.vectorEvidenceCount)).sum
      graphEvidenceCount := (observations.map (·.graphEvidenceCount)).sum
      hybridEvidenceCount := (observations.map (·.hybridEvidenceCount)).sum
      degradedGraphMode := observations.any (·.degradedGraphMode)
      graphErrorCode := lastErrorCode (observations.map (·.graphErrorCode))
      vectorErrorCode := lastErrorCode (observations.map (·.vectorErrorCode))
      graphDepthUsed_le := by
        suffices h : ∀ (l : List ℕ) (n : ℕ), n ≤ 5 → (∀ d ∈ l, d ≤ 5) → l.foldl max n ≤ 5 by
          refine h _ 0 (by decide) fun d hd => ?_
          obtain ⟨m, -, rfl⟩ := List.mem_map.mp hd
          exact m.graphDepthUsed_le
        intro l
        induction l with
        | nil => exact fun n hn _ => hn
        | cons d l ih =>
          intro n hn hl
          exact ih _ (max_le hn (hl d (by simp))) fun e he => hl e (by simp [he])
      graphErrorCode_le := fun code hcode => by
        obtain ⟨m, -, hm⟩ := List.mem_map.mp (lastErrorCode_mem hcode)
        exact m.graphErrorCode_le code hm
      vectorErrorCode_le := fun code hcode => by
        obtain ⟨m, -, hm⟩ := List.mem_map.mp (lastErrorCode_mem hcode)
        exact m.vectorErrorCode_le code hm }

/-- The outcome for a raw brief. -/
def EvidenceObservations.outcome (o : EvidenceObservations)
    (terminationReason : AgentTerminationReason) (brief : EvidenceBrief) :
    EvidenceAgentOutcome where
  brief := o.sanitizeBrief brief
  evidence := o.evidence
  documents := o.documents
  toolHistory := o.history
  stepsUsed := o.stepsUsed
  terminationReason
  graphNeighborhoods := o.graphNeighborhoods
  graphRetrieval := aggregateGraphMetadata o.history

/-! ## The loop -/

section Loop

variable {Args : Type} (agent : OpenAIEvidenceAgent Args) (request : AssessmentRequest)

/-- The loop of `gather` with `n` further steps, the next of which is `step`. -/
def gatherLoop : ℕ → ℕ → EvidenceObservations →
    Prog (ToolLog Args) Failure (EvidenceObservations × AgentTerminationReason)
  | 0, _, o => pure (o, .maxStepsReached)
  | n + 1, step, o =>
    if agent.maxToolCalls ≤ o.history.length then pure (o, .maxToolCallsReached)
    else
      match agent.decideToolCall request o step with
      | .error e => throw e
      | .ok none => pure ({ o with stepsUsed := step }, .agentStopped)
      | .ok (some (name, raw)) => do
        let answer ← executePermitted agent.tools .evidence name raw o.cache
        gatherLoop n (step + 1) (o.observe step name answer)

/-- `gather`. -/
def gather : Prog (ToolLog Args) Failure EvidenceAgentOutcome := do
  let (o, terminationReason) ← gatherLoop agent request agent.maxSteps 1 {}
  match agent.generateBrief request o with
  | .error e => throw e
  | .ok brief => pure (o.outcome terminationReason brief)

variable {agent request}

/-- A gathering that returns has returned from its loop, and its brief has been generated. -/
theorem gather_eq_ok {outcome : EvidenceAgentOutcome} {log log' : ToolLog Args}
    (h : Prog.exec (gather agent request) log = (.ok outcome, log')) :
    ∃ o terminationReason brief,
      Prog.exec (gatherLoop agent request agent.maxSteps 1 {}) log =
        (.ok (o, terminationReason), log') ∧
      agent.generateBrief request o = .ok brief ∧ outcome = o.outcome terminationReason brief := by
  obtain ⟨⟨o, terminationReason⟩, s, hloop, hrest⟩ := Prog.exec_bind_eq_ok h
  dsimp only at hrest
  cases hbrief : agent.generateBrief request o with
  | error e =>
    rw [hbrief] at hrest
    cases hrest
  | ok brief =>
    rw [hbrief] at hrest
    cases hrest
    exact ⟨o, terminationReason, brief, hloop, hbrief, rfl⟩

end Loop

end AssessmentPlatform
