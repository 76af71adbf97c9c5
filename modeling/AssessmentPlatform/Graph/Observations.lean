import AssessmentPlatform.Graph.ToolUse

/-!
# Observations

Both agents accumulate the evidence of their tool results, one in a list with a membership test,
the other in a dictionary that is rebuilt in each step. The Evidence Agent then reduces the
provenance of its brief to what was observed. This file compares the two accumulators and states
what the reduction leaves.
-/

namespace AssessmentPlatform

open Library

/-! ## Accumulation -/

/-- The observations after the results of some calls. -/
def mergeResults (results : List ToolExecutionResult) : EvidenceObservations :=
  results.foldl EvidenceObservations.mergeObservations {}

/-- An answered call of the single agent, with the event that its node records. -/
structure ObservedCall where
  name : Str
  answer : ToolAnswer
  event : AgentTraceEvent

/-- The state of the single agent after some answered calls. -/
def AssessmentGraphState.observeAll (state : AssessmentGraphState) (calls : List ObservedCall) :
    AssessmentGraphState :=
  calls.foldl (fun s call => s.observed call.name call.answer call.event) state

/-- Every result holds each chunk at most once. -/
def DistinctChunks (results : List ToolExecutionResult) : Prop :=
  ∀ result ∈ results, (result.evidence.map RetrievedEvidence.chunkId).Nodup

section Accumulation

variable {results : List ToolExecutionResult}

/-- The results are merged one by one. -/
theorem mergeResults_concat (results : List ToolExecutionResult) (result : ToolExecutionResult) :
    mergeResults (results ++ [result]) = (mergeResults results).mergeObservations result := by
  simp [mergeResults, List.foldl_append]

/-- The Evidence Agent keeps the first item of each chunk. -/
theorem mergeResults_evidence (h : DistinctChunks results) :
    (mergeResults results).evidence =
      distinctBy RetrievedEvidence.chunkId (results.flatMap ToolExecutionResult.evidence) := by
  induction results using List.reverseRecOn with
  | nil => rfl
  | append_singleton results result ih =>
    have hbefore : DistinctChunks results := fun earlier hearlier =>
      h earlier (List.mem_append_left _ hearlier)
    have hlast := h result (List.mem_append_right _ (List.mem_singleton_self result))
    rw [mergeResults_concat, List.flatMap_append, List.flatMap_singleton, distinctBy_append,
      ← ih hbefore]
    exact append_filter_new hlast _

/-- One call of the single agent adds the items of new chunks. -/
theorem observed_retrievedEvidence {state : AssessmentGraphState}
    (h : (state.retrievedEvidence.map RetrievedEvidence.chunkId).Nodup) (name : Str)
    (answer : ToolAnswer) (event : AgentTraceEvent) :
    (state.observed name answer event).retrievedEvidence = answer.result.evidence.foldl
      (fun known item => setDefaultBy RetrievedEvidence.chunkId item known)
      state.retrievedEvidence := by
  have hdict : putAll RetrievedEvidence.chunkId (fun _ item => item) [] state.retrievedEvidence =
      state.retrievedEvidence := dictBy_eq h
  rw [AssessmentGraphState.observed, hdict]

/-- So does the single agent, whatever its results hold. -/
theorem observeAll_retrievedEvidence (calls : List ObservedCall) {state : AssessmentGraphState}
    (hstart : state.retrievedEvidence = []) :
    (state.observeAll calls).retrievedEvidence = distinctBy RetrievedEvidence.chunkId
      ((calls.map fun call => call.answer.result).flatMap ToolExecutionResult.evidence) := by
  induction calls using List.reverseRecOn with
  | nil => exact hstart
  | append_singleton calls call ih =>
    rw [List.map_append, List.map_cons, List.map_nil, List.flatMap_append, List.flatMap_singleton,
      distinctBy_append, ← ih]
    have hnodup : ((state.observeAll calls).retrievedEvidence.map
        RetrievedEvidence.chunkId).Nodup := by
      rw [ih]
      exact nodup_map_distinctBy _
    have hconcat : state.observeAll (calls ++ [call]) =
        (state.observeAll calls).observed call.name call.answer call.event := by
      simp [AssessmentGraphState.observeAll, List.foldl_append]
    rw [hconcat, observed_retrievedEvidence hnodup]

/-- The chunks that were observed are those of all results. -/
theorem mem_allowedChunks {id : UUID} :
    id ∈ (mergeResults results).allowedChunks ↔
      ∃ result ∈ results, id ∈ result.evidence.map RetrievedEvidence.chunkId := by
  induction results using List.reverseRecOn with
  | nil => simp [mergeResults, EvidenceObservations.allowedChunks]
  | append_singleton results result ih =>
    have hstep : id ∈ (mergeResults (results ++ [result])).allowedChunks ↔
        id ∈ (mergeResults results).allowedChunks ∨
          id ∈ result.evidence.map RetrievedEvidence.chunkId := by
      simp only [mergeResults_concat, EvidenceObservations.allowedChunks,
        EvidenceObservations.mergeObservations, List.map_append, List.mem_append, List.mem_map,
        List.mem_filter, decide_eq_true_eq]
      constructor
      · rintro (hknown | ⟨item, ⟨hitem, -⟩, rfl⟩)
        · exact .inl hknown
        · exact .inr ⟨item, hitem, rfl⟩
      · rintro (hknown | ⟨item, hitem, rfl⟩)
        · exact .inl hknown
        · by_cases hnew : item.chunkId ∈ (mergeResults results).evidence.map
              RetrievedEvidence.chunkId
          · exact .inl (List.mem_map.mp hnew)
          · exact .inr ⟨item, ⟨hitem, fun h => hnew (List.mem_map.mpr h)⟩, rfl⟩
    rw [hstep, ih]
    simp [or_and_right, exists_or]

/-- The documents that were observed are those of the accumulated evidence and those that a
result has returned. -/
theorem mem_allowedDocuments {id : UUID} :
    id ∈ (mergeResults results).allowedDocuments ↔
      id ∈ (mergeResults results).evidence.map RetrievedEvidence.documentId ∨
        ∃ result ∈ results, ∃ document ∈ result.document, document.documentId = id := by
  suffices hdocuments : id ∈ (mergeResults results).documents.map
      ObservedKnowledgeDocument.documentId ↔
        ∃ result ∈ results, ∃ document ∈ result.document, document.documentId = id by
    rw [EvidenceObservations.allowedDocuments, List.mem_append, hdocuments]
  induction results using List.reverseRecOn with
  | nil => simp [mergeResults]
  | append_singleton results result ih =>
    have hstep : id ∈ (mergeResults (results ++ [result])).documents.map
        ObservedKnowledgeDocument.documentId ↔
          id ∈ (mergeResults results).documents.map ObservedKnowledgeDocument.documentId ∨
            ∃ document ∈ result.document, document.documentId = id := by
      rw [mergeResults_concat]
      unfold EvidenceObservations.mergeObservations
      cases hdocument : result.document with
      | none => simp
      | some document =>
        dsimp only
        split
        · simp [eq_comm]
        · rename_i hknown
          simp only [List.all_eq_true, decide_eq_true_eq, not_forall, not_not] at hknown
          obtain ⟨item, hitem, hsame⟩ := hknown
          refine ⟨.inl, fun h => h.elim (fun hmem => hmem) ?_⟩
          rintro ⟨_, ⟨⟩, rfl⟩
          exact List.mem_map.mpr ⟨item, hitem, hsame⟩
    rw [hstep, ih]
    simp [or_and_right, exists_or]

end Accumulation

/-! ## The sanitized brief -/

/-- `validate_item_provenance`: every identifier that an item cites is declared by the brief. -/
def EvidenceBrief.validateItemProvenance (brief : EvidenceBrief) : Except Failure EvidenceBrief :=
  if ∀ item ∈ brief.evidenceItems,
      (∀ id ∈ item.supportingDocumentIds, id ∈ brief.retrievedDocumentIds) ∧
        ∀ id ∈ item.supportingChunkIds, id ∈ brief.retrievedChunkIds
  then .ok brief
  else .error .value

/-- An item cites something that was observed. -/
def EvidenceObservations.Cited (o : EvidenceObservations) (item : EvidenceItem) : Prop :=
  (∃ id ∈ item.supportingDocumentIds, id ∈ o.allowedDocuments) ∨
    ∃ id ∈ item.supportingChunkIds, id ∈ o.allowedChunks

instance (o : EvidenceObservations) (item : EvidenceItem) : Decidable (o.Cited item) :=
  inferInstanceAs (Decidable (_ ∨ _))

/-- An item with its observed identifiers, in order. -/
def EvidenceObservations.observedPart (o : EvidenceObservations) (item : EvidenceItem) :
    EvidenceItem :=
  { item with
    supportingDocumentIds := item.supportingDocumentIds.filter (· ∈ o.allowedDocuments)
    supportingChunkIds := item.supportingChunkIds.filter (· ∈ o.allowedChunks) }

/-- What is left of a brief: the items that cite something observed, reduced to it, behind
declarations of exactly what was observed. -/
structure EvidenceObservations.Sanitized (o : EvidenceObservations)
    (brief sanitized : EvidenceBrief) : Prop where
  items : sanitized.evidenceItems =
    (brief.evidenceItems.filter fun item => o.Cited item).map o.observedPart
  documents : ∀ id, id ∈ sanitized.retrievedDocumentIds ↔ id ∈ o.allowedDocuments
  chunks : ∀ id, id ∈ sanitized.retrievedChunkIds ↔ id ∈ o.allowedChunks
  declared_once : sanitized.retrievedDocumentIds.Nodup ∧ sanitized.retrievedChunkIds.Nodup
  other_fields : (sanitized.summary, sanitized.evidenceGaps, sanitized.confidence) =
    (brief.summary, brief.evidenceGaps, brief.confidence)
  valid : sanitized.validateItemProvenance = .ok sanitized
  again : o.sanitizeBrief sanitized = sanitized

section Brief

variable (o : EvidenceObservations) (brief : EvidenceBrief)

/-- An item of a brief is kept if it cites an observation, and reduced to what was observed. -/
theorem sanitizeItem_eq (item : EvidenceItem) :
    o.sanitizeItem item = if o.Cited item then some (o.observedPart item) else none := by
  have hnone : item.supportingDocumentIds.filter (· ∈ o.allowedDocuments) = [] ∧
      item.supportingChunkIds.filter (· ∈ o.allowedChunks) = [] ↔ ¬ o.Cited item := by
    simp [EvidenceObservations.Cited, List.filter_eq_nil_iff]
  unfold EvidenceObservations.sanitizeItem
  by_cases hcited : o.Cited item
  · rw [if_neg (fun h => hnone.mp h hcited), if_pos hcited]
    rfl
  · rw [if_pos (hnone.mpr hcited), if_neg hcited]

/-- The items of a sanitized brief are the citing ones, in their order. -/
theorem sanitizeBrief_items : (o.sanitizeBrief brief).evidenceItems =
    (brief.evidenceItems.filter fun item => o.Cited item).map o.observedPart := by
  change brief.evidenceItems.filterMap o.sanitizeItem = _
  induction brief.evidenceItems with
  | nil => rfl
  | cons item items ih =>
    rw [List.filterMap_cons, sanitizeItem_eq, ih]
    by_cases hcited : o.Cited item
    · rw [if_pos hcited, List.filter_cons_of_pos (by simpa using hcited), List.map_cons]
    · rw [if_neg hcited, List.filter_cons_of_neg (by simpa using hcited)]

/-- A reduced item is not reduced again. -/
theorem sanitizeItem_observedPart {item : EvidenceItem} (h : o.Cited item) :
    o.sanitizeItem (o.observedPart item) = some (o.observedPart item) := by
  have hcited : o.Cited (o.observedPart item) := by
    rcases h with ⟨id, hid, hallowed⟩ | ⟨id, hid, hallowed⟩
    · exact .inl ⟨id, List.mem_filter.mpr ⟨hid, by simpa using hallowed⟩, hallowed⟩
    · exact .inr ⟨id, List.mem_filter.mpr ⟨hid, by simpa using hallowed⟩, hallowed⟩
  rw [sanitizeItem_eq, if_pos hcited]
  simp [EvidenceObservations.observedPart, List.filter_filter]

/-- The sorted identifiers are the given ones. -/
theorem mem_declared {ids : List UUID} {id : UUID} :
    id ∈ ids.dedup.insertionSort (· ≤ ·) ↔ id ∈ ids := by
  rw [List.mem_insertionSort, List.mem_dedup]

/-- The sorted identifiers are distinct. -/
theorem nodup_declared (ids : List UUID) : (ids.dedup.insertionSort (· ≤ ·)).Nodup :=
  (List.perm_insertionSort _ _).nodup_iff.mpr ids.nodup_dedup

/-- The brief that is returned is sanitized. -/
theorem sanitizeBrief_sanitized : o.Sanitized brief (o.sanitizeBrief brief) := by
  have hitems := sanitizeBrief_items o brief
  refine ⟨hitems, fun _ => mem_declared, fun _ => mem_declared,
    ⟨nodup_declared _, nodup_declared _⟩, rfl, if_pos ?_, ?_⟩
  · intro item hitem
    rw [hitems] at hitem
    obtain ⟨source, -, rfl⟩ := List.mem_map.mp hitem
    constructor
    · intro id hid
      exact mem_declared.mpr (by simpa using (List.mem_filter.mp hid).2)
    · intro id hid
      exact mem_declared.mpr (by simpa using (List.mem_filter.mp hid).2)
  · have hagain : (o.sanitizeBrief brief).evidenceItems.filterMap o.sanitizeItem =
        (o.sanitizeBrief brief).evidenceItems := by
      rw [hitems, List.filterMap_map]
      refine (List.filterMap_congr fun item hitem => ?_).trans (congrFun List.filterMap_eq_map _)
      have hcited : o.Cited item := by simpa using (List.mem_filter.mp hitem).2
      exact sanitizeItem_observedPart o hcited
    unfold EvidenceObservations.sanitizeBrief at hagain ⊢
    rw [hagain]

end Brief

/-! ## Runs of the two agents -/

section Runs

variable {Args : Type}

/-- The results of the calls that were answered, in order. -/
def ToolLog.results (log : ToolLog Args) : List ToolExecutionResult :=
  log.calls.map ToolCall.result

/-- A tool call adds the result of its answer to the log. -/
theorem Answered.results_eq {registry : ToolRegistry Args} {allowed : Str → Prop} {name : Str}
    {raw : ArgumentObject} {cache : ToolCache} {log log' : ToolLog Args} {answer : ToolAnswer}
    (h : Answered registry allowed name raw cache log answer log') :
    log'.results = log.results ++ [answer.result] := by
  unfold ToolLog.results
  rw [h.calls_eq, List.map_append]
  rfl

/-- The part of the observations on which a brief depends. -/
def EvidenceObservations.Observed (o : EvidenceObservations)
    (results : List ToolExecutionResult) : Prop :=
  o.evidence = (mergeResults results).evidence ∧ o.documents = (mergeResults results).documents

/-- An observation keeps the accumulator in step with the results. -/
theorem EvidenceObservations.Observed.observe {o : EvidenceObservations}
    {results : List ToolExecutionResult} (h : o.Observed results) (step : ℕ) (name : Str)
    (answer : ToolAnswer) : (o.observe step name answer).Observed (results ++ [answer.result]) := by
  obtain ⟨hevidence, hdocuments⟩ := h
  unfold EvidenceObservations.Observed EvidenceObservations.observe
  rw [mergeResults_concat]
  unfold EvidenceObservations.mergeObservations
  rw [hevidence, hdocuments]
  exact ⟨rfl, rfl⟩

/-- A brief is sanitized in the same way from the merged results. -/
theorem EvidenceObservations.Observed.sanitizeBrief_eq {o : EvidenceObservations}
    {results : List ToolExecutionResult} (h : o.Observed results) (brief : EvidenceBrief) :
    o.sanitizeBrief brief = (mergeResults results).sanitizeBrief brief := by
  obtain ⟨hevidence, hdocuments⟩ := h
  have hallowedDocuments : o.allowedDocuments = (mergeResults results).allowedDocuments := by
    unfold EvidenceObservations.allowedDocuments
    rw [hevidence, hdocuments]
  have hallowedChunks : o.allowedChunks = (mergeResults results).allowedChunks := by
    unfold EvidenceObservations.allowedChunks
    rw [hevidence]
  have hitem : o.sanitizeItem = (mergeResults results).sanitizeItem := by
    funext item
    unfold EvidenceObservations.sanitizeItem
    rw [hallowedDocuments, hallowedChunks]
  unfold EvidenceObservations.sanitizeBrief
  rw [hitem, hallowedDocuments, hallowedChunks]

/-- The loop of the Evidence Agent observes the results of its calls. -/
theorem gatherLoop_observed {agent : OpenAIEvidenceAgent Args} {request : AssessmentRequest}
    (n step : ℕ) {o o' : EvidenceObservations} {log log' : ToolLog Args}
    {terminationReason : AgentTerminationReason} (h : o.Observed log.results)
    (hexec : Prog.exec (gatherLoop agent request n step o) log =
      (.ok (o', terminationReason), log')) : o'.Observed log'.results := by
  induction n generalizing step o log with
  | zero =>
    cases hexec
    exact h
  | succ n ih =>
    unfold gatherLoop at hexec
    split at hexec
    · cases hexec
      exact h
    · split at hexec
      · cases hexec
      · cases hexec
        exact h
      · rename_i name raw _
        rw [Prog.exec_bind] at hexec
        rcases exec_executePermitted agent.tools name raw o.cache log .evidence with
          ⟨e, hcall⟩ | ⟨answer, log₁, hcall, hanswer⟩
        · rw [hcall] at hexec
          cases hexec
        · rw [hcall] at hexec
          refine ih (step + 1) ?_ hexec
          rw [hanswer.results_eq]
          exact h.observe step name answer

/-- The brief of a run of the Evidence Agent is sanitized by the results of its calls. -/
theorem gather_observed {agent : OpenAIEvidenceAgent Args} {request : AssessmentRequest}
    {outcome : EvidenceAgentOutcome} {log : ToolLog Args}
    (hexec : Prog.exec (gather agent request) {} = (.ok outcome, log)) :
    outcome.evidence = (mergeResults log.results).evidence ∧
      ∃ raw, outcome.brief = (mergeResults log.results).sanitizeBrief raw := by
  obtain ⟨o, terminationReason, raw, hloop, -, rfl⟩ := gather_eq_ok hexec
  have hobserved := gatherLoop_observed agent.maxSteps 1
    (show EvidenceObservations.Observed {} _ from ⟨rfl, rfl⟩) hloop
  exact ⟨hobserved.1, raw, hobserved.sanitizeBrief_eq raw⟩

/-- The evidence of an execution of the single agent that has not raised. -/
def GraphExecution.Accumulated (execution : GraphExecution Args) : Prop :=
  (∀ e, execution.status ≠ .raised e) → execution.state.retrievedEvidence =
    distinctBy RetrievedEvidence.chunkId
      (execution.log.results.flatMap ToolExecutionResult.evidence)

/-- A node keeps the evidence that has been accumulated. -/
theorem GraphExecution.Accumulated.advance {agent : AssessmentAgent} {registry : ToolRegistry Args}
    {execution : GraphExecution Args} (h : execution.Accumulated) :
    (execution.advance agent registry).Accumulated := by
  cases hstatus : execution.status with
  | ended => rwa [execution.advance_of_ended agent registry hstatus]
  | raised e => rwa [execution.advance_of_raised agent registry hstatus]
  | next node =>
    rw [execution.advance_of_next agent registry hstatus]
    have hcurrent := h fun e he => by cases hstatus.symm.trans he
    by_cases hnode : node = .executeTool
    · subst hnode
      dsimp only [GraphNode.run]
      rcases exec_executeTool_cases registry execution.state execution.log with
        ⟨e, hexec⟩ | ⟨answer, log', hanswer, ⟨e, hexec⟩ | ⟨event, hexec⟩⟩
      · rw [hexec]
        exact fun hraised => absurd rfl (hraised e)
      · rw [hexec]
        exact fun hraised => absurd rfl (hraised e)
      · rw [hexec]
        intro _
        rw [hanswer.results_eq, List.flatMap_append, List.flatMap_singleton, distinctBy_append,
          ← hcurrent]
        refine observed_retrievedEvidence ?_ _ _ _
        rw [hcurrent]
        exact nodup_map_distinctBy _
    · obtain ⟨result, hresult, hkept⟩ := GraphNode.run_logless hnode execution.state
      rw [hresult]
      cases result with
      | error e => exact fun hraised => absurd rfl (hraised e)
      | ok state => exact fun _ => (hkept state rfl).2.trans hcurrent

variable (agent : AssessmentAgent) (registry : ToolRegistry Args) in
/-- In every state of a run the evidence is what its results have. -/
theorem accumulated_executionAfter {state : AssessmentGraphState}
    (hstart : state.retrievedEvidence = []) (n : ℕ) :
    (executionAfter agent registry state n).Accumulated := by
  induction n with
  | zero => exact fun _ => hstart
  | succ n ih => exact ih.advance

/-- Whenever the calls of the two agents have the same results, each with distinct chunks, the
two runs have accumulated the same evidence. -/
theorem agents_accumulate_alike {agent : OpenAIEvidenceAgent Args} {request : AssessmentRequest}
    {outcome : EvidenceAgentOutcome} {log : ToolLog Args}
    (hgather : Prog.exec (gather agent request) {} = (.ok outcome, log))
    (hdistinct : DistinctChunks log.results) {single : AssessmentAgent}
    {registry : ToolRegistry Args} {state : AssessmentGraphState}
    (hstart : state.retrievedEvidence = []) {n : ℕ}
    (hended : (executionAfter single registry state n).status = .ended)
    (hsame : (executionAfter single registry state n).log.results = log.results) :
    (executionAfter single registry state n).state.retrievedEvidence = outcome.evidence := by
  have haccumulated := accumulated_executionAfter single registry hstart n fun e he => by
    cases hended.symm.trans he
  rw [haccumulated, hsame, (gather_observed hgather).1, mergeResults_evidence hdistinct]

end Runs

/-- A sanitized brief holds what cites an observation, reduced to the observations of all
results. When every result holds each chunk once, both agents accumulate the same evidence from
the same results, with each chunk once; so does every run of the one that has ended as every run of
the other that has had these results. -/
theorem observations_are_exact (results : List ToolExecutionResult) :
    (∀ brief, (mergeResults results).Sanitized brief ((mergeResults results).sanitizeBrief brief)) ∧
      (∀ id, id ∈ (mergeResults results).allowedChunks ↔
        ∃ result ∈ results, id ∈ result.evidence.map RetrievedEvidence.chunkId) ∧
      (∀ id, id ∈ (mergeResults results).allowedDocuments ↔
        id ∈ (mergeResults results).evidence.map RetrievedEvidence.documentId ∨
          ∃ result ∈ results, ∃ document ∈ result.document, document.documentId = id) ∧
      (DistinctChunks results →
        ((mergeResults results).evidence.map RetrievedEvidence.chunkId).Nodup ∧
          ∀ (state : AssessmentGraphState) (calls : List ObservedCall),
            state.retrievedEvidence = [] →
            calls.map (fun call => call.answer.result) = results →
            (state.observeAll calls).retrievedEvidence = (mergeResults results).evidence) ∧
      ∀ (Args : Type) (agent : OpenAIEvidenceAgent Args) (request : AssessmentRequest)
        (outcome : EvidenceAgentOutcome) (log : ToolLog Args) (single : AssessmentAgent)
        (registry : ToolRegistry Args) (state : AssessmentGraphState) (n : ℕ),
        Prog.exec (gather agent request) {} = (.ok outcome, log) → DistinctChunks log.results →
        state.retrievedEvidence = [] →
        (executionAfter single registry state n).status = .ended →
        (executionAfter single registry state n).log.results = log.results →
        (executionAfter single registry state n).state.retrievedEvidence = outcome.evidence := by
  refine ⟨sanitizeBrief_sanitized _, fun _ => mem_allowedChunks, fun _ => mem_allowedDocuments,
    fun h => ?_, ?_⟩
  · rw [mergeResults_evidence h]
    refine ⟨nodup_map_distinctBy _, fun state calls hstart hcalls => ?_⟩
    rw [observeAll_retrievedEvidence calls hstart, hcalls]
  · intro _ _ _ _ _ _ _ _ _ hgather hdistinct hstart hended hsame
    exact agents_accumulate_alike hgather hdistinct hstart hended hsame

/-- The result of a search that finds the given chunks of one document. -/
def ToolExecutionResult.found (chunkIds : List UUID) : ToolExecutionResult where
  toolName := ("search_knowledge" : String)
  success := true
  summary := ("Relevant evidence was found." : String)
  evidence := chunkIds.map fun chunkId =>
    { chunkId, documentId := 1, documentTitle := ("Policy" : String), content := [65]
      similarityScore := some 1, sourceType := .policy }

/-- The evidence of two searches that overlap. -/
theorem overlapping_searches_accumulate :
    ((mergeResults [.found [2, 3], .found [3, 4]]).evidence.map RetrievedEvidence.chunkId).Nodup ∧
      (mergeResults [.found [2, 3], .found [3, 4]]).evidence.map RetrievedEvidence.chunkId =
        [2, 3, 4] := by
  refine ⟨((observations_are_exact [.found [2, 3], .found [3, 4]]).2.2.2.1 ?_).1, by decide +kernel⟩
  intro result hresult
  simp only [List.mem_cons, List.not_mem_nil, or_false] at hresult
  rcases hresult with rfl | rfl <;> decide

end AssessmentPlatform
