import AssessmentPlatform.Assessments.Endings
import AssessmentPlatform.Assessments.Exports
import AssessmentPlatform.Graph.Records

/-!
# Reading assessments back

A stored row holds its request, its result and its execution metadata as JSON payloads,
and reading it validates all of them again. The encoding of the models is a parameter;
decoding undoes it on instances that meet their declared constraints. This file shows that
every row which the service and the review workflow can store is one that can be read.
-/

namespace AssessmentPlatform

open Library

/-! ## Stored rows -/

/-- What the code uses of the JSON encoding of its models: `model_dump(mode="json")`,
`model_validate`, which may reject a payload, and the lookup of the mode marker. -/
structure PydanticJson (Payload : Type) where
  dumpRequest : AssessmentRequest → Payload
  validateRequest : Payload → Option AssessmentRequest
  dumpResult : AssessmentResult → Payload
  validateResult : Payload → Option AssessmentResult
  dumpDeterministic : DeterministicExecutionMetadata → Payload
  validateDeterministic : Payload → Option DeterministicExecutionMetadata
  dumpAgentic : AssessmentExecutionMetadata → Payload
  validateAgentic : Payload → Option AssessmentExecutionMetadata
  dumpMultiAgent : MultiAgentExecutionMetadata → Payload
  validateMultiAgent : Payload → Option MultiAgentExecutionMetadata
  executionMode : Payload → Option Str

section Stored

variable {Payload : Type} (json : PydanticJson Payload)

/-- The payload of the metadata of any mode. -/
def PydanticJson.dumpExecution : ExecutionMetadata → Payload
  | .deterministic m => json.dumpDeterministic m
  | .singleAgent m => json.dumpAgentic m
  | .multiAgent m => json.dumpMultiAgent m

/-- Decoding undoes encoding on instances that meet their constraints, and the payload of
metadata carries its mode marker. -/
structure PydanticJson.Undoes : Prop where
  request : ∀ request, json.validateRequest (json.dumpRequest request) = some request
  result : ∀ result : AssessmentResult, result.Valid →
    json.validateResult (json.dumpResult result) = some result
  deterministic : ∀ m : DeterministicExecutionMetadata, m.Valid →
    json.validateDeterministic (json.dumpDeterministic m) = some m
  agentic : ∀ m : AssessmentExecutionMetadata, m.Valid →
    json.validateAgentic (json.dumpAgentic m) = some m
  multiAgent : ∀ m : MultiAgentExecutionMetadata, m.Valid →
    json.validateMultiAgent (json.dumpMultiAgent m) = some m
  executionMode : ∀ execution,
    json.executionMode (json.dumpExecution execution) = some execution.executionMode

/-- A row as it is stored. -/
structure StoredAssessment (Payload : Type) where
  assessmentId : UUID
  status : AssessmentStatus
  requestPayload : Payload
  resultPayload : Option Payload
  executionMetadata : Option Payload
  errorCode : Option Str
  errorMessage : Option Str
  createdAt : Time
  updatedAt : Time
  completedAt : Option Time
  createdBySubject : Option Str

/-- The stored form of a row: every model is written as its payload. -/
def AssessmentRow.stored (row : AssessmentRow) : StoredAssessment Payload where
  assessmentId := row.assessmentId
  status := row.status
  requestPayload := json.dumpRequest row.requestPayload
  resultPayload := row.resultPayload.map json.dumpResult
  executionMetadata := row.executionMetadata.map json.dumpExecution
  errorCode := row.errorCode
  errorMessage := row.errorMessage
  createdAt := row.createdAt
  updatedAt := row.updatedAt
  completedAt := row.completedAt
  createdBySubject := row.createdBySubject

/-- `_parse_execution_metadata`: every marker other than those of the deterministic and the
multi-agent mode is read as single-agent metadata. -/
def parseExecutionMetadata : Option Payload → Option (Option ExecutionMetadata)
  | none => some none
  | some payload =>
    if json.executionMode payload = some (Str.ofString "deterministic") then
      (json.validateDeterministic payload).map fun m => some (.deterministic m)
    else if json.executionMode payload = some (Str.ofString "multi_agent") then
      (json.validateMultiAgent payload).map fun m => some (.multiAgent m)
    else (json.validateAgentic payload).map fun m => some (.singleAgent m)

/-- The result payload, if there is one. -/
def parseResult : Option Payload → Option (Option AssessmentResult)
  | none => some none
  | some payload => (json.validateResult payload).map some

/-- `_to_response` of a stored row: a payload that fails its validation is a persistence
error. -/
def StoredAssessment.toResponse (record : StoredAssessment Payload) :
    Except Failure AssessmentResponse :=
  match json.validateRequest record.requestPayload, parseResult json record.resultPayload,
      parseExecutionMetadata json record.executionMetadata with
  | some requestPayload, some resultPayload, some executionMetadata =>
    AssessmentPlatform.toResponse
      { assessmentId := record.assessmentId, status := record.status, requestPayload
        resultPayload, executionMetadata, errorCode := record.errorCode
        errorMessage := record.errorMessage, createdAt := record.createdAt
        updatedAt := record.updatedAt, completedAt := record.completedAt
        createdBySubject := record.createdBySubject }
  | _, _, _ => .error (.application .persistence)

/-- `get_assessment` on the stored row. -/
def getStoredAssessment (env : Env) : Session AssessmentResponse := do
  match ← guardDatabase env (getById env) with
  | none => throw (.application .assessmentNotFound)
  | some row => Session.ofExcept ((row.stored json).toResponse json)

end Stored

/-! ## Rows that can be read -/

/-- The columns that depend on the status are filled as the status demands. -/
def AssessmentRow.Consistent (row : AssessmentRow) : Prop :=
  match row.status with
  | .completed => row.resultPayload.isSome ∧ row.completedAt.isSome ∧ row.errorCode = none
  | .failed => row.resultPayload = none ∧ row.errorCode.isSome ∧ row.errorMessage.isSome
  | .pendingReview => row.resultPayload = none ∧ row.errorCode = none ∧ row.completedAt = none
  | .pending | .processing => True

/-- A row that can be read: its columns are consistent, and its models meet their
constraints. -/
structure AssessmentRow.Readable (row : AssessmentRow) : Prop where
  consistent : row.Consistent
  result : ∀ result ∈ row.resultPayload, result.Valid
  execution : ∀ execution ∈ row.executionMetadata, execution.Valid

section Reading

variable {Payload : Type} {json : PydanticJson Payload} {row : AssessmentRow}

/-- Valid metadata is read back from its dump. -/
theorem parseExecutionMetadata_dump (hjson : json.Undoes) {execution : ExecutionMetadata}
    (h : execution.Valid) :
    parseExecutionMetadata json (some (json.dumpExecution execution)) = some (some execution) := by
  have hmode := hjson.executionMode execution
  have hother : Str.ofString "multi_agent" ≠ Str.ofString "deterministic" := by decide +kernel
  unfold parseExecutionMetadata
  dsimp only
  rw [hmode]
  cases execution with
  | deterministic m =>
    rw [if_pos (by rfl)]
    exact congrArg (Option.map _) (hjson.deterministic m h)
  | multiAgent m =>
    rw [if_neg (by exact fun heq => hother (Option.some.inj heq)), if_pos (by rfl)]
    exact congrArg (Option.map _) (hjson.multiAgent m h)
  | singleAgent m =>
    have hnot : (ExecutionMetadata.singleAgent m).executionMode ∉
        [Str.ofString "deterministic", Str.ofString "multi_agent"] := by
      dsimp only [ExecutionMetadata.executionMode]
      cases m.executionMode <;> decide +kernel
    simp only [List.mem_cons, List.not_mem_nil, or_false, not_or] at hnot
    rw [if_neg (by exact fun heq => hnot.1 (Option.some.inj heq)),
      if_neg (by exact fun heq => hnot.2 (Option.some.inj heq))]
    exact congrArg (Option.map _) (hjson.agentic m h)

/-- Reading a stored row whose models meet their constraints gives its own response. -/
theorem AssessmentRow.toResponse_stored (hjson : json.Undoes) (h : row.Readable) :
    (row.stored json).toResponse json = toResponse row := by
  have hresult : parseResult json (row.resultPayload.map json.dumpResult) =
      some row.resultPayload := by
    cases hpayload : row.resultPayload with
    | none => rfl
    | some result => exact congrArg (Option.map _) (hjson.result result (h.result result hpayload))
  have hexecution : parseExecutionMetadata json (row.executionMetadata.map json.dumpExecution) =
      some row.executionMetadata := by
    cases hpayload : row.executionMetadata with
    | none => rfl
    | some execution => exact parseExecutionMetadata_dump hjson (h.execution execution hpayload)
  unfold StoredAssessment.toResponse AssessmentRow.stored
  dsimp only
  rw [hjson.request, hresult, hexecution]

/-- The response of a readable row passes its validation and carries the payloads of the
row. -/
theorem AssessmentRow.Readable.toResponse (h : row.Readable) :
    ∃ response, AssessmentPlatform.toResponse row = .ok response ∧
      response.validateLifecyclePayloads = true ∧ response.status = row.status ∧
      response.result = row.resultPayload ∧ response.execution = row.executionMetadata := by
  have hconsistent := h.consistent
  unfold AssessmentRow.Consistent at hconsistent
  suffices hvalid : AssessmentResponse.validateLifecyclePayloads _ = true from
    ⟨_, if_pos hvalid, hvalid, rfl, rfl, rfl⟩
  unfold AssessmentResponse.validateLifecyclePayloads
  cases hstatus : row.status with
  | completed =>
    simp only [hstatus] at hconsistent
    obtain ⟨hresult, hcompletedAt, herror⟩ := hconsistent
    simp [hresult, hcompletedAt, herror]
  | failed =>
    simp only [hstatus] at hconsistent
    obtain ⟨hresult, hcode, hmessage⟩ := hconsistent
    obtain ⟨code, hcode⟩ := Option.isSome_iff_exists.mp hcode
    obtain ⟨message, hmessage⟩ := Option.isSome_iff_exists.mp hmessage
    simp [hresult, hcode, hmessage]
  | pendingReview =>
    simp only [hstatus] at hconsistent
    obtain ⟨hresult, herror, hcompletedAt⟩ := hconsistent
    simp [hresult, herror, hcompletedAt]
  | pending | processing => rfl

/-- When the database answers, `get_assessment` returns the response of the stored row. -/
theorem exec_getStoredAssessment {env : Env} {t : Tables} {response : AssessmentResponse}
    (hrow : t.assessment = some row) (hread : env.fault .getAssessment 0 = none)
    (hresponse : (row.stored json).toResponse json = .ok response) :
    (Prog.exec (getStoredAssessment json env) { db := .open t }).1 = .ok response := by
  have hget : ∃ w, Prog.exec (getById env) { db := .open t } = (.ok (some row), w) := by
    unfold getById dbStep workingTables
    simp only [Prog.exec_bind, Prog.exec_get, Prog.exec_modify, hread]
    exact ⟨_, by rw [← hrow]; rfl⟩
  obtain ⟨w, hget⟩ := hget
  unfold getStoredAssessment
  rw [Prog.exec_bind, exec_guardDatabase_ok hget]
  dsimp only
  rw [hresponse]
  rfl

end Reading

/-! ## Steps of the review workflow -/

section Steps

variable {row : AssessmentRow} {result : AssessmentResult} {execution : ExecutionMetadata}

/-- The final assignments leave a row readable. -/
theorem AssessmentRow.readable_markCompleted {execution : Option ExecutionMetadata}
    (hresult : result.Valid) (hexecution : ∀ m ∈ execution, m.Valid) (now : Time) :
    (row.markCompleted result execution now).Readable := by
  refine ⟨⟨rfl, rfl, rfl⟩, ?_, hexecution⟩
  rintro _ ⟨⟩
  exact hresult

/-- A row that awaits its review is readable if its metadata is valid. -/
theorem AssessmentRow.readable_markPendingReview {execution : Option ExecutionMetadata}
    (hexecution : ∀ m ∈ execution, m.Valid) (now : Time) :
    (row.markPendingReview execution now).Readable := by
  refine ⟨⟨rfl, rfl, rfl⟩, ?_, hexecution⟩
  rintro _ ⟨⟩

/-- A failed row is readable. -/
theorem AssessmentRow.readable_markFailed (errorCode errorMessage : Str) (now : Time) :
    (row.markFailed errorCode errorMessage now).Readable := by
  refine ⟨⟨rfl, rfl, rfl⟩, ?_, ?_⟩
  · rintro _ ⟨⟩
  · rintro _ ⟨⟩

/-- The gate leaves a row readable, whatever it decides. -/
theorem AssessmentRow.readable_gateWrite (hresult : result.Valid) (hexecution : execution.Valid)
    (decision : RuntimeRiskDecision) (now : Time) :
    ((gateWrite result execution decision now).apply row).Readable := by
  have hsome : ∀ m ∈ some execution, m.Valid := by
    rintro _ ⟨⟩
    exact hexecution
  cases decision with
  | requireHumanReview => exact readable_markPendingReview hsome now
  | blockAndEscalate => exact readable_markFailed _ _ now
  | autoComplete | completeWithWarning => exact readable_markCompleted hresult hsome now

/-- Tables whose row can be read. A completed row holds the candidate of its checkpoint, or,
if there is no checkpoint, one of the given candidates. -/
structure Tables.Readable (generated : Candidate → Prop) (t : Tables) : Prop where
  row : ∀ row ∈ t.assessment, row.Readable
  candidateResult : ∀ state ∈ t.checkpoint, ∀ result ∈ state.candidateResult, result.Valid
  candidateExecution : ∀ state ∈ t.checkpoint, ∀ execution ∈ state.candidateExecution,
    execution.Valid
  completed : ∀ row ∈ t.assessment, row.status = .completed →
    (∀ state ∈ t.checkpoint, row.resultPayload = state.candidateResult ∧
      row.executionMetadata = state.candidateExecution) ∧
    (t.checkpoint = none → ∃ c, generated c ∧ row.resultPayload = some c.result ∧
      row.executionMetadata = some c.execution)

/-- The candidate that a request brings along is a validated instance. -/
def ReviewOp.Validated : ReviewOp → Prop
  | .resumeRevision c => c.result.Valid ∧ c.execution.Valid
  | _ => True

variable {generated : Candidate → Prop} {service : RuntimeGovernanceService} {env : Env}
  {assessmentId : UUID} {t : Tables} {tr : Transition}

/-- Storing the checkpoint of a gated candidate together with the assignment of the gate
gives readable tables. -/
theorem Tables.readable_gate {c : Candidate} (hresult : c.result.Valid)
    (hexecution : c.execution.Valid) {decision : RuntimeRiskDecision} {now : Time}
    (hrow : t.assessment = some row)
    (hwrite : tr.write = gateWrite c.result c.execution decision now)
    (hcandidate : tr.checkpoint.candidateResult = some c.result ∧
      tr.checkpoint.candidateExecution = some c.execution) : (tr.apply t).Readable generated := by
  have hassessment : (tr.apply t).assessment =
      some ((gateWrite c.result c.execution decision now).apply row) := by
    simp only [Transition.apply, hrow, hwrite, Option.map_some]
  refine ⟨?_, ?_, ?_, ?_⟩
  · rw [hassessment]
    rintro _ ⟨⟩
    exact AssessmentRow.readable_gateWrite hresult hexecution decision now
  · rintro _ ⟨⟩
    rw [hcandidate.1]
    rintro _ ⟨⟩
    exact hresult
  · rintro _ ⟨⟩
    rw [hcandidate.2]
    rintro _ ⟨⟩
    exact hexecution
  · rw [hassessment]
    rintro _ ⟨⟩ hstatus
    refine ⟨?_, by simp [Transition.apply]⟩
    rintro _ ⟨⟩
    rw [hcandidate.1, hcandidate.2]
    cases decision with
    | requireHumanReview | blockAndEscalate => cases hstatus
    | autoComplete | completeWithWarning => exact ⟨rfl, rfl⟩

/-- A review request keeps the tables readable. -/
theorem Tables.Readable.transition (h : t.Readable generated) {op : ReviewOp} (hop : op.Validated)
    (htr : op.transition service env assessmentId t = .ok tr) :
    (tr.apply t).Readable generated := by
  obtain ⟨state, row, hrow, hcheckpoint, -, -, hcase⟩ := ReviewOp.transition_eq_ok htr
  rcases hcase with ⟨action, newStatus, revision, write, request, principal, telemetry, n, haction,
    -, -, rfl⟩ | ⟨c, rfl, hresume⟩
  · have hold := h.row row hrow
    have hcandidateResult := h.candidateResult state hcheckpoint
    have hcandidateExecution := h.candidateExecution state hcheckpoint
    have hassessment : ∀ tr : Transition, (tr.apply t).assessment = some (tr.write.apply row) := by
      intro tr
      simp only [Transition.apply, hrow, Option.map_some]
    have hagree : (write.apply row).Readable ∧ ((write.apply row).status = .completed →
        (write.apply row).resultPayload = state.candidateResult ∧
          (write.apply row).executionMetadata = state.candidateExecution) := by
      cases haction with
      | approve hcandidate =>
        refine ⟨AssessmentRow.readable_markCompleted (hcandidateResult _ hcandidate)
          hcandidateExecution _, fun _ => ⟨hcandidate.symm, rfl⟩⟩
      | reject => exact ⟨AssessmentRow.readable_markFailed _ _ _, fun hstatus => by cases hstatus⟩
      | requestRevision =>
        exact ⟨hold, fun hstatus => (h.completed row hrow hstatus).1 state hcheckpoint⟩
    refine ⟨?_, ?_, ?_, ?_⟩
    · rw [hassessment]
      rintro _ ⟨⟩
      exact hagree.1
    · rintro _ ⟨⟩
      exact hcandidateResult
    · rintro _ ⟨⟩
      exact hcandidateExecution
    · rw [hassessment]
      rintro _ ⟨⟩ hstatus
      refine ⟨?_, by simp [Transition.apply]⟩
      rintro _ ⟨⟩
      exact hagree.2 hstatus
  · obtain ⟨gateResult, telemetry, -, -, -, rfl⟩ := resumeTransition_eq_ok hresume
    exact Tables.readable_gate hop.1 hop.2 hrow rfl ⟨rfl, rfl⟩

end Steps

/-! ## Generation -/

/-- The collaborators from which the service is configured: the two workflows are those of
the agents, the others are given by what they return. -/
structure Collaborators (Args : Type) where
  generator : AssessmentPrompt → Except Failure AssessmentResult
  ragService : Option (AssessmentRequest → Except Failure RAGPreparation) := none
  singleAgent : Option (AgenticAssessmentWorkflow Args) := none
  multiAgent : Option (Specialists × ℤ) := none
  runtimeGovernance : Option RuntimeGovernanceService := none
  executionRouter : Option (AssessmentRequest → Except Failure ExecutionRoutingDecision) := none

/-- The configured service. -/
def Collaborators.service {Args : Type} (collaborators : Collaborators Args) :
    AssessmentService where
  generator := collaborators.generator
  ragService := collaborators.ragService
  agenticWorkflow := collaborators.singleAgent.map fun workflow _ request => workflow.run request
  multiAgentWorkflow := collaborators.multiAgent.map fun p _ request =>
    runMultiAgent p.1 p.2 request
  runtimeGovernance := collaborators.runtimeGovernance
  executionRouter := collaborators.executionRouter

/-- The collaborators return validated instances of their models. -/
structure Collaborators.Validated {Args : Type} (collaborators : Collaborators Args) : Prop where
  generator : ∀ prompt result, collaborators.generator prompt = .ok result → result.Valid
  ragService : ∀ prepare ∈ collaborators.ragService, ∀ request preparation,
    prepare request = .ok preparation → ∀ record ∈ preparation.graphRetrieval, record.Valid
  singleAgent : ∀ workflow ∈ collaborators.singleAgent, ∀ request evidence documents result,
    workflow.agent.synthesize request evidence documents = .ok result → result.Valid
  multiAgent : ∀ p ∈ collaborators.multiAgent, p.1.Validated

section Generation

variable {Args : Type} {collaborators : Collaborators Args}

/-- Grounding only drops references. -/
theorem groundedReferences_subset (allowed seen : List (UUID × UUID))
    (references : List SourceReference) :
    groundedReferences allowed seen references ⊆ references := by
  induction references generalizing seen with
  | nil => simp [groundedReferences]
  | cons reference rest ih =>
    unfold groundedReferences
    split
    · exact List.cons_subset_cons _ (ih _)
    · exact List.Subset.trans (ih _) (List.subset_cons_self _ _)

/-- Grounding keeps a result valid. -/
theorem AssessmentResult.Valid.applyGroundingMetadata {result : AssessmentResult}
    (h : result.Valid) (evidence : List RetrievedEvidence) :
    (AssessmentPlatform.applyGroundingMetadata result evidence).Valid :=
  { h with
    sourceReferences := fun reference hreference =>
      h.sourceReferences reference (groundedReferences_subset _ _ _ hreference) }

/-- The routing of a service keeps the metadata valid. -/
theorem AssessmentService.withRouting_valid (service : AssessmentService)
    (execution : ExecutionMetadata) (h : execution.Valid) (routing : ResolvedExecutionRoute) :
    (service.withRouting routing execution).Valid := by
  unfold AssessmentService.withRouting
  cases service.executionRouter with
  | none => exact h
  | some router => exact h.withRouting routing.routingReasonCodes_le routing.fallbackReasonCodes_le

/-- A run of validated collaborators gives a valid result and valid metadata. -/
theorem Collaborators.Validated.runMode (h : collaborators.Validated) {assessmentId : UUID}
    {request : AssessmentRequest} {routing : ResolvedExecutionRoute} {output : GeneratedAssessment}
    (hrun : collaborators.service.runMode assessmentId request routing = .ok output) :
    output.result.Valid ∧ output.execution.Valid := by
  unfold AssessmentService.runMode at hrun
  split at hrun
  · split at hrun
    · cases hrun
    rename_i run hworkflow
    obtain ⟨p, hp, rfl⟩ := Option.map_eq_some_iff.mp hworkflow
    obtain ⟨workflowOutput, houtput, hrun⟩ := except_bind_eq_ok.mp hrun
    cases hrun
    obtain ⟨hresult, hexecution⟩ := runMultiAgent_valid (h.multiAgent p hp) houtput
    exact ⟨hresult, AssessmentService.withRouting_valid _ (.multiAgent _) hexecution _⟩
  · split at hrun
    · cases hrun
    rename_i run hworkflow
    obtain ⟨workflow, hp, rfl⟩ := Option.map_eq_some_iff.mp hworkflow
    obtain ⟨workflowOutput, houtput, hrun⟩ := except_bind_eq_ok.mp hrun
    cases hrun
    obtain ⟨hresult, hexecution⟩ :=
      AgenticAssessmentWorkflow.run_valid (h.singleAgent workflow hp) houtput
    exact ⟨hresult, AssessmentService.withRouting_valid _ (.singleAgent _) hexecution _⟩
  · have hempty : (ExecutionMetadata.deterministic {}).Valid :=
      ⟨by simp, by simp, by simp, by simp⟩
    have hrouted := AssessmentService.withRouting_valid collaborators.service _ hempty routing
    unfold AssessmentService.generateDeterministic at hrun
    split at hrun
    · obtain ⟨result, hresult, hrun⟩ := except_bind_eq_ok.mp hrun
      cases hrun
      exact ⟨h.generator _ _ hresult, hrouted⟩
    · rename_i prepare hprepare
      obtain ⟨preparation, hpreparation, hrun⟩ := except_bind_eq_ok.mp hrun
      obtain ⟨result, hresult, hrun⟩ := except_bind_eq_ok.mp hrun
      cases hrun
      refine ⟨h.generator _ _ hresult, ?_⟩
      dsimp only
      split
      · rename_i record hrecord
        exact hrouted.withGraphRetrieval
          (h.ragService prepare hprepare _ _ hpreparation record hrecord)
      · exact hrouted

/-- Every generated candidate meets the constraints of its models. -/
theorem Collaborators.Validated.generate (h : collaborators.Validated)
    {requestId : Option RequestId} (hrequestId : ∀ id ∈ requestId, id.value.encodable = true)
    {timers : Timers} {assessmentId : UUID} {request : AssessmentRequest}
    {routing : ResolvedExecutionRoute} {c : Candidate}
    (hgenerate : collaborators.service.generate requestId timers assessmentId request routing =
      .ok c) : c.result.Valid ∧ c.execution.Valid := by
  obtain ⟨output, hrun, hgenerate⟩ := except_bind_eq_ok.mp hgenerate
  cases hgenerate
  obtain ⟨hresult, hexecution⟩ := h.runMode hrun
  refine ⟨hresult.applyGroundingMetadata _, ?_⟩
  dsimp only
  split
  · rename_i id
    exact hexecution.withRequestId (hrequestId id rfl)
  · exact hexecution

end Generation

section Phases

variable {env : Env} {assessmentId : UUID} {row : AssessmentRow} {generated : Candidate → Prop}

/-- Tables without a checkpoint are as readable as their row. -/
theorem Tables.readable_of_row {t : Tables} (hassessment : t.assessment = some row)
    (hcheckpoint : t.checkpoint = none) (hrow : row.Readable)
    (hcompleted : row.status = .completed → ∃ c, generated c ∧ row.resultPayload = some c.result ∧
      row.executionMetadata = some c.execution) : t.Readable generated := by
  refine ⟨?_, by simp [hcheckpoint], by simp [hcheckpoint], ?_⟩
  · rw [hassessment]
    rintro _ ⟨⟩
    exact hrow
  · rw [hassessment]
    rintro _ ⟨⟩ hstatus
    exact ⟨by simp [hcheckpoint], fun _ => hcompleted hstatus⟩

/-- A row in `PENDING` or `PROCESSING` without payloads can be read. -/
theorem AssessmentRow.readable_of_empty (hresult : row.resultPayload = none)
    (hexecution : row.executionMetadata = none)
    (hstatus : row.status = .pending ∨ row.status = .processing) : row.Readable := by
  refine ⟨?_, by simp [hresult], by simp [hexecution]⟩
  unfold AssessmentRow.Consistent
  rcases hstatus with hstatus | hstatus
  · rw [hstatus]
    trivial
  · rw [hstatus]
    trivial

end Phases

/-! ## Runs -/

section Runs

variable {Args : Type} (collaborators : Collaborators Args) (governance : RuntimeGovernanceService)
  (assessmentId : UUID) (generation : GenerationRequest)

/-- The candidate that the generation of a request has produced. -/
def Collaborators.Generated (c : Candidate) : Prop :=
  ∃ routing, collaborators.service.routeExecution generation.request = .ok routing ∧
    collaborators.service.generate generation.env.requestId generation.timers assessmentId
      generation.request routing = .ok c

/-- The request identifier of the generation is text, as the middleware makes sure. -/
def GenerationRequest.Admitted : Prop :=
  ∀ id ∈ generation.env.requestId, id.value.encodable = true

variable {collaborators governance assessmentId generation}

/-- However it ends, `generate_assessment` leaves readable tables. -/
theorem generateAssessment_readable (h : collaborators.Validated) (hrequest : generation.Admitted) :
    (Prog.exec (generateAssessment collaborators.service generation.env generation.timers
      assessmentId generation.request generation.principal)
      { db := .open {} }).2.db.committed.Readable
        (collaborators.Generated assessmentId generation) := by
  have hend := generateAssessment_end collaborators.service generation.env generation.timers
    assessmentId generation.request generation.principal
  generalize (Prog.exec (generateAssessment collaborators.service generation.env generation.timers
    assessmentId generation.request generation.principal) { db := .open {} }).2.db.committed = t
    at hend ⊢
  cases hend with
  | nothing => exact ⟨by simp, by simp, by simp, by simp⟩
  | created =>
    have hrow : (createdRow generation.env assessmentId generation.request
        generation.principal).Readable := AssessmentRow.readable_of_empty rfl rfl (.inl rfl)
    exact Tables.readable_of_row rfl rfl hrow fun hstatus => by cases hstatus
  | started =>
    have hrow : (startedRow generation.env assessmentId generation.request
        generation.principal).Readable := AssessmentRow.readable_of_empty rfl rfl (.inr rfl)
    exact Tables.readable_of_row rfl rfl hrow fun hstatus => by cases hstatus
  | failed errorCode errorMessage =>
    exact Tables.readable_of_row rfl rfl (AssessmentRow.readable_markFailed _ _ _) nofun
  | @completed c _ hgenerated =>
    obtain ⟨hresult, hexecution⟩ := h.generate hrequest hgenerated.choose_spec.2
    refine Tables.readable_of_row rfl rfl (AssessmentRow.readable_markCompleted hresult ?_ _)
      fun _ => ⟨c, hgenerated, rfl, rfl⟩
    rintro _ ⟨⟩
    exact hexecution
  | gated _ hgenerated htr =>
    obtain ⟨hresult, hexecution⟩ := h.generate hrequest hgenerated.choose_spec.2
    obtain ⟨gateResult, telemetry, -, -, -, rfl⟩ := processTransition_eq_ok htr
    exact Tables.readable_gate hresult hexecution rfl rfl ⟨rfl, rfl⟩

variable (governance) in
/-- Every run leaves readable tables. -/
theorem lifecycleRun_readable (h : collaborators.Validated) (hrequest : generation.Admitted)
    {reviews : List (Env × ReviewOp)} (hreviews : ∀ review ∈ reviews, review.2.Validated) :
    (lifecycleRun collaborators.service governance assessmentId generation
      reviews).tables.Readable (collaborators.Generated assessmentId generation) := by
  induction reviews using List.reverseRecOn with
  | nil => exact generateAssessment_readable h hrequest
  | append_singleton earlier review ih =>
    obtain ⟨env, op⟩ := review
    have hbefore := ih fun review hreview => hreviews review (List.mem_append_left _ hreview)
    rw [lifecycleRun_tables_append]
    rcases performRequest_cases env op (lifecycleRun collaborators.service governance assessmentId
      generation earlier).tables with heq | ⟨tr, htr, heq⟩
    · rw [heq]
      exact hbefore
    · rw [heq]
      exact hbefore.transition (hreviews (env, op) (by simp)) htr

/-- Every assessment that a run has stored can be read back: `get_assessment` returns a
response that passes its validation and carries the result and the execution metadata
that were encoded. A completed assessment carries the candidate of its checkpoint, or,
without a gate, the generated candidate. -/
theorem assessments_read_back {Payload : Type} (json : PydanticJson Payload) (hjson : json.Undoes)
    (collaborators : Collaborators Args) (hcollaborators : collaborators.Validated)
    (governance : RuntimeGovernanceService) (assessmentId : UUID) (generation : GenerationRequest)
    (hrequest : generation.Admitted) (reviews : List (Env × ReviewOp))
    (hreviews : ∀ review ∈ reviews, review.2.Validated) (env : Env)
    (hread : env.fault .getAssessment 0 = none) {row : AssessmentRow} :
    let t := (lifecycleRun collaborators.service governance assessmentId generation reviews).tables
    t.assessment = some row →
    ∃ response,
      (Prog.exec (getStoredAssessment json env) { db := .open t }).1 = .ok response ∧
      response.validateLifecyclePayloads = true ∧ response.status = row.status ∧
      response.result = row.resultPayload ∧ response.execution = row.executionMetadata ∧
      (row.status = .completed →
        (∀ state, t.checkpoint = some state →
          response.result = state.candidateResult ∧ response.execution = state.candidateExecution) ∧
        (t.checkpoint = none → ∃ c, collaborators.Generated assessmentId generation c ∧
          response.result = some c.result ∧ response.execution = some c.execution)) := by
  intro t hrow
  have hreadable : t.Readable (collaborators.Generated assessmentId generation) :=
    lifecycleRun_readable governance hcollaborators hrequest hreviews
  have hrowReadable := hreadable.row row hrow
  obtain ⟨response, hresponse, hvalid, hstatus, hresult, hexecution⟩ := hrowReadable.toResponse
  refine ⟨response, ?_, hvalid, hstatus, hresult, hexecution, fun hcompleted => ?_⟩
  · rw [← AssessmentRow.toResponse_stored hjson hrowReadable] at hresponse
    exact exec_getStoredAssessment hrow hread hresponse
  · rw [hresult, hexecution]
    exact hreadable.completed row hrow hcompleted

end Runs

/-- Payloads that remember the model they were dumped from. -/
inductive TaggedPayload where
  | request (request : AssessmentRequest)
  | result (result : AssessmentResult)
  | execution (execution : ExecutionMetadata)

/-- The encoding that keeps an instance as it is. -/
def PydanticJson.tagged : PydanticJson TaggedPayload where
  dumpRequest := .request
  validateRequest := fun
    | .request r => some r
    | _ => none
  dumpResult := .result
  validateResult := fun
    | .result r => some r
    | _ => none
  dumpDeterministic m := .execution (.deterministic m)
  validateDeterministic := fun
    | .execution (.deterministic m) => some m
    | _ => none
  dumpAgentic m := .execution (.singleAgent m)
  validateAgentic := fun
    | .execution (.singleAgent m) => some m
    | _ => none
  dumpMultiAgent m := .execution (.multiAgent m)
  validateMultiAgent := fun
    | .execution (.multiAgent m) => some m
    | _ => none
  executionMode := fun
    | .execution m => some m.executionMode
    | _ => none

/-- The tagged codec reads back what it dumps. -/
theorem PydanticJson.tagged_undoes : PydanticJson.tagged.Undoes where
  request _ := rfl
  result _ _ := rfl
  deterministic _ _ := rfl
  agentic _ _ := rfl
  multiAgent _ _ := rfl
  executionMode execution := by cases execution <;> rfl

/-- A gated service whose generator always returns the same assessment. -/
def Collaborators.gated : Collaborators Unit where
  generator _ := .ok Candidate.highRisk.result
  runtimeGovernance := some (.standard .default)

/-- An assessment that was held for review and approved is read back with its candidate. -/
theorem approved_assessment_read_back :
    ∃ response, (Prog.exec (getStoredAssessment PydanticJson.tagged (.ticking 20))
      { db := .open (lifecycleRun Collaborators.gated.service (.standard {}) 7
        (.minimal (.ticking 0)) [(.ticking 10, .approve {} none)]).tables }).1 = .ok response ∧
      response.status = .completed ∧ response.result = some Candidate.highRisk.result := by
  have hrow : (lifecycleRun Collaborators.gated.service (.standard {}) 7 (.minimal (.ticking 0))
      [(.ticking 10, .approve {} none)]).tables.assessment.map
        (fun row => (row.status, row.resultPayload)) =
      some (.completed, some Candidate.highRisk.result) := by
    decide +kernel
  obtain ⟨row, hrow, heq⟩ := Option.map_eq_some_iff.mp hrow
  obtain ⟨hstatus, hresult⟩ := Prod.mk.inj heq
  obtain ⟨response, hexec, -, hstatus', hresult', -⟩ := assessments_read_back PydanticJson.tagged
    PydanticJson.tagged_undoes Collaborators.gated
    { generator := by
        rintro _ _ ⟨⟩
        exact ⟨rfl, by simp [Candidate.highRisk]; decide, by simp [Candidate.highRisk],
          by simp [Candidate.highRisk]⟩
      ragService := by simp [Collaborators.gated]
      singleAgent := by simp [Collaborators.gated]
      multiAgent := by simp [Collaborators.gated] }
    (.standard {}) 7 (.minimal (.ticking 0)) (by simp [GenerationRequest.Admitted,
      GenerationRequest.minimal, Env.ticking]) [(.ticking 10, .approve {} none)]
    (by simp [ReviewOp.Validated]) (.ticking 20) rfl hrow
  exact ⟨response, hexec, hstatus'.trans hstatus, hresult'.trans hresult⟩

end AssessmentPlatform
