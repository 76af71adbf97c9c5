import AssessmentPlatform.Library.Facets
import AssessmentPlatform.Persistence.Session

/-!
# Read models

The listing of the assessments: one page in the order of the database, the checkpoints of its
rows, and the facets over all rows. Every statement may fail with a database error. If none does,
the listing is the one that the stored rows determine.
-/

namespace AssessmentPlatform

open Library

/-! ## The source -/

/-- The persisted value of an assessment status. -/
def AssessmentStatus.value : AssessmentStatus → Str
  | .pending => "pending"
  | .processing => "processing"
  | .completed => "completed"
  | .failed => "failed"
  | .pendingReview => "pending_review"

/-- The request identifier that the metadata of any mode carry. -/
def ExecutionMetadata.requestId : ExecutionMetadata → Option RequestId
  | .deterministic m => m.requestId
  | .singleAgent m => m.requestId
  | .multiAgent m => m.requestId

/-- One row of the listing. -/
structure AssessmentListItem where
  assessmentId : UUID
  companyName : Str
  industry : Str
  businessProblem : Str
  status : AssessmentStatus
  executionMode : Option Str
  createdBySubject : Option Str
  runtimeDecision : Option RuntimeRiskDecision
  riskLevel : Option RuntimeRiskLevel
  reasonCodes : List RuntimeReasonCode
  reviewStatus : Option HumanReviewStatus
  requestId : Option RequestId
  createdAt : Time
  updatedAt : Time
  completedAt : Option Time
  deriving DecidableEq

/-- One page of the listing with the facets of the dashboard. -/
structure AssessmentListResponse where
  items : List AssessmentListItem
  total : ℕ
  offset : ℕ
  limit : ℕ
  statusCounts : List (Str × ℕ)
  runtimeDecisionCounts : List (Str × ℕ)
  reviewStatusCounts : List (Str × ℕ)

/-- The statements of a listing. -/
inductive ReadStep where
  | listPage | getStates | count | countByStatus | countByGateDecision | countByReviewStatus
  deriving DecidableEq

/-- `_to_list_item`. The old name of the single-agent mode is replaced. -/
def toListItem (record : AssessmentRow) (runtime : Option RuntimeAssessmentState) :
    AssessmentListItem where
  assessmentId := record.assessmentId
  companyName := record.requestPayload.companyName
  industry := record.requestPayload.industry
  businessProblem := record.requestPayload.businessProblem
  status := record.status
  executionMode := record.executionMetadata.map fun execution =>
    if execution.executionMode = ("agentic" : Str) then ("single_agent" : Str)
    else execution.executionMode
  createdBySubject := record.createdBySubject
  runtimeDecision := runtime.map fun state => state.gateResult.decision
  riskLevel := runtime.map fun state => state.gateResult.riskLevel
  reasonCodes := runtime.elim [] fun state => state.gateResult.reasonCodes
  reviewStatus := runtime.map fun state => state.reviewStatus
  requestId := record.executionMetadata.bind ExecutionMetadata.requestId
  createdAt := record.createdAt
  updatedAt := record.updatedAt
  completedAt := record.completedAt

/-- `ORDER BY created_at DESC, id`. -/
def AssessmentRow.newestFirst (a b : AssessmentRow) : Bool :=
  decide (b.createdAt < a.createdAt) ||
    (decide (a.createdAt = b.createdAt) && decide (a.assessmentId ≤ b.assessmentId))

/-- The condition on the status, which a listing without a status leaves out. -/
def AssessmentRow.matchesStatus (status : Option AssessmentStatus) (row : AssessmentRow) : Bool :=
  status.all fun status => decide (row.status = status)

/-- `_state_from_model`, which validates the telemetry. -/
def readState (state : RuntimeAssessmentState) : Except Failure RuntimeAssessmentState :=
  if state.telemetry.Valid then .ok state else .error .value

/-- The rows that a listing reads. Its statements read one state of the database. -/
structure ReadTables where
  rows : List AssessmentRow
  states : List RuntimeAssessmentState

namespace ReadTables

variable (t : ReadTables) (fault : ReadStep → Option SQLAlchemyError)

/-- The rows of a status in the order of the listing. -/
def listed (status : Option AssessmentStatus) : List AssessmentRow :=
  (t.rows.filter (AssessmentRow.matchesStatus status)).mergeSort AssessmentRow.newestFirst

/-- A statement that returns rows, unless it fails. -/
def read {α : Type} (step : ReadStep) (rows : α) : Except Failure α :=
  match fault step with
  | some error => .error (.database error)
  | none => .ok rows

/-- `list_page`. -/
def listPage (status : Option AssessmentStatus) (offset limit : ℕ) :
    Except Failure (List AssessmentRow) :=
  read fault .listPage (page limit offset (t.listed status))

/-- `get_states`, which asks for nothing if there are no identifiers. -/
def getStates (assessmentIds : List UUID) : Except Failure (List RuntimeAssessmentState) :=
  if assessmentIds.isEmpty then .ok []
  else do
    let models ← read fault .getStates
      (t.states.filter fun state => state.assessmentId ∈ assessmentIds)
    models.mapM readState

/-- `count`. -/
def count (status : Option AssessmentStatus) : Except Failure ℕ :=
  read fault .count (t.rows.countP (AssessmentRow.matchesStatus status))

/-- `count_by_status`. -/
def countByStatus : Except Failure (List (Str × ℕ)) :=
  read fault .countByStatus (tally (t.rows.map fun row => row.status.value))

/-- `count_by_gate_decision`. -/
def countByGateDecision : Except Failure (List (Str × ℕ)) :=
  read fault .countByGateDecision
    (tally (t.states.map fun state => state.gateResult.decision.value))

/-- `count_by_review_status`. -/
def countByReviewStatus : Except Failure (List (Str × ℕ)) :=
  read fault .countByReviewStatus (tally (t.states.map fun state => state.reviewStatus.value))

/-- The body of `list_assessments`. The response model refuses an empty page size. -/
def readListing (status : Option AssessmentStatus) (offset limit : ℕ) :
    Except Failure AssessmentListResponse := do
  let records ← t.listPage fault status offset limit
  let runtimeStates ← t.getStates fault (records.map AssessmentRow.assessmentId)
  let total ← t.count fault status
  let statusCounts ← t.countByStatus fault
  let runtimeDecisionCounts ← t.countByGateDecision fault
  let reviewStatusCounts ← t.countByReviewStatus fault
  if limit = 0 then throw .value
  pure
    { items := records.map fun record => toListItem record
        (getBy RuntimeAssessmentState.assessmentId record.assessmentId runtimeStates)
      total, offset, limit, statusCounts, runtimeDecisionCounts, reviewStatusCounts }

/-- The clause `except SQLAlchemyError` of the service. -/
def guardReads {α : Type} : Except Failure α → Except Failure α
  | .error (.database error) =>
    .error (.application (if error = .operational then .databaseUnavailable else .persistence))
  | outcome => outcome

/-- `list_assessments`. -/
def listAssessments (status : Option AssessmentStatus) (offset limit : ℕ) :
    Except Failure AssessmentListResponse :=
  guardReads (t.readListing fault status offset limit)

end ReadTables

/-! ## What a listing shows -/

namespace ReadTables

variable {t : ReadTables} {fault : ReadStep → Option SQLAlchemyError}
  {status : Option AssessmentStatus} {offset limit : ℕ}

/-- The listing that the stored rows determine. -/
def response (t : ReadTables) (status : Option AssessmentStatus) (offset limit : ℕ) :
    AssessmentListResponse where
  items := (page limit offset (t.listed status)).map fun record => toListItem record
    (getBy RuntimeAssessmentState.assessmentId record.assessmentId t.states)
  total := t.rows.countP (AssessmentRow.matchesStatus status)
  offset := offset
  limit := limit
  statusCounts := tally (t.rows.map fun row => row.status.value)
  runtimeDecisionCounts := tally (t.states.map fun state => state.gateResult.decision.value)
  reviewStatusCounts := tally (t.states.map fun state => state.reviewStatus.value)

/-- The statements answer with a value of the given kind, or with the error of a fault. -/
def Answers {α : Type} (fault : ReadStep → Option SQLAlchemyError) (x : Except Failure α)
    (P : α → Prop) : Prop :=
  (∃ a, x = .ok a ∧ P a) ∨ ∃ error, x = .error (.database error) ∧ ∃ step, fault step ≠ none

/-- A sequence of answering computations answers. -/
theorem Answers.bind {α β : Type} {x : Except Failure α} {f : α → Except Failure β}
    {P : α → Prop} {Q : β → Prop} (hx : Answers fault x P)
    (hf : ∀ a, P a → Answers fault (f a) Q) : Answers fault (x >>= f) Q := by
  rcases hx with ⟨a, rfl, ha⟩ | ⟨error, rfl, hfault⟩
  · exact hf a ha
  · exact .inr ⟨error, rfl, hfault⟩

/-- A read answers with its rows, or with the fault of its statement. -/
theorem read_answers {α : Type} (step : ReadStep) (rows : α) :
    Answers fault (read fault step rows) (· = rows) := by
  unfold read
  cases hfault : fault step with
  | none => exact .inl ⟨rows, rfl, rfl⟩
  | some error => exact .inr ⟨error, rfl, step, by simp [hfault]⟩

/-- What becomes of a database error. -/
theorem guardReads_database {α : Type} (error : SQLAlchemyError) :
    guardReads (.error (.database error) : Except Failure α) =
        .error (.application .databaseUnavailable) ∨
      guardReads (.error (.database error) : Except Failure α) =
        .error (.application .persistence) := by
  unfold guardReads
  dsimp only
  split
  · exact .inl rfl
  · exact .inr rfl

/-- Valid checkpoints are read as they are. -/
theorem mapM_readState {states : List RuntimeAssessmentState}
    (h : ∀ state ∈ states, state.telemetry.Valid) : states.mapM readState = .ok states := by
  refine except_mapM_eq_ok.mpr ?_
  induction states with
  | nil => exact .nil
  | cons state states ih =>
    exact .cons (if_pos (h state List.mem_cons_self))
      (ih fun other hother => h other (List.mem_cons_of_mem state hother))

/-- Among the checkpoints of the page the one of a row is found as among all of them. -/
theorem getBy_filter_states {ids : List UUID} {assessmentId : UUID} (h : assessmentId ∈ ids)
    (states : List RuntimeAssessmentState) :
    getBy RuntimeAssessmentState.assessmentId assessmentId
        (states.filter fun state => state.assessmentId ∈ ids) =
      getBy RuntimeAssessmentState.assessmentId assessmentId states := by
  unfold getBy
  rw [List.find?_filter]
  congr 1
  funext state
  by_cases hid : state.assessmentId = assessmentId
  · simp [hid, h]
  · simp [hid]

/-- The checkpoints of a page. -/
theorem getStates_answers (hvalid : ∀ state ∈ t.states, state.telemetry.Valid) (ids : List UUID) :
    Answers fault (t.getStates fault ids) fun states => ∀ assessmentId ∈ ids,
      getBy RuntimeAssessmentState.assessmentId assessmentId states =
        getBy RuntimeAssessmentState.assessmentId assessmentId t.states := by
  unfold getStates
  cases ids with
  | nil => exact .inl ⟨[], rfl, by simp⟩
  | cons id ids =>
    simp only [List.isEmpty_cons, Bool.false_eq_true, if_false]
    refine (read_answers .getStates _).bind ?_
    rintro _ rfl
    left
    refine ⟨_, mapM_readState ?_, fun assessmentId hid => getBy_filter_states hid t.states⟩
    exact fun state hstate => hvalid state (List.mem_of_mem_filter hstate)

/-- The listing answers with the response of the tables. -/
theorem readListing_answers (hvalid : ∀ state ∈ t.states, state.telemetry.Valid)
    (hlimit : limit ≠ 0) :
    Answers fault (t.readListing fault status offset limit)
      (· = t.response status offset limit) := by
  unfold readListing
  refine (read_answers .listPage _).bind ?_
  rintro records rfl
  refine (getStates_answers hvalid _).bind fun runtimeStates hfound => ?_
  refine (read_answers .count _).bind ?_
  rintro total rfl
  refine (read_answers .countByStatus _).bind ?_
  rintro statusCounts rfl
  refine (read_answers .countByGateDecision _).bind ?_
  rintro runtimeDecisionCounts rfl
  refine (read_answers .countByReviewStatus _).bind ?_
  rintro reviewStatusCounts rfl
  left
  refine ⟨_, if_neg hlimit, ?_⟩
  unfold response
  congr 1
  refine List.map_congr_left fun record hrecord => ?_
  rw [hfound _ (List.mem_map_of_mem hrecord)]

/-- A listing is the one that the rows determine, or it is one of the two errors of the database;
without faults it is not an error. -/
theorem listAssessments_cases (fault : ReadStep → Option SQLAlchemyError)
    (status : Option AssessmentStatus) (offset : ℕ)
    (hvalid : ∀ state ∈ t.states, state.telemetry.Valid) (hlimit : 0 < limit) :
    t.listAssessments fault status offset limit = .ok (t.response status offset limit) ∨
      (∃ step, fault step ≠ none) ∧
        (t.listAssessments fault status offset limit = .error (.application .databaseUnavailable) ∨
          t.listAssessments fault status offset limit = .error (.application .persistence)) := by
  have hanswers : Answers fault (t.readListing fault status offset limit)
      (· = t.response status offset limit) :=
    readListing_answers hvalid (by omega)
  unfold listAssessments
  generalize t.readListing fault status offset limit = reads at hanswers ⊢
  rcases hanswers with ⟨found, rfl, rfl⟩ | ⟨error, rfl, hfault⟩
  · exact .inl rfl
  · exact .inr ⟨hfault, guardReads_database error⟩

end ReadTables

end AssessmentPlatform
