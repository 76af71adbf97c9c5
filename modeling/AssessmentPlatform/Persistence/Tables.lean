import AssessmentPlatform.Runtime.Models

/-!
# The tables of one assessment

The assessment row with the assignments of its repository, and the three tables that
the lifecycle of one assessment touches. Every repository call reads the row anew, since
`get_by_id` returns a copy and the session keeps no reference to what it has read.
-/

namespace AssessmentPlatform

/-- One row of the table of assessments. The columns that repeat parts of the request
are left out, since they are never read back. -/
structure AssessmentRow where
  assessmentId : UUID
  status : AssessmentStatus
  requestPayload : AssessmentRequest
  resultPayload : Option AssessmentResult := none
  executionMetadata : Option ExecutionMetadata := none
  errorCode : Option Str := none
  errorMessage : Option Str := none
  createdAt : Time
  updatedAt : Time
  completedAt : Option Time := none
  createdBySubject : Option Str := none
  deriving DecidableEq

namespace AssessmentRow

/-- The assignments of `mark_processing`. -/
def markProcessing (now : Time) (row : AssessmentRow) : AssessmentRow :=
  { row with status := .processing, updatedAt := now }

/-- The assignments of `mark_completed`. -/
def markCompleted (result : AssessmentResult) (execution : Option ExecutionMetadata) (now : Time)
    (row : AssessmentRow) : AssessmentRow :=
  { row with
    status := .completed
    resultPayload := some result
    executionMetadata := execution
    errorCode := none
    errorMessage := none
    completedAt := some now
    updatedAt := now }

/-- The assignments of `mark_pending_review`. -/
def markPendingReview (execution : Option ExecutionMetadata) (now : Time) (row : AssessmentRow) :
    AssessmentRow :=
  { row with
    status := .pendingReview
    resultPayload := none
    executionMetadata := execution
    errorCode := none
    errorMessage := none
    completedAt := none
    updatedAt := now }

/-- The assignments of `mark_failed`. -/
def markFailed (errorCode errorMessage : Str) (now : Time) (row : AssessmentRow) : AssessmentRow :=
  { row with
    status := .failed
    resultPayload := none
    executionMetadata := none
    errorCode := some (errorCode.take 100)
    errorMessage := some (errorMessage.take 500)
    completedAt := none
    updatedAt := now }

end AssessmentRow

/-- What is stored about one assessment: its row, its checkpoint, and its review
events in the order of their insertion. -/
structure Tables where
  assessment : Option AssessmentRow := none
  checkpoint : Option RuntimeAssessmentState := none
  events : List HumanReviewRecord := []
  deriving DecidableEq

/-- Whether an identifier is the primary key of a review event already. -/
def Tables.idTaken (t : Tables) (reviewId : UUID) : Bool :=
  t.events.any fun e => e.reviewId = reviewId

/-- The order of the listing `list_review_events`: by creation time, and by
identifier among events of the same time. -/
def HumanReviewRecord.le (a b : HumanReviewRecord) : Bool :=
  decide (a.createdAt < b.createdAt) ||
    (decide (a.createdAt = b.createdAt) && decide (a.reviewId ≤ b.reviewId))

end AssessmentPlatform
