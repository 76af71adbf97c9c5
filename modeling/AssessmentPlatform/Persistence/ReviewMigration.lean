import AssessmentPlatform.Library.Schema
import AssessmentPlatform.Persistence.Tables

/-!
# The migration of the runtime reviews

Migration `20260910_0005` widens the vocabulary of the status column and adds the two tables of the
review workflow; its downgrade takes both back. The rows of the table of assessments stay, and so
the narrower constraint can be restored only if no stored row has the status that was added. Of the
schema the objects are kept that the migration touches, and the other check constraints of the
table of assessments.
-/

namespace AssessmentPlatform

open Library

/-- The check constraints of the table of assessments. -/
inductive AssessmentCheck where
  | assessmentStatusValues | completedHasResultAndTimestamp | failedHasErrorWithoutResult
  deriving DecidableEq

/-- The index of the table of checkpoints. -/
inductive RuntimeStateIndex where
  | reviewStatus
  deriving DecidableEq

/-- The index of the table of review events. -/
inductive ReviewEventIndex where
  | assessmentCreated
  deriving DecidableEq

/-- The database, as far as the migration concerns it. -/
structure Database where
  assessments : CheckedTable AssessmentCheck AssessmentRow
  runtimeStates : Option (IndexedTable RuntimeStateIndex RuntimeAssessmentState)
  reviewEvents : Option (IndexedTable ReviewEventIndex HumanReviewRecord)

/-- `status IN (...)`. -/
def statusIn (vocabulary : List AssessmentStatus) (row : AssessmentRow) : Bool :=
  row.status ∈ vocabulary

/-- The check constraints with the given status vocabulary. -/
def assessmentChecks (vocabulary : List AssessmentStatus) :
    AssessmentCheck → Option (AssessmentRow → Bool)
  | .assessmentStatusValues => some (statusIn vocabulary)
  | .completedHasResultAndTimestamp => some fun row =>
    row.status ≠ .completed || (row.resultPayload.isSome && row.completedAt.isSome)
  | .failedHasErrorWithoutResult => some fun row =>
    row.status ≠ .failed ||
      (row.resultPayload.isNone && row.errorCode.isSome && row.errorMessage.isSome)

/-- The vocabulary before the migration. -/
def priorStatuses : List AssessmentStatus := [.pending, .processing, .completed, .failed]

/-- The vocabulary after the migration. -/
def reviewStatuses : List AssessmentStatus :=
  [.pending, .processing, .completed, .failed, .pendingReview]

/-- `upgrade`. -/
def upgrade (db : Database) : Except SchemaError Database := do
  let assessments ← db.assessments.replaceCheck .assessmentStatusValues (statusIn reviewStatuses)
  let runtimeStates ← createTable db.runtimeStates >>= createIndex .reviewStatus
  let reviewEvents ← createTable db.reviewEvents >>= createIndex .assessmentCreated
  pure { assessments, runtimeStates, reviewEvents }

/-- `downgrade`. -/
def downgrade (db : Database) : Except SchemaError Database := do
  let reviewEvents ← dropIndex .assessmentCreated db.reviewEvents >>= dropTable
  let runtimeStates ← dropIndex .reviewStatus db.runtimeStates >>= dropTable
  let assessments ← db.assessments.replaceCheck .assessmentStatusValues (statusIn priorStatuses)
  pure { assessments, runtimeStates, reviewEvents }

/-! ## The two revisions -/

/-- The rows satisfy the constraints with the given vocabulary. -/
def SatisfyChecks (vocabulary : List AssessmentStatus) (rows : List AssessmentRow) : Prop :=
  ∀ name check, assessmentChecks vocabulary name = some check → ∀ row ∈ rows, check row = true

/-- A database before the migration. -/
def Database.prior (rows : List AssessmentRow) (h : SatisfyChecks priorStatuses rows) :
    Database where
  assessments := ⟨rows, assessmentChecks priorStatuses, h⟩
  runtimeStates := none
  reviewEvents := none

/-- A database after the migration. -/
def Database.reviewed (rows : List AssessmentRow) (states : List RuntimeAssessmentState)
    (events : List HumanReviewRecord) (h : SatisfyChecks reviewStatuses rows) : Database where
  assessments := ⟨rows, assessmentChecks reviewStatuses, h⟩
  runtimeStates := some ⟨states, [.reviewStatus]⟩
  reviewEvents := some ⟨events, [.assessmentCreated]⟩

section Revisions

variable {rows : List AssessmentRow} {states : List RuntimeAssessmentState}
  {events : List HumanReviewRecord}

/-- Only the constraint of the status column depends on the vocabulary. -/
theorem assessmentChecks_update (vocabulary vocabulary' : List AssessmentStatus) :
    assessmentChecks vocabulary' = Function.update (assessmentChecks vocabulary)
      .assessmentStatusValues (some (statusIn vocabulary')) := by
  funext name
  cases name <;> rfl

/-- A constraint other than that of the status column holds under every vocabulary. -/
theorem SatisfyChecks.of_statusIn {vocabulary vocabulary' : List AssessmentStatus}
    (h : SatisfyChecks vocabulary rows)
    (hrows : ∀ row ∈ rows, statusIn vocabulary' row = true) : SatisfyChecks vocabulary' rows := by
  intro name check hcheck row hrow
  cases name with
  | assessmentStatusValues => exact Option.some.inj hcheck ▸ hrows row hrow
  | completedHasResultAndTimestamp => exact h .completedHasResultAndTimestamp check hcheck row hrow
  | failedHasErrorWithoutResult => exact h .failedHasErrorWithoutResult check hcheck row hrow

/-- The earlier statuses are all but the one of a paused row. -/
theorem statusIn_priorStatuses (row : AssessmentRow) :
    statusIn priorStatuses row = true ↔ row.status ≠ .pendingReview := by
  cases hstatus : row.status <;> simp [statusIn, priorStatuses, hstatus]

/-- Every status is one of the later ones. -/
theorem statusIn_reviewStatuses (row : AssessmentRow) : statusIn reviewStatuses row = true := by
  cases hstatus : row.status <;> simp [statusIn, reviewStatuses, hstatus]

/-- Every database of the prior revision can be upgraded. -/
theorem upgrade_prior (h : SatisfyChecks priorStatuses rows) :
    upgrade (.prior rows h) =
      .ok (.reviewed rows [] [] (h.of_statusIn fun row _ => statusIn_reviewStatuses row)) := by
  have hwider : ∀ row ∈ rows, statusIn reviewStatuses row = true :=
    fun row _ => statusIn_reviewStatuses row
  have hreplace : (Database.prior rows h).assessments.replaceCheck .assessmentStatusValues
      (statusIn reviewStatuses) =
        .ok ⟨rows, assessmentChecks reviewStatuses, h.of_statusIn hwider⟩ :=
    CheckedTable.replaceCheck_eq_ok rfl hwider rfl (assessmentChecks_update _ _)
  unfold upgrade
  rw [hreplace]
  dsimp only [Database.prior]
  rw [createTable_createIndex, createTable_createIndex]
  rfl

/-- The prior vocabulary is restored if no row is paused for review. -/
theorem downgrade_eq_ok (h : SatisfyChecks reviewStatuses rows)
    (hrows : ∀ row ∈ rows, statusIn priorStatuses row = true) :
    downgrade (.reviewed rows states events h) = .ok (.prior rows (h.of_statusIn hrows)) := by
  have hreplace : (Database.reviewed rows states events h).assessments.replaceCheck
      .assessmentStatusValues (statusIn priorStatuses) =
        .ok ⟨rows, assessmentChecks priorStatuses, h.of_statusIn hrows⟩ :=
    CheckedTable.replaceCheck_eq_ok rfl hrows rfl (assessmentChecks_update _ _)
  unfold downgrade
  rw [hreplace]
  dsimp only [Database.reviewed]
  rw [dropIndex_dropTable, dropIndex_dropTable]
  rfl

/-- Otherwise the last step of the downgrade is refused. -/
theorem downgrade_eq_error (h : SatisfyChecks reviewStatuses rows)
    (hrows : ¬∀ row ∈ rows, statusIn priorStatuses row = true) :
    downgrade (.reviewed rows states events h) = .error .checkViolation := by
  have hreplace : (Database.reviewed rows states events h).assessments.replaceCheck
      .assessmentStatusValues (statusIn priorStatuses) = .error .checkViolation :=
    CheckedTable.replaceCheck_eq_error rfl hrows
  unfold downgrade
  rw [hreplace]
  dsimp only [Database.reviewed]
  rw [dropIndex_dropTable, dropIndex_dropTable]
  rfl

/-- Without requests in between, the downgrade takes the upgrade back. -/
theorem upgrade_downgrade (h : SatisfyChecks priorStatuses rows) :
    (upgrade (.prior rows h) >>= downgrade) = .ok (.prior rows h) := by
  rw [upgrade_prior]
  exact downgrade_eq_ok _ fun row hrow => h .assessmentStatusValues _ rfl row hrow

/-- The downgrade succeeds, and the rows that remain satisfy the restored constraint. -/
def Database.Downgrades (db : Database) : Prop :=
  ∃ prior, downgrade db = .ok prior ∧
    prior.assessments.checks .assessmentStatusValues = some (statusIn priorStatuses) ∧
    prior.assessments.rows = db.assessments.rows ∧
    ∀ row ∈ prior.assessments.rows, statusIn priorStatuses row = true

/-- The downgrade succeeds exactly if no row is paused. -/
theorem downgrades_iff (h : SatisfyChecks reviewStatuses rows) :
    (Database.reviewed rows states events h).Downgrades ↔
      ∀ row ∈ rows, row.status ≠ .pendingReview := by
  simp only [← statusIn_priorStatuses]
  constructor
  · rintro ⟨prior, hprior, -, hsame, hrows⟩
    rwa [hsame] at hrows
  · exact fun hrows => ⟨_, downgrade_eq_ok h hrows, rfl, rfl, hrows⟩

end Revisions

end AssessmentPlatform
