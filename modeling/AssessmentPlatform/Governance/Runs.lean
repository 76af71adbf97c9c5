import AssessmentPlatform.Governance.Refinement

/-!
# Runs of the review workflow

One assessment is handed to `process_candidate` once, and then any sequence of review
requests follows, each with its own environment. A request that raises is rolled
back, so it leaves the committed tables as they were; one that returns has carried
out its transition.
-/

namespace AssessmentPlatform

open Library

section Runs

variable (service : RuntimeGovernanceService) (assessmentId : UUID)

/-- The final phase of `generate_assessment` with the gate enabled. -/
def submitCandidate (env : Env) (c : Candidate) : Session AssessmentRow := do
  let record ← processCandidate service env assessmentId c
  commit env
  pure record

/-- The committed tables after the candidate has been handed over. -/
def submit (env : Env) (c : Candidate) (t : Tables) : Tables :=
  (Prog.exec (submitCandidate service assessmentId env c) { db := .open t }).2.db.committed

/-- The committed tables after one review request. -/
def performRequest (env : Env) (op : ReviewOp) (t : Tables) : Tables :=
  (Prog.exec (op.program service env assessmentId) { db := .open t }).2.db.committed

/-- The committed tables that a run can reach: a row in `PROCESSING` is handed to the
gate, and review requests follow. -/
inductive Reachable : Tables → Prop
  | submit {row : AssessmentRow} (hrow : row.status = .processing) (env : Env) (c : Candidate) :
    Reachable (submit service assessmentId env c { assessment := some row })
  | request {t : Tables} (h : Reachable t) (env : Env) (op : ReviewOp) :
    Reachable (performRequest service assessmentId env op t)

end Runs

section Steps

variable {service : RuntimeGovernanceService} {assessmentId : UUID}

/-- A request of which it is known what it publishes changes nothing, or it carries
out its transition. -/
theorem Publishes.committed_cases {α : Type} (env : Env) {x : Session α} {t : Tables}
    {r : Except Failure Transition}
    (h : Publishes env x (Db.open t) (r.map (·.apply t))) :
    (Prog.exec x { db := .open t }).2.db.committed = t ∨
      ∃ tr, r = .ok tr ∧ (Prog.exec x { db := .open t }).2.db.committed = tr.apply t := by
  rcases h.outcome (w := { db := .open t }) rfl with ⟨a, -, hr⟩ | ⟨e, -, -, hdb⟩
  · right
    cases r with
    | error e => cases hr
    | ok tr =>
      rw [except_map_ok] at hr
      exact ⟨tr, rfl, (Except.ok.inj hr).symm⟩
  · exact .inl hdb

/-- A review request changes nothing or carries out its transition. -/
theorem performRequest_cases (env : Env) (op : ReviewOp) (t : Tables) :
    performRequest service assessmentId env op t = t ∨
      ∃ tr, op.transition service env assessmentId t = .ok tr ∧
        performRequest service assessmentId env op t = tr.apply t :=
  (ReviewOp.publishes service env assessmentId (Db.open t) op rfl rfl).committed_cases

/-- Gating a candidate and committing changes nothing or carries out the gate's
transition. -/
theorem processCandidate_commit_cases (service : RuntimeGovernanceService) (assessmentId : UUID)
    (env : Env) (c : Candidate) (overrides : SignalOverrides)
    (revisionCount : ℕ) (recordReviewRequest : Bool) {t : Tables} {row : AssessmentRow}
    (hrow : t.assessment = some row) :
    let x : Session AssessmentRow := do
      let record ← processCandidate service env assessmentId c overrides revisionCount
        recordReviewRequest
      commit env
      pure record
    (Prog.exec x { db := .open t }).2.db.committed = t ∨
      ∃ tr, processTransition service env assessmentId c overrides revisionCount
          recordReviewRequest 0 t = .ok tr ∧
        (Prog.exec x { db := .open t }).2.db.committed = tr.apply t := by
  have hprocess := computes_processCandidate service env assessmentId (d := Db.open t) rfl hrow
    c overrides revisionCount recordReviewRequest
  refine Publishes.committed_cases env ?_
  change Computes env _ _ _ ((processTransition service env assessmentId c overrides revisionCount
    recordReviewRequest 0 t).map _) at hprocess
  cases htr : processTransition service env assessmentId c overrides revisionCount
    recordReviewRequest 0 t with
  | error e =>
    rw [htr] at hprocess
    exact hprocess.bind_error_publishes
  | ok tr =>
    rw [htr] at hprocess
    exact hprocess.bind_publishes rfl (publishes_commit fun w h => ⟨_, _, rfl, h⟩)

/-- Handing a candidate over changes nothing or carries out the gate's transition. -/
theorem submit_cases (env : Env) (c : Candidate) {t : Tables} {row : AssessmentRow}
    (hrow : t.assessment = some row) :
    submit service assessmentId env c t = t ∨
      ∃ tr, processTransition service env assessmentId c {} 0 true 0 t = .ok tr ∧
        submit service assessmentId env c t = tr.apply t :=
  processCandidate_commit_cases service assessmentId env c {} 0 true hrow

/-- The rule by which an invariant of the committed tables is established: the gate's
transition from a row in `PROCESSING` gives it, and every transition keeps it. -/
theorem Reachable.induction {P : Tables → Prop}
    (hstart : ∀ row : AssessmentRow, row.status = .processing → P { assessment := some row })
    (hsubmit : ∀ (row : AssessmentRow) env c tr, row.status = .processing →
      processTransition service env assessmentId c {} 0 true 0 { assessment := some row } = .ok tr →
      P (tr.apply { assessment := some row }))
    (hstep : ∀ t env op tr, P t → ReviewOp.transition service env assessmentId op t = .ok tr →
      P (tr.apply t))
    {t : Tables} (h : Reachable service assessmentId t) : P t := by
  induction h with
  | @submit row hrow env c =>
    rcases submit_cases (t := { assessment := some row }) env c rfl with heq | ⟨tr, htr, heq⟩
    · rw [heq]
      exact hstart _ hrow
    · rw [heq]
      exact hsubmit _ env c tr hrow htr
  | request _ env op ih =>
    rcases performRequest_cases env op _ with heq | ⟨tr, htr, heq⟩
    · rw [heq]
      exact ih
    · rw [heq]
      exact hstep _ env op tr ih htr

end Steps

/-! ## A sample run -/

/-- An environment whose clock and identifiers count up from `start`, and in which no
database step fails. -/
def Env.ticking (start : ℕ) : Env where
  clock n := start + n
  newId n := start + n

/-- A candidate with one mitigated high risk and no evidence. -/
def Candidate.highRisk : Candidate where
  result :=
    { executiveSummary := [], risks := [⟨.high, [65]⟩], reviewRecommended := true
      informationGaps := [] }
  evidence := []
  execution := .deterministic {}
  durationMs := 1

/-- The smallest row that is handed to the gate. -/
def AssessmentRow.inProcessing : AssessmentRow where
  assessmentId := 7
  status := .processing
  requestPayload := .minimal
  createdAt := 0
  updatedAt := 0

end AssessmentPlatform
