import AssessmentPlatform.Assessments.Endings
import AssessmentPlatform.Assessments.Exports
import AssessmentPlatform.Governance.Concurrency
import AssessmentPlatform.Governance.ServedRuns
import AssessmentPlatform.Library.Keyed
import AssessmentPlatform.Persistence.ReviewMigration

/-!
# Downgrading a database in use

The database of the review workflow after any sequence of generations and review requests, on any
assessments. Its rows satisfy the check constraints of its revision, and a row is paused exactly
while the review of its checkpoint is open. So the downgrade of the migration, which does not
convert the paused rows, succeeds exactly if no review is open.
-/

namespace AssessmentPlatform

open Library

/-! ## What a request leaves of one assessment -/

/-- The rows satisfy the check constraints of the revision with the reviews. -/
def AssessmentRow.Checked (row : AssessmentRow) : Prop := SatisfyChecks reviewStatuses [row]

/-- What holds of everything that is stored about one assessment. -/
structure Tables.Governed (t : Tables) : Prop where
  checked : ∀ row ∈ t.assessment, row.Checked
  ungated : t.checkpoint = none → ∀ row ∈ t.assessment, row.status ≠ .pendingReview
  gated : ∀ state ∈ t.checkpoint, ∃ row, t.assessment = some row ∧ ReviewLifecycle row state

section Checked

variable {row : AssessmentRow}

/-- The checks of a row: a completed one has its result, and a failed one its error and no result.
-/
theorem AssessmentRow.checked_iff :
    row.Checked ↔
      (row.status = .completed → row.resultPayload.isSome ∧ row.completedAt.isSome) ∧
      (row.status = .failed →
        row.resultPayload = none ∧ row.errorCode.isSome ∧ row.errorMessage.isSome) := by
  unfold AssessmentRow.Checked SatisfyChecks
  constructor
  · intro h
    have hcompleted := h .completedHasResultAndTimestamp _ rfl row (List.mem_singleton_self row)
    have hfailed := h .failedHasErrorWithoutResult _ rfl row (List.mem_singleton_self row)
    refine ⟨fun hstatus => ?_, fun hstatus => ?_⟩
    · simpa [hstatus] using hcompleted
    · simpa [hstatus, and_assoc] using hfailed
  · rintro ⟨hcompleted, hfailed⟩ name check hcheck row' hrow
    obtain rfl := List.mem_singleton.mp hrow
    cases name with
    | assessmentStatusValues => exact Option.some.inj hcheck ▸ statusIn_reviewStatuses row'
    | completedHasResultAndTimestamp =>
      rw [← Option.some.inj hcheck]
      by_cases hstatus : row'.status = .completed
      · simpa [hstatus] using hcompleted hstatus
      · simp [hstatus]
    | failedHasErrorWithoutResult =>
      rw [← Option.some.inj hcheck]
      by_cases hstatus : row'.status = .failed
      · simpa [hstatus, and_assoc] using hfailed hstatus
      · simp [hstatus]

/-- Every assignment of the review workflow keeps the constraints. -/
theorem AssessmentRow.Checked.apply (h : row.Checked) (write : RowWrite) :
    (write.apply row).Checked := by
  cases write with
  | unchanged => exact h
  | completed result execution now =>
    exact AssessmentRow.checked_iff.mpr ⟨fun _ => ⟨rfl, rfl⟩, nofun⟩
  | pendingReview execution now => exact AssessmentRow.checked_iff.mpr ⟨nofun, nofun⟩
  | failed errorCode errorMessage now =>
    exact AssessmentRow.checked_iff.mpr ⟨nofun, fun _ => ⟨rfl, rfl, rfl⟩⟩

end Checked

section Governed

variable {t : Tables} {row : AssessmentRow} {env : Env} {assessmentId : UUID}

/-- The empty tables are governed. -/
theorem Tables.governed_empty : Tables.Governed {} where
  checked := by simp
  ungated := by simp
  gated := by simp

/-- A single row that does not await a review is governed. -/
theorem Tables.governed_of_row (hrow : row.Checked) (hstatus : row.status ≠ .pendingReview) :
    Tables.Governed { assessment := some row } where
  checked := by
    rintro _ ⟨⟩
    exact hrow
  ungated := by
    rintro - _ ⟨⟩
    exact hstatus
  gated := by simp

/-- Row and checkpoint after a transition whose row agrees with its checkpoint. -/
theorem Transition.governed {tr : Transition} (hrow : t.assessment = some row)
    (hchecked : row.Checked) (hagree : ReviewLifecycle (tr.write.apply row) tr.checkpoint) :
    (tr.apply t).Governed where
  checked := by
    rintro _ h
    simp only [Transition.apply, hrow, Option.map_some, Option.mem_some_iff] at h
    rw [← h]
    exact hchecked.apply tr.write
  ungated := by simp [Transition.apply]
  gated := by
    rintro _ ⟨⟩
    exact ⟨tr.write.apply row, by simp [Transition.apply, hrow], hagree⟩

/-- The gate leaves governed tables. -/
theorem processTransition_governed {service : RuntimeGovernanceService} {c : Candidate}
    {overrides : SignalOverrides} {revisionCount n : ℕ} {recordReviewRequest : Bool}
    {tr : Transition} (hrow : t.assessment = some row) (hchecked : row.Checked)
    (htr : processTransition service env assessmentId c overrides revisionCount
      recordReviewRequest n t = .ok tr) : (tr.apply t).Governed := by
  obtain ⟨gateResult, telemetry, -, -, hbound, rfl⟩ := processTransition_eq_ok htr
  exact Transition.governed hrow hchecked
    (reviewLifecycle_gate row c gateResult _ hbound _ (env.clock (n + 3)) (env.clock (n + 3)) _)

/-- A review request keeps the tables governed. -/
theorem Tables.Governed.transition {service : RuntimeGovernanceService} {op : ReviewOp}
    {tr : Transition} (h : t.Governed)
    (htr : op.transition service env assessmentId t = .ok tr) : (tr.apply t).Governed := by
  obtain ⟨state, row, hrow, hcheckpoint, -⟩ := ReviewOp.transition_eq_ok htr
  obtain ⟨row', hrow', hagree⟩ := h.gated state hcheckpoint
  have hlifecycle : t.Lifecycle := ⟨row', hrow', by rw [hcheckpoint]; exact hagree⟩
  obtain ⟨after, hafter, hnew⟩ := hlifecycle.transition htr
  simp only [Transition.apply, hrow, Option.map_some, Option.some.injEq] at hafter
  subst hafter
  exact Transition.governed hrow (h.checked row hrow) hnew

/-- A served request keeps the tables governed. -/
theorem ServedRequest.perform_governed (request : ServedRequest) (h : t.Governed) :
    (request.perform assessmentId t).Governed := by
  unfold ServedRequest.perform
  rcases @performRequest_cases request.service assessmentId request.env request.op t with
    heq | ⟨tr, htr, heq⟩
  · rwa [heq]
  · rw [heq]
    exact h.transition htr

/-- However a generation ends, it leaves governed tables. -/
theorem GenerationEnd.governed {service : AssessmentService} {timers : Timers}
    {request : AssessmentRequest} {principal : Option AuthenticatedPrincipal}
    (h : GenerationEnd service env timers assessmentId request principal t) : t.Governed := by
  have hstarted : (startedRow env assessmentId request principal).Checked :=
    AssessmentRow.checked_iff.mpr ⟨nofun, nofun⟩
  cases h with
  | nothing => exact Tables.governed_empty
  | created =>
    have hcreated : (createdRow env assessmentId request principal).Checked :=
      AssessmentRow.checked_iff.mpr ⟨(fun h => by cases h), (fun h => by cases h)⟩
    exact Tables.governed_of_row hcreated fun h => by cases h
  | started => exact Tables.governed_of_row hstarted nofun
  | failed errorCode errorMessage =>
    exact Tables.governed_of_row (hstarted.apply (.failed _ _ _)) nofun
  | completed => exact Tables.governed_of_row (hstarted.apply (.completed _ _ _)) nofun
  | gated _ _ htr => exact processTransition_governed rfl hstarted htr

end Governed

/-! ## The database in use -/

/-- What is stored about each assessment, under its identifier. An entry without a row stands for
nothing. -/
structure Store where
  entries : List (UUID × Tables)
  distinct : (entries.map Prod.fst).Nodup
  governed : ∀ entry ∈ entries, entry.2.Governed

/-- One request on the database: a generation under a fresh identifier, or a review request, each
with the service that is deployed when it arrives. -/
inductive StoreRequest where
  | generate (assessmentId : UUID) (service : AssessmentService) (generation : GenerationRequest)
  | review (assessmentId : UUID) (request : ServedRequest)

namespace Store

/-- What is stored under an identifier. -/
def lookup (s : Store) (assessmentId : UUID) : Tables :=
  ((getBy Prod.fst assessmentId s.entries).map Prod.snd).getD {}

/-- What is stored under an identifier is governed. -/
theorem lookup_governed (s : Store) (assessmentId : UUID) : (s.lookup assessmentId).Governed := by
  unfold lookup
  cases hentry : getBy Prod.fst assessmentId s.entries with
  | none => exact Tables.governed_empty
  | some entry => exact s.governed entry (getBy_mem hentry).1

/-- Store tables under an identifier. -/
def put (s : Store) (assessmentId : UUID) (t : Tables) (h : t.Governed) : Store where
  entries := putBy Prod.fst (assessmentId, t) s.entries
  distinct := nodup_map_putBy s.distinct
  governed := by
    intro entry hentry
    rcases mem_putBy s.distinct hentry with rfl | ⟨hmem, -⟩
    · exact h
    · exact s.governed entry hmem

/-- The database that stores the entries. -/
def database (s : Store) : Database :=
  .reviewed (s.entries.filterMap fun entry => entry.2.assessment)
    (s.entries.filterMap fun entry => entry.2.checkpoint)
    (s.entries.flatMap fun entry => entry.2.events) (by
      intro name check hcheck row hrow
      obtain ⟨entry, hentry, hassessment⟩ := List.mem_filterMap.mp hrow
      exact (s.governed entry hentry).checked row hassessment name check hcheck row
        (List.mem_singleton_self row))

end Store

/-- The committed tables of a generation. -/
def GenerationRequest.perform (generation : GenerationRequest) (service : AssessmentService)
    (assessmentId : UUID) : Tables :=
  (Prog.exec (generateAssessment service generation.env generation.timers assessmentId
    generation.request generation.principal) { db := .open {} }).2.db.committed

/-- A performed generation has come to one of its ends. -/
theorem GenerationRequest.perform_end (generation : GenerationRequest)
    (service : AssessmentService) (assessmentId : UUID) :
    GenerationEnd service generation.env generation.timers assessmentId generation.request
      generation.principal (generation.perform service assessmentId) :=
  generateAssessment_end service generation.env generation.timers assessmentId generation.request
    generation.principal

/-- The database after a request. -/
def StoreRequest.perform : StoreRequest → Store → Store
  | .generate assessmentId service generation, s =>
    -- a second row under one identifier violates the primary key
    if (s.lookup assessmentId).assessment.isSome then s
    else s.put assessmentId (generation.perform service assessmentId)
      (generation.perform_end service assessmentId).governed
  | .review assessmentId request, s =>
    s.put assessmentId (request.perform assessmentId (s.lookup assessmentId))
      (request.perform_governed (s.lookup_governed assessmentId))

/-- The rows of a database before the migration. -/
structure PriorAssessments where
  rows : List AssessmentRow
  distinct : (rows.map AssessmentRow.assessmentId).Nodup
  checked : SatisfyChecks priorStatuses rows

namespace PriorAssessments

variable (prior : PriorAssessments)

/-- The database that the migration upgrades. -/
def database : Database := .prior prior.rows prior.checked

/-- No row of a prior database awaits a review. -/
theorem status_ne {row : AssessmentRow} (hrow : row ∈ prior.rows) :
    row.status ≠ .pendingReview :=
  (statusIn_priorStatuses row).mp (prior.checked .assessmentStatusValues _ rfl row hrow)

/-- The entries of the upgraded database. -/
def store : Store where
  entries := prior.rows.map fun row => (row.assessmentId, { assessment := some row })
  distinct := by
    rw [List.map_map]
    exact prior.distinct
  governed := by
    intro entry hentry
    obtain ⟨row, hrow, rfl⟩ := List.mem_map.mp hentry
    refine Tables.governed_of_row (fun name check hcheck row' hrow' => ?_) (prior.status_ne hrow)
    obtain rfl := List.mem_singleton.mp hrow'
    have hwider : SatisfyChecks reviewStatuses prior.rows :=
      prior.checked.of_statusIn fun row _ => statusIn_reviewStatuses row
    exact hwider name check hcheck row' hrow

/-- The upgrade leads to the database of these entries. -/
theorem upgrade_database : upgrade prior.database = .ok prior.store.database := by
  rw [database, upgrade_prior]
  unfold Store.database store
  congr 2
  · simp [List.filterMap_map]
  · simp [List.filterMap_map]
  · simp [List.flatMap_map]

/-- The downgrade takes the upgrade back. -/
theorem downgrade_database : downgrade prior.store.database = .ok prior.database := by
  have hboth : (upgrade prior.database >>= downgrade) = .ok prior.database :=
    upgrade_downgrade prior.checked
  rwa [prior.upgrade_database] at hboth

end PriorAssessments

/-- The database after a sequence of requests. -/
def Store.run (s : Store) (requests : List StoreRequest) : Store :=
  requests.foldl (fun s request => request.perform s) s

/-! ## The downgrade -/

/-- A row is paused exactly while its review is open. -/
theorem Tables.Governed.reviewOpen_iff {t : Tables} (h : t.Governed) :
    t.ReviewOpen ↔ ∃ row, t.assessment = some row ∧ row.status = .pendingReview := by
  constructor
  · rintro ⟨state, hstate, hopen⟩
    obtain ⟨row, hrow, hagree⟩ := h.gated state hstate
    exact ⟨row, hrow, hagree.pendingReview_iff.mp hopen⟩
  · rintro ⟨row, hrow, hpaused⟩
    cases hcheckpoint : t.checkpoint with
    | none => exact absurd hpaused (h.ungated hcheckpoint row hrow)
    | some state =>
      obtain ⟨row', hrow', hagree⟩ := h.gated state hcheckpoint
      cases hrow.symm.trans hrow'
      exact ⟨state, hcheckpoint, hagree.pendingReview_iff.mpr hpaused⟩

/-- No review is open. -/
def Store.Quiet (s : Store) : Prop := ∀ entry ∈ s.entries, ¬entry.2.ReviewOpen

/-- The downgrade of a store succeeds exactly if no review is open. -/
theorem Store.downgrades_iff (s : Store) : s.database.Downgrades ↔ s.Quiet := by
  refine (AssessmentPlatform.downgrades_iff _).trans ?_
  constructor
  · intro h entry hentry hopen
    obtain ⟨row, hrow, hpaused⟩ := (s.governed entry hentry).reviewOpen_iff.mp hopen
    exact h row (List.mem_filterMap.mpr ⟨entry, hentry, hrow⟩) hpaused
  · intro h row hrow hpaused
    obtain ⟨entry, hentry, hassessment⟩ := List.mem_filterMap.mp hrow
    exact h entry hentry ((s.governed entry hentry).reviewOpen_iff.mpr ⟨row, hassessment, hpaused⟩)

/-! ## Runs without reviews -/

/-- The request generates a candidate which the gate sends to a reviewer. -/
def StoreRequest.AsksForReview : StoreRequest → Prop
  | .generate assessmentId service generation =>
    ∃ governance c gateResult, service.runtimeGovernance = some governance ∧
      service.Generates generation.env generation.timers assessmentId generation.request c ∧
      governance.evaluate c.signals = .ok gateResult ∧ gateResult.decision = .requireHumanReview
  | .review _ _ => False

section Quiet

variable {s : Store} {assessmentId : UUID}

/-- In a quiet store no review is open under any identifier. -/
theorem Store.Quiet.lookup (h : s.Quiet) (assessmentId : UUID) :
    ¬(s.lookup assessmentId).ReviewOpen := by
  unfold Store.lookup
  cases hentry : getBy Prod.fst assessmentId s.entries with
  | none => exact fun hopen => by obtain ⟨_, ⟨⟩, _⟩ := hopen
  | some entry => exact h entry (getBy_mem hentry).1

/-- A quiet store stays quiet when tables without an open review are put. -/
theorem Store.Quiet.put (h : s.Quiet) {t : Tables} (hgoverned : t.Governed)
    (ht : ¬t.ReviewOpen) : (s.put assessmentId t hgoverned).Quiet := by
  intro entry hentry
  rcases mem_putBy s.distinct hentry with rfl | ⟨hmem, -⟩
  · exact ht
  · exact h entry hmem

/-- Where no review is open, no review request is accepted. -/
theorem ServedRequest.perform_of_closed (request : ServedRequest) {t : Tables}
    (h : ¬t.ReviewOpen) : request.perform assessmentId t = t := by
  rcases @performRequest_cases request.service assessmentId request.env request.op t with
    heq | ⟨tr, htr, -⟩
  · exact heq
  · obtain ⟨state, -, -, hcheckpoint, -, hstatus, -⟩ := ReviewOp.transition_eq_ok htr
    refine absurd ⟨state, hcheckpoint, ?_⟩ h
    rw [hstatus]
    cases request.op with
    | resumeRevision c => exact .inr rfl
    | approve _ _ | reject _ _ | requestRevision _ _ => exact .inl rfl

/-- A generation opens a review only by the decision of its gate. -/
theorem GenerationEnd.closed {service : AssessmentService} {generation : GenerationRequest}
    {t : Tables} (h : GenerationEnd service generation.env generation.timers assessmentId
      generation.request generation.principal t)
    (hasks : ¬(StoreRequest.generate assessmentId service generation).AsksForReview) :
    ¬t.ReviewOpen := by
  rintro ⟨state, hstate, hopen⟩
  cases h with
  | nothing | created | started | failed | completed => cases hstate
  | gated hgated hgenerated htr =>
    obtain ⟨gateResult, telemetry, hgate, -, -, rfl⟩ := processTransition_eq_ok htr
    cases hstate
    refine hasks ⟨_, _, gateResult, hgated, hgenerated, hgate, ?_⟩
    change gateStatus gateResult.decision = _ ∨ gateStatus gateResult.decision = _ at hopen
    cases hdecision : gateResult.decision with
    | requireHumanReview => rfl
    | autoComplete | completeWithWarning | blockAndEscalate =>
      rw [hdecision] at hopen
      rcases hopen with hopen | hopen
      · cases hopen
      · cases hopen

/-- A request that does not ask for a review keeps the store quiet. -/
theorem StoreRequest.perform_quiet {request : StoreRequest} (hasks : ¬request.AsksForReview)
    (h : s.Quiet) : (request.perform s).Quiet := by
  cases request with
  | generate assessmentId service generation =>
    dsimp only [StoreRequest.perform]
    split
    · exact h
    · exact h.put _ ((generation.perform_end service assessmentId).closed hasks)
  | review assessmentId request =>
    have hclosed : ¬(request.perform assessmentId (s.lookup assessmentId)).ReviewOpen := by
      rw [request.perform_of_closed (h.lookup assessmentId)]
      exact h.lookup assessmentId
    exact h.put (request.perform_governed (s.lookup_governed assessmentId)) hclosed

/-- Requests that do not ask for a review keep the store quiet. -/
theorem Store.run_quiet {requests : List StoreRequest}
    (hasks : ∀ request ∈ requests, ¬request.AsksForReview) (h : s.Quiet) :
    (s.run requests).Quiet := by
  induction requests generalizing s with
  | nil => exact h
  | cons request requests ih =>
    exact ih (fun later hlater => hasks later (List.mem_cons_of_mem request hlater))
      (StoreRequest.perform_quiet (hasks request List.mem_cons_self) h)

/-- The upgraded database is quiet. -/
theorem PriorAssessments.quiet (prior : PriorAssessments) : prior.store.Quiet := by
  rintro entry hentry ⟨state, hstate, -⟩
  obtain ⟨row, -, rfl⟩ := List.mem_map.mp hentry
  cases hstate

end Quiet

/-- A prior database is upgraded, and the downgrade takes the upgrade back. After any sequence of
requests on the upgraded database, the downgrade succeeds if and only if no review is open. If the
gate sends no candidate of the run to a reviewer, it succeeds in every state that the run goes
through. -/
theorem downgrade_succeeds_iff (prior : PriorAssessments) (requests : List StoreRequest) :
    (upgrade prior.database = .ok prior.store.database ∧
      downgrade prior.store.database = .ok prior.database) ∧
    ((prior.store.run requests).database.Downgrades ↔ (prior.store.run requests).Quiet) ∧
      ((∀ request ∈ requests, ¬request.AsksForReview) →
        ∀ earlier, earlier <+: requests → (prior.store.run earlier).database.Downgrades) := by
  refine ⟨⟨prior.upgrade_database, prior.downgrade_database⟩, Store.downgrades_iff _,
    fun hasks earlier hearlier => ?_⟩
  refine (Store.downgrades_iff _).mpr (Store.run_quiet (fun request hrequest => ?_) prior.quiet)
  exact hasks request (hearlier.mem hrequest)

/-- A database without assessments. -/
def PriorAssessments.empty : PriorAssessments where
  rows := []
  distinct := List.nodup_nil
  checked := by simp [SatisfyChecks]

/-- A generation that is sent to a reviewer, and its approval. -/
def StoreRequest.reviewed : List StoreRequest :=
  [.generate 7 .gated (.minimal (.ticking 0)),
    .review 7
      { service := .standard .default
        env := .ticking 10
        op := .approve .blank none }]

/-- The downgrade succeeds after the approval, and after a generation without a gate. -/
theorem downgrade_succeeds_after_approval :
    (PriorAssessments.empty.store.run StoreRequest.reviewed).database.Downgrades ∧
      (PriorAssessments.empty.store.run
        [.generate 7 .constant (.minimal (.ticking 0))]).database.Downgrades := by
  constructor
  · refine (downgrade_succeeds_iff .empty StoreRequest.reviewed).2.1.mpr ?_
    have hstatus : ∀ entry ∈ (PriorAssessments.empty.store.run StoreRequest.reviewed).entries,
        entry.2.checkpoint.map (·.reviewStatus) = some .approved := by decide +kernel
    rintro entry hentry ⟨state, hstate, hopen⟩
    have happroved := hstatus entry hentry
    rw [hstate] at happroved
    have happroved : state.reviewStatus = .approved := Option.some.inj happroved
    simp [happroved] at hopen
  · refine (downgrade_succeeds_iff .empty [.generate 7 .constant (.minimal (.ticking 0))]).2.2 ?_ _
      List.prefix_rfl
    rintro request hrequest hasks
    obtain rfl := List.mem_singleton.mp hrequest
    obtain ⟨governance, c, gateResult, ⟨⟩, -⟩ := hasks

/-- While the review is open, the downgrade is refused: the row is paused, and the restored
constraint does not admit its status. -/
theorem downgrade_refused_while_review_open :
    let db := (PriorAssessments.empty.store.run
      [.generate 7 .gated (.minimal (.ticking 0))]).database
    ¬db.Downgrades ∧ downgrade db = .error .checkViolation ∧
      db.assessments.rows.map AssessmentRow.status = [.pendingReview] := by
  intro db
  have hstatus : db.assessments.rows.map AssessmentRow.status = [.pendingReview] := by
    decide +kernel
  have hviolated : ¬∀ row ∈ db.assessments.rows, statusIn priorStatuses row = true := by
    intro hrows
    obtain ⟨row, hrow, hpaused⟩ := List.mem_map.mp (hstatus ▸ List.mem_singleton_self _ :
      AssessmentStatus.pendingReview ∈ db.assessments.rows.map AssessmentRow.status)
    exact (statusIn_priorStatuses row).mp (hrows row hrow) hpaused
  have herror : downgrade db = .error .checkViolation := downgrade_eq_error _ hviolated
  refine ⟨?_, herror, hstatus⟩
  rintro ⟨prior, hprior, -⟩
  cases herror.symm.trans hprior

end AssessmentPlatform
