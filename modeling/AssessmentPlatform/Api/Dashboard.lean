import AssessmentPlatform.Api.Release
import AssessmentPlatform.Product.ReadModels

/-!
# The dashboard of a running platform

What the listing shows of a store that the platform has reached. The pages of one size show every
assessment of a status exactly once, newest first and each with its own checkpoint. The facets,
which are counted over two tables, agree with one another.
-/

namespace AssessmentPlatform

open Library

/-! ## What is filed under an identifier -/

/-- What is stored under an identifier carries it, its telemetry can be read, and the gate has
asked for a review exactly if the checkpoint has one. -/
structure Tables.Filed (assessmentId : UUID) (t : Tables) : Prop where
  row : ∀ row ∈ t.assessment, row.assessmentId = assessmentId
  state : ∀ state ∈ t.checkpoint, state.assessmentId = assessmentId
  telemetry : ∀ state ∈ t.checkpoint, state.telemetry.Valid
  decision : ∀ state ∈ t.checkpoint,
    state.gateResult.decision = .requireHumanReview ↔ state.reviewStatus ≠ .notRequired

section Filed

variable {t : Tables} {assessmentId : UUID} {env : Env}

/-- The gate asks for a review exactly if its status says that one is required. -/
theorem gateStatus_ne_notRequired (decision : RuntimeRiskDecision) :
    decision = .requireHumanReview ↔ gateStatus decision ≠ .notRequired := by
  cases decision <;> simp [gateStatus]

/-- A single row under its own identifier is filed. -/
theorem Tables.filed_of_row {row : AssessmentRow} (h : row.assessmentId = assessmentId) :
    Tables.Filed assessmentId { assessment := some row } where
  row := by
    rintro _ ⟨⟩
    exact h
  state := by simp
  telemetry := by simp
  decision := by simp

/-- What a transition leaves, for a checkpoint that carries the identifier. -/
theorem Transition.filed {tr : Transition} (hrow : ∀ row ∈ t.assessment,
    row.assessmentId = assessmentId) (hstate : tr.checkpoint.assessmentId = assessmentId)
    (hvalid : tr.checkpoint.telemetry.Valid)
    (hdecision : tr.checkpoint.gateResult.decision = .requireHumanReview ↔
      tr.checkpoint.reviewStatus ≠ .notRequired) : (tr.apply t).Filed assessmentId where
  row := by
    intro row h
    obtain ⟨stored, hstored, rfl⟩ := Option.map_eq_some_iff.mp h
    rw [tr.write.apply_assessmentId]
    exact hrow stored hstored
  state := by
    rintro _ ⟨⟩
    exact hstate
  telemetry := by
    rintro _ ⟨⟩
    exact hvalid
  decision := by
    rintro _ ⟨⟩
    exact hdecision

/-- A review request keeps the tables filed. -/
theorem Tables.Filed.transition {service : RuntimeGovernanceService} {op : ReviewOp}
    {tr : Transition} (h : t.Filed assessmentId)
    (htr : op.transition service env assessmentId t = .ok tr) :
    (tr.apply t).Filed assessmentId := by
  obtain ⟨state, row, -, hcheckpoint, -, hstatus, haction | ⟨c, rfl, hresume⟩⟩ :=
    ReviewOp.transition_eq_ok htr
  · obtain ⟨action, newStatus, revision, write, request, principal, telemetry, n, haction, hvalid,
      -, rfl⟩ := haction
    have hreview : state.gateResult.decision = .requireHumanReview := by
      refine (h.decision state hcheckpoint).mpr ?_
      rw [hstatus]
      cases haction <;> simp [ReviewOp.accepts]
    refine Transition.filed h.row rfl hvalid (iff_of_true hreview ?_)
    change newStatus ≠ .notRequired
    cases haction <;> decide
  · obtain ⟨gateResult, telemetry, -, hvalid, -, rfl⟩ := resumeTransition_eq_ok hresume
    exact Transition.filed h.row rfl hvalid (gateStatus_ne_notRequired _)

/-- A reviewer action keeps the tables filed. -/
theorem performRequest_filed (service : RuntimeGovernanceService) (h : t.Filed assessmentId)
    (env : Env) (op : ReviewOp) :
    (performRequest service assessmentId env op t).Filed assessmentId := by
  rcases performRequest_cases env op t with heq | ⟨tr, htr, heq⟩
  · rw [heq]
    exact h
  · rw [heq]
    exact h.transition htr

/-- However a generation ends, it leaves filed tables. -/
theorem GenerationEnd.filed {service : AssessmentService} {timers : Timers}
    {request : AssessmentRequest} {principal : Option AuthenticatedPrincipal}
    (h : GenerationEnd service env timers assessmentId request principal t) :
    t.Filed assessmentId := by
  cases h with
  | nothing => exact ⟨by simp, by simp, by simp, by simp⟩
  | created => exact Tables.filed_of_row rfl
  | started => exact Tables.filed_of_row rfl
  | failed errorCode errorMessage => exact Tables.filed_of_row rfl
  | completed => exact Tables.filed_of_row rfl
  | gated _ _ htr =>
    obtain ⟨gateResult, telemetry, -, htelemetry, -, rfl⟩ := processTransition_eq_ok htr
    refine Transition.filed ?_ rfl
      (gateTelemetry_valid (candidateTelemetry_valid htelemetry) gateResult.decision _)
      (gateStatus_ne_notRequired _)
    rintro _ ⟨⟩
    rfl

end Filed

section Runs

variable {κ : Type} {s : Store}

/-- Everything in the store is filed. -/
def Store.Filed (s : Store) : Prop := ∀ assessmentId, (s.lookup assessmentId).Filed assessmentId

/-- A step of the platform keeps the store filed. -/
theorem PlatformStep.perform_filed (step : PlatformStep κ) (h : s.Filed) :
    (step.perform s).Filed := by
  intro assessmentId
  have hfiled := h assessmentId
  have hacts := step.acts s assessmentId
  generalize (step.perform s).lookup assessmentId = after at hacts ⊢
  cases hacts with
  | unchanged => exact hfiled
  | generated _ _ => exact (GenerationRequest.perform_end _ _ assessmentId).filed
  | decided _ _ => exact performRequest_filed _ hfiled _ _
  | resumed => exact performRequest_filed _ hfiled _ _

/-- Every run of the platform keeps the store filed. -/
theorem Store.platform_filed (h : s.Filed) (steps : List (PlatformStep κ)) :
    (s.platform steps).Filed := by
  induction steps generalizing s with
  | nil => exact h
  | cons step steps ih => exact ih (step.perform_filed h)

/-- The upgraded database is filed. -/
theorem PriorAssessments.store_filed (prior : PriorAssessments) : prior.store.Filed := by
  intro assessmentId
  unfold Store.lookup
  cases hentry : getBy Prod.fst assessmentId prior.store.entries with
  | none => exact ⟨by simp, by simp, by simp, by simp⟩
  | some entry =>
    obtain ⟨hmem, hkey⟩ := getBy_mem hentry
    obtain ⟨row, -, rfl⟩ := List.mem_map.mp hmem
    exact Tables.filed_of_row hkey

end Runs

/-! ## The tables of a store -/

/-- The rows and the checkpoints of a store. -/
def Store.readTables (s : Store) : ReadTables where
  rows := s.entries.filterMap fun entry => entry.2.assessment
  states := s.entries.filterMap fun entry => entry.2.checkpoint

section Store

variable {s : Store}

/-- What is stored under an identifier is found under it. -/
theorem Store.lookup_of_mem {entry : UUID × Tables} (h : entry ∈ s.entries) :
    s.lookup entry.1 = entry.2 := by
  unfold Store.lookup
  cases hfound : getBy Prod.fst entry.1 s.entries with
  | none => exact absurd (List.mem_map_of_mem h) (getBy_eq_none_iff.mp hfound)
  | some found =>
    obtain ⟨hmem, hkey⟩ := getBy_mem hfound
    rw [List.inj_on_of_nodup_map s.distinct hmem h hkey]
    rfl

/-- Every entry of a filed store is filed under its identifier. -/
theorem Store.Filed.entry (h : s.Filed) {entry : UUID × Tables} (hentry : entry ∈ s.entries) :
    entry.2.Filed entry.1 := by
  have hfiled := h entry.1
  rwa [s.lookup_of_mem hentry] at hfiled

/-- The rows of a filed store have distinct identifiers. -/
theorem Store.Filed.nodup_rows (h : s.Filed) :
    (s.readTables.rows.map AssessmentRow.assessmentId).Nodup :=
  (map_filterMap_sublist fun _ hentry row hrow => (h.entry hentry).row row hrow).nodup s.distinct

/-- A row is found under its identifier. -/
theorem Store.Filed.getBy_rows (h : s.Filed) (assessmentId : UUID) :
    getBy AssessmentRow.assessmentId assessmentId s.readTables.rows =
      (s.lookup assessmentId).assessment := by
  unfold Store.readTables Store.lookup
  rw [getBy_filterMap (fun _ hentry row hrow => (h.entry hentry).row row hrow) s.distinct]
  cases getBy Prod.fst assessmentId s.entries <;> rfl

/-- A checkpoint is found under its identifier. -/
theorem Store.Filed.getBy_states (h : s.Filed) (assessmentId : UUID) :
    getBy RuntimeAssessmentState.assessmentId assessmentId s.readTables.states =
      (s.lookup assessmentId).checkpoint := by
  unfold Store.readTables Store.lookup
  rw [getBy_filterMap (fun _ hentry state hstate => (h.entry hentry).state state hstate) s.distinct]
  cases getBy Prod.fst assessmentId s.entries <;> rfl

/-- The rows of a filed store are those that are found under their identifiers. -/
theorem Store.Filed.mem_rows (h : s.Filed) {row : AssessmentRow} :
    row ∈ s.readTables.rows ↔ (s.lookup row.assessmentId).assessment = some row := by
  rw [← h.getBy_rows]
  constructor
  · intro hrow
    cases hfound : getBy AssessmentRow.assessmentId row.assessmentId s.readTables.rows with
    | none => exact absurd (List.mem_map_of_mem hrow) (getBy_eq_none_iff.mp hfound)
    | some found =>
      obtain ⟨hmem, hkey⟩ := getBy_mem hfound
      rw [List.inj_on_of_nodup_map h.nodup_rows hmem hrow hkey]
  · exact fun hfound => (getBy_mem hfound).1

/-- The telemetry of the checkpoints of a filed store is valid. -/
theorem Store.Filed.telemetry_valid (h : s.Filed) :
    ∀ state ∈ s.readTables.states, state.telemetry.Valid := by
  intro state hstate
  obtain ⟨entry, hentry, hcheckpoint⟩ := List.mem_filterMap.mp hstate
  exact (h.entry hentry).telemetry state hcheckpoint

end Store

/-! ## Pages -/

/-- The order of the listing. -/
def AssessmentListItem.NewestFirst (a b : AssessmentListItem) : Prop :=
  b.createdAt < a.createdAt ∨ a.createdAt = b.createdAt ∧ a.assessmentId < b.assessmentId

/-- The item shows the assessment that is stored under its identifier. -/
def Store.Shows (s : Store) (status : Option AssessmentStatus) (item : AssessmentListItem) : Prop :=
  ∃ row, (s.lookup item.assessmentId).assessment = some row ∧
    row.matchesStatus status = true ∧
    item = toListItem row (s.lookup item.assessmentId).checkpoint

section Pages

variable {s : Store} {status : Option AssessmentStatus} {limit n : ℕ}

/-- The order of the listing: newest first, and then by identifier. -/
theorem AssessmentRow.newestFirst_iff {a b : AssessmentRow} :
    a.newestFirst b = true ↔
      b.createdAt < a.createdAt ∨ a.createdAt = b.createdAt ∧ a.assessmentId ≤ b.assessmentId := by
  simp [AssessmentRow.newestFirst]

/-- The rows of a listing are in its order, strictly, since no identifier occurs twice. -/
theorem Store.Filed.pairwise_listed (h : s.Filed) (status : Option AssessmentStatus) :
    (s.readTables.listed status).Pairwise fun a b =>
      b.createdAt < a.createdAt ∨ a.createdAt = b.createdAt ∧ a.assessmentId < b.assessmentId := by
  have htrans : ∀ {x y z : ℤ} {i j k : ℕ}, (y < x ∨ x = y ∧ i ≤ j) → (z < y ∨ y = z ∧ j ≤ k) →
      (z < x ∨ x = z ∧ i ≤ k) := by
    intro x y z i j k
    omega
  have htotal : ∀ (x y : ℤ) (i j : ℕ), (y < x ∨ x = y ∧ i ≤ j) ∨ (x < y ∨ y = x ∧ j ≤ i) := by
    intro x y i j
    omega
  have hsorted : (s.readTables.listed status).Pairwise fun a b => a.newestFirst b = true := by
    apply List.pairwise_mergeSort
    · intro a b c hab hbc
      rw [AssessmentRow.newestFirst_iff] at hab hbc ⊢
      exact htrans hab hbc
    · intro a b
      rw [Bool.or_eq_true, AssessmentRow.newestFirst_iff, AssessmentRow.newestFirst_iff]
      exact htotal a.createdAt b.createdAt a.assessmentId b.assessmentId
  have hnodup : ((s.readTables.listed status).map AssessmentRow.assessmentId).Nodup := by
    have hperm := (List.mergeSort_perm (s.readTables.rows.filter
      (AssessmentRow.matchesStatus status)) AssessmentRow.newestFirst).map
      AssessmentRow.assessmentId
    exact hperm.nodup_iff.mpr ((List.filter_sublist.map _).nodup h.nodup_rows)
  rw [List.Nodup, List.pairwise_map] at hnodup
  refine (hsorted.and hnodup).imp ?_
  rintro a b ⟨hle, hne⟩
  rw [AssessmentRow.newestFirst_iff] at hle
  exact hle.imp_right fun h => ⟨h.1, lt_of_le_of_ne h.2 hne⟩

/-- The listed rows are the stored ones that match the status. -/
theorem Store.Filed.mem_listed (h : s.Filed) {row : AssessmentRow} :
    row ∈ s.readTables.listed status ↔
      (s.lookup row.assessmentId).assessment = some row ∧ row.matchesStatus status = true := by
  unfold ReadTables.listed
  rw [List.mem_mergeSort, List.mem_filter, h.mem_rows]

/-- The items of all pages. -/
theorem flatMap_response_items (t : ReadTables) (h : t.rows.countP
      (AssessmentRow.matchesStatus status) ≤ n * limit) :
    ((List.range n).map fun i => t.response status (i * limit) limit).flatMap (·.items) =
      (t.listed status).map fun record => toListItem record
        (getBy RuntimeAssessmentState.assessmentId record.assessmentId t.states) := by
  have hlength : (t.listed status).length ≤ n * limit := by
    unfold ReadTables.listed
    rwa [List.length_mergeSort, ← List.countP_eq_length_filter]
  conv_rhs => rw [← flatMap_page_eq hlength]
  rw [List.flatMap_map, List.map_flatMap]
  rfl

end Pages

/-- In a store that the platform has reached, the pages of a listing, as many as its total asks
for, show every assessment of the status exactly once, newest first and with its own
checkpoint. -/
theorem listing_pages {κ : Type} (prior : PriorAssessments) (steps : List (PlatformStep κ))
    (status : Option AssessmentStatus) {limit n : ℕ} (hlimit : 0 < limit)
    (hn : (prior.store.platform steps).readTables.rows.countP
      (AssessmentRow.matchesStatus status) ≤ n * limit) :
    ∃ responses, ((List.range n).mapM fun i =>
        (prior.store.platform steps).readTables.listAssessments (fun _ => none) status (i * limit)
          limit) = .ok responses ∧
      (responses.flatMap (·.items)).Pairwise AssessmentListItem.NewestFirst ∧
      ∀ item, item ∈ responses.flatMap (·.items) ↔
        (prior.store.platform steps).Shows status item := by
  have hfiled := Store.platform_filed prior.store_filed steps
  generalize prior.store.platform steps = s at hfiled hn ⊢
  refine ⟨(List.range n).map fun i => s.readTables.response status (i * limit) limit, ?_, ?_, ?_⟩
  · refine except_mapM_eq_ok.mpr ?_
    rw [List.forall₂_map_right_iff, List.forall₂_same]
    intro i _
    rcases ReadTables.listAssessments_cases (fun _ => none) status (i * limit)
        hfiled.telemetry_valid hlimit with h | ⟨⟨step, hfault⟩, -⟩
    · exact h
    · exact absurd rfl hfault
  · rw [flatMap_response_items _ hn, List.pairwise_map]
    exact hfiled.pairwise_listed status
  · intro item
    rw [flatMap_response_items _ hn, List.mem_map]
    constructor
    · rintro ⟨row, hrow, rfl⟩
      obtain ⟨hstored, hstatus⟩ := hfiled.mem_listed.mp hrow
      refine ⟨row, hstored, hstatus, ?_⟩
      rw [hfiled.getBy_states]
      rfl
    · rintro ⟨row, hstored, hstatus, hitem⟩
      have hid : row.assessmentId = item.assessmentId := by
        rw [hitem]
        rfl
      refine ⟨row, hfiled.mem_listed.mpr ⟨by rwa [hid], hstatus⟩, ?_⟩
      rw [hfiled.getBy_states, hid]
      exact hitem.symm

/-- The store after an approval is listed on one page. -/
theorem listing_pages_approved :
    ∃ responses, ((List.range 1).mapM fun i =>
        (PriorAssessments.empty.store.platform PlatformStep.approved).readTables.listAssessments
          (fun _ => none) none (i * 25) 25) = .ok responses ∧
      (responses.flatMap (·.items)).Pairwise AssessmentListItem.NewestFirst ∧
      ∀ item, item ∈ responses.flatMap (·.items) ↔
        (PriorAssessments.empty.store.platform PlatformStep.approved).Shows none item :=
  listing_pages .empty PlatformStep.approved none (by decide) (by decide +kernel)

/-! ## Facets -/

/-- The facets of a listing agree with its total and with one another. -/
structure AssessmentListResponse.Agrees (status : Option AssessmentStatus)
    (response : AssessmentListResponse) : Prop where
  /-- The total is the sum of the counts, or the count of the status. -/
  total : response.total = match status with
    | none => (response.statusCounts.map Prod.snd).sum
    | some status => countUnder status.value response.statusCounts
  /-- The paused assessments are those whose review is open. -/
  paused : countUnder AssessmentStatus.pendingReview.value response.statusCounts =
    countUnder HumanReviewStatus.pending.value response.reviewStatusCounts +
      countUnder HumanReviewStatus.revisionRequested.value response.reviewStatusCounts
  /-- The gate has asked for every review. -/
  reviewed : countUnder RuntimeRiskDecision.requireHumanReview.value
      response.runtimeDecisionCounts =
    countUnder HumanReviewStatus.pending.value response.reviewStatusCounts +
      countUnder HumanReviewStatus.approved.value response.reviewStatusCounts +
      countUnder HumanReviewStatus.rejected.value response.reviewStatusCounts +
      countUnder HumanReviewStatus.revisionRequested.value response.reviewStatusCounts
  /-- What is approved, or passed by the gate, is completed. -/
  completed : countUnder HumanReviewStatus.approved.value response.reviewStatusCounts +
      countUnder RuntimeRiskDecision.autoComplete.value response.runtimeDecisionCounts +
      countUnder RuntimeRiskDecision.completeWithWarning.value response.runtimeDecisionCounts ≤
    countUnder AssessmentStatus.completed.value response.statusCounts
  /-- What is rejected, or blocked by the gate, has failed. -/
  failed : countUnder HumanReviewStatus.rejected.value response.reviewStatusCounts +
      countUnder RuntimeRiskDecision.blockAndEscalate.value response.runtimeDecisionCounts ≤
    countUnder AssessmentStatus.failed.value response.statusCounts

section Facets

variable {s : Store}

/-- The values of the assessment statuses are distinct. -/
theorem AssessmentStatus.value_injective {a b : AssessmentStatus} (h : a.value = b.value) :
    a = b := by
  revert h
  cases a <;> cases b <;> decide +kernel

/-- The values of the review statuses are distinct. -/
theorem HumanReviewStatus.value_injective {a b : HumanReviewStatus} (h : a.value = b.value) :
    a = b := by
  revert h
  cases a <;> cases b <;> decide +kernel

/-- The values of the decisions are distinct. -/
theorem RuntimeRiskDecision.value_injective {a b : RuntimeRiskDecision} (h : a.value = b.value) :
    a = b := by
  revert h
  cases a <;> cases b <;> decide +kernel

/-- The entries whose row has the status. -/
def Store.rowIs (status : AssessmentStatus) (entry : UUID × Tables) : Bool :=
  entry.2.assessment.any fun row => decide (row.status = status)

/-- The entries whose checkpoint has the review status. -/
def Store.reviewIs (status : HumanReviewStatus) (entry : UUID × Tables) : Bool :=
  entry.2.checkpoint.any fun state => decide (state.reviewStatus = status)

/-- The entries on which the gate has decided so. -/
def Store.decisionIs (decision : RuntimeRiskDecision) (entry : UUID × Tables) : Bool :=
  entry.2.checkpoint.any fun state => decide (state.gateResult.decision = decision)

/-- The count under a value is that of the entries with a selected item whose field has it, if the
values are injective. -/
theorem countUnder_filterMap {ι β γ : Type} [DecidableEq γ] {value : γ → Str}
    (hvalue : Function.Injective value) (select : ι → Option β) (field : β → γ)
    (entries : List ι) (wanted : γ) :
    countUnder (value wanted) (tally ((entries.filterMap select).map fun b => value (field b))) =
      entries.countP fun entry => (select entry).any fun b => decide (field b = wanted) := by
  rw [countUnder_tally, List.countP_map, List.countP_filterMap]
  refine congrArg (List.countP · entries) (funext fun entry => ?_)
  cases select entry with
  | none => rfl
  | some b => exact decide_eq_decide.mpr hvalue.eq_iff

/-- The rows under a status. -/
theorem Store.countUnder_status (s : Store) (status : AssessmentStatus) :
    countUnder status.value (tally (s.readTables.rows.map fun row => row.status.value)) =
      s.entries.countP (Store.rowIs status) :=
  countUnder_filterMap (fun _ _ => AssessmentStatus.value_injective)
    (fun entry : UUID × Tables => entry.2.assessment) AssessmentRow.status s.entries status

/-- The checkpoints under a review status. -/
theorem Store.countUnder_review (s : Store) (status : HumanReviewStatus) :
    countUnder status.value
        (tally (s.readTables.states.map fun state => state.reviewStatus.value)) =
      s.entries.countP (Store.reviewIs status) :=
  countUnder_filterMap (fun _ _ => HumanReviewStatus.value_injective)
    (fun entry : UUID × Tables => entry.2.checkpoint) RuntimeAssessmentState.reviewStatus
    s.entries status

/-- The checkpoints under a decision of the gate. -/
theorem Store.countUnder_decision (s : Store) (decision : RuntimeRiskDecision) :
    countUnder decision.value
        (tally (s.readTables.states.map fun state => state.gateResult.decision.value)) =
      s.entries.countP (Store.decisionIs decision) :=
  countUnder_filterMap (fun _ _ => RuntimeRiskDecision.value_injective)
    (fun entry : UUID × Tables => entry.2.checkpoint) (fun state => state.gateResult.decision)
    s.entries decision

section Entry

variable {entry : UUID × Tables} {row : AssessmentRow} {state : RuntimeAssessmentState}

/-- An entry with a row counts under the status of that row. -/
theorem Store.rowIs_of_row (h : entry.2.assessment = some row) (status : AssessmentStatus) :
    Store.rowIs status entry = decide (row.status = status) := by
  simp [Store.rowIs, h]

/-- An entry with a checkpoint counts under its review status. -/
theorem Store.reviewIs_of_state (h : entry.2.checkpoint = some state)
    (status : HumanReviewStatus) :
    Store.reviewIs status entry = decide (state.reviewStatus = status) := by
  simp [Store.reviewIs, h]

/-- An entry with a checkpoint counts under the decision of its gate. -/
theorem Store.decisionIs_of_state (h : entry.2.checkpoint = some state)
    (decision : RuntimeRiskDecision) :
    Store.decisionIs decision entry = decide (state.gateResult.decision = decision) := by
  simp [Store.decisionIs, h]

/-- An entry without a checkpoint counts under no review status. -/
theorem Store.reviewIs_of_none (h : entry.2.checkpoint = none) (status : HumanReviewStatus) :
    Store.reviewIs status entry = false := by
  simp [Store.reviewIs, h]

/-- An entry without a checkpoint counts under no decision. -/
theorem Store.decisionIs_of_none (h : entry.2.checkpoint = none)
    (decision : RuntimeRiskDecision) : Store.decisionIs decision entry = false := by
  simp [Store.decisionIs, h]

/-- A paused entry is one whose review is pending or whose revision is requested. -/
theorem Tables.Governed.paused_entry (h : entry.2.Governed) :
    (Store.rowIs .pendingReview entry).toNat =
      (Store.reviewIs .pending entry).toNat + (Store.reviewIs .revisionRequested entry).toNat := by
  cases hcheckpoint : entry.2.checkpoint with
  | none =>
    rw [Store.reviewIs_of_none hcheckpoint, Store.reviewIs_of_none hcheckpoint]
    have hnot : Store.rowIs .pendingReview entry = false := by
      unfold Store.rowIs
      cases hrow : entry.2.assessment with
      | none => rfl
      | some row => exact decide_eq_false (h.ungated hcheckpoint row hrow)
    rw [hnot]
    rfl
  | some state =>
    obtain ⟨row, hrow, hagree⟩ := h.gated state hcheckpoint
    have hpaused : decide (row.status = .pendingReview) =
        decide (state.reviewStatus = .pending ∨ state.reviewStatus = .revisionRequested) :=
      decide_eq_decide.mpr hagree.pendingReview_iff.symm
    rw [Store.rowIs_of_row hrow, Store.reviewIs_of_state hcheckpoint,
      Store.reviewIs_of_state hcheckpoint, hpaused]
    cases state.reviewStatus <;> rfl

/-- An entry with a referral to a reviewer has one of the four review statuses. -/
theorem Tables.Filed.reviewed_entry (h : entry.2.Filed entry.1) :
    (Store.decisionIs .requireHumanReview entry).toNat =
      (Store.reviewIs .pending entry).toNat + (Store.reviewIs .approved entry).toNat +
        (Store.reviewIs .rejected entry).toNat +
        (Store.reviewIs .revisionRequested entry).toNat := by
  cases hcheckpoint : entry.2.checkpoint with
  | none =>
    simp only [Store.reviewIs_of_none hcheckpoint, Store.decisionIs_of_none hcheckpoint]
    rfl
  | some state =>
    have hreviewed : decide (state.gateResult.decision = .requireHumanReview) =
        decide (state.reviewStatus ≠ .notRequired) :=
      decide_eq_decide.mpr (h.decision state hcheckpoint)
    simp only [Store.reviewIs_of_state hcheckpoint, Store.decisionIs_of_state hcheckpoint]
    rw [hreviewed]
    cases state.reviewStatus <;> rfl

/-- An entry that was approved, or completed by the gate, is completed. -/
theorem Tables.Governed.completed_entry (h : entry.2.Governed) (hfiled : entry.2.Filed entry.1) :
    (Store.reviewIs .approved entry).toNat + (Store.decisionIs .autoComplete entry).toNat +
        (Store.decisionIs .completeWithWarning entry).toNat ≤
      (Store.rowIs .completed entry).toNat := by
  cases hcheckpoint : entry.2.checkpoint with
  | none =>
    simp only [Store.reviewIs_of_none hcheckpoint, Store.decisionIs_of_none hcheckpoint]
    exact Nat.zero_le _
  | some state =>
    obtain ⟨row, hrow, hagree⟩ := h.gated state hcheckpoint
    have hdecision := hfiled.decision state hcheckpoint
    simp only [Store.reviewIs_of_state hcheckpoint, Store.decisionIs_of_state hcheckpoint,
      Store.rowIs_of_row hrow]
    cases hstatus : state.reviewStatus with
    | approved =>
      have hreview := hdecision.mpr (by rw [hstatus]; decide)
      rw [hreview, (hagree.approved hstatus).1]
      decide
    | notRequired =>
      cases hgate : state.gateResult.decision with
      | autoComplete =>
        rw [(hagree.completed hstatus (.inl hgate)).1]
        decide
      | completeWithWarning =>
        rw [(hagree.completed hstatus (.inr hgate)).1]
        decide
      | requireHumanReview => exact absurd hstatus (hdecision.mp hgate)
      | blockAndEscalate => exact Nat.zero_le _
    | pending | rejected | revisionRequested =>
      have hreview := hdecision.mpr (by rw [hstatus]; decide)
      rw [hreview]
      exact Nat.zero_le _

/-- An entry that was rejected, or blocked by the gate, has failed. -/
theorem Tables.Governed.failed_entry (h : entry.2.Governed) (hfiled : entry.2.Filed entry.1) :
    (Store.reviewIs .rejected entry).toNat + (Store.decisionIs .blockAndEscalate entry).toNat ≤
      (Store.rowIs .failed entry).toNat := by
  cases hcheckpoint : entry.2.checkpoint with
  | none =>
    simp only [Store.reviewIs_of_none hcheckpoint, Store.decisionIs_of_none hcheckpoint]
    exact Nat.zero_le _
  | some state =>
    obtain ⟨row, hrow, hagree⟩ := h.gated state hcheckpoint
    have hdecision := hfiled.decision state hcheckpoint
    simp only [Store.reviewIs_of_state hcheckpoint, Store.decisionIs_of_state hcheckpoint,
      Store.rowIs_of_row hrow]
    cases hstatus : state.reviewStatus with
    | rejected =>
      have hreview := hdecision.mpr (by rw [hstatus]; decide)
      rw [hreview, (hagree.rejected hstatus).1]
      decide
    | notRequired =>
      cases hgate : state.gateResult.decision with
      | blockAndEscalate =>
        rw [(hagree.blocked hstatus hgate).1]
        decide
      | requireHumanReview => exact absurd hstatus (hdecision.mp hgate)
      | autoComplete | completeWithWarning => exact Nat.zero_le _
    | pending | approved | revisionRequested =>
      have hreview := hdecision.mpr (by rw [hstatus]; decide)
      rw [hreview]
      exact Nat.zero_le _

end Entry

/-- The number of rows that a condition on the status selects. -/
theorem countP_matchesStatus (t : ReadTables) (status : Option AssessmentStatus) :
    t.rows.countP (AssessmentRow.matchesStatus status) = match status with
      | none => ((tally (t.rows.map fun row => row.status.value)).map Prod.snd).sum
      | some status =>
        countUnder status.value (tally (t.rows.map fun row => row.status.value)) := by
  cases status with
  | none =>
    rw [sum_tally, List.length_map]
    exact List.countP_eq_length.mpr fun _ _ => rfl
  | some status =>
    dsimp only
    rw [countUnder_tally, List.countP_map]
    refine congrArg (List.countP · t.rows) (funext fun row => ?_)
    refine decide_eq_decide.mpr ⟨fun h => congrArg AssessmentStatus.value h, ?_⟩
    exact AssessmentStatus.value_injective

/-- The facets of a filed store agree. -/
theorem Store.Filed.agrees (h : s.Filed) (status : Option AssessmentStatus) (offset limit : ℕ) :
    (s.readTables.response status offset limit).Agrees status where
  total := countP_matchesStatus s.readTables status
  paused := by
    have hsum := countP_eq_sum (Store.rowIs .pendingReview)
      [Store.reviewIs .pending, Store.reviewIs .revisionRequested]
      fun entry hentry => by simpa using (s.governed entry hentry).paused_entry
    simp only [ReadTables.response, s.countUnder_status, s.countUnder_review]
    simpa using hsum
  reviewed := by
    have hsum := countP_eq_sum (Store.decisionIs .requireHumanReview)
      [Store.reviewIs .pending, Store.reviewIs .approved, Store.reviewIs .rejected,
        Store.reviewIs .revisionRequested]
      fun entry hentry => by simpa [Nat.add_assoc] using (h.entry hentry).reviewed_entry
    simp only [ReadTables.response, s.countUnder_decision, s.countUnder_review]
    simpa [Nat.add_assoc] using hsum
  completed := by
    have hsum := sum_countP_le (Store.rowIs .completed)
      [Store.reviewIs .approved, Store.decisionIs .autoComplete,
        Store.decisionIs .completeWithWarning]
      fun entry hentry => by
        simpa [Nat.add_assoc] using (s.governed entry hentry).completed_entry (h.entry hentry)
    simp only [ReadTables.response, s.countUnder_status, s.countUnder_decision,
      s.countUnder_review]
    simpa [Nat.add_assoc] using hsum
  failed := by
    have hsum := sum_countP_le (Store.rowIs .failed)
      [Store.reviewIs .rejected, Store.decisionIs .blockAndEscalate]
      fun entry hentry => by
        simpa using (s.governed entry hentry).failed_entry (h.entry hentry)
    simp only [ReadTables.response, s.countUnder_status, s.countUnder_decision,
      s.countUnder_review]
    simpa using hsum

end Facets

/-- In every store that the platform has reached, a listing under any faults of the database ends
with one of its two errors, or its facets agree and every item shows a stored assessment; without
faults it does not end with an error. -/
theorem listing_agrees {κ : Type} (prior : PriorAssessments) (steps : List (PlatformStep κ))
    (fault : ReadStep → Option SQLAlchemyError) (status : Option AssessmentStatus)
    (offset limit : ℕ) (hlimit : 0 < limit) :
    (∃ response, (prior.store.platform steps).readTables.listAssessments fault status offset limit =
        .ok response ∧ response.Agrees status ∧ response.items.length ≤ limit ∧
        ∀ item ∈ response.items, (prior.store.platform steps).Shows status item) ∨
      (∃ step, fault step ≠ none) ∧
        ((prior.store.platform steps).readTables.listAssessments fault status offset limit =
            .error (.application .databaseUnavailable) ∨
          (prior.store.platform steps).readTables.listAssessments fault status offset limit =
            .error (.application .persistence)) := by
  have hfiled := Store.platform_filed prior.store_filed steps
  generalize prior.store.platform steps = s at hfiled ⊢
  rcases ReadTables.listAssessments_cases fault status offset hfiled.telemetry_valid hlimit
    with h | h
  · left
    refine ⟨_, h, hfiled.agrees status offset limit, ?_, ?_⟩
    · simp [ReadTables.response, page]
    · intro item hitem
      obtain ⟨row, hrow, rfl⟩ := List.mem_map.mp hitem
      obtain ⟨hstored, hstatus⟩ := hfiled.mem_listed.mp ((page_sublist _ _ _).subset hrow)
      refine ⟨row, hstored, hstatus, ?_⟩
      rw [hfiled.getBy_states]
      rfl
  · exact .inr h

/-- The facets after an approval agree. -/
theorem listing_agrees_approved :
    ∃ response, (PriorAssessments.empty.store.platform
        PlatformStep.approved).readTables.listAssessments (fun _ => none) (some .pendingReview) 0
          25 = .ok response ∧ response.Agrees (some .pendingReview) := by
  rcases listing_agrees .empty PlatformStep.approved (fun _ => none) (some .pendingReview) 0 25
    (by decide) with ⟨response, hresponse, hagrees, -⟩ | ⟨⟨step, hfault⟩, -⟩
  · exact ⟨response, hresponse, hagrees⟩
  · exact absurd rfl hfault

end AssessmentPlatform
