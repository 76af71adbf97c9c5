import AssessmentPlatform.Governance.ServedRuns
import Mathlib.Algebra.BigOperators.Group.Finset.Basic
import Mathlib.Algebra.Order.BigOperators.Group.Finset

/-!
# Durations and events over a run

In every checkpoint the total is the execution time and the waiting time that are recorded with
it, and the events only grow. But a reviewer action replaces the waiting time that is recorded,
and a submitted revision replaces the execution time as well, so the total accounts for the
whole run only as long as nothing is replaced.
-/

namespace AssessmentPlatform

open Library

/-! ## Consistent telemetry -/

/-- The durations of a checkpoint add up, and its telemetry has its review status. -/
structure RuntimeAssessmentState.Consistent (state : RuntimeAssessmentState) : Prop where
  total_eq : state.telemetry.totalDurationMs =
    state.telemetry.executionDurationMs + state.telemetry.humanWaitDurationMs.getD 0
  total_nonneg : 0 ≤ state.telemetry.totalDurationMs
  execution_nonneg : 0 ≤ state.telemetry.executionDurationMs
  wait_nonneg : 0 ≤ state.telemetry.humanWaitDurationMs.getD 0
  status_eq : state.telemetry.humanReviewStatus = state.reviewStatus

/-- The telemetry of the gate is consistent. -/
theorem RuntimeAssessmentState.Gated.consistent {service : RuntimeGovernanceService}
    {c : Candidate} {state : RuntimeAssessmentState} (h : state.Gated service c) :
    state.Consistent where
  total_eq := by
    rw [h.total_eq, h.execution_eq, h.wait_eq]
    exact (add_zero _).symm
  total_nonneg := h.valid.1
  execution_nonneg := h.valid.2.1
  wait_nonneg := by
    rw [h.wait_eq]
    exact le_rfl
  status_eq := h.status_eq

/-- The telemetry that a request records is consistent. -/
theorem ServedRequest.Records.consistent {request : ServedRequest}
    {state new : RuntimeAssessmentState} (h : request.Records state new) : new.Consistent where
  total_eq := by
    rw [h.wait_eq]
    exact h.total_eq
  total_nonneg := h.valid.1
  execution_nonneg := h.valid.2.1
  wait_nonneg := by
    rw [h.wait_eq]
    exact waitMs_nonneg _ _
  status_eq := h.status_eq

/-- The events of one checkpoint are the first events of another one. -/
def Tables.EventsExtend (t t' : Tables) : Prop :=
  ∀ earlier, t.checkpoint = some earlier →
    ∃ later, t'.checkpoint = some later ∧ earlier.telemetry.events <+: later.telemetry.events

section Runs

variable {assessmentId : UUID} {gating : Gating} {row : AssessmentRow}
  {requests : ℕ → ServedRequest}

/-- In every state of a run the telemetry is consistent. -/
theorem tablesAfter_consistent (n : ℕ) :
    ∀ state, (tablesAfter assessmentId gating row requests n).checkpoint = some state →
      state.Consistent :=
  tablesAfter_invariant (fun _ h => h.consistent) (fun _ _ _ h _ => h.consistent) n

/-- A request extends the events, or leaves them. -/
theorem ServedRequest.perform_eventsExtend (request : ServedRequest) (t : Tables) :
    t.EventsExtend (request.perform assessmentId t) := by
  intro earlier hearlier
  rcases request.perform_cases t with ⟨-, heq⟩ | ⟨-, state, new, -, hstate, hnew, hrecords⟩
  · exact ⟨earlier, by rw [heq, hearlier], List.prefix_refl _⟩
  · cases hstate.symm.trans hearlier
    exact ⟨new, hnew, hrecords.events_extend⟩

/-- Later states of a run extend the events of earlier ones. -/
theorem tablesAfter_eventsExtend {m n : ℕ} (h : m ≤ n) :
    (tablesAfter assessmentId gating row requests m).EventsExtend
      (tablesAfter assessmentId gating row requests n) := by
  induction n, h using Nat.le_induction with
  | base => exact fun earlier hearlier => ⟨earlier, hearlier, List.prefix_refl _⟩
  | succ n _ ih =>
    intro earlier hearlier
    obtain ⟨middle, hmiddle, hfirst⟩ := ih earlier hearlier
    obtain ⟨later, hlater, hsecond⟩ := (requests n).perform_eventsExtend _ middle hmiddle
    exact ⟨later, hlater, hfirst.trans hsecond⟩

end Runs

/-- In every checkpoint that a run reaches the durations add up, none is negative, and the
telemetry has the review status of the checkpoint; and the events of every checkpoint are the
first events of all later ones. -/
theorem telemetry_consistent (assessmentId : UUID) (gating : Gating) (row : AssessmentRow)
    (requests : ℕ → ServedRequest) :
    (∀ n state, (tablesAfter assessmentId gating row requests n).checkpoint = some state →
      state.Consistent) ∧
    ∀ m n earlier later, m ≤ n →
      (tablesAfter assessmentId gating row requests m).checkpoint = some earlier →
      (tablesAfter assessmentId gating row requests n).checkpoint = some later →
      earlier.telemetry.events <+: later.telemetry.events := by
  refine ⟨tablesAfter_consistent, fun m n earlier later hle hearlier hlater => ?_⟩
  obtain ⟨found, hfound, hevents⟩ := tablesAfter_eventsExtend hle earlier hearlier
  cases hfound.symm.trans hlater
  exact hevents

/-! ## The time of a whole run -/

/-- The recorded time that a request replaces: a reviewer action replaces the waiting time, and a
submitted candidate replaces everything. -/
def ReviewOp.replacedMs (op : ReviewOp) (state : RuntimeAssessmentState) : ℤ :=
  op.candidate.elim (state.telemetry.humanWaitDurationMs.getD 0) fun _ =>
    state.telemetry.totalDurationMs

/-- The time that a request adds: the execution of its candidate, and the wait that it ends. -/
def ServedRequest.addedMs (request : ServedRequest) (state : RuntimeAssessmentState) : ℤ :=
  request.op.candidate.elim 0 Candidate.durationMs +
    waitMs state (request.env.clock request.op.waitReading)

section Time

variable (assessmentId : UUID)

/-- The value for the checkpoint that a request finds, if it is carried out. -/
def ServedRequest.whenPerformed (request : ServedRequest) (t : Tables)
    (value : RuntimeAssessmentState → ℤ) : ℤ :=
  if request.CarriedOut assessmentId t then t.checkpoint.elim 0 value else 0

variable (gating : Gating) (row : AssessmentRow) (requests : ℕ → ServedRequest)

/-- All execution and waiting time of the first `n` requests and of the first candidate. -/
def runMs (n : ℕ) : ℤ :=
  gating.candidate.durationMs + ∑ i ∈ Finset.range n,
    (requests i).whenPerformed assessmentId (tablesAfter assessmentId gating row requests i)
      (requests i).addedMs

/-- The time that the first `n` requests replace. -/
def lostMs (n : ℕ) : ℤ :=
  ∑ i ∈ Finset.range n,
    (requests i).whenPerformed assessmentId (tablesAfter assessmentId gating row requests i)
      (requests i).op.replacedMs

end Time

section Accounts

variable {request : ServedRequest} {state new : RuntimeAssessmentState}

/-- The time that an operation replaces is not negative. -/
theorem ReviewOp.replacedMs_nonneg (op : ReviewOp) (h : state.Consistent) :
    0 ≤ op.replacedMs state := by
  unfold ReviewOp.replacedMs
  cases op.candidate with
  | none => exact h.wait_nonneg
  | some c => exact h.total_nonneg

/-- The time that a request adds is not negative. -/
theorem ServedRequest.Records.addedMs_nonneg (h : request.Records state new) :
    0 ≤ request.addedMs state := by
  have hexecution := h.execution_eq
  have hnonneg := h.consistent.execution_nonneg
  have hwait := waitMs_nonneg state (request.env.clock request.op.waitReading)
  unfold ServedRequest.addedMs
  cases hcandidate : request.op.candidate with
  | none => exact add_nonneg le_rfl hwait
  | some c =>
    rw [hcandidate] at hexecution
    rw [hexecution] at hnonneg
    exact add_nonneg hnonneg hwait

/-- The total grows by the added time, less the time that is replaced. -/
theorem ServedRequest.Records.total_add_replacedMs (h : request.Records state new)
    (hstate : state.Consistent) :
    new.telemetry.totalDurationMs + request.op.replacedMs state =
      state.telemetry.totalDurationMs + request.addedMs state := by
  have htotal := h.total_eq
  have hexecution := h.execution_eq
  have hbefore := hstate.total_eq
  unfold ReviewOp.replacedMs ServedRequest.addedMs
  cases hcandidate : request.op.candidate with
  | none =>
    rw [hcandidate] at hexecution
    simp only [Option.elim_none] at hexecution ⊢
    omega
  | some c =>
    rw [hcandidate] at hexecution
    simp only [Option.elim_some] at hexecution ⊢
    omega

variable {assessmentId : UUID} {t : Tables}

/-- A request that is not carried out counts nothing. -/
theorem ServedRequest.whenPerformed_of_not {value : RuntimeAssessmentState → ℤ}
    (h : ¬ request.CarriedOut assessmentId t) :
    request.whenPerformed assessmentId t value = 0 :=
  if_neg h

/-- A request that is carried out counts for the checkpoint that it finds. -/
theorem ServedRequest.CarriedOut.whenPerformed_eq {value : RuntimeAssessmentState → ℤ}
    (h : request.CarriedOut assessmentId t) (hstate : t.checkpoint = some state) :
    request.whenPerformed assessmentId t value = value state := by
  rw [whenPerformed, if_pos h, hstate]
  rfl

variable {gating : Gating} {row : AssessmentRow} {requests : ℕ → ServedRequest}

/-- In every run the recorded total and the time that was replaced are all the time of the run. -/
theorem total_add_lostMs (n : ℕ) : ∀ state,
    (tablesAfter assessmentId gating row requests n).checkpoint = some state →
    state.telemetry.totalDurationMs + lostMs assessmentId gating row requests n =
      runMs assessmentId gating row requests n := by
  induction n with
  | zero =>
    intro state hstate
    rcases gating.perform_cases row with hnone | ⟨s, hs, hgated⟩
    · cases hnone.symm.trans hstate
    · cases hs.symm.trans hstate
      exact congrArg (· + 0) hgated.total_eq
  | succ n ih =>
    intro state hstate
    unfold lostMs runMs at ih ⊢
    rw [Finset.sum_range_succ, Finset.sum_range_succ]
    rcases (requests n).perform_cases (tablesAfter assessmentId gating row requests n) with
      ⟨hnot, heq⟩ | ⟨hcarried, before, new, -, hbefore, hnew, hrecords⟩
    · rw [tablesAfter, heq] at hstate
      have hsum := ih state hstate
      rw [ServedRequest.whenPerformed_of_not hnot, ServedRequest.whenPerformed_of_not hnot]
      omega
    · cases hnew.symm.trans hstate
      have hsum := ih before hbefore
      have hstep := hrecords.total_add_replacedMs (tablesAfter_consistent n before hbefore)
      rw [hcarried.whenPerformed_eq hbefore, hcarried.whenPerformed_eq hbefore]
      omega

/-- In a run no request replaces a negative time. -/
theorem whenPerformed_replacedMs_nonneg (n : ℕ) :
    0 ≤ (requests n).whenPerformed assessmentId (tablesAfter assessmentId gating row requests n)
      (requests n).op.replacedMs := by
  rcases (requests n).perform_cases (tablesAfter assessmentId gating row requests n) with
    ⟨hnot, -⟩ | ⟨hcarried, before, new, -, hbefore, -, -⟩
  · exact (ServedRequest.whenPerformed_of_not hnot).ge
  · rw [hcarried.whenPerformed_eq hbefore]
    exact (requests n).op.replacedMs_nonneg (tablesAfter_consistent n before hbefore)

end Accounts

/-- The total never decreases and accounts in the end for all execution and waiting time, exactly
if no request that is carried out replaces a time: a reviewer action finds no waiting time recorded,
and a submitted revision finds no time at all. -/
theorem total_duration_accounts_iff (assessmentId : UUID) (gating : Gating) (row : AssessmentRow)
    (requests : ℕ → ServedRequest) (n : ℕ) :
    ((∀ k < n, ∀ state new,
        (tablesAfter assessmentId gating row requests k).checkpoint = some state →
        (tablesAfter assessmentId gating row requests (k + 1)).checkpoint = some new →
        state.telemetry.totalDurationMs ≤ new.telemetry.totalDurationMs) ∧
      ∀ state, (tablesAfter assessmentId gating row requests n).checkpoint = some state →
        state.telemetry.totalDurationMs = runMs assessmentId gating row requests n) ↔
    ∀ k < n,
      (requests k).CarriedOut assessmentId (tablesAfter assessmentId gating row requests k) →
      ∀ state, (tablesAfter assessmentId gating row requests k).checkpoint = some state →
        (requests k).op.replacedMs state = 0 := by
  constructor
  · rintro ⟨-, haccounts⟩ k hk hcarried state hstate
    obtain ⟨final, hfinal, -⟩ := tablesAfter_eventsExtend hk.le state hstate
    have hlost : lostMs assessmentId gating row requests n = 0 := by
      have hsum := total_add_lostMs n final hfinal
      have htotal := haccounts final hfinal
      omega
    rw [lostMs, Finset.sum_eq_zero_iff_of_nonneg fun i _ => whenPerformed_replacedMs_nonneg i]
      at hlost
    have hzero := hlost k (Finset.mem_range.mpr hk)
    rwa [hcarried.whenPerformed_eq hstate] at hzero
  · intro hkeeps
    refine ⟨fun k hk state new hstate hnew => ?_, fun state hstate => ?_⟩
    · rcases (requests k).perform_cases (tablesAfter assessmentId gating row requests k) with
        ⟨-, heq⟩ | ⟨hcarried, before, after, -, hbefore, hafter, hrecords⟩
      · rw [tablesAfter, heq] at hnew
        cases hstate.symm.trans hnew
        exact le_rfl
      · cases hbefore.symm.trans hstate
        cases hafter.symm.trans hnew
        have hstep := hrecords.total_add_replacedMs (tablesAfter_consistent k state hstate)
        have hreplaced := hkeeps k hk hcarried state hstate
        have hadded := hrecords.addedMs_nonneg
        omega
    · have hlost : lostMs assessmentId gating row requests n = 0 := by
        refine Finset.sum_eq_zero fun k hk => ?_
        rcases (requests k).perform_cases (tablesAfter assessmentId gating row requests k) with
          ⟨hnot, -⟩ | ⟨hcarried, before, -, -, hbefore, -, -⟩
        · exact ServedRequest.whenPerformed_of_not hnot
        · rw [hcarried.whenPerformed_eq hbefore]
          exact hkeeps k (Finset.mem_range.mp hk) hcarried before hbefore
      have hsum := total_add_lostMs n state hstate
      omega

/-! ## A run that loses time -/

/-- An environment in which all clock readings are the same. -/
def Env.at (time : Time) : Env where
  clock _ := time
  newId n := time.toNat + n

/-- A held candidate, gated at the time zero after five seconds of execution. -/
def Gating.held : Gating where
  service := .standard .default
  env := .at 0
  candidate := { Candidate.highRisk with durationMs := 5000 }

/-- A revision is requested after ten seconds and submitted one second later. -/
def revisionRound : ℕ → ServedRequest
  | 0 => ⟨.standard .default, .at 10000000, .requestRevision .blank none⟩
  | n + 1 => ⟨.standard .default, .at (11000000 + n), .resumeRevision Candidate.highRisk⟩

/-- The clock readings of a run do not decrease. -/
def ClockOrdered (gating : Gating) (requests : ℕ → ServedRequest) : Prop :=
  (∀ i j, i ≤ j → gating.env.clock i ≤ gating.env.clock j) ∧
    (∀ i j, gating.env.clock i ≤ (requests 0).env.clock j) ∧
    (∀ k i j, i ≤ j → (requests k).env.clock i ≤ (requests k).env.clock j) ∧
    ∀ k i j, (requests k).env.clock i ≤ (requests (k + 1)).env.clock j

/-- When the revision is submitted, the total of fifteen seconds falls to about one second. -/
theorem submitted_revision_loses_time :
    ¬ ∀ (assessmentId : UUID) (gating : Gating) (row : AssessmentRow)
      (requests : ℕ → ServedRequest) (n : ℕ), ClockOrdered gating requests →
      (∀ k < n, ∀ state new,
        (tablesAfter assessmentId gating row requests k).checkpoint = some state →
        (tablesAfter assessmentId gating row requests (k + 1)).checkpoint = some new →
        state.telemetry.totalDurationMs ≤ new.telemetry.totalDurationMs) ∧
      ∀ state, (tablesAfter assessmentId gating row requests n).checkpoint = some state →
        state.telemetry.totalDurationMs = runMs assessmentId gating row requests n := by
  intro hclaim
  have hordered : ClockOrdered .held revisionRound := by
    refine ⟨fun _ _ _ => le_rfl, fun _ _ => ?_, fun k _ _ _ => ?_, fun k _ _ => ?_⟩
    · change (0 : ℤ) ≤ 10000000
      decide
    · cases k <;> exact le_rfl
    · cases k with
      | zero =>
        change (10000000 : ℤ) ≤ 11000000
        decide
      | succ k =>
        change (11000000 + (k : ℕ) : ℤ) ≤ 11000000 + ((k + 1 : ℕ) : ℤ)
        omega
  have htotals : ((tablesAfter 7 .held .inProcessing revisionRound 1).checkpoint.map
        (·.telemetry.totalDurationMs),
      (tablesAfter 7 .held .inProcessing revisionRound 2).checkpoint.map
        (·.telemetry.totalDurationMs)) = (some 15000, some 1001) := by
    decide +kernel
  obtain ⟨hfirst, hsecond⟩ := Prod.mk.inj htotals
  obtain ⟨before, hbefore, htotal⟩ := Option.map_eq_some_iff.mp hfirst
  obtain ⟨after, hafter, htotal'⟩ := Option.map_eq_some_iff.mp hsecond
  have hle := (hclaim 7 .held .inProcessing revisionRound 2 hordered).1 1 (by decide) before after
    hbefore hafter
  omega

end AssessmentPlatform
