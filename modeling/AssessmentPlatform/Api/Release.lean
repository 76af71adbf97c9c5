import AssessmentPlatform.Api.Authorization

/-!
# Release of results

While the gate is enabled and the policy sends high and critical risks at least to a reviewer, a
result with such a risk is released only by an approval. The invariant is stated for everything
that is stored about one assessment; the gate establishes it, and no review request breaks it.
-/

namespace AssessmentPlatform

open Library

/-- A result names a high or a critical risk. -/
def AssessmentResult.HighRisk (result : AssessmentResult) : Prop :=
  ∃ risk ∈ result.risks, risk.severity = .high ∨ risk.severity = .critical

instance (result : AssessmentResult) : Decidable result.HighRisk :=
  inferInstanceAs (Decidable (∃ _ ∈ _, _))

/-- The gate is enabled, and it sends high and critical risks at least to a reviewer. -/
def ApplicationSettings.HoldsHighRisk (settings : ApplicationSettings) : Prop :=
  settings.runtimeRiskGateEnabled = true ∧
    RuntimeRiskDecision.requireHumanReview.priority ≤ settings.runtimeHighRiskDecision.priority ∧
    RuntimeRiskDecision.requireHumanReview.priority ≤
      settings.runtimeCriticalRiskDecision.priority

instance (settings : ApplicationSettings) : Decidable settings.HoldsHighRisk :=
  inferInstanceAs (Decidable (_ ∧ _))

/-- What holds of everything that is stored about one assessment, the rows from before the
migration excepted. -/
structure Tables.Held (prior : List AssessmentRow) (t : Tables) : Prop where
  /-- A row without a checkpoint is completed only from before. -/
  ungated : t.checkpoint = none → ∀ row ∈ t.assessment, row.status = .completed → row ∈ prior
  /-- The gate has held a candidate with a high risk. -/
  candidate : ∀ state ∈ t.checkpoint, ∀ result ∈ state.candidateResult, result.HighRisk →
    RuntimeRiskDecision.requireHumanReview.priority ≤ state.gateResult.decision.priority
  /-- A candidate for which the gate asks for a review needs one. -/
  open_review : ∀ state ∈ t.checkpoint, state.gateResult.decision = .requireHumanReview →
    state.reviewStatus ≠ .notRequired
  /-- An approved checkpoint has been approved by the last decision. -/
  approved : ∀ state ∈ t.checkpoint, state.reviewStatus = .approved →
    ∃ e, t.decisions.getLast? = some e ∧ e.action = .approved

section Gate

variable {settings : ApplicationSettings} {c : Candidate} {overrides : SignalOverrides}
  {gateResult : QualityGateResult}

/-- The level of a result with a high risk. -/
theorem AssessmentResult.HighRisk.maxRiskLevel {result : AssessmentResult} (h : result.HighRisk) :
    maxRiskLevel (result.risks.map fun risk => severityOrder risk.severity) = .high ∨
      maxRiskLevel (result.risks.map fun risk => severityOrder risk.severity) = .critical := by
  obtain ⟨risk, hrisk, hseverity⟩ := h
  have hsublist : [severityOrder risk.severity].Sublist
      (result.risks.map fun risk => severityOrder risk.severity) :=
    List.singleton_sublist.mpr (List.mem_map_of_mem hrisk)
  have hlevel := maxRiskLevel_mono hsublist
  have hone : (AssessmentPlatform.maxRiskLevel [severityOrder risk.severity]).index ≥ 2 := by
    rcases hseverity with h | h <;> rw [h] <;> decide
  generalize AssessmentPlatform.maxRiskLevel
    (result.risks.map fun risk => severityOrder risk.severity) = level at hlevel ⊢
  cases level with
  | low => exact absurd (hone.trans hlevel) (by decide)
  | medium => exact absurd (hone.trans hlevel) (by decide)
  | high => exact .inl rfl
  | critical => exact .inr rfl

/-- The gate holds a candidate with a high risk. -/
theorem ApplicationSettings.HoldsHighRisk.priority_le (h : settings.HoldsHighRisk)
    (hrisk : c.result.HighRisk)
    (hgate : (getRuntimeGovernanceService settings).evaluate (c.signals.override {}) =
      .ok gateResult) :
    RuntimeRiskDecision.requireHumanReview.priority ≤ gateResult.decision.priority := by
  obtain ⟨-, hhigh, hcritical⟩ := h
  have hresult : evaluate (runtimeRiskPolicy settings) (c.signals.override {}) = gateResult :=
    Except.ok.inj hgate
  rw [← hresult, evaluate_priority]
  refine le_max_of_le_left ?_
  split
  · decide
  · change _ ≤ (riskDecision (AssessmentPlatform.maxRiskLevel (c.result.risks.map
      fun risk => severityOrder risk.severity)) (runtimeRiskPolicy settings)).priority
    rcases hrisk.maxRiskLevel with hlevel | hlevel
    · rw [hlevel]
      exact hhigh
    · rw [hlevel]
      exact hcritical

end Gate

section Held

variable {settings : ApplicationSettings} {prior : List AssessmentRow} {t : Tables}
  {assessmentId : UUID} {env : Env}

/-- A row without a checkpoint that is not completed is held. -/
theorem Tables.held_of_row {row : AssessmentRow} (h : row.status ≠ .completed) :
    Tables.Held prior { assessment := some row } where
  ungated := by
    rintro - _ ⟨⟩ hcompleted
    exact absurd hcompleted h
  candidate := by simp
  open_review := by simp
  approved := by simp

/-- What the gate leaves is held. -/
theorem Tables.held_of_gate (h : settings.HoldsHighRisk) {c : Candidate}
    {gateResult : QualityGateResult} {state : RuntimeAssessmentState}
    (hgate : (getRuntimeGovernanceService settings).evaluate (c.signals.override {}) =
      .ok gateResult) (hcheckpoint : t.checkpoint = some state)
    (hcandidate : state.candidateResult = some c.result) (hresult : state.gateResult = gateResult)
    (hstatus : state.reviewStatus = gateStatus gateResult.decision) : t.Held prior where
  ungated := by simp [hcheckpoint]
  candidate := by
    rw [hcheckpoint]
    rintro _ ⟨⟩ result hmem hrisk
    rw [hcandidate] at hmem
    cases hmem
    rw [hresult]
    exact h.priority_le hrisk hgate
  open_review := by
    rw [hcheckpoint]
    rintro _ ⟨⟩ hreview
    rw [hresult] at hreview
    rw [hstatus, hreview]
    exact nofun
  approved := by
    rw [hcheckpoint]
    rintro _ ⟨⟩ happroved
    rw [hstatus] at happroved
    cases hdecision : gateResult.decision <;> rw [hdecision] at happroved <;> cases happroved

/-- A transition that records a decision makes it the last one. -/
theorem Transition.decisions_getLast {tr : Transition} {e : HumanReviewRecord}
    (hevent : tr.event = some e) (h : e.isDecision = true) :
    (tr.apply t).decisions.getLast? = some e := by
  simp [Tables.decisions, Transition.apply, hevent, h]

/-- However a generation with an enabled gate ends, it leaves held tables. -/
theorem GenerationEnd.held (h : settings.HoldsHighRisk) {parts : ServiceParts} {timers : Timers}
    {request : AssessmentRequest} {principal : Option AuthenticatedPrincipal}
    (hend : GenerationEnd (getAssessmentService settings parts) env timers assessmentId request
      principal t) : t.Held prior := by
  have hgoverned : (getAssessmentService settings parts).runtimeGovernance =
      some (getRuntimeGovernanceService settings) := if_pos h.1
  cases hend with
  | nothing => exact ⟨by simp, by simp, by simp, by simp⟩
  | created => exact Tables.held_of_row nofun
  | started => exact Tables.held_of_row nofun
  | failed errorCode errorMessage => exact Tables.held_of_row nofun
  | completed hungated => cases hungated.symm.trans hgoverned
  | gated hgated _ htr =>
    obtain rfl : getRuntimeGovernanceService settings = _ :=
      Option.some.inj (hgoverned.symm.trans hgated)
    obtain ⟨gateResult, telemetry, hgate, -, -, rfl⟩ := processTransition_eq_ok htr
    exact Tables.held_of_gate h hgate rfl rfl rfl rfl

/-- A review request keeps the tables held. -/
theorem Tables.Held.transition (hheld : t.Held prior) (h : settings.HoldsHighRisk) {op : ReviewOp}
    {tr : Transition} (htr : op.transition (getRuntimeGovernanceService settings) env assessmentId
      t = .ok tr) : (tr.apply t).Held prior := by
  obtain ⟨state, row, -, hcheckpoint, -, hstatus, haction | ⟨c, rfl, hresume⟩⟩ :=
    ReviewOp.transition_eq_ok htr
  · obtain ⟨action, newStatus, revision, write, request, principal, telemetry, n, haction, -, -,
      rfl⟩ := haction
    refine ⟨by simp [Transition.apply], ?_, ?_, ?_⟩
    · rintro _ ⟨⟩ result hresult hrisk
      exact hheld.candidate state hcheckpoint result hresult hrisk
    · rintro _ ⟨⟩ -
      change newStatus ≠ .notRequired
      cases haction <;> decide
    · rintro _ ⟨⟩ happroved
      change newStatus = .approved at happroved
      cases haction with
      | approve hcandidate => exact ⟨_, Transition.decisions_getLast rfl rfl, rfl⟩
      | reject => cases happroved
      | requestRevision _ => cases happroved
  · obtain ⟨gateResult, telemetry, hgate, -, -, rfl⟩ := resumeTransition_eq_ok hresume
    exact Tables.held_of_gate h hgate rfl rfl rfl rfl

end Held

/-! ## Runs -/

/-- The settings under which a step is carried out. -/
def PlatformStep.settings {κ : Type} : PlatformStep κ → ApplicationSettings
  | .request call => call.settings
  | .resume _ settings _ _ => settings

section Runs

variable {κ : Type} {prior : List AssessmentRow} {s : Store} {assessmentId : UUID}

/-- Every review request keeps what is stored about an assessment held. -/
theorem performRequest_held {settings : ApplicationSettings} (h : settings.HoldsHighRisk)
    {t : Tables} (hheld : t.Held prior) (env : Env) (op : ReviewOp) :
    (performRequest (getRuntimeGovernanceService settings) assessmentId env op t).Held prior := by
  rcases performRequest_cases env op t with heq | ⟨tr, htr, heq⟩
  · rw [heq]
    exact hheld
  · rw [heq]
    exact hheld.transition h htr

/-- So does every step. -/
theorem PlatformStep.perform_held (step : PlatformStep κ) (h : step.settings.HoldsHighRisk)
    (hheld : (s.lookup assessmentId).Held prior) :
    ((step.perform s).lookup assessmentId).Held prior := by
  have hacts := step.acts s assessmentId
  generalize (step.perform s).lookup assessmentId = after at hacts ⊢
  cases hacts with
  | unchanged => exact hheld
  | generated _ _ => exact GenerationEnd.held h (GenerationRequest.perform_end _ _ assessmentId)
  | decided _ _ => exact performRequest_held h hheld _ _
  | resumed => exact performRequest_held h hheld _ _

/-- A high-risk assessment stays held over steps of services that hold high risk. -/
theorem Store.platform_held {steps : List (PlatformStep κ)}
    (h : ∀ step ∈ steps, step.settings.HoldsHighRisk)
    (hheld : (s.lookup assessmentId).Held prior) :
    ((s.platform steps).lookup assessmentId).Held prior := by
  induction steps generalizing s with
  | nil => exact hheld
  | cons step steps ih =>
    refine ih (fun later hlater => h later (List.mem_cons_of_mem step hlater)) ?_
    exact step.perform_held (h step List.mem_cons_self) hheld

/-- The rows from before the migration are held. -/
theorem PriorAssessments.store_held (prior : PriorAssessments) (assessmentId : UUID) :
    (prior.store.lookup assessmentId).Held prior.rows := by
  unfold Store.lookup
  cases hentry : getBy Prod.fst assessmentId prior.store.entries with
  | none => exact ⟨by simp, by simp, by simp, by simp⟩
  | some entry =>
    obtain ⟨row, hrow, rfl⟩ := List.mem_map.mp (getBy_mem hentry).1
    refine ⟨?_, by simp, by simp, by simp⟩
    rintro - _ ⟨⟩ -
    exact hrow

/-- A held row that is completed with a high risk has been approved. -/
theorem Tables.Held.released {t : Tables} (hheld : t.Held prior) (hgoverned : t.Governed)
    {row : AssessmentRow} {result : AssessmentResult} (hrow : t.assessment = some row)
    (hcompleted : row.status = .completed) (hnew : row ∉ prior)
    (hresult : row.resultPayload = some result) (hrisk : result.HighRisk) :
    ∃ state e, t.checkpoint = some state ∧ state.reviewStatus = .approved ∧
      state.candidateResult = some result ∧ t.decisions.getLast? = some e ∧
      e.action = .approved := by
  cases hcheckpoint : t.checkpoint with
  | none => exact absurd (hheld.ungated hcheckpoint row hrow hcompleted) hnew
  | some state =>
    obtain ⟨row', hrow', hagree⟩ := hgoverned.gated state hcheckpoint
    cases hrow.symm.trans hrow'
    cases hstatus : state.reviewStatus with
    | approved =>
      obtain ⟨e, hlast, haction⟩ := hheld.approved state hcheckpoint hstatus
      obtain ⟨-, -, hpayload, -⟩ := hagree.approved hstatus
      exact ⟨state, e, rfl, hstatus, hpayload.symm.trans hresult, hlast, haction⟩
    | pending =>
      have hpaused := hagree.pendingReview_iff.mp (.inl hstatus)
      cases hcompleted.symm.trans hpaused
    | revisionRequested =>
      have hpaused := hagree.pendingReview_iff.mp (.inr hstatus)
      cases hcompleted.symm.trans hpaused
    | rejected => cases hcompleted.symm.trans (hagree.rejected hstatus).1
    | notRequired =>
      -- without a review the gate has let the result pass, which a high risk rules out
      exfalso
      cases hdecision : state.gateResult.decision with
      | requireHumanReview => exact hheld.open_review state hcheckpoint hdecision hstatus
      | blockAndEscalate => cases hcompleted.symm.trans (hagree.blocked hstatus hdecision).1
      | autoComplete =>
        obtain ⟨-, -, hpayload, -⟩ := hagree.completed hstatus (.inl hdecision)
        have hle := hheld.candidate state hcheckpoint result (hpayload.symm.trans hresult) hrisk
        rw [hdecision] at hle
        exact absurd hle (by decide)
      | completeWithWarning =>
        obtain ⟨-, -, hpayload, -⟩ := hagree.completed hstatus (.inr hdecision)
        have hle := hheld.candidate state hcheckpoint result (hpayload.symm.trans hresult) hrisk
        rw [hdecision] at hle
        exact absurd hle (by decide)

end Runs

/-- While every step is carried out under settings that hold high risks, every assessment of the
run that is completed with a high or critical risk has been approved by an authorized request of
the run. What is released is the candidate of the checkpoint, and the approval is the last
decision of the audit trail. -/
theorem high_risk_released_by_approval {κ : Type} (prior : PriorAssessments)
    (steps : List (PlatformStep κ)) (hholds : ∀ step ∈ steps, step.settings.HoldsHighRisk)
    (assessmentId : UUID) {row : AssessmentRow} {result : AssessmentResult}
    (hrow : ((prior.store.platform steps).lookup assessmentId).assessment = some row)
    (hcompleted : row.status = .completed) (hnew : row ∉ prior.rows)
    (hresult : row.resultPayload = some result) (hrisk : result.HighRisk) :
    ∃ state e call principal,
      ((prior.store.platform steps).lookup assessmentId).checkpoint = some state ∧
        state.reviewStatus = .approved ∧ state.candidateResult = some result ∧
        ((prior.store.platform steps).lookup assessmentId).decisions.getLast? = some e ∧
        e.action = .approved ∧ PlatformStep.request call ∈ steps ∧
        call.Decides assessmentId e principal := by
  have hheld := Store.platform_held hholds (prior.store_held assessmentId)
  obtain ⟨state, e, hcheckpoint, hstatus, hcandidate, hlast, haction⟩ :=
    hheld.released (Store.lookup_governed _ assessmentId) hrow hcompleted hnew hresult hrisk
  obtain ⟨step, hstep, haccounts⟩ := decision_authorized prior steps assessmentId
    (List.mem_of_getLast? hlast)
  cases step with
  | request call =>
    obtain ⟨principal, hdecides⟩ := haccounts
    exact ⟨state, e, call, principal, hcheckpoint, hstatus, hcandidate, hlast, haction, hstep,
      hdecides⟩
  | resume _ _ _ _ => exact haccounts.elim

/-- A service whose generator always names one high risk. -/
def ServiceParts.highRisk : ServiceParts where
  generator _ := .ok Candidate.highRisk.result
  vectorRag _ := .error .other
  hybridRag _ := .error .other
  agenticWorkflow _ _ := .error .other
  multiAgentWorkflow _ _ := .error .other
  unicode := ExecutionRouter.ascii.unicode
  word := ExecutionRouter.ascii.word

/-- Local settings with the gate. -/
def ApplicationSettings.localGate : ApplicationSettings where
  runtimeRiskGateEnabled := true
  executionRoutingEnabled := false

/-- A request under the local settings, which need no credentials. -/
def ApiRequest.local (start : ℕ) (call : ApiCall) : ApiRequest Unit where
  settings := .localGate
  parts := .highRisk
  folding := .ascii
  library := ⟨fun _ _ _ => .error .invalidToken, fun _ _ => .error .jwksClient⟩
  credentials := none
  env := .ticking start
  call

/-- A generation that the gate holds, and its approval. -/
def PlatformStep.approved : List (PlatformStep Unit) :=
  [.request (.local 0 (.createAssessment 7 .minimal ⟨1, 1⟩)),
    .request (.local 10 (.review .approveReview 7 .blank))]

/-- The high risk of the sample is released by its approval. -/
theorem high_risk_released_after_approval :
    ∃ state e call principal,
      ((PriorAssessments.empty.store.platform PlatformStep.approved).lookup 7).checkpoint =
          some state ∧
        state.reviewStatus = .approved ∧
        state.candidateResult = some (applyGroundingMetadata Candidate.highRisk.result []) ∧
        ((PriorAssessments.empty.store.platform PlatformStep.approved).lookup
          7).decisions.getLast? = some e ∧
        e.action = .approved ∧ PlatformStep.request call ∈ PlatformStep.approved ∧
        call.Decides 7 e principal := by
  have hstored : ((PriorAssessments.empty.store.platform PlatformStep.approved).lookup
      7).assessment.map (fun row => (row.status, row.resultPayload)) =
      some (.completed, some (applyGroundingMetadata Candidate.highRisk.result [])) := by
    decide +kernel
  obtain ⟨row, hrow, hpair⟩ := Option.map_eq_some_iff.mp hstored
  obtain ⟨hcompleted, hresult⟩ := Prod.mk.inj hpair
  refine high_risk_released_by_approval .empty PlatformStep.approved ?_ 7 hrow hcompleted nofun
    hresult (by decide)
  intro step hstep
  have hsettings : step.settings = .localGate := by
    rcases List.mem_cons.mp hstep with rfl | hstep
    · rfl
    · rw [List.mem_singleton.mp hstep]
      rfl
  rw [hsettings]
  decide

/-! ## Without resumption -/

section Closed

variable {κ : Type} {s : Store} {assessmentId : UUID} {state : RuntimeAssessmentState}

/-- A reviewer acts on pending checkpoints only. -/
theorem performRequest_not_pending {service : RuntimeGovernanceService} {env : Env} {t : Tables}
    {route : ReviewerRoute} {request : HumanReviewRequest}
    {principal : Option AuthenticatedPrincipal} (hcheckpoint : t.checkpoint = some state)
    (h : state.reviewStatus ≠ .pending) :
    performRequest service assessmentId env (route.op request principal) t = t := by
  rcases performRequest_cases env (route.op request principal) t with heq | ⟨tr, htr, -⟩
  · exact heq
  · obtain ⟨found, -, -, hfound, -, hstatus, -⟩ := ReviewOp.transition_eq_ok htr
    cases hcheckpoint.symm.trans hfound
    exact absurd (hstatus.trans (by cases route <;> rfl)) h

/-- A request changes nothing at an assessment whose review is closed. -/
theorem PlatformStep.lookup_perform_closed (call : ApiRequest κ)
    (hcheckpoint : (s.lookup assessmentId).checkpoint = some state)
    (h : state.reviewStatus ≠ .pending) :
    ((PlatformStep.request call).perform s).lookup assessmentId = s.lookup assessmentId := by
  obtain ⟨row, hrow, -⟩ := (s.lookup_governed assessmentId).gated state hcheckpoint
  have hacts := (PlatformStep.request call).acts s assessmentId
  generalize ((PlatformStep.request call).perform s).lookup assessmentId = after at hacts ⊢
  cases hacts with
  | unchanged => rfl
  | generated _ hfresh => cases hrow.symm.trans hfresh
  | decided _ _ => exact performRequest_not_pending hcheckpoint h

end Closed

/-- Requests of the API alone, whatever they are and under whatever settings, change nothing of an
assessment whose review is not pending. In particular a requested revision stays requested. -/
theorem api_leaves_closed_reviews {κ : Type} (s : Store) (requests : List (ApiRequest κ))
    (assessmentId : UUID) {state : RuntimeAssessmentState}
    (hcheckpoint : (s.lookup assessmentId).checkpoint = some state)
    (h : state.reviewStatus ≠ .pending) :
    (s.platform (requests.map PlatformStep.request)).lookup assessmentId =
      s.lookup assessmentId := by
  induction requests generalizing s with
  | nil => rfl
  | cons call requests ih =>
    have hsame := PlatformStep.lookup_perform_closed call hcheckpoint h
    have hrest := ih ((PlatformStep.request call).perform s) (by rwa [hsame])
    exact hrest.trans hsame

/-- After a request for a revision an approval comes too late. -/
theorem api_leaves_requested_revision :
    let s := PriorAssessments.empty.store.platform
      [.request (.local 0 (.createAssessment 7 .minimal ⟨1, 1⟩)),
        .request (.local 10 (.review .requestReviewRevision 7 .blank))]
    (s.lookup 7).checkpoint.map (·.reviewStatus) = some .revisionRequested ∧
      (s.platform [.request (.local 20 (.review .approveReview 7 .blank))]).lookup 7 =
        s.lookup 7 := by
  intro s
  have hstatus : (s.lookup 7).checkpoint.map (·.reviewStatus) = some .revisionRequested := by
    decide +kernel
  obtain ⟨state, hstate, hrequested⟩ := Option.map_eq_some_iff.mp hstatus
  refine ⟨hstatus, ?_⟩
  exact api_leaves_closed_reviews s [.local 20 (.review .approveReview 7 .blank)] 7 hstate
    (by rw [hrequested]; exact nofun)

end AssessmentPlatform
