import AssessmentPlatform.Api.Reads

/-!
# What a reviewer approves

A reviewer reads a candidate in one request and decides on it in a later one. The revision counter
tells whether the candidate has been replaced in between: unless the revision was requested but not
yet submitted, a checkpoint keeps its candidate as long as it keeps its counter.
-/

namespace AssessmentPlatform

open Library

/-! ## What a reviewer has read -/

section Read

variable {env : Env} {assessmentId : UUID} {t : Tables} {response : ReviewCandidateResponse}

/-- The response shows the candidate of the checkpoint. -/
structure ReviewCandidateResponse.Shows (response : ReviewCandidateResponse)
    (state : RuntimeAssessmentState) : Prop where
  result : state.candidateResult = some response.result
  execution : state.candidateExecution = response.execution
  status : state.reviewStatus = response.reviewStatus
  revision : state.revisionCount = response.revisionCount

/-- A candidate that is read shows the checkpoint of its assessment. -/
theorem RuntimeAssessmentState.candidate_eq_ok {state : RuntimeAssessmentState}
    (h : state.candidate assessmentId = .ok response) :
    response.Shows state ∧ response.assessmentId = assessmentId := by
  unfold RuntimeAssessmentState.candidate at h
  split at h
  · cases h
  · next result hresult =>
    split at h
    · cases h
      exact ⟨⟨hresult, rfl, rfl, rfl⟩, rfl⟩
    · cases h

/-- A session that returns a candidate has found its checkpoint. -/
theorem getReviewCandidate_eq_ok
    (h : (getReviewCandidate env assessmentId).outcome t = .ok response) :
    response.assessmentId = assessmentId ∧
      ∃ state, t.checkpoint = some state ∧ response.Shows state := by
  have hreads : Prog.Triple (fun w : World => w.db = .open t)
      (getReviewCandidate env assessmentId)
      (fun found _ => found.assessmentId = assessmentId ∧
        ∃ state, t.checkpoint = some state ∧ found.Shows state) (fun _ _ => True) := by
    unfold getReviewCandidate
    refine Prog.Triple.bind (Q := fun _ w => w.db = .open t) ?_ fun row => ?_
    · cases hrow : t.assessment with
      | none =>
        refine (computes_requiredAssessment_none hrow).conseq (fun _ h => h) ?_ fun _ _ _ => trivial
        rintro found w ⟨h, -⟩
        cases h
      | some row =>
        refine (computes_requiredAssessment hrow).conseq (fun _ h => h) ?_ fun _ _ _ => trivial
        rintro found w ⟨h, -⟩
        exact (Prod.mk.inj (Except.ok.inj h)).2.symm
    · refine Prog.Triple.bind (Q := fun state _ => t.checkpoint = some state) ?_ fun state => ?_
      · refine (computes_requiredState env (.open t)).conseq (fun _ h => h) ?_ fun _ _ _ => trivial
        rintro state w ⟨h, -⟩
        cases hrequired : (Db.open t).working.required with
        | error e =>
          rw [hrequired] at h
          cases h
        | ok found =>
          rw [hrequired] at h
          rw [← (Prod.mk.inj (Except.ok.inj h)).1]
          exact (Tables.required_eq_ok hrequired).2.1
      · cases hcandidate : state.candidate assessmentId with
        | error e => exact Prog.triple_throw fun _ _ => trivial
        | ok found =>
          refine Prog.triple_pure fun w hstate => ?_
          obtain ⟨hshows, hid⟩ := RuntimeAssessmentState.candidate_eq_ok hcandidate
          exact ⟨hid, state, hstate, hshows⟩
  have hfound := hreads { db := .open t } rfl
  unfold Session.outcome at h
  generalize Prog.exec (getReviewCandidate env assessmentId) { db := .open t } = r at h hfound
  rcases r with ⟨e | found, w⟩
  · cases h
  · cases h
    exact hfound

/-- A request that is answered with a candidate shows the one of its checkpoint. -/
theorem ReadRequest.answer_candidate {κ : Type} {request : ReadRequest κ} {s : Store}
    (h : request.answer s = .ok (.candidate response)) :
    ∃ state, (s.lookup response.assessmentId).checkpoint = some state ∧ response.Shows state := by
  unfold ReadRequest.answer at h
  obtain ⟨principal, -, h⟩ := except_bind_eq_ok.mp h
  unfold ReadRequest.served at h
  cases hcall : request.call with
  | getReviewCandidate assessmentId =>
    rw [hcall] at h
    obtain ⟨found, hfound, heq⟩ := except_map_eq_ok.mp h
    cases heq
    obtain ⟨rfl, state, hstate, hshows⟩ := getReviewCandidate_eq_ok hfound
    exact ⟨state, hstate, hshows⟩
  | getSession =>
    rw [hcall] at h
    cases h
  | getAssessment _ | getRuntimeStatus _ | listReviews _ | listAssessments _ _
  | listPendingReviews _ =>
    rw [hcall] at h
    obtain ⟨found, -, heq⟩ := except_map_eq_ok.mp h
    cases heq

end Read

/-! ## What is left of it -/

/-- The checkpoint has gone on from the one that the response shows: to a later revision, or with
the same candidate. -/
def ReviewCandidateResponse.Current (response : ReviewCandidateResponse) (t : Tables) : Prop :=
  ∃ state, t.checkpoint = some state ∧
    (response.revisionCount < state.revisionCount ∨
      state.revisionCount = response.revisionCount ∧ state.reviewStatus ≠ .revisionRequested ∧
        state.candidateResult = some response.result ∧
        state.candidateExecution = response.execution)

section Runs

variable {κ : Type} {response : ReviewCandidateResponse} {s : Store}

/-- A candidate that has been read stays current over a transition. -/
theorem ReviewCandidateResponse.Current.transition {service : RuntimeGovernanceService} {env : Env}
    {assessmentId : UUID} {op : ReviewOp} {t : Tables} {tr : Transition} (h : response.Current t)
    (htr : op.transition service env assessmentId t = .ok tr) : response.Current (tr.apply t) := by
  obtain ⟨state, hcheckpoint, hcurrent⟩ := h
  obtain ⟨found, row, -, hfound, -, hstatus, haction | ⟨c, rfl, hresume⟩⟩ :=
    ReviewOp.transition_eq_ok htr
  · cases hcheckpoint.symm.trans hfound
    obtain ⟨action, newStatus, revision, write, request, principal, telemetry, n, haction, -, -,
      rfl⟩ := haction
    refine ⟨_, rfl, ?_⟩
    change response.revisionCount < revision ∨
      revision = response.revisionCount ∧ newStatus ≠ .revisionRequested ∧
        state.candidateResult = some response.result ∧
        state.candidateExecution = response.execution
    rcases hcurrent with hlater | ⟨hsame, -, hresult, hexecution⟩
    · left
      cases haction <;> omega
    · cases haction with
      | approve _ => exact .inr ⟨hsame, by decide, hresult, hexecution⟩
      | reject => exact .inr ⟨hsame, by decide, hresult, hexecution⟩
      | requestRevision _ => exact .inl (by omega)
  · cases hcheckpoint.symm.trans hfound
    obtain ⟨gateResult, telemetry, -, -, -, rfl⟩ := resumeTransition_eq_ok hresume
    refine ⟨_, rfl, ?_⟩
    rcases hcurrent with hlater | ⟨-, hnot, -⟩
    · exact .inl hlater
    · exact absurd hstatus hnot

/-- Every step leaves the response current. -/
theorem PlatformStep.perform_current (step : PlatformStep κ) {assessmentId : UUID}
    (h : response.Current (s.lookup assessmentId)) :
    response.Current ((step.perform s).lookup assessmentId) := by
  have hrequest : ∀ service env op,
      response.Current (performRequest service assessmentId env op (s.lookup assessmentId)) := by
    intro service env op
    have hcases : performRequest service assessmentId env op (s.lookup assessmentId) =
          s.lookup assessmentId ∨
        ∃ tr, op.transition service env assessmentId (s.lookup assessmentId) = .ok tr ∧
          performRequest service assessmentId env op (s.lookup assessmentId) =
            tr.apply (s.lookup assessmentId) :=
      performRequest_cases env op (s.lookup assessmentId)
    rcases hcases with heq | ⟨tr, htr, heq⟩
    · rwa [heq]
    · rw [heq]
      exact h.transition htr
  obtain ⟨state, hcheckpoint, -⟩ := id h
  obtain ⟨row, hrow, -⟩ := (s.lookup_governed assessmentId).gated state hcheckpoint
  have hacts := step.acts s assessmentId
  generalize (step.perform s).lookup assessmentId = after at hacts ⊢
  cases hacts with
  | unchanged => exact h
  | generated _ hfresh => cases hrow.symm.trans hfresh
  | decided _ _ => exact hrequest _ _ _
  | resumed => exact hrequest _ _ _

/-- A candidate that has been read stays current over any steps of the platform. -/
theorem Store.platform_current {assessmentId : UUID} (steps : List (PlatformStep κ))
    (h : response.Current (s.lookup assessmentId)) :
    response.Current ((s.platform steps).lookup assessmentId) := by
  induction steps generalizing s with
  | nil => exact h
  | cons step steps ih => exact ih (step.perform_current h)

end Runs

/-- Steps are taken one after the other. -/
theorem Store.platform_append {κ : Type} (s : Store) (steps later : List (PlatformStep κ)) :
    s.platform (steps ++ later) = (s.platform steps).platform later := List.foldl_append

/-- A completed row whose checkpoint has been gated carries the candidate of the checkpoint. -/
theorem Tables.Governed.released_candidate {t : Tables} {assessmentId : UUID} (h : t.Governed)
    (hfiled : t.Filed assessmentId) {state : RuntimeAssessmentState} {row : AssessmentRow}
    (hcheckpoint : t.checkpoint = some state) (hrow : t.assessment = some row)
    (hcompleted : row.status = .completed) :
    row.resultPayload = state.candidateResult ∧
      row.executionMetadata = state.candidateExecution := by
  obtain ⟨found, hfound, hagree⟩ := h.gated state hcheckpoint
  cases hrow.symm.trans hfound
  cases hstatus : state.reviewStatus with
  | approved =>
    obtain ⟨-, -, hresult, hexecution⟩ := hagree.approved hstatus
    exact ⟨hresult, hexecution⟩
  | pending =>
    have hpaused := hagree.pendingReview_iff.mp (.inl hstatus)
    cases hcompleted.symm.trans hpaused
  | revisionRequested =>
    have hpaused := hagree.pendingReview_iff.mp (.inr hstatus)
    cases hcompleted.symm.trans hpaused
  | rejected => cases hcompleted.symm.trans (hagree.rejected hstatus).1
  | notRequired =>
    cases hdecision : state.gateResult.decision with
    | requireHumanReview => exact absurd hstatus ((hfiled.decision state hcheckpoint).mp hdecision)
    | blockAndEscalate => cases hcompleted.symm.trans (hagree.blocked hstatus hdecision).1
    | autoComplete =>
      obtain ⟨-, -, hresult, hexecution⟩ := hagree.completed hstatus (.inl hdecision)
      exact ⟨hresult, hexecution⟩
    | completeWithWarning =>
      obtain ⟨-, -, hresult, hexecution⟩ := hagree.completed hstatus (.inr hdecision)
      exact ⟨hresult, hexecution⟩

/-- What a reviewer has read is what is released: in every run in which a candidate is read, other
than one whose revision is already requested, and whatever happens afterwards, if the assessment
ends completed under the same revision counter, its row carries the candidate that was read. -/
theorem read_candidate_released {κ κ' : Type} (prior : PriorAssessments)
    (before after : List (PlatformStep κ)) (request : ReadRequest κ')
    {response : ReviewCandidateResponse}
    (hread : request.answer (prior.store.platform before) = .ok (.candidate response))
    (hopen : response.reviewStatus ≠ .revisionRequested)
    {state : RuntimeAssessmentState} {row : AssessmentRow}
    (hstate : ((prior.store.platform (before ++ after)).lookup response.assessmentId).checkpoint =
      some state)
    (hrow : ((prior.store.platform (before ++ after)).lookup response.assessmentId).assessment =
      some row)
    (hrevision : state.revisionCount = response.revisionCount)
    (hcompleted : row.status = .completed) :
    row.resultPayload = some response.result ∧ row.executionMetadata = response.execution := by
  have hfiled := Store.platform_filed prior.store_filed (before ++ after)
  obtain ⟨hresult, hexecution⟩ := ((prior.store.platform (before ++ after)).lookup_governed
    response.assessmentId).released_candidate (hfiled response.assessmentId) hstate hrow hcompleted
  obtain ⟨shown, hshown, hshows⟩ := ReadRequest.answer_candidate hread
  have hcurrent :
      response.Current ((prior.store.platform before).lookup response.assessmentId) := by
    refine ⟨shown, hshown, .inr ⟨hshows.revision, ?_, hshows.result, hshows.execution⟩⟩
    rwa [hshows.status]
  have hend := Store.platform_current after hcurrent
  rw [← Store.platform_append] at hend
  obtain ⟨found, hfound, hlater | ⟨-, -, hcandidate, hmetadata⟩⟩ := hend
  · cases hstate.symm.trans hfound
    omega
  · cases hstate.symm.trans hfound
    exact ⟨hresult.trans hcandidate, hexecution.trans hmetadata⟩

/-- A reviewer of the local platform reads the candidate of the sample. -/
def ReadRequest.reviewer : ReadRequest Unit where
  settings := .localGate
  folding := .ascii
  library := ⟨fun _ _ _ => .error .invalidToken, fun _ _ => .error .jwksClient⟩
  credentials := none
  env := .ticking 5
  fault _ := none
  call := .getReviewCandidate 7

/-- The reviewer of the sample reads the candidate and approves it. -/
theorem read_candidate_released_approved :
    ∃ response, ReadRequest.reviewer.answer (PriorAssessments.empty.store.platform
        [.request (.local 0 (.createAssessment 7 .minimal ⟨1, 1⟩))]) = .ok (.candidate response) ∧
      ((PriorAssessments.empty.store.platform PlatformStep.approved).lookup 7).assessment.bind
        (·.resultPayload) = some response.result := by
  have hread : (ReadRequest.reviewer.answer (PriorAssessments.empty.store.platform
      [.request (.local 0 (.createAssessment 7 .minimal ⟨1, 1⟩))])).map (fun answer =>
        match answer with
        | .candidate response => (response.assessmentId, response.reviewStatus,
            response.revisionCount)
        | _ => (0, .revisionRequested, 0)) = .ok (7, .pending, 0) := by
    decide +kernel
  have hstored : ((PriorAssessments.empty.store.platform PlatformStep.approved).lookup
      7).checkpoint.map (·.revisionCount) = some 0 ∧
      ((PriorAssessments.empty.store.platform PlatformStep.approved).lookup
        7).assessment.map (·.status) = some .completed := by
    decide +kernel
  obtain ⟨answer, hanswer, hfields⟩ := except_map_eq_ok.mp hread
  cases answer with
  | candidate response =>
    simp only [Prod.mk.injEq] at hfields
    obtain ⟨hid, hstatus, hrevision⟩ := hfields
    obtain ⟨state, hstate, hcount⟩ := Option.map_eq_some_iff.mp hstored.1
    obtain ⟨row, hrow, hcompleted⟩ := Option.map_eq_some_iff.mp hstored.2
    refine ⟨response, hanswer, ?_⟩
    rw [hrow]
    rw [← hid] at hstate hrow
    exact (read_candidate_released .empty
      [.request (.local 0 (.createAssessment 7 .minimal ⟨1, 1⟩))]
      [.request (.local 10 (.review .approveReview 7 .blank))] ReadRequest.reviewer hanswer
      (by rw [hstatus]; decide) hstate hrow (hcount.trans hrevision.symm) hcompleted).1
  | session _ | assessment _ | runtimeStatus _ | reviews _ | listing _ =>
    simp at hfields

end AssessmentPlatform
