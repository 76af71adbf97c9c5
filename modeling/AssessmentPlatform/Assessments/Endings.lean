import AssessmentPlatform.Assessments.Processing

/-!
# How a generation ends

`generate_assessment` writes one row in up to three transactions, and any of its database steps
may fail. Whatever happens, the committed tables are in one of six states when it returns or
raises. Invariants over whole runs need only be checked for these.
-/

namespace AssessmentPlatform

open Library

section Endings

variable (service : AssessmentService) (env : Env) (timers : Timers) (assessmentId : UUID)
  (request : AssessmentRequest) (principal : Option AuthenticatedPrincipal)

/-- The candidate that the generation of a request produces. -/
def AssessmentService.Generates (c : Candidate) : Prop :=
  ∃ routing, service.routeExecution request = .ok routing ∧
    service.generate env.requestId timers assessmentId request routing = .ok c

/-- The row in `PENDING`. -/
def createdRow : AssessmentRow :=
  { startedRow env assessmentId request principal with
    status := .pending
    updatedAt := env.clock 0 }

/-- What `generate_assessment` can leave behind. -/
inductive GenerationEnd : Tables → Prop
  | nothing : GenerationEnd {}
  | created : GenerationEnd { assessment := some (createdRow env assessmentId request principal) }
  | started : GenerationEnd { assessment := some (startedRow env assessmentId request principal) }
  | failed (errorCode errorMessage : Str) :
    GenerationEnd
      { assessment := some ((startedRow env assessmentId request principal).markFailed errorCode
          errorMessage (env.clock 2)) }
  | completed {c : Candidate} (hungated : service.runtimeGovernance = none)
    (hgenerated : service.Generates env timers assessmentId request c) :
    GenerationEnd
      { assessment := some ((startedRow env assessmentId request principal).markCompleted c.result
          (some c.execution) (env.clock 2)) }
  | gated {c : Candidate} {governance : RuntimeGovernanceService} {tr : Transition}
    (hgated : service.runtimeGovernance = some governance)
    (hgenerated : service.Generates env timers assessmentId request c)
    (htr : processTransition governance env assessmentId c {} 0 true 2
      { assessment := some (startedRow env assessmentId request principal) } = .ok tr) :
    GenerationEnd
      (tr.apply { assessment := some (startedRow env assessmentId request principal) })

end Endings

/-! ## The phases -/

section Phases

variable {env : Env} {assessmentId : UUID} {row : AssessmentRow} {service : AssessmentService}
  {C : Tables → Prop}

/-- A database error that is answered publishes nothing. -/
theorem triple_guardDatabase_committed {α : Type} {P : World → Prop} {x : Session α}
    {Q : α → World → Prop} (hx : Prog.Triple P x Q fun _ w => C w.db.committed) :
    Prog.Triple P (guardDatabase env x) Q fun _ w => C w.db.committed := by
  intro w hw
  have h := hx w hw
  cases hexec : Prog.exec x w with
  | mk outcome w' =>
  rw [hexec] at h
  cases outcome with
  | ok a =>
    rw [exec_guardDatabase_ok hexec]
    exact h
  | error e =>
    obtain ⟨e', w'', hexec', hcommitted⟩ := exec_guardDatabase_error env hexec
    rw [hexec']
    change C w''.db.committed
    rw [hcommitted]
    exact h

/-- What a session commits that has assigned the started row. -/
theorem committed_assigned (row' : AssessmentRow) :
    ((Db.started row).assignRow row').commit.committed = { assessment := some row' } :=
  rfl

/-- The first two phases leave nothing or the row in `PENDING` if they raise. -/
theorem triple_startAssessment_committed (request : AssessmentRequest)
    (principal : Option AuthenticatedPrincipal) (hnothing : C {})
    (hcreated : C { assessment := some (createdRow env assessmentId request principal) }) :
    Prog.Triple (fun w => w.db = Db.open {}) (startAssessment env assessmentId request principal)
      (fun _ w => w.db = Db.started (startedRow env assessmentId request principal))
      (fun _ w => C w.db.committed) := by
  have hcreation := computes_creation assessmentId request principal env
  have hprocessing := computes_processing assessmentId request principal env
  refine Prog.Triple.bind (triple_guardDatabase_committed (hcreation.conseq (fun _ h => h)
    (fun _ _ h => (Prod.mk.inj (Except.ok.inj h.1)).2.symm) fun _ w h => ?_)) fun _ =>
    triple_guardDatabase_committed (hprocessing.conseq (fun _ h => h)
      (fun _ _ h => (Prod.mk.inj (Except.ok.inj h.1)).2.symm) fun _ w h => ?_)
  · rw [h.2]
    exact hnothing
  · rw [h.2]
    exact hcreated

variable (hstarted : C { assessment := some row })

include hstarted

/-- The failure write leaves the started or the failed row. -/
theorem triple_persistFailure_committed {errorCode errorMessage : Str}
    (hfailed : C { assessment := some (row.markFailed errorCode errorMessage (env.clock 2)) }) :
    Prog.Triple (fun w => w.db = Db.started row) (persistFailure env errorCode errorMessage)
      (fun _ w => C w.db.committed) (fun _ w => C w.db.committed) := by
  have hmark : Computes env [.persistFailure]
      (markFailed env errorCode errorMessage .persistFailure) (Db.started row) _ :=
    computes_updateRow rfl
  refine triple_guardDatabase_committed ((hmark.bind rfl (computes_commit _ _ _)).conseq
    (fun _ h => h) (fun _ w h => ?_) fun _ w h => ?_)
  · rw [← (Prod.mk.inj (Except.ok.inj h.1)).2, committed_assigned]
    exact hfailed
  · rw [h.2]
    exact hstarted

/-- The last phase leaves the started row or the outcome of its candidate. -/
theorem triple_finalizeCandidate_committed {c : Candidate}
    (hcompleted : service.runtimeGovernance = none →
      C { assessment := some (row.markCompleted c.result (some c.execution) (env.clock 2)) })
    (hgated : ∀ governance tr, service.runtimeGovernance = some governance →
      processTransition governance env assessmentId c {} 0 true 2 { assessment := some row } =
        .ok tr → C (tr.apply { assessment := some row })) :
    Prog.Triple (fun w => w.db = Db.started row) (finalizeCandidate service env assessmentId c)
      (fun _ w => C w.db.committed) (fun _ w => C w.db.committed) := by
  refine triple_guardDatabase_committed ?_
  unfold recordCandidate
  cases hservice : service.runtimeGovernance with
  | none =>
    have hmark : Computes env [.markCompleted]
        (markCompleted env c.result (some c.execution)) (Db.started row) _ := computes_updateRow rfl
    have hcommit : Publishes env
        (markCompleted env c.result (some c.execution) >>= commitRecord env) (Db.started row) _ :=
      hmark.bind_publishes rfl (publishes_commit fun w h => ⟨_, _, rfl, h⟩)
    refine hcommit.conseq (fun _ h => h) (fun _ w h => ?_) fun _ w h => ?_
    · rw [← Except.ok.inj h, committed_assigned]
      exact hcompleted hservice
    · rw [h.2]
      exact hstarted
  | some governance =>
    have hprocess := (computes_processCandidate governance env assessmentId
      (d := Db.started row) rfl rfl c {} 0 true).map some
    dsimp only
    cases htr : processTransition governance env assessmentId c {} 0 true 2
        { assessment := some row } with
    | error e =>
      have hraise : Publishes env
          (some <$> processCandidate governance env assessmentId c >>= commitRecord env)
          (Db.started row) (.error e) := by
        refine Computes.bind_error_publishes (hprocess.of_eq ?_)
        exact congrArg (fun r => Except.map _ (Except.map _ r)) htr
      refine hraise.conseq (fun _ h => h) (fun _ w h => by cases h) fun _ w h => ?_
      rw [h.2]
      exact hstarted
    | ok tr =>
      have hcommit : Publishes env
          (some <$> processCandidate governance env assessmentId c >>= commitRecord env)
          (Db.started row) (.ok (tr.apply { assessment := some row })) := by
        refine Computes.bind_publishes (hprocess.of_eq
          (congrArg (fun r => Except.map _ (Except.map _ r)) htr)) rfl ?_
        exact publishes_commit fun w h => ⟨_, _, rfl, h⟩
      refine hcommit.conseq (fun _ h => h) (fun _ w h => ?_) fun _ w h => ?_
      · rw [← Except.ok.inj h]
        exact hgated governance tr hservice htr
      · rw [h.2]
        exact hstarted

end Phases

/-- However it ends, `generate_assessment` leaves one of the six states. -/
theorem generateAssessment_end (service : AssessmentService) (env : Env) (timers : Timers)
    (assessmentId : UUID) (request : AssessmentRequest)
    (principal : Option AuthenticatedPrincipal) :
    GenerationEnd service env timers assessmentId request principal
      (Prog.exec (generateAssessment service env timers assessmentId request principal)
        { db := .open {} }).2.db.committed := by
  have hstart : Prog.Triple _ (startAssessment env assessmentId request principal) _
      (fun _ w => GenerationEnd service env timers assessmentId request principal w.db.committed) :=
    triple_startAssessment_committed request principal .nothing .created
  have hstart := hstart { db := .open {} } rfl
  unfold generateAssessment
  rw [Prog.exec_bind]
  generalize Prog.exec (startAssessment env assessmentId request principal) { db := .open {} } =
    start at hstart ⊢
  rcases start with ⟨e | _, w⟩
  · exact hstart
  dsimp only
  cases hroute : service.routeExecution request with
  | error e =>
    change GenerationEnd service env timers assessmentId request principal w.db.committed
    rw [hstart]
    exact .started
  | ok routing =>
  rw [show Session.ofExcept (.ok routing) = (pure routing : Session _) from rfl, pure_bind]
  cases hgenerate : service.generate env.requestId timers assessmentId request routing with
  | error e =>
    have hfailure : Prog.Triple _
        (persistFailure env (safeError e).errorCode (safeError e).publicMessage) _ _ :=
      triple_persistFailure_committed
        (C := GenerationEnd service env timers assessmentId request principal) .started
        (.failed _ _)
    dsimp only
    rw [Prog.exec_bind_state fun _ _ => rfl]
    exact hfailure.state hstart
  | ok c =>
    have hgenerated : service.Generates env timers assessmentId request c :=
      ⟨routing, hroute, hgenerate⟩
    have hfinal : Prog.Triple _ (finalizeCandidate service env assessmentId c) _ _ :=
      triple_finalizeCandidate_committed
        (C := GenerationEnd service env timers assessmentId request principal) .started
        (fun hungated => .completed hungated hgenerated)
        fun governance tr hgated htr => .gated hgated hgenerated htr
    dsimp only
    rw [Prog.exec_bind_state fun record w => Session.ofExcept_state (toResponse record) w]
    exact hfinal.state hstart

end AssessmentPlatform
