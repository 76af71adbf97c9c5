import AssessmentPlatform.Assessments.Service
import AssessmentPlatform.Governance.Runs

/-!
# Leaving the state PROCESSING

When a request has committed the state `PROCESSING`, the row should not be left in it.
A failed generation is written down by its own transaction. The router is called
outside of that guard, and the last phase answers a database error with a rollback
only, so both can strand the row; this file determines exactly when that happens.
-/

namespace AssessmentPlatform

open Library

/-- The environment in which exactly the given steps fail. Each call site is reached at
most once in a request, so this covers every choice of failing steps. -/
def Env.failing (env : Env) (fails : DbStep → Option SQLAlchemyError) : Env :=
  { env with fault := fun step _ => fails step }

section Outcomes

variable {α β : Type} {env : Env} {fails : DbStep → Option SQLAlchemyError}
  {steps : List DbStep} {d d' : Db}

/-- Applying a function to the value of a program. -/
theorem Computes.map {x : Session α} {r : Except Failure (α × Db)} (f : α → β)
    (hx : Computes env steps x d r) :
    Computes env steps (f <$> x) d (r.map fun p => (f p.1, p.2)) := by
  intro w hw
  have h := hx w hw
  rw [map_eq_pure_bind, Prog.exec_bind]
  generalize Prog.exec x w = result at h ⊢
  rcases result with ⟨e | a, w'⟩
  · exact ⟨h.1.imp_left fun hr => by rw [hr]; rfl, h.2⟩
  · exact ⟨by rw [h.1]; rfl, h.2⟩

/-- When none of its steps fails, a program has its outcome. -/
theorem Computes.exec_ok {x : Session α} {a : α}
    (hx : Computes (env.failing fails) steps x d (.ok (a, d')))
    (hpass : ∀ step ∈ steps, fails step = none) {w : World} (hw : w.db = d) :
    ∃ w', Prog.exec x w = (.ok a, w') ∧ w'.db = d' := by
  have h := hx w hw
  generalize Prog.exec x w = result at h ⊢
  rcases result with ⟨e | b, w'⟩
  · obtain ⟨hr | ⟨step, hstep, n, error, hfault, -⟩, -⟩ := h
    · cases hr
    · cases (hpass step hstep).symm.trans hfault
  · obtain ⟨hr, -⟩ := h
    simp only [Except.ok.injEq, Prod.mk.injEq] at hr
    exact ⟨w', by rw [hr.1], hr.2.symm⟩

/-- When a step fails or its outcome is an exception, a program raises and publishes
nothing. -/
theorem Computes.exec_error {x : Session α} {r : Except Failure (α × Db)}
    (hx : Computes (env.failing fails) steps x d r)
    (hfail : (∃ e, r = .error e) ∨ ∃ step ∈ steps, fails step ≠ none) {w : World}
    (hw : w.db = d) :
    ∃ e w', Prog.exec x w = (.error e, w') ∧ w'.db.committed = d.committed := by
  have h := hx w hw
  generalize Prog.exec x w = result at h ⊢
  rcases result with ⟨e | b, w'⟩
  · exact ⟨e, w', rfl, h.2⟩
  · obtain ⟨hr, hpasses⟩ := h
    rcases hfail with ⟨e, he⟩ | ⟨step, hstep, hne⟩
    · cases he.symm.trans hr
    · obtain ⟨n, hn⟩ := hpasses step hstep
      exact absurd hn hne

/-- Answering a database error publishes nothing. -/
theorem exec_handleDatabaseError (env : Env) (error : SQLAlchemyError) (w : World) :
    ∃ safe w', Prog.exec (handleDatabaseError env error) w = (.ok safe, w') ∧
      w'.db.committed = w.db.committed := by
  unfold handleDatabaseError rollback dbStep
  simp only [Prog.exec_bind, Prog.exec_tryCatch, Prog.exec_get, Prog.exec_modify]
  cases env.fault .rollback w.steps with
  | none => exact ⟨_, _, rfl, rfl⟩
  | some error => exact ⟨_, _, rfl, rfl⟩

/-- The guard passes on a value. -/
theorem exec_guardDatabase_ok {x : Session α} {w w' : World} {a : α}
    (hx : Prog.exec x w = (.ok a, w')) : Prog.exec (guardDatabase env x) w = (.ok a, w') := by
  unfold guardDatabase
  rw [Prog.exec_tryCatch, hx]

variable (env) in
/-- The guard passes on a failure, possibly as another one, and keeps what is committed. -/
theorem exec_guardDatabase_error {x : Session α} {w w' : World} {e : Failure}
    (hx : Prog.exec x w = (.error e, w')) :
    ∃ e' w'', Prog.exec (guardDatabase env x) w = (.error e', w'') ∧
      w''.db.committed = w'.db.committed := by
  unfold guardDatabase
  rw [Prog.exec_tryCatch, hx]
  cases e with
  | database error =>
    obtain ⟨safe, w'', hexec, hcommitted⟩ := exec_handleDatabaseError env error w'
    refine ⟨.application safe, w'', ?_, hcommitted⟩
    simp only [Prog.exec_bind, hexec]
    rfl
  | application _ => exact ⟨_, _, rfl, rfl⟩
  | value => exact ⟨_, _, rfl, rfl⟩
  | other => exact ⟨_, _, rfl, rfl⟩

end Outcomes

/-! ## The phases -/

section Phases

variable (service : AssessmentService) (env : Env) (fails : DbStep → Option SQLAlchemyError)
  (timers : Timers) (assessmentId : UUID) (request : AssessmentRequest)
  (principal : Option AuthenticatedPrincipal)

/-- The row in `PROCESSING`. -/
def startedRow : AssessmentRow where
  assessmentId
  status := .processing
  requestPayload := request
  createdAt := env.clock 0
  updatedAt := env.clock 1
  createdBySubject := principal.map AuthenticatedPrincipal.subject

/-- The session after the first two phases. -/
def Db.started (row : AssessmentRow) : Db where
  committed := { assessment := some row }
  working := { assessment := some row }
  readings := 2

/-- The final phase can be carried out: neither the gate nor the telemetry raises, and
none of its database steps fails. -/
def AssessmentService.Finalizes (c : Candidate) : Prop :=
  match service.runtimeGovernance with
  | none => fails .markCompleted = none ∧ fails .commit = none
  | some governance => ∃ gateResult telemetry,
    governance.evaluate c.signals = .ok gateResult ∧
    governance.candidateTelemetry env c gateResult.decision (env.clock 2) = .ok telemetry ∧
    ∀ step ∈ gateSteps gateResult.decision true ++ [.commit], fails step = none

/-- The router does not raise, and a generated candidate can be finalized. -/
def AssessmentService.Leaves : Prop :=
  ∃ routing, service.routeExecution request = .ok routing ∧
    ∀ c, service.generate env.requestId timers assessmentId request routing = .ok c →
      service.Finalizes env fails c

/-- The committed tables when `generate_assessment` returns or raises. -/
def generatedTables : Tables :=
  (Prog.exec (generateAssessment service (env.failing fails) timers assessmentId request principal)
    { db := .open {} }).2.db.committed

end Phases

section Start

variable {env : Env} {fails : DbStep → Option SQLAlchemyError} {assessmentId : UUID}
  {request : AssessmentRequest} {principal : Option AuthenticatedPrincipal}

variable (assessmentId request principal) in
/-- The first phase stores the row in `PENDING`. -/
theorem computes_creation (env : Env) :
    Computes env ([.create] ++ [.commitCreated])
      (do
        let _ ← create env assessmentId request (principal.map AuthenticatedPrincipal.subject)
        commit env .commitCreated)
      (Db.open {})
      (.ok ((), { Db.started
          { startedRow env assessmentId request principal with
            status := .pending, updatedAt := env.clock 0 } with readings := 1 })) := by
  have hcreate : Computes env [.create]
      (create env assessmentId request (principal.map AuthenticatedPrincipal.subject))
      (Db.open {}) _ :=
    computes_now.bind rfl ((computes_modifyWorking _).bind rfl
      ((computes_dbStep _).bind rfl (computes_pure _)))
  exact hcreate.bind rfl (computes_commit _ _ _)

variable (assessmentId request principal) in
/-- The second phase moves the row to `PROCESSING`. -/
theorem computes_processing (env : Env) :
    Computes env ([.markProcessing] ++ [.commitProcessing])
      (do
        match ← markProcessing env with
        | none => throw (.application .persistence)
        | some _ => commit env .commitProcessing)
      { Db.started
          { startedRow env assessmentId request principal with
            status := .pending, updatedAt := env.clock 0 } with readings := 1 }
      (.ok ((), Db.started (startedRow env assessmentId request principal))) := by
  have hmark : Computes env [.markProcessing] (markProcessing env)
      { Db.started
          { startedRow env assessmentId request principal with
            status := .pending, updatedAt := env.clock 0 } with readings := 1 } _ :=
    computes_updateRow rfl
  exact hmark.bind rfl (computes_commit _ _ _)

variable (env fails assessmentId request principal) in
/-- The first two phases reach `PROCESSING`, or they raise and the committed row is not
in that state. -/
theorem exec_startAssessment :
    (∃ w, Prog.exec (startAssessment (env.failing fails) assessmentId request principal)
        { db := .open {} } = (.ok (), w) ∧
      w.db = Db.started (startedRow env assessmentId request principal)) ∨
    ∃ e w, Prog.exec (startAssessment (env.failing fails) assessmentId request principal)
        { db := .open {} } = (.error e, w) ∧
      w.db.committed.assessment.map (·.status) ≠ some .processing := by
  have hcreation := computes_creation assessmentId request principal (env.failing fails)
  have hprocessing := computes_processing assessmentId request principal (env.failing fails)
  unfold startAssessment
  by_cases hcreate : ∀ step ∈ ([.create] ++ [.commitCreated] : List DbStep), fails step = none
  · obtain ⟨w₁, hexec₁, hdb₁⟩ := hcreation.exec_ok hcreate (w := { db := .open {} }) rfl
    rw [Prog.exec_bind, exec_guardDatabase_ok hexec₁]
    by_cases hmark : ∀ step ∈ ([.markProcessing] ++ [.commitProcessing] : List DbStep),
        fails step = none
    · obtain ⟨w₂, hexec₂, hdb₂⟩ := hprocessing.exec_ok hmark hdb₁
      exact .inl ⟨w₂, exec_guardDatabase_ok hexec₂, hdb₂⟩
    · push Not at hmark
      obtain ⟨e, w₂, hexec₂, hdb₂⟩ := hprocessing.exec_error (.inr hmark) hdb₁
      obtain ⟨e', w₃, hexec₃, hdb₃⟩ := exec_guardDatabase_error (env.failing fails) hexec₂
      refine .inr ⟨e', w₃, hexec₃, ?_⟩
      rw [hdb₃, hdb₂]
      simp [Db.started]
  · push Not at hcreate
    obtain ⟨e, w₁, hexec₁, hdb₁⟩ :=
      hcreation.exec_error (.inr hcreate) (w := { db := .open {} }) rfl
    obtain ⟨e', w₂, hexec₂, hdb₂⟩ := exec_guardDatabase_error (env.failing fails) hexec₁
    rw [Prog.exec_bind, hexec₂]
    refine .inr ⟨e', w₂, rfl, ?_⟩
    rw [hdb₂, hdb₁]
    simp [Db.open]

end Start

section Final

variable {service : AssessmentService} {env : Env} {fails : DbStep → Option SQLAlchemyError}
  {assessmentId : UUID} {row : AssessmentRow} {c : Candidate}

variable (env) in
/-- The failure write moves the row to `FAILED` when the database accepts it. -/
theorem exec_persistFailure (errorCode errorMessage : Str)
    (hwritable : ∀ step ∈ [.persistFailure, .commitFailure], fails step = none) {w : World}
    (hw : w.db = Db.started row) :
    ∃ w', Prog.exec (persistFailure (env.failing fails) errorCode errorMessage) w = (.ok (), w') ∧
      w'.db.committed.assessment =
        some (row.markFailed errorCode errorMessage (env.clock 2)) := by
  have hmark : Computes (env.failing fails) [.persistFailure]
      (markFailed (env.failing fails) errorCode errorMessage .persistFailure)
      (Db.started row) _ := computes_updateRow rfl
  have hwrite := hmark.bind (f := fun record? => match record? with
    | none => throw (.application .persistence)
    | some _ => commit (env.failing fails) .commitFailure) rfl (computes_commit _ _ _)
  obtain ⟨w', hexec, hdb⟩ := hwrite.exec_ok hwritable hw
  refine ⟨w', exec_guardDatabase_ok hexec, ?_⟩
  rw [hdb]
  rfl

/-- A phase that assigns the row and commits it publishes the row if its outcome is a
row and none of its steps fails; otherwise it leaves the committed row alone. -/
private theorem exec_assign_commit {x : Session (Option AssessmentRow)} {steps : List DbStep}
    {r : Except Failure (AssessmentRow × Db)}
    (hx : Computes (env.failing fails) steps x (Db.started row)
      (r.map fun p => (some p.1, p.2)))
    (hassigned : ∀ row' d', r = .ok (row', d') →
      d'.committed = (Db.started row).committed ∧ d'.working.assessment = some row')
    {w : World} (hw : w.db = Db.started row) :
    (∀ row' d', r = .ok (row', d') → (∀ step ∈ steps ++ [.commit], fails step = none) →
      ∃ w', Prog.exec
        (guardDatabase (env.failing fails) (x >>= commitRecord (env.failing fails))) w =
        (.ok row', w') ∧ w'.db.committed.assessment = some row') ∧
    ((∃ e, r = .error e) ∨ (∃ step ∈ steps ++ [.commit], fails step ≠ none) →
      ∃ e w', Prog.exec
        (guardDatabase (env.failing fails) (x >>= commitRecord (env.failing fails))) w =
        (.error e, w') ∧ w'.db.committed.assessment = some row) := by
  cases r with
  | error e =>
    refine ⟨fun _ _ h => (by cases h), fun _ => ?_⟩
    obtain ⟨e', w₁, hexec₁, hdb₁⟩ := hx.bind_error_last.exec_error (.inl ⟨e, rfl⟩) hw
    obtain ⟨e'', w₂, hexec₂, hdb₂⟩ := exec_guardDatabase_error (env.failing fails) hexec₁
    exact ⟨e'', w₂, hexec₂, by rw [hdb₂, hdb₁]; rfl⟩
  | ok p =>
    obtain ⟨row', d'⟩ := p
    obtain ⟨hcommitted, hworking⟩ := hassigned row' d' rfl
    have hcommit := (computes_commit (env.failing fails) d' .commit).map fun _ => row'
    rw [map_eq_pure_bind] at hcommit
    have hphase := hx.bind (f := commitRecord (env.failing fails)) hcommitted hcommit
    constructor
    · rintro _ _ h hpass
      cases h
      obtain ⟨w', hexec, hdb⟩ := hphase.exec_ok hpass hw
      refine ⟨w', exec_guardDatabase_ok hexec, ?_⟩
      rw [hdb]
      exact hworking
    · intro hfail
      have hfail : ∃ step ∈ steps ++ [.commit], fails step ≠ none := by
        rcases hfail with ⟨e, he⟩ | hfail
        · cases he
        · exact hfail
      obtain ⟨e, w₁, hexec₁, hdb₁⟩ := hphase.exec_error (.inr hfail) hw
      obtain ⟨e', w₂, hexec₂, hdb₂⟩ := exec_guardDatabase_error (env.failing fails) hexec₁
      exact ⟨e', w₂, hexec₂, by rw [hdb₂, hdb₁]; rfl⟩

/-- Every assignment of the gate leaves `PROCESSING`. -/
private theorem gateWrite_status (result : AssessmentResult) (execution : ExecutionMetadata)
    (decision : RuntimeRiskDecision) (now : Time) (row : AssessmentRow) :
    ((gateWrite result execution decision now).apply row).status ∈
      [AssessmentStatus.completed, .pendingReview, .failed] := by
  cases decision <;> simp [gateWrite, RowWrite.apply, AssessmentRow.markCompleted,
    AssessmentRow.markPendingReview, AssessmentRow.markFailed]

/-- The steps of the final phase before its commit. -/
private def finalSteps (service : AssessmentService) (c : Candidate) : List DbStep :=
  match service.runtimeGovernance with
  | none => [.markCompleted]
  | some governance => governance.processSteps c {} true

/-- What the final phase assigns, as the row and the session before the commit. -/
private def finalAssignment (service : AssessmentService) (env : Env) (assessmentId : UUID)
    (c : Candidate) (row : AssessmentRow) : Except Failure (AssessmentRow × Db) :=
  match service.runtimeGovernance with
  | none =>
    let row' := row.markCompleted c.result (some c.execution) (env.clock 2)
    .ok (row', (Db.started row).assignRow row')
  | some governance =>
    (processTransition governance env assessmentId c {} 0 true 2 { assessment := some row }).map
      fun tr => (tr.write.apply row, (Db.started row).perform tr)

variable (service env fails assessmentId c) in
private theorem computes_finalAssignment :
    Computes (env.failing fails) (finalSteps service c)
      (recordCandidate service (env.failing fails) assessmentId c) (Db.started row)
      ((finalAssignment service (env.failing fails) assessmentId c row).map
        fun p => (some p.1, p.2)) := by
  unfold recordCandidate finalSteps finalAssignment
  cases service.runtimeGovernance with
  | none => exact computes_updateRow rfl
  | some governance =>
    exact (computes_processCandidate _ _ _ (d := Db.started row) rfl rfl c {} 0 true).map some

/-- The assigned row has left `PROCESSING`, and nothing has been published yet. -/
private theorem finalAssignment_ok {row' : AssessmentRow} {d' : Db}
    (h : finalAssignment service env assessmentId c row = .ok (row', d')) :
    row'.status ∈ [AssessmentStatus.completed, .pendingReview, .failed] ∧
      d'.committed = (Db.started row).committed ∧ d'.working.assessment = some row' := by
  unfold finalAssignment at h
  cases hservice : service.runtimeGovernance with
  | none =>
    rw [hservice] at h
    cases h
    exact ⟨by simp [AssessmentRow.markCompleted], rfl, rfl⟩
  | some governance =>
    rw [hservice] at h
    dsimp only at h
    cases htr : processTransition governance env assessmentId c {} 0 true 2
      { assessment := some row } with
    | error e =>
      rw [htr] at h
      cases h
    | ok tr =>
      rw [htr] at h
      cases h
      obtain ⟨gateResult, telemetry, -, -, -, rfl⟩ := processTransition_eq_ok htr
      exact ⟨gateWrite_status _ _ _ _ _, rfl, rfl⟩

variable (assessmentId row) in
/-- A first candidate is refused by nothing but its gate and its telemetry. -/
private theorem processTransition_first (governance : RuntimeGovernanceService)
    {gateResult : QualityGateResult} {telemetry : OperationalTelemetry}
    (hgate : governance.evaluate c.signals = .ok gateResult)
    (htelemetry : governance.candidateTelemetry env c gateResult.decision (env.clock 2) =
      .ok telemetry) :
    ∃ tr, processTransition governance env assessmentId c {} 0 true 2
      { assessment := some row } = .ok tr := by
  unfold processTransition
  rw [show c.signals.override {} = c.signals from rfl, hgate, except_ok_bind, htelemetry,
    except_ok_bind, if_neg (Nat.not_lt_zero _), if_neg (by simp [Tables.idTaken])]
  exact ⟨_, rfl⟩

variable (env assessmentId row) in
/-- The final phase can be carried out exactly if it assigns a row and none of its steps
fails. -/
private theorem finalizes_iff :
    service.Finalizes env fails c ↔
      (∃ p, finalAssignment service env assessmentId c row = .ok p) ∧
        ∀ step ∈ finalSteps service c ++ [.commit], fails step = none := by
  unfold AssessmentService.Finalizes finalAssignment finalSteps
  cases service.runtimeGovernance with
  | none => simp
  | some governance =>
    dsimp only
    constructor
    · rintro ⟨gateResult, telemetry, hgate, htelemetry, hpass⟩
      obtain ⟨tr, htr⟩ := processTransition_first assessmentId row governance hgate htelemetry
      refine ⟨⟨_, by rw [htr, except_map_ok]⟩, ?_⟩
      unfold RuntimeGovernanceService.processSteps
      rw [show c.signals.override {} = c.signals from rfl, hgate]
      exact hpass
    · rintro ⟨⟨p, hp⟩, hpass⟩
      cases htr : processTransition governance env assessmentId c {} 0 true 2
        { assessment := some row } with
      | error e =>
        rw [htr] at hp
        cases hp
      | ok tr =>
        obtain ⟨gateResult, telemetry, hgate, htelemetry, -, -⟩ := processTransition_eq_ok htr
        unfold RuntimeGovernanceService.processSteps at hpass
        rw [hgate] at hpass
        exact ⟨gateResult, telemetry, hgate, htelemetry, hpass⟩

variable (service env fails assessmentId c) in
/-- The final phase publishes a row that has left `PROCESSING`, or nothing. -/
theorem exec_finalizeCandidate {w : World} (hw : w.db = Db.started row) :
    (service.Finalizes env fails c →
      ∃ row' w', Prog.exec (finalizeCandidate service (env.failing fails) assessmentId c) w =
          (.ok row', w') ∧ w'.db.committed.assessment = some row' ∧
        row'.status ∈ [AssessmentStatus.completed, .pendingReview, .failed]) ∧
    (¬ service.Finalizes env fails c →
      ∃ e w', Prog.exec (finalizeCandidate service (env.failing fails) assessmentId c) w =
        (.error e, w') ∧ w'.db.committed.assessment = some row) := by
  have hphase := exec_assign_commit
    (computes_finalAssignment service env fails assessmentId c)
    (fun _ _ h => (finalAssignment_ok h).2) hw
  have hiff : service.Finalizes env fails c ↔ _ :=
    finalizes_iff (env.failing fails) assessmentId row
  rw [hiff]
  constructor
  · rintro ⟨⟨⟨row', d'⟩, hassigned⟩, hpass⟩
    obtain ⟨w', hexec, hdb⟩ := hphase.1 row' d' hassigned hpass
    exact ⟨row', w', hexec, hdb, (finalAssignment_ok hassigned).1⟩
  · intro hfails
    apply hphase.2
    cases hassigned : finalAssignment service (env.failing fails) assessmentId c row with
    | error e => exact .inl ⟨e, rfl⟩
    | ok p =>
      right
      by_contra hpass
      push Not at hpass
      exact hfails ⟨⟨p, hassigned⟩, hpass⟩

end Final

/-! ## The request as a whole -/

/-- After the routing, the generation and the final phase the committed row has left
`PROCESSING`, or it is still in it. -/
theorem generatedTables_row (service : AssessmentService) (env : Env)
    (fails : DbStep → Option SQLAlchemyError) (timers : Timers) (assessmentId : UUID)
    (request : AssessmentRequest) (principal : Option AuthenticatedPrincipal)
    (hstarted : (Prog.exec (startAssessment (env.failing fails) assessmentId request principal)
      { db := .open {} }).2.db.committed.assessment.map (·.status) = some .processing)
    (hwritable : ∀ step ∈ [.persistFailure, .commitFailure], fails step = none) :
    ∃ row, (generatedTables service env fails timers assessmentId request principal).assessment =
        some row ∧
      (service.Leaves env fails timers assessmentId request ∧
          row.status ∈ [AssessmentStatus.completed, .pendingReview, .failed] ∨
        ¬ service.Leaves env fails timers assessmentId request ∧ row.status = .processing) := by
  rcases exec_startAssessment env fails assessmentId request principal with
    ⟨w, hexec, hw⟩ | ⟨e, w, hexec, hne⟩
  swap
  · rw [hexec] at hstarted
    exact absurd hstarted hne
  unfold generatedTables generateAssessment AssessmentService.Leaves
  rw [Prog.exec_bind, hexec]
  dsimp only
  cases hroute : service.routeExecution request with
  | error e =>
    refine ⟨startedRow env assessmentId request principal, ?_, .inr ⟨?_, rfl⟩⟩
    · change w.db.committed.assessment = _
      rw [hw]
      rfl
    · rintro ⟨routing, h, -⟩
      cases h
  | ok routing =>
    rw [show Session.ofExcept (.ok routing) = (pure routing : Session _) from rfl, pure_bind]
    rw [show (env.failing fails).requestId = env.requestId from rfl]
    cases hgenerate : service.generate env.requestId timers assessmentId request routing with
    | error e =>
      obtain ⟨w', hexec', hdb⟩ := exec_persistFailure env (safeError e).errorCode
        (safeError e).publicMessage hwritable hw
      dsimp only
      rw [Prog.exec_bind, hexec']
      refine ⟨_, hdb, .inl ⟨⟨routing, rfl, fun c hc => ?_⟩, by simp [AssessmentRow.markFailed]⟩⟩
      cases hgenerate.symm.trans hc
    | ok c =>
      have hfinal := exec_finalizeCandidate service env fails assessmentId c hw
      dsimp only
      rw [Prog.exec_bind]
      by_cases hfinalizes : service.Finalizes env fails c
      · obtain ⟨row, w', hexec', hdb, hstatus⟩ := hfinal.1 hfinalizes
        rw [hexec']
        refine ⟨row, ?_, .inl ⟨⟨routing, rfl, fun c' hc' => ?_⟩, hstatus⟩⟩
        · dsimp only
          cases toResponse row <;> exact hdb
        · cases hgenerate.symm.trans hc'
          exact hfinalizes
      · obtain ⟨e, w', hexec', hdb⟩ := hfinal.2 hfinalizes
        rw [hexec']
        refine ⟨_, hdb, .inr ⟨?_, rfl⟩⟩
        rintro ⟨routing', hroute', hall⟩
        cases hroute'
        exact hfinalizes (hall c hgenerate)

/-- Suppose `generate_assessment` has committed `PROCESSING` and the database accepts a
failure write. When it returns or raises, the committed row has left `PROCESSING` if
and only if the router did not raise and a generated candidate could be finalized;
otherwise the row is still in `PROCESSING`. -/
theorem generate_assessment_leaves_processing (service : AssessmentService) (env : Env)
    (fails : DbStep → Option SQLAlchemyError) (timers : Timers) (assessmentId : UUID)
    (request : AssessmentRequest) (principal : Option AuthenticatedPrincipal)
    (hstarted : (Prog.exec (startAssessment (env.failing fails) assessmentId request principal)
      { db := .open {} }).2.db.committed.assessment.map (·.status) = some .processing)
    (hwritable : ∀ step ∈ [.persistFailure, .commitFailure], fails step = none) :
    ∃ row, (generatedTables service env fails timers assessmentId request principal).assessment =
        some row ∧
      (row.status ∈ [AssessmentStatus.completed, .pendingReview, .failed] ↔
        service.Leaves env fails timers assessmentId request) ∧
      (row.status = .processing ↔ ¬ service.Leaves env fails timers assessmentId request) := by
  obtain ⟨row, hrow, ⟨hleaves, hstatus⟩ | ⟨hleaves, hstatus⟩⟩ :=
    generatedTables_row service env fails timers assessmentId request principal hstarted hwritable
  · refine ⟨row, hrow, iff_of_true hstatus hleaves, iff_of_false ?_ (not_not.mpr hleaves)⟩
    rintro heq
    simp [heq] at hstatus
  · exact ⟨row, hrow, iff_of_false (by simp [hstatus]) hleaves, iff_of_true hstatus hleaves⟩

/-- A service whose generator always returns the same assessment. -/
def AssessmentService.constant : AssessmentService where
  generator _ := .ok Candidate.highRisk.result

/-- Without failing steps the row of the constant service leaves `PROCESSING`. -/
theorem generate_assessment_leaves_processing_constant :
    ∃ row, (generatedTables .constant (.ticking 0) (fun _ => none) ⟨1, 1⟩ 7 .minimal
        none).assessment = some row ∧
      row.status ∈ [AssessmentStatus.completed, .pendingReview, .failed] := by
  obtain ⟨row, hrow, hleaves, -⟩ := generate_assessment_leaves_processing .constant (.ticking 0)
    (fun _ => none) ⟨1, 1⟩ 7 .minimal none (by decide +kernel) (by simp)
  exact ⟨row, hrow, hleaves.mpr ⟨_, rfl, fun c _ => ⟨rfl, rfl⟩⟩⟩

/-- If only the last commit fails, the row stays in `PROCESSING`, although every failure
write would be accepted. -/
theorem generate_assessment_strands_processing :
    ¬ ∀ (service : AssessmentService) (env : Env) (fails : DbStep → Option SQLAlchemyError)
      (timers : Timers) (assessmentId : UUID) (request : AssessmentRequest)
      (principal : Option AuthenticatedPrincipal),
      (Prog.exec (startAssessment (env.failing fails) assessmentId request principal)
        { db := .open {} }).2.db.committed.assessment.map (·.status) = some .processing →
      (∀ step ∈ [.persistFailure, .commitFailure], fails step = none) →
      ∀ row, (generatedTables service env fails timers assessmentId request principal).assessment =
        some row → row.status ∈ [AssessmentStatus.completed, .pendingReview, .failed] := by
  intro hclaim
  let fails : DbStep → Option SQLAlchemyError := fun step =>
    if step = .commit then some .operational else none
  have hrow : (generatedTables .constant (.ticking 0) fails ⟨1, 1⟩ 7 .minimal none).assessment =
      some (startedRow (.ticking 0) 7 .minimal none) := by
    decide +kernel
  have hstatus := hclaim .constant (.ticking 0) fails ⟨1, 1⟩ 7 .minimal none (by decide +kernel)
    (by simp [fails]) _ hrow
  simp [startedRow] at hstatus

end AssessmentPlatform
