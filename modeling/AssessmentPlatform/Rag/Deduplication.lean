import AssessmentPlatform.Library.FirstWriter
import AssessmentPlatform.Rag.Ingestion

/-!
# Deduplication of concurrent requests

Requests that ingest with deduplication look before they write. Their transactions are steps of
the general protocol, with content hashes as keys. The store gets at most one document for each
content hash exactly if no request commits a document whose hash has been committed since its
look-up, and the requests that a run serializes for each hash never do.
-/

namespace AssessmentPlatform

open Library

/-! ## The look-up -/

/-- Among some documents there is an earliest one. -/
theorem earliestDocument_cons (document : KnowledgeDocumentRecord)
    (documents : List KnowledgeDocumentRecord) :
    ∃ earliest ∈ document :: documents,
      earliestDocument (document :: documents) = some earliest := by
  have hsorted := List.perm_insertionSort KnowledgeDocumentRecord.precedes (document :: documents)
  unfold earliestDocument
  cases hlist : (document :: documents).insertionSort KnowledgeDocumentRecord.precedes with
  | nil =>
    rw [hlist] at hsorted
    exact absurd hsorted.symm.eq_nil (List.cons_ne_nil _ _)
  | cons earliest rest =>
    rw [hlist] at hsorted
    exact ⟨earliest, hsorted.mem_iff.mp List.mem_cons_self, rfl⟩

namespace KnowledgeIngestionService

variable {ι : Type}

/-- The protocol that the requests follow. -/
def protocol (service : KnowledgeIngestionService) (calls : ι → IngestCall) :
    FirstWriter ι Str KnowledgeDocumentRecord where
  key i := service.contentHash (calls i)
  keyOf := KnowledgeDocumentRecord.contentHash
  pick := earliestDocument
  pick_nil := rfl
  pick_cons := earliestDocument_cons

/-- What the protocol sees of a phase. -/
def protocolPhase : IngestPhase → FirstWriter.Phase KnowledgeDocumentRecord
  | .idle => .idle
  | .found existing => .lost existing
  | .absent | .created | .embedded _ | .written _ => .pending
  | .finished (.ok result) =>
    if result.duplicate then .lost result.document else .won result.document
  | .finished (.error _) => .failed

/-- What the protocol sees of a state. -/
def State.toSystem (s : State ι) : FirstWriter.System ι KnowledgeDocumentRecord where
  store := s.store.documents
  phase i := protocolPhase (s.phase i)

variable {service : KnowledgeIngestionService} {calls : ι → IngestCall} {s : State ι} {i : ι}

section Steps

variable [DecidableEq ι]

/-- A request that is not where it has won stops with an error, and the store stays. -/
theorem step_fail {failure : Failure} (hphase : ∀ d, protocolPhase (s.phase i) ≠ .won d) :
    (service.protocol calls).Step s.toSystem i
      { store := s.store.documents
        phase := Function.update s.toSystem.phase i
          (protocolPhase (.finished (.error failure))) } :=
  .giveUp hphase

/-- What the protocol sees of a state after a request has come further. -/
theorem toSystem_update (store : KnowledgeStore) (phase : IngestPhase) :
    State.toSystem { store, phase := Function.update s.phase i phase } =
      { store := store.documents
        phase := Function.update s.toSystem.phase i (protocolPhase phase) } := by
  unfold State.toSystem
  congr 1
  funext j
  by_cases hji : j = i
  · subst hji
    simp
  · simp [hji]

/-- A request that stays where the protocol sees it waits. -/
theorem step_wait {phase : IngestPhase} (hphase : protocolPhase phase = protocolPhase (s.phase i)) :
    (service.protocol calls).Step s.toSystem i
      { store := s.store.documents
        phase := Function.update s.toSystem.phase i (protocolPhase phase) } := by
  have hsame : Function.update s.toSystem.phase i (protocolPhase phase) = s.toSystem.phase := by
    rw [hphase]
    exact Function.update_eq_self i s.toSystem.phase
  rw [hsame]
  exact .wait

/-- Every step of a request with deduplication is a step of the protocol. -/
theorem advance_step (hdeduplicate : (calls i).deduplicate = true) :
    (service.protocol calls).Step s.toSystem i (service.advance calls s i).toSystem := by
  unfold advance
  dsimp only
  rw [toSystem_update]
  cases hphase : s.phase i with
  | idle =>
    have hidle : s.toSystem.phase i = .idle := by simp [State.toSystem, hphase, protocolPhase]
    have hfail : ∀ d, protocolPhase (s.phase i) ≠ .won d := by simp [hphase, protocolPhase]
    simp only [ingestStep, hdeduplicate, if_true]
    by_cases hempty : (calls i).normalized = []
    · rw [if_pos hempty]
      exact step_fail hfail
    · rw [if_neg hempty]
      unfold attempt
      cases hfault : (calls i).fault .findByContentHash s.store with
      | some error => exact step_fail hfail
      | none =>
        cases hfound : s.store.findByContentHash (service.contentHash (calls i)) with
        | some existing => exact .lose hidle hfound
        | none => exact .claim hidle hfound
  | found existing =>
    simp only [ingestStep, attempt]
    cases hfault : (calls i).fault .listByDocument s.store with
    | some error => exact step_fail (by simp [hphase, protocolPhase])
    | none => exact step_wait (by simp [hphase, protocolPhase])
  | absent =>
    simp only [ingestStep, attempt]
    cases hfault : (calls i).fault .create s.store with
    | some error => exact step_fail (by simp [hphase, protocolPhase])
    | none => exact step_wait (by simp [hphase, protocolPhase])
  | created =>
    simp only [ingestStep]
    cases hchunks : service.embedChunks (calls i) with
    | error failure => exact step_fail (by simp [hphase, protocolPhase])
    | ok chunks => exact step_wait (by simp [hphase, protocolPhase])
  | embedded chunks =>
    simp only [ingestStep, attempt]
    cases hfault : (calls i).fault .bulkCreate s.store with
    | some error => exact step_fail (by simp [hphase, protocolPhase])
    | none => exact step_wait (by simp [hphase, protocolPhase])
  | written chunks =>
    simp only [ingestStep, attempt]
    cases hfault : (calls i).fault .commit s.store with
    | some error => exact step_fail (by simp [hphase, protocolPhase])
    | none => exact .publish (by simp [State.toSystem, hphase, protocolPhase]) rfl
  | finished outcome => exact step_wait (by simp [hphase, ingestStep])

end Steps

/-! ## What holds in a run -/

/-- Deduplication in a state of a run: no two requests have ingested documents with the same
content hash, nor has one if the run began with such a document, and the requests that report
a duplicate report the document that a look-up still returns. -/
structure Deduplicated (service : KnowledgeIngestionService) (calls : ι → IngestCall)
    (initial : KnowledgeStore) (s : State ι) : Prop where
  ingested : ∀ i result, s.phase i = .finished (.ok result) → result.duplicate = false →
    initial.withContentHash (service.contentHash (calls i)) = [] ∧
    s.store.withContentHash (service.contentHash (calls i)) = [result.document] ∧
    ∀ j other, s.phase j = .finished (.ok other) → other.duplicate = false →
      service.contentHash (calls j) = service.contentHash (calls i) → j = i
  reported : ∀ i result, s.phase i = .finished (.ok result) → result.duplicate = true →
    s.store.findByContentHash (service.contentHash (calls i)) = some result.document
  unchanged : ∀ contentHash,
    (∀ i result, s.phase i = .finished (.ok result) → result.duplicate = false →
      service.contentHash (calls i) ≠ contentHash) →
    s.store.withContentHash contentHash = initial.withContentHash contentHash

/-- When the request commits, its look-up would still find nothing. -/
def CommitsTimely (service : KnowledgeIngestionService) (calls : ι → IngestCall) (s : State ι)
    (i : ι) : Prop :=
  ∀ chunks, s.phase i = .written chunks → (calls i).fault .commit s.store = none →
    s.store.findByContentHash (service.contentHash (calls i)) = none

/-- The request has looked without finding a document and has neither committed nor rolled
back. -/
def Pending (s : State ι) (i : ι) : Prop := protocolPhase (s.phase i) = .pending

/-- While the request looks, no other one with the same content hash is pending. -/
def Serialized (service : KnowledgeIngestionService) (calls : ι → IngestCall) (s : State ι)
    (i : ι) : Prop :=
  s.phase i = .idle → ∀ j, Pending s j →
    service.contentHash (calls j) ≠ service.contentHash (calls i)

/-- A request has won if it has returned a document that is no duplicate. -/
theorem protocolPhase_won {phase : IngestPhase} {document : KnowledgeDocumentRecord} :
    protocolPhase phase = .won document ↔
      ∃ result, phase = .finished (.ok result) ∧ result.duplicate = false ∧
        result.document = document := by
  cases phase with
  | finished outcome =>
    cases outcome with
    | error failure => simp [protocolPhase]
    | ok result => cases hduplicate : result.duplicate <;> simp [protocolPhase, hduplicate]
  | _ => simp [protocolPhase]

/-- A request is idle in the protocol exactly if it is. -/
theorem protocolPhase_idle {phase : IngestPhase} :
    protocolPhase phase = .idle ↔ phase = .idle := by
  cases phase with
  | finished outcome =>
    cases outcome with
    | error failure => simp [protocolPhase]
    | ok result => cases hduplicate : result.duplicate <;> simp [protocolPhase, hduplicate]
  | _ => simp [protocolPhase]

/-- Without disputes the documents are deduplicated. -/
theorem Deduplicated.of_undisputed {initial : KnowledgeStore}
    (h : (service.protocol calls).Undisputed initial.documents s.toSystem) :
    Deduplicated service calls initial s where
  ingested i result hi hnew := by
    obtain ⟨hinitial, hstore, hunique⟩ :=
      h.won i result.document (protocolPhase_won.mpr ⟨result, hi, hnew, rfl⟩)
    refine ⟨hinitial, hstore, fun j other hj hother hsame => ?_⟩
    exact hunique j other.document (protocolPhase_won.mpr ⟨other, hj, hother, rfl⟩) hsame
  reported i result hi hduplicate :=
    h.lost i result.document (by simp [State.toSystem, hi, protocolPhase, hduplicate])
  unchanged contentHash hnone := by
    refine h.unchanged contentHash fun i document hi => ?_
    obtain ⟨result, hresult, hnew, -⟩ := protocolPhase_won.mp hi
    exact hnone i result hresult hnew

/-- If the run began without a document with a content hash, the store has at most one. -/
theorem Deduplicated.length_le {initial : KnowledgeStore} {contentHash : Str}
    (h : Deduplicated service calls initial s)
    (hinitial : initial.withContentHash contentHash = []) :
    (s.store.withContentHash contentHash).length ≤ 1 := by
  by_cases hnone : ∀ i result, s.phase i = .finished (.ok result) → result.duplicate = false →
      service.contentHash (calls i) ≠ contentHash
  · rw [h.unchanged contentHash hnone, hinitial]
    simp
  · push Not at hnone
    obtain ⟨i, result, hi, hnew, rfl⟩ := hnone
    rw [(h.ingested i result hi hnew).2.1]
    simp

section Runs

variable [DecidableEq ι] {initial : KnowledgeStore} {schedule : List ι}

omit [DecidableEq ι] in
/-- A statement before the commit leaves the committed rows. -/
theorem attempt_store {call : IngestCall} {statement : IngestStep} {store : KnowledgeStore}
    {next : IngestPhase × KnowledgeStore} (h : next.2 = store) :
    (attempt call statement store next).2 = store := by
  unfold attempt
  cases call.fault statement store with
  | some error => rfl
  | none => exact h

/-- Only a commit changes the committed rows. -/
theorem commits_of_store_ne (h : (service.advance calls s i).store ≠ s.store) :
    ∃ chunks, s.phase i = .written chunks ∧ (calls i).fault .commit s.store = none := by
  unfold advance at h
  dsimp only at h
  cases hphase : s.phase i with
  | written chunks =>
    refine ⟨chunks, rfl, ?_⟩
    cases hfault : (calls i).fault .commit s.store with
    | none => rfl
    | some error => simp [hphase, ingestStep, attempt, hfault] at h
  | idle =>
    refine absurd ?_ h
    rw [hphase]
    simp only [ingestStep]
    split
    · rfl
    · split
      · refine attempt_store ?_
        split
        · rfl
        · rfl
      · rfl
  | created =>
    refine absurd ?_ h
    rw [hphase]
    simp only [ingestStep]
    split
    · rfl
    · rfl
  | found existing | absent | embedded chunks =>
    refine absurd ?_ h
    rw [hphase]
    exact attempt_store rfl
  | finished outcome =>
    refine absurd ?_ h
    rw [hphase]
    rfl

/-- A step commits in time exactly if the protocol publishes in time. -/
theorem timely_iff :
    (service.protocol calls).Timely s.toSystem i (service.advance calls s i).toSystem ↔
      CommitsTimely service calls s i := by
  constructor
  · intro htimely chunks hphase hfault
    refine htimely ?_
    simp [advance, State.toSystem, hphase, ingestStep, attempt, hfault]
  · intro htimely hstore
    obtain ⟨chunks, hphase, hfault⟩ := commits_of_store_ne fun hsame =>
      hstore (congrArg KnowledgeStore.documents hsame)
    exact htimely chunks hphase hfault

/-- The last request advances last. -/
theorem run_concat (done : List ι) :
    service.run calls initial (done ++ [i]) =
      service.advance calls (service.run calls initial done) i := by
  simp [run, List.foldl_append]

/-- A run with deduplication takes steps of the protocol. -/
theorem run_step (hdeduplicate : ∀ i, (calls i).deduplicate = true) (done : List ι) (i : ι) :
    (service.protocol calls).Step (service.run calls initial done).toSystem i
      (service.run calls initial (done ++ [i])).toSystem := by
  rw [run_concat]
  exact advance_step (hdeduplicate i)

/-- The last step of a run commits in time exactly if the protocol publishes in time. -/
theorem run_timely_iff {done : List ι} :
    (service.protocol calls).Timely (service.run calls initial done).toSystem i
        (service.run calls initial (done ++ [i])).toSystem ↔
      CommitsTimely service calls (service.run calls initial done) i := by
  rw [run_concat]
  exact timely_iff

/-- A run in which every commit is timely stays deduplicated. -/
theorem deduplicated_of_timely (hdeduplicate : ∀ i, (calls i).deduplicate = true)
    (htimely : ∀ done i, done ++ [i] <+: schedule →
      CommitsTimely service calls (service.run calls initial done) i) :
    ∀ done, done <+: schedule →
      Deduplicated service calls initial (service.run calls initial done) := by
  intro done hdone
  refine .of_undisputed (FirstWriter.undisputed_of_timely
    (fun done => (service.run calls initial done).toSystem) rfl ?_ ?_ done hdone)
  · exact fun done i _ => run_step hdeduplicate done i
  · exact fun done i hdone => run_timely_iff.mpr (htimely done i hdone)

/-- Requests that a run serializes for each content hash commit in time. -/
theorem timely_of_serialized (hdeduplicate : ∀ i, (calls i).deduplicate = true)
    (hserialized : ∀ done i, done ++ [i] <+: schedule →
      Serialized service calls (service.run calls initial done) i) :
    ∀ done i, done ++ [i] <+: schedule →
      CommitsTimely service calls (service.run calls initial done) i := by
  intro done i hdone
  refine run_timely_iff.mp (FirstWriter.timely_of_unrivalled (P := service.protocol calls)
    (fun done => (service.run calls initial done).toSystem) rfl ?_ ?_ done i hdone)
  · exact fun done i _ => run_step hdeduplicate done i
  · intro done i hdone hidle
    exact hserialized done i hdone (protocolPhase_idle.mp hidle)

/-- Requests that a run serializes for each content hash are deduplicated. -/
theorem serialized_requests_deduplicated (hdeduplicate : ∀ i, (calls i).deduplicate = true)
    (hserialized : ∀ done i, done ++ [i] <+: schedule →
      Serialized service calls (service.run calls initial done) i) :
    ∀ done, done <+: schedule →
      Deduplicated service calls initial (service.run calls initial done) :=
  deduplicated_of_timely hdeduplicate (timely_of_serialized hdeduplicate hserialized)

/-- For requests with deduplication, any store and any schedule: every state of the run is
deduplicated exactly if every commit is timely. -/
theorem deduplicated_iff_timely (service : KnowledgeIngestionService) (calls : ι → IngestCall)
    (hdeduplicate : ∀ i, (calls i).deduplicate = true) (initial : KnowledgeStore)
    (schedule : List ι) :
    (∀ done, done <+: schedule →
      Deduplicated service calls initial (service.run calls initial done)) ↔
    ∀ done i, done ++ [i] <+: schedule →
      CommitsTimely service calls (service.run calls initial done) i := by
  constructor
  · intro h done i hdone
    refine run_timely_iff.mp (FirstWriter.timely_of_unique (P := service.protocol calls)
      (fun done => (service.run calls initial done).toSystem) rfl ?_ ?_ done i hdone)
    · exact fun done i _ => run_step hdeduplicate done i
    · intro done hdone i j document other hi hj hsame
      obtain ⟨result, hresult, hnew, -⟩ := protocolPhase_won.mp hi
      obtain ⟨result', hresult', hnew', -⟩ := protocolPhase_won.mp hj
      exact ((h done hdone).ingested i result hresult hnew).2.2 j result' hresult' hnew' hsame
  · exact deduplicated_of_timely hdeduplicate

end Runs

/-- The service with its default settings; the digest is that of the text `policy`. -/
def policyService : KnowledgeIngestionService where
  sha256 _ := "823412d1eacb67956220e532959f0104603057c88704863ca38e7cd188fda812"
  chunkSize := 1200
  chunkOverlap := 200

/-- Two uploads of one text. -/
def policyUploads (second : Bool) : IngestCall where
  request :=
    { title := "Policy"
      content := "policy"
      title_accepted := by decide +kernel
      content_accepted := by decide +kernel }
  deduplicate := true
  documentId := if second then 2 else 1
  chunkId _ := if second then 20 else 10
  createdAt := if second then 200 else 100
  embedTexts texts := .ok (texts.map fun _ => List.replicate 1536 1)

/-- The second upload looks before the first one commits. -/
def overlappingUploads : List Bool :=
  [false, true, false, false, false, false, true, true, true, true]

/-- The second upload begins after the first one has committed. -/
def consecutiveUploads : List Bool :=
  [false, false, false, false, false, true, true]

/-- Two uploads that overlap both ingest the text. -/
theorem overlapping_uploads_duplicate :
    (∀ i, (policyUploads i).deduplicate = true) ∧
    ((policyService.run policyUploads {} overlappingUploads).store.withContentHash
      (policyService.contentHash (policyUploads false))).length = 2 ∧
    ¬ Deduplicated policyService policyUploads {}
      (policyService.run policyUploads {} overlappingUploads) := by
  have htwo : ((policyService.run policyUploads {} overlappingUploads).store.withContentHash
      (policyService.contentHash (policyUploads false))).length = 2 := by decide +kernel
  refine ⟨fun i => rfl, htwo, fun h => ?_⟩
  have hone := h.length_le (show KnowledgeStore.withContentHash {}
    (policyService.contentHash (policyUploads false)) = [] from rfl)
  omega

/-- Whether a commit is timely can be seen from the phase of the request. -/
instance (s : State Bool) (i : Bool) : Decidable (CommitsTimely policyService policyUploads s i) :=
  match hphase : s.phase i with
  | .written chunks =>
    decidable_of_iff ((policyUploads i).fault .commit s.store = none →
        s.store.findByContentHash (policyService.contentHash (policyUploads i)) = none)
      ⟨fun h _ _ => h, fun h => h chunks hphase⟩
  | .idle | .found _ | .absent | .created | .embedded _ | .finished _ =>
    isTrue fun _ hwritten => nomatch hphase.symm.trans hwritten

/-- Two consecutive uploads of one text are deduplicated in every state of their run. -/
theorem consecutive_uploads_deduplicated :
    (∀ i, (policyUploads i).deduplicate = true) ∧
      ∀ done, done <+: consecutiveUploads →
        Deduplicated policyService policyUploads {}
          (policyService.run policyUploads {} done) := by
  have htimely : ∀ k : Fin consecutiveUploads.length,
      CommitsTimely policyService policyUploads
        (policyService.run policyUploads {} (consecutiveUploads.take k)) consecutiveUploads[k] := by
    decide +kernel
  refine ⟨fun _ => rfl, (deduplicated_iff_timely policyService policyUploads (fun _ => rfl) {}
    consecutiveUploads).mpr fun done i hprefix => ?_⟩
  obtain ⟨rest, hrest⟩ := hprefix
  have hlt : done.length < consecutiveUploads.length := by
    rw [← hrest]
    simp
  have hdone : consecutiveUploads.take done.length = done := by
    rw [← hrest, List.append_assoc, List.take_left]
  have hitem : consecutiveUploads[done.length] = i := by
    simp [← hrest]
  simpa only [hdone, Fin.getElem_fin, hitem] using htimely ⟨done.length, hlt⟩

end KnowledgeIngestionService

end AssessmentPlatform
