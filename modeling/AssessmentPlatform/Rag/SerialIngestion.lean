import AssessmentPlatform.Library.Replay
import AssessmentPlatform.Rag.Deduplication
import Mathlib.Logic.Function.Iterate

/-!
# A request on its own

Between the steps of a request of a single session no other request takes one. With
deduplication, the request then finds the earliest document with its content hash, adds the first
one, or fails and leaves the store. A look-up that has found a document finds it after every
further request, so that a request can be repeated without effect.
-/

namespace AssessmentPlatform

open Library

/-- The number of steps that a request still takes at most. -/
def IngestPhase.remaining : IngestPhase → ℕ
  | .idle => 5
  | .absent => 4
  | .created => 3
  | .embedded _ => 2
  | .found _ | .written _ => 1
  | .finished _ => 0

/-- A request needs at most five steps. -/
theorem IngestPhase.remaining_le (phase : IngestPhase) : phase.remaining ≤ 5 := by
  cases phase <;> simp [remaining]

/-- A request needs no step exactly if it has finished. -/
theorem IngestPhase.remaining_eq_zero {phase : IngestPhase} :
    phase.remaining = 0 ↔ ∃ outcome, phase = .finished outcome := by
  cases phase <;> simp [remaining]

/-- Every look-up that finds a document in the first store finds it in the second one. -/
def KnowledgeStore.Keeps (store store' : KnowledgeStore) : Prop :=
  ∀ contentHash document, store.findByContentHash contentHash = some document →
    store'.findByContentHash contentHash = some document

/-- A store whose look-ups have kept what they found. -/
def lookupGrowth : Growth KnowledgeStore where
  le := KnowledgeStore.Keeps
  same := Eq
  le_refl _ _ _ h := h
  le_trans h h' contentHash document hfound :=
    h' contentHash document (h contentHash document hfound)
  same_refl _ := rfl
  same_trans := Eq.trans
  le_same h hsame := hsame ▸ h

/-- No document is found exactly if none has the hash. -/
theorem KnowledgeStore.findByContentHash_eq_none {store : KnowledgeStore} {contentHash : Str} :
    store.findByContentHash contentHash = none ↔ store.withContentHash contentHash = [] := by
  unfold findByContentHash
  cases hdocuments : store.withContentHash contentHash with
  | nil => simp [earliestDocument]
  | cons document documents =>
    obtain ⟨earliest, -, hearliest⟩ := earliestDocument_cons document documents
    simp [hearliest]

/-- The first document with a content hash is found, and it hides no other one. -/
theorem KnowledgeStore.findByContentHash_concat (store : KnowledgeStore)
    (document : KnowledgeDocumentRecord) (chunks : List KnowledgeChunkRecord)
    (hnew : store.findByContentHash document.contentHash = none) :
    KnowledgeStore.findByContentHash { documents := store.documents ++ [document], chunks }
        document.contentHash = some document ∧
      store.Keeps { documents := store.documents ++ [document], chunks } := by
  have hempty := findByContentHash_eq_none.mp hnew
  unfold withContentHash at hempty
  constructor
  · simp [findByContentHash, withContentHash, List.filter_append, hempty, earliestDocument]
  · intro contentHash found hfound
    have hne : document.contentHash ≠ contentHash := by
      rintro rfl
      rw [hnew] at hfound
      cases hfound
    simpa [findByContentHash, withContentHash, List.filter_append, hne] using hfound

namespace KnowledgeIngestionService

variable {service : KnowledgeIngestionService} {call : IngestCall} {store : KnowledgeStore}

/-- The next step of a request with no other one in between. -/
def proceed (service : KnowledgeIngestionService) (call : IngestCall)
    (s : IngestPhase × KnowledgeStore) : IngestPhase × KnowledgeStore :=
  service.ingestStep call s.2 s.1

/-- What a request returns or raises from where it is. No request takes more than five steps. -/
def finish (service : KnowledgeIngestionService) (call : IngestCall)
    (s : IngestPhase × KnowledgeStore) :
    Except Failure KnowledgeIngestionResult × KnowledgeStore :=
  match (service.proceed call)^[5] s with
  | (.finished outcome, store) => (outcome, store)
  | (_, store) => (.error .other, store)

/-- `ingest`. -/
def ingest (service : KnowledgeIngestionService) (call : IngestCall) :
    Prog KnowledgeStore Failure KnowledgeIngestionResult :=
  fun store => service.finish call (.idle, store)

/-- A step leaves one step less. -/
theorem proceed_remaining (service : KnowledgeIngestionService) (call : IngestCall)
    (s : IngestPhase × KnowledgeStore) :
    (service.proceed call s).1.remaining ≤ s.1.remaining - 1 := by
  have hattempt : ∀ statement store next (n : ℕ), IngestPhase.remaining next.1 ≤ n →
      (attempt call statement store next).1.remaining ≤ n := by
    intro statement store next n hnext
    unfold attempt
    cases call.fault statement store with
    | some error => exact Nat.zero_le n
    | none => exact hnext
  obtain ⟨phase, store⟩ := s
  unfold proceed
  cases phase with
  | idle =>
    simp only [ingestStep]
    split_ifs
    · exact Nat.zero_le _
    · refine hattempt _ _ _ _ ?_
      cases store.findByContentHash (service.contentHash call) with
      | some existing => simp [IngestPhase.remaining]
      | none => exact le_rfl
    · exact le_rfl
  | created =>
    simp only [ingestStep]
    cases service.embedChunks call with
    | error failure => exact Nat.zero_le _
    | ok chunks => exact le_rfl
  | found existing | absent | embedded chunks | written chunks => exact hattempt _ _ _ _ le_rfl
  | finished outcome => exact le_rfl

/-- Some steps leave that many steps less. -/
theorem proceed_iterate_remaining (service : KnowledgeIngestionService) (call : IngestCall) (n : ℕ)
    (s : IngestPhase × KnowledgeStore) :
    ((service.proceed call)^[n] s).1.remaining ≤ s.1.remaining - n := by
  induction n generalizing s with
  | zero => exact le_rfl
  | succ n ih =>
    rw [Function.iterate_succ_apply]
    have hstep := proceed_remaining service call s
    have hrest := ih (service.proceed call s)
    omega

/-- Every request finishes. -/
theorem proceed_finishes (service : KnowledgeIngestionService) (call : IngestCall)
    (s : IngestPhase × KnowledgeStore) :
    ∃ outcome, ((service.proceed call)^[5] s).1 = .finished outcome := by
  refine IngestPhase.remaining_eq_zero.mp (Nat.le_zero.mp ?_)
  have hrest := proceed_iterate_remaining service call 5 s
  have hfive := s.1.remaining_le
  omega

/-- A finished request stays finished. -/
@[simp] theorem finish_finished (outcome : Except Failure KnowledgeIngestionResult) :
    service.finish call (.finished outcome, store) = (outcome, store) := by
  unfold finish
  rw [Function.iterate_fixed rfl]

/-- A step does not change what the request returns. -/
theorem finish_proceed (s : IngestPhase × KnowledgeStore) :
    service.finish call (service.proceed call s) = service.finish call s := by
  obtain ⟨outcome, houtcome⟩ := proceed_finishes service call s
  have hlast : service.proceed call ((service.proceed call)^[5] s) =
      (service.proceed call)^[5] s := by
    unfold proceed at houtcome ⊢
    rw [houtcome]
    exact Prod.ext houtcome.symm rfl
  unfold finish
  rw [← Function.iterate_succ_apply, Function.iterate_succ_apply', hlast]

/-- A statement fails, or the request goes on. -/
theorem finish_attempt {P : Except Failure KnowledgeIngestionResult × KnowledgeStore → Prop}
    {statement : IngestStep} {next : IngestPhase × KnowledgeStore}
    (hfailed : ∀ error, call.fault statement store = some error →
      P (.error (call.recover (.database error)), store))
    (hnext : P (service.finish call next)) :
    P (service.finish call (attempt call statement store next)) := by
  unfold attempt
  cases hfault : call.fault statement store with
  | some error =>
    rw [finish_finished]
    exact hfailed error hfault
  | none => exact hnext

/-- The ends of a request with deduplication. -/
inductive IngestEnd (service : KnowledgeIngestionService) (call : IngestCall)
    (store : KnowledgeStore) : Except Failure KnowledgeIngestionResult × KnowledgeStore → Prop
  | empty (htext : call.normalized = []) :
      IngestEnd service call store (.error (.application .emptyKnowledgeDocument), store)
  | refused {statement : IngestStep} {error : SQLAlchemyError}
      (hfault : call.fault statement store = some error) :
      IngestEnd service call store (.error (call.recover (.database error)), store)
  | duplicate {existing : KnowledgeDocumentRecord} (htext : call.normalized ≠ [])
      (hfound : store.findByContentHash (service.contentHash call) = some existing) :
      IngestEnd service call store
        (.ok
          { document := existing
            chunkCount := (store.listByDocument existing.documentId).length
            duplicate := true }, store)
  | unembedded {failure : Failure}
      (hnew : store.findByContentHash (service.contentHash call) = none)
      (hchunks : service.embedChunks call = .error failure) :
      IngestEnd service call store (.error (call.recover failure), store)
  | added {chunks : List EmbeddedChunk} (htext : call.normalized ≠ [])
      (hnew : store.findByContentHash (service.contentHash call) = none)
      (hchunks : service.embedChunks call = .ok chunks) :
      IngestEnd service call store
        (.ok { document := service.document call, chunkCount := chunks.length },
          { documents := store.documents ++ [service.document call]
            chunks := store.chunks ++ call.chunkRows chunks })

/-- A request that is served alone has come to one of its ends. -/
theorem ingest_end (service : KnowledgeIngestionService) (store : KnowledgeStore)
    (hdeduplicate : call.deduplicate = true) :
    IngestEnd service call store ((service.ingest call).exec store) := by
  have hstep : ∀ s, IngestEnd service call store (service.finish call (service.proceed call s)) →
      IngestEnd service call store (service.finish call s) := fun s h => finish_proceed s ▸ h
  refine hstep _ ?_
  unfold proceed
  simp only [ingestStep, hdeduplicate, if_true]
  by_cases htext : call.normalized = []
  · rw [if_pos htext, finish_finished]
    exact .empty htext
  rw [if_neg htext]
  refine finish_attempt (fun _ => .refused) ?_
  cases hfound : store.findByContentHash (service.contentHash call) with
  | some existing =>
    refine hstep _ (finish_attempt (fun _ => .refused) ?_)
    rw [finish_finished]
    exact .duplicate htext hfound
  | none =>
    refine hstep _ (finish_attempt (fun _ => .refused) (hstep _ ?_))
    unfold proceed
    simp only [ingestStep]
    cases hchunks : service.embedChunks call with
    | error failure =>
      rw [finish_finished]
      exact .unembedded hfound hchunks
    | ok chunks =>
      refine hstep _ (finish_attempt (fun _ => .refused) (hstep _ ?_))
      refine finish_attempt (fun _ => .refused) ?_
      rw [finish_finished]
      exact .added htext hfound hchunks

/-! ## A request again -/

/-- The exceptions of the statements that the database refuses. -/
def RefusedBy (call : IngestCall) (failure : Failure) : Prop :=
  ∃ statement store error, call.fault statement store = some error ∧
    failure = call.recover (.database error)

/-- A request has a content, and a look-up finds the document. -/
def Holds (service : KnowledgeIngestionService) (call : IngestCall)
    (document : KnowledgeDocumentRecord) (store : KnowledgeStore) : Prop :=
  call.normalized ≠ [] ∧ store.findByContentHash (service.contentHash call) = some document

/-- A request that returns has left its document in the store, which has one more document unless
the request reports a duplicate. -/
theorem ingest_returns (service : KnowledgeIngestionService) (call : IngestCall)
    (store : KnowledgeStore) (hdeduplicate : call.deduplicate = true) :
    Prog.Triple (· = store) (service.ingest call)
      (fun result store' => store.Keeps store' ∧ service.Holds call result.document store' ∧
        store'.documents.length + result.duplicate.toNat = store.documents.length + 1)
      (fun _ store' => store' = store) := by
  rintro store rfl
  have hend := ingest_end service store hdeduplicate
  generalize (service.ingest call).exec store = r at hend ⊢
  cases hend with
  | empty | refused | unembedded => rfl
  | duplicate htext hfound => exact ⟨lookupGrowth.le_refl store, ⟨htext, hfound⟩, rfl⟩
  | added htext hnew =>
    obtain ⟨hfound, hkeeps⟩ := store.findByContentHash_concat (service.document call) _ hnew
    exact ⟨hkeeps, ⟨htext, hfound⟩, by simp⟩

/-- A request whose document is in the store reports it, unless a statement is refused. -/
theorem ingest_again {document : KnowledgeDocumentRecord} (hdeduplicate : call.deduplicate = true)
    (hholds : service.Holds call document store) :
    Prog.Triple (· = store) (service.ingest call)
      (fun result store' => result.document = document ∧ store = store')
      (fun failure store' => RefusedBy call failure ∧ store = store') := by
  rintro store rfl
  obtain ⟨htext, hfound⟩ := hholds
  have hend := ingest_end service store hdeduplicate
  generalize (service.ingest call).exec store = r at hend ⊢
  cases hend with
  | empty hempty => exact absurd hempty htext
  | refused hfault => exact ⟨⟨_, _, _, hfault, rfl⟩, rfl⟩
  | duplicate _ hexisting =>
    rw [hexisting] at hfound
    cases hfound
    exact ⟨rfl, rfl⟩
  | unembedded hnew | added _ hnew =>
    rw [hnew] at hfound
    cases hfound

/-- Requests with one content find one document. -/
theorem ingest_replays (service : KnowledgeIngestionService) (call call' : IngestCall)
    (hdeduplicate : call.deduplicate = true)
    (hdeduplicate' : call'.deduplicate = true)
    (hcontent : call'.request.content = call.request.content) :
    Prog.Replays lookupGrowth (RefusedBy call') (fun result result' =>
        result'.document = result.document) (service.ingest call) (service.ingest call') := by
  have hholds : ∀ document store, service.Holds call document store →
      service.Holds call' document store := by
    intro document store h
    unfold Holds contentHash IngestCall.normalized at h ⊢
    rwa [hcontent]
  refine .of_established (fun result store => service.Holds call result.document store)
    (fun store => ?_) (fun _ _ _ hkeeps h => ⟨h.1, hkeeps _ _ h.2⟩)
    (fun result store h => ingest_again hdeduplicate' (hholds _ _ h))
  exact (ingest_returns service call store hdeduplicate).conseq (fun _ h => h)
    (fun _ _ h => ⟨h.1, h.2.1⟩) (fun _ _ _ => trivial)

end KnowledgeIngestionService

end AssessmentPlatform
