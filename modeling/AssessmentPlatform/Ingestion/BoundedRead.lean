import AssessmentPlatform.Core.Exceptions
import AssessmentPlatform.Library.Streams

/-!
# Reading an upload

`_read_bounded` reads an upload in pieces. Each read asks for at most one byte more than the limit
leaves, so that one byte too many is seen and no second one is read.
-/

namespace AssessmentPlatform

open Library

/-- `READ_SIZE`. -/
def readSize : ℕ := 64 * 1024

/-- The limit of the service; the settings accept from one to a hundred mebibytes. -/
structure FileIngestionService where
  maxUploadSizeBytes : ℕ

/-- The state of the loop of `_read_bounded`. -/
structure ReadState (σ : Type) where
  upload : σ
  total : ℕ := 0
  chunks : List (List UInt8) := []

namespace FileIngestionService

variable {σ : Type}

/-- The number of bytes that the next read asks for. -/
def requested (service : FileIngestionService) (s : ReadState σ) : ℕ :=
  let remaining := service.maxUploadSizeBytes - s.total
  min readSize (remaining + 1)

/-- One read in the loop of `_read_bounded`. -/
def readStep (service : FileIngestionService) (source : Source UInt8 σ) (s : ReadState σ) :
    ReadState σ ⊕ Except Failure (List UInt8) :=
  let (chunk, upload) := source.read s.upload (service.requested s)
  if chunk = [] then .inr (.ok s.chunks.flatten)
  else
    let total := s.total + chunk.length
    if service.maxUploadSizeBytes < total then .inr (.error (.application .fileTooLarge))
    else .inl { upload, total, chunks := s.chunks ++ [chunk] }

/-- `_read_bounded`, if it takes at most so many reads. -/
def readBounded (service : FileIngestionService) (source : Source UInt8 σ) (upload : σ)
    (reads : ℕ) : Option (Except Failure (List UInt8)) :=
  loop (service.readStep source) reads { upload }

/-- What `_read_bounded` is for. -/
def boundedContent (service : FileIngestionService) (content : List UInt8) :
    Except Failure (List UInt8) :=
  if content.length ≤ service.maxUploadSizeBytes then .ok content
  else .error (.application .fileTooLarge)

/-- The loop has read a part of the content that is within the limit. -/
structure HasRead (service : FileIngestionService) (source : Source UInt8 σ)
    (content : List UInt8) (s : ReadState σ) : Prop where
  total_le : s.total ≤ service.maxUploadSizeBytes
  total_eq : s.chunks.flatten.length = s.total
  content_eq : content = s.chunks.flatten ++ source.unread s.upload

/-- A read neither asks for a byte behind the first one that is too many, nor does it get one. -/
structure WithinBudget (service : FileIngestionService) (source : Source UInt8 σ)
    (s : ReadState σ) : Prop where
  positive : 0 < service.requested s
  requested : s.total + service.requested s ≤ service.maxUploadSizeBytes + 1
  accumulated : s.chunks.flatten.length +
    (source.read s.upload (service.requested s)).1.length ≤ service.maxUploadSizeBytes + 1

section Steps

variable {service : FileIngestionService} {source : Source UInt8 σ} {content : List UInt8}
  {s : ReadState σ}

/-- Every read asks for something. -/
theorem requested_pos (service : FileIngestionService) (s : ReadState σ) :
    0 < service.requested s := by
  simp only [requested, readSize]
  omega

/-- A read stays within the budget. -/
theorem HasRead.withinBudget (h : service.HasRead source content s) :
    service.WithinBudget source s := by
  have htotal := h.total_le
  have hlength := source.length_le s.upload (service.requested s)
  have hrequested : s.total + service.requested s ≤ service.maxUploadSizeBytes + 1 := by
    simp only [FileIngestionService.requested]
    omega
  refine ⟨requested_pos service s, hrequested, ?_⟩
  rw [h.total_eq]
  omega

/-- The bytes that are still to be read, as far as the limit leaves any. -/
def readsLeft (service : FileIngestionService) (source : Source UInt8 σ) (s : ReadState σ) : ℕ :=
  min (source.unread s.upload).length (service.maxUploadSizeBytes - s.total)

/-- A read that the loop goes on from. -/
theorem HasRead.step (h : service.HasRead source content s) {s' : ReadState σ}
    (hstep : service.readStep source s = .inl s') :
    service.HasRead source content s' ∧
      service.readsLeft source s' < service.readsLeft source s := by
  have hunread := source.unread_eq s.upload (service.requested s)
  unfold readStep at hstep
  rcases hread : source.read s.upload (service.requested s) with ⟨chunk, upload⟩
  rw [hread] at hunread hstep
  dsimp only at hunread hstep
  split at hstep
  · cases hstep
  split at hstep
  · cases hstep
  rename_i hchunk hlimit
  cases hstep
  have hpos := List.length_pos_iff.mpr hchunk
  have hlengths := congrArg List.length hunread
  rw [List.length_append] at hlengths
  refine ⟨⟨Nat.not_lt.mp hlimit, ?_, ?_⟩, ?_⟩
  · simp [h.total_eq]
  · rw [h.content_eq, hunread]
    simp
  · simp only [readsLeft]
    omega

/-- The last read. -/
theorem HasRead.result (h : service.HasRead source content s)
    {result : Except Failure (List UInt8)} (hstep : service.readStep source s = .inr result) :
    result = service.boundedContent content := by
  have hunread := source.unread_eq s.upload (service.requested s)
  have hend := source.unread_eq_nil (s := s.upload) (requested_pos service s)
  have hlength := congrArg List.length h.content_eq
  have htotal := h.total_eq
  unfold readStep at hstep
  unfold boundedContent
  rcases hread : source.read s.upload (service.requested s) with ⟨chunk, upload⟩
  rw [hread] at hunread hend hstep
  dsimp only at hunread hend hstep
  split at hstep
  · rename_i hchunk
    cases hstep
    rw [hend hchunk, List.append_nil] at hlength
    have hle := h.total_le
    rw [if_pos (by omega), h.content_eq, hend hchunk, List.append_nil]
  · split at hstep
    · rename_i hlimit
      cases hstep
      rw [hunread, List.length_append, List.length_append] at hlength
      rw [if_neg (by omega)]
    · cases hstep

end Steps

/-- For every upload and every pattern of short reads, `_read_bounded` ends after at most one read
more than it has bytes within the limit, and returns exactly these bytes or raises
`FileTooLargeError`; and every read is within the limit and one byte. -/
theorem read_bounded_exact (service : FileIngestionService) (source : Source UInt8 σ) (upload : σ) :
    (∀ reads, min (source.unread upload).length service.maxUploadSizeBytes < reads →
      service.readBounded source upload reads =
        some (service.boundedContent (source.unread upload))) ∧
    ∀ s, Visits (service.readStep source) { upload } s → service.WithinBudget source s := by
  have hinit : service.HasRead source (source.unread upload) { upload } :=
    ⟨Nat.zero_le _, rfl, rfl⟩
  constructor
  · intro reads hreads
    obtain ⟨result, hresult, rfl⟩ := loop_ends (service.readsLeft source)
      (fun s s' h hstep => h.step hstep) (fun s result h hstep => h.result hstep) hinit hreads
    exact hresult
  · intro s hs
    have hread := hs.invariant hinit fun s s' h hstep => (h.step hstep).1
    exact hread.withinBudget

/-- Three bytes are the limit, and a fourth one is too many. -/
example : ∀ pattern ∈ [0, 1, 7], ∀ length ∈ List.range 6,
    FileIngestionService.readBounded ⟨3⟩ (.fragments fun _ => pattern) (0, List.replicate length 1)
      4 = some (FileIngestionService.boundedContent ⟨3⟩ (List.replicate length 1)) := by
  decide

end FileIngestionService

end AssessmentPlatform
