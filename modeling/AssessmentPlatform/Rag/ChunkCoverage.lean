import AssessmentPlatform.Rag.Chunking
import Mathlib.Data.List.Forall2

/-!
# What the chunks cover and how they advance

The chunks of a text cover everything visible in it, and they overlap only by what is read
again before a cut. Their offsets never fall. They need not rise: the overlap may reach back
over the first half of a window, and white space may fill the rest of it.
-/

namespace AssessmentPlatform

open Library

/-- Normalized text is empty or has no white space at its ends. -/
theorem normalizeText_cases (rawText : Str) :
    normalizeText rawText = [] ∨ Trimmed CodePoint.isSpace (normalizeText rawText) :=
  trim_cases _

/-- What `chunk_text` promises of its chunks. The last field names the window of each chunk
by the position where it begins. -/
structure Chunking (normalized : Str) (chunkSize overlap : ℕ) (chunks : List TextChunk) :
    Prop where
  index : ∀ (k : ℕ) (chunk : TextChunk), chunks[k]? = some chunk → chunk.index = k
  content : ∀ chunk ∈ chunks,
    chunk.content = slice normalized chunk.startOffset chunk.endOffset
  trimmed : ∀ chunk ∈ chunks, Trimmed CodePoint.isSpace chunk.content
  length_le : ∀ chunk ∈ chunks, chunk.content.length ≤ chunkSize
  covered : ∀ i, visible CodePoint.isSpace normalized i = true →
    ∃ chunk ∈ chunks, chunk.startOffset ≤ i ∧ i < chunk.endOffset
  reread : ∃ starts : List ℕ,
    List.Forall₂ (fun start chunk => TrimmedFrom normalized
      (start, windowEnd normalized chunkSize start) chunk) starts chunks ∧
    starts.Pairwise fun start start' =>
      start < start' ∧ windowEnd normalized chunkSize start ≤ start' + overlap
  eq_nil_iff : chunks = [] ↔ normalized = []

section Coverage

variable {normalized : Str} {chunkSize overlap : ℕ} {ws : List (ℕ × ℕ)} {chunks : List TextChunk}

/-- A window ends where it is cut. -/
theorem IsWindow.cut_eq {window : ℕ × ℕ} (h : IsWindow normalized chunkSize window) :
    windowEnd normalized chunkSize window.1 = window.2 :=
  Nat.le_antisymm ((windowEnd_cutAt normalized chunkSize window.1).mono (Nat.le_refl _) h.cut)
    (h.cut.mono (Nat.le_refl _) (windowEnd_cutAt normalized chunkSize window.1))

/-- Every visible position lies in a chunk. -/
theorem Windowed.covered (h : Windowed normalized chunkSize overlap ws chunks) {i : ℕ}
    (hvisible : visible CodePoint.isSpace normalized i = true) :
    ∃ chunk ∈ chunks, chunk.startOffset ≤ i ∧ i < chunk.endOffset := by
  obtain ⟨window, hwindow, hle, hlt⟩ := h.covers i hvisible
  obtain ⟨k, hk, rfl⟩ := List.mem_iff_getElem.mp hwindow
  refine ⟨windowChunk normalized k ws[k], ?_, ?_⟩
  · rw [h.chunks_eq, List.mem_mapIdx]
    exact ⟨k, hk, rfl⟩
  · exact ((h.isWindow _ hwindow).trimmedFrom (h.keeps _ hwindow) k).covers hle hlt hvisible

/-- The chunks are read again from the starts of their windows. -/
theorem Windowed.reread (h : Windowed normalized chunkSize overlap ws chunks) :
    ∃ starts : List ℕ,
      List.Forall₂ (fun start chunk => TrimmedFrom normalized
        (start, windowEnd normalized chunkSize start) chunk) starts chunks ∧
      starts.Pairwise fun start start' =>
        start < start' ∧ windowEnd normalized chunkSize start ≤ start' + overlap := by
  refine ⟨ws.map Prod.fst, ?_, ?_⟩
  · rw [List.forall₂_map_left_iff, h.chunks_eq, List.forall₂_iff_get]
    refine ⟨List.length_mapIdx.symm, fun k hk _ => ?_⟩
    have hwindow := h.isWindow _ (List.getElem_mem hk)
    simp only [List.get_eq_getElem, List.getElem_mapIdx]
    rw [hwindow.cut_eq]
    exact hwindow.trimmedFrom (h.keeps _ (List.getElem_mem hk)) k
  · rw [List.pairwise_map]
    refine h.follows.imp_of_mem fun hu _ hfollows => ?_
    rw [(h.isWindow _ hu).cut_eq]
    exact ⟨hfollows.start_lt, hfollows.cut_le_start⟩

/-- No chunk is longer than the configured size. -/
theorem Windowed.length_le (h : Windowed normalized chunkSize overlap ws chunks)
    {chunk : TextChunk} (hchunk : chunk ∈ chunks) : chunk.content.length ≤ chunkSize := by
  obtain ⟨window, -, hwindow, htrimmed⟩ := h.window_of_mem hchunk
  have hcut := hwindow.cut.le
  have hstart := htrimmed.start_le
  have hend := htrimmed.end_le
  rw [htrimmed.content, slice_length normalized _ (hend.trans hcut.2)]
  omega

/-- The chunks of a nonempty trimmed text. -/
theorem Windowed.chunking (h : Windowed normalized chunkSize overlap ws chunks)
    (hnormalized : Trimmed CodePoint.isSpace normalized) :
    Chunking normalized chunkSize overlap chunks where
  index k chunk hk := h.index hk
  content chunk hchunk := by
    obtain ⟨window, -, -, htrimmed⟩ := h.window_of_mem hchunk
    exact htrimmed.content
  trimmed chunk hchunk := by
    obtain ⟨window, -, -, htrimmed⟩ := h.window_of_mem hchunk
    exact htrimmed.trimmed
  length_le chunk hchunk := h.length_le hchunk
  covered i hvisible := h.covered hvisible
  reread := h.reread
  eq_nil_iff := by
    obtain ⟨chunk, hchunk, -⟩ := h.covered hnormalized.visible_first
    have hchunks : chunks ≠ [] := List.ne_nil_of_mem hchunk
    exact ⟨fun hnil => absurd hnil hchunks, fun hnil => absurd hnil hnormalized.ne_nil⟩

end Coverage

/-- The two outcomes of `chunk_text` for an accepted size and overlap. -/
theorem chunkText_cases (text : Str) {chunkSize overlap : ℤ} (hsize : 0 < chunkSize)
    (hoverlap : 0 ≤ overlap) (hlt : overlap < chunkSize) :
    (normalizeText text = [] ∧ chunkText text chunkSize overlap = .ok []) ∨
      Trimmed CodePoint.isSpace (normalizeText text) ∧ ∃ ws chunks,
        chunkText text chunkSize overlap = .ok chunks ∧
        Windowed (normalizeText text) chunkSize.toNat overlap.toNat ws chunks := by
  unfold chunkText
  rw [if_neg (by omega), if_neg (by omega)]
  by_cases hempty : normalizeText text = []
  · rw [if_pos hempty]
    exact .inl ⟨hempty, rfl⟩
  · rw [if_neg hempty]
    exact .inr ⟨(normalizeText_cases text).resolve_left hempty, _, _, rfl,
      chunkLoop_windowed _ _ (by omega)⟩

/-- For every text, every positive size and every overlap below it, `chunk_text` returns
chunks as promised. -/
theorem chunk_text_chunking (text : Str) {chunkSize overlap : ℤ} (hsize : 0 < chunkSize)
    (hoverlap : 0 ≤ overlap) (hlt : overlap < chunkSize) :
    ∃ chunks, chunkText text chunkSize overlap = .ok chunks ∧
      Chunking (normalizeText text) chunkSize.toNat overlap.toNat chunks := by
  rcases chunkText_cases text hsize hoverlap hlt with
    ⟨hempty, hchunks⟩ | ⟨htrimmed, ws, chunks, hchunks, hwindowed⟩
  · refine ⟨[], hchunks, ?_⟩
    rw [hempty]
    exact ⟨by simp, by simp, by simp, by simp, fun i hi => by simp [visible] at hi,
      ⟨[], .nil, .nil⟩, by simp⟩
  · exact ⟨chunks, hchunks, hwindowed.chunking htrimmed⟩

/-- Four words in chunks of at most seven characters. -/
theorem four_words_chunking :
    ∃ chunks, chunkText ("one two  three four" : String) 7 2 = .ok chunks ∧
      Chunking (normalizeText ("one two  three four" : String)) 7 2 chunks :=
  chunk_text_chunking _ (by decide) (by decide) (by decide)

/-! ## Advancing offsets -/

/-- Something is visible in every run of characters of the given length. -/
def Dense (normalized : Str) (run : ℕ) : Prop :=
  ∀ i, i + run ≤ normalized.length →
    ∃ j, i ≤ j ∧ j < i + run ∧ visible CodePoint.isSpace normalized j = true

instance (normalized : Str) (run : ℕ) : Decidable (Dense normalized run) :=
  decidable_of_iff (∀ i < normalized.length + 1, i + run ≤ normalized.length →
      ∃ j < i + run, i ≤ j ∧ visible CodePoint.isSpace normalized j = true) <| by
    constructor
    · intro h i hi
      obtain ⟨j, hlt, hle, hvisible⟩ := h i (by omega) hi
      exact ⟨j, hle, hlt, hvisible⟩
    · intro h i _ hi
      obtain ⟨j, hle, hlt, hvisible⟩ := h i hi
      exact ⟨j, hlt, hle, hvisible⟩

section Advance

variable {normalized : Str} {chunkSize overlap : ℕ} {u v : ℕ × ℕ} {c d : TextChunk}

/-- The offsets of a later window are not smaller. -/
theorem Follows.offsets_le (h : Follows normalized overlap u v)
    (hu : IsWindow normalized chunkSize u) (hc : TrimmedFrom normalized u c)
    (hd : TrimmedFrom normalized v d) :
    c.startOffset ≤ d.startOffset ∧ c.endOffset ≤ d.endOffset := by
  have hstart := h.start_lt
  have hcut := h.cut_le
  constructor
  · by_contra hlt
    have hge := hd.start_le
    cases (hc.before d.startOffset (by omega) (by omega)).symm.trans hd.visible_start
  · by_contra hlt
    have hle := hc.end_le
    cases (hd.after (c.endOffset - 1) (by omega) (by omega)).symm.trans (hc.visible_end hu)

/-- The offsets of a later window are greater if the overlap stays below half of the size
and something is visible in every run as long as the difference. -/
theorem Follows.offsets_lt (h : Follows normalized overlap u v)
    (hnormalized : Trimmed CodePoint.isSpace normalized) (hoverlap : overlap < chunkSize / 2)
    (hdense : Dense normalized (chunkSize / 2 - overlap))
    (hu : IsWindow normalized chunkSize u) (hv : IsWindow normalized chunkSize v)
    (hc : TrimmedFrom normalized u c) (hd : TrimmedFrom normalized v d) :
    c.startOffset < d.startOffset ∧ c.endOffset < d.endOffset := by
  have hcut := h.cut_lt
  have hhalf := hu.cut.ge hcut
  have hoverread := h.cut_le_start
  have hlength := hv.lt_length
  constructor
  · obtain ⟨j, hj, hj', hvisible⟩ := hdense u.1 (by omega)
    have hge := hd.start_le
    by_contra hlt
    cases (hc.before j hj (by omega)).symm.trans hvisible
  · have hle := hc.end_le
    by_contra hlt
    by_cases hlast : v.2 < normalized.length
    · have hhalf' := hv.cut.ge hlast
      obtain ⟨j, hj, hj', hvisible⟩ := hdense u.2 (by omega)
      cases (hd.after j (by omega) (by omega)).symm.trans hvisible
    · cases (hd.after (normalized.length - 1) (by omega) (by omega)).symm.trans
        hnormalized.visible_last

/-- Without an overlap the chunk of a later window begins where that of the earlier one has
ended, or later. -/
theorem Follows.offsets_lt_of_disjoint (h : Follows normalized 0 u v)
    (hc : TrimmedFrom normalized u c) (hd : TrimmedFrom normalized v d) :
    c.startOffset < d.startOffset ∧ c.endOffset < d.endOffset := by
  have hdisjoint : c.endOffset ≤ d.startOffset :=
    hc.end_le.trans (h.cut_le_start.trans hd.start_le)
  exact ⟨hc.lt.trans_le hdisjoint, hdisjoint.trans_lt hd.lt⟩

end Advance

/-- From each chunk to every later one the offsets never fall. Both rise if there is no overlap,
or if the overlap stays below half of the chunk size and something is visible in every run of
characters as long as the difference. -/
theorem chunk_offsets_advance (text : Str) {chunkSize overlap : ℤ} (hsize : 0 < chunkSize)
    (hoverlap : 0 ≤ overlap) (hlt : overlap < chunkSize) :
    ∃ chunks, chunkText text chunkSize overlap = .ok chunks ∧
      chunks.Pairwise (fun c d =>
        c.startOffset ≤ d.startOffset ∧ c.endOffset ≤ d.endOffset) ∧
      (overlap = 0 ∨ overlap < chunkSize / 2 ∧
          Dense (normalizeText text) (chunkSize / 2 - overlap).toNat →
        chunks.Pairwise fun c d =>
          c.startOffset < d.startOffset ∧ c.endOffset < d.endOffset) := by
  rcases chunkText_cases text hsize hoverlap hlt with
    ⟨-, hchunks⟩ | ⟨htrimmed, ws, chunks, hchunks, hwindowed⟩
  · exact ⟨[], hchunks, .nil, fun _ => .nil⟩
  · refine ⟨chunks, hchunks, ?_, ?_⟩
    · exact hwindowed.pairwise fun u v c d hu _ hfollows hc hd => hfollows.offsets_le hu hc hd
    rintro (rfl | ⟨hhalf, hdense⟩)
    · exact hwindowed.pairwise fun u v c d _ _ hfollows hc hd =>
        hfollows.offsets_lt_of_disjoint hc hd
    · have hhalf' : overlap.toNat < chunkSize.toNat / 2 := by omega
      rw [show (chunkSize / 2 - overlap).toNat = chunkSize.toNat / 2 - overlap.toNat by omega]
        at hdense
      exact hwindowed.pairwise fun u v c d hu hv hfollows hc hd =>
        hfollows.offsets_lt htrimmed hhalf' hdense hu hv hc hd

/-- The offsets of the chunks of four words rise with an overlap of one character. -/
theorem four_words_offsets_advance :
    ∃ chunks, chunkText ("one two three four" : String) 7 1 = .ok chunks ∧
      chunks.Pairwise fun c d =>
        c.startOffset < d.startOffset ∧ c.endOffset < d.endOffset := by
  obtain ⟨chunks, hchunks, -, hlt⟩ :=
    chunk_offsets_advance ("one two three four" : String) (show (0 : ℤ) < 7 by decide)
      (show (0 : ℤ) ≤ 1 by decide) (by decide)
  exact ⟨chunks, hchunks, hlt (.inr ⟨by decide, by decide +kernel⟩)⟩

/-- A word of 150 characters and one of 52. -/
def twoLongWords : Str :=
  List.replicate 150 97 ++ CodePoint.blank :: List.replicate 52 98

/-- The settings that accept the largest overlap for chunks of 200 characters. -/
def largestOverlap : Settings := { ragChunkSize := 200, ragChunkOverlap := 199 }

/-- The settings with the largest overlap are accepted. -/
theorem largestOverlap_accepted : largestOverlap.Accepted :=
  ⟨⟨by decide, by decide, by decide, by decide, by decide⟩, by decide, by decide⟩

/-- With the largest overlap three successive chunks of two long words end at the same
offset. -/
theorem chunk_offsets_stall :
    largestOverlap.Accepted ∧
      ∃ chunks, chunkText twoLongWords largestOverlap.ragChunkSize
          largestOverlap.ragChunkOverlap = .ok chunks ∧
        chunks.map (fun chunk => (chunk.startOffset, chunk.endOffset)) =
          [(0, 150), (1, 150), (2, 150), (3, 203)] ∧
        ¬ chunks.Pairwise fun c d =>
          c.startOffset < d.startOffset ∧ c.endOffset < d.endOffset := by
  refine ⟨largestOverlap_accepted, chunkLoop (normalizeText twoLongWords) 200 199 0 [], ?_, ?_, ?_⟩
  · unfold chunkText
    rw [if_neg (by decide), if_neg (by decide), if_neg (by decide +kernel)]
    rfl
  · decide +kernel
  · decide +kernel

end AssessmentPlatform
