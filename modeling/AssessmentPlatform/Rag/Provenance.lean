import AssessmentPlatform.Library.Program
import AssessmentPlatform.Rag.ChunkCoverage
import AssessmentPlatform.Rag.Normalization
import Mathlib.Data.List.Dedup
import Mathlib.Data.List.Sort

/-!
# Provenance of chunks

A parser returns the segments of a document, its pages or its blocks, and the text of the
document is the texts of the segments with blank lines between them. Ingestion finds the
normalized segments in the normalized document again, and records for each chunk the pages
and the headings of the segments that it overlaps.
-/

namespace AssessmentPlatform

open Library

/-! ## The source -/

/-- The metadata of a segment that `ingest_upload` supplies. -/
structure SegmentMetadata where
  pageNumber : Option ℤ := none
  sectionHeading : Option Str := none
  deriving DecidableEq

/-- Parser-provided source block used only to attribute generated chunks. -/
structure KnowledgeSourceSegment where
  text : Str
  metadata : SegmentMetadata

/-- A located segment. -/
structure ProvenanceSpan where
  start : ℕ
  stop : ℕ
  metadata : SegmentMetadata

/-- `_build_provenance_spans`, from a cursor on. -/
def provenanceSpansFrom (normalized : Str) :
    ℕ → List KnowledgeSourceSegment → List ProvenanceSpan
  | _, [] => []
  | cursor, segment :: rest =>
    let segmentText := normalizeText segment.text
    if segmentText = [] then provenanceSpansFrom normalized cursor rest
    else
      match find segmentText normalized cursor with
      | none => provenanceSpansFrom normalized cursor rest
      | some start =>
        ⟨start, start + segmentText.length, segment.metadata⟩ ::
          provenanceSpansFrom normalized (start + segmentText.length) rest

/-- `_build_provenance_spans`. -/
def buildProvenanceSpans (normalized : Str) (sourceSegments : List KnowledgeSourceSegment) :
    List ProvenanceSpan :=
  provenanceSpansFrom normalized 0 sourceSegments

/-- The provenance fields of a chunk; a field without entries is not recorded. -/
structure ChunkProvenance where
  sourcePages : Option (List ℤ) := none
  sourcePageStart : Option ℤ := none
  sourcePageEnd : Option ℤ := none
  sourceSections : Option (List Str) := none

/-- The heading of a segment, if it is neither missing nor empty. -/
def SegmentMetadata.heading (metadata : SegmentMetadata) : Option Str :=
  metadata.sectionHeading.filter fun section_ => section_ ≠ []

/-- `_chunk_provenance`. -/
def chunkProvenance (chunkStart chunkEnd : ℕ) (spans : List ProvenanceSpan) : ChunkProvenance :=
  let overlapping := (spans.filter fun span =>
    decide (chunkStart < span.stop ∧ span.start < chunkEnd)).map ProvenanceSpan.metadata
  let pages := (overlapping.filterMap SegmentMetadata.pageNumber).dedup.insertionSort (· ≤ ·)
  let sections := (overlapping.filterMap SegmentMetadata.heading).eraseDups
  { sourcePages := if pages = [] then none else some pages
    sourcePageStart := pages.head?
    sourcePageEnd := pages.getLast?
    sourceSections := if sections = [] then none else some sections }

/-- The text of a parsed document. -/
def documentText (segments : List KnowledgeSourceSegment) : Str :=
  Str.join [CodePoint.lf, CodePoint.lf] (segments.map KnowledgeSourceSegment.text)

/-! ## Locating the segments -/

/-- The segments with text other than white space. -/
def nonBlankSegments (segments : List KnowledgeSourceSegment) : List KnowledgeSourceSegment :=
  segments.filter fun segment => Str.strip segment.text ≠ []

/-- The spans of the segments of a document: every segment that is not blank has one, the
spans are in order and disjoint, and outside of them there is only white space. -/
structure Located (normalized : Str) (cursor : ℕ) (segments : List KnowledgeSourceSegment)
    (spans : List ProvenanceSpan) : Prop where
  found : List.Forall₂ (fun segment span =>
      slice normalized span.start span.stop = normalizeText segment.text ∧
        span.metadata = segment.metadata) (nonBlankSegments segments) spans
  bounds : ∀ span ∈ spans, cursor ≤ span.start ∧ span.start < span.stop ∧
    span.stop ≤ normalized.length
  ordered : spans.Pairwise fun a b => a.stop ≤ b.start
  outside : ∀ i, cursor ≤ i → visible CodePoint.isSpace normalized i = true →
    ∃ span ∈ spans, span.start ≤ i ∧ i < span.stop

/-- A text is normalized to nothing exactly if it is stripped to nothing. -/
theorem normalizeText_eq_nil_iff_strip (s : Str) : normalizeText s = [] ↔ Str.strip s = [] :=
  (normalizeText_eq_nil_iff s).trans trim_eq_nil_iff.symm

/-- The normalized texts of the segments that are not blank. -/
def segmentTexts (segments : List KnowledgeSourceSegment) : List Str :=
  (nonBlankSegments segments).map fun segment => normalizeText segment.text

/-- A blank segment is skipped. -/
theorem nonBlankSegments_blank {segment : KnowledgeSourceSegment}
    (h : normalizeText segment.text = []) (rest : List KnowledgeSourceSegment) :
    nonBlankSegments (segment :: rest) = nonBlankSegments rest :=
  List.filter_cons_of_neg (by simp [(normalizeText_eq_nil_iff_strip _).mp h])

/-- A segment that shows something is kept. -/
theorem nonBlankSegments_visible {segment : KnowledgeSourceSegment}
    (h : normalizeText segment.text ≠ []) (rest : List KnowledgeSourceSegment) :
    nonBlankSegments (segment :: rest) = segment :: nonBlankSegments rest :=
  List.filter_cons_of_pos (by simp [mt (normalizeText_eq_nil_iff_strip _).mpr h])

/-- The first segment of a document and the other ones are normalized independently. -/
theorem normalizeText_documentText_cons (segment : KnowledgeSourceSegment)
    (rest : List KnowledgeSourceSegment) :
    ∃ g, Blank CodePoint.isSpace g ∧ normalizeText (documentText (segment :: rest)) =
      normalizeText segment.text ++ g ++ normalizeText (documentText rest) := by
  by_cases hrest : rest = []
  · subst hrest
    refine ⟨[], Blank.nil, ?_⟩
    rw [List.append_nil, show normalizeText (documentText []) = [] from rfl, List.append_nil,
      documentText, List.map_singleton, Str.join, List.intercalate_singleton]
  · obtain ⟨g, hg, heq⟩ := normalizeText_append segment.text (documentText rest)
    refine ⟨g, hg, heq ▸ congrArg normalizeText ?_⟩
    rw [documentText, List.map_cons, Str.join,
      List.intercalate_cons_of_ne_nil (by simp [hrest]), List.append_assoc]
    rfl

/-- The segments of a document are laid out in its normalized text. -/
theorem laidOut_documentText (segments : List KnowledgeSourceSegment) :
    LaidOut CodePoint.isSpace (segmentTexts segments)
      (normalizeText (documentText segments)) := by
  induction segments with
  | nil => exact .nil Blank.nil
  | cons segment rest ih =>
    obtain ⟨g, hg, heq⟩ := normalizeText_documentText_cons segment rest
    rw [heq]
    unfold segmentTexts at ih ⊢
    rcases normalizeText_cases segment.text with hblank | hvisible
    · rw [hblank, List.nil_append, nonBlankSegments_blank hblank]
      exact ih.behind_gap hg
    · rw [nonBlankSegments_visible hvisible.ne_nil, List.map_cons, List.append_assoc]
      have hlaid := LaidOut.cons Blank.nil hvisible (ih.behind_gap hg)
      exact hlaid

/-- A segment is found behind the white space in front of it. -/
theorem find_behind {before gap segmentText rest : Str} (hgap : Blank CodePoint.isSpace gap)
    (hsegment : Trimmed CodePoint.isSpace segmentText) :
    find segmentText (before ++ (gap ++ segmentText ++ rest)) before.length =
      some (before.length + gap.length) := by
  obtain ⟨c, tail, hcons, hc⟩ := hsegment.head
  rw [find, List.drop_left, findIn_behind hgap hcons hc]
  rfl

/-- One more segment in front of located ones, behind white space. -/
theorem Located.cons {normalized : Str} {cursor : ℕ} {rest : List KnowledgeSourceSegment}
    {spans : List ProvenanceSpan} {segment : KnowledgeSourceSegment} {span : ProvenanceSpan}
    (h : Located normalized span.stop rest spans) (hvisible : normalizeText segment.text ≠ [])
    (hslice : slice normalized span.start span.stop = normalizeText segment.text)
    (hmetadata : span.metadata = segment.metadata) (hcursor : cursor ≤ span.start)
    (hstop : span.stop ≤ normalized.length)
    (hgap : ∀ i, cursor ≤ i → i < span.start → visible CodePoint.isSpace normalized i = false) :
    Located normalized cursor (segment :: rest) (span :: spans) where
  found := by
    rw [nonBlankSegments_visible hvisible]
    exact .cons ⟨hslice, hmetadata⟩ h.found
  bounds := by
    have hpos := List.length_pos_of_ne_nil hvisible
    rw [← hslice, slice_length normalized _ hstop] at hpos
    refine List.forall_mem_cons.mpr ⟨⟨hcursor, by omega, hstop⟩, fun other hother => ?_⟩
    obtain ⟨hstart, hbounds⟩ := h.bounds other hother
    exact ⟨by omega, hbounds⟩
  ordered := List.pairwise_cons.mpr ⟨fun other hother => (h.bounds other hother).1, h.ordered⟩
  outside i hi hshown := by
    by_cases hbefore : i < span.start
    · cases (hgap i hi hbefore).symm.trans hshown
    by_cases hin : i < span.stop
    · exact ⟨span, List.mem_cons_self, by omega, hin⟩
    · obtain ⟨other, hother, hbounds⟩ := h.outside i (by omega) hshown
      exact ⟨other, List.mem_cons_of_mem _ hother, hbounds⟩

/-- Every segment is found at its place. -/
theorem provenanceSpansFrom_located (segments : List KnowledgeSourceSegment) (before after : Str)
    (h : LaidOut CodePoint.isSpace (segmentTexts segments) after) :
    Located (before ++ after) before.length segments
      (provenanceSpansFrom (before ++ after) before.length segments) := by
  induction segments generalizing before after with
  | nil =>
    cases h with
    | nil hgap =>
      refine ⟨.nil, (fun span hspan => nomatch hspan), .nil, fun i hi hvisible => ?_⟩
      obtain ⟨k, rfl⟩ := Nat.exists_eq_add_of_le hi
      rw [visible_append_right, hgap.visible_eq] at hvisible
      cases hvisible
  | cons segment rest ih =>
    unfold segmentTexts at h ih
    rw [provenanceSpansFrom]
    by_cases hblank : normalizeText segment.text = []
    · rw [if_pos hblank]
      rw [nonBlankSegments_blank hblank] at h
      obtain ⟨found, bounds, ordered, outside⟩ := ih before after h
      exact ⟨by rwa [nonBlankSegments_blank hblank], bounds, ordered, outside⟩
    rw [if_neg hblank]
    rw [nonBlankSegments_visible hblank, List.map_cons] at h
    cases h with
    | @cons gap _ _ tail hgap hsegment hrest =>
      rw [find_behind hgap hsegment]
      dsimp only
      have hassoc : before ++ (gap ++ normalizeText segment.text ++ tail) =
          before ++ gap ++ normalizeText segment.text ++ tail := by
        simp only [List.append_assoc]
      have hlength : before.length + gap.length + (normalizeText segment.text).length =
          (before ++ gap ++ normalizeText segment.text).length := by
        simp only [List.length_append]
      rw [hassoc, hlength]
      refine (ih _ tail hrest).cons hblank ?_ rfl (by simp) (by simp) fun i hi hi' => ?_
      · have hmiddle := slice_middle (before ++ gap) (normalizeText segment.text) tail
        rw [← List.length_append] at hmiddle
        rwa [show before.length + gap.length = (before ++ gap).length from
          List.length_append.symm]
      · obtain ⟨k, rfl⟩ := Nat.exists_eq_add_of_le hi
        rw [← hassoc, visible_append_right, List.append_assoc,
          visible_append_left _ (Nat.lt_of_add_lt_add_left hi'), hgap.visible_eq]

/-! ## The provenance of a chunk -/

/-- A segment contributes something visible to a chunk. -/
def Contributes (normalized : Str) (chunk : TextChunk) (span : ProvenanceSpan) : Prop :=
  ∃ i < chunk.endOffset, chunk.startOffset ≤ i ∧ span.start ≤ i ∧ i < span.stop ∧
    visible CodePoint.isSpace normalized i = true

instance (normalized : Str) (chunk : TextChunk) (span : ProvenanceSpan) :
    Decidable (Contributes normalized chunk span) :=
  inferInstanceAs (Decidable (∃ i < chunk.endOffset, _))

/-- The segments that contribute something visible to a chunk. -/
def contributors (normalized : Str) (chunk : TextChunk) (spans : List ProvenanceSpan) :
    List ProvenanceSpan :=
  spans.filter fun span => decide (Contributes normalized chunk span)

/-- The provenance records exactly the contributing segments. -/
structure RecordsContributors (normalized : Str) (spans : List ProvenanceSpan)
    (chunk : TextChunk) (provenance : ChunkProvenance) : Prop where
  pages_sorted : (provenance.sourcePages.getD []).Pairwise (· < ·)
  mem_pages : ∀ page, page ∈ provenance.sourcePages.getD [] ↔
    ∃ span ∈ contributors normalized chunk spans, span.metadata.pageNumber = some page
  pageStart : provenance.sourcePageStart = (provenance.sourcePages.getD []).head?
  pageEnd : provenance.sourcePageEnd = (provenance.sourcePages.getD []).getLast?
  sections : provenance.sourceSections.getD [] =
    ((contributors normalized chunk spans).filterMap fun span => span.metadata.heading).eraseDups

/-- A chunk and a segment that overlap have something visible in common: each of them begins
with a visible character, and so does their common part. -/
theorem overlaps_iff_contributes {normalized : Str} {chunk : TextChunk} {span : ProvenanceSpan}
    (hchunk : visible CodePoint.isSpace normalized chunk.startOffset = true)
    (hspan : visible CodePoint.isSpace normalized span.start = true)
    (hchunk_lt : chunk.startOffset < chunk.endOffset) (hspan_lt : span.start < span.stop) :
    (chunk.startOffset < span.stop ∧ span.start < chunk.endOffset) ↔
      Contributes normalized chunk span := by
  constructor
  · rintro ⟨hleft, hright⟩
    rcases Nat.le_total chunk.startOffset span.start with hle | hle
    · exact ⟨span.start, hright, hle, Nat.le_refl _, hspan_lt, hspan⟩
    · exact ⟨chunk.startOffset, hchunk_lt, Nat.le_refl _, hle, hleft, hchunk⟩
  · rintro ⟨i, hend, hstart, hstart', hstop, -⟩
    exact ⟨by omega, by omega⟩

/-- A located segment begins with a visible character. -/
theorem Located.visible_start {normalized : Str} {cursor : ℕ}
    {segments : List KnowledgeSourceSegment} {spans : List ProvenanceSpan}
    (h : Located normalized cursor segments spans) {span : ProvenanceSpan} (hspan : span ∈ spans) :
    visible CodePoint.isSpace normalized span.start = true := by
  obtain ⟨segment, hsegment, hslice, -⟩ := exists_of_forall₂ h.found.flip hspan
  have hne : normalizeText segment.text ≠ [] := by
    rw [Ne, normalizeText_eq_nil_iff_strip]
    simpa using (List.mem_filter.mp hsegment).2
  have hfirst := ((normalizeText_cases segment.text).resolve_left hne).visible_first
  rwa [← hslice, visible_slice normalized (h.bounds span hspan).2.1] at hfirst

/-- An optional list that is only there when it is not empty. -/
theorem getD_ite_nil {α : Type} [DecidableEq α] (l : List α) :
    (if l = [] then none else some l).getD [] = l := by
  split
  · rename_i hl
    exact hl.symm
  · rfl

/-- What is recorded for a chunk of the located segments. -/
theorem chunkProvenance_records {normalized : Str} {segments : List KnowledgeSourceSegment}
    {spans : List ProvenanceSpan} {chunk : TextChunk} {window : ℕ × ℕ}
    (hlocated : Located normalized 0 segments spans)
    (hchunk : TrimmedFrom normalized window chunk) :
    RecordsContributors normalized spans chunk
      (chunkProvenance chunk.startOffset chunk.endOffset spans) := by
  have hfilter : (spans.filter fun span =>
      decide (chunk.startOffset < span.stop ∧ span.start < chunk.endOffset)) =
      contributors normalized chunk spans := by
    refine List.filter_congr fun span hspan => decide_eq_decide.mpr ?_
    exact overlaps_iff_contributes hchunk.visible_start (hlocated.visible_start hspan) hchunk.lt
      (hlocated.bounds span hspan).2.1
  unfold chunkProvenance
  rw [hfilter]
  refine ⟨?_, fun page => ?_, ?_, ?_, ?_⟩
  · dsimp only
    rw [getD_ite_nil]
    have hsorted := List.pairwise_insertionSort (· ≤ ·) (((contributors normalized chunk
      spans).map ProvenanceSpan.metadata).filterMap SegmentMetadata.pageNumber).dedup
    have hnodup := (List.perm_insertionSort (· ≤ ·) _).nodup_iff.mpr (List.nodup_dedup
      (((contributors normalized chunk spans).map ProvenanceSpan.metadata).filterMap
        SegmentMetadata.pageNumber))
    exact (hsorted.and hnodup).imp fun h => lt_of_le_of_ne h.1 h.2
  · dsimp only
    rw [getD_ite_nil, List.mem_insertionSort, List.mem_dedup]
    simp
  · dsimp only
    rw [getD_ite_nil]
  · dsimp only
    rw [getD_ite_nil]
  · dsimp only
    rw [getD_ite_nil, List.filterMap_map]
    rfl

/-- For the segments of a document and every positive chunk size with a smaller overlap, every
segment that is not blank is found, and the provenance of each chunk names the segments that
contribute something visible to it. The stored content of a document is its text without
white space at its ends. -/
theorem chunk_provenance_exact (segments : List KnowledgeSourceSegment) {content : Str}
    (hcontent : ∃ a b, Blank CodePoint.isSpace a ∧ Blank CodePoint.isSpace b ∧
      documentText segments = a ++ content ++ b)
    {chunkSize overlap : ℤ} (hsize : 0 < chunkSize) (hoverlap : 0 ≤ overlap)
    (hlt : overlap < chunkSize) :
    ∃ chunks, chunkText (normalizeText content) chunkSize overlap = .ok chunks ∧
      Located (normalizeText content) 0 segments
        (buildProvenanceSpans (normalizeText content) segments) ∧
      ∀ chunk ∈ chunks,
        RecordsContributors (normalizeText content)
          (buildProvenanceSpans (normalizeText content) segments) chunk
          (chunkProvenance chunk.startOffset chunk.endOffset
            (buildProvenanceSpans (normalizeText content) segments)) := by
  obtain ⟨a, b, ha, hb, htext⟩ := hcontent
  have hlocated : Located (normalizeText content) 0 segments
      (buildProvenanceSpans (normalizeText content) segments) := by
    have hlaid := laidOut_documentText segments
    rw [htext, normalizeText_margins ha hb] at hlaid
    exact provenanceSpansFrom_located segments [] _ hlaid
  rcases chunkText_cases (normalizeText content) hsize hoverlap hlt with
    ⟨-, hchunks⟩ | ⟨-, ws, chunks, hchunks, hwindowed⟩
  · exact ⟨[], hchunks, hlocated, fun chunk hchunk => nomatch hchunk⟩
  · rw [normalizeText_normalizeText] at hwindowed
    refine ⟨chunks, hchunks, hlocated, fun chunk hchunk => ?_⟩
    obtain ⟨window, -, -, htrimmed⟩ := hwindowed.window_of_mem hchunk
    exact chunkProvenance_records hlocated htrimmed

/-- Two pages, of which the first ends with a carriage return, and a blank page between
them. -/
def twoPages : List KnowledgeSourceSegment :=
  [⟨Str.ofString "one  two" ++ [CodePoint.cr], { pageNumber := some 1 }⟩,
    ⟨Str.ofString "  ", { pageNumber := some 2 }⟩,
    ⟨Str.ofString "  one", { pageNumber := some 3 }⟩]

/-- The provenance of the chunks of two pages. -/
theorem twoPages_provenance_exact :
    ∃ chunks, chunkText (normalizeText (Str.strip (documentText twoPages))) 8 2 = .ok chunks ∧
      Located (normalizeText (Str.strip (documentText twoPages))) 0 twoPages
        (buildProvenanceSpans (normalizeText (Str.strip (documentText twoPages))) twoPages) ∧
      ∀ chunk ∈ chunks,
        RecordsContributors (normalizeText (Str.strip (documentText twoPages)))
          (buildProvenanceSpans (normalizeText (Str.strip (documentText twoPages))) twoPages) chunk
          (chunkProvenance chunk.startOffset chunk.endOffset
            (buildProvenanceSpans (normalizeText (Str.strip (documentText twoPages))) twoPages)) :=
  chunk_provenance_exact twoPages (exists_margins CodePoint.isSpace _) (by decide) (by decide)
    (by decide)

end AssessmentPlatform
