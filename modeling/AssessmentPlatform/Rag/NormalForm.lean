import AssessmentPlatform.Library.Words
import AssessmentPlatform.Rag.Deduplication
import AssessmentPlatform.Rag.VectorAlignment
import Mathlib.Data.List.Chain

/-!
# Normal forms

What normalization leaves is a normal form: its lines are stripped on the right, no two blank ones
follow each other, and it has no white space at its ends. Normalizing it again changes nothing. The
ingestion relies on this, since the chunks are cut from a text that is normalized once more, while
the text that is stored and hashed is normalized once.
-/

namespace AssessmentPlatform

open Library

/-- What `normalize_text` promises of its result. -/
structure NormalForm (text : Str) : Prop where
  no_return : CodePoint.cr ∉ text
  line_end : ∀ line ∈ Str.lines text, Str.rstrip line = line
  blank_once : (Str.lines text).IsChain fun line next => ¬(BlankLine line ∧ BlankLine next)
  first : ∀ c ∈ text.head?, c.isSpace = false
  last : ∀ c ∈ text.getLast?, c.isSpace = false

/-! ## The lines of normalized text -/

/-- A line is stripped once. -/
theorem rstrip_rstrip (line : Str) : Str.rstrip (Str.rstrip line) = Str.rstrip line :=
  List.rdropWhile_idempotent _ _

/-- Stripping shortens a line. -/
theorem rstrip_length_le (line : Str) : (Str.rstrip line).length ≤ line.length :=
  (List.rdropWhile_prefix _ _).length_le

/-- A laid-out line is stripped. -/
theorem rstrip_of_mem_collapse {suppress : Bool} {ls : List Str} {line : Str}
    (h : line ∈ collapse suppress ls) : Str.rstrip line = line := by
  rcases mem_collapse h with rfl | ⟨line', -, rfl⟩
  · rfl
  · exact rstrip_rstrip line'

/-- Laid-out lines do not repeat blank lines, and do not begin with one where it is suppressed. -/
theorem collapse_isChain (suppress : Bool) (ls : List Str) :
    ((collapse suppress ls).IsChain fun line next => ¬(BlankLine line ∧ BlankLine next)) ∧
      (suppress = true → ∀ line ∈ (collapse suppress ls).head?, ¬BlankLine line) := by
  induction ls generalizing suppress with
  | nil => exact ⟨.nil, nofun⟩
  | cons line rest ih =>
    by_cases hline : BlankLine line
    · rw [collapse_blank hline]
      obtain ⟨hchain, hhead⟩ := ih true
      cases suppress with
      | true => exact ⟨hchain, hhead⟩
      | false =>
        refine ⟨List.isChain_cons.mpr ⟨fun next hnext hboth => ?_, hchain⟩, nofun⟩
        exact hhead rfl next hnext hboth.2
    · rw [collapse_line hline]
      have hstripped : ¬BlankLine (Str.rstrip line) := by
        rwa [BlankLine, rstrip_rstrip]
      obtain ⟨hchain, -⟩ := ih false
      refine ⟨List.isChain_cons.mpr ⟨fun _ _ hboth => hstripped hboth.1, hchain⟩, fun _ => ?_⟩
      rintro _ ⟨⟩
      exact hstripped

/-- Laying lines out neither adds lines nor lengthens them. -/
theorem collapse_length_le (suppress : Bool) (ls : List Str) :
    (collapse suppress ls).length ≤ ls.length ∧
      (collapse suppress ls).flatten.length ≤ ls.flatten.length := by
  induction ls generalizing suppress with
  | nil => exact ⟨le_rfl, le_rfl⟩
  | cons line rest ih =>
    by_cases hline : BlankLine line
    · rw [collapse_blank hline]
      obtain ⟨hlength, hflatten⟩ := ih true
      cases suppress with
      | true =>
        simp only [if_true, List.nil_append, List.length_cons, List.flatten_cons,
          List.length_append]
        omega
      | false =>
        simp only [Bool.false_eq_true, if_false, List.singleton_append, List.length_cons,
          List.flatten_cons, List.length_append, List.length_nil]
        omega
    · rw [collapse_line hline]
      obtain ⟨hlength, hflatten⟩ := ih false
      have hrstrip := rstrip_length_le line
      simp only [List.length_cons, List.flatten_cons, List.length_append]
      omega

/-- The length of lines that are joined with a character. -/
theorem length_join (c : CodePoint) (ls : List Str) :
    (Str.join [c] ls).length = ls.flatten.length + (ls.length - 1) := by
  have hsum := sum_map_intercalate (fun _ => 1) c ls
  simp only [List.map_const', List.sum_replicate, Nat.nsmul_eq_mul, Nat.mul_one] at hsum
  exact hsum

/-- Laying lines out does not lengthen their text. -/
theorem length_join_collapse_le (suppress : Bool) (ls : List Str) :
    (Str.join [CodePoint.lf] (collapse suppress ls)).length ≤
      (Str.join [CodePoint.lf] ls).length := by
  obtain ⟨hlength, hflatten⟩ := collapse_length_le suppress ls
  rw [length_join, length_join]
  omega

/-- A normalized text holds no carriage return. -/
theorem normalizeText_ne_cr (rawText : Str) : ∀ c ∈ normalizeText rawText, c ≠ CodePoint.cr := by
  intro c hc
  rw [normalizeText_eq, layoutText] at hc
  rcases mem_join (Str.mem_of_mem_strip hc) with rfl | ⟨line, hline, hc⟩
  · exact lf_ne_cr
  · exact (mem_collapse_textLines hline hc).1

/-- The lines of normalized text are laid out: laying them out again gives a text between margins,
and the text cannot have become longer. -/
theorem lines_normalizeText {rawText : Str} (h : normalizeText rawText ≠ []) :
    Str.lines (normalizeText rawText) = collapse true (Str.lines (normalizeText rawText)) := by
  have hlayout : layoutText (Str.lines (normalizeText rawText)) = normalizeText rawText := by
    have hidem := normalizeText_normalizeText rawText
    rwa [normalizeText_eq (normalizeText rawText), textLines_eq,
      unifyEndings_eq_self (normalizeText_ne_cr rawText)] at hidem
  obtain ⟨a, b, -, -, hjoin⟩ := exists_margins CodePoint.isSpace
    (Str.join [CodePoint.lf] (collapse true (Str.lines (normalizeText rawText))))
  have hle := length_join_collapse_le true (Str.lines (normalizeText rawText))
  have hlines : Str.join [CodePoint.lf] (Str.lines (normalizeText rawText)) =
      normalizeText rawText := List.intercalate_splitOn CodePoint.lf
  rw [show trim CodePoint.isSpace _ = _ from hlayout] at hjoin
  rw [hlines, hjoin, List.length_append, List.length_append] at hle
  obtain rfl : a = [] := List.eq_nil_of_length_eq_zero (by omega)
  obtain rfl : b = [] := List.eq_nil_of_length_eq_zero (by omega)
  rw [List.nil_append, List.append_nil] at hjoin
  have hne : collapse true (Str.lines (normalizeText rawText)) ≠ [] := by
    intro hnil
    rw [hnil] at hjoin
    exact h hjoin.symm
  conv_lhs => rw [← hjoin]
  refine List.splitOn_intercalate CodePoint.lf (fun line hline hlf => ?_) hne
  rcases mem_collapse hline with rfl | ⟨line', hline', rfl⟩
  · cases hlf
  · exact Str.lf_not_mem_of_mem_lines hline' ((List.rdropWhile_prefix _ _).mem hlf)

/-- Normalized text is in normal form. -/
theorem normalizeText_normalForm (rawText : Str) : NormalForm (normalizeText rawText) := by
  have hreturn : CodePoint.cr ∉ normalizeText rawText := fun h =>
    normalizeText_ne_cr rawText _ h rfl
  rcases normalizeText_cases rawText with hnil | htrimmed
  · rw [hnil]
    exact ⟨List.not_mem_nil, by simp [Str.lines, Str.rstrip], by simp [Str.lines], nofun, nofun⟩
  have hlines := lines_normalizeText htrimmed.ne_nil
  obtain ⟨c, tail, hhead, hc⟩ := htrimmed.head
  obtain ⟨front, d, hlast, hd⟩ := htrimmed.last
  refine ⟨hreturn, fun line hline => ?_, ?_, ?_, ?_⟩
  · rw [hlines] at hline
    exact rstrip_of_mem_collapse hline
  · rw [hlines]
    exact (collapse_isChain true _).1
  · rw [hhead]
    rintro _ ⟨⟩
    exact hc
  · rw [hlast, List.getLast?_concat]
    rintro _ ⟨⟩
    exact hd

/-! ## Visible characters -/

/-- A text without its white space. -/
def Str.visibles (s : Str) : Str := s.filter fun c => !c.isSpace

/-- White space in front is not visible. -/
@[simp] theorem visibles_cons_space {c : CodePoint} (hc : c.isSpace = true) (s : Str) :
    Str.visibles (c :: s) = Str.visibles s := by
  simp [Str.visibles, hc]

/-- The line endings are white space. -/
theorem visibles_unifyEndings (afterReturn : Bool) (s : Str) :
    Str.visibles (unifyEndings afterReturn s) = Str.visibles s := by
  induction s generalizing afterReturn with
  | nil => rfl
  | cons c s ih =>
    unfold unifyEndings
    split
    · rename_i hcr
      rw [visibles_cons_space CodePoint.isSpace_lf, ih, hcr,
        visibles_cons_space CodePoint.isSpace_cr]
    · split
      · rename_i hskip
        rw [ih, hskip.1, visibles_cons_space CodePoint.isSpace_lf]
      · unfold Str.visibles at ih ⊢
        rw [List.filter_cons, List.filter_cons, ih]

/-- The visible characters of two texts. -/
theorem visibles_append (s t : Str) :
    Str.visibles (s ++ t) = Str.visibles s ++ Str.visibles t :=
  List.filter_append s t

/-- Stripping a line hides nothing. -/
theorem visibles_rstrip (line : Str) : Str.visibles (Str.rstrip line) = Str.visibles line := by
  induction line using List.reverseRecOn with
  | nil => rfl
  | append_singleton line c ih =>
    by_cases hc : c.isSpace = true
    · rw [rstrip_concat hc, ih, visibles_append, visibles_cons_space hc]
      simp [Str.visibles]
    · rw [Str.rstrip, List.rdropWhile_concat_neg _ _ _ hc]

/-- Only blank lines are dropped. -/
theorem visibles_collapse (suppress : Bool) (ls : List Str) :
    Str.visibles (collapse suppress ls).flatten = Str.visibles ls.flatten := by
  induction ls generalizing suppress with
  | nil => rfl
  | cons line rest ih =>
    by_cases hline : BlankLine line
    · have hempty : Str.visibles line = [] := ((blankLine_iff line).mp hline).filter_eq
      rw [collapse_blank hline, List.flatten_append, List.flatten_cons, visibles_append,
        visibles_append, ih, hempty]
      cases suppress with
      | true => rfl
      | false => rfl
    · rw [collapse_line hline, List.flatten_cons, List.flatten_cons, visibles_append,
        visibles_append, ih, visibles_rstrip]

/-- Normalization changes white space only. -/
theorem visibles_normalizeText (rawText : Str) :
    Str.visibles (normalizeText rawText) = Str.visibles rawText := by
  have hjoin : ∀ ls : List Str,
      Str.visibles (Str.join [CodePoint.lf] ls) = Str.visibles ls.flatten :=
    filter_intercalate blank_lf
  have htext : Str.join [CodePoint.lf] (textLines rawText) = unifyEndings false rawText := by
    rw [textLines_eq]
    exact List.intercalate_splitOn CodePoint.lf
  calc Str.visibles (normalizeText rawText)
      = Str.visibles (Str.join [CodePoint.lf] (collapse true (textLines rawText))) := by
        rw [normalizeText_eq]
        exact filter_trim (fun _ hc => hc) _
    _ = Str.visibles (Str.join [CodePoint.lf] (textLines rawText)) := by
        rw [hjoin, visibles_collapse, hjoin]
    _ = Str.visibles rawText := by
        rw [htext, visibles_unifyEndings]

/-! ## What is stored -/

/-- Normalizing the stored text of a document again changes neither it nor its hash. -/
def Renormalized (service : KnowledgeIngestionService) (document : KnowledgeDocumentRecord) :
    Prop :=
  normalizeText document.content = document.content ∧
    service.sha256 (normalizeText document.content) = document.contentHash

/-- A stored chunk is a slice of the stored text of its document, and its provenance is that of
the offsets in this text. -/
def SlicedFrom (service : KnowledgeIngestionService) (document : KnowledgeDocumentRecord)
    (sourceSegments : List KnowledgeSourceSegment) (row : KnowledgeChunkRecord) : Prop :=
  ∃ textChunks chunk, chunkText document.content service.chunkSize service.chunkOverlap =
      .ok textChunks ∧
    chunk ∈ textChunks ∧ row.documentId = document.documentId ∧ row.chunkIndex = chunk.index ∧
    row.content = slice document.content chunk.startOffset chunk.endOffset ∧
    chunk.startOffset < chunk.endOffset ∧ chunk.endOffset ≤ document.content.length ∧
    row.provenance = chunkProvenance chunk.startOffset chunk.endOffset
      (buildProvenanceSpans document.content sourceSegments)

/-- The chunks of a text are slices of its normalized text. -/
theorem slice_of_chunkText {text : Str} {chunkSize overlap : ℤ} {chunks : List TextChunk}
    {chunk : TextChunk} (hchunks : chunkText text chunkSize overlap = .ok chunks)
    (hchunk : chunk ∈ chunks) :
    chunk.content = slice (normalizeText text) chunk.startOffset chunk.endOffset ∧
      chunk.startOffset < chunk.endOffset ∧ chunk.endOffset ≤ (normalizeText text).length := by
  have hbounds : 0 < chunkSize ∧ 0 ≤ overlap ∧ overlap < chunkSize := by
    unfold chunkText at hchunks
    split at hchunks
    · cases hchunks
    split at hchunks
    · cases hchunks
    · omega
  rcases chunkText_cases text hbounds.1 hbounds.2.1 hbounds.2.2 with
    ⟨-, hnone⟩ | ⟨-, ws, chunks', hsome, hwindowed⟩
  · rw [hnone] at hchunks
    cases hchunks
    cases hchunk
  · rw [hsome] at hchunks
    cases hchunks
    obtain ⟨window, -, hwindow, htrimmed⟩ := hwindowed.window_of_mem hchunk
    exact ⟨htrimmed.content, htrimmed.lt, htrimmed.end_le.trans hwindow.cut.le.2⟩

namespace KnowledgeIngestionService

variable {ι : Type} {service : KnowledgeIngestionService} {calls : ι → IngestCall}

/-- The document of a call has been normalized. -/
theorem document_renormalized (call : IngestCall) :
    Renormalized service (service.document call) := by
  have hidem : normalizeText (service.document call).content = (service.document call).content :=
    normalizeText_normalizeText call.request.content
  exact ⟨hidem, congrArg service.sha256 hidem⟩

/-- The chunks of a call are cut from the document that it stores. -/
theorem slicedFrom_document {call : IngestCall} {chunks : List EmbeddedChunk}
    {row : KnowledgeChunkRecord} (hchunks : service.embedChunks call = .ok chunks)
    (hrow : row ∈ call.chunkRows chunks) :
    SlicedFrom service (service.document call) call.sourceSegments row := by
  obtain ⟨textChunks, vectors, htexts, -, hpositions⟩ := embedChunks_eq_ok hchunks
  obtain ⟨i, hi, rfl⟩ := List.mem_mapIdx.mp hrow
  obtain ⟨chunk, vector, hchunk, -, hcontent, hindex, -, hprovenance⟩ :=
    hpositions i _ (List.getElem?_eq_getElem hi)
  have hmem := List.mem_of_getElem? hchunk
  obtain ⟨hslice, hlt, hle⟩ := slice_of_chunkText htexts hmem
  have hidem : normalizeText call.normalized = call.normalized :=
    normalizeText_normalizeText call.request.content
  rw [hidem] at hslice hle
  exact ⟨textChunks, chunk, htexts, hmem, rfl, hindex, hcontent.trans hslice, hlt, hle,
    hprovenance⟩

variable [DecidableEq ι] {initial : KnowledgeStore}

/-- A step leaves the store, or it adds a document together with its chunks. -/
theorem advance_store (service : KnowledgeIngestionService) (calls : ι → IngestCall) (s : State ι)
    (i : ι) :
    (service.advance calls s i).store = s.store ∨
      ∃ chunks, s.phase i = .written chunks ∧ (service.advance calls s i).store =
        { documents := s.store.documents ++ [service.document (calls i)]
          chunks := s.store.chunks ++ (calls i).chunkRows chunks } := by
  by_cases hstore : (service.advance calls s i).store = s.store
  · exact .inl hstore
  · obtain ⟨chunks, hphase, hfault⟩ := commits_of_store_ne hstore
    refine .inr ⟨chunks, hphase, ?_⟩
    simp [advance, hphase, ingestStep, attempt, hfault]

/-- What a run has stored: documents that have been normalized, and chunks of such documents. -/
structure StoresSlices (service : KnowledgeIngestionService) (initial store : KnowledgeStore) :
    Prop where
  documents : ∀ document ∈ store.documents,
    document ∈ initial.documents ∨ Renormalized service document
  chunks : ∀ row ∈ store.chunks, row ∈ initial.chunks ∨
    ∃ document ∈ store.documents, ∃ sourceSegments,
      SlicedFrom service document sourceSegments row

/-- A step stores slices of normalized texts. -/
theorem StoresSlices.advance {s : State ι} (h : StoresSlices service initial s.store)
    (hembedded : ChunksEmbedded service calls initial s) (i : ι) :
    StoresSlices service initial (service.advance calls s i).store := by
  rcases advance_store service calls s i with hstore | ⟨chunks, hphase, hstore⟩
  · rwa [hstore]
  rw [hstore]
  have hchunks := hembedded.pending i chunks (by rw [hphase]; rfl)
  refine ⟨fun document hdocument => ?_, fun row hrow => ?_⟩
  · rcases List.mem_append.mp hdocument with hdocument | hdocument
    · exact h.documents document hdocument
    · rw [List.mem_singleton.mp hdocument]
      exact .inr (document_renormalized (calls i))
  · rcases List.mem_append.mp hrow with hrow | hrow
    · refine (h.chunks row hrow).imp_right ?_
      rintro ⟨document, hdocument, hsliced⟩
      exact ⟨document, List.mem_append_left _ hdocument, hsliced⟩
    · exact .inr ⟨service.document (calls i), List.mem_append_right _ List.mem_cons_self,
        (calls i).sourceSegments, slicedFrom_document hchunks hrow⟩

/-- Every run stores slices of normalized texts. -/
theorem run_storesSlices (schedule : List ι) :
    StoresSlices service initial (service.run calls initial schedule).store := by
  induction schedule using List.reverseRecOn with
  | nil => exact ⟨fun _ h => .inl h, fun _ h => .inl h⟩
  | append_singleton done i ih =>
    rw [run_concat]
    exact ih.advance (run_chunksEmbedded done) i

end KnowledgeIngestionService

/-- Normalized text is in normal form, is normalized to itself and has the visible characters of
the text. So in every run of ingestions the stored texts are normalized to themselves and to their
hashes, and the stored chunks are slices of them. -/
theorem normalize_text_stable :
    (∀ rawText, normalizeText (normalizeText rawText) = normalizeText rawText ∧
      NormalForm (normalizeText rawText) ∧
      Str.visibles (normalizeText rawText) = Str.visibles rawText) ∧
    ∀ (ι : Type) [DecidableEq ι] (service : KnowledgeIngestionService) (calls : ι → IngestCall)
      (initial : KnowledgeStore) (schedule : List ι),
      service.StoresSlices initial (service.run calls initial schedule).store := by
  constructor
  · intro rawText
    exact ⟨normalizeText_normalizeText rawText, normalizeText_normalForm rawText,
      visibles_normalizeText rawText⟩
  · intro ι _ service calls initial schedule
    exact KnowledgeIngestionService.run_storesSlices schedule

end AssessmentPlatform
