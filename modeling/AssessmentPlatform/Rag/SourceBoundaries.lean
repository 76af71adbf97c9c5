import AssessmentPlatform.Library.Framing
import AssessmentPlatform.Library.Json
import AssessmentPlatform.Rag.Context
import AssessmentPlatform.Rag.Normalization

/-!
# Source boundaries of the retrieved context

The context of a retrieval is read as a list of lines. A source is a frame between two marker
lines, and in its body the identifiers and the content follow a header. Titles and contents
are interpolated as they are, so a source can be read back exactly if no line of them looks
like a marker and no lines of them look like a header.
-/

namespace AssessmentPlatform

open Library Library.Json

/-! ## Lines -/

/-- The first line of a text. -/
def Str.firstLine (s : Str) : Str := (Str.lines s).headD []

/-- The lines of a text after the first one. -/
def Str.laterLines (s : Str) : List Str := (Str.lines s).tail

/-- A text has at least one line. -/
theorem Str.lines_ne_nil (s : Str) : Str.lines s ≠ [] := List.splitOn_ne_nil _ _

/-- The first line of a text, and the later ones. -/
theorem Str.lines_eq_cons (s : Str) : Str.lines s = Str.firstLine s :: Str.laterLines s := by
  obtain ⟨line, rest, h⟩ := List.exists_cons_of_ne_nil (Str.lines_ne_nil s)
  rw [Str.firstLine, Str.laterLines, h]
  rfl

/-- The lines in front of a line feed and behind it. -/
theorem Str.lines_append_lf (x y : Str) :
    Str.lines (x ++ CodePoint.lf :: y) = Str.lines x ++ Str.lines y :=
  List.splitOn_append_cons_self x y

/-- A text without a line feed is one line. -/
theorem Str.lines_eq_singleton {s : Str} (h : CodePoint.lf ∉ s) : Str.lines s = [s] :=
  List.splitOn_eq_singleton h

/-- A label is put in front of the first line. -/
theorem Str.lines_labelled {label : Str} (h : CodePoint.lf ∉ label) (s : Str) :
    Str.lines (label ++ s) = (label ++ Str.firstLine s) :: Str.laterLines s := by
  induction label with
  | nil => exact Str.lines_eq_cons s
  | cons c label ih =>
    have hc : (c == CodePoint.lf) = false := by
      rw [beq_eq_false_iff_ne]
      rintro rfl
      exact h (by simp)
    rw [Str.lines, List.cons_append, List.splitOn_cons_eq_if_modifyHead, if_neg (by simp [hc])]
    have hrest := ih fun hmem => h (by simp [hmem])
    unfold Str.lines at hrest
    rw [hrest]
    rfl

/-- A text is determined by its lines. -/
theorem Str.lines_injective : Function.Injective Str.lines := by
  intro s t h
  have hjoin := congrArg (List.intercalate [CodePoint.lf]) h
  rwa [Str.lines, Str.lines, List.intercalate_splitOn, List.intercalate_splitOn] at hjoin

/-- Lines without line feeds are the lines of their join. -/
theorem Str.lines_ofLines_of_not_mem {ls : List Str} (h : ∀ line ∈ ls, CodePoint.lf ∉ line)
    (hne : ls ≠ []) : Str.lines (Str.ofLines ls) = ls :=
  List.splitOn_intercalate _ h hne

/-- The lines of a text that is given by pieces on lines of their own. -/
theorem Str.lines_ofLines (piece : Str) (pieces : List Str) :
    Str.lines (Str.ofLines (piece :: pieces)) = (piece :: pieces).flatMap Str.lines := by
  induction pieces generalizing piece with
  | nil => simp [Str.ofLines, Str.join]
  | cons next pieces ih =>
    have hsplit : Str.ofLines (piece :: next :: pieces) =
        piece ++ CodePoint.lf :: Str.ofLines (next :: pieces) := by
      rw [Str.ofLines, Str.join, List.intercalate_cons_cons]
      simp [Str.ofLines, Str.join]
    rw [hsplit, Str.lines_append_lf, ih]
    rfl

/-- The lines of a text that is given by sections: an empty line stands in front of each
section but the first. -/
theorem Str.lines_ofSections (first : Str) (sections : List Str) :
    Str.lines (Str.ofSections (first :: sections)) =
      Str.lines first ++ sections.flatMap fun text => [] :: Str.lines text := by
  induction sections generalizing first with
  | nil => simp [Str.ofSections, Str.join]
  | cons next sections ih =>
    have hsplit : Str.ofSections (first :: next :: sections) =
        first ++ CodePoint.lf :: ([] ++ CodePoint.lf :: Str.ofSections (next :: sections)) := by
      rw [Str.ofSections, Str.join, List.intercalate_cons_cons]
      simp [Str.ofSections, Str.join]
    rw [hsplit, Str.lines_append_lf, Str.lines_append_lf, ih, List.flatMap_cons]
    rfl

/-! ## Texts on one line -/

/-- A decimal is on one line. -/
theorem Str.lf_not_mem_decimal (n : ℕ) : CodePoint.lf ∉ Str.decimal n := by
  intro h
  have hdigit := decimal_isDigit h
  simp [isDigit, CodePoint.lf] at hdigit

/-- A digit is not a line feed. -/
theorem ofChar_digitChar_ne_lf :
    ∀ n < 16, CodePoint.ofChar (Nat.digitChar n) ≠ CodePoint.lf := by
  decide +kernel

/-- A padded number is on one line. -/
theorem Str.lf_not_mem_padded {base : ℕ} (hpos : 0 < base) (hbase : base ≤ 16) (width n : ℕ) :
    CodePoint.lf ∉ Str.padded base width n := by
  induction width generalizing n with
  | zero => simp [Str.padded]
  | succ width ih =>
    have hdigit := ofChar_digitChar_ne_lf (n % base) ((Nat.mod_lt n hpos).trans_le hbase)
    rw [Str.padded, List.mem_append, List.mem_singleton]
    rintro (h | h)
    · exact ih _ h
    · exact hdigit h.symm

/-- A UUID is on one line. -/
theorem UUID.lf_not_mem_text (id : UUID) : CodePoint.lf ∉ UUID.text id := by
  intro h
  rcases mem_join h with h | ⟨group, hgroup, h⟩
  · cases h
  · simp only [List.mem_cons, List.not_mem_nil, or_false] at hgroup
    rcases hgroup with rfl | rfl | rfl | rfl | rfl
    all_goals exact Str.lf_not_mem_padded (by decide) (by decide) _ _ h

/-- A fixed-point number is on one line. -/
theorem Str.lf_not_mem_fixed (places : ℕ) (q : ℚ) : CodePoint.lf ∉ Str.fixed places q := by
  unfold Str.fixed
  intro h
  simp only [List.mem_append, List.mem_cons] at h
  rcases h with (h | h) | h | h
  · split at h
    · cases List.mem_singleton.mp h
    · cases h
  · exact Str.lf_not_mem_decimal _ h
  · cases h
  · exact Str.lf_not_mem_padded (by decide) (by decide) _ _ h

/-- The name of a source type is on one line. -/
theorem KnowledgeSourceType.lf_not_mem_value (t : KnowledgeSourceType) :
    CodePoint.lf ∉ t.value := by
  cases t <;> decide +kernel

/-- The name of a retrieval source is on one line. -/
theorem RetrievalSource.lf_not_mem_value (source : RetrievalSource) :
    CodePoint.lf ∉ source.value := by
  cases source <;> decide +kernel

/-! ## Markers -/

instance (c : CodePoint) : Decidable (isDigit c) := inferInstanceAs (Decidable (_ ∧ _))

/-- A line of the form of a label and a number. -/
def numbered (label line : Str) : Bool :=
  label.isPrefixOf line && decide (line.drop label.length ≠ []) &&
    (line.drop label.length).all fun c => decide (isDigit c)

/-- A numbered line is its label with digits. -/
theorem numbered_iff {label line : Str} :
    numbered label line = true ↔
      ∃ digits, line = label ++ digits ∧ digits ≠ [] ∧ ∀ c ∈ digits, isDigit c := by
  simp only [numbered, Bool.and_eq_true, List.isPrefixOf_iff_prefix, decide_eq_true_eq,
    List.all_eq_true]
  constructor
  · rintro ⟨⟨⟨digits, rfl⟩, hne⟩, hdigits⟩
    rw [List.drop_left] at hne hdigits
    exact ⟨digits, rfl, hne, hdigits⟩
  · rintro ⟨digits, rfl, hne, hdigits⟩
    rw [List.drop_left]
    exact ⟨⟨List.prefix_append _ _, hne⟩, hdigits⟩

/-- A label with a decimal is a numbered line. -/
theorem numbered_decimal (label : Str) (k : ℕ) :
    numbered label (label ++ Str.decimal k) = true := by
  obtain ⟨c, rest, hcons, -⟩ := decimal_cons k
  exact numbered_iff.mpr ⟨Str.decimal k, rfl, by simp [hcons], fun c hc => decimal_isDigit hc⟩

/-- The markers with two labels and a number. -/
def labelMarks (openingLabel closingLabel : Str) : FrameMarks Str where
  isMark line := numbered openingLabel line || numbered closingLabel line
  opening k := openingLabel ++ Str.decimal k
  closing k := closingLabel ++ Str.decimal k
  blank := []
  isMark_opening k := by rw [numbered_decimal, Bool.true_or]
  isMark_closing k := by rw [numbered_decimal, Bool.or_true]
  isMark_blank := by simp [numbered]
  closing_injective j k h := decimal_injective (List.append_cancel_left h)

/-- The lines `BEGIN_SOURCE_i` and `END_SOURCE_i`. -/
def sourceMarks : FrameMarks Str := labelMarks ("BEGIN_SOURCE_" : String) ("END_SOURCE_" : String)

/-- Two labels of which neither begins with the other one. -/
def Differ (label other : Str) : Prop := ¬ label <+: other ∧ ¬ other <+: label

instance (label other : Str) : Decidable (Differ label other) :=
  inferInstanceAs (Decidable (_ ∧ _))

/-- A label that differs from another one is no prefix of what begins with that one. -/
theorem Differ.isPrefixOf_eq_false {label other : Str} (h : Differ label other) (rest : Str) :
    label.isPrefixOf (other ++ rest) = false := by
  refine Bool.eq_false_iff.mpr fun hlabel => ?_
  rcases List.prefix_or_prefix_of_prefix (List.isPrefixOf_iff_prefix.mp hlabel)
    (List.prefix_append other rest) with hle | hle
  · exact h.1 hle
  · exact h.2 hle

/-- A line with another label is not a marker. -/
theorem labelMarks_isMark_eq_false {openingLabel closingLabel label : Str} (rest : Str)
    (hopening : Differ openingLabel label) (hclosing : Differ closingLabel label) :
    (labelMarks openingLabel closingLabel).isMark (label ++ rest) = false := by
  change (numbered _ _ || numbered _ _) = false
  rw [numbered, numbered, hopening.isPrefixOf_eq_false, hclosing.isPrefixOf_eq_false]
  rfl

/-! ## Framed sources -/

/-- Sections that are frames. -/
theorem flatMap_mapIdx_eq_frames {α : Type} (m : FrameMarks Str) (hblank : m.blank = [])
    {text : ℕ → α → Str} {body : ℕ → α → List Str}
    (h : ∀ k a, Str.lines (text k a) = m.opening k :: (body k a ++ [m.closing k]))
    (items : List α) (k : ℕ) :
    (items.mapIdx fun i a => text (i + k) a).flatMap (fun s => [] :: Str.lines s) =
      m.frames k (items.mapIdx fun i a => body (i + k) a) := by
  induction items generalizing k with
  | nil => rfl
  | cons a items ih =>
    have hshift : ∀ i, i + 1 + k = i + (k + 1) := fun i => by omega
    rw [List.mapIdx_cons, List.mapIdx_cons, List.flatMap_cons]
    simp only [hshift]
    rw [ih (k + 1), FrameMarks.frames, Nat.zero_add, h, hblank]
    simp

/-- Two texts on one line are on one line together. -/
theorem lf_not_mem_append {a b : Str} (ha : CodePoint.lf ∉ a) (hb : CodePoint.lf ∉ b) :
    CodePoint.lf ∉ a ++ b := by
  rw [List.mem_append]
  exact fun h => h.elim ha hb

/-- A literal without a line feed among its characters. -/
theorem lf_not_mem_ofList {l : List Char} (h : '\n' ∉ l) :
    CodePoint.lf ∉ Str.ofString (String.ofList l) := by
  rw [Str.ofString_ofList, List.mem_map]
  rintro ⟨c, hc, hlf⟩
  have hlf : CodePoint.ofChar c = CodePoint.ofChar '\n' := hlf
  exact h (ofChar_injective hlf ▸ hc)

/-- Texts on one line each are their own lines. -/
theorem flatMap_lines_eq_self {ls : List Str} (h : ∀ line ∈ ls, CodePoint.lf ∉ line) :
    ls.flatMap Str.lines = ls := by
  induction ls with
  | nil => rfl
  | cons line ls ih =>
    rw [List.flatMap_cons, Str.lines_eq_singleton (h line (by simp)),
      ih fun l hl => h l (by simp [hl])]
    rfl

/-- How a builder writes a source: marker lines, lines for the rank, the title, a header with
the identifiers, and the content. -/
structure SourceFormat where
  marks : FrameMarks Str
  rankLines : ℕ → List Str
  header : RetrievedEvidence → List Str
  headerLength : ℕ
  rankLines_unmarked : ∀ k, marks.Unmarked (rankLines k)
  title_unmarked : ∀ line, marks.isMark (Str.ofString "Document: " ++ line) = false
  header_unmarked : ∀ item, marks.Unmarked (header item)
  header_form : ∀ item, HeaderForm (Str.ofString "Document ID: ").isPrefixOf (header item)
  header_length : ∀ item, (header item).length = headerLength
  header_lines : ∀ item, ∀ line ∈ header item, CodePoint.lf ∉ line
  header_text : ∀ item title content,
    header { item with documentTitle := title, content := content } = header item
  header_ids : ∀ item other, header item = header other →
    UUID.text item.documentId = UUID.text other.documentId ∧
      UUID.text item.chunkId = UUID.text other.chunkId

namespace SourceFormat

variable (f : SourceFormat)

/-- The lines between the markers of a source. -/
def body (rank : ℕ) (item : RetrievedEvidence) : List Str :=
  f.rankLines rank ++ (Str.ofString "Document: " ++ Str.firstLine item.documentTitle) ::
    (Str.laterLines item.documentTitle ++ f.header item ++ Str.lines item.content)

/-- The bodies of the sources. -/
def bodies (evidence : List RetrievedEvidence) : List (List Str) :=
  evidence.mapIdx fun index item => f.body (index + 1) item

/-- A source in whose texts no line looks like a marker and no lines look like a header. The
first line of the title stands behind a label. -/
structure Safe (item : RetrievedEvidence) : Prop where
  title_unmarked : f.marks.Unmarked (Str.laterLines item.documentTitle)
  content_unmarked : f.marks.Unmarked (Str.lines item.content)
  title_headless : ∀ other x y, Str.laterLines item.documentTitle ≠ x ++ f.header other ++ y
  content_headless : ∀ other x y, y ≠ [] → Str.lines item.content ≠ x ++ f.header other ++ y

variable {f}

/-- Only the texts of a source can have marks in its body. -/
theorem body_unmarked_iff (rank : ℕ) (item : RetrievedEvidence) :
    f.marks.Unmarked (f.body rank item) ↔
      f.marks.Unmarked (Str.laterLines item.documentTitle) ∧
        f.marks.Unmarked (Str.lines item.content) := by
  unfold body
  rw [FrameMarks.unmarked_append, FrameMarks.unmarked_cons, FrameMarks.unmarked_append,
    FrameMarks.unmarked_append]
  constructor
  · rintro ⟨-, -, ⟨htitle, -⟩, hcontent⟩
    exact ⟨htitle, hcontent⟩
  · rintro ⟨htitle, hcontent⟩
    exact ⟨f.rankLines_unmarked rank, f.title_unmarked _, ⟨htitle, f.header_unmarked item⟩,
      hcontent⟩

/-- What a reader wants to know about a source. -/
def sourceKey (item : RetrievedEvidence) : Str × Str × Str :=
  (UUID.text item.documentId, UUID.text item.chunkId, item.content)

/-- The body of a safe source can be read back. -/
theorem Safe.sourceKey_eq {item other : RetrievedEvidence} (h : f.Safe item) (rank : ℕ)
    (hbody : f.body rank item = f.body rank other) : sourceKey item = sourceKey other := by
  unfold body at hbody
  obtain ⟨-, hrest⟩ := List.cons.inj (List.append_cancel_left hbody)
  obtain ⟨hheader, hcontent⟩ := header_unique (f.header_form item) (f.header_form other)
    ((f.header_length item).trans (f.header_length other).symm)
    (Str.lines_ne_nil other.content) (h.title_headless other) (h.content_headless other) hrest
  obtain ⟨hdocument, hchunk⟩ := f.header_ids item other hheader
  rw [sourceKey, sourceKey, hdocument, hchunk, Str.lines_injective hcontent]

/-- A source with another title and another content. -/
theorem body_retitled (rank : ℕ) (item : RetrievedEvidence) {titleLines contentLines : List Str}
    (htitle : ∀ line ∈ titleLines, CodePoint.lf ∉ line) (htitle_ne : titleLines ≠ [])
    (hcontent : ∀ line ∈ contentLines, CodePoint.lf ∉ line) (hcontent_ne : contentLines ≠ []) :
    f.body rank { item with
      documentTitle := Str.ofLines titleLines, content := Str.ofLines contentLines } =
      f.rankLines rank ++ (Str.ofString "Document: " ++ titleLines.headD []) ::
        (titleLines.tail ++ f.header item ++ contentLines) := by
  unfold body
  rw [f.header_text, Str.firstLine, Str.laterLines,
    Str.lines_ofLines_of_not_mem htitle htitle_ne,
    Str.lines_ofLines_of_not_mem hcontent hcontent_ne]

/-- The header of a source has a line. -/
theorem header_length_pos (item : RetrievedEvidence) : 0 < (f.header item).length := by
  obtain ⟨line, rest, hheader, -⟩ := (f.header_form item).first
  rw [hheader]
  exact Nat.zero_lt_succ _

/-- A source that is not headless has the same body as a source with another content. -/
theorem exists_same_body {item : RetrievedEvidence}
    (h : (∃ other x y, Str.laterLines item.documentTitle = x ++ f.header other ++ y) ∨
      ∃ other x y, y ≠ [] ∧ Str.lines item.content = x ++ f.header other ++ y) :
    ∃ other, (∀ rank, f.body rank other = f.body rank item) ∧ other.content ≠ item.content := by
  have htitle : ∀ line ∈ Str.lines item.documentTitle, CodePoint.lf ∉ line :=
    fun line hline => Str.lf_not_mem_of_mem_lines hline
  have hcontent : ∀ line ∈ Str.lines item.content, CodePoint.lf ∉ line :=
    fun line hline => Str.lf_not_mem_of_mem_lines hline
  have hheader := f.header_lines item
  have hpos := f.header_length_pos item
  rw [Str.lines_eq_cons] at htitle
  rcases h with ⟨other, x, y, heq⟩ | ⟨other, x, y, hy, heq⟩
  · -- the title ends in front of the header in it, and the rest belongs to the content
    have htitleLines : ∀ line ∈ Str.firstLine item.documentTitle :: x, CodePoint.lf ∉ line := by
      rw [heq] at htitle
      exact fun line hline => htitle line (by simp at hline ⊢; tauto)
    have hcontentLines : ∀ line ∈ y ++ f.header item ++ Str.lines item.content,
        CodePoint.lf ∉ line := by
      rw [heq] at htitle
      simp only [List.mem_append]
      rintro line ((hline | hline) | hline)
      · exact htitle line (by simp [hline])
      · exact hheader line hline
      · exact hcontent line hline
    refine ⟨_, fun rank => (f.body_retitled rank other htitleLines (by simp) hcontentLines
      (by simp [Str.lines_ne_nil])).trans ?_, fun hsame => ?_⟩
    · rw [body, heq]
      simp
    · have hlines := congrArg (fun s => (Str.lines s).length) hsame
      dsimp only at hlines
      rw [Str.lines_ofLines_of_not_mem hcontentLines (by simp [Str.lines_ne_nil])] at hlines
      simp only [List.length_append] at hlines
      omega
  · -- the title ends in front of the header in the content
    have htitleLines : ∀ line ∈ Str.firstLine item.documentTitle ::
        (Str.laterLines item.documentTitle ++ f.header item ++ x), CodePoint.lf ∉ line := by
      rw [heq] at hcontent
      simp only [List.mem_cons, List.mem_append]
      rintro line (hline | (hline | hline) | hline)
      · exact htitle line (by simp [hline])
      · exact htitle line (by simp [hline])
      · exact hheader line hline
      · exact hcontent line (by simp [hline])
    have hcontentLines : ∀ line ∈ y, CodePoint.lf ∉ line := by
      rw [heq] at hcontent
      exact fun line hline => hcontent line (by simp [hline])
    refine ⟨_, fun rank => (f.body_retitled rank other htitleLines (by simp) hcontentLines
      hy).trans ?_, fun hsame => ?_⟩
    · rw [body, heq]
      simp
    · have hlines := congrArg (fun s => (Str.lines s).length) hsame
      dsimp only at hlines
      rw [Str.lines_ofLines_of_not_mem hcontentLines hy, heq] at hlines
      have hpos' := f.header_length_pos other
      simp only [List.length_append] at hlines
      omega

/-- There is one body for each item. -/
theorem bodies_length (evidence : List RetrievedEvidence) :
    (f.bodies evidence).length = evidence.length :=
  List.length_mapIdx

/-- The markers of a context are those of its sources exactly if no text looks like one. -/
theorem filter_eq_marks_iff (preamble : List Str) (evidence : List RetrievedEvidence) :
    (preamble ++ f.marks.frames 1 (f.bodies evidence)).filter f.marks.isMark =
        f.marks.marks 1 evidence.length ↔
      f.marks.Unmarked preamble ∧ ∀ item ∈ evidence,
        f.marks.Unmarked (Str.laterLines item.documentTitle) ∧
          f.marks.Unmarked (Str.lines item.content) := by
  rw [← f.bodies_length evidence, FrameMarks.filter_eq_marks_iff]
  refine and_congr_right fun _ => ⟨fun h item hitem => ?_, fun h body hbody => ?_⟩
  · obtain ⟨k, hk, rfl⟩ := List.mem_iff_getElem.mp hitem
    refine (body_unmarked_iff (k + 1) _).mp (h _ ?_)
    exact List.mem_mapIdx.mpr ⟨k, hk, rfl⟩
  · obtain ⟨k, hk, rfl⟩ := List.mem_mapIdx.mp hbody
    exact (body_unmarked_iff (k + 1) _).mpr (h _ (List.getElem_mem hk))

/-- The bodies of safe sources have no marks. -/
theorem bodies_unmarked {evidence : List RetrievedEvidence}
    (hsafe : ∀ item ∈ evidence, f.Safe item) :
    ∀ body ∈ f.bodies evidence, f.marks.Unmarked body := by
  intro body hbody
  obtain ⟨k, hk, rfl⟩ := List.mem_mapIdx.mp hbody
  have hitem := hsafe _ (List.getElem_mem hk)
  exact (body_unmarked_iff (k + 1) _).mpr ⟨hitem.title_unmarked, hitem.content_unmarked⟩

/-- The bodies of safe sources can be read back. -/
theorem sourceKeys_eq {evidence other : List RetrievedEvidence}
    (hsafe : ∀ item ∈ evidence, f.Safe item) (h : f.bodies evidence = f.bodies other) :
    evidence.map sourceKey = other.map sourceKey := by
  have hlength : evidence.length = other.length := by
    rw [← f.bodies_length evidence, h, f.bodies_length]
  refine List.ext_getElem (by simp [hlength]) fun k hk hk' => ?_
  rw [List.length_map] at hk hk'
  rw [List.getElem_map, List.getElem_map]
  refine (hsafe _ (List.getElem_mem hk)).sourceKey_eq (k + 1) ?_
  have hbody := List.getElem_of_eq h (i := k) (by rwa [f.bodies_length])
  unfold bodies at hbody
  rwa [List.getElem_mapIdx, List.getElem_mapIdx] at hbody

end SourceFormat

/-! ## The plain context -/

/-- The line and the identifiers in front of the content of a source. -/
def sourceHeader (item : RetrievedEvidence) : List Str :=
  [Str.ofString "Document ID: " ++ UUID.text item.documentId,
    Str.ofString "Chunk ID: " ++ UUID.text item.chunkId,
    Str.ofString "Source type: " ++ item.sourceType.value,
    Str.ofString "Retrieval source: " ++ item.retrievalSource.value,
    Str.ofString "Similarity: " ++ (match item.similarityScore with
      | some score => Str.fixed 6 score
      | none => ("not_applicable" : String)),
    Str.ofString "Content:"]

/-- The lines of a source: its marks around the rank, the title, the header and the content. -/
theorem sourceLines_eq (rank : ℕ) (item : RetrievedEvidence) :
    sourceLines rank item =
      [sourceMarks.opening rank, Str.ofString "Rank: " ++ Str.decimal rank,
        Str.ofString "Document: " ++ item.documentTitle] ++
      sourceHeader item ++ [item.content, sourceMarks.closing rank] := rfl

/-- Every line of a header is one line. -/
theorem lf_not_mem_sourceHeader (item : RetrievedEvidence) :
    ∀ line ∈ sourceHeader item, CodePoint.lf ∉ line := by
  have hscore : CodePoint.lf ∉ (match item.similarityScore with
      | some score => Str.fixed 6 score
      | none => (("not_applicable" : String) : Str)) := by
    cases item.similarityScore with
    | none => decide +kernel
    | some score => exact Str.lf_not_mem_fixed 6 score
  unfold sourceHeader
  simp only [List.forall_mem_cons]
  exact ⟨lf_not_mem_append (by decide +kernel) (UUID.lf_not_mem_text _),
    lf_not_mem_append (by decide +kernel) (UUID.lf_not_mem_text _),
    lf_not_mem_append (by decide +kernel) (KnowledgeSourceType.lf_not_mem_value _),
    lf_not_mem_append (by decide +kernel) (RetrievalSource.lf_not_mem_value _),
    lf_not_mem_append (by decide +kernel) hscore, by decide +kernel, List.forall_mem_nil _⟩

/-- A line with another label is not a marker of the context. -/
theorem sourceMarks_isMark_eq_false {label : Str} (rest : Str)
    (h : Differ ("BEGIN_SOURCE_" : String) label ∧ Differ ("END_SOURCE_" : String) label) :
    sourceMarks.isMark (label ++ rest) = false :=
  labelMarks_isMark_eq_false rest h.1 h.2

/-- A header begins with the identifier of the document, and with no other line of it. -/
theorem headerForm_of_differ (id : Str) (labelled : List (Str × Str))
    (h : ∀ line ∈ labelled, Differ ("Document ID: " : String) line.1) :
    HeaderForm (Str.ofString "Document ID: ").isPrefixOf
      ((Str.ofString "Document ID: " ++ id) :: labelled.map fun line => line.1 ++ line.2) := by
  refine ⟨_, _, rfl, List.isPrefixOf_iff_prefix.mpr (List.prefix_append _ _),
    fun other hother => ?_⟩
  obtain ⟨line, hline, rfl⟩ := List.mem_map.mp hother
  exact (h line hline).isPrefixOf_eq_false line.2

/-- The header of a source holds no marks. -/
theorem sourceHeader_unmarked (item : RetrievedEvidence) :
    sourceMarks.Unmarked (sourceHeader item) := by
  unfold sourceHeader
  simp only [FrameMarks.unmarked_cons]
  refine ⟨?_, ?_, ?_, ?_, ?_, by decide +kernel, FrameMarks.Unmarked.nil⟩
  all_goals exact sourceMarks_isMark_eq_false _ (by decide +kernel)

/-- The header of a source has the form that is told from a content. -/
theorem sourceHeader_form (item : RetrievedEvidence) :
    HeaderForm (Str.ofString "Document ID: ").isPrefixOf (sourceHeader item) := by
  refine headerForm_of_differ (UUID.text item.documentId)
    [(Str.ofString "Chunk ID: ", UUID.text item.chunkId),
      (Str.ofString "Source type: ", item.sourceType.value),
      (Str.ofString "Retrieval source: ", item.retrievalSource.value),
      (Str.ofString "Similarity: ", match item.similarityScore with
        | some score => Str.fixed 6 score
        | none => ("not_applicable" : String)),
      (Str.ofString "Content:", [])] ?_
  simp only [List.forall_mem_cons]
  exact ⟨by decide +kernel, by decide +kernel, by decide +kernel, by decide +kernel,
    by decide +kernel, List.forall_mem_nil _⟩

/-- The header of a source tells the identifiers. -/
theorem sourceHeader_ids (item other : RetrievedEvidence)
    (h : sourceHeader item = sourceHeader other) :
    UUID.text item.documentId = UUID.text other.documentId ∧
      UUID.text item.chunkId = UUID.text other.chunkId := by
  obtain ⟨hdocument, hrest⟩ := List.cons.inj h
  obtain ⟨hchunk, -⟩ := List.cons.inj hrest
  exact ⟨List.append_cancel_left hdocument, List.append_cancel_left hchunk⟩

/-- The sources of `build_rag_context`. -/
def ragFormat : SourceFormat where
  marks := sourceMarks
  rankLines rank := [Str.ofString "Rank: " ++ Str.decimal rank]
  header := sourceHeader
  headerLength := 6
  rankLines_unmarked k := by
    rw [FrameMarks.unmarked_cons]
    exact ⟨sourceMarks_isMark_eq_false _ (by decide +kernel), FrameMarks.Unmarked.nil⟩
  title_unmarked line := sourceMarks_isMark_eq_false _ (by decide +kernel)
  header_unmarked := sourceHeader_unmarked
  header_form := sourceHeader_form
  header_length item := rfl
  header_lines := lf_not_mem_sourceHeader
  header_text item title content := rfl
  header_ids := sourceHeader_ids

/-- The lines of one source. -/
theorem lines_sourceLines (rank : ℕ) (item : RetrievedEvidence) :
    Str.lines (Str.ofLines (sourceLines rank item)) =
      sourceMarks.opening rank :: (ragFormat.body rank item ++ [sourceMarks.closing rank]) := by
  have hopening : Str.lines (sourceMarks.opening rank) = [sourceMarks.opening rank] :=
    Str.lines_eq_singleton (lf_not_mem_append (by decide +kernel) (Str.lf_not_mem_decimal rank))
  have hrank := Str.lines_eq_singleton
    (lf_not_mem_append (show CodePoint.lf ∉ Str.ofString "Rank: " by decide +kernel)
      (Str.lf_not_mem_decimal rank))
  have hclosing : Str.lines (sourceMarks.closing rank) = [sourceMarks.closing rank] :=
    Str.lines_eq_singleton (lf_not_mem_append (by decide +kernel) (Str.lf_not_mem_decimal rank))
  have htitle := Str.lines_labelled
    (show CodePoint.lf ∉ Str.ofString "Document: " by decide +kernel) item.documentTitle
  rw [sourceLines_eq, List.append_assoc, List.cons_append, Str.lines_ofLines]
  simp only [List.cons_append, List.nil_append, List.flatMap_cons, List.flatMap_append, hopening,
    hrank, htitle, hclosing, flatMap_lines_eq_self (lf_not_mem_sourceHeader item),
    SourceFormat.body, ragFormat, List.flatMap_nil, List.append_assoc]

/-- The first line of a context. -/
def ragStatus (evidence : List RetrievedEvidence) : Str :=
  if evidence = [] then noEvidenceContext
  else Str.ofString "EXTERNAL_KNOWLEDGE_STATUS: RELEVANT_EVIDENCE_RETRIEVED"

/-- The lines of a context are framed sources. -/
theorem lines_buildRagContext (evidence : List RetrievedEvidence) :
    Str.lines (buildRagContext evidence) =
      [] ++ [ragStatus evidence] ++ sourceMarks.frames 1 (ragFormat.bodies evidence) := by
  unfold buildRagContext ragStatus
  split
  · rename_i hempty
    subst hempty
    exact Str.lines_eq_singleton (lf_not_mem_ofList (by decide +kernel))
  · rw [Str.lines_ofSections, Str.lines_eq_singleton (lf_not_mem_ofList (by decide +kernel))]
    rw [flatMap_mapIdx_eq_frames sourceMarks rfl lines_sourceLines evidence 1]
    rfl

/-- The status line is no mark. -/
theorem ragStatus_isMark (evidence : List RetrievedEvidence) :
    sourceMarks.isMark (ragStatus evidence) = false := by
  unfold ragStatus
  split
  · decide +kernel
  · decide +kernel

/-- The context keeps the boundaries of its sources: its marker lines are those of the sources
in order, and no other evidence gives the same context unless it has the same identifiers and
contents. -/
structure KeepsSources (evidence : List RetrievedEvidence) : Prop where
  markers : (Str.lines (buildRagContext evidence)).filter sourceMarks.isMark =
    sourceMarks.marks 1 evidence.length
  readBack : ∀ other, buildRagContext other = buildRagContext evidence →
    other.map SourceFormat.sourceKey = evidence.map SourceFormat.sourceKey

/-- The boundaries are kept exactly if every source is safe. -/
theorem keepsSources_iff (evidence : List RetrievedEvidence) :
    KeepsSources evidence ↔ ∀ item ∈ evidence, ragFormat.Safe item := by
  have hmarkers : (Str.lines (buildRagContext evidence)).filter sourceMarks.isMark =
      sourceMarks.marks 1 evidence.length ↔ ∀ item ∈ evidence,
        sourceMarks.Unmarked (Str.laterLines item.documentTitle) ∧
          sourceMarks.Unmarked (Str.lines item.content) := by
    rw [lines_buildRagContext]
    refine (ragFormat.filter_eq_marks_iff _ evidence).trans (and_iff_right ?_)
    exact FrameMarks.unmarked_cons.mpr ⟨ragStatus_isMark evidence, FrameMarks.Unmarked.nil⟩
  constructor
  · intro h item hitem
    obtain ⟨htitle, hcontent⟩ := hmarkers.mp h.markers item hitem
    have hsame : ¬ ∃ other, (∀ rank, ragFormat.body rank other = ragFormat.body rank item) ∧
        other.content ≠ item.content := by
      rintro ⟨other, hbody, hne⟩
      obtain ⟨k, hk, rfl⟩ := List.mem_iff_getElem.mp hitem
      have hbodies : ragFormat.bodies (evidence.set k other) = ragFormat.bodies evidence := by
        unfold SourceFormat.bodies
        refine List.ext_getElem (by simp) fun j hj hj' => ?_
        rw [List.getElem_mapIdx, List.getElem_mapIdx, List.getElem_set]
        split
        · rename_i hjk
          subst hjk
          exact hbody _
        · rfl
      have hstatus : ragStatus (evidence.set k other) = ragStatus evidence := by
        have hne : evidence ≠ [] := List.ne_nil_of_length_pos (by omega)
        rw [ragStatus, ragStatus, if_neg (by simpa using hne), if_neg hne]
      have hcontext : buildRagContext (evidence.set k other) = buildRagContext evidence := by
        apply Str.lines_injective
        rw [lines_buildRagContext, lines_buildRagContext, hbodies, hstatus]
      have hkeys := h.readBack _ hcontext
      rw [List.map_set] at hkeys
      have hkey := List.getElem_of_eq hkeys (i := k) (by simpa using hk)
      rw [List.getElem_set_self, List.getElem_map] at hkey
      exact hne (congrArg (fun key : Str × Str × Str => key.2.2) hkey)
    refine ⟨htitle, hcontent, fun other x y heq => hsame ?_, fun other x y hy heq => hsame ?_⟩
    · exact SourceFormat.exists_same_body (.inl ⟨other, x, y, heq⟩)
    · exact SourceFormat.exists_same_body (.inr ⟨other, x, y, hy, heq⟩)
  · intro hsafe
    refine ⟨hmarkers.mpr fun item hitem =>
      ⟨(hsafe item hitem).title_unmarked, (hsafe item hitem).content_unmarked⟩,
      fun other hcontext => ?_⟩
    have hlines := congrArg Str.lines hcontext
    rw [lines_buildRagContext, lines_buildRagContext] at hlines
    refine (SourceFormat.sourceKeys_eq hsafe ?_).symm
    exact FrameMarks.frames_unique (ragStatus_isMark other)
      (FrameMarks.unmarked_cons.mpr ⟨ragStatus_isMark evidence, FrameMarks.Unmarked.nil⟩)
      (SourceFormat.bodies_unmarked hsafe) hlines.symm

end AssessmentPlatform
