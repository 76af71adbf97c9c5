import AssessmentPlatform.Ingestion.ParsedDocument
import AssessmentPlatform.Library.Cuts
import AssessmentPlatform.Library.Selection
import AssessmentPlatform.Rag.Normalization

/-!
# Markdown files

`TextDocumentParser` decodes a file, and `MarkdownDocumentParser` goes through its lines with a
buffer that it flushes before each heading line. What it flushes are the runs of the lines that are
cut before the heading lines, so every segment stands under the heading that opened its run, and
nothing that is visible gets lost.
-/

namespace AssessmentPlatform

open Library

/-! ## The source -/

/-- `data.decode("utf-8-sig")`. -/
def decodeUtf8Sig (data : List UInt8) : Option Str :=
  let encoded := if [0xEF, 0xBB, 0xBF].isPrefixOf data then data.drop 3 else data
  (String.fromUTF8? ⟨encoded.toArray⟩).map Str.ofString

/-- The characters at which `str.splitlines` ends a line. -/
def CodePoint.isLineBreak (c : CodePoint) : Bool :=
  (10 ≤ c.val && c.val ≤ 13) || (28 ≤ c.val && c.val ≤ 30) || c.val == 0x85 || c.val == 0x2028 ||
    c.val == 0x2029

/-- The lines of the text that is left, behind what has been read of the current line. A line feed
behind a carriage return belongs to the same line break. -/
def splitLinesFrom (line : Str) (afterReturn : Bool) : Str → List Str
  | [] => if line = [] then [] else [line]
  | c :: rest =>
    if afterReturn = true ∧ c = CodePoint.lf then splitLinesFrom line false rest
    else if c.isLineBreak = true then line :: splitLinesFrom [] (c = CodePoint.cr) rest
    else splitLinesFrom (line ++ [c]) false rest

/-- `s.splitlines()`. -/
def Str.splitLines (s : Str) : List Str := splitLinesFrom [] false s

/-- The number sign. -/
def CodePoint.hash : CodePoint := 35

/-- Whether `\s*#*\s*$` matches. -/
def closesHeading (s : Str) : Bool :=
  (((s.dropWhile CodePoint.isSpace).dropWhile (· = CodePoint.hash)).dropWhile
    CodePoint.isSpace).isEmpty

/-- The shortest text that `(.+?)` can take in front of `\s*#*\s*$`. -/
def shortestText (s : Str) : Option Str :=
  ((List.range s.length).find? fun n => closesHeading (s.drop (n + 1))).map fun n => s.take (n + 1)

/-- `HEADING_PATTERN.match(line)` with the stripped text of its group, on a line without line
breaks: `^#{1,6}\s+(.+?)\s*#*\s*$`. -/
def headingText (line : Str) : Option Str :=
  let hashes := line.takeWhile (· = CodePoint.hash)
  let rest := line.dropWhile (· = CodePoint.hash)
  if 1 ≤ hashes.length ∧ hashes.length ≤ 6 then
    -- `\s+` takes all blanks and gives them back one by one
    ((List.range (rest.takeWhile CodePoint.isSpace).length).reverse.findSome? fun blanks =>
      shortestText (rest.drop (blanks + 1))).map Str.strip
  else none

/-- `TextDocumentParser.parse`. -/
def TextDocumentParser.parse (data : List UInt8) (filename mimeType : Str) :
    Except Failure ParsedDocument :=
  match decodeUtf8Sig data with
  | none => .error (.application .textDecode)
  | some text =>
    if Str.strip text = [] then .error (.application .documentParse)
    else do
      let segment ← ParsedDocumentSegment.create text none none
      ParsedDocument.create
        { text, title := PurePath.stem filename, filename, mimeType, fileFormat := .txt,
          sourceType := .text, parserName := "utf8_text", parserVersion := some "1",
          extractionMethod := "utf8_decode", segments := [segment] }

/-- The variables of the loop of `MarkdownDocumentParser.parse`. -/
structure MarkdownState where
  sections : List Str := []
  segments : List ParsedDocumentSegment := []
  block : List Str := []
  currentHeading : Option Str := none

/-- `flush`. -/
def MarkdownState.flush (s : MarkdownState) : Except Failure MarkdownState :=
  let text := Str.strip (Str.join [CodePoint.lf] s.block)
  if text ≠ [] then do
    let segment ← ParsedDocumentSegment.create text none s.currentHeading
    pure { s with segments := s.segments ++ [segment], block := [] }
  else pure { s with block := [] }

/-- One line. -/
def MarkdownState.step (s : MarkdownState) (line : Str) : Except Failure MarkdownState :=
  match headingText line with
  | some heading => do
    let s ← s.flush
    pure
      { s with
        currentHeading := some heading
        sections := s.sections ++ [heading]
        block := s.block ++ [line] }
  | none => pure { s with block := s.block ++ [line] }

/-- The fields of the document that `MarkdownDocumentParser.parse` returns. -/
def markdownFields (filename mimeType : Str) (sections : List Str)
    (segments : List ParsedDocumentSegment) : ParsedDocument.Fields where
  text := Str.join [CodePoint.lf, CodePoint.lf] (segments.map ParsedDocumentSegment.text)
  title := sections.head?.getD (PurePath.stem filename)
  filename := filename
  mimeType := mimeType
  fileFormat := .markdown
  sourceType := .markdown
  sections := sections
  parserName := "markdown_text"
  parserVersion := some "1"
  extractionMethod := "utf8_markdown_preserved"
  metadata := [("heading_count", .int sections.length)]
  segments := segments

/-- `MarkdownDocumentParser.parse`. -/
def MarkdownDocumentParser.parse (data : List UInt8) (filename mimeType : Str) :
    Except Failure ParsedDocument := do
  let decoded ← TextDocumentParser.parse data filename mimeType
  let s ← decoded.text.splitLines.foldlM MarkdownState.step {}
  let s ← s.flush
  ParsedDocument.create (markdownFields filename mimeType s.sections s.segments)

/-! ## Lines -/

/-- A line break is white space. -/
theorem CodePoint.isSpace_of_isLineBreak {c : CodePoint} (h : c.isLineBreak = true) :
    c.isSpace = true := by
  unfold CodePoint.isLineBreak at h
  unfold CodePoint.isSpace
  simp only [Bool.or_eq_true, Bool.and_eq_true, decide_eq_true_eq, beq_iff_eq] at h ⊢
  omega

/-- Only line breaks are missing in the lines. -/
theorem filter_splitLinesFrom (line : Str) (afterReturn : Bool) (s : Str) :
    ((splitLinesFrom line afterReturn s).flatten.filter fun c => !c.isSpace) =
      (line ++ s).filter fun c => !c.isSpace := by
  induction s generalizing line afterReturn with
  | nil =>
    unfold splitLinesFrom
    split
    · rename_i hline
      rw [hline]
      rfl
    · simp
  | cons c rest ih =>
    unfold splitLinesFrom
    split_ifs with hfeed hbreak
    · have hspace : c.isSpace = true := by rw [hfeed.2]; decide
      rw [ih, List.filter_append, List.filter_append, List.filter_cons, hspace]
      rfl
    · have hspace := CodePoint.isSpace_of_isLineBreak hbreak
      rw [List.flatten_cons, List.filter_append, ih, List.nil_append, List.filter_append,
        List.filter_cons, hspace]
      rfl
    · rw [ih, List.append_assoc]
      rfl

/-- The split into lines loses only white space. -/
theorem Str.filter_splitLines (s : Str) :
    (s.splitLines.flatten.filter fun c => !c.isSpace) = s.filter fun c => !c.isSpace :=
  filter_splitLinesFrom [] false s

/-! ## Heading lines -/

/-- The line consists of one to six number signs, white space, the text, and an end that
`\s*#*\s*$` matches. -/
def MatchesHeading (line text : Str) : Prop :=
  ∃ hashes blanks closing, line = hashes ++ blanks ++ text ++ closing ∧
    (1 ≤ hashes.length ∧ hashes.length ≤ 6 ∧ ∀ c ∈ hashes, c = CodePoint.hash) ∧
    (blanks ≠ [] ∧ Blank CodePoint.isSpace blanks) ∧ text ≠ [] ∧ closesHeading closing = true

/-- The shortest text is a nonempty front of the line, and what is behind it closes the heading. -/
theorem shortestText_eq_some {s text : Str} (h : shortestText s = some text) :
    text ≠ [] ∧ ∃ closing, s = text ++ closing ∧ closesHeading closing = true := by
  obtain ⟨n, hn, rfl⟩ := Option.map_eq_some_iff.mp h
  have hlength : n < s.length := List.mem_range.mp (List.mem_of_find?_eq_some hn)
  have hcloses := List.find?_some hn
  refine ⟨?_, s.drop (n + 1), (List.take_append_drop _ _).symm, hcloses⟩
  rw [← List.length_pos_iff, List.length_take]
  omega

/-- A shortest text is found where there is one. -/
theorem shortestText_isSome {text closing : Str} (htext : text ≠ [])
    (hclosing : closesHeading closing = true) : (shortestText (text ++ closing)).isSome = true := by
  have hpos := List.length_pos_iff.mpr htext
  rw [shortestText, Option.isSome_map, List.find?_isSome]
  refine ⟨text.length - 1, List.mem_range.mpr (by rw [List.length_append]; omega), ?_⟩
  rwa [Nat.sub_add_cancel hpos, List.drop_left]

/-- What the pattern finds in a line. -/
theorem headingText_eq_some {line heading : Str} (h : headingText line = some heading) :
    ∃ text, MatchesHeading line text ∧ heading = Str.strip text := by
  unfold headingText at h
  dsimp only at h
  split at h
  · rename_i hcount
    obtain ⟨text, hfound, rfl⟩ := Option.map_eq_some_iff.mp h
    obtain ⟨blanks, hblanks, hshortest⟩ := List.exists_of_findSome?_eq_some hfound
    obtain ⟨htext, closing, hsplit, hclosing⟩ := shortestText_eq_some hshortest
    rw [List.mem_reverse, List.mem_range] at hblanks
    generalize hrest : line.dropWhile (· = CodePoint.hash) = rest at hblanks hsplit
    have htake : rest.take (blanks + 1) = (rest.takeWhile CodePoint.isSpace).take (blanks + 1) := by
      conv_lhs => rw [← List.takeWhile_append_dropWhile (p := CodePoint.isSpace) (l := rest)]
      rw [List.take_append_of_le_length hblanks]
    refine ⟨text, ⟨line.takeWhile (· = CodePoint.hash), rest.take (blanks + 1), closing, ?_,
      ⟨hcount.1, hcount.2, fun c hc => by simpa using List.mem_takeWhile_imp hc⟩, ⟨?_, ?_⟩, htext,
      hclosing⟩, rfl⟩
    · rw [List.append_assoc, ← hsplit, List.append_assoc, List.take_append_drop, ← hrest,
        List.takeWhile_append_dropWhile]
    · rw [htake, ← List.length_pos_iff, List.length_take]
      omega
    · rw [htake]
      exact fun c hc => List.mem_takeWhile_imp (List.mem_of_mem_take hc)
  · cases h

/-- The pattern finds something where there is something to be found. -/
theorem headingText_isSome {line text : Str} (h : MatchesHeading line text) :
    (headingText line).isSome = true := by
  obtain ⟨hashes, blanks, closing, rfl, ⟨hone, hsix, hhashes⟩, ⟨hblanks, hspace⟩, htext,
    hclosing⟩ := h
  obtain ⟨blank, more, rfl⟩ := List.exists_cons_of_ne_nil hblanks
  have hblank : blank ≠ CodePoint.hash := by
    rintro rfl
    exact absurd (hspace _ List.mem_cons_self) (by decide)
  have hall : ∀ c ∈ hashes, decide (c = CodePoint.hash) = true := by simpa using hhashes
  have htake : ((hashes ++ blank :: more ++ text ++ closing).takeWhile (· = CodePoint.hash)) =
      hashes := by
    rw [List.append_assoc, List.append_assoc, List.takeWhile_append_of_pos hall, List.cons_append,
      List.takeWhile_cons_of_neg (by simpa using hblank), List.append_nil]
  have hdrop : ((hashes ++ blank :: more ++ text ++ closing).dropWhile (· = CodePoint.hash)) =
      blank :: more ++ (text ++ closing) := by
    rw [List.append_assoc, List.append_assoc, List.dropWhile_append_of_pos hall, List.cons_append,
      List.dropWhile_cons_of_neg (by simpa using hblank)]
  unfold headingText
  dsimp only
  rw [htake, hdrop, if_pos ⟨hone, hsix⟩, Option.isSome_map, List.findSome?_isSome_iff]
  refine ⟨more.length, List.mem_reverse.mpr (List.mem_range.mpr ?_), ?_⟩
  · rw [List.takeWhile_append_of_pos hspace, List.length_append, List.length_cons]
    omega
  · rw [← List.length_cons (a := blank), List.drop_left]
    exact shortestText_isSome htext hclosing

/-- A line has a heading exactly if the pattern matches it. -/
theorem headingText_isSome_iff (line : Str) :
    (headingText line).isSome = true ↔ ∃ text, MatchesHeading line text := by
  constructor
  · intro h
    obtain ⟨heading, hheading⟩ := Option.isSome_iff_exists.mp h
    obtain ⟨text, hmatches, -⟩ := headingText_eq_some hheading
    exact ⟨text, hmatches⟩
  · rintro ⟨text, hmatches⟩
    exact headingText_isSome hmatches

/-! ## The loop -/

/-- The stripped text of the lines of a run. -/
def runText (run : Run Str Str) : Str := Str.strip (Str.join [CodePoint.lf] run.items)

/-- What a flush makes of a run. -/
def runSegment (run : Run Str Str) : Except Failure (Option ParsedDocumentSegment) :=
  if runText run ≠ [] then (ParsedDocumentSegment.create (runText run) none run.opener).map some
  else .ok none

/-- The segments with that of one more run. -/
def collectRun (segments : List ParsedDocumentSegment) (run : Run Str Str) :
    Except Failure (List ParsedDocumentSegment) :=
  (runSegment run).map fun segment => segments ++ segment.toList

/-- A flush collects the run of the current heading. -/
theorem MarkdownState.flush_eq (s : MarkdownState) :
    s.flush = (collectRun s.segments { opener := s.currentHeading, items := s.block }).map
      fun segments => { s with segments, block := [] } := by
  unfold MarkdownState.flush collectRun runSegment runText
  dsimp only
  split
  · cases ParsedDocumentSegment.create (Str.strip (Str.join [CodePoint.lf] s.block)) none
      s.currentHeading <;> rfl
  · simp only [except_map_ok, Option.toList_none, List.append_nil]
    rfl

/-- The loop and the last flush collect the segments of the runs, and the headings. -/
theorem loop_eq (lines : List Str) (s : MarkdownState) :
    (lines.foldlM MarkdownState.step s >>= MarkdownState.flush).map
        (fun s => (s.sections, s.segments)) =
      ((cutFrom headingText { opener := s.currentHeading, items := s.block } lines).foldlM
        collectRun s.segments).map
          fun segments => (s.sections ++ lines.filterMap headingText, segments) := by
  induction lines generalizing s with
  | nil =>
    rw [cutFrom, List.foldlM_cons, List.foldlM_nil, pure_bind, MarkdownState.flush_eq]
    cases collectRun s.segments { opener := s.currentHeading, items := s.block } <;> simp
  | cons line rest ih =>
    rw [List.foldlM_cons, bind_assoc, MarkdownState.step]
    cases hline : headingText line with
    | some heading =>
      rw [cutFrom_cons_some hline, List.foldlM_cons, List.filterMap_cons_some hline]
      dsimp only
      rw [MarkdownState.flush_eq]
      cases collectRun s.segments { opener := s.currentHeading, items := s.block } with
      | error e => rfl
      | ok segments =>
        refine (ih _).trans ?_
        simp
    | none =>
      rw [cutFrom_cons_none hline, List.filterMap_cons_none hline]
      exact ih _

/-- The heading of a run and its text, if there is text. -/
def headedText (run : Run Str Str) : Option (Option Str × Str) :=
  if runText run = [] then none else some (run.opener, runText run)

/-- The heading of a segment and its text. -/
def ParsedDocumentSegment.headed (segment : ParsedDocumentSegment) : Option Str × Str :=
  (segment.sectionHeading, segment.text)

/-- A segment that is created has the trimmed heading and text. -/
theorem ParsedDocumentSegment.create_eq_ok {text : Str} {pageNumber : Option ℕ}
    {sectionHeading : Option Str} {segment : ParsedDocumentSegment}
    (h : ParsedDocumentSegment.create text pageNumber sectionHeading = .ok segment) :
    segment.headed = (sectionHeading.map Str.trim, text.trim) := by
  unfold ParsedDocumentSegment.create at h
  split at h
  · cases h
    rfl
  · cases h

/-- A stripped opener stays as it is. -/
theorem map_trim_eq {opener : Option Str} (h : ∀ b ∈ opener, b.trim = b) :
    opener.map Str.trim = opener := by
  cases opener with
  | none => rfl
  | some b => exact congrArg some (h b rfl)

/-- The segment of a run has its heading and its text. -/
theorem runSegment_eq_ok {run : Run Str Str} {segment : Option ParsedDocumentSegment}
    (hopener : ∀ b ∈ run.opener, b.trim = b) (h : runSegment run = .ok segment) :
    segment.map ParsedDocumentSegment.headed = headedText run := by
  unfold runSegment at h
  unfold headedText
  split_ifs at h with htext
  · obtain ⟨created, hcreate, rfl⟩ := except_map_eq_ok.mp h
    rw [if_neg htext, Option.map_some, ParsedDocumentSegment.create_eq_ok hcreate,
      map_trim_eq hopener, runText, Str.trim_strip]
  · cases h
    rw [if_pos (not_not.mp htext), Option.map_none]

/-- The segments of all runs. -/
theorem collectRuns_eq_ok {runs : List (Run Str Str)} {segments result : List ParsedDocumentSegment}
    (hopeners : ∀ run ∈ runs, ∀ b ∈ run.opener, b.trim = b)
    (h : runs.foldlM collectRun segments = .ok result) :
    (∀ run ∈ runs, ∃ segment, runSegment run = .ok segment) ∧
      result.map ParsedDocumentSegment.headed =
        segments.map ParsedDocumentSegment.headed ++ runs.filterMap headedText := by
  induction runs generalizing segments with
  | nil =>
    cases h
    exact ⟨List.forall_mem_nil _, by simp⟩
  | cons run rest ih =>
    rw [List.foldlM_cons] at h
    obtain ⟨segments', hfirst, hrest⟩ := except_bind_eq_ok.mp h
    obtain ⟨segment, hsegment, rfl⟩ := except_map_eq_ok.mp hfirst
    obtain ⟨hopener, hothers⟩ := List.forall_mem_cons.mp hopeners
    obtain ⟨hreturn, hresult⟩ := ih hothers hrest
    refine ⟨List.forall_mem_cons.mpr ⟨⟨segment, hsegment⟩, hreturn⟩, ?_⟩
    rw [hresult, List.map_append, List.append_assoc, List.filterMap_cons,
      ← runSegment_eq_ok hopener hsegment]
    cases segment <;> rfl

/-- The parser as a loop over the runs of the lines. -/
theorem MarkdownDocumentParser.parse_eq (data : List UInt8) (filename mimeType : Str) :
    MarkdownDocumentParser.parse data filename mimeType = (do
      let decoded ← TextDocumentParser.parse data filename mimeType
      let segments ← (cut headingText decoded.text.splitLines).foldlM collectRun []
      ParsedDocument.create (markdownFields filename mimeType
        (decoded.text.splitLines.filterMap headingText) segments)) := by
  unfold MarkdownDocumentParser.parse
  refine congrArg _ (funext fun decoded => ?_)
  have hloop := loop_eq decoded.text.splitLines {}
  rw [← bind_assoc]
  unfold cut
  generalize decoded.text.splitLines.foldlM MarkdownState.step {} >>= MarkdownState.flush = x
    at hloop ⊢
  generalize (cutFrom headingText {} decoded.text.splitLines).foldlM collectRun [] = y at hloop ⊢
  cases x with
  | error e =>
    cases y with
    | error e' =>
      cases hloop
      rfl
    | ok segments => cases hloop
  | ok s =>
    cases y with
    | error e => cases hloop
    | ok segments =>
      obtain ⟨hsections, hsegments⟩ := Prod.ext_iff.mp (Except.ok.inj hloop)
      rw [except_ok_bind, except_ok_bind]
      exact congrArg ParsedDocument.create (congrArg₂ (markdownFields filename mimeType) hsections
        hsegments)

/-- A document that is created has the trimmed fields. -/
theorem ParsedDocument.create_eq_ok {fields : ParsedDocument.Fields} {document : ParsedDocument}
    (h : ParsedDocument.create fields = .ok document) : document.toFields = fields.trim := by
  unfold ParsedDocument.create at h
  split at h
  · cases h
    rfl
  · cases h

/-- A text file that is parsed has been decoded, and its text is trimmed. -/
theorem TextDocumentParser.parse_eq_ok {data : List UInt8} {filename mimeType : Str}
    {document : ParsedDocument}
    (h : TextDocumentParser.parse data filename mimeType = .ok document) :
    ∃ text, decodeUtf8Sig data = some text ∧ document.text = text.trim := by
  unfold TextDocumentParser.parse at h
  split at h
  · cases h
  · rename_i text hdecode
    split at h
    · cases h
    · obtain ⟨segment, -, hcreate⟩ := except_bind_eq_ok.mp h
      refine ⟨text, hdecode, ?_⟩
      rw [ParsedDocument.create_eq_ok hcreate]
      rfl

/-! ## Segments -/

/-- A cut before the heading lines has stripped openers. -/
theorem trim_opener {lines : List Str} {runs : List (Run Str Str)}
    (h : Cuts headingText lines runs) : ∀ run ∈ runs, ∀ b ∈ run.opener, b.trim = b := by
  intro run hrun b hb
  obtain ⟨line, -, -, hline, -⟩ := (h.proper run hrun).opened b hb
  obtain ⟨text, -, rfl⟩ := headingText_eq_some hline
  exact Str.trim_strip text

/-- The texts of the runs show what their lines show. -/
theorem filter_headedTexts (runs : List (Run Str Str)) :
    (((runs.filterMap headedText).map Prod.snd).flatten.filter fun c => !c.isSpace) =
      (runs.flatMap Run.items).flatten.filter fun c => !c.isSpace := by
  induction runs with
  | nil => rfl
  | cons run rest ih =>
    have hrun : ((runText run).filter fun c => !c.isSpace) =
        run.items.flatten.filter fun c => !c.isSpace := by
      rw [runText, Str.strip_eq_trim, filter_trim fun _ hc => hc, Str.join,
        filter_intercalate blank_lf]
    rw [List.flatMap_cons, List.flatten_append, List.filter_append, ← ih, ← hrun,
      List.filterMap_cons, headedText]
    by_cases htext : runText run = []
    · rw [if_pos htext, htext]
      rfl
    · rw [if_neg htext, ← List.filter_append]
      rfl

/-- What the validation library trims is white space of the language. -/
theorem CodePoint.isSpace_of_isWhiteSpace (c : CodePoint) (h : c.isWhiteSpace = true) :
    c.isSpace = true :=
  (Bool.and_eq_true_iff.mp h).1

/-- The texts of the runs of a decoded file that are not blank. -/
def sectionTexts (decoded : Str) : List Str :=
  ((cut headingText decoded.trim.splitLines).filterMap headedText).map Prod.snd

/-- The segments of a decoded file have the texts of its runs. -/
theorem collectRuns_texts {decoded : Str} {segments : List ParsedDocumentSegment}
    (h : (cut headingText decoded.trim.splitLines).foldlM collectRun [] = .ok segments) :
    segments.map ParsedDocumentSegment.text = sectionTexts decoded := by
  have hheaded : segments.map ParsedDocumentSegment.headed =
      (cut headingText decoded.trim.splitLines).filterMap headedText :=
    (collectRuns_eq_ok (trim_opener (cuts_cut headingText _)) h).2
  rw [sectionTexts, ← hheaded, List.map_map]
  rfl

/-- Joined, they show what the file shows. -/
theorem filter_sectionTexts (decoded : Str) :
    ((Str.join [CodePoint.lf, CodePoint.lf] (sectionTexts decoded)).filter fun c => !c.isSpace) =
      decoded.filter fun c => !c.isSpace := by
  have hgap : Blank CodePoint.isSpace [CodePoint.lf, CodePoint.lf] := blank_lf.append blank_lf
  rw [Str.join, filter_intercalate hgap, sectionTexts, filter_headedTexts,
    (cuts_cut headingText _).items_eq, Str.filter_splitLines,
    Str.trim_eq_trim, filter_trim CodePoint.isSpace_of_isWhiteSpace]

/-- The segments of a parsed file are the runs of the lines of its trimmed text that are cut before
the heading lines, without the blank ones, each under the heading that opened it. The sections are
the headings of all heading lines, which are those that the pattern matches, and the parsed text
shows the characters that the file shows. -/
theorem markdown_segments_eq_runs {data : List UInt8} {filename mimeType : Str}
    {document : ParsedDocument}
    (h : MarkdownDocumentParser.parse data filename mimeType = .ok document) :
    ∃ decoded runs, decodeUtf8Sig data = some decoded ∧
      Cuts headingText decoded.trim.splitLines runs ∧
      document.segments.map ParsedDocumentSegment.headed = runs.filterMap headedText ∧
      document.sections = decoded.trim.splitLines.filterMap headingText ∧
      (∀ line, (headingText line).isSome = true ↔ ∃ text, MatchesHeading line text) ∧
      (document.text.filter fun c => !c.isSpace) = decoded.filter fun c => !c.isSpace := by
  rw [MarkdownDocumentParser.parse_eq] at h
  obtain ⟨plain, hplain, h⟩ := except_bind_eq_ok.mp h
  obtain ⟨segments, hsegments, hcreate⟩ := except_bind_eq_ok.mp h
  obtain ⟨decoded, hdecode, htext⟩ := TextDocumentParser.parse_eq_ok hplain
  rw [htext] at hsegments hcreate
  have hcuts := cuts_cut headingText decoded.trim.splitLines
  have hheaded : segments.map ParsedDocumentSegment.headed =
      (cut headingText decoded.trim.splitLines).filterMap headedText :=
    (collectRuns_eq_ok (trim_opener hcuts) hsegments).2
  have hfields := ParsedDocument.create_eq_ok hcreate
  refine ⟨decoded, _, hdecode, hcuts, ?_, ?_, headingText_isSome_iff, ?_⟩
  · rw [hfields]
    exact hheaded
  · rw [hfields]
    change (decoded.trim.splitLines.filterMap headingText).map Str.trim = _
    rw [List.map_filterMap]
    refine List.filterMap_congr fun line _ => ?_
    cases hline : headingText line with
    | none => rfl
    | some heading =>
      obtain ⟨text, -, rfl⟩ := headingText_eq_some hline
      rw [Option.map_some, Str.trim_strip]
  · rw [hfields, ← filter_sectionTexts decoded, ← collectRuns_texts hsegments]
    exact filter_trim CodePoint.isSpace_of_isWhiteSpace _

/-- A file with a text in front of its first heading. -/
theorem markdown_segments_lead :
    ∃ document decoded runs,
      MarkdownDocumentParser.parse [0x61, 0x0A, 0x23, 0x20, 0x62, 0x0A, 0x63] "a.md" "text/plain" =
        .ok document ∧
      decodeUtf8Sig [0x61, 0x0A, 0x23, 0x20, 0x62, 0x0A, 0x63] = some decoded ∧
      Cuts headingText decoded.trim.splitLines runs ∧
      document.segments.map ParsedDocumentSegment.headed = runs.filterMap headedText := by
  obtain ⟨document, hparse⟩ := except_exists_of_toBool
    (x := MarkdownDocumentParser.parse [0x61, 0x0A, 0x23, 0x20, 0x62, 0x0A, 0x63] "a.md"
      "text/plain") (by decide +kernel)
  obtain ⟨decoded, runs, hdecode, hcuts, hsegments, -⟩ := markdown_segments_eq_runs hparse
  exact ⟨document, decoded, runs, hparse, hdecode, hcuts, hsegments⟩

end AssessmentPlatform
