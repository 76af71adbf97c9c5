import AssessmentPlatform.Ingestion.Filenames
import AssessmentPlatform.Ingestion.Markdown
import AssessmentPlatform.Rag.Ingestion

/-!
# The limits of a Markdown upload

The file name, the parser, the model of a parsed document and the request for ingestion each bound
the same data. A Markdown file gets through all of them exactly if its first heading is a title, its
other headings are short, the rejoined sections are not too long, and the combined metadata has an
encoding within its limit.
-/

namespace AssessmentPlatform

open Library

/-! ## The source -/

/-- The MIME type that `ingest_upload` gives to the parser. -/
def uploadMimeType (contentType : Option Str) : Str :=
  let value := contentType.getD []
  (if value = [] then Str.ofString "application/octet-stream" else value).takeWhile (· ≠ 59)

/-- What `ingest_upload` makes of the exceptions of the parser. -/
def recoverParser {α : Type} : Except Failure α → Except Failure α
  | .ok a => .ok a
  | .error (.application e) => .error (.application e)
  | .error _ => .error (.application .documentParse)

/-- `parse_upload_metadata`, with the value that `json.loads` returns, if it returns one. -/
def parseUploadMetadata (loads : Str → Option Json) (value : Option Str) :
    Except Failure (List (Str × Json)) :=
  match value with
  | none => .ok []
  | some value =>
    if Str.strip value = [] then .ok []
    else if 100000 < value.length then .error (.application .invalidUploadMetadata)
    else match loads value with
      | some (.object fields) => .ok fields
      | _ => .error (.application .invalidUploadMetadata)

/-- The combined metadata of an uploaded document. -/
def uploadMetadata (casefold : Str → Str) (parsed : ParsedDocument.Fields)
    (userMetadata : List (Str × Json)) : Json :=
  .object
    [("file", .object
      [("filename", .str parsed.filename), ("mime_type", .str parsed.mimeType),
       ("file_extension", .str (casefold (PurePath.suffix parsed.filename))),
       ("file_format", .str parsed.fileFormat.value), ("parser_name", .str parsed.parserName),
       ("parser_version", parsed.parserVersion.elim .null .str),
       ("extraction_method", .str parsed.extractionMethod),
       ("page_count", parsed.pageCount.elim .null fun n => .int n),
       ("sections", .array (parsed.sections.map .str)), ("raw_binary_retained", .bool false)]),
     ("parser", .object parsed.metadata), ("user", .object userMetadata),
     ("content_trust", .str "untrusted_evidence")]

/-- `_build_request`. -/
def buildRequest (casefold : Str → Str) (parsed : ParsedDocument) (title : Option Str)
    (sourceType : Option KnowledgeSourceType) (userMetadata : List (Str × Json)) :
    Except Failure KnowledgeDocumentCreate.WithMetadata :=
  let given := title.getD []
  let resolvedTitle := Str.strip (if given = [] then parsed.title else given)
  if resolvedTitle = [] ∨ 300 < resolvedTitle.length then
    .error (.application .invalidUploadMetadata)
  else
    match KnowledgeDocumentCreate.WithMetadata.create resolvedTitle
        (sourceType.getD parsed.sourceType) parsed.text
        (uploadMetadata casefold parsed.toFields userMetadata) with
    | .ok request => .ok request
    | .error _ => .error (.application .documentParse)

/-- `ingest_upload` of a Markdown file up to the request. -/
def prepareMarkdown (casefold : Str → Str) (loads : Str → Option Json) (data : List UInt8)
    (filename : Str) (contentType title metadataJson : Option Str)
    (sourceType : Option KnowledgeSourceType) :
    Except Failure KnowledgeDocumentCreate.WithMetadata := do
  let parsed ← recoverParser
    (MarkdownDocumentParser.parse data filename (uploadMimeType contentType))
  let userMetadata ← parseUploadMetadata loads metadataJson
  buildRequest casefold parsed title sourceType userMetadata

/-! ## Characters -/

/-- A text can be encoded if no code point is a surrogate. -/
theorem Str.encodable_iff {s : Str} : s.encodable = true ↔ ∀ c ∈ s, c.isSurrogate = false := by
  simp [Str.encodable]

/-- What has been decoded can be encoded. -/
theorem encodable_decoded {data : List UInt8} {text : Str} (h : decodeUtf8Sig data = some text) :
    text.encodable = true := by
  obtain ⟨s, -, rfl⟩ := Option.map_eq_some_iff.mp h
  exact Str.encodable_ofString s

/-- What a line holds was in the text or in the line that it began with. -/
theorem mem_splitLinesFrom {line found : Str} {afterReturn : Bool} {s : Str} {c : CodePoint}
    (hfound : found ∈ splitLinesFrom line afterReturn s) (hc : c ∈ found) : c ∈ line ++ s := by
  induction s generalizing line afterReturn with
  | nil =>
    unfold splitLinesFrom at hfound
    split at hfound
    · cases hfound
    · rw [List.mem_singleton.mp hfound] at hc
      rwa [List.append_nil]
  | cons d rest ih =>
    unfold splitLinesFrom at hfound
    split_ifs at hfound
    · have hmem := ih hfound
      rw [List.mem_append] at hmem ⊢
      exact hmem.imp_right (List.mem_cons_of_mem d)
    · rcases List.mem_cons.mp hfound with rfl | hfound
      · exact List.mem_append_left _ hc
      · exact List.mem_append_right _ (List.mem_cons_of_mem d (ih hfound))
    · have hmem := ih hfound
      rwa [List.append_assoc] at hmem

/-- What a line holds was in the text. -/
theorem Str.mem_splitLines {s line : Str} {c : CodePoint} (hline : line ∈ s.splitLines)
    (hc : c ∈ line) : c ∈ s :=
  mem_splitLinesFrom hline hc

/-- What a heading holds was in its line. -/
theorem MatchesHeading.mem {line text : Str} (h : MatchesHeading line text) {c : CodePoint}
    (hc : c ∈ text) : c ∈ line := by
  obtain ⟨hashes, blanks, closing, rfl, -⟩ := h
  simp [hc]

/-- A heading line holds a hash sign. -/
theorem MatchesHeading.hash_mem {line text : Str} (h : MatchesHeading line text) :
    CodePoint.hash ∈ line := by
  obtain ⟨hashes, blanks, closing, rfl, ⟨hone, -, hhashes⟩, -⟩ := h
  obtain ⟨c, rest, rfl⟩ := List.exists_cons_of_length_pos hone
  rw [hhashes c List.mem_cons_self]
  simp

/-! ## Headings and runs -/

/-- The headings of a decoded file. -/
def headings (decoded : Str) : List Str := decoded.trim.splitLines.filterMap headingText

section Runs

variable {decoded : Str} (hencodable : decoded.encodable = true)

/-- A heading is stripped. -/
theorem strip_heading {heading : Str} (h : heading ∈ headings decoded) :
    Str.strip heading = heading := by
  obtain ⟨line, -, hfound⟩ := List.mem_filterMap.mp h
  obtain ⟨text, -, rfl⟩ := headingText_eq_some hfound
  exact Str.strip_strip text

include hencodable

/-- The headings of a decoded file are valid. -/
theorem heading_valid {heading : Str} (h : heading ∈ headings decoded) : heading.Valid := by
  obtain ⟨line, hline, hfound⟩ := List.mem_filterMap.mp h
  obtain ⟨text, hmatches, rfl⟩ := headingText_eq_some hfound
  refine ⟨Str.encodable_of_subset (fun c hc => ?_) hencodable, Str.trim_strip text⟩
  exact Str.mem_of_mem_trim (Str.mem_splitLines hline (hmatches.mem (Str.mem_of_mem_strip hc)))

/-- The text of a run of a decoded file can be encoded. -/
theorem encodable_runText {run : Run Str Str}
    (hrun : run ∈ cut headingText decoded.trim.splitLines) : (runText run).encodable = true := by
  refine Str.encodable_iff.mpr fun c hc => ?_
  rcases mem_join (Str.mem_of_mem_strip hc) with rfl | ⟨line, hline, hmem⟩
  · decide
  · refine Str.encodable_iff.mp hencodable c (Str.mem_of_mem_trim (Str.mem_splitLines ?_ hmem))
    rw [← (cuts_cut headingText decoded.trim.splitLines).items_eq]
    exact List.mem_flatMap_of_mem hrun hline

/-- A run is flushed without an error if the heading that opened it is short. -/
theorem runSegment_returns_iff {run : Run Str Str}
    (hrun : run ∈ cut headingText decoded.trim.splitLines) :
    (∃ segment, runSegment run = .ok segment) ↔ ∀ b ∈ run.opener, b.length ≤ 500 := by
  have hcuts := cuts_cut headingText decoded.trim.splitLines
  have hvalid : ∀ b ∈ run.opener, b.Valid := by
    intro b hb
    have hopener : some b ∈ (cut headingText decoded.trim.splitLines).map Run.opener :=
      hb ▸ List.mem_map_of_mem hrun
    rw [hcuts.openers_eq] at hopener
    obtain ⟨_, hmem, hsome⟩ := List.mem_map.mp ((List.mem_cons.mp hopener).resolve_left nofun)
    exact heading_valid hencodable (Option.some.inj hsome ▸ hmem)
  unfold runSegment
  by_cases htext : runText run = []
  · -- the line that opened a run shows in its text
    rw [if_neg (not_not.mpr htext)]
    refine ⟨fun _ b hb => ?_, fun _ => ⟨none, rfl⟩⟩
    obtain ⟨line, rest, hitems, hline, -⟩ := (hcuts.proper run hrun).opened b hb
    obtain ⟨text, hmatches, -⟩ := headingText_eq_some hline
    have hblank : Blank CodePoint.isSpace (Str.join [CodePoint.lf] run.items) :=
      trim_eq_nil_iff.mp htext
    have hhash := hblank CodePoint.hash
      (mem_join_of_mem _ (hitems ▸ List.mem_cons_self) hmatches.hash_mem)
    exact absurd hhash (by decide)
  · rw [if_pos htext]
    have hcreate : (∃ segment, ParsedDocumentSegment.create (runText run) none run.opener =
        .ok segment) ↔ ∀ b ∈ run.opener, b.length ≤ 500 := by
      refine except_dite_returns.trans ?_
      rw [map_trim_eq fun b hb => (hvalid b hb).2]
      constructor
      · rintro ⟨-, -, hopener⟩ b hb
        exact (hopener b hb).2
      · refine fun hshort => ⟨⟨⟨?_, Str.trim_trim _⟩, ?_⟩, nofun,
          fun b hb => ⟨hvalid b hb, hshort b hb⟩⟩
        · rw [runText, Str.trim_strip]
          exact encodable_runText hencodable hrun
        · rw [runText, Str.trim_strip]
          exact List.length_pos_iff.mpr htext
    rw [← hcreate]
    constructor
    · rintro ⟨segment, h⟩
      obtain ⟨created, hcreated, -⟩ := except_map_eq_ok.mp h
      exact ⟨created, hcreated⟩
    · rintro ⟨created, h⟩
      exact ⟨some created, by rw [h]; rfl⟩

/-- The loop over the lines returns if all headings are short. -/
theorem collectRuns_returns_iff :
    (∃ segments, (cut headingText decoded.trim.splitLines).foldlM collectRun [] = .ok segments) ↔
      ∀ heading ∈ headings decoded, heading.length ≤ 500 := by
  have hcuts := cuts_cut headingText decoded.trim.splitLines
  have hruns : (∀ run ∈ cut headingText decoded.trim.splitLines, ∀ b ∈ run.opener,
      b.length ≤ 500) ↔ ∀ heading ∈ headings decoded, heading.length ≤ 500 := by
    have hopeners : ∀ b, (∃ run ∈ cut headingText decoded.trim.splitLines, run.opener = some b) ↔
        b ∈ headings decoded := by
      intro b
      rw [← List.mem_map, hcuts.openers_eq, List.mem_cons, List.mem_map]
      simp [headings]
    constructor
    · intro h heading hheading
      obtain ⟨run, hrun, hopener⟩ := (hopeners heading).mpr hheading
      exact h run hrun heading hopener
    · exact fun h run hrun b hb => h b ((hopeners b).mp ⟨run, hrun, hb⟩)
  rw [← hruns]
  constructor
  · rintro ⟨segments, h⟩ run hrun
    exact (runSegment_returns_iff hencodable hrun).mp
      ((collectRuns_eq_ok (trim_opener hcuts) h).1 run hrun)
  · intro h
    refine foldlM_returns (fun run hrun segments => ?_) []
    obtain ⟨segment, hsegment⟩ := (runSegment_returns_iff hencodable hrun).mpr (h run hrun)
    exact ⟨segments ++ segment.toList, by rw [collectRun, hsegment]; rfl⟩

/-- The text of the parsed document. -/
theorem rejoined_valid (hblank : Str.strip decoded ≠ []) :
    (Str.join [CodePoint.lf, CodePoint.lf] (sectionTexts decoded)).Valid ∧
      0 < (Str.join [CodePoint.lf, CodePoint.lf] (sectionTexts decoded)).length := by
  have hruns : ∀ text ∈ sectionTexts decoded, ∃ run ∈ cut headingText decoded.trim.splitLines,
      runText run ≠ [] ∧ text = runText run := by
    intro text htext
    obtain ⟨headed, hheaded, rfl⟩ := List.mem_map.mp htext
    obtain ⟨run, hrun, hsome⟩ := List.mem_filterMap.mp hheaded
    unfold headedText at hsome
    split_ifs at hsome with hnil
    cases hsome
    exact ⟨run, hrun, hnil, rfl⟩
  have hne : sectionTexts decoded ≠ [] := by
    intro hnil
    have hfilter := filter_sectionTexts decoded
    rw [hnil] at hfilter
    refine hblank (trim_eq_nil_iff.mpr fun c hc => ?_)
    have hc' := List.filter_eq_nil_iff.mp hfilter.symm c hc
    simpa using hc'
  have htrimmed : Trimmed CodePoint.isSpace
      (Str.join [CodePoint.lf, CodePoint.lf] (sectionTexts decoded)) := by
    refine Trimmed.intercalate _ hne fun text htext => ?_
    obtain ⟨run, -, hrun, rfl⟩ := hruns text htext
    exact (@trim_cases _ CodePoint.isSpace _).resolve_left hrun
  refine ⟨⟨Str.encodable_iff.mpr fun c hc => ?_, Str.trim_of_trimmed htrimmed⟩,
    List.length_pos_iff.mpr htrimmed.ne_nil⟩
  rcases mem_intercalate hc with hc | ⟨text, htext, hc⟩
  · have hlf : c = CodePoint.lf := by simpa using hc
    rw [hlf]
    decide
  · obtain ⟨run, hrun, -, rfl⟩ := hruns text htext
    exact Str.encodable_iff.mp (encodable_runText hencodable hrun) c hc

end Runs

/-! ## The parser -/

/-- The limits of the parser, for a file with some decoded text. -/
structure MarkdownFits (decoded filename mimeType : Str) : Prop where
  filename_fits : filename.trim.ValidWithin 255
  stem_fits : (PurePath.stem filename).trim.ValidWithin 300
  mimeType_fits : mimeType.trim.ValidWithin 200
  first_heading_fits :
    ∀ heading ∈ (headings decoded).head?, 0 < heading.length ∧ heading.length ≤ 300
  headings_fit : ∀ heading ∈ headings decoded, heading.length ≤ 500

/-- The texts that the text parsers write are valid. -/
theorem parser_texts_valid :
    (Str.ofString "utf8_text").trim.ValidWithin 100 ∧
      (Str.ofString "utf8_decode").trim.ValidWithin 100 ∧
      (Str.ofString "markdown_text").trim.ValidWithin 100 ∧
      (Str.ofString "utf8_markdown_preserved").trim.ValidWithin 100 ∧
      (Str.ofString "heading_count").trim.Valid := by
  decide +kernel

/-- The version of the parsers is valid. -/
theorem parserVersion_valid :
    ∀ s ∈ (some (Str.ofString "1")).map Str.trim, s.Valid ∧ s.length ≤ 100 := by
  rintro s ⟨⟩
  decide +kernel

section Parser

variable {data : List UInt8} {decoded filename mimeType : Str}
  (hdecode : decodeUtf8Sig data = some decoded)

include hdecode

/-- What the parser returns. -/
theorem MarkdownDocumentParser.parse_eq_ok {document : ParsedDocument}
    (h : MarkdownDocumentParser.parse data filename mimeType = .ok document) :
    ∃ segments : List ParsedDocumentSegment,
      segments.map ParsedDocumentSegment.text = sectionTexts decoded ∧
      document.toFields =
        (markdownFields filename mimeType (headings decoded) segments).trim := by
  rw [MarkdownDocumentParser.parse_eq] at h
  obtain ⟨plain, hplain, h⟩ := except_bind_eq_ok.mp h
  obtain ⟨segments, hsegments, hcreate⟩ := except_bind_eq_ok.mp h
  obtain ⟨text, htext, hplain⟩ := TextDocumentParser.parse_eq_ok hplain
  cases hdecode.symm.trans htext
  rw [hplain] at hsegments hcreate
  exact ⟨segments, collectRuns_texts hsegments, ParsedDocument.create_eq_ok hcreate⟩

variable (hblank : Str.strip decoded ≠ [])

include hblank

/-- The plain text parser only bounds the names. -/
theorem TextDocumentParser.parse_returns_iff :
    (∃ document, TextDocumentParser.parse data filename mimeType = .ok document) ↔
      filename.trim.ValidWithin 255 ∧ (PurePath.stem filename).trim.ValidWithin 300 ∧
        mimeType.trim.ValidWithin 200 := by
  have htext : decoded.trim.Valid ∧ 0 < decoded.trim.length :=
    ⟨⟨Str.encodable_of_subset (fun _ => Str.mem_of_mem_trim) (encodable_decoded hdecode),
      Str.trim_trim decoded⟩, List.length_pos_iff.mpr (Str.trim_ne_nil hblank)⟩
  obtain ⟨segment, hsegment⟩ : ∃ segment, ParsedDocumentSegment.create decoded none none =
      .ok segment := except_dite_returns.mpr ⟨htext, nofun, nofun⟩
  unfold TextDocumentParser.parse
  rw [hdecode]
  dsimp only
  rw [if_neg hblank, hsegment, except_ok_bind]
  refine except_dite_returns.trans ⟨fun h => ⟨h.filename, h.title, h.mimeType⟩, ?_⟩
  rintro ⟨hfilename, hstem, hmimeType⟩
  exact
    { text := htext
      title := hstem
      filename := hfilename
      mimeType := hmimeType
      pageCount := nofun
      sections := ⟨List.forall_mem_nil _, Nat.zero_le _⟩
      parserName := parser_texts_valid.1
      parserVersion := parserVersion_valid
      extractionMethod := parser_texts_valid.2.1
      metadata := List.forall_mem_nil _
      segments := Nat.le_of_ble_eq_true rfl }

/-- The parser returns exactly within its limits. -/
theorem MarkdownDocumentParser.parse_returns_iff (hcount : (headings decoded).length ≤ 1000) :
    (∃ document, MarkdownDocumentParser.parse data filename mimeType = .ok document) ↔
      MarkdownFits decoded filename mimeType := by
  have hencodable := encodable_decoded hdecode
  have hnames : (∃ document, TextDocumentParser.parse data filename mimeType = .ok document) ↔ _ :=
    TextDocumentParser.parse_returns_iff hdecode hblank
  constructor
  · rintro ⟨document, h⟩
    obtain ⟨segments', -, hfields⟩ := MarkdownDocumentParser.parse_eq_ok hdecode h
    rw [MarkdownDocumentParser.parse_eq] at h
    obtain ⟨plain, hplain, h⟩ := except_bind_eq_ok.mp h
    obtain ⟨segments, hsegments, -⟩ := except_bind_eq_ok.mp h
    obtain ⟨hfilename, hstem, hmimeType⟩ := hnames.mp ⟨plain, hplain⟩
    obtain ⟨text, htext, hplain⟩ := TextDocumentParser.parse_eq_ok hplain
    cases hdecode.symm.trans htext
    rw [hplain] at hsegments
    refine ⟨hfilename, hstem, hmimeType, fun heading hheading => ?_,
      (collectRuns_returns_iff hencodable).mp ⟨segments, hsegments⟩⟩
    have htitle := document.valid.title
    rw [hfields] at htitle
    change ((headings decoded).head?.getD (PurePath.stem filename)).trim.ValidWithin 300 at htitle
    rw [Option.mem_def.mp hheading, Option.getD_some,
      (heading_valid hencodable (List.mem_of_mem_head? hheading)).2] at htitle
    exact htitle.2
  · rintro ⟨hfilename, hstem, hmimeType, hfirst, hshort⟩
    obtain ⟨plain, hplain⟩ := hnames.mpr ⟨hfilename, hstem, hmimeType⟩
    obtain ⟨text, htext, hplainText⟩ := TextDocumentParser.parse_eq_ok hplain
    cases hdecode.symm.trans htext
    obtain ⟨segments, hsegments⟩ := (collectRuns_returns_iff hencodable).mpr hshort
    have htexts := collectRuns_texts hsegments
    rw [MarkdownDocumentParser.parse_eq, hplain, except_ok_bind, hplainText, hsegments,
      except_ok_bind]
    refine except_dite_returns.mpr
      { text := ?_
        title := ?_
        filename := hfilename
        mimeType := hmimeType
        pageCount := nofun
        sections := ⟨fun s hs => ?_, ?_⟩
        parserName := parser_texts_valid.2.2.1
        parserVersion := parserVersion_valid
        extractionMethod := parser_texts_valid.2.2.2.1
        metadata := ?_
        segments := ?_ }
    · change (Str.join [CodePoint.lf, CodePoint.lf]
        (segments.map ParsedDocumentSegment.text)).trim.Valid ∧
          0 < (Str.join [CodePoint.lf, CodePoint.lf]
            (segments.map ParsedDocumentSegment.text)).trim.length
      rw [htexts, (rejoined_valid hencodable hblank).1.2]
      exact rejoined_valid hencodable hblank
    · change ((headings decoded).head?.getD (PurePath.stem filename)).trim.ValidWithin 300
      cases hhead : (headings decoded).head? with
      | none => exact hstem
      | some heading =>
        have hvalid := heading_valid hencodable (List.mem_of_mem_head? hhead)
        rw [Option.getD_some, hvalid.2]
        exact ⟨hvalid, hfirst heading hhead⟩
    · obtain ⟨heading, hheading, rfl⟩ := List.mem_map.mp hs
      have hvalid := heading_valid hencodable hheading
      rwa [hvalid.2]
    · change ((headings decoded).map Str.trim).length ≤ 1000
      rwa [List.length_map]
    · intro field hfield
      rw [List.mem_singleton.mp hfield]
      exact parser_texts_valid.2.2.2.2
    · change segments.length ≤ 10000
      have hle : (sectionTexts decoded).length ≤ (headings decoded).length + 1 := by
        rw [sectionTexts, List.length_map]
        exact (List.length_filterMap_le _ _).trans_eq (cuts_cut headingText _).length_eq
      rw [← List.length_map ParsedDocumentSegment.text, htexts]
      omega

end Parser

/-! ## The request -/

namespace PurePath

/-- The last part of a path holds characters of the path. -/
theorem mem_of_mem_name {path : Str} {c : CodePoint} (h : c ∈ name path) : c ∈ path := by
  unfold name at h
  cases hlast : ((path.splitOn 47).filter fun part => part ≠ [] ∧ part ≠ [46]).getLast? with
  | none =>
    rw [hlast] at h
    cases h
  | some part =>
    rw [hlast] at h
    exact (mem_splitOn (List.mem_of_mem_filter (List.mem_of_getLast? hlast)) h).1

/-- The stem of a path holds characters of the path. -/
theorem mem_of_mem_stem {path : Str} {c : CodePoint} (h : c ∈ stem path) : c ∈ path := by
  refine mem_of_mem_name ?_
  unfold stem at h
  rcases splitName_cases (name path) with ⟨hsplit, -⟩ | ⟨front, back, hdot, hsplit⟩
  · rwa [hsplit] at h
  · rw [hsplit] at h
    rw [hdot.1]
    exact List.mem_append_left _ h

end PurePath

/-- Without control characters both libraries trim the same. -/
theorem Str.strip_eq_of_plain {s : Str} (h : ∀ c ∈ s, c.isControl = false) :
      Str.strip s = s.trim := by
  refine trim_congr fun c hc => ?_
  have hcontrol := h c hc
  simp only [CodePoint.isControl, Bool.or_eq_false_iff, decide_eq_false_iff_not] at hcontrol
  have hother : (28 ≤ c.val && c.val ≤ 31) = false := by
    rw [Bool.and_eq_false_imp]
    intro
    exact decide_eq_false hcontrol.1
  rw [CodePoint.isWhiteSpace, hother, Bool.not_false, Bool.and_true]

/-- The request passes its validation within the limits of its own texts and of the combined
metadata. -/
theorem buildRequest_returns_iff (casefold : Str → Str) (parsed : ParsedDocument)
    (title : Option Str) (sourceType : Option KnowledgeSourceType)
    (userMetadata : List (Str × Json)) :
    (∃ request, buildRequest casefold parsed title sourceType userMetadata = .ok request) ↔
      (Str.strip (if title.getD [] = [] then parsed.title else title.getD [])).ValidWithin 300 ∧
        parsed.text.length ≤ 1000000 ∧
        MetadataFits (uploadMetadata casefold parsed.toFields userMetadata) := by
  unfold buildRequest
  dsimp only
  have hstrip : ∀ t : Str, (Str.strip t).trim = Str.strip t := Str.trim_strip
  have hstripped := hstrip (if title.getD [] = [] then parsed.title else title.getD [])
  generalize Str.strip (if title.getD [] = [] then parsed.title else title.getD []) = resolved
    at hstripped ⊢
  have hcreate : (∃ request, KnowledgeDocumentCreate.WithMetadata.create resolved
      (sourceType.getD parsed.sourceType) parsed.text
      (uploadMetadata casefold parsed.toFields userMetadata) = .ok request) ↔
        resolved.ValidWithin 300 ∧ parsed.text.length ≤ 1000000 ∧
          MetadataFits (uploadMetadata casefold parsed.toFields userMetadata) := by
    obtain ⟨htext, hpos⟩ := parsed.valid.text
    refine except_dite_returns.trans ?_
    rw [hstripped, htext.2]
    exact and_congr_right fun _ => and_congr_left fun _ =>
      ⟨fun h => h.2.2, fun h => ⟨htext, hpos, h⟩⟩
  rw [← hcreate]
  split
  · rename_i hlength
    constructor
    · rintro ⟨request, h⟩
      cases h
    · intro h
      obtain ⟨⟨-, hpos, hle⟩, -⟩ := hcreate.mp h
      rcases hlength with hnil | hlong
      · rw [hnil] at hpos
        cases hpos
      · omega
  · constructor
    · rintro ⟨request, h⟩
      split at h
      · rename_i request' h'
        exact ⟨request', h'⟩
      · cases h
    · rintro ⟨request, h⟩
      exact ⟨request, by rw [h]⟩

/-! ## The upload -/

/-- The limits of a Markdown upload, from the decoded text of the file, its name and MIME type, and
what the caller gives. -/
structure UploadFits (casefold : Str → Str) (decoded filename mimeType : Str) (title : Option Str)
    (userMetadata : List (Str × Json)) : Prop extends MarkdownFits decoded filename mimeType where
  title_fits : ∀ t ∈ title, t ≠ [] → (Str.strip t).ValidWithin 300
  content_fits :
    (Str.join [CodePoint.lf, CodePoint.lf] (sectionTexts decoded)).length ≤ 1000000
  metadata_fits : MetadataFits (uploadMetadata casefold
    (markdownFields filename mimeType (headings decoded) []).trim userMetadata)

/-- The guard around a parser passes on what it returns. -/
theorem recoverParser_eq_ok {α : Type} {x : Except Failure α} {a : α} :
    recoverParser x = .ok a ↔ x = .ok a := by
  rcases x with (e | e | e | e) | b <;> simp [recoverParser]

/-- The title of a parsed Markdown file is one for the request. -/
theorem strip_parsed_title {decoded filename mimeType : Str}
    {segments : List ParsedDocumentSegment} (hplain : ∀ c ∈ filename, c.isControl = false) :
    Str.strip (markdownFields filename mimeType (headings decoded) segments).trim.title =
      (markdownFields filename mimeType (headings decoded) segments).trim.title := by
  change Str.strip ((headings decoded).head?.getD (PurePath.stem filename)).trim =
    ((headings decoded).head?.getD (PurePath.stem filename)).trim
  cases hhead : (headings decoded).head? with
  | none =>
    rw [Option.getD_none, Str.strip_eq_of_plain, Str.trim_trim]
    exact fun c hc => hplain c (PurePath.mem_of_mem_stem (Str.mem_of_mem_trim hc))
  | some heading =>
    have hheading := strip_heading (List.mem_of_mem_head? hhead)
    rw [Option.getD_some, ← hheading, Str.trim_strip, Str.strip_strip]

/-- A Markdown file becomes a request for ingestion exactly within the limits of the upload. -/
theorem markdown_upload_accepted_iff (casefold : Str → Str) (loads : Str → Option Json)
    {data : List UInt8} {decoded filename : Str} {name contentType title metadataJson : Option Str}
    {userMetadata : List (Str × Json)} (sourceType : Option KnowledgeSourceType)
    (hdecode : decodeUtf8Sig data = some decoded) (hblank : Str.strip decoded ≠ [])
    (hcount : (headings decoded).length ≤ 1000) (hname : sanitizeFilename name = .ok filename)
    (hmetadata : parseUploadMetadata loads metadataJson = .ok userMetadata) :
    (∃ request, prepareMarkdown casefold loads data filename contentType title metadataJson
      sourceType = .ok request) ↔
      UploadFits casefold decoded filename (uploadMimeType contentType) title userMetadata := by
  have hplain := (sanitizeFilename_safe hname).no_control
  have hparser : (∃ document, MarkdownDocumentParser.parse data filename
      (uploadMimeType contentType) = .ok document) ↔ _ :=
    MarkdownDocumentParser.parse_returns_iff hdecode hblank hcount
  have hbuild : ∀ parsed, MarkdownDocumentParser.parse data filename (uploadMimeType contentType) =
      .ok parsed →
      ((∃ request, buildRequest casefold parsed title sourceType userMetadata = .ok request) ↔
        (∀ t ∈ title, t ≠ [] → (Str.strip t).ValidWithin 300) ∧
        (Str.join [CodePoint.lf, CodePoint.lf] (sectionTexts decoded)).length ≤ 1000000 ∧
        MetadataFits (uploadMetadata casefold (markdownFields filename
          (uploadMimeType contentType) (headings decoded) []).trim userMetadata)) := by
    intro parsed hparse
    obtain ⟨segments, htexts, hfields⟩ := MarkdownDocumentParser.parse_eq_ok hdecode hparse
    have htitle : (Str.strip parsed.title).ValidWithin 300 := by
      have hstrip : Str.strip parsed.title = parsed.title := by
        rw [hfields]
        exact strip_parsed_title hplain
      rw [hstrip]
      exact parsed.valid.title
    have hgiven : (Str.strip (if title.getD [] = [] then parsed.title else
        title.getD [])).ValidWithin 300 ↔ ∀ t ∈ title, t ≠ [] → (Str.strip t).ValidWithin 300 := by
      cases title with
      | none => exact iff_of_true htitle nofun
      | some t =>
        rw [Option.getD_some]
        by_cases ht : t = []
        · rw [if_pos ht]
          refine iff_of_true htitle fun t' ht' hne => absurd ht ?_
          rwa [Option.some.inj ht']
        · rw [if_neg ht]
          refine ⟨fun h t' ht' _ => ?_, fun h => h t rfl ht⟩
          rwa [← Option.some.inj ht']
    have htext : parsed.text =
        Str.join [CodePoint.lf, CodePoint.lf] (sectionTexts decoded) := by
      rw [hfields, ← htexts]
      change (Str.join _ (segments.map ParsedDocumentSegment.text)).trim = Str.join _ _
      rw [htexts, (rejoined_valid (encodable_decoded hdecode) hblank).1.2]
    rw [buildRequest_returns_iff, hgiven, htext, hfields]
    rfl
  unfold prepareMarkdown
  constructor
  · rintro ⟨request, h⟩
    obtain ⟨parsed, hparsed, h⟩ := except_bind_eq_ok.mp h
    obtain ⟨user, huser, h⟩ := except_bind_eq_ok.mp h
    cases hmetadata.symm.trans huser
    have hparse := recoverParser_eq_ok.mp hparsed
    obtain ⟨htitle, hcontent, hmeta⟩ := (hbuild parsed hparse).mp ⟨request, h⟩
    exact ⟨hparser.mp ⟨parsed, hparse⟩, htitle, hcontent, hmeta⟩
  · rintro ⟨hfits, htitle, hcontent, hmeta⟩
    obtain ⟨parsed, hparse⟩ := hparser.mpr hfits
    obtain ⟨request, hrequest⟩ := (hbuild parsed hparse).mpr ⟨htitle, hcontent, hmeta⟩
    exact ⟨request, by
      rw [recoverParser_eq_ok.mpr hparse, except_ok_bind, hmetadata, except_ok_bind, hrequest]⟩

/-- A short file with one heading and a line of text. -/
theorem markdown_upload_accepted :
    ∃ request, prepareMarkdown id (fun _ => none) [0x23, 0x20, 0x62, 0x0A, 0x63] "a.md"
      (some "text/markdown") none none none = .ok request := by
  have hdecode : decodeUtf8Sig [0x23, 0x20, 0x62, 0x0A, 0x63] = some "# b\nc" := by decide +kernel
  have hname : sanitizeFilename (some "a.md") = .ok "a.md" := by decide +kernel
  exact (markdown_upload_accepted_iff id (fun _ => none) none hdecode (by decide +kernel)
    (by decide +kernel) hname rfl).mpr
    { filename_fits := by decide +kernel
      stem_fits := by decide +kernel
      mimeType_fits := by decide +kernel
      first_heading_fits := by decide +kernel
      headings_fit := by decide +kernel
      title_fits := nofun
      content_fits := by decide +kernel
      metadata_fits := by decide +kernel }

/-- A file whose first heading is blank: a legal file with one heading, which no limit of the upload
names, is not parsed. -/
theorem markdown_upload_refused :
    decodeUtf8Sig [0x23, 0x20, 0x20, 0x0A, 0x74] = some "#  \nt" ∧
      Str.strip "#  \nt" ≠ [] ∧ (Str.ofString "#  \nt").length ≤ 1000000 ∧
      (headings "#  \nt").length ≤ 1000 ∧ sanitizeFilename (some "a.md") = .ok "a.md" ∧
      parseUploadMetadata (fun _ => none) none = .ok [] ∧
      (prepareMarkdown id (fun _ => none) [0x23, 0x20, 0x20, 0x0A, 0x74] "a.md"
        (some "text/markdown") none none none).map (fun _ => ()) =
          .error (.application .documentParse) := by
  refine ⟨?_, ?_, ?_, ?_, ?_, rfl, ?_⟩ <;> decide +kernel

end AssessmentPlatform
