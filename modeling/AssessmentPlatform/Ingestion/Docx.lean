import AssessmentPlatform.Ingestion.Segments

/-!
# DOCX files

`DOCXDocumentParser` goes through the paragraphs and tables of a document in their order. Every
paragraph with text becomes a segment, and so does every table with a row that shows something; a
heading paragraph heads itself and what follows it up to the next heading.
-/

namespace AssessmentPlatform

open Library

/-! ## The source -/

/-- The exceptions of the library and of the models, as far as `DOCXDocumentParser.parse` tells them
apart. -/
inductive DocxException where
  | packageNotFound | badZipFile | xmlSyntax | key | value | type | other
  deriving DecidableEq

/-- The exception handler of `DOCXDocumentParser.parse`. -/
def DocxException.handled : DocxException → Failure
  | .other => .other
  | _ => .application .documentParse

/-- A block of a document: a paragraph with its style, which may have no name, or a table with the
texts of the cells of its rows. -/
inductive DocxBlock where
  | paragraph (text : Str) (style : Option (Option Str))
  | table (rows : List (List Str))

/-- What the library makes of a file: `iter_inner_content` and the title of the core properties. -/
structure DocxFile where
  blocks : List (Except DocxException DocxBlock)
  coreTitle : Except DocxException (Option Str)

/-- The parser with its library: how it opens the bytes of a file, and its version. -/
structure DOCXDocumentParser where
  read : List UInt8 → Except DocxException DocxFile
  version : Str

/-- The variables of the loop of `_extract`. -/
structure DocxState where
  segments : List ParsedDocumentSegment := []
  sections : List Str := []
  currentHeading : Option Str := none

/-- A row of a table. -/
def rowText (cells : List Str) : Str := Str.join " | " (cells.map Str.strip)

/-- The characters that `row.strip(" |")` removes. -/
def CodePoint.isBar (c : CodePoint) : Bool := c == 32 || c == 124

/-- The rows of a table that show something. -/
def tableText (rows : List (List Str)) : Str :=
  Str.join [CodePoint.lf] ((rows.map rowText).filter fun row => trim CodePoint.isBar row ≠ [])

namespace DocxState

/-- Add a segment under the current heading. -/
def append (s : DocxState) (text : Str) : Except DocxException DocxState :=
  match ParsedDocumentSegment.create text none s.currentHeading with
  | .ok segment => .ok { s with segments := s.segments ++ [segment] }
  | .error _ => .error .value

/-- Begin a section. -/
def enter (s : DocxState) (heading : Str) : DocxState :=
  { s with currentHeading := some heading, sections := s.sections ++ [heading] }

/-- One block. A style without a name has no `startswith`. -/
def step (s : DocxState) (block : Except DocxException DocxBlock) :
    Except DocxException DocxState := do
  match ← block with
  | .paragraph text style =>
    if Str.strip text = [] then return s
    match style with
    | some none => throw .other
    | some (some styleName) =>
      if Str.ofString "Heading" <+: styleName then
        (s.enter (Str.strip text)).append (Str.strip text)
      else s.append (Str.strip text)
    | none => s.append (Str.strip text)
  | .table rows => if tableText rows ≠ [] then s.append (tableText rows) else return s

end DocxState

namespace DOCXDocumentParser

/-- The guarded statements of `parse`: the segments and sections, and the title. -/
def extract (parser : DOCXDocumentParser) (data : List UInt8) :
    Except DocxException (DocxState × Str) := do
  let document ← parser.read data
  let s ← document.blocks.foldlM DocxState.step {}
  let coreTitle ← document.coreTitle
  return (s, Str.strip (coreTitle.getD []))

/-- The title of a document. -/
def title (coreTitle : Str) (sections : List Str) (filename : Str) : Str :=
  (if coreTitle ≠ [] then coreTitle else sections.head?.getD (PurePath.stem filename)).take 300

/-- The fields of the document that `parse` returns. -/
def fields (parser : DOCXDocumentParser) (s : DocxState) (coreTitle filename mimeType : Str) :
    ParsedDocument.Fields where
  text := segmentsText s.segments
  title := title coreTitle s.sections filename
  filename := filename
  mimeType := mimeType
  fileFormat := .docx
  sourceType := .text
  sections := s.sections
  parserName := "python-docx"
  parserVersion := some parser.version
  extractionMethod := "ooxml_reading_order"
  metadata := [("heading_count", .int s.sections.length)]
  segments := s.segments

/-- `DOCXDocumentParser.parse`. -/
def parse (parser : DOCXDocumentParser) (data : List UInt8) (filename mimeType : Str) :
    Except Failure ParsedDocument :=
  match parser.extract data with
  | .error exception => .error exception.handled
  | .ok (s, coreTitle) =>
    if Str.strip (segmentsText s.segments) = [] then .error (.application .documentParse)
    else ParsedDocument.create (parser.fields s coreTitle filename mimeType)

end DOCXDocumentParser

/-! ## Blocks -/

namespace DocxBlock

/-- The text under which a block becomes a segment. -/
def text : DocxBlock → Str
  | .paragraph text _ => Str.strip text
  | .table rows => tableText rows

/-- The heading of a heading paragraph with text. -/
def heading : DocxBlock → Option Str
  | .paragraph text (some (some styleName)) =>
    if Str.strip text ≠ [] ∧ Str.ofString "Heading" <+: styleName then some (Str.strip text)
    else none
  | _ => none

/-- Every character that is in a block. -/
def content : DocxBlock → Str
  | .paragraph text _ => text
  | .table rows => rows.flatten.flatten

/-- Whether a block is a paragraph whose style has no name. -/
def unnamed : DocxBlock → Bool
  | .paragraph _ (some none) => true
  | _ => false

/-- What the loop requires of a block: the name of a style, a text that can be encoded, and a
heading that is not too long. -/
structure Accepted (block : DocxBlock) : Prop where
  named : block.text ≠ [] → block.unnamed = false
  encodable : block.text ≠ [] → block.text.trim.encodable = true
  heading_fits : ∀ heading ∈ block.heading, heading.length ≤ 500

variable {block : DocxBlock} {heading_ : Str}

/-- A heading paragraph shows its heading. -/
theorem heading_eq_some (h : block.heading = some heading_) :
    block.text = heading_ ∧ heading_ ≠ [] ∧ Str.strip heading_ = heading_ := by
  rcases block with ⟨text, _ | _ | styleName⟩ | rows
  · cases h
  · cases h
  · unfold heading at h
    dsimp only at h
    split_ifs at h with hshown
    cases h
    exact ⟨rfl, hshown.1, Str.strip_strip text⟩
  · cases h

/-- A cell that is not blank shows something between the bars of its row. -/
theorem exists_visible_of_row {cells : List Str} (h : trim CodePoint.isBar (rowText cells) ≠ []) :
    ∃ c ∈ rowText cells, c.isSpace = false := by
  have hbar : ∃ c ∈ rowText cells, c.isBar = false := by
    by_contra hnone
    push Not at hnone
    refine h (trim_eq_nil_iff.mpr fun c hc => ?_)
    simpa using hnone c hc
  obtain ⟨c, hc, hnot⟩ := hbar
  rcases mem_intercalate hc with hsep | ⟨cell, hcell, hmem⟩
  · have hbars : (Str.ofString " | ").all CodePoint.isBar = true := by decide +kernel
    rw [List.all_eq_true.mp hbars c hsep] at hnot
    cases hnot
  · obtain ⟨raw, hraw, rfl⟩ := List.mem_map.mp hcell
    have htrimmed : Trimmed CodePoint.isSpace (Str.strip raw) :=
      (@trim_cases _ CodePoint.isSpace raw).resolve_left (List.ne_nil_of_mem hmem)
    obtain ⟨first, tail, hhead, hfirst⟩ := htrimmed.head
    refine ⟨first, mem_join_of_mem _ hcell ?_, hfirst⟩
    rw [hhead]
    exact List.mem_cons_self

/-- A block that becomes a segment shows something. -/
theorem strip_text_ne_nil (h : block.text ≠ []) : Str.strip block.text ≠ [] := by
  rcases block with ⟨text, style⟩ | rows
  · change Str.strip (Str.strip text) ≠ []
    rwa [Str.strip_strip]
  · change Str.strip (tableText rows) ≠ []
    change tableText rows ≠ [] at h
    intro hblank
    have hrows : ((rows.map rowText).filter fun row => trim CodePoint.isBar row ≠ []) ≠ [] := by
      intro hnil
      unfold tableText at h
      rw [hnil] at h
      exact h rfl
    obtain ⟨row, rest, hrow⟩ := List.exists_cons_of_ne_nil hrows
    have hmem : row ∈ (rows.map rowText).filter fun row => trim CodePoint.isBar row ≠ [] :=
      hrow ▸ List.mem_cons_self
    obtain ⟨hmapped, hshown⟩ := List.mem_filter.mp hmem
    obtain ⟨cells, -, rfl⟩ := List.mem_map.mp hmapped
    obtain ⟨c, hc, hvisible⟩ := exists_visible_of_row (by simpa using hshown)
    have hspace := trim_eq_nil_iff.mp hblank c (mem_join_of_mem _ hmem hc)
    rw [hspace] at hvisible
    cases hvisible

end DocxBlock

/-! ## The loop -/

namespace DocxState

variable {s s' : DocxState} {block : DocxBlock} {text : Str}

/-- The heading and the text of every segment so far. -/
def headed (s : DocxState) : List (Option Str × Str) :=
  s.segments.map ParsedDocumentSegment.headed

/-- An append adds the trimmed text under the current heading. -/
theorem append_eq_ok (h : s.append text = .ok s') :
    text.trim.encodable = true ∧
      (∀ heading ∈ s.currentHeading, heading.trim.length ≤ 500) ∧
      s'.currentHeading = s.currentHeading ∧ s'.sections = s.sections ∧
      s'.headed = s.headed ++ [(s.currentHeading.map Str.trim, text.trim)] := by
  unfold append at h
  split at h
  · rename_i segment hcreate
    cases h
    have hsegment := ParsedDocumentSegment.create_eq_ok hcreate
    have htext : segment.text = text.trim := congrArg Prod.snd hsegment
    have hheading : segment.sectionHeading = s.currentHeading.map Str.trim :=
      congrArg Prod.fst hsegment
    refine ⟨htext ▸ segment.text_valid.1.1, fun heading hmem => ?_, rfl, rfl, ?_⟩
    · refine (segment.sectionHeading_valid heading.trim ?_).2
      rw [hheading, Option.mem_def.mp hmem]
      rfl
    · simp only [headed, List.map_append, List.map_singleton, hsegment]
  · cases h

/-- The append of a text that shows something returns under a heading of bounded length. -/
theorem append_returns (htext : text.trim.encodable = true) (hshown : Str.strip text ≠ [])
    (hheading : ∀ heading ∈ s.currentHeading, heading.Valid ∧ heading.length ≤ 500) :
    ∃ s', s.append text = .ok s' := by
  have hcreate : ∃ segment, ParsedDocumentSegment.create text none s.currentHeading =
      .ok segment := by
    refine except_dite_returns.mpr
      ⟨⟨⟨htext, Str.trim_trim text⟩, List.length_pos_iff.mpr (Str.trim_ne_nil hshown)⟩,
        by simp, ?_⟩
    rw [map_trim_eq fun heading hmem => (hheading heading hmem).1.2]
    exact hheading
  obtain ⟨segment, hsegment⟩ := hcreate
  unfold append
  rw [hsegment]
  exact ⟨_, rfl⟩

/-- The heading of the segments of a block, after some current heading. -/
def headingAfter (current : Option Str) (block : DocxBlock) : Option Str :=
  block.heading.or current

/-- What a block adds to the segments. -/
def added (heading : Option Str) (block : DocxBlock) : List (Option Str × Str) :=
  if block.text = [] then [] else [(heading, block.text.trim)]

/-- A state after a block: its heading is the current one, its section has been noted, and its text
has been added under the heading. -/
structure After (s : DocxState) (block : DocxBlock) (s' : DocxState) : Prop where
  currentHeading : s'.currentHeading = headingAfter s.currentHeading block
  sections : s'.sections = s.sections ++ block.heading.toList
  headed : s'.headed = s.headed ++ added s'.currentHeading block

/-- The current heading of a state is one that a segment can have. -/
def HeadingFits (s : DocxState) : Prop :=
  ∀ heading ∈ s.currentHeading, heading.Valid ∧ heading.length ≤ 500

/-- A block without a heading of its own. -/
theorem after_append (hnone : block.heading = none) (hshown : block.text ≠ [])
    (hcurrent : s.HeadingFits) (h : s.append block.text = .ok s') : s.After block s' := by
  obtain ⟨-, -, hheading, hsections, hheaded⟩ := append_eq_ok h
  have hafter : s'.currentHeading = headingAfter s.currentHeading block := by
    rw [hheading, headingAfter, hnone]
    rfl
  refine ⟨hafter, by rw [hsections, hnone, Option.toList_none, List.append_nil], ?_⟩
  rw [hheaded, added, if_neg hshown, hheading,
    map_trim_eq fun heading hmem => (hcurrent heading hmem).1.2]

/-- A heading paragraph. -/
theorem after_enter {heading : Str} (hsome : block.heading = some heading)
    (h : (s.enter heading).append heading = .ok s') : s.After block s' := by
  obtain ⟨htext, hne, hstrip⟩ := DocxBlock.heading_eq_some hsome
  obtain ⟨-, -, hheading, hsections, hheaded⟩ := append_eq_ok h
  have htrim : heading.trim = heading := by
    rw [← hstrip]
    exact Str.trim_strip heading
  have hafter : s'.currentHeading = headingAfter s.currentHeading block := by
    rw [hheading, headingAfter, hsome]
    rfl
  refine ⟨hafter, by rw [hsections, hsome]; rfl, ?_⟩
  rw [hheaded, added, htext, if_neg hne, hheading]
  simp only [enter, Option.map_some, htrim]
  rfl

/-- A block that adds nothing. -/
theorem after_self (hnone : block.heading = none) (hblank : block.text = []) : s.After block s where
  currentHeading := by rw [headingAfter, hnone, Option.none_or]
  sections := by rw [hnone, Option.toList_none, List.append_nil]
  headed := by rw [added, if_pos hblank, List.append_nil]

/-- What the loop does with a block. -/
theorem step_ok (s : DocxState) (block : DocxBlock) :
    s.step (.ok block) =
      if block.text = [] then .ok s
      else if block.unnamed then .error .other
      else match block.heading with
        | some heading => (s.enter heading).append heading
        | none => s.append block.text := by
  unfold step
  rw [except_ok_bind]
  rcases block with ⟨text, style⟩ | rows
  · by_cases hblank : Str.strip text = []
    · simp [DocxBlock.text, hblank, pure, Except.pure]
    · rcases style with _ | _ | styleName
      · simp [DocxBlock.text, DocxBlock.heading, DocxBlock.unnamed, hblank]
      · simp [DocxBlock.text, DocxBlock.unnamed, hblank, throw, throwThe, MonadExceptOf.throw]
      · by_cases hprefix : Str.ofString "Heading" <+: styleName
        · simp [DocxBlock.text, DocxBlock.heading, DocxBlock.unnamed, hblank, hprefix]
        · simp [DocxBlock.text, DocxBlock.heading, DocxBlock.unnamed, hblank, hprefix]
  · by_cases hblank : tableText rows = []
    · simp [DocxBlock.text, hblank, pure, Except.pure]
    · simp [DocxBlock.text, DocxBlock.heading, DocxBlock.unnamed, hblank]

/-- A block without text has no heading. -/
theorem heading_of_text_nil (h : block.text = []) : block.heading = none := by
  cases hheading : block.heading with
  | none => rfl
  | some heading =>
    obtain ⟨htext, hne, -⟩ := DocxBlock.heading_eq_some hheading
    exact absurd (htext.symm.trans h) hne

/-- A block that is gone through was accepted, and leaves what it should. -/
theorem step_eq_ok (hcurrent : s.HeadingFits) (h : s.step (.ok block) = .ok s') :
    block.Accepted ∧ s.After block s' := by
  rw [step_ok] at h
  by_cases hblank : block.text = []
  · rw [if_pos hblank] at h
    cases h
    have hnone := heading_of_text_nil hblank
    refine ⟨⟨fun hne => absurd hblank hne, fun hne => absurd hblank hne, ?_⟩,
      after_self hnone hblank⟩
    rw [hnone]
    simp
  · rw [if_neg hblank] at h
    cases hunnamed : block.unnamed with
    | true =>
      rw [hunnamed, if_pos rfl] at h
      cases h
    | false =>
      rw [hunnamed, if_neg Bool.false_ne_true] at h
      cases hheading : block.heading with
      | none =>
        rw [hheading] at h
        refine ⟨⟨fun _ => hunnamed, fun _ => (append_eq_ok h).1, ?_⟩,
          after_append hheading hblank hcurrent h⟩
        rw [hheading]
        simp
      | some heading =>
        rw [hheading] at h
        obtain ⟨htext, -, hstrip⟩ := DocxBlock.heading_eq_some hheading
        have htrim : heading.trim = heading := hstrip ▸ Str.trim_strip heading
        obtain ⟨hencodable, hfits, -⟩ := append_eq_ok h
        refine ⟨⟨fun _ => hunnamed, fun _ => htext ▸ hencodable, ?_⟩, after_enter hheading h⟩
        rintro _ hmem
        cases hheading.symm.trans (Option.mem_def.mp hmem)
        have hlength := hfits heading rfl
        rwa [htrim] at hlength

/-- An accepted block is gone through. -/
theorem step_returns (hcurrent : s.HeadingFits) (h : block.Accepted) :
    ∃ s', s.step (.ok block) = .ok s' := by
  rw [step_ok]
  by_cases hblank : block.text = []
  · rw [if_pos hblank]
    exact ⟨s, rfl⟩
  · have hshown := DocxBlock.strip_text_ne_nil hblank
    rw [if_neg hblank, h.named hblank, if_neg Bool.false_ne_true]
    cases hheading : block.heading with
    | none => exact append_returns (h.encodable hblank) hshown hcurrent
    | some heading =>
      obtain ⟨htext, -, hstrip⟩ := DocxBlock.heading_eq_some hheading
      have htrim : heading.trim = heading := hstrip ▸ Str.trim_strip heading
      have hencodable := h.encodable hblank
      rw [htext] at hencodable hshown
      refine append_returns hencodable hshown ?_
      rintro _ ⟨⟩
      rw [htrim] at hencodable
      exact ⟨⟨hencodable, htrim⟩, h.heading_fits heading hheading⟩

/-- The heading of a block that is accepted fits. -/
theorem After.headingFits (hcurrent : s.HeadingFits) (haccepted : block.Accepted)
    (h : s.After block s') : s'.HeadingFits := by
  unfold HeadingFits
  rw [h.currentHeading, headingAfter]
  cases hheading : block.heading with
  | none => exact hcurrent
  | some heading =>
    rintro _ ⟨⟩
    obtain ⟨htext, hne, hstrip⟩ := DocxBlock.heading_eq_some hheading
    have htrim : heading.trim = heading := hstrip ▸ Str.trim_strip heading
    have hencodable := haccepted.encodable (htext ▸ hne)
    rw [htext, htrim] at hencodable
    exact ⟨⟨hencodable, htrim⟩, haccepted.heading_fits heading hheading⟩

/-- The heading and the text of the segments of a run of blocks. -/
def runSegments (run : Run DocxBlock Str) : List (Option Str × Str) :=
  run.items.flatMap (added run.opener)

/-- The loop cuts the blocks before each heading. -/
theorem foldlM_step_eq_ok {blocks : List (Except DocxException DocxBlock)}
    {run : Run DocxBlock Str} {done : List (Option Str × Str)}
    (hopener : s.currentHeading = run.opener) (hcurrent : s.HeadingFits)
    (hdone : s.headed = done ++ runSegments run) (h : blocks.foldlM step s = .ok s') :
    ∃ items, blocks = items.map .ok ∧ (∀ item ∈ items, item.Accepted) ∧
      s'.sections = s.sections ++ items.filterMap DocxBlock.heading ∧
      s'.headed = done ++ (cutFrom DocxBlock.heading run items).flatMap runSegments := by
  induction blocks generalizing s run done with
  | nil =>
    cases h
    refine ⟨[], rfl, List.forall_mem_nil _, by simp, ?_⟩
    rw [hdone, cutFrom, List.flatMap_singleton]
  | cons block blocks ih =>
    rw [List.foldlM_cons] at h
    obtain ⟨s₁, hstep, hrest⟩ := except_bind_eq_ok.mp h
    cases block with
    | error exception => cases hstep
    | ok item =>
      obtain ⟨haccepted, hafter⟩ := step_eq_ok hcurrent hstep
      have hfits := hafter.headingFits hcurrent haccepted
      have hheading := hafter.currentHeading
      have hheaded := hafter.headed
      cases hitem : item.heading with
      | some heading =>
        rw [headingAfter, hitem, Option.some_or] at hheading
        rw [hheading] at hheaded
        have hnext : s₁.headed = (done ++ runSegments run) ++
            runSegments { opener := some heading, items := [item] } := by
          rw [hheaded, hdone]
          simp only [runSegments, List.flatMap_singleton]
        obtain ⟨items, rfl, hall, hsections, hsegments⟩ := ih hheading hfits hnext hrest
        refine ⟨item :: items, rfl, List.forall_mem_cons.mpr ⟨haccepted, hall⟩, ?_, ?_⟩
        · rw [hsections, hafter.sections, hitem, List.filterMap_cons_some hitem,
            Option.toList_some, List.append_assoc, List.singleton_append]
        · rw [hsegments, cutFrom_cons_some hitem, List.flatMap_cons, List.append_assoc]
      | none =>
        rw [headingAfter, hitem, Option.none_or, hopener] at hheading
        rw [hheading] at hheaded
        have hnext : s₁.headed = done ++
            runSegments { run with items := run.items ++ [item] } := by
          rw [hheaded, hdone, List.append_assoc]
          simp only [runSegments, List.flatMap_append, List.flatMap_singleton]
        have hsame : s₁.currentHeading =
            Run.opener { run with items := run.items ++ [item] } := hheading
        obtain ⟨items, rfl, hall, hsections, hsegments⟩ := ih hsame hfits hnext hrest
        refine ⟨item :: items, rfl, List.forall_mem_cons.mpr ⟨haccepted, hall⟩, ?_, ?_⟩
        · rw [hsections, hafter.sections, hitem, List.filterMap_cons_none hitem,
            Option.toList_none, List.append_nil]
        · rw [hsegments, cutFrom_cons_none hitem]

/-- The loop returns if every block is accepted. -/
theorem foldlM_step_returns {items : List DocxBlock} (hcurrent : s.HeadingFits)
    (hitems : ∀ item ∈ items, item.Accepted) :
    ∃ s', (items.map Except.ok).foldlM step s = .ok s' := by
  induction items generalizing s with
  | nil => exact ⟨s, rfl⟩
  | cons item items ih =>
    obtain ⟨haccepted, hrest⟩ := List.forall_mem_cons.mp hitems
    obtain ⟨s₁, hstep⟩ := step_returns hcurrent haccepted
    have hfits := (step_eq_ok hcurrent hstep).2.headingFits hcurrent haccepted
    rw [List.map_cons, List.foldlM_cons, hstep, except_ok_bind]
    exact ih hfits hrest

/-- At the start there is no heading to be bounded. -/
theorem headingFits_start : HeadingFits {} := by
  rintro _ ⟨⟩

end DocxState

/-! ## Characters -/

/-- White space and bars. -/
def CodePoint.isGap (c : CodePoint) : Bool := c.isSpace || c.isBar

/-- The characters of a text that are neither white space nor bars. -/
def Str.inked (s : Str) : Str := s.filter fun c => !c.isGap

/-- What is blank with bars is blank as a gap. -/
theorem Blank.gap {l : Str} (h : Blank CodePoint.isBar l) : Blank CodePoint.isGap l := by
  intro c hc
  rw [CodePoint.isGap, h c hc, Bool.or_true]

/-- Trimming removes no ink. -/
theorem inked_trim (s : Str) : s.trim.inked = s.inked := by
  refine filter_trim (fun c hc => ?_) s
  rw [CodePoint.isGap, (Bool.and_eq_true_iff.mp hc).1, Bool.true_or]

/-- Stripping removes no ink. -/
theorem inked_strip (s : Str) : (Str.strip s).inked = s.inked := by
  refine filter_trim (fun c hc => ?_) s
  rw [CodePoint.isGap, hc, Bool.true_or]

/-- A separator of gaps adds no ink. -/
theorem inked_join {sep : Str} (hsep : sep.all CodePoint.isGap = true) (texts : List Str) :
    (Str.join sep texts).inked = texts.flatMap Str.inked := by
  rw [Str.inked, Str.join, filter_intercalate (List.all_eq_true.mp hsep), List.flatMap_def]
  induction texts with
  | nil => rfl
  | cons text texts ih => rw [List.flatten_cons, List.filter_append, ih]; rfl

/-- A row of a table shows what is in its cells. -/
theorem inked_rowText (cells : List Str) : (rowText cells).inked = cells.flatMap Str.inked := by
  rw [rowText, inked_join (by decide +kernel), List.flatMap_map]
  exact List.flatMap_congr fun cell _ => inked_strip cell

/-- The rows that are left out show nothing but bars. -/
theorem inked_tableText (rows : List (List Str)) :
    (tableText rows).inked = rows.flatten.flatMap Str.inked := by
  rw [tableText, inked_join (by decide +kernel)]
  induction rows with
  | nil => rfl
  | cons cells rows ih =>
    rw [List.flatten_cons, List.flatMap_append, ← inked_rowText cells, ← ih, List.map_cons]
    by_cases hbars : trim CodePoint.isBar (rowText cells) = []
    · have hgap : (rowText cells).inked = [] := (Blank.gap (trim_eq_nil_iff.mp hbars)).filter_eq
      rw [List.filter_cons_of_neg (by simpa using hbars), hgap, List.nil_append]
    · rw [List.filter_cons_of_pos (by simpa using hbars), List.flatMap_cons]

/-- A block shows what is in it, but for white space and bars. -/
theorem DocxBlock.inked_text (block : DocxBlock) : block.text.inked = block.content.inked := by
  rcases block with ⟨text, style⟩ | rows
  · exact inked_strip text
  · change (tableText rows).inked = Str.inked rows.flatten.flatten
    rw [inked_tableText, Str.inked, List.filter_flatten, List.flatMap_def]
    rfl


/-! ## Files -/

namespace DOCXDocumentParser

open DocxState

/-- The library opens a file and gives its blocks, which are all accepted, and its title. -/
structure Reads (parser : DOCXDocumentParser) (data : List UInt8) (items : List DocxBlock)
    (coreTitle : Option Str) : Prop where
  read_eq : ∃ file, parser.read data = .ok file ∧ file.blocks = items.map .ok ∧
    file.coreTitle = .ok coreTitle
  accepted : ∀ item ∈ items, item.Accepted

/-- The limits of the models for the document of a file. -/
structure Fits (parser : DOCXDocumentParser) (items : List DocxBlock) (coreTitle : Option Str)
    (filename mimeType : Str) : Prop where
  some_shown : ∃ item ∈ items, item.text ≠ []
  segments_fit : (items.filter fun item => item.text ≠ []).length ≤ 10000
  sections_fit : (items.filterMap DocxBlock.heading).length ≤ 1000
  title_fits : (title (Str.strip (coreTitle.getD [])) (items.filterMap DocxBlock.heading)
    filename).trim.ValidWithin 300
  filename_fits : filename.trim.ValidWithin 255
  mimeType_fits : mimeType.trim.ValidWithin 200
  version_fits : parser.version.trim.Valid ∧ parser.version.trim.length ≤ 100

section Files

variable {parser : DOCXDocumentParser} {data : List UInt8} {items : List DocxBlock}
  {coreTitle : Option Str} {s : DocxState} {title_ filename mimeType : Str}

/-- The sections and the segments of some blocks. -/
structure Extracted (s : DocxState) (items : List DocxBlock) : Prop where
  sections : s.sections = items.filterMap DocxBlock.heading
  headed : s.headed = (cut DocxBlock.heading items).flatMap runSegments

/-- An extraction that returns has read the document, with the stripped title. -/
theorem extract_eq_ok (h : parser.extract data = .ok (s, title_)) :
    ∃ items coreTitle, parser.Reads data items coreTitle ∧ Extracted s items ∧
      title_ = Str.strip (coreTitle.getD []) := by
  unfold extract at h
  obtain ⟨file, hread, h⟩ := except_bind_eq_ok.mp h
  obtain ⟨s', hloop, h⟩ := except_bind_eq_ok.mp h
  obtain ⟨coreTitle, htitle, h⟩ := except_bind_eq_ok.mp h
  cases h
  obtain ⟨items, hblocks, haccepted, hsections, hheaded⟩ := foldlM_step_eq_ok
    (show DocxState.currentHeading {} = Run.opener {} from rfl) headingFits_start
    (show headed {} = [] ++ runSegments {} from rfl) hloop
  exact ⟨items, coreTitle, ⟨⟨file, hread, hblocks, htitle⟩, haccepted⟩, ⟨hsections, hheaded⟩, rfl⟩

/-- A document is read in one way. -/
theorem Reads.unique {items' : List DocxBlock} {coreTitle' : Option Str}
    (h : parser.Reads data items coreTitle) (h' : parser.Reads data items' coreTitle') :
    items' = items ∧ coreTitle' = coreTitle := by
  obtain ⟨file, hread, hblocks, htitle⟩ := h.read_eq
  obtain ⟨file', hread', hblocks', htitle'⟩ := h'.read_eq
  cases hread.symm.trans hread'
  cases htitle.symm.trans htitle'
  refine ⟨?_, rfl⟩
  have hinjective : Function.Injective
      (Except.ok : DocxBlock → Except DocxException DocxBlock) := fun _ _ => Except.ok.inj
  exact List.map_injective_iff.mpr hinjective (hblocks'.symm.trans hblocks)

/-- A document that is read is extracted. -/
theorem Reads.extract (h : parser.Reads data items coreTitle) :
    ∃ s, parser.extract data = .ok (s, Str.strip (coreTitle.getD [])) ∧ Extracted s items := by
  obtain ⟨file, hread, hblocks, htitle⟩ := h.read_eq
  obtain ⟨s, hloop⟩ := foldlM_step_returns headingFits_start h.accepted
  have hextract : parser.extract data = .ok (s, Str.strip (coreTitle.getD [])) := by
    unfold DOCXDocumentParser.extract
    rw [hread, except_ok_bind, hblocks, hloop, except_ok_bind, htitle, except_ok_bind]
    rfl
  obtain ⟨items', coreTitle', hreads, hextracted, -⟩ := extract_eq_ok hextract
  obtain ⟨rfl, -⟩ := h.unique hreads
  exact ⟨s, hextract, hextracted⟩

/-- One segment for each block that shows something. -/
theorem flatMap_added (opener : Option Str) (items : List DocxBlock) :
    items.flatMap (added opener) =
      (items.filter fun item => item.text ≠ []).map fun item => (opener, item.text.trim) := by
  induction items with
  | nil => rfl
  | cons item items ih =>
    rw [List.flatMap_cons, ih, added]
    by_cases hblank : item.text = []
    · rw [if_pos hblank, List.filter_cons_of_neg (by simpa using hblank), List.nil_append]
    · rw [if_neg hblank, List.filter_cons_of_pos (by simpa using hblank), List.map_cons,
        List.singleton_append]

/-- The texts of the segments, whatever their headings. -/
theorem Extracted.texts (h : Extracted s items) :
    s.segments.map ParsedDocumentSegment.text =
      (items.filter fun item => item.text ≠ []).map fun item => item.text.trim := by
  have hruns : ∀ runs : List (Run DocxBlock Str), (runs.flatMap runSegments).map Prod.snd =
      ((runs.flatMap Run.items).filter fun item => item.text ≠ []).map
        fun item => item.text.trim := by
    intro runs
    induction runs with
    | nil => rfl
    | cons run runs ih =>
      rw [List.flatMap_cons, List.map_append, ih, runSegments, flatMap_added, List.map_map,
        List.flatMap_cons, List.filter_append, List.map_append]
      rfl
  have hheaded := congrArg (List.map Prod.snd) h.headed
  rw [hruns, (cuts_cut DocxBlock.heading items).items_eq] at hheaded
  rw [← hheaded, DocxState.headed, List.map_map]
  rfl

/-- There is one segment for each block with a text. -/
theorem Extracted.length (h : Extracted s items) :
    s.segments.length = (items.filter fun item => item.text ≠ []).length := by
  rw [← List.length_map ParsedDocumentSegment.text, h.texts, List.length_map]

/-- The text of a document has everything in its blocks but white space and bars. -/
theorem Extracted.inked (h : Extracted s items) :
    (segmentsText s.segments).inked = items.flatMap fun item => item.content.inked := by
  have hsep : [CodePoint.lf, CodePoint.lf].all CodePoint.isGap = true := by decide
  rw [segmentsText, inked_join hsep, h.texts, List.flatMap_map]
  clear h
  induction items with
  | nil => rfl
  | cons item items ih =>
    rw [List.flatMap_cons, ← item.inked_text, ← ih]
    by_cases hblank : item.text = []
    · rw [List.filter_cons_of_neg (by simpa using hblank), hblank]
      rfl
    · rw [List.filter_cons_of_pos (by simpa using hblank), List.flatMap_cons, inked_trim]

/-- The text is blank if no block shows something. -/
theorem Extracted.strip_ne_nil_iff (h : Extracted s items) :
    Str.strip (segmentsText s.segments) ≠ [] ↔ ∃ item ∈ items, item.text ≠ [] := by
  have hlength := h.length
  constructor
  · intro hshown
    have hpos : 0 < s.segments.length := by
      refine List.length_pos_iff.mpr ?_
      intro hnil
      rw [hnil] at hshown
      exact hshown rfl
    rw [hlength] at hpos
    obtain ⟨item, hitem⟩ := List.exists_mem_of_length_pos hpos
    obtain ⟨hmem, hne⟩ := List.mem_filter.mp hitem
    exact ⟨item, hmem, by simpa using hne⟩
  · rintro ⟨item, hmem, hne⟩ hblank
    have hshown := DocxBlock.strip_text_ne_nil hne
    have htext : item.text.trim ∈ s.segments.map ParsedDocumentSegment.text := by
      rw [h.texts]
      exact List.mem_map_of_mem (List.mem_filter.mpr ⟨hmem, by simpa using hne⟩)
    refine hshown (Str.meaningful_eq_nil_iff.mp ?_)
    rw [← Str.meaningful_trim, Str.meaningful_eq_nil_iff]
    refine trim_eq_nil_iff.mpr fun c hc => ?_
    exact trim_eq_nil_iff.mp hblank c (mem_join_of_mem _ htext hc)

/-- The texts that the DOCX parser writes are valid. -/
theorem docx_texts_valid :
    (Str.ofString "python-docx").trim.ValidWithin 100 ∧
      (Str.ofString "ooxml_reading_order").trim.ValidWithin 100 ∧
      (Str.ofString "heading_count").trim.Valid := by
  decide +kernel

/-- Headings are trimmed and can be encoded. -/
theorem Reads.heading_valid (h : parser.Reads data items coreTitle) {heading : Str}
    (hmem : heading ∈ items.filterMap DocxBlock.heading) : heading.Valid := by
  obtain ⟨item, hitem, hheading⟩ := List.mem_filterMap.mp hmem
  obtain ⟨htext, hne, hstrip⟩ := DocxBlock.heading_eq_some hheading
  have htrim : heading.trim = heading := hstrip ▸ Str.trim_strip heading
  have hencodable := (h.accepted item hitem).encodable (htext ▸ hne)
  rw [htext, htrim] at hencodable
  exact ⟨hencodable, htrim⟩

/-- The headings of a document that is read are trimmed. -/
theorem map_trim_sections (h : parser.Reads data items coreTitle) :
    (items.filterMap DocxBlock.heading).map Str.trim = items.filterMap DocxBlock.heading := by
  refine (List.map_congr_left fun heading hmem => ?_).trans (List.map_id _)
  exact (h.heading_valid hmem).2

/-- The fields of an extracted document are valid exactly if it fits. -/
theorem fields_valid_iff (hreads : parser.Reads data items coreTitle)
    (hextracted : Extracted s items) (hshown : ∃ item ∈ items, item.text ≠ []) :
    (parser.fields s (Str.strip (coreTitle.getD [])) filename mimeType).trim.Valid ↔
      parser.Fits items coreTitle filename mimeType := by
  have hlength := hextracted.length
  have hsections := hextracted.sections
  have htrim := map_trim_sections hreads
  constructor
  · intro h
    refine ⟨hshown, hlength ▸ h.segments, ?_, ?_, h.filename, h.mimeType, h.parserVersion _ rfl⟩
    · have hle : (s.sections.map Str.trim).length ≤ 1000 := h.sections.2
      rwa [List.length_map, hsections] at hle
    · have htitle : (title _ s.sections filename).trim.ValidWithin 300 := h.title
      rwa [hsections] at htitle
  · intro h
    have hsegments : s.segments ≠ [] := by
      intro hnil
      refine hextracted.strip_ne_nil_iff.mpr hshown ?_
      rw [hnil]
      rfl
    have hvalid := segmentsText_valid hsegments
    exact
      { text := by
          change (segmentsText s.segments).trim.Valid ∧ 0 < (segmentsText s.segments).trim.length
          rwa [hvalid.1.2]
        title := by
          change (title _ s.sections filename).trim.ValidWithin 300
          rw [hsections]
          exact h.title_fits
        filename := h.filename_fits
        mimeType := h.mimeType_fits
        pageCount := by
          rintro n ⟨⟩
        sections := by
          change (∀ heading ∈ s.sections.map Str.trim, heading.Valid) ∧
            (s.sections.map Str.trim).length ≤ 1000
          rw [hsections, htrim]
          exact ⟨fun heading hmem => hreads.heading_valid hmem, h.sections_fit⟩
        parserName := docx_texts_valid.1
        parserVersion := by
          rintro s ⟨⟩
          exact h.version_fits
        extractionMethod := docx_texts_valid.2.1
        metadata := by
          change ∀ field ∈ [((Str.ofString "heading_count").trim, _)], Str.Valid (Prod.fst field)
          rw [List.forall_mem_singleton]
          exact docx_texts_valid.2.2
        segments := hlength ▸ h.segments_fit }

/-- What a file whose blocks can be read is parsed to. -/
theorem Reads.parse_cases (h : parser.Reads data items coreTitle) (filename mimeType : Str) :
    ∃ s, Extracted s items ∧
      parser.parse data filename mimeType =
        if Str.strip (segmentsText s.segments) = [] then .error (.application .documentParse)
        else ParsedDocument.create
          (parser.fields s (Str.strip (coreTitle.getD [])) filename mimeType) := by
  obtain ⟨s, hextract, hextracted⟩ := h.extract
  refine ⟨s, hextracted, ?_⟩
  unfold DOCXDocumentParser.parse
  rw [hextract]

/-- A document that is parsed has been read. -/
theorem reads_of_parse {document : ParsedDocument}
    (h : parser.parse data filename mimeType = .ok document) :
    ∃ items coreTitle, parser.Reads data items coreTitle := by
  unfold parse at h
  cases hextract : parser.extract data with
  | error exception =>
    rw [hextract] at h
    cases h
  | ok extracted =>
    obtain ⟨s, title_⟩ := extracted
    obtain ⟨items, coreTitle, hreads, -⟩ := extract_eq_ok hextract
    exact ⟨items, coreTitle, hreads⟩

end Files

/-- A file is parsed exactly if the library gives its blocks and its title, some block shows
something, every text can be encoded, and the headings, their number, the title, the names and the
number of blocks with text are within the limits. The document of a file has one segment for each
block that shows something, in order and under the last heading up to it; its sections are the
headings; and its text has everything in the blocks but white space and bars. -/
theorem docx_blocks_kept (parser : DOCXDocumentParser) (data : List UInt8)
    (filename mimeType : Str) :
    ((∃ document, parser.parse data filename mimeType = .ok document) ↔
      ∃ items coreTitle, parser.Reads data items coreTitle ∧
        parser.Fits items coreTitle filename mimeType) ∧
    ∀ document, parser.parse data filename mimeType = .ok document →
      ∃ items coreTitle, parser.Reads data items coreTitle ∧
        document.segments.map ParsedDocumentSegment.headed =
          (cut DocxBlock.heading items).flatMap runSegments ∧
        document.sections = items.filterMap DocxBlock.heading ∧
        document.text = segmentsText document.segments ∧
        document.text.inked = items.flatMap fun item => item.content.inked := by
  refine ⟨⟨?_, ?_⟩, ?_⟩
  · rintro ⟨document, h⟩
    obtain ⟨items, coreTitle, hreads⟩ := reads_of_parse h
    obtain ⟨s, hextracted, hparse⟩ := hreads.parse_cases filename mimeType
    rw [hparse] at h
    split_ifs at h with hblank
    have hshown := hextracted.strip_ne_nil_iff.mp hblank
    refine ⟨items, coreTitle, hreads, ?_⟩
    exact (fields_valid_iff hreads hextracted hshown).mp (except_dite_returns.mp ⟨document, h⟩)
  · rintro ⟨items, coreTitle, hreads, hfits⟩
    obtain ⟨s, hextracted, hparse⟩ := hreads.parse_cases filename mimeType
    have hblank := hextracted.strip_ne_nil_iff.mpr hfits.some_shown
    rw [hparse, if_neg hblank]
    exact except_dite_returns.mpr
      ((fields_valid_iff hreads hextracted hfits.some_shown).mpr hfits)
  · intro document h
    obtain ⟨items, coreTitle, hreads⟩ := reads_of_parse h
    obtain ⟨s, hextracted, hparse⟩ := hreads.parse_cases filename mimeType
    rw [hparse] at h
    split_ifs at h with hblank
    have hsegments : s.segments ≠ [] := by
      intro hnil
      rw [hnil] at hblank
      exact hblank rfl
    have hfields := ParsedDocument.create_eq_ok h
    have htext : document.text = segmentsText s.segments := by
      rw [hfields]
      exact (segmentsText_valid hsegments).1.2
    refine ⟨items, coreTitle, hreads, ?_, ?_, ?_, ?_⟩
    · rw [hfields]
      exact hextracted.headed
    · rw [hfields]
      change s.sections.map Str.trim = _
      rw [hextracted.sections, map_trim_sections hreads]
    · rw [htext, hfields]
      rfl
    · rw [htext, hextracted.inked]

end DOCXDocumentParser

end AssessmentPlatform
