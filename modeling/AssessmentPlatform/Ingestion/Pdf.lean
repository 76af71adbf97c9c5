import AssessmentPlatform.Ingestion.Segments

/-!
# PDF files

`PDFDocumentParser` takes the text of every page from a library that reads the file. Pages without
text are passed over, every other one becomes a segment under its number, and a file with too little
text is refused because it would need optical character recognition.
-/

namespace AssessmentPlatform

open Library

/-! ## The source -/

/-- The exceptions of the library and of the models, as far as `PDFDocumentParser.parse` tells them
apart. -/
inductive PdfException where
  | pdfRead | os | type | value | key | other
  deriving DecidableEq

/-- What the guarded statements of `PDFDocumentParser.parse` raise. -/
inductive PdfFailure where
  | encryptedPDF
  | raised (exception : PdfException)

/-- The exception handlers of `PDFDocumentParser.parse`. -/
def PdfFailure.handled : PdfFailure → Failure
  | .encryptedPDF => .application .encryptedPDF
  | .raised .other => .other
  | .raised _ => .application .documentParse

/-- A page, with what `extract_text` returns or raises. -/
structure PdfPage where
  extractText : Except PdfException (Option Str)

/-- What the library makes of a file; a file without metadata has no title. -/
structure PdfReader where
  isEncrypted : Bool
  pages : List PdfPage
  title : Except PdfException (Option Str)

/-- The parser with its library: how it opens the bytes of a file, and its version. -/
structure PDFDocumentParser where
  read : List UInt8 → Except PdfException PdfReader
  version : Str
  minimumCharacters : ℕ

/-- The body of the loop over the numbered pages. -/
def pageSegment (item : PdfPage × ℕ) : Except PdfException (Option ParsedDocumentSegment) := do
  let text := (← item.1.extractText).getD []
  if Str.strip text = [] then return none
  match ParsedDocumentSegment.create text (some item.2) none with
  | .ok segment => return some segment
  | .error _ => throw .value

namespace PDFDocumentParser

/-- The guarded statements of `parse`: the pages, their segments and the title of the metadata. -/
def extract (parser : PDFDocumentParser) (data : List UInt8) :
    Except PdfFailure (PdfReader × List ParsedDocumentSegment × Option Str) := do
  let reader ← (parser.read data).mapError .raised
  if reader.isEncrypted then throw .encryptedPDF
  let segments ← (collect pageSegment (reader.pages.zipIdx 1)).mapError .raised
  let metadataTitle ← reader.title.mapError .raised
  return (reader, segments, metadataTitle)

/-- The title of a document. -/
def title (metadataTitle : Option Str) (filename : Str) : Str :=
  let given := metadataTitle.getD []
  (if given = [] then PurePath.stem filename else Str.strip given).take 300

/-- The fields of the document that `parse` returns. -/
def fields (parser : PDFDocumentParser) (reader : PdfReader)
    (segments : List ParsedDocumentSegment) (metadataTitle : Option Str) (filename mimeType : Str) :
    ParsedDocument.Fields where
  text := segmentsText segments
  title := title metadataTitle filename
  filename := filename
  mimeType := mimeType
  fileFormat := .pdf
  sourceType := .text
  pageCount := some reader.pages.length
  parserName := "pypdf"
  parserVersion := some parser.version
  extractionMethod := "digital_text_per_page"
  metadata := [("page_count", .int reader.pages.length), ("ocr_used", .bool false)]
  segments := segments

/-- `PDFDocumentParser.parse`. -/
def parse (parser : PDFDocumentParser) (data : List UInt8) (filename mimeType : Str) :
    Except Failure ParsedDocument :=
  match parser.extract data with
  | .error exception => .error exception.handled
  | .ok (reader, segments, metadataTitle) =>
    if (segmentsText segments).meaningful.length < parser.minimumCharacters then
      .error (.application .ocrRequired)
    else ParsedDocument.create (parser.fields reader segments metadataTitle filename mimeType)

/-! ## Pages -/

/-- The number, the absent heading and the trimmed text of every page that is not blank. -/
def shownPages (texts : List (Str × ℕ)) : List (Option ℕ × Option Str × Str) :=
  (texts.filter fun page => Str.strip page.1 ≠ []).map fun page => (some page.2, none, page.1.trim)

/-- What a segment records. -/
def shown (segment : ParsedDocumentSegment) : Option ℕ × Option Str × Str :=
  (segment.pageNumber, segment.sectionHeading, segment.text)

/-- A page gives a text, which can be encoded if it is shown. -/
structure PageGives (page : PdfPage) (text : Str) : Prop where
  text_eq : page.extractText.map (fun text => text.getD []) = .ok text
  encodable : Str.strip text ≠ [] → text.trim.encodable = true

/-- The texts of pages. -/
def PagesGive (pages : List PdfPage) (texts : List Str) : Prop :=
  List.Forall₂ PageGives pages texts

/-- A page raises what the library raises for it, or a `ValueError` if its text is shown and cannot
be encoded. -/
def PageRaises (page : PdfPage) (exception : PdfException) : Prop :=
  page.extractText = .error exception ∨
    exception = .value ∧ ∃ text, page.extractText.map (fun text => text.getD []) = .ok text ∧
      Str.strip text ≠ [] ∧ text.trim.encodable = false

/-- A page is read, or it raises. -/
theorem pageSegment_eq_error_iff {page : PdfPage} {number : ℕ} {exception : PdfException}
    (hnumber : 1 ≤ number) :
    pageSegment (page, number) = .error exception ↔ PageRaises page exception := by
  unfold pageSegment PageRaises
  dsimp only
  cases htext : page.extractText with
  | error exception' => simp [except_error_bind]
  | ok found =>
    rw [except_ok_bind]
    by_cases hblank : Str.strip (found.getD []) = []
    · rw [if_pos hblank]
      simp [hblank, pure, Except.pure]
    · have hpos : 0 < (found.getD []).trim.length :=
        List.length_pos_iff.mpr (Str.trim_ne_nil hblank)
      have hcreate : (∃ segment, ParsedDocumentSegment.create (found.getD []) (some number) none =
          .ok segment) ↔ (found.getD []).trim.encodable = true :=
        except_dite_returns.trans ⟨fun h => h.1.1.1,
          fun h => ⟨⟨⟨h, Str.trim_trim _⟩, hpos⟩, by simpa using hnumber, by simp⟩⟩
      rw [if_neg hblank]
      cases hsegment : ParsedDocumentSegment.create (found.getD []) (some number) none with
      | error failure =>
        have hsurrogate : (found.getD []).trim.encodable = false := by
          rw [← Bool.not_eq_true, ← hcreate, hsegment]
          nofun
        constructor
        · rintro ⟨⟩
          exact .inr ⟨rfl, _, rfl, hblank, hsurrogate⟩
        · rintro (h | ⟨rfl, -⟩)
          · cases h
          · rfl
      | ok segment =>
        have hencodable := hcreate.mp ⟨segment, hsegment⟩
        simp [hencodable, pure, Except.pure]

/-- A page becomes a segment if it is shown. -/
theorem pageSegment_eq_ok {page : PdfPage} {number : ℕ} {result : Option ParsedDocumentSegment}
    (h : pageSegment (page, number) = .ok result) :
    ∃ text, PageGives page text ∧
      result.toList.map shown = shownPages [(text, number)] := by
  unfold pageSegment at h
  obtain ⟨text, htext, h⟩ := except_bind_eq_ok.mp h
  have htext_eq : page.extractText.map (fun text => text.getD []) = .ok (text.getD []) := by
    rw [htext, except_map_ok]
  dsimp only at h
  by_cases hblank : Str.strip (text.getD []) = []
  · rw [if_pos hblank] at h
    cases h
    exact ⟨text.getD [], ⟨htext_eq, fun hne => absurd hblank hne⟩, by simp [shownPages, hblank]⟩
  · rw [if_neg hblank] at h
    cases hcreate : ParsedDocumentSegment.create (text.getD []) (some number) none with
    | error failure =>
      rw [hcreate] at h
      cases h
    | ok segment =>
      rw [hcreate] at h
      cases h
      refine ⟨text.getD [], ⟨htext_eq, fun _ => ?_⟩, ?_⟩
      · have hvalid := segment.text_valid.1.1
        have heq := congrArg Prod.snd (ParsedDocumentSegment.create_eq_ok hcreate)
        rwa [← show segment.text = (text.getD []).trim from heq]
      · unfold ParsedDocumentSegment.create at hcreate
        split at hcreate
        · cases hcreate
          simp [shownPages, shown, hblank]
        · cases hcreate

/-- The first page has the number one. -/
theorem pageSegment_returns {page : PdfPage} {text : Str} (h : PageGives page text) {number : ℕ}
    (hnumber : 1 ≤ number) : ∃ result, pageSegment (page, number) = .ok result := by
  obtain ⟨found, hfound, heq⟩ := except_map_eq_ok.mp h.text_eq
  unfold pageSegment
  dsimp only
  rw [hfound, except_ok_bind, heq]
  by_cases hblank : Str.strip text = []
  · rw [if_pos hblank]
    exact ⟨none, rfl⟩
  · rw [if_neg hblank]
    have hcreate : ∃ segment, ParsedDocumentSegment.create text (some number) none = .ok segment :=
      except_dite_returns.mpr
        ⟨⟨⟨h.encodable hblank, Str.trim_trim text⟩,
          List.length_pos_iff.mpr (Str.trim_ne_nil hblank)⟩, by simpa using hnumber, by simp⟩
    obtain ⟨segment, hsegment⟩ := hcreate
    rw [hsegment]
    exact ⟨some segment, rfl⟩

/-- The segments of the pages are those that show something, with their numbers. -/
theorem collectPages_eq_ok {pages : List PdfPage} {first : ℕ}
    {segments : List ParsedDocumentSegment}
    (h : collect pageSegment (pages.zipIdx first) = .ok segments) :
    ∃ texts, PagesGive pages texts ∧ segments.map shown = shownPages (texts.zipIdx first) := by
  obtain ⟨results, hresults, rfl⟩ := collect_eq_ok.mp h
  clear h
  induction pages generalizing first results with
  | nil =>
    cases hresults
    exact ⟨[], .nil, rfl⟩
  | cons page pages ih =>
    rw [List.zipIdx_cons] at hresults
    cases hresults with
    | @cons _ result _ results hresult hresults =>
      obtain ⟨text, htext, hshown⟩ := pageSegment_eq_ok hresult
      obtain ⟨texts, htexts, hrest⟩ := ih results hresults
      refine ⟨text :: texts, .cons htext htexts, ?_⟩
      rw [List.flatMap_cons, List.map_append, hshown, hrest, List.zipIdx_cons]
      unfold shownPages
      rw [← List.map_append, ← List.filter_append, List.singleton_append]

/-- Pages that give texts give segments. -/
theorem collectPages_returns {pages : List PdfPage} {texts : List Str}
    (h : PagesGive pages texts) :
    ∃ segments, collect pageSegment (pages.zipIdx 1) = .ok segments := by
  refine foldlM_returns (fun ⟨page, number⟩ hitem found => ?_) []
  obtain ⟨hfirst, -, hpage⟩ := List.mem_zipIdx hitem
  have hmem : page ∈ pages := hpage ▸ List.getElem_mem _
  obtain ⟨text, -, htext⟩ := exists_of_forall₂ h hmem
  obtain ⟨result, hresult⟩ := pageSegment_returns htext hfirst
  exact ⟨found ++ result.toList, by rw [hresult]; rfl⟩

/-- A page gives one text. -/
theorem PageGives.unique {page : PdfPage} {text text' : Str} (h : PageGives page text)
    (h' : PageGives page text') : text = text' :=
  Except.ok.inj (h.text_eq.symm.trans h'.text_eq)

/-- The pages give one list of texts. -/
theorem PagesGive.unique {pages : List PdfPage} {texts texts' : List Str}
    (h : PagesGive pages texts) (h' : PagesGive pages texts') : texts = texts' := by
  induction h generalizing texts' with
  | nil =>
    cases h'
    rfl
  | cons hfirst _ ih =>
    cases h' with
    | cons hfirst' hrest' => rw [hfirst.unique hfirst', ih hrest']

/-- The shown pages hold the meaningful characters of all texts. -/
theorem meaningful_shownPages (texts : List Str) (first : ℕ) :
    (shownPages (texts.zipIdx first)).flatMap (fun page => page.2.2.meaningful) =
      texts.flatMap Str.meaningful := by
  induction texts generalizing first with
  | nil => rfl
  | cons text texts ih =>
    have hrest := ih (first + 1)
    unfold shownPages at hrest ⊢
    rw [List.zipIdx_cons, List.flatMap_cons, ← hrest]
    by_cases hblank : Str.strip text = []
    · rw [List.filter_cons_of_neg (by simpa using hblank),
        Str.meaningful_eq_nil_iff.mpr hblank, List.nil_append]
    · rw [List.filter_cons_of_pos (by simpa using hblank), List.map_cons, List.flatMap_cons,
        Str.meaningful_trim]

/-! ## Files -/

/-- The library opens a file that is not encrypted, and gives the texts of its pages and the title
of its metadata. -/
structure Reads (parser : PDFDocumentParser) (data : List UInt8) (reader : PdfReader)
    (texts : List Str) (metadataTitle : Option Str) : Prop where
  read_eq : parser.read data = .ok reader
  plain : reader.isEncrypted = false
  pages : PagesGive reader.pages texts
  title_eq : reader.title = .ok metadataTitle

/-- The first exception of the guarded statements: that of opening the file, that of the first page
that raises, or that of the title. -/
inductive Raises (parser : PDFDocumentParser) (data : List UInt8) : PdfException → Prop
  | opening {exception : PdfException} (hread : parser.read data = .error exception) :
    Raises parser data exception
  | page {reader : PdfReader} {before after : List PdfPage} {page : PdfPage} {texts : List Str}
      {exception : PdfException} (hread : parser.read data = .ok reader)
      (hplain : reader.isEncrypted = false) (hpages : reader.pages = before ++ page :: after)
      (hbefore : PagesGive before texts) (hpage : PageRaises page exception) :
    Raises parser data exception
  | title {reader : PdfReader} {texts : List Str} {exception : PdfException}
      (hread : parser.read data = .ok reader) (hplain : reader.isEncrypted = false)
      (hpages : PagesGive reader.pages texts) (htitle : reader.title = .error exception) :
    Raises parser data exception

/-- The limits of the models for the document of a file. -/
structure Fits (parser : PDFDocumentParser) (texts : List Str) (metadataTitle : Option Str)
    (filename mimeType : Str) : Prop where
  some_shown : texts.flatMap Str.meaningful ≠ []
  pages_fit : (shownPages (texts.zipIdx 1)).length ≤ 10000
  title_fits : (title metadataTitle filename).trim.ValidWithin 300
  filename_fits : filename.trim.ValidWithin 255
  mimeType_fits : mimeType.trim.ValidWithin 200
  version_fits : parser.version.trim.Valid ∧ parser.version.trim.length ≤ 100

section Files

variable {parser : PDFDocumentParser} {data : List UInt8} {reader : PdfReader} {texts : List Str}
  {metadataTitle : Option Str} {segments : List ParsedDocumentSegment} {filename mimeType : Str}

/-- The translation of errors passes on a value. -/
theorem mapError_eq_ok {α ε ε' : Type} {f : ε → ε'} {x : Except ε α} {a : α} :
    x.mapError f = .ok a ↔ x = .ok a := by
  cases x <;> simp [Except.mapError]

/-- An extraction that returns has read the pages, and shows them. -/
theorem extract_eq_ok (h : parser.extract data = .ok (reader, segments, metadataTitle)) :
    ∃ texts, parser.Reads data reader texts metadataTitle ∧
      segments.map shown = shownPages (texts.zipIdx 1) := by
  unfold extract at h
  obtain ⟨reader', hread, h⟩ := except_bind_eq_ok.mp h
  dsimp only at h
  split at h
  · cases h
  · rename_i hplain
    obtain ⟨segments', hsegments, h⟩ := except_bind_eq_ok.mp h
    obtain ⟨title', htitle, h⟩ := except_bind_eq_ok.mp h
    cases h
    obtain ⟨texts, htexts, hshown⟩ := collectPages_eq_ok (mapError_eq_ok.mp hsegments)
    exact ⟨texts, ⟨mapError_eq_ok.mp hread, by simpa using hplain, htexts,
      mapError_eq_ok.mp htitle⟩, hshown⟩

/-- A file that is read is extracted, and its pages are shown. -/
theorem Reads.extract (h : parser.Reads data reader texts metadataTitle) :
    ∃ segments, parser.extract data = .ok (reader, segments, metadataTitle) ∧
      segments.map shown = shownPages (texts.zipIdx 1) := by
  obtain ⟨segments, hsegments⟩ := collectPages_returns h.pages
  have hextract : parser.extract data = .ok (reader, segments, metadataTitle) := by
    unfold PDFDocumentParser.extract
    rw [h.read_eq]
    simp only [Except.mapError, except_ok_bind, h.plain, Bool.false_eq_true, if_false, hsegments,
      h.title_eq]
    rfl
  obtain ⟨texts', h', hshown⟩ := extract_eq_ok hextract
  rw [h.pages.unique h'.pages]
  exact ⟨segments, hextract, hshown⟩

/-- The pages of a numbered list that are read. -/
theorem pagesGive_of_segments {pages : List PdfPage} {first : ℕ}
    (h : ∀ item ∈ pages.zipIdx first, ∃ result, pageSegment item = .ok result) :
    ∃ texts, PagesGive pages texts := by
  induction pages generalizing first with
  | nil => exact ⟨[], .nil⟩
  | cons page pages ih =>
    rw [List.zipIdx_cons, List.forall_mem_cons] at h
    obtain ⟨⟨result, hresult⟩, hrest⟩ := h
    obtain ⟨text, htext, -⟩ := pageSegment_eq_ok hresult
    obtain ⟨texts, htexts⟩ := ih hrest
    exact ⟨text :: texts, .cons htext htexts⟩

/-- The loop over the pages raises what the first page raises for which it raises. -/
theorem collectPages_eq_error {pages : List PdfPage} {exception : PdfException} :
    collect pageSegment (pages.zipIdx 1) = .error exception ↔
      ∃ before page after texts, pages = before ++ page :: after ∧ PagesGive before texts ∧
        PageRaises page exception := by
  rw [collect_eq_error]
  constructor
  · rintro ⟨items, ⟨page, number⟩, items', hitems, hbefore, hpage⟩
    obtain ⟨before, rest, rfl, hfront, hback⟩ := List.zipIdx_eq_append_iff.mp hitems
    obtain ⟨page', after, rfl, hhead, -⟩ := List.zipIdx_eq_cons_iff.mp hback.symm
    cases hhead
    rw [hfront] at hbefore
    obtain ⟨texts, htexts⟩ := pagesGive_of_segments hbefore
    exact ⟨before, page, after, texts, rfl, htexts, (pageSegment_eq_error_iff (by omega)).mp hpage⟩
  · rintro ⟨before, page, after, texts, rfl, htexts, hpage⟩
    refine ⟨before.zipIdx 1, (page, 1 + before.length), after.zipIdx (1 + before.length + 1), ?_,
      ?_, (pageSegment_eq_error_iff (by omega)).mpr hpage⟩
    · rw [List.zipIdx_append, List.zipIdx_cons]
    · rintro ⟨earlier, number⟩ hitem
      obtain ⟨hfirst, -, hearlier⟩ := List.mem_zipIdx hitem
      have hmem : earlier ∈ before := hearlier ▸ List.getElem_mem _
      obtain ⟨text, -, htext⟩ := exists_of_forall₂ htexts hmem
      exact pageSegment_returns htext hfirst

/-- An encrypted file is not read any further. -/
theorem extract_of_encrypted (hread : parser.read data = .ok reader)
    (hencrypted : reader.isEncrypted = true) : parser.extract data = .error .encryptedPDF := by
  unfold extract
  rw [hread]
  simp only [Except.mapError, except_ok_bind, hencrypted, if_true]
  rfl

/-- The statements after the file has been opened. -/
theorem extract_of_plain (hread : parser.read data = .ok reader)
    (hplain : reader.isEncrypted = false) :
    parser.extract data =
      (collect pageSegment (reader.pages.zipIdx 1)).mapError .raised >>= fun segments =>
        (reader.title.mapError .raised).map fun metadataTitle =>
          (reader, segments, metadataTitle) := by
  unfold extract
  rw [hread]
  simp only [Except.mapError, except_ok_bind, hplain, Bool.false_eq_true, if_false]
  rfl

/-- A translated error comes from an error. -/
theorem mapError_eq_error {α ε ε' : Type} {f : ε → ε'} {x : Except ε α} {e : ε'} :
    x.mapError f = .error e ↔ ∃ e', x = .error e' ∧ f e' = e := by
  cases x <;> simp [Except.mapError]

/-- What the guarded statements raise. -/
theorem extract_eq_error {failure : PdfFailure} (h : parser.extract data = .error failure) :
    (failure = .encryptedPDF ∧
        ∃ reader, parser.read data = .ok reader ∧ reader.isEncrypted = true) ∨
      ∃ exception, failure = .raised exception ∧ parser.Raises data exception := by
  cases hread : parser.read data with
  | error exception =>
    unfold extract at h
    rw [hread] at h
    cases h
    exact .inr ⟨exception, rfl, .opening hread⟩
  | ok reader =>
    cases hplain : reader.isEncrypted with
    | true =>
      cases (extract_of_encrypted hread hplain).symm.trans h
      exact .inl ⟨rfl, reader, rfl, hplain⟩
    | false =>
      rw [extract_of_plain hread hplain, except_bind_eq_error] at h
      rcases h with h | ⟨segments, hsegments, h⟩
      · obtain ⟨exception, hpages, rfl⟩ := mapError_eq_error.mp h
        obtain ⟨before, page, after, texts, hsplit, hbefore, hpage⟩ :=
          collectPages_eq_error.mp hpages
        exact .inr ⟨exception, rfl, .page hread hplain hsplit hbefore hpage⟩
      · obtain ⟨texts, htexts, -⟩ := collectPages_eq_ok (mapError_eq_ok.mp hsegments)
        cases htitle : reader.title with
        | error exception =>
          rw [htitle] at h
          cases h
          exact .inr ⟨exception, rfl, .title hread hplain htexts htitle⟩
        | ok metadataTitle =>
          rw [htitle] at h
          cases h

/-- The guarded statements raise their first exception. -/
theorem Raises.extract {exception : PdfException} (h : parser.Raises data exception) :
    parser.extract data = .error (.raised exception) := by
  cases h with
  | opening hread =>
    unfold PDFDocumentParser.extract
    rw [hread]
    rfl
  | page hread hplain hsplit hbefore hpage =>
    rw [extract_of_plain hread hplain,
      collectPages_eq_error.mpr ⟨_, _, _, _, hsplit, hbefore, hpage⟩]
    rfl
  | title hread hplain hpages htitle =>
    obtain ⟨segments, hsegments⟩ := collectPages_returns hpages
    rw [extract_of_plain hread hplain, hsegments, htitle]
    rfl

/-- The failures that the models and the check of the text cannot cause come from the guarded
statements. -/
theorem parse_eq_error_iff {failure : Failure} (hocr : failure ≠ .application .ocrRequired)
    (hvalue : failure ≠ .value) :
    parser.parse data filename mimeType = .error failure ↔
      ∃ raised, parser.extract data = .error raised ∧ raised.handled = failure := by
  unfold parse
  cases parser.extract data with
  | error raised => simp
  | ok extracted =>
    obtain ⟨reader, segments, metadataTitle⟩ := extracted
    simp only [reduceCtorEq, false_and, exists_false, iff_false]
    unfold ParsedDocument.create
    split_ifs <;> simp [hocr.symm, hvalue.symm]

/-- The file is refused as encrypted exactly if the library opens it so. -/
theorem parse_eq_encrypted_iff :
    parser.parse data filename mimeType = .error (.application .encryptedPDF) ↔
      ∃ reader, parser.read data = .ok reader ∧ reader.isEncrypted = true := by
  rw [parse_eq_error_iff (by decide) (by decide)]
  constructor
  · rintro ⟨raised, hextract, hhandled⟩
    rcases extract_eq_error hextract with ⟨-, hencrypted⟩ | ⟨exception, rfl, -⟩
    · exact hencrypted
    · cases exception <;> cases hhandled
  · rintro ⟨reader, hread, hencrypted⟩
    exact ⟨_, extract_of_encrypted hread hencrypted, rfl⟩

/-- An exception of the guarded statements is answered by its handler. -/
theorem parse_eq_handled_iff {failure : Failure} (hencrypted : failure ≠ .application .encryptedPDF)
    (hocr : failure ≠ .application .ocrRequired) (hvalue : failure ≠ .value) :
    parser.parse data filename mimeType = .error failure ↔
      ∃ exception, parser.Raises data exception ∧
        (PdfFailure.raised exception).handled = failure := by
  rw [parse_eq_error_iff hocr hvalue]
  constructor
  · rintro ⟨raised, hextract, hhandled⟩
    rcases extract_eq_error hextract with ⟨rfl, -⟩ | ⟨exception, rfl, hraises⟩
    · exact absurd hhandled.symm hencrypted
    · exact ⟨exception, hraises, hhandled⟩
  · rintro ⟨exception, hraises, hhandled⟩
    exact ⟨_, hraises.extract, hhandled⟩

/-- A file is read in one way. -/
theorem Reads.unique {reader' : PdfReader} {texts' : List Str} {metadataTitle' : Option Str}
    (h : parser.Reads data reader texts metadataTitle)
    (h' : parser.Reads data reader' texts' metadataTitle') :
    reader' = reader ∧ texts' = texts ∧ metadataTitle' = metadataTitle := by
  cases h.read_eq.symm.trans h'.read_eq
  cases h.title_eq.symm.trans h'.title_eq
  exact ⟨rfl, h'.pages.unique h.pages, rfl⟩

/-- Nothing of a page that can be seen is missing in the text. -/
theorem meaningful_pages (h : segments.map shown = shownPages (texts.zipIdx 1)) :
    (segmentsText segments).meaningful = texts.flatMap Str.meaningful := by
  rw [meaningful_segmentsText, ← meaningful_shownPages texts 1, ← h, List.flatMap_map]
  rfl

/-- The texts that the PDF parser writes are valid. -/
theorem pdf_texts_valid :
    (Str.ofString "pypdf").trim.ValidWithin 100 ∧
      (Str.ofString "digital_text_per_page").trim.ValidWithin 100 ∧
      (Str.ofString "page_count").trim.Valid ∧ (Str.ofString "ocr_used").trim.Valid := by
  decide +kernel

/-- Some page is shown if there is a segment. -/
theorem meaningful_ne_nil (hne : shownPages (texts.zipIdx 1) ≠ []) :
    texts.flatMap Str.meaningful ≠ [] := by
  intro hnil
  refine hne ?_
  unfold shownPages
  rw [List.map_eq_nil_iff, List.filter_eq_nil_iff]
  rintro ⟨text, number⟩ hmem
  have htext : text ∈ texts := by
    obtain ⟨-, -, heq⟩ := List.mem_zipIdx hmem
    exact heq ▸ List.getElem_mem _
  have hblank := List.flatMap_eq_nil_iff.mp hnil text htext
  simpa using Str.meaningful_eq_nil_iff.mp hblank

/-- The fields of an extracted file are valid exactly if it fits. -/
theorem fields_valid_iff (hreads : parser.Reads data reader texts metadataTitle)
    (hshown : segments.map shown = shownPages (texts.zipIdx 1)) :
    (parser.fields reader segments metadataTitle filename mimeType).trim.Valid ↔
      parser.Fits texts metadataTitle filename mimeType := by
  have hlength : segments.length = (shownPages (texts.zipIdx 1)).length := by
    rw [← hshown, List.length_map]
  have hmeaningful := meaningful_pages hshown
  have hpages := hreads.pages.length_eq
  constructor
  · intro h
    refine ⟨meaningful_ne_nil ?_, ?_, h.title, h.filename, h.mimeType, h.parserVersion _ rfl⟩
    · intro hnil
      rw [← hshown, List.map_eq_nil_iff] at hnil
      have htext : 0 < (segmentsText segments).trim.length := h.text.2
      rw [hnil] at htext
      exact absurd htext (by decide)
    · rw [← hlength]
      exact h.segments
  · intro h
    have hsegments : segments ≠ [] := by
      rintro rfl
      exact h.some_shown hmeaningful.symm
    have hvalid := segmentsText_valid hsegments
    have htexts : 1 ≤ texts.length := by
      refine List.length_pos_iff.mpr ?_
      rintro rfl
      exact h.some_shown rfl
    exact
      { text := by
          change (segmentsText segments).trim.Valid ∧ 0 < (segmentsText segments).trim.length
          rwa [hvalid.1.2]
        title := h.title_fits
        filename := h.filename_fits
        mimeType := h.mimeType_fits
        pageCount := by
          rintro n ⟨⟩
          omega
        sections := ⟨List.forall_mem_nil _, Nat.zero_le _⟩
        parserName := pdf_texts_valid.1
        parserVersion := by
          rintro s ⟨⟩
          exact h.version_fits
        extractionMethod := pdf_texts_valid.2.1
        metadata := by
          change ∀ field ∈ [((Str.ofString "page_count").trim, _),
            ((Str.ofString "ocr_used").trim, _)], Str.Valid (Prod.fst field)
          rw [List.forall_mem_cons, List.forall_mem_singleton]
          exact pdf_texts_valid.2.2
        segments := hlength ▸ h.pages_fit }

/-- What a file whose pages can be read is parsed to. -/
theorem Reads.parse_cases (h : parser.Reads data reader texts metadataTitle)
    (filename mimeType : Str) :
    ∃ segments, segments.map shown = shownPages (texts.zipIdx 1) ∧
      parser.parse data filename mimeType =
        if (texts.flatMap Str.meaningful).length < parser.minimumCharacters then
          .error (.application .ocrRequired)
        else ParsedDocument.create
          (parser.fields reader segments metadataTitle filename mimeType) := by
  obtain ⟨segments, hextract, hshown⟩ := h.extract
  refine ⟨segments, hshown, ?_⟩
  unfold PDFDocumentParser.parse
  rw [hextract]
  dsimp only
  rw [meaningful_pages hshown]

/-- A file is read if it is parsed, or if it is refused for want of text. -/
theorem reads_of_parse {result : Except Failure ParsedDocument}
    (h : parser.parse data filename mimeType = result)
    (hresult : ∀ failure : PdfFailure, result ≠ .error failure.handled) :
    ∃ reader texts metadataTitle, parser.Reads data reader texts metadataTitle := by
  unfold parse at h
  cases hextract : parser.extract data with
  | error failure =>
    rw [hextract] at h
    exact absurd h.symm (hresult failure)
  | ok extracted =>
    obtain ⟨reader, segments, metadataTitle⟩ := extracted
    obtain ⟨texts, hreads, -⟩ := extract_eq_ok hextract
    exact ⟨reader, texts, metadataTitle, hreads⟩

/-- A failure that is handled is not the one of a missing text layer. -/
theorem handled_ne_ocrRequired (failure : PdfFailure) :
    failure.handled ≠ .application .ocrRequired := by
  rcases failure with _ | exception
  · decide
  · cases exception <;> decide

/-- A failure that is handled is not a validation error. -/
theorem handled_ne_value (failure : PdfFailure) : failure.handled ≠ .value := by
  rcases failure with _ | exception
  · decide
  · cases exception <;> decide

/-- A file is parsed exactly if it is read, has enough text and fits. -/
theorem parse_returns_iff :
    (∃ document, parser.parse data filename mimeType = .ok document) ↔
      ∃ reader texts metadataTitle, parser.Reads data reader texts metadataTitle ∧
        parser.minimumCharacters ≤ (texts.flatMap Str.meaningful).length ∧
        parser.Fits texts metadataTitle filename mimeType := by
  constructor
  · rintro ⟨document, h⟩
    obtain ⟨reader, texts, metadataTitle, hreads⟩ := reads_of_parse h fun _ heq => by cases heq
    obtain ⟨segments, hshown, hparse⟩ := hreads.parse_cases filename mimeType
    rw [hparse] at h
    split_ifs at h with hfew
    refine ⟨reader, texts, metadataTitle, hreads, by omega, ?_⟩
    exact (fields_valid_iff hreads hshown).mp (except_dite_returns.mp ⟨document, h⟩)
  · rintro ⟨reader, texts, metadataTitle, hreads, henough, hfits⟩
    obtain ⟨segments, hshown, hparse⟩ := hreads.parse_cases filename mimeType
    rw [hparse, if_neg (by omega)]
    exact except_dite_returns.mpr ((fields_valid_iff hreads hshown).mpr hfits)

/-- A file is refused for want of text exactly if it is read and has less of it. -/
theorem parse_eq_ocrRequired_iff :
    parser.parse data filename mimeType = .error (.application .ocrRequired) ↔
      ∃ reader texts metadataTitle, parser.Reads data reader texts metadataTitle ∧
        (texts.flatMap Str.meaningful).length < parser.minimumCharacters := by
  constructor
  · intro h
    obtain ⟨reader, texts, metadataTitle, hreads⟩ := reads_of_parse h fun failure heq =>
      handled_ne_ocrRequired failure (Except.error.inj heq).symm
    obtain ⟨segments, -, hparse⟩ := hreads.parse_cases filename mimeType
    refine ⟨reader, texts, metadataTitle, hreads, ?_⟩
    by_contra hfew
    rw [hparse, if_neg hfew] at h
    unfold ParsedDocument.create at h
    split at h <;> cases h
  · rintro ⟨reader, texts, metadataTitle, hreads, hfew⟩
    obtain ⟨segments, -, hparse⟩ := hreads.parse_cases filename mimeType
    rw [hparse, if_pos hfew]

/-- The document of a file keeps its pages. -/
theorem kept_of_parse {document : ParsedDocument}
    (h : parser.parse data filename mimeType = .ok document) :
    ∃ reader texts metadataTitle, parser.Reads data reader texts metadataTitle ∧
      document.segments.map shown = shownPages (texts.zipIdx 1) ∧
      document.text = segmentsText document.segments ∧
      document.text.meaningful = texts.flatMap Str.meaningful ∧
      document.pageCount = some texts.length := by
  obtain ⟨reader, texts, metadataTitle, hreads⟩ := reads_of_parse h fun _ heq => by cases heq
  obtain ⟨segments, hshown, hparse⟩ := hreads.parse_cases filename mimeType
  rw [hparse] at h
  split_ifs at h
  have hvalid := (fields_valid_iff hreads hshown).mp (except_dite_returns.mp ⟨document, h⟩)
  have hsegments : segments ≠ [] := by
    rintro rfl
    exact hvalid.some_shown (meaningful_pages hshown).symm
  have hfields := ParsedDocument.create_eq_ok h
  have htext : document.text = segmentsText segments := by
    rw [hfields]
    exact (segmentsText_valid hsegments).1.2
  refine ⟨reader, texts, metadataTitle, hreads, ?_, ?_, ?_, ?_⟩
  · rw [hfields]
    exact hshown
  · rw [htext, hfields]
    rfl
  · rw [htext, meaningful_pages hshown]
  · rw [hfields, ← hreads.pages.length_eq]
    rfl

/-- An exception that the parser names is answered as a parse error. -/
theorem parse_eq_documentParse_iff :
    parser.parse data filename mimeType = .error (.application .documentParse) ↔
      ∃ exception, parser.Raises data exception ∧ exception ≠ .other := by
  rw [parse_eq_handled_iff (by decide) (by decide) (by decide)]
  refine exists_congr fun exception => and_congr_right fun _ => ?_
  cases exception <;> decide

/-- An exception of another kind is seen by the caller. -/
theorem parse_eq_other_iff :
    parser.parse data filename mimeType = .error .other ↔ parser.Raises data .other := by
  rw [parse_eq_handled_iff (by decide) (by decide) (by decide)]
  constructor
  · rintro ⟨exception, hraises, hhandled⟩
    cases exception
    case other => exact hraises
    all_goals cases hhandled
  · exact fun hraises => ⟨_, hraises, rfl⟩

/-- The limits of the document raise the error of its model. -/
theorem parse_eq_value_iff :
    parser.parse data filename mimeType = .error .value ↔
      ∃ reader texts metadataTitle, parser.Reads data reader texts metadataTitle ∧
        parser.minimumCharacters ≤ (texts.flatMap Str.meaningful).length ∧
        ¬parser.Fits texts metadataTitle filename mimeType := by
  constructor
  · intro h
    obtain ⟨reader, texts, metadataTitle, hreads⟩ := reads_of_parse h fun failure heq =>
      handled_ne_value failure (Except.error.inj heq).symm
    obtain ⟨segments, hshown, hparse⟩ := hreads.parse_cases filename mimeType
    rw [hparse] at h
    split_ifs at h with hfew
    · cases h
    · refine ⟨reader, texts, metadataTitle, hreads, by omega, fun hfits => ?_⟩
      have hvalid := (fields_valid_iff hreads hshown).mpr hfits
      unfold ParsedDocument.create at h
      rw [dif_pos hvalid] at h
      cases h
  · rintro ⟨reader, texts, metadataTitle, hreads, henough, hfits⟩
    obtain ⟨segments, hshown, hparse⟩ := hreads.parse_cases filename mimeType
    rw [hparse, if_neg (by omega)]
    exact dif_neg ((fields_valid_iff hreads hshown).not.mpr hfits)

end Files

/-- A file is parsed exactly if it is not encrypted, its pages and its title can be read, it has
enough text, and the names, the title and the number of pages with text are within the limits. The
document of a file has one segment for each page with text, in order and under its number, and
everything on the pages that is not white space. A file that can be read is refused for want of text
exactly if it has less of it; an encrypted file is refused as such; the exceptions of the library
and of the models for the pages are answered as parse errors, unless they are of another kind, which
the caller sees; and the limits of the document raise the error of its model. -/
theorem pdf_pages_kept (parser : PDFDocumentParser) (data : List UInt8) (filename mimeType : Str) :
    ((∃ document, parser.parse data filename mimeType = .ok document) ↔
      ∃ reader texts metadataTitle, parser.Reads data reader texts metadataTitle ∧
        parser.minimumCharacters ≤ (texts.flatMap Str.meaningful).length ∧
        parser.Fits texts metadataTitle filename mimeType) ∧
    (parser.parse data filename mimeType = .error (.application .ocrRequired) ↔
      ∃ reader texts metadataTitle, parser.Reads data reader texts metadataTitle ∧
        (texts.flatMap Str.meaningful).length < parser.minimumCharacters) ∧
    (∀ document, parser.parse data filename mimeType = .ok document →
      ∃ reader texts metadataTitle, parser.Reads data reader texts metadataTitle ∧
        document.segments.map shown = shownPages (texts.zipIdx 1) ∧
        document.text = segmentsText document.segments ∧
        document.text.meaningful = texts.flatMap Str.meaningful ∧
        document.pageCount = some texts.length) ∧
    (parser.parse data filename mimeType = .error (.application .encryptedPDF) ↔
      ∃ reader, parser.read data = .ok reader ∧ reader.isEncrypted = true) ∧
    (parser.parse data filename mimeType = .error (.application .documentParse) ↔
      ∃ exception, parser.Raises data exception ∧ exception ≠ .other) ∧
    (parser.parse data filename mimeType = .error .other ↔ parser.Raises data .other) ∧
    (parser.parse data filename mimeType = .error .value ↔
      ∃ reader texts metadataTitle, parser.Reads data reader texts metadataTitle ∧
        parser.minimumCharacters ≤ (texts.flatMap Str.meaningful).length ∧
        ¬parser.Fits texts metadataTitle filename mimeType) := by
  exact ⟨parse_returns_iff, parse_eq_ocrRequired_iff, fun document h => kept_of_parse h,
    parse_eq_encrypted_iff, parse_eq_documentParse_iff, parse_eq_other_iff, parse_eq_value_iff⟩

end PDFDocumentParser

end AssessmentPlatform
