import AssessmentPlatform.Core.Exceptions
import AssessmentPlatform.Library.Json
import AssessmentPlatform.Library.Text
import AssessmentPlatform.Models.Knowledge

/-!
# Parsed documents

The models of `app/ingestion/models.py` that the parsers fill, with the checks that they make. They
trim their texts as the validation library does, which leaves the four separators of ASCII where
`str.strip` removes them.
-/

namespace AssessmentPlatform

open Library

/-! ## Paths -/

namespace PurePath

/-- `PurePath(path).name`: the last component that is not empty and not a single dot. -/
def name (path : Str) : Str :=
  ((path.splitOn 47).filter fun part => part ≠ [] ∧ part ≠ [46]).getLast?.getD []

/-- The name up to its last dot and the rest, if there is something on both sides of the dot. -/
def splitName (name : Str) : Str × Str :=
  let back := name.reverse.takeWhile (· ≠ 46)
  let front := name.take (name.length - back.length - 1)
  if 0 < back.length ∧ 0 < front.length then (front, 46 :: back.reverse) else (name, [])

/-- `PurePath(path).stem`. -/
def stem (path : Str) : Str := (splitName (name path)).1

/-- `PurePath(path).suffix`. -/
def suffix (path : Str) : Str := (splitName (name path)).2

end PurePath

/-! ## The models -/

/-- Hard allowlist of enterprise file formats. -/
inductive FileFormat where
  | pdf | docx | txt | markdown
  deriving DecidableEq

/-- The text of a format. -/
def FileFormat.value : FileFormat → Str
  | .pdf => "pdf"
  | .docx => "docx"
  | .txt => "txt"
  | .markdown => "markdown"

/-- A source block that can contribute page or section provenance to chunks. -/
structure ParsedDocumentSegment where
  text : Str
  pageNumber : Option ℕ := none
  sectionHeading : Option Str := none
  text_valid : text.Valid ∧ 0 < text.length
  pageNumber_ge : ∀ n ∈ pageNumber, 1 ≤ n
  sectionHeading_valid : ∀ s ∈ sectionHeading, s.Valid ∧ s.length ≤ 500

/-- The validation of `ParsedDocumentSegment`. -/
def ParsedDocumentSegment.create (text : Str) (pageNumber : Option ℕ)
    (sectionHeading : Option Str) : Except Failure ParsedDocumentSegment :=
  if h : (text.trim.Valid ∧ 0 < text.trim.length) ∧ (∀ n ∈ pageNumber, 1 ≤ n) ∧
      ∀ s ∈ sectionHeading.map Str.trim, s.Valid ∧ s.length ≤ 500 then
    .ok ⟨text.trim, pageNumber, sectionHeading.map Str.trim, h.1, h.2.1, h.2.2⟩
  else .error .value

/-- The fields of a parsed document. -/
structure ParsedDocument.Fields where
  text : Str
  title : Str
  filename : Str
  mimeType : Str
  fileFormat : FileFormat
  sourceType : KnowledgeSourceType
  pageCount : Option ℕ := none
  sections : List Str := []
  parserName : Str
  parserVersion : Option Str := none
  extractionMethod : Str
  metadata : List (Str × Json) := []
  segments : List ParsedDocumentSegment := []

/-- The fields with their texts trimmed. -/
def ParsedDocument.Fields.trim (fields : ParsedDocument.Fields) : ParsedDocument.Fields :=
  { fields with
    text := fields.text.trim
    title := fields.title.trim
    filename := fields.filename.trim
    mimeType := fields.mimeType.trim
    sections := fields.sections.map Str.trim
    parserName := fields.parserName.trim
    parserVersion := fields.parserVersion.map Str.trim
    extractionMethod := fields.extractionMethod.trim
    metadata := fields.metadata.map fun field => (field.1.trim, field.2) }

/-- The checks of the fields. -/
@[mk_iff]
structure ParsedDocument.Fields.Valid (fields : ParsedDocument.Fields) : Prop where
  text : fields.text.Valid ∧ 0 < fields.text.length
  title : fields.title.ValidWithin 300
  filename : fields.filename.ValidWithin 255
  mimeType : fields.mimeType.ValidWithin 200
  pageCount : ∀ n ∈ fields.pageCount, 1 ≤ n
  sections : (∀ s ∈ fields.sections, s.Valid) ∧ fields.sections.length ≤ 1000
  parserName : fields.parserName.ValidWithin 100
  parserVersion : ∀ s ∈ fields.parserVersion, s.Valid ∧ s.length ≤ 100
  extractionMethod : fields.extractionMethod.ValidWithin 100
  metadata : ∀ field ∈ fields.metadata, field.1.Valid
  segments : fields.segments.length ≤ 10000

instance ParsedDocument.Fields.decidableValid (fields : ParsedDocument.Fields) :
    Decidable fields.Valid :=
  decidable_of_iff _ (ParsedDocument.Fields.valid_iff fields).symm

/-- Format-neutral parser output. -/
structure ParsedDocument extends ParsedDocument.Fields where
  valid : toFields.Valid

/-- The validation of `ParsedDocument`. -/
def ParsedDocument.create (fields : ParsedDocument.Fields) : Except Failure ParsedDocument :=
  if h : fields.trim.Valid then .ok ⟨fields.trim, h⟩ else .error .value

end AssessmentPlatform
