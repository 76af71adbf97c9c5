import AssessmentPlatform.Models.Knowledge

/-!
# Retrieved context

Controlled formatting of retrieved, untrusted source evidence: one block of lines for each
item, between textual markers. Blocks are separated by a blank line.
-/

namespace AssessmentPlatform

/-- The fixed-point text of a number, as the format `.6f` gives it for six places. -/
def Str.fixed (places : ℕ) (q : ℚ) : Str :=
  let n := (roundHalfEven ((if q < 0 then -q else q) * 10 ^ places)).toNat
  (if q < 0 then [45] else []) ++ Str.decimal (n / 10 ^ places) ++ 46 ::
    Str.padded 10 places (n % 10 ^ places)

/-- A text given by its lines. -/
def Str.ofLines (lines : List Str) : Str := Str.join [CodePoint.lf] lines

/-- A text given by its sections, which a blank line separates. -/
def Str.ofSections (sections : List Str) : Str := Str.join [CodePoint.lf, CodePoint.lf] sections

/-- `NO_EVIDENCE_CONTEXT`. -/
def noEvidenceContext : Str :=
  ("EXTERNAL_KNOWLEDGE_STATUS: NO_RELEVANT_EXTERNAL_EVIDENCE_RETRIEVED" : String)

/-- The lines of one source of `build_rag_context`. -/
def sourceLines (rank : ℕ) (item : RetrievedEvidence) : List Str :=
  [Str.ofString "BEGIN_SOURCE_" ++ Str.decimal rank,
    Str.ofString "Rank: " ++ Str.decimal rank,
    Str.ofString "Document: " ++ item.documentTitle,
    Str.ofString "Document ID: " ++ UUID.text item.documentId,
    Str.ofString "Chunk ID: " ++ UUID.text item.chunkId,
    Str.ofString "Source type: " ++ item.sourceType.value,
    Str.ofString "Retrieval source: " ++ item.retrievalSource.value,
    Str.ofString "Similarity: " ++ (match item.similarityScore with
      | some score => Str.fixed 6 score
      | none => ("not_applicable" : String)),
    Str.ofString "Content:",
    item.content,
    Str.ofString "END_SOURCE_" ++ Str.decimal rank]

/-- `build_rag_context`. -/
def buildRagContext (evidence : List RetrievedEvidence) : Str :=
  if evidence = [] then noEvidenceContext
  else
    Str.ofSections (Str.ofString "EXTERNAL_KNOWLEDGE_STATUS: RELEVANT_EVIDENCE_RETRIEVED" ::
      evidence.mapIdx fun index item => Str.ofLines (sourceLines (index + 1) item))

end AssessmentPlatform
