import AssessmentPlatform.Core.Exceptions
import AssessmentPlatform.Models.KnowledgeGraph
import AssessmentPlatform.Rag.Context

/-!
# Hybrid context

The context of a hybrid retrieval: a summary of the vector evidence, the relationships of
the neighborhood, and the text of every source between textual markers. Formatting a
missing score raises.
-/

namespace AssessmentPlatform

/-- The summary of one vector item. -/
def vectorSection (rank : ℕ) (item : RetrievedEvidence) : Except Failure Str :=
  match item.similarityScore with
  | none => .error .other
  | some score => .ok (Str.ofLines
    [Str.ofString "Vector rank: " ++ Str.decimal rank,
      Str.ofString "Document: " ++ item.documentTitle,
      Str.ofString "Document ID: " ++ UUID.text item.documentId,
      Str.ofString "Chunk ID: " ++ UUID.text item.chunkId,
      Str.ofString "Retrieval source: " ++ item.retrievalSource.value,
      Str.ofString "Similarity: " ++ Str.fixed 6 score])

/-- The summaries of the vector items from a rank on. -/
def vectorSections : ℕ → List RetrievedEvidence → Except Failure (List Str)
  | _, [] => .ok []
  | rank, item :: rest => do
    let text ← vectorSection rank item
    let texts ← vectorSections (rank + 1) rest
    pure (text :: texts)

/-- The lines of one relationship. -/
def relationshipLines (rank : ℕ) (relationship : GraphRelationshipResult) : List Str :=
  [Str.ofString "BEGIN_GRAPH_RELATIONSHIP_" ++ Str.decimal rank,
    Str.ofString "Entity: " ++ relationship.sourceEntityName,
    Str.ofString "Relationship: " ++ relationship.sourceEntityName ++ Str.ofString " → " ++
      relationship.relationshipType.value ++ Str.ofString " → " ++ relationship.targetEntityName,
    Str.ofString "Description: " ++ (match relationship.description with
      | some (c :: rest) => c :: rest
      | _ => ("Not supplied" : String)),
    Str.ofString "Confidence: " ++ Str.fixed 3 relationship.confidence,
    Str.ofString "Supported by document: " ++ UUID.text relationship.sourceDocumentId,
    Str.ofString "Supported by chunk: " ++ UUID.text relationship.sourceChunkId,
    Str.ofString "END_GRAPH_RELATIONSHIP_" ++ Str.decimal rank]

/-- The lines of one source of `build_hybrid_rag_context`. -/
def hybridSourceLines (rank : ℕ) (item : RetrievedEvidence) : List Str :=
  [Str.ofString "BEGIN_HYBRID_SOURCE_" ++ Str.decimal rank,
    Str.ofString "Document: " ++ item.documentTitle,
    Str.ofString "Document ID: " ++ UUID.text item.documentId,
    Str.ofString "Chunk ID: " ++ UUID.text item.chunkId,
    Str.ofString "Source type: " ++ item.sourceType.value,
    Str.ofString "Retrieval source: " ++ item.retrievalSource.value,
    Str.ofString "Content:",
    item.content,
    Str.ofString "END_HYBRID_SOURCE_" ++ Str.decimal rank]

/-- The items that the vector path has found. -/
def vectorItems (evidence : List RetrievedEvidence) : List RetrievedEvidence :=
  evidence.filter fun item => item.retrievalSource = .vector || item.retrievalSource = .both

/-- The sections about the vector evidence. -/
def vectorPart (evidence : List RetrievedEvidence) : Except Failure (List Str) :=
  if vectorItems evidence = [] then .ok [("No vector evidence available." : String)]
  else vectorSections 1 (vectorItems evidence)

/-- The sections about the relationships. -/
def relationshipPart (relationships : List GraphRelationshipResult) : List Str :=
  if relationships = [] then [("No source-grounded graph relationships matched." : String)]
  else relationships.mapIdx fun index item => Str.ofLines (relationshipLines (index + 1) item)

/-- `build_hybrid_rag_context`. -/
def buildHybridRagContext (evidence : List RetrievedEvidence) (neighborhood : GraphNeighborhood) :
    Except Failure Str :=
  if evidence = [] ∧ neighborhood.relationships = [] then .ok noEvidenceContext
  else do
    let vector ← vectorPart evidence
    pure (Str.ofSections
      (Str.ofString "EXTERNAL_KNOWLEDGE_STATUS: RELEVANT_HYBRID_EVIDENCE_RETRIEVED" ::
        Str.ofString "VECTOR EVIDENCE" :: vector ++
        Str.ofString "GRAPH RELATIONSHIPS" :: relationshipPart neighborhood.relationships ++
        Str.ofString "SOURCE EVIDENCE" ::
        evidence.mapIdx fun index item => Str.ofLines (hybridSourceLines (index + 1) item)))

/-! ## When the context can be built -/

/-- The sections of evidence with scores are formatted. -/
theorem vectorSections_ok {items : List RetrievedEvidence} (rank : ℕ)
    (h : ∀ item ∈ items, item.similarityScore.isSome = true) :
    ∃ texts, vectorSections rank items = .ok texts := by
  induction items generalizing rank with
  | nil => exact ⟨[], rfl⟩
  | cons item rest ih =>
    obtain ⟨score, hscore⟩ := Option.isSome_iff_exists.mp (h item (by simp))
    obtain ⟨texts, htexts⟩ := ih (rank + 1) fun i hi => h i (by simp [hi])
    unfold vectorSections vectorSection
    rw [hscore, htexts]
    exact ⟨_, rfl⟩

/-- The context can be built when every item of the vector path has a score. -/
theorem buildHybridRagContext_ok {evidence : List RetrievedEvidence}
    (neighborhood : GraphNeighborhood)
    (h : ∀ item ∈ vectorItems evidence, item.similarityScore.isSome = true) :
    ∃ context, buildHybridRagContext evidence neighborhood = .ok context := by
  have hpart : ∃ texts, vectorPart evidence = .ok texts := by
    unfold vectorPart
    split
    · exact ⟨_, rfl⟩
    · exact vectorSections_ok 1 h
  obtain ⟨texts, htexts⟩ := hpart
  unfold buildHybridRagContext
  split
  · exact ⟨_, rfl⟩
  · rw [htexts]
    exact ⟨_, rfl⟩

end AssessmentPlatform
