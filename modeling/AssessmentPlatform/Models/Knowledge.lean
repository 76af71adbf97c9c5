import AssessmentPlatform.Python
import Mathlib.Data.Rat.Defs

/-!
# Retrieved knowledge

The evidence that retrieval attaches to an assessment and the aggregate facts about
graph and vector retrieval that execution metadata records. Similarity scores are
exact rationals.
-/

namespace AssessmentPlatform

/-- Vocabulary for knowledge source provenance. -/
inductive KnowledgeSourceType where
  | text | markdown | policy | report | caseStudy | manual | synthetic
  deriving DecidableEq

/-- The persisted value of a source type. -/
def KnowledgeSourceType.value : KnowledgeSourceType → Str
  | .text => "text"
  | .markdown => "markdown"
  | .policy => "policy"
  | .report => "report"
  | .caseStudy => "case_study"
  | .manual => "manual"
  | .synthetic => "synthetic"

/-- Persisted normalized knowledge document. -/
structure KnowledgeDocumentRecord where
  documentId : UUID
  title : Str
  sourceType : KnowledgeSourceType
  content : Str
  contentHash : Str
  createdAt : Time
  deriving DecidableEq

/-- Explainable origin of one retrieved chunk. -/
inductive RetrievalSource where
  | vector | graph | both
  deriving DecidableEq

/-- The persisted value of an origin. -/
def RetrievalSource.value : RetrievalSource → Str
  | .vector => "vector"
  | .graph => "graph"
  | .both => "both"

/-- Ranked source evidence. Graph-only evidence has no similarity score. -/
structure RetrievedEvidence where
  chunkId : UUID
  documentId : UUID
  documentTitle : Str
  content : Str
  similarityScore : Option ℚ
  sourceType : KnowledgeSourceType
  retrievalSource : RetrievalSource := .vector
  deriving DecidableEq

/-- Safe aggregate facts about graph and hybrid retrieval, with the bounds that the
model validates. -/
@[ext]
structure GraphRetrievalExecutionMetadata where
  graphRetrievalUsed : Bool := false
  matchedEntityCount : ℕ := 0
  relationshipCount : ℕ := 0
  graphDepthUsed : ℕ := 0
  vectorEvidenceCount : ℕ := 0
  graphEvidenceCount : ℕ := 0
  hybridEvidenceCount : ℕ := 0
  degradedGraphMode : Bool := false
  graphErrorCode : Option Str := none
  vectorErrorCode : Option Str := none
  graphDepthUsed_le : graphDepthUsed ≤ 5 := by decide
  graphErrorCode_le : ∀ code ∈ graphErrorCode, code.length ≤ 100 := by simp
  vectorErrorCode_le : ∀ code ∈ vectorErrorCode, code.length ≤ 100 := by simp

instance : DecidableEq GraphRetrievalExecutionMetadata := fun _ _ =>
  decidable_of_iff _ GraphRetrievalExecutionMetadata.ext_iff.symm

/-- No hops are within the bound of the depth. -/
theorem noHops_le : 0 ≤ 5 := by decide

/-- Two hops are within the bound of the depth. -/
theorem twoHops_le : 2 ≤ 5 := by decide

/-- Evidence and controlled context prepared for one assessment. Only a hybrid
preparation carries a retrieval record. -/
structure RAGPreparation where
  query : Str
  evidence : List RetrievedEvidence
  context : Str
  graphRetrieval : Option GraphRetrievalExecutionMetadata := none

end AssessmentPlatform
