import AssessmentPlatform.Python

/-!
# Safe application exceptions

The classes of `app/core/exceptions.py` with the error code and the public message
that each of them carries, and the other kinds of exception that the modelled code
can meet: database errors, validation errors, and everything else.
-/

namespace AssessmentPlatform

/-- The application exceptions. `base` is the class `ApplicationError` itself. -/
inductive ApplicationError where
  | base | authenticationRequired | permissionDenied | connectorNotConfigured
  | connectorUnavailable | invalidConnectorResponse | openAIClientNotConfigured
  | modelProviderNotConfigured | llmProvider | invalidLLMResponse | assessmentGeneration
  | databaseNotConfigured | databaseUnavailable | persistence | assessmentNotFound
  | runtimeStateNotFound | invalidReviewTransition | revisionLimitReached
  | embeddingNotConfigured | embeddingProvider | invalidEmbedding | emptyKnowledgeDocument
  | knowledgeDocumentNotFound | knowledgeStoreUnavailable | knowledgePersistence
  | knowledgeGraphDisabled | knowledgeGraphExtraction | knowledgeGraphPersistence
  | knowledgeGraphUnavailable | unsupportedFileType | fileTooLarge | emptyFile
  | invalidUploadMetadata | documentParse | encryptedPDF | ocrRequired | textDecode
  deriving DecidableEq

/-- The stable public code of an exception class. -/
def ApplicationError.errorCode : ApplicationError → Str
  | .base => "application_error"
  | .authenticationRequired => "authentication_required"
  | .permissionDenied => "permission_denied"
  | .connectorNotConfigured => "connector_not_configured"
  | .connectorUnavailable => "connector_unavailable"
  | .invalidConnectorResponse => "invalid_connector_response"
  | .openAIClientNotConfigured => "openai_not_configured"
  | .modelProviderNotConfigured => "model_provider_not_configured"
  | .llmProvider => "llm_provider_error"
  | .invalidLLMResponse => "invalid_llm_response"
  | .assessmentGeneration => "assessment_generation_error"
  | .databaseNotConfigured => "database_not_configured"
  | .databaseUnavailable => "database_unavailable"
  | .persistence => "persistence_error"
  | .assessmentNotFound => "assessment_not_found"
  | .runtimeStateNotFound => "runtime_state_not_found"
  | .invalidReviewTransition => "invalid_review_transition"
  | .revisionLimitReached => "revision_limit_reached"
  | .embeddingNotConfigured => "embedding_not_configured"
  | .embeddingProvider => "embedding_provider_error"
  | .invalidEmbedding => "invalid_embedding"
  | .emptyKnowledgeDocument => "empty_knowledge_document"
  | .knowledgeDocumentNotFound => "knowledge_document_not_found"
  | .knowledgeStoreUnavailable => "knowledge_store_unavailable"
  | .knowledgePersistence => "knowledge_persistence_error"
  | .knowledgeGraphDisabled => "knowledge_graph_disabled"
  | .knowledgeGraphExtraction => "knowledge_graph_extraction_error"
  | .knowledgeGraphPersistence => "knowledge_graph_persistence_error"
  | .knowledgeGraphUnavailable => "knowledge_graph_unavailable"
  | .unsupportedFileType => "unsupported_file_type"
  | .fileTooLarge => "file_too_large"
  | .emptyFile => "empty_file"
  | .invalidUploadMetadata => "invalid_upload_metadata"
  | .documentParse => "document_parse_failed"
  | .encryptedPDF => "encrypted_pdf"
  | .ocrRequired => "ocr_required"
  | .textDecode => "text_decode_failed"

/-- The public message of an exception class. -/
def ApplicationError.publicMessage : ApplicationError → Str
  | .base => "The request could not be completed."
  | .authenticationRequired => "Valid bearer authentication is required."
  | .permissionDenied => "The authenticated principal is not permitted to perform this action."
  | .connectorNotConfigured => "The policy repository connector is not configured."
  | .connectorUnavailable => "The policy repository is temporarily unavailable. Please try again."
  | .invalidConnectorResponse => "The policy repository returned an invalid response."
  | .openAIClientNotConfigured =>
    "AI assessments are unavailable because OPENAI_API_KEY is not configured."
  | .modelProviderNotConfigured =>
    "AI assessments are unavailable because the model provider is not configured."
  | .llmProvider => "AI assessment generation is temporarily unavailable. Please try again."
  | .invalidLLMResponse => "The AI service returned an invalid assessment. Please try again."
  | .assessmentGeneration => "AI assessment generation failed unexpectedly. Please try again."
  | .databaseNotConfigured =>
    "Assessment persistence is unavailable because DATABASE_URL is not configured."
  | .databaseUnavailable => "Assessment persistence is temporarily unavailable. Please try again."
  | .persistence => "The assessment could not be persisted. Please try again."
  | .assessmentNotFound => "The requested assessment was not found."
  | .runtimeStateNotFound => "Runtime governance state is not available for this assessment."
  | .invalidReviewTransition =>
    "The requested human review action is not valid in the current state."
  | .revisionLimitReached => "The maximum number of human-requested revisions has been reached."
  | .embeddingNotConfigured =>
    "Knowledge embeddings are unavailable because OPENAI_API_KEY is not configured."
  | .embeddingProvider =>
    "Knowledge embedding generation is temporarily unavailable. Please try again."
  | .invalidEmbedding => "The embedding service returned an invalid vector. Please try again."
  | .emptyKnowledgeDocument => "The knowledge document must contain non-whitespace text."
  | .knowledgeDocumentNotFound => "The requested knowledge document was not found."
  | .knowledgeStoreUnavailable =>
    "The knowledge store is temporarily unavailable. Please try again."
  | .knowledgePersistence => "The knowledge document could not be persisted. Please try again."
  | .knowledgeGraphDisabled => "Knowledge graph operations are not enabled."
  | .knowledgeGraphExtraction => "Knowledge graph extraction could not produce valid grounded data."
  | .knowledgeGraphPersistence => "The knowledge graph could not be persisted. Please try again."
  | .knowledgeGraphUnavailable =>
    "Knowledge graph retrieval is temporarily unavailable. Please try again."
  | .unsupportedFileType => "The uploaded file type is not supported or does not match its content."
  | .fileTooLarge => "The uploaded file exceeds the configured size limit."
  | .emptyFile => "The uploaded file is empty."
  | .invalidUploadMetadata => "Upload metadata must be a valid JSON object."
  | .documentParse => "The uploaded document could not be parsed."
  | .encryptedPDF => "Encrypted PDF files are not supported."
  | .ocrRequired => "The PDF requires OCR because it has insufficient extractable text."
  | .textDecode => "The text document is not valid UTF-8."

/-- Database errors, by the classes that the code tells apart. -/
inductive SQLAlchemyError where
  | operational | programming | other
  deriving DecidableEq

/-- An exception: an application error, a database error, a `ValueError` (which the
validation errors of the schema library are), or any other exception. -/
inductive Failure where
  | application (error : ApplicationError)
  | database (error : SQLAlchemyError)
  | value
  | other
  deriving DecidableEq

/-- Every public code has the hundred characters at most that error fields admit. -/
theorem ApplicationError.errorCode_length_le (e : ApplicationError) : e.errorCode.length ≤ 100 := by
  cases e <;> exact Str.length_le_ofList _ (by decide)

/-- Every error code can be encoded. -/
theorem ApplicationError.errorCode_encodable (e : ApplicationError) :
    e.errorCode.encodable = true := by
  cases e <;> exact Str.encodable_map_ofChar _

/-- Every public message has the three hundred characters at most that a trace summary
admits. -/
theorem ApplicationError.publicMessage_length_le (e : ApplicationError) :
    e.publicMessage.length ≤ 300 := by
  cases e <;> exact Str.length_le_ofList _ (by decide)

/-- Every public message can be encoded. -/
theorem ApplicationError.publicMessage_encodable (e : ApplicationError) :
    e.publicMessage.encodable = true := by
  cases e <;> exact Str.encodable_map_ofChar _

/-- No public message is blank: each starts with a letter. -/
theorem ApplicationError.strip_publicMessage_ne_nil (e : ApplicationError) :
    Str.strip e.publicMessage ≠ [] := by
  cases e <;> exact Str.strip_ne_nil_ofList _ _ (by decide)

end AssessmentPlatform
