import AssessmentPlatform.Agents.Constraints
import AssessmentPlatform.Agents.EvidenceAgent
import AssessmentPlatform.Agents.Models
import AssessmentPlatform.Agents.Payloads
import AssessmentPlatform.Agents.Prompts
import AssessmentPlatform.Api.Approval
import AssessmentPlatform.Api.Authorization
import AssessmentPlatform.Api.Dashboard
import AssessmentPlatform.Api.Dependencies
import AssessmentPlatform.Api.Reads
import AssessmentPlatform.Api.Release
import AssessmentPlatform.Assessments.Citations
import AssessmentPlatform.Assessments.Downgrade
import AssessmentPlatform.Assessments.Endings
import AssessmentPlatform.Assessments.Evidence
import AssessmentPlatform.Assessments.Exports
import AssessmentPlatform.Assessments.Grounding
import AssessmentPlatform.Assessments.Processing
import AssessmentPlatform.Assessments.ReadBack
import AssessmentPlatform.Assessments.Routing
import AssessmentPlatform.Assessments.Service
import AssessmentPlatform.Assessments.TelemetryCounters
import AssessmentPlatform.Connectors.PolicyRepository
import AssessmentPlatform.Core.Exceptions
import AssessmentPlatform.Core.Settings
import AssessmentPlatform.Core.Urls
import AssessmentPlatform.Core.Validation
import AssessmentPlatform.Evaluation.AssessmentModels
import AssessmentPlatform.Evaluation.CaseMetrics
import AssessmentPlatform.Evaluation.Dataset
import AssessmentPlatform.Evaluation.Evaluators
import AssessmentPlatform.Evaluation.Fixtures
import AssessmentPlatform.Evaluation.Models
import AssessmentPlatform.Evaluation.Quality
import AssessmentPlatform.Evaluation.Rearrangement
import AssessmentPlatform.Evaluation.Reports
import AssessmentPlatform.Evaluation.RetrievalMetrics
import AssessmentPlatform.Evaluation.Runner
import AssessmentPlatform.Governance.AuditColumns
import AssessmentPlatform.Governance.AuditTrail
import AssessmentPlatform.Governance.Concurrency
import AssessmentPlatform.Governance.Durations
import AssessmentPlatform.Governance.Inversion
import AssessmentPlatform.Governance.Lifecycle
import AssessmentPlatform.Governance.Refinement
import AssessmentPlatform.Governance.RevisionBudget
import AssessmentPlatform.Governance.Runs
import AssessmentPlatform.Governance.ServedRuns
import AssessmentPlatform.Governance.Service
import AssessmentPlatform.Governance.Signals
import AssessmentPlatform.Governance.Transitions
import AssessmentPlatform.Graph.Containment
import AssessmentPlatform.Graph.Convergence
import AssessmentPlatform.Graph.Degradation
import AssessmentPlatform.Graph.Limits
import AssessmentPlatform.Graph.MultiAgent
import AssessmentPlatform.Graph.Observations
import AssessmentPlatform.Graph.Records
import AssessmentPlatform.Graph.RecursionLimit
import AssessmentPlatform.Graph.Scheduling
import AssessmentPlatform.Graph.SingleAgent
import AssessmentPlatform.Graph.SingleAgentNodes
import AssessmentPlatform.Graph.Termination
import AssessmentPlatform.Graph.ToolUse
import AssessmentPlatform.Identity.Access
import AssessmentPlatform.Identity.Tokens
import AssessmentPlatform.Ingestion.BoundedRead
import AssessmentPlatform.Ingestion.Docx
import AssessmentPlatform.Ingestion.Filenames
import AssessmentPlatform.Ingestion.KnowledgeStores
import AssessmentPlatform.Ingestion.Limits
import AssessmentPlatform.Ingestion.Markdown
import AssessmentPlatform.Ingestion.ParsedDocument
import AssessmentPlatform.Ingestion.Pdf
import AssessmentPlatform.Ingestion.Segments
import AssessmentPlatform.Ingestion.Upload
import AssessmentPlatform.Ingestion.UploadProvenance
import AssessmentPlatform.Ingestion.UploadRuns
import AssessmentPlatform.KnowledgeGraph.ColumnWidths
import AssessmentPlatform.KnowledgeGraph.Context
import AssessmentPlatform.KnowledgeGraph.Distance
import AssessmentPlatform.KnowledgeGraph.DistinctRecords
import AssessmentPlatform.KnowledgeGraph.Enrichment
import AssessmentPlatform.KnowledgeGraph.EnrichmentRuns
import AssessmentPlatform.KnowledgeGraph.Extraction
import AssessmentPlatform.KnowledgeGraph.Grounding
import AssessmentPlatform.KnowledgeGraph.Hybrid
import AssessmentPlatform.KnowledgeGraph.Idempotence
import AssessmentPlatform.KnowledgeGraph.Identifiers
import AssessmentPlatform.KnowledgeGraph.Invariants
import AssessmentPlatform.KnowledgeGraph.Merge
import AssessmentPlatform.KnowledgeGraph.Names
import AssessmentPlatform.KnowledgeGraph.Neighborhood
import AssessmentPlatform.KnowledgeGraph.Resolution
import AssessmentPlatform.KnowledgeGraph.Retrieval
import AssessmentPlatform.KnowledgeGraph.SourceBoundaries
import AssessmentPlatform.KnowledgeGraph.StoreRetrieval
import AssessmentPlatform.KnowledgeGraph.Tables
import AssessmentPlatform.KnowledgeGraph.Upserts
import AssessmentPlatform.Library.Blocks
import AssessmentPlatform.Library.BoundedSearch
import AssessmentPlatform.Library.Cuts
import AssessmentPlatform.Library.Dominance
import AssessmentPlatform.Library.Facets
import AssessmentPlatform.Library.FirstWriter
import AssessmentPlatform.Library.Framing
import AssessmentPlatform.Library.IndentedJson
import AssessmentPlatform.Library.Interleaving
import AssessmentPlatform.Library.Json
import AssessmentPlatform.Library.Keyed
import AssessmentPlatform.Library.Ledger
import AssessmentPlatform.Library.LockedRequests
import AssessmentPlatform.Library.Program
import AssessmentPlatform.Library.Ranking
import AssessmentPlatform.Library.Relational
import AssessmentPlatform.Library.Replay
import AssessmentPlatform.Library.Schema
import AssessmentPlatform.Library.Selection
import AssessmentPlatform.Library.Streams
import AssessmentPlatform.Library.Text
import AssessmentPlatform.Library.Words
import AssessmentPlatform.Models.Assessment
import AssessmentPlatform.Models.Knowledge
import AssessmentPlatform.Models.KnowledgeGraph
import AssessmentPlatform.Persistence.Repositories
import AssessmentPlatform.Persistence.ReviewMigration
import AssessmentPlatform.Persistence.Session
import AssessmentPlatform.Persistence.Tables
import AssessmentPlatform.Product.ReadModels
import AssessmentPlatform.Providers.Embeddings
import AssessmentPlatform.Providers.Factory
import AssessmentPlatform.Python
import AssessmentPlatform.Rag.ChunkCoverage
import AssessmentPlatform.Rag.Chunking
import AssessmentPlatform.Rag.Context
import AssessmentPlatform.Rag.Deduplication
import AssessmentPlatform.Rag.Ingestion
import AssessmentPlatform.Rag.NormalForm
import AssessmentPlatform.Rag.Normalization
import AssessmentPlatform.Rag.Provenance
import AssessmentPlatform.Rag.Retrieval
import AssessmentPlatform.Rag.SerialIngestion
import AssessmentPlatform.Rag.SourceBoundaries
import AssessmentPlatform.Rag.StoredDocuments
import AssessmentPlatform.Rag.VectorAlignment
import AssessmentPlatform.Rag.VectorSearch
import AssessmentPlatform.Runtime.Gate
import AssessmentPlatform.Runtime.Metrics
import AssessmentPlatform.Runtime.Models
import AssessmentPlatform.Runtime.Resilience
import AssessmentPlatform.Runtime.Telemetry
import AssessmentPlatform.Tools.AtMostOnce
import AssessmentPlatform.Tools.Calls
import AssessmentPlatform.Tools.Knowledge
import AssessmentPlatform.Tools.Registry
import AssessmentPlatform.Tools.Totality
