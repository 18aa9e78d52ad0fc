import DataMax.Library.Run
import DataMax.Library.SortedMap
import DataMax.Library.Retry
import DataMax.Library.Delivery
import DataMax.Library.Table
import DataMax.Library.Float64
import DataMax.Library.Sorting
import DataMax.Library.Selection
import DataMax.Library.Framing
import DataMax.Library.UnionFind
import DataMax.Json.Value
import DataMax.Domain.Identifier
import DataMax.Domain.Text
import DataMax.Domain.Hex
import DataMax.Workflow.Engine
import DataMax.Workflow.Definitions
import DataMax.Workflow.Moves
import DataMax.Workflow.Progress
import DataMax.Workflow.Terminal
import DataMax.Workflow.Reports
import DataMax.Workflow.Outstanding
import DataMax.Workflow.RetryBudget
import DataMax.Workflow.Store
import DataMax.Workflow.Delivery
import DataMax.SemanticLink.Records
import DataMax.SemanticLink.Repository
import DataMax.SemanticLink.System
import DataMax.SemanticLink.Attempts
import DataMax.SemanticLink.Lease
import DataMax.SemanticLink.Builds
import DataMax.SemanticLink.ForeignKeys
import DataMax.SemanticLink.Pairing
import DataMax.SemanticLink.Planning
import DataMax.SemanticLink.PlanSymmetry
import DataMax.SemanticSnapshot.Repository
import DataMax.SemanticSnapshot.Rebuild
import DataMax.SemanticSnapshot.Freshness
import DataMax.SourceFingerprint.Encoding
import DataMax.SourceFingerprint.Lines
import DataMax.SourceFingerprint.Identification
import DataMax.SemanticUnderstanding.Records
import DataMax.SemanticUnderstanding.Normalization
import DataMax.SemanticUnderstanding.Integrity
import DataMax.SemanticUnderstanding.Idempotence
import DataMax.SemanticUnderstanding.ListOrder
import DataMax.SemanticLabel.Classification
import DataMax.SemanticRelations.Builder
import DataMax.SemanticRelations.Selection
import DataMax.SemanticRelations.Evidence
import DataMax.SemanticGraph.Records
import DataMax.SemanticGraph.Matcher
import DataMax.SemanticGraph.Ids
import DataMax.SemanticGraph.Classes
import DataMax.SemanticGraph.Folding
import DataMax.SemanticGraph.Edges
import DataMax.SemanticGraph.WellFormed
import DataMax.SemanticGraph.Views
import DataMax.SemanticGraph.InputOrder
import DataMax.Library.Runs
import DataMax.Retrieval.Terms
import DataMax.Workflow.TaskQueue
import DataMax.SemanticLink.Workers
import DataMax.SemanticLink.Succession
import DataMax.Json.Text
import DataMax.Library.Separated
import DataMax.SemanticLabel.Aliases
import DataMax.SemanticLink.Privacy
import DataMax.SemanticLink.Concepts
import DataMax.SemanticLink.Endpoints
import DataMax.SemanticLink.Markers
import DataMax.SemanticLink.Audit
import DataMax.ModelGateway.Bucket
import DataMax.ModelGateway.Accounting
import DataMax.DocumentSharing.Scope
import DataMax.DocumentSharing.Audience
import DataMax.DocumentSharing.Memberships
import DataMax.DocumentSharing.Promotion
import DataMax.Library.Replacement
import DataMax.Domain.Lines
import DataMax.ExternalChannel.PublicText
import DataMax.ExternalChannel.PublicReplies
import DataMax.ModelGateway.Completion
import DataMax.ModelGateway.Streaming
import DataMax.Library.Outcome
import DataMax.ExternalChannel.StreamPayload
import DataMax.Json.Depth
import DataMax.ExternalChannel.StreamPrivacy
import DataMax.ExternalChannel.StreamResume
import DataMax.ExternalDocument.DatasetKey
import DataMax.ExternalDocument.KeyCollisions
import DataMax.EmailChallenge.Verification
import DataMax.EmailChallenge.SingleUse
import DataMax.DocumentStore.Repository
import DataMax.DocumentStore.Deduplication
import DataMax.DocumentStore.LostUpdates
import DataMax.DocumentEnrichment.Queue
import DataMax.DocumentEnrichment.Claims
import DataMax.SemanticLink.Generations
import DataMax.SemanticGraph.PrivateIdentities
import DataMax.SemanticGraph.Truncation
import DataMax.SemanticUnderstanding.SourceGroups
import DataMax.SemanticSnapshot.Observations
import DataMax.SemanticSnapshot.ObjectGroups
import DataMax.SemanticSnapshot.ForeignKeys
import DataMax.Workflow.RetryContext
import DataMax.Retrieval.SurfaceTokens
import DataMax.SemanticLabel.Projection
import DataMax.SemanticLabel.Resolution
import DataMax.SemanticRelations.InputOrder
import DataMax.Library.Decimal
import DataMax.Library.Declarations
import DataMax.Json.Access
import DataMax.StaticPage.Style
import DataMax.StaticPage.Charts
import DataMax.StaticPage.ChartSafety
import DataMax.StaticPage.Operations
import DataMax.StaticPage.Validation
import DataMax.StaticPage.Revalidation
import DataMax.StaticPage.Payload
import DataMax.StaticPage.Design
import DataMax.StaticPage.Apply
import DataMax.StaticPage.Accepted
import DataMax.StaticPage.ModuleIds
import DataMax.StaticPage.ModuleTexts
import DataMax.SemanticGraph.Reversal
import DataMax.SemanticLink.Sides
import DataMax.StaticPage.MobileOrder
import DataMax.Ingest.Entities
import DataMax.Library.Gathering
import DataMax.Ingest.Paragraphs
import DataMax.Ingest.LongText
import DataMax.Ingest.Sections
import DataMax.Ingest.Chunks
import DataMax.Ingest.Structure
import DataMax.Library.Scanning
import DataMax.Ingest.Markup
import DataMax.Ingest.SharedStrings
import DataMax.Ingest.Cells
import DataMax.Ingest.Rows
import DataMax.Ingest.Columns
import DataMax.Domain.Words
import DataMax.Ingest.Spacing
import DataMax.Ingest.SheetFormat
import DataMax.Ingest.SheetText
import DataMax.Library.FirstMatch
import DataMax.AuthScope.ExternalAcl
import DataMax.Json.Paths
import DataMax.ExternalIntegration.ConfigRedaction
import DataMax.Library.Champion
import DataMax.MySqlSource.Mapping
import DataMax.SemanticGraph.IdentityKeys
import DataMax.Library.Saturating
import DataMax.Library.FixedWindow
import DataMax.ModelGateway.CircuitBreaker
import DataMax.ModelGateway.RateBudget
import DataMax.Domain.ApiError
import DataMax.Domain.Paths
import DataMax.ClientArtifact.ObjectLocator
import DataMax.Domain.Decoding
import DataMax.Ingest.PdfLiteral
import DataMax.Library.EventStream
import DataMax.Json.Quoted
import DataMax.SseSupport.TextDeltas
import DataMax.Library.SortedSet
import DataMax.StaticPage.StableKey
import DataMax.StaticPage.KeyParts
import DataMax.StaticPage.KeyScopes
import DataMax.Library.IpAddress
import DataMax.Domain.UrlHost
import DataMax.ExternalDocument.ContentUrl
import DataMax.Library.HtmlTokens
import DataMax.ClientArtifact.SandboxPage
import DataMax.Json.Size
import DataMax.ReactAgent.Decision
import DataMax.ReactAgent.WellFormed
import DataMax.ExternalDocument.PathSegment
import DataMax.Ingest.RemoteMedia
import DataMax.Ingest.Timestamps
import DataMax.Ingest.PartOrder
import DataMax.MySqlSource.Documents
import DataMax.MySqlSource.Checkpoint
import DataMax.Library.Quotas
import DataMax.Library.Numbering
import DataMax.AssistantRun.EventLog
import DataMax.AssistantRun.EventAppends
import DataMax.AssistantRun.EventStream
import DataMax.AssistantRun.SupplyBudget
import DataMax.Publishing.VideoPackages
import DataMax.Publishing.VideoPublishing
import DataMax.Library.SqlText
import DataMax.MySqlSource.Queries
import DataMax.MySqlSource.QueryReading
import DataMax.MySqlSource.PageStatements
import DataMax.MySqlSource.Fetch
