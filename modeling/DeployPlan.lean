import DeployPlan.Artifact.Source
import DeployPlan.Build.Resolver
import DeployPlan.Build.Scripted
import DeployPlan.Catalog
import DeployPlan.Component.Search
import DeployPlan.Document.Component
import DeployPlan.Document.Request
import DeployPlan.Document.Settings
import DeployPlan.Document.Topology
import DeployPlan.Document.Variable
import DeployPlan.Files
import DeployPlan.Json.Canonical
import DeployPlan.Ordering
import DeployPlan.Outage
import DeployPlan.Plan.Assembly
import DeployPlan.Plan.Submission
import DeployPlan.Proofs.Component.Forest
import DeployPlan.Proofs.FirstOccurrence
import DeployPlan.Proofs.Ordering
import DeployPlan.Proofs.Runs
import DeployPlan.Proofs.Steps
import DeployPlan.Reporting
import DeployPlan.Runs
import DeployPlan.Scope.Resolution
import DeployPlan.Settings.Store
import DeployPlan.Toml.Decoding
import DeployPlan.Toml.Writing
import DeployPlan.Url.Segments
import DeployPlan.Web.BuildServer
import DeployPlan.Proofs.Plan.Answer
import DeployPlan.Proofs.Plan.Reading
import DeployPlan.Proofs.Plan.Requests
import DeployPlan.Proofs.Plan.Copying
import DeployPlan.Proofs.Plan.Precedence
import DeployPlan.Proofs.Plan.Overlap
import DeployPlan.Proofs.Component.Depth
import DeployPlan.Proofs.Component.Flattening
import DeployPlan.Proofs.Component.Search
import DeployPlan.Proofs.Ordering.Cycle
import DeployPlan.Proofs.Ordering.Answer
import DeployPlan.Proofs.Ordering.Stability
import DeployPlan.Proofs.Plan.Submission
import DeployPlan.Proofs.Json.Number
import DeployPlan.Proofs.Json.Text
import DeployPlan.Proofs.Json.Spelling
import DeployPlan.Proofs.Json.Record
import DeployPlan.Proofs.Document.Request
import DeployPlan.Proofs.Plan.Sharing
import DeployPlan.Proofs.Plan.Selection
import DeployPlan.Proofs.Plan.Outcome
import DeployPlan.Proofs.Build.Choice
import DeployPlan.Proofs.Build.Failures
import DeployPlan.Proofs.Plan.DepthBound
import DeployPlan.Proofs.Plan.Agreement
import DeployPlan.Proofs.Plan.Deployment
import DeployPlan.Proofs.Scope.Footprint
import DeployPlan.Proofs.Scope.Interruption
import DeployPlan.Proofs.Scope.Key
import DeployPlan.Proofs.Scope.Reads
import DeployPlan.Proofs.Build.Consultation
import DeployPlan.Proofs.Build.Dialogue
import DeployPlan.Proofs.Build.Offer
import DeployPlan.Proofs.Plan.Pinning
import DeployPlan.Proofs.Web.Paging
import DeployPlan.Proofs.Runs.Batches
import DeployPlan.Proofs.Json.Compact
import DeployPlan.Proofs.Json.Refusal
import DeployPlan.Proofs.Document.Component
import DeployPlan.Proofs.Toml.Text
import DeployPlan.Proofs.Toml.Number
import DeployPlan.Proofs.Toml.Lines
import DeployPlan.Proofs.Document.Settings
import DeployPlan.Proofs.Json.Bounds
import DeployPlan.Proofs.Settings.File
import DeployPlan.Proofs.Toml.Bounds
import DeployPlan.Proofs.Text.Utf8
import DeployPlan.Proofs.Files
import DeployPlan.Proofs.Settings.Store
import DeployPlan.Proofs.Ordering.Overtaking
import DeployPlan.Proofs.Ordering.Relevance
import DeployPlan.Proofs.Catalog.History
import DeployPlan.Proofs.Plan.SearchOrder
import DeployPlan.Proofs.Scope.Values
import DeployPlan.Proofs.Scope.Servers
import DeployPlan.Proofs.Scope.Databases
import DeployPlan.Proofs.Scope.Permissions
import DeployPlan.Proofs.Json.Rearrangement
import DeployPlan.Proofs.Document.Tolerance
import DeployPlan.Proofs.Runs.Laziness
import DeployPlan.Proofs.Scope.Shortcuts
import DeployPlan.Proofs.Json.Nesting
import DeployPlan.Proofs.Document.Variable
import DeployPlan.Proofs.Scope.Documents
import DeployPlan.Proofs.Url.Pairs
import DeployPlan.Proofs.Web.Pages
import DeployPlan.Proofs.Catalog.Agreement
import DeployPlan.Proofs.Build.Patience
import DeployPlan.Proofs.Text.Pieces
import DeployPlan.Proofs.Text.Blank
import DeployPlan.Proofs.Build.Labels
import DeployPlan.Proofs.Url.Percent
import DeployPlan.Proofs.Url.Segments
import DeployPlan.Proofs.Web.Endpoint
import DeployPlan.Proofs.Build.FileShare
import DeployPlan.Proofs.Build.Scopes
import DeployPlan.Proofs.Toml.Excerpt
import DeployPlan.Proofs.Json.Mapped
import DeployPlan.Proofs.Web.Listing
import DeployPlan.Proofs.Web.InTurn
