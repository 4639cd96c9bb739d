import CrossPatch.Library.Arrangement
import CrossPatch.Library.Attempt
import CrossPatch.Library.Base64
import CrossPatch.Library.Calendar
import CrossPatch.Library.Chains
import CrossPatch.Library.Cursors
import CrossPatch.Library.Decimals
import CrossPatch.Library.Decoding
import CrossPatch.Library.Disk
import CrossPatch.Library.DocumentText
import CrossPatch.Library.DocumentTrees
import CrossPatch.Library.Documents
import CrossPatch.Library.Doubles
import CrossPatch.Library.FileTree
import CrossPatch.Library.JsonReader
import CrossPatch.Library.JsonText
import CrossPatch.Library.Lines
import CrossPatch.Library.Marks
import CrossPatch.Library.Numerals
import CrossPatch.Library.Octets
import CrossPatch.Library.Pairing
import CrossPatch.Library.Pattern
import CrossPatch.Library.Procedure
import CrossPatch.Library.RateWindow
import CrossPatch.Library.RowLocks
import CrossPatch.Library.Runs
import CrossPatch.Library.Sha256
import CrossPatch.Library.Table
import CrossPatch.Library.Transaction
import CrossPatch.Domain.Amounts
import CrossPatch.Domain.Failure
import CrossPatch.Domain.Fingerprints
import CrossPatch.Domain.Hashing
import CrossPatch.Domain.Seats
import CrossPatch.Domain.Semantics
import CrossPatch.Domain.StateMachine
import CrossPatch.Domain.Text
import CrossPatch.Domain.Trace
import CrossPatch.Evidence.Accounting
import CrossPatch.Evidence.Artifacts
import CrossPatch.Evidence.Bounds
import CrossPatch.Evidence.Detection
import CrossPatch.Evidence.KeyBlocks
import CrossPatch.Evidence.Publication
import CrossPatch.Evidence.Sanitizer
import CrossPatch.Evidence.Sources
import CrossPatch.Evidence.Views
import CrossPatch.Evidence.Writers
import CrossPatch.Runner.Catalog
import CrossPatch.Runner.Confinement
import CrossPatch.Runner.Handoff
import CrossPatch.Runner.Lifetime
import CrossPatch.Runner.Results
import CrossPatch.Runner.Sidecar
import CrossPatch.Runner.Supervision
import CrossPatch.Runner.Supervisor
import CrossPatch.Runner.Verifier
import CrossPatch.Runner.Worktree
import CrossPatch.Broker.Admission
import CrossPatch.Broker.Approval
import CrossPatch.Broker.Authenticity
import CrossPatch.Broker.Binding
import CrossPatch.Broker.Cancellation
import CrossPatch.Broker.Claim
import CrossPatch.Broker.Containment
import CrossPatch.Broker.Derivation
import CrossPatch.Broker.Execution
import CrossPatch.Broker.FailClosed
import CrossPatch.Broker.Guard
import CrossPatch.Broker.Lifecycle
import CrossPatch.Broker.Paths
import CrossPatch.Broker.SingleUse
import CrossPatch.Broker.Store
import CrossPatch.Broker.Warrant
import CrossPatch.Runtime.Authority
import CrossPatch.Runtime.BrokerResults
import CrossPatch.Runtime.ControlPlane
import CrossPatch.Runtime.Disclosure
import CrossPatch.Runtime.EventStream
import CrossPatch.Runtime.ExecutionAuthority
import CrossPatch.Runtime.ExecutionPath
import CrossPatch.Runtime.Explanation
import CrossPatch.Runtime.HashChain
import CrossPatch.Runtime.History
import CrossPatch.Runtime.JudgeAudit
import CrossPatch.Runtime.JudgeTokens
import CrossPatch.Runtime.Launcher
import CrossPatch.Runtime.LiveTrials
import CrossPatch.Runtime.LockOrder
import CrossPatch.Runtime.Progress
import CrossPatch.Runtime.Projection
import CrossPatch.Runtime.Protocol
import CrossPatch.Runtime.QueueRefinement
import CrossPatch.Runtime.Reading
import CrossPatch.Runtime.Records
import CrossPatch.Runtime.Redaction
import CrossPatch.Runtime.Refinement
import CrossPatch.Runtime.Repositories
import CrossPatch.Runtime.ReviewPath
import CrossPatch.Runtime.RevisionSpend
import CrossPatch.Runtime.Revocation
import CrossPatch.Runtime.Scheduling
import CrossPatch.Runtime.SideRecords
import CrossPatch.Runtime.Staffing
import CrossPatch.Runtime.Store
import CrossPatch.Runtime.Timeline
import CrossPatch.Runtime.TrialConsistency
import CrossPatch.Runtime.TrialLedger
import CrossPatch.Runtime.Verification
import CrossPatch.Runtime.WorkQueue
import CrossPatch.Orchestration.Bounds
import CrossPatch.Orchestration.Closure
import CrossPatch.Orchestration.Coordinator
import CrossPatch.Orchestration.Duplicates
import CrossPatch.Orchestration.Escalation
import CrossPatch.Orchestration.Retries
import CrossPatch.Orchestration.ReviewedPatch
import CrossPatch.Orchestration.Steps
import CrossPatch.Export.Builder
import CrossPatch.Export.Contents
import CrossPatch.Export.Failures
import CrossPatch.Export.Layout
import CrossPatch.Export.Manifest
import CrossPatch.Export.Members
import CrossPatch.Export.RoundTrip
import CrossPatch.Export.Soundness
import CrossPatch.Export.StoredZip
import CrossPatch.Export.Verifier
import CrossPatch.Mcp.Auth
import CrossPatch.Mcp.Credentials
import CrossPatch.Mcp.JudgeRegistry
import CrossPatch.Mcp.Replay
import CrossPatch.Mcp.Sessions
