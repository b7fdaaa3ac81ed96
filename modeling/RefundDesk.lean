import RefundDesk.Library.Transaction
import RefundDesk.Library.Table
import RefundDesk.Library.ThreeValued
import RefundDesk.Library.Script
import RefundDesk.Library.Listing
import RefundDesk.Library.BoundedListing
import RefundDesk.Library.CellRate
import RefundDesk.Library.Base64Url
import RefundDesk.Library.Pagination
import RefundDesk.Library.LatestWins
import RefundDesk.Library.Csv
import RefundDesk.Library.Decimal
import RefundDesk.Library.IpAddress
import RefundDesk.Library.Utf16
import RefundDesk.Library.Json
import RefundDesk.Library.JsonObjects
import RefundDesk.Library.JsonIntegers
import RefundDesk.Domain.CanonicalTexts
import RefundDesk.Domain.ProofTokens
import RefundDesk.Domain.Types
import RefundDesk.Domain.Policies
import RefundDesk.Domain.Workflow
import RefundDesk.Domain.Decisions
import RefundDesk.Domain.RefundProof
import RefundDesk.Domain.ApprovalAttestation
import RefundDesk.Domain.Encryption
import RefundDesk.Config.KeyRotation
import RefundDesk.Contracts.CanonicalJson
import RefundDesk.Config.KeyHistory
import RefundDesk.Config.Releases
import RefundDesk.Database.Schema
import RefundDesk.Database.Triggers
import RefundDesk.Database.Update
import RefundDesk.Database.Refinement
import RefundDesk.Repositories.Requests
import RefundDesk.Repositories.Identification
import RefundDesk.Repositories.RequestSpecs
import RefundDesk.Repositories.Calls
import RefundDesk.Repositories.Lifecycle
import RefundDesk.Repositories.Tenant
import RefundDesk.Repositories.Reconciliation
import RefundDesk.Repositories.Resolution
import RefundDesk.Repositories.Changes
import RefundDesk.Repositories.Runs
import RefundDesk.Repositories.Monotonicity
import RefundDesk.Repositories.Soundness
import RefundDesk.Repositories.Candidates
import RefundDesk.Repositories.Protection
import RefundDesk.Repositories.Acceptance
import RefundDesk.Repositories.StoreSoundness
import RefundDesk.Repositories.Approvals
import RefundDesk.Repositories.CandidateMerge
import RefundDesk.Repositories.RateLimits
import RefundDesk.Repositories.RateLimitRuns
import RefundDesk.Worker.Execution
import RefundDesk.Worker.Observation
import RefundDesk.Worker.Operations
import RefundDesk.Worker.Footprints
import RefundDesk.Worker.ExecutionSpecs
import RefundDesk.Worker.AttemptsKept
import RefundDesk.Worker.ExecutionJob
import RefundDesk.Worker.ObservationSpecs
import RefundDesk.Worker.Reachable
import RefundDesk.Worker.Invariants
import RefundDesk.Worker.Accounting
import RefundDesk.Worker.Attempts
import RefundDesk.Worker.Revisions
import RefundDesk.Worker.Approvals
import RefundDesk.Worker.ExecutionRuns
import RefundDesk.Worker.Scanner
import RefundDesk.Worker.ScanCoverage
import RefundDesk.Worker.OperationalMonitor
import RefundDesk.Worker.Recovery
import RefundDesk.Worker.RecoverySpecs
import RefundDesk.Worker.RecoveryPasses
import RefundDesk.Worker.RecoveryStarvation
import RefundDesk.Platform.Ports
import RefundDesk.Platform.Repository
import RefundDesk.Platform.PrismaRepository
import RefundDesk.Platform.Service
import RefundDesk.Platform.Receipts
import RefundDesk.Platform.Reads
import RefundDesk.Platform.ListPagination
import RefundDesk.Platform.AccountWebhook
import RefundDesk.Platform.InstallationLifecycle
import RefundDesk.Platform.DispatchContract
import RefundDesk.Platform.Idempotency
import RefundDesk.Platform.EdgeSource
import RefundDesk.Platform.EdgeAdmission
import RefundDesk.Platform.AuditDownload
import RefundDesk.Platform.SampledSignals
import RefundDesk.Authority.CanonicalPayload
import RefundDesk.Authority.Attestations
import RefundDesk.Authority.SignedRequests
import RefundDesk.Authority.Provenance
import RefundDesk.Authority.Binding
import RefundDesk.Database.Tenants
import RefundDesk.Retention.Listing
import RefundDesk.Retention.Purge
import RefundDesk.Retention.PurgeSpecs
import RefundDesk.Retention.Agreement
import RefundDesk.StripeApp.Money
import RefundDesk.StripeApp.MutationIntents
import RefundDesk.Authority.AttestationTokens
import RefundDesk.Library.BatchDrain
import RefundDesk.Retention.Drain
import RefundDesk.Retention.Locality
import RefundDesk.Retention.DrainRuns
import RefundDesk.Retention.Queue
import RefundDesk.Retention.Drained
import RefundDesk.Notifications.WebhookDestination
import RefundDesk.Notifications.WebhookProvider
import RefundDesk.Library.CrashDisk
import RefundDesk.Deploy.TransitionJournal
import RefundDesk.Deploy.JournalRuns
import RefundDesk.Library.JsonSchema
import RefundDesk.Contracts.Schemas
import RefundDesk.Contracts.SignedEnvelope
import RefundDesk.Platform.PilotRoute
import RefundDesk.StripeApp.SignedFetch
import RefundDesk.StripeApp.Client
import RefundDesk.Worker.WebhookConvergence
import RefundDesk.Authority.SentRefunds
import RefundDesk.Platform.MutationAuthority
import RefundDesk.Platform.MutationEffects
import RefundDesk.Platform.AuthorizedRuns
