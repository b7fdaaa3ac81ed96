import RefundDesk.Library.Transaction
import RefundDesk.Library.Table
import RefundDesk.Domain.RefundProof
import RefundDesk.Domain.Policies
import Mathlib.Data.Prod.Lex
import Mathlib.Data.String.Basic

namespace RefundDesk

inductive StoreError
  | error (message : String)
  | rangeError (message : String)
  | typeError (message : String)
  | domain (error : DomainError)
  | database (sqlState message : String)
  deriving DecidableEq, Repr

structure Tenant where
  status          : TenantStatus
  liveEnabled     : Bool
  pendingDeleteAt : Option Timestamp
  deriving DecidableEq, Repr

inductive AccountWebhookEventType
  | refundCreated
  | refundUpdated
  | refundFailed
  | accountApplicationAuthorized
  | accountApplicationDeauthorized
  deriving DecidableEq, Repr

structure StripeInstallation where
  stripeAccountId             : String
  environment                 : StripeEnvironment
  status                      : InstallationStatus
  installedAt                 : Timestamp
  deauthorizedAt              : Option Timestamp
  lastLifecycleEventId        : Option String
  lastLifecycleEventType      : Option AccountWebhookEventType
  lastLifecycleEventCreatedAt : Option Timestamp
  deriving DecidableEq, Repr

structure TenantUser where
  stripeUserId    : String
  approverEnabled : Bool
  deriving DecidableEq, Repr

-- The columns of `refund_requests` that the modelled code reads. The primary key is the key of
-- the table, so no update can change it.
structure RefundRequest where
  installationId          : String
  environment             : StripeEnvironment
  paymentKey              : String
  paymentIntentId         : Option String
  chargeId                : Option String
  amountMinor             : Int
  currency                : String
  reason                  : RefundReason
  requesterUserId         : String
  policyVersion           : Nat
  requiredApprovals       : Nat
  workflowStatus          : WorkflowStatus
  effectState             : EffectState
  version                 : Nat
  paymentGuardReleasedAt  : Option Timestamp
  createdAt               : Timestamp
  expiresAt               : Timestamp
  approvedAt              : Option Timestamp
  executionStartedAt      : Option Timestamp
  reconciliationSafeAfterAt : Option Timestamp
  terminalAt              : Option Timestamp
  deriving DecidableEq, Repr

inductive DecisionKind
  | approve
  | reject
  deriving DecidableEq, Repr

structure ApprovalDecision where
  approverUserId        : String
  decision              : DecisionKind
  approvalAttestationId : Option String
  decidedAt             : Timestamp
  deriving DecidableEq, Repr

structure ApprovalAttestation where
  installationId            : String
  requestId                 : String
  approverUserId            : String
  requestNonce              : String
  stripeAccountId           : String
  environment               : StripeEnvironment
  resourceType              : ResourceType
  resourceId                : String
  requestVersion            : Nat
  signedEnvelopeHash        : String
  authorizationSnapshotHash : String
  verifiedAt                : Timestamp
  consumeBefore             : Timestamp
  hmacKeyVersion            : String
  hmac                      : String
  deriving DecidableEq, Repr

inductive ExecutionAttemptState
  | started
  | retryableFailure
  | ambiguousFailure
  | terminalFailure
  | completed
  deriving DecidableEq, Repr

-- An attempt is identified by its number, which is unique within the execution.
structure RefundExecutionAttempt where
  attemptNumber       : Nat
  state               : ExecutionAttemptState
  normalizedErrorCode : Option String
  stripeRequestId     : Option String
  startedAt           : Timestamp
  finishedAt          : Option Timestamp
  deriving DecidableEq, Repr

structure RefundExecution where
  idempotencyKey           : String
  canonicalParametersHash  : String
  stripeRefundId           : Option String
  stripeRefundStatus       : Option StripeRefundStatus
  amountMinor              : Int
  currency                 : String
  lastStripeEventId        : Option String
  lastStripeEventCreatedAt : Option Timestamp
  lastStripeRequestId      : Option String
  reconciledAt             : Option Timestamp
  attempts                 : List RefundExecutionAttempt
  deriving DecidableEq, Repr

inductive CorrelationCandidateState
  | pending
  | exactLinked
  | uniqueLinked
  | conflict
  deriving DecidableEq, Repr

-- The candidates of a request are kept under their Stripe refund id.
structure RefundCorrelationCandidate where
  installationId              : String
  paymentKey                  : String
  paymentIntentId             : Option String
  chargeId                    : Option String
  amountMinor                 : Int
  currency                    : String
  stripeRefundStatus          : Option StripeRefundStatus
  stripeCreatedAt             : Timestamp
  stripeStateObservedAt       : Timestamp
  stripeEventId               : Option String
  stripeEventCreatedAt        : Option Timestamp
  eventIdempotencyCorrelation : EventIdempotencyEvidence
  lastSeenScanWindowEnd       : Option Timestamp
  state                       : CorrelationCandidateState
  firstObservedAt             : Timestamp
  lastObservedAt              : Timestamp
  resolvedAt                  : Option Timestamp
  deriving DecidableEq, Repr

-- A request with the rows that belong to it. The execution and the candidates reference their
-- request under unique keys, so they are kept with it. `images` is a ghost: the images that the
-- row of the request had before its updates, the latest first. No operation reads it.
structure RefundRequestDetail where
  request    : RefundRequest
  decisions  : List ApprovalDecision
  execution  : Option RefundExecution
  candidates : Table String RefundCorrelationCandidate
  images     : List RefundRequest
  deriving DecidableEq

-- The refund that the execution of the request is linked to.
def RefundRequestDetail.linkedRefundId (detail : RefundRequestDetail) : Option String :=
  detail.execution.bind (·.stripeRefundId)

inductive AlertClassification
  | external
  | tampered
  | proofReplay
  deriving DecidableEq, Repr

def AlertClassification.text : AlertClassification → String
  | external    => "external"
  | tampered    => "tampered"
  | proofReplay => "proof_replay"

inductive AlertStatus
  | opened
  | acknowledged
  deriving DecidableEq, Repr

structure ExternalRefundAlert where
  environment          : StripeEnvironment
  stripeRefundCreatedAt : Timestamp
  paymentKey           : String
  amountMinor          : Int
  currency             : String
  classification       : AlertClassification
  status               : AlertStatus
  detectedAt           : Timestamp
  acknowledgedAt       : Option Timestamp
  acknowledgedByUserId : Option String
  overlappedRequestId  : Option String
  reconciledAt         : Option Timestamp
  deriving DecidableEq, Repr

inductive StoredWebhookEndpoint
  | accountTest
  | accountSandbox
  | connectedTest
  | connectedSandbox
  deriving DecidableEq, Repr

def environmentForStoredWebhookEndpoint : StoredWebhookEndpoint → StripeEnvironment
  | .accountTest | .connectedTest       => .test
  | .accountSandbox | .connectedSandbox => .sandbox

-- `NormalizedWebhookRefund` and `RefundObservation`, which have the same fields
structure RefundObservation where
  refundId          : String
  paymentIntentId   : Option String
  chargeId          : Option String
  amountMinor       : Int
  currency          : String
  status            : Option StripeRefundStatus
  created           : Int
  metadataRequestId : Option String
  metadataProof     : Option String
  deriving DecidableEq, Repr

inductive WebhookSubject
  | refund (refund : RefundObservation)
  | application (applicationId : String)
  deriving DecidableEq, Repr

structure NormalizedAccountWebhookPayload where
  environment         : StripeEnvironment
  eventType           : AccountWebhookEventType
  eventCreated        : Int
  eventIdempotencyKey : Option String
  subject             : WebhookSubject
  deriving DecidableEq, Repr

inductive ReceiptStatus
  | received
  | processing
  | processed
  | failed
  deriving DecidableEq, Repr

structure WebhookReceipt where
  installationId     : String
  endpoint           : StoredWebhookEndpoint
  stripeEventId      : String
  stripeAccountId    : String
  eventType          : AccountWebhookEventType
  objectId           : String
  normalizedPayload  : NormalizedAccountWebhookPayload
  stripeCreatedAt    : Timestamp
  status             : ReceiptStatus
  processingAttempts : Nat
  processedAt        : Option Timestamp
  lastErrorCode      : Option String
  deriving DecidableEq, Repr

structure ReconciliationCheckpoint where
  committedThrough : Timestamp
  scanWindowEnd    : Option Timestamp
  startingAfter    : Option String
  pageInProgress   : Bool
  deriving DecidableEq, Repr

-- The rows of one tenant. Row-level security and the `tenantId` conditions of every query keep
-- the rows of other tenants apart.
structure Store where
  tenantId      : String
  tenant        : Tenant
  installations : Table String StripeInstallation
  users         : Table String TenantUser
  attestations  : Table String ApprovalAttestation
  requests      : Table String RefundRequestDetail
  alerts        : Table (String ×ₗ String) ExternalRefundAlert
  receipts      : Table String WebhookReceipt
  checkpoints   : Table String ReconciliationCheckpoint
  deriving DecidableEq

abbrev RequestTransaction := Transaction StoreError RefundRequestDetail

abbrev StoreTransaction := Transaction StoreError Store

end RefundDesk
