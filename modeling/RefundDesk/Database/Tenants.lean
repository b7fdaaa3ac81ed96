import RefundDesk.Database.Schema
import RefundDesk.Platform.Ports

namespace RefundDesk

-- The rows of all tenants, with the columns that the functions over many tenants read and the
-- columns of the foreign keys. Times are in microseconds.

structure TenantRow where
  id              : String
  status          : TenantStatus
  liveEnabled     : Bool
  pendingDeleteAt : Option Timestamp
  legalHoldAt     : Option Timestamp
  deriving DecidableEq, Repr

structure InstallationRow where
  id              : String
  tenantId        : String
  stripeAccountId : String
  environment     : StripeEnvironment
  status          : InstallationStatus
  deauthorizedAt  : Option Timestamp
  deriving DecidableEq, Repr

-- A row of `tenant_users`, `approval_policies`, `audit_events` or `api_mutation_receipts`
structure OwnedRow where
  id       : String
  tenantId : String
  deriving DecidableEq, Repr

structure RequestRow where
  id                     : String
  tenantId               : String
  installationId         : String
  environment            : StripeEnvironment
  requesterUserId        : String
  workflowStatus         : WorkflowStatus
  effectState            : EffectState
  paymentGuardReleasedAt : Option Timestamp
  createdAt              : Timestamp
  deriving DecidableEq, Repr

structure AttestationRow where
  id              : String
  tenantId        : String
  installationId  : String
  stripeAccountId : String
  environment     : StripeEnvironment
  requestId       : String
  approverUserId  : String
  deriving DecidableEq, Repr

structure DecisionRow where
  id                    : String
  tenantId              : String
  requestId             : String
  approverUserId        : String
  approvalAttestationId : Option String
  deriving DecidableEq, Repr

structure ExecutionRow where
  id             : String
  tenantId       : String
  requestId      : String
  idempotencyKey : String
  stripeRefundId : Option String
  deriving DecidableEq, Repr

structure AttemptRow where
  id          : String
  tenantId    : String
  executionId : String
  state       : ExecutionAttemptState
  deriving DecidableEq, Repr

structure CandidateRow where
  id             : String
  tenantId       : String
  requestId      : String
  installationId : String
  state          : CorrelationCandidateState
  deriving DecidableEq, Repr

structure ReceiptRow where
  id              : String
  tenantId        : String
  installationId  : String
  endpoint        : StoredWebhookEndpoint
  stripeAccountId : String
  eventType       : AccountWebhookEventType
  status          : ReceiptStatus
  receivedAt      : Timestamp
  deriving DecidableEq, Repr

structure AlertRow where
  id                   : String
  tenantId             : String
  installationId       : String
  environment          : StripeEnvironment
  acknowledgedByUserId : Option String
  overlappedRequestId  : Option String
  classification       : AlertClassification
  reconciledAt         : Option Timestamp
  deriving DecidableEq, Repr

structure CheckpointRow where
  id             : String
  tenantId       : String
  installationId : String
  pageInProgress : Bool
  deriving DecidableEq, Repr

structure PurgeCertificate where
  id               : String
  tenantPseudonym  : String
  uninstalledAt    : Timestamp
  purgeCompletedAt : Timestamp
  expiresAt        : Timestamp
  policyVersion    : String
  processVersion   : String
  deletedCounts    : List (String × Nat)
  result           : String
  deriving DecidableEq, Repr

structure PgbossJob where
  id                  : String
  name                : String
  data                : CanonicalJsonValue
  state               : String
  blocking            : Bool
  pendingDependencies : Int
  sourceName          : Option String
  sourceId            : Option String

namespace PgbossJob

-- `data->>name`. The text of a value that is not a string is no id.
def text (job : PgbossJob) (name : String) : Option String :=
  match job.data with
  | .object members => (members.find? (·.1 = name)).bind fun member =>
    match member.2 with
    | .string text => some text
    | _            => none
  | _               => none

def keys (job : PgbossJob) : List String :=
  match job.data with
  | .object members => members.map (·.1)
  | _               => []

def isObject (job : PgbossJob) : Bool :=
  match job.data with
  | .object _ => true
  | _         => false

end PgbossJob

structure PgbossJobDependency where
  childName  : String
  childId    : String
  parentName : String
  parentId   : String

-- `pgboss.version`, `pgboss.job` and `pgboss.job_dependency`
structure PgbossSchema where
  versions     : List Int
  jobs         : List PgbossJob
  dependencies : List PgbossJobDependency

structure TenantDatabase where
  tenants                     : List TenantRow
  stripeInstallations         : List InstallationRow
  tenantUsers                 : List OwnedRow
  approvalPolicies            : List OwnedRow
  refundRequests              : List RequestRow
  approvalAttestations        : List AttestationRow
  approvalDecisions           : List DecisionRow
  refundExecutions            : List ExecutionRow
  refundExecutionAttempts     : List AttemptRow
  refundCorrelationCandidates : List CandidateRow
  webhookReceipts             : List ReceiptRow
  externalRefundAlerts        : List AlertRow
  auditEvents                 : List OwnedRow
  apiMutationReceipts         : List OwnedRow
  reconciliationCheckpoints   : List CheckpointRow
  purgeCertificates           : List PurgeCertificate
  pgboss                      : Option PgbossSchema

namespace TenantDatabase

-- The rows of all tenants but one.
def without (db : TenantDatabase) (tenantId : String) : TenantDatabase := { db with
  tenants                     := db.tenants.filter (·.id ≠ tenantId)
  stripeInstallations         := db.stripeInstallations.filter (·.tenantId ≠ tenantId)
  tenantUsers                 := db.tenantUsers.filter (·.tenantId ≠ tenantId)
  approvalPolicies            := db.approvalPolicies.filter (·.tenantId ≠ tenantId)
  refundRequests              := db.refundRequests.filter (·.tenantId ≠ tenantId)
  approvalAttestations        := db.approvalAttestations.filter (·.tenantId ≠ tenantId)
  approvalDecisions           := db.approvalDecisions.filter (·.tenantId ≠ tenantId)
  refundExecutions            := db.refundExecutions.filter (·.tenantId ≠ tenantId)
  refundExecutionAttempts     := db.refundExecutionAttempts.filter (·.tenantId ≠ tenantId)
  refundCorrelationCandidates := db.refundCorrelationCandidates.filter (·.tenantId ≠ tenantId)
  webhookReceipts             := db.webhookReceipts.filter (·.tenantId ≠ tenantId)
  externalRefundAlerts        := db.externalRefundAlerts.filter (·.tenantId ≠ tenantId)
  auditEvents                 := db.auditEvents.filter (·.tenantId ≠ tenantId)
  apiMutationReceipts         := db.apiMutationReceipts.filter (·.tenantId ≠ tenantId)
  reconciliationCheckpoints   := db.reconciliationCheckpoints.filter (·.tenantId ≠ tenantId)
}

end TenantDatabase
end RefundDesk
