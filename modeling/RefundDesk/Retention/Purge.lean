import RefundDesk.Library.Base64Url
import RefundDesk.Retention.Listing

namespace RefundDesk.Retention

open Transaction

-- The database and the settings of a transaction.
structure PurgeSession where
  database                       : TenantDatabase
  purgeTenantId                  : Option String := none
  purgedApprovalAttestationCount : Option Nat := none
  purgedExternalAlertCount       : Option Nat := none
  purgedQueuedJobCount           : Option Nat := none

abbrev PurgeTransaction := Transaction StoreError PurgeSession

-- A table of which the purge deletes the rows of a tenant. A row that another table refers to is
-- not deleted, and an append-only row only while its tenant is purged.
structure OwnedTable (ρ : Type) where
  name         : String
  rows         : TenantDatabase → List ρ
  withRows     : TenantDatabase → List ρ → TenantDatabase
  tenantId     : ρ → String
  appendOnly   : Bool := false
  isReferenced : TenantDatabase → ρ → Bool := fun _ _ => false

def OwnedTable.delete {ρ : Type} (table : OwnedTable ρ) (tenantId : String) :
    PurgeTransaction Nat := do
  let session ← get
  let deleted := (table.rows session.database).filter (table.tenantId · = tenantId)
  require (table.appendOnly → deleted = [] ∨ session.purgeTenantId = some tenantId)
    (.database "42501" (table.name ++ " is append-only"))
  require (∀ row ∈ deleted, table.isReferenced session.database row = false)
    (.database "23503" table.name)
  let kept := (table.rows session.database).filter (table.tenantId · ≠ tenantId)
  set { session with database := table.withRows session.database kept }
  pure deleted.length

section Tables

def apiMutationReceipts : OwnedTable OwnedRow where
  name         := "api_mutation_receipts"
  rows         := (·.apiMutationReceipts)
  withRows db rows := { db with apiMutationReceipts := rows }
  tenantId     := (·.tenantId)
  appendOnly   := true

def webhookReceipts : OwnedTable ReceiptRow where
  name         := "webhook_receipts"
  rows         := (·.webhookReceipts)
  withRows db rows := { db with webhookReceipts := rows }
  tenantId     := (·.tenantId)

def reconciliationCheckpoints : OwnedTable CheckpointRow where
  name         := "reconciliation_checkpoints"
  rows         := (·.reconciliationCheckpoints)
  withRows db rows := { db with reconciliationCheckpoints := rows }
  tenantId     := (·.tenantId)

def refundCorrelationCandidates : OwnedTable CandidateRow where
  name         := "refund_correlation_candidates"
  rows         := (·.refundCorrelationCandidates)
  withRows db rows := { db with refundCorrelationCandidates := rows }
  tenantId     := (·.tenantId)

def externalRefundAlerts : OwnedTable AlertRow where
  name         := "external_refund_alerts"
  rows         := (·.externalRefundAlerts)
  withRows db rows := { db with externalRefundAlerts := rows }
  tenantId     := (·.tenantId)

def refundExecutionAttempts : OwnedTable AttemptRow where
  name         := "refund_execution_attempts"
  rows         := (·.refundExecutionAttempts)
  withRows db rows := { db with refundExecutionAttempts := rows }
  tenantId     := (·.tenantId)

def refundExecutions : OwnedTable ExecutionRow where
  name         := "refund_executions"
  rows         := (·.refundExecutions)
  withRows db rows := { db with refundExecutions := rows }
  tenantId     := (·.tenantId)
  isReferenced db row := db.refundExecutionAttempts.any fun attempt =>
    attempt.executionId = row.id ∧ attempt.tenantId = row.tenantId

def approvalDecisions : OwnedTable DecisionRow where
  name         := "approval_decisions"
  rows         := (·.approvalDecisions)
  withRows db rows := { db with approvalDecisions := rows }
  tenantId     := (·.tenantId)
  appendOnly   := true

def auditEvents : OwnedTable OwnedRow where
  name         := "audit_events"
  rows         := (·.auditEvents)
  withRows db rows := { db with auditEvents := rows }
  tenantId     := (·.tenantId)
  appendOnly   := true

def refundRequests : OwnedTable RequestRow where
  name         := "refund_requests"
  rows         := (·.refundRequests)
  withRows db rows := { db with refundRequests := rows }
  tenantId     := (·.tenantId)
  isReferenced db row :=
    (db.approvalDecisions.any fun decision =>
      decision.requestId = row.id ∧ decision.tenantId = row.tenantId) ||
    (db.refundExecutions.any fun execution =>
      execution.requestId = row.id ∧ execution.tenantId = row.tenantId) ||
    (db.refundCorrelationCandidates.any fun candidate =>
      candidate.requestId = row.id ∧ candidate.tenantId = row.tenantId) ||
    db.externalRefundAlerts.any fun alert =>
      alert.overlappedRequestId = some row.id ∧ alert.tenantId = row.tenantId

def approvalPolicies : OwnedTable OwnedRow where
  name         := "approval_policies"
  rows         := (·.approvalPolicies)
  withRows db rows := { db with approvalPolicies := rows }
  tenantId     := (·.tenantId)

def tenantUsers : OwnedTable OwnedRow where
  name         := "tenant_users"
  rows         := (·.tenantUsers)
  withRows db rows := { db with tenantUsers := rows }
  tenantId     := (·.tenantId)
  isReferenced db row :=
    (db.refundRequests.any fun request =>
      request.requesterUserId = row.id ∧ request.tenantId = row.tenantId) ||
    (db.approvalDecisions.any fun decision =>
      decision.approverUserId = row.id ∧ decision.tenantId = row.tenantId) ||
    (db.externalRefundAlerts.any fun alert =>
      alert.acknowledgedByUserId = some row.id ∧ alert.tenantId = row.tenantId) ||
    db.approvalAttestations.any fun attestation =>
      attestation.approverUserId = row.id ∧ attestation.tenantId = row.tenantId

def stripeInstallations : OwnedTable InstallationRow where
  name         := "stripe_installations"
  rows         := (·.stripeInstallations)
  withRows db rows := { db with stripeInstallations := rows }
  tenantId     := (·.tenantId)
  isReferenced db row :=
    (db.refundRequests.any fun request => request.installationId = row.id ∧
      request.tenantId = row.tenantId ∧ request.environment = row.environment) ||
    (db.refundCorrelationCandidates.any fun candidate =>
      candidate.installationId = row.id ∧ candidate.tenantId = row.tenantId) ||
    (db.webhookReceipts.any fun receipt =>
      receipt.installationId = row.id ∧ receipt.tenantId = row.tenantId) ||
    (db.externalRefundAlerts.any fun alert => alert.installationId = row.id ∧
      alert.tenantId = row.tenantId ∧ alert.environment = row.environment) ||
    (db.reconciliationCheckpoints.any fun checkpoint =>
      checkpoint.installationId = row.id ∧ checkpoint.tenantId = row.tenantId) ||
    db.approvalAttestations.any fun attestation => attestation.installationId = row.id ∧
      attestation.tenantId = row.tenantId ∧ attestation.stripeAccountId = row.stripeAccountId ∧
      attestation.environment = row.environment

-- The installations, the users and the policies of a tenant are deleted with it.
def tenants : OwnedTable TenantRow where
  name         := "tenants"
  rows         := (·.tenants)
  withRows db rows :=
    let deleted (tenantId : String) : Bool :=
      db.tenants.any (·.id = tenantId) ∧ rows.all (·.id ≠ tenantId)
    { db with
      tenants             := rows
      stripeInstallations := db.stripeInstallations.filter fun row => deleted row.tenantId = false
      tenantUsers         := db.tenantUsers.filter fun row => deleted row.tenantId = false
      approvalPolicies    := db.approvalPolicies.filter fun row => deleted row.tenantId = false
    }
  tenantId     := (·.id)
  isReferenced db row :=
    (db.refundRequests.any (·.tenantId = row.id)) ||
    (db.approvalAttestations.any (·.tenantId = row.id)) ||
    (db.approvalDecisions.any (·.tenantId = row.id)) ||
    (db.refundExecutions.any (·.tenantId = row.id)) ||
    (db.refundExecutionAttempts.any (·.tenantId = row.id)) ||
    (db.refundCorrelationCandidates.any (·.tenantId = row.id)) ||
    (db.webhookReceipts.any (·.tenantId = row.id)) ||
    (db.externalRefundAlerts.any (·.tenantId = row.id)) ||
    (db.auditEvents.any (·.tenantId = row.id)) ||
    (db.apiMutationReceipts.any (·.tenantId = row.id)) ||
    db.reconciliationCheckpoints.any (·.tenantId = row.id)

end Tables

def isDecided (db : TenantDatabase) (row : AttestationRow) : Bool :=
  db.approvalDecisions.any fun decision => decision.approvalAttestationId = some row.id ∧
    decision.tenantId = row.tenantId ∧ decision.requestId = row.requestId ∧
    decision.approverUserId = row.approverUserId

def attests (row : AttestationRow) (request : RequestRow) : Bool :=
  row.requestId = request.id ∧ row.tenantId = request.tenantId ∧
    row.installationId = request.installationId ∧ row.environment = request.environment

-- The attestations of a request are deleted with it and counted.
def deleteRefundRequests (tenantId : String) : PurgeTransaction Nat := do
  let session ← get
  let deleted := session.database.refundRequests.filter (·.tenantId = tenantId)
  let count ← refundRequests.delete tenantId
  let db := (← get).database
  let (cascaded, kept) :=
    db.approvalAttestations.partition fun row => deleted.any (attests row)
  require (cascaded = [] ∨ session.purgeTenantId = some tenantId)
    (.database "42501" "approval_attestations is append-only")
  require (∀ row ∈ cascaded, isDecided db row = false) (.database "23503" "approval_attestations")
  modify fun session => { session with
    database                       := { db with approvalAttestations := kept }
    purgedApprovalAttestationCount :=
      if session.purgeTenantId.isSome then some cascaded.length
      else session.purgedApprovalAttestationCount
  }
  pure count

-- `^v1\.[A-Za-z0-9_-]{43}$`
def isTenantPseudonym (pseudonym : String) : Bool :=
  match pseudonym.toList with
  | 'v' :: '1' :: '.' :: cs => cs.length = 43 && cs.all (Base64Url.IsEncodedChar ·)
  | _                       => false

-- `jsonb_object ||`, where the right side wins
def mergeCounts (counts added : List (String × Nat)) : List (String × Nat) :=
  counts.filter (fun count => added.all (·.1 ≠ count.1)) ++ added

-- The certificate with the counts that the statements before it have set.
def PurgeSession.countedCertificate (session : PurgeSession) (attestations : Nat)
    (certificate : PurgeCertificate) : PurgeCertificate :=
  let counts := mergeCounts certificate.deletedCounts [("approval_attestations", attestations)]
  match session.purgedExternalAlertCount, session.purgedQueuedJobCount with
  | some alerts, some jobs => { certificate with
      deletedCounts  := mergeCounts counts [("external_alerts", alerts), ("queued_jobs", jobs)]
      processVersion := "db-purge-v3"
    }
  | _, _ => { certificate with deletedCounts := counts, processVersion := "db-purge-v2" }

-- The trigger `purge_certificates_include_attestation_count`
def includeAttestationPurgeCount (certificate : PurgeCertificate) :
    PurgeTransaction PurgeCertificate := do
  let session ← get
  if certificate.processVersion = "db-purge-v1" ∧ session.purgedApprovalAttestationCount.isSome then
    set { session with
      purgedApprovalAttestationCount := none
      purgedExternalAlertCount       := none
      purgedQueuedJobCount           := none
    }
    pure (session.countedCertificate (session.purgedApprovalAttestationCount.getD 0) certificate)
  else
    pure certificate

def insertPurgeCertificate (row : PurgeCertificate) : PurgeTransaction PurgeCertificate := do
  let certificate ← includeAttestationPurgeCount row
  let session ← get
  require (certificate.uninstalledAt ≤ certificate.purgeCompletedAt)
    (.database "23514" "purge_certificates_uninstall_check")
  require (certificate.purgeCompletedAt < certificate.expiresAt)
    (.database "23514" "purge_certificates_expiry_check")
  require (session.database.purgeCertificates.all (·.tenantPseudonym ≠ certificate.tenantPseudonym))
    (.database "23505" "purge_certificates_tenant_pseudonym_key")
  set { session with
    database := { session.database with
      purgeCertificates := certificate :: session.database.purgeCertificates
    }
  }
  pure certificate

-- The tenant is due, and nothing of it is in use.
def assertPurgeable (db : TenantDatabase) (completedAt : Timestamp) (tenant : TenantRow) :
    Except StoreError Timestamp :=
  if isDue completedAt tenant = false then
    .error (.database "55000" "tenant purge deadline is not due")
  else if tenant.legalHoldAt ≠ none then
    .error (.database "55000" "tenant purge is blocked by legal hold")
  else if db.installationsOf tenant.id = [] ∨
      (db.installationsOf tenant.id).any (·.isDeauthorized = false) then
    .error (.database "55000" "tenant purge requires complete deauthorization")
  else match db.uninstalledAt tenant.id with
  | none               =>
    .error (.database "55000" "tenant purge schedule exceeds the uninstall deadline")
  | some uninstalledAt =>
    if tenant.pendingDeleteAt.any (uninstalledAt + microsecondsOfDays 30 < ·) then
      .error (.database "55000" "tenant purge schedule exceeds the uninstall deadline")
    else if db.hasFinancialState tenant.id ∨ db.hasStartedAttempt tenant.id ∨
        db.hasOpenCandidate tenant.id ∨ db.hasUnprocessedRefundEvent tenant.id ∨
        (db.externalRefundAlerts.any fun alert => alert.tenantId = tenant.id ∧
          alert.classification ∈ [.external, .tampered, .proofReplay] ∧
          alert.reconciledAt = none) ∨
        db.hasPageInProgress tenant.id then
      .error (.database "55000" "tenant purge is blocked by unresolved financial state")
    else
      .ok uninstalledAt

-- The DELETE statements, and what they report.
def deleteTenantRows (tenantId : String) : PurgeTransaction (List (String × Nat)) := do
  let mutationReceipts ← apiMutationReceipts.delete tenantId
  let webhookReceipts ← webhookReceipts.delete tenantId
  let checkpoints ← reconciliationCheckpoints.delete tenantId
  let candidates ← refundCorrelationCandidates.delete tenantId
  let alerts ← externalRefundAlerts.delete tenantId
  let attempts ← refundExecutionAttempts.delete tenantId
  let executions ← refundExecutions.delete tenantId
  let decisions ← approvalDecisions.delete tenantId
  let auditEvents ← auditEvents.delete tenantId
  let requests ← deleteRefundRequests tenantId
  let policies ← approvalPolicies.delete tenantId
  let users ← tenantUsers.delete tenantId
  let installations ← stripeInstallations.delete tenantId
  let purged ← tenants.delete tenantId
  require (purged = 1) (.database "40001" "tenant purge compare-and-set failed")
  pure [
    ("mutation_receipts", mutationReceipts), ("webhook_receipts", webhookReceipts),
    ("reconciliation_checkpoints", checkpoints), ("refund_candidates", candidates),
    ("external_alerts", alerts), ("execution_attempts", attempts), ("executions", executions),
    ("decisions", decisions), ("audit_events", auditEvents), ("requests", requests),
    ("policies", policies), ("users", users), ("installations", installations),
    ("tenants", purged)
  ]

-- `refunddesk_purge_tenant`
def purgeTenant (now : Timestamp) (certificateId tenantId pseudonym : String) :
    PurgeTransaction (List PurgeCertificate) := do
  require (isTenantPseudonym pseudonym) (.database "22023" "invalid tenant purge request")
  let session ← get
  let db := session.database
  match db.tenants.find? (·.id = tenantId) with
  | none        =>
    match db.purgeCertificates.find? (·.tenantPseudonym = pseudonym) with
    | none             => throw (.database "P0002" "tenant purge target was not found")
    | some certificate => pure [certificate]
  | some tenant =>
    let uninstalledAt ← fromExcept (assertPurgeable db now tenant)
    set { session with purgeTenantId := some tenantId }
    let deletedCounts ← deleteTenantRows tenantId
    let certificate ← insertPurgeCertificate {
      id               := certificateId
      tenantPseudonym  := pseudonym
      uninstalledAt
      purgeCompletedAt := now
      expiresAt        := now + microsecondsOfDays 365
      policyVersion    := "pilot-v1"
      processVersion   := "db-purge-v1"
      deletedCounts
      result           := "completed"
    }
    modify fun after => { after with purgeTenantId := session.purgeTenantId }
    pure [certificate]

section Pgboss

variable (db : TenantDatabase) (tenantId : String) (job : PgbossJob)

def hasRequest : Bool :=
  db.refundRequests.any fun row => row.tenantId = tenantId ∧ job.text "request_id" = some row.id

def hasInstallation : Bool :=
  db.stripeInstallations.any fun row =>
    row.tenantId = tenantId ∧ job.text "installation_id" = some row.id

def hasReceipt : Bool :=
  db.webhookReceipts.any fun row => row.tenantId = tenantId ∧ job.text "receipt_id" = some row.id

def hasInstallationReceipt : Bool :=
  db.webhookReceipts.any fun row => row.tenantId = tenantId ∧
    job.text "installation_id" = some row.installationId ∧ job.text "receipt_id" = some row.id

-- The job belongs to the tenant, or it names one of its rows.
def isMatched : Bool :=
  job.text "tenant_id" = some tenantId || hasRequest db tenantId job ||
    hasInstallation db tenantId job || hasReceipt db tenantId job

def isExecuteJob : Bool :=
  job.isObject && job.text "tenant_id" = some tenantId && hasRequest db tenantId job &&
    job.keys.all fun key => key ∈ ["tenant_id", "request_id"]

def isWebhookJob : Bool :=
  job.isObject && job.text "tenant_id" = some tenantId && hasInstallation db tenantId job &&
    hasInstallationReceipt db tenantId job

def isUnsafe : Bool :=
  job.blocking || job.pendingDependencies ≠ 0 || job.sourceName.isSome || job.sourceId.isSome ||
    if job.name = "refunddesk_refund_execute" then
      isExecuteJob db tenantId job = false
    else if job.name = "refunddesk_webhook_process" then
      isWebhookJob db tenantId job = false
    else
      true

end Pgboss

def matchedJobs (db : TenantDatabase) (pgboss : PgbossSchema) (tenantId : String) :
    List PgbossJob :=
  pgboss.jobs.filter (isMatched db tenantId)

def isDependent (jobs : List PgbossJob) (dependency : PgbossJobDependency) : Bool :=
  jobs.any fun job =>
    dependency.childName = job.name ∧ dependency.childId = job.id ∨
      dependency.parentName = job.name ∧ dependency.parentId = job.id

-- The jobs of the tenant are deleted unless one of them is active or of a kind that is not known.
def deletePgbossJobs (tenantId : String) : PurgeTransaction Nat := do
  let session ← get
  let db := session.database
  match db.pgboss with
  | none        =>
    throw (.database "RDQ01" "pg-boss retention boundary is unavailable")
  | some pgboss =>
    require (pgboss.versions = [37])
      (.database "RDQ01" "pg-boss retention boundary has an unsupported schema version")
    let matched := matchedJobs db pgboss tenantId
    require ((∀ job ∈ matched, job.state ≠ "active" ∧ isUnsafe db tenantId job = false) ∧
        ∀ dependency ∈ pgboss.dependencies, isDependent matched dependency = false)
      (.database "55000" "tenant purge is blocked by active or unsupported pg-boss work")
    let remaining := pgboss.jobs.filter fun job => isMatched db tenantId job = false
    require (remaining.length + matched.length = pgboss.jobs.length ∧
        ∀ job ∈ remaining, isMatched db tenantId job = false)
      (.database "RDQ02" "pg-boss tenant cleanup did not reach zero")
    set { session with database := { db with pgboss := some { pgboss with jobs := remaining } } }
    pure matched.length

-- `refunddesk_purge_test_sandbox_tenant`
def purgeTestSandboxTenant (now : Timestamp) (certificateId tenantId pseudonym : String) :
    PurgeTransaction (List PurgeCertificate) := do
  require (isTenantPseudonym pseudonym)
    (.database "22023" "invalid test/sandbox tenant purge request")
  let db := (← get).database
  if (db.tenants.any (·.id = tenantId)) = false then
    purgeTenant now certificateId tenantId pseudonym
  else
    require (db.installationsOf tenantId ≠ [] ∧
        ∀ row ∈ db.installationsOf tenantId, row.environment ∈ [.test, .sandbox])
      (.database "55000" "automatic purge is restricted to test/sandbox installations")
    let deletedJobs ← deletePgbossJobs tenantId
    let previous := (← get).purgeTenantId
    modify fun session => { session with purgeTenantId := some tenantId }
    let deletedAlerts ← externalRefundAlerts.delete tenantId
    modify fun session => { session with
      purgedExternalAlertCount := some deletedAlerts
      purgedQueuedJobCount     := some deletedJobs
    }
    let certificates ← purgeTenant now certificateId tenantId pseudonym
    modify fun session => { session with purgeTenantId := previous }
    pure certificates

-- A call in a transaction of its own.
def purge (now : Timestamp) (certificateId tenantId pseudonym : String) :
    Transaction StoreError TenantDatabase (List PurgeCertificate) :=
  onField (fun db => { database := db }) (fun _ session => session.database) id
    (purgeTestSandboxTenant now certificateId tenantId pseudonym)

end RefundDesk.Retention
