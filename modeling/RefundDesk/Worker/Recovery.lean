import Mathlib.Data.Prod.Lex
import Mathlib.Data.String.Basic
import RefundDesk.Platform.AccountWebhook
import RefundDesk.Worker.Execution

namespace RefundDesk

open Transaction Transactions TenantRepository

-- The rows of every tenant, and the column `received_at` of the receipts, which is written once
structure TenantStores where
  stores     : Table String Store
  receivedAt : String → Timestamp
  keyed      : ∀ e ∈ stores.entries, e.2.tenantId = e.1

namespace TenantStores

variable {α : Type}

def put (tenants : TenantStores) (tenantId : String) (s : Store) : TenantStores where
  stores     := tenants.stores.insert tenantId { s with tenantId }
  receivedAt := tenants.receivedAt
  keyed e he := by
    rcases Table.mem_insertEntry he with rfl | he
    · rfl
    · exact tenants.keyed e he

-- A transaction on the rows of a tenant, if there are any
def withTenantTransaction (tenantId : String) (m : StoreTransaction α) :
    Transactions StoreError TenantStores (Option α) := fun tenants =>
  match tenants.stores.find? tenantId with
  | none   => (.ok none, tenants)
  | some s =>
    match m.run s with
    | .ok (a, s') => (.ok (some a), tenants.put tenantId s')
    | .error e    => (.error e, tenants)

-- `refunddesk_list_active_tenant_ids`
def activeTenantIds (tenants : TenantStores) : List String :=
  (tenants.stores.entries.filter fun e => e.2.tenant.status = .active).map (·.1)

end TenantStores

namespace WorkerStore

variable (now : Timestamp)

structure WorkerInstallation where
  tenantId          : String
  installationId    : String
  stripeAccountId   : String
  environment       : StripeEnvironment
  active            : Bool
  tenantLiveEnabled : Bool
  deriving DecidableEq, Repr

structure ApprovedRefundExecution where
  tenantId     : String
  requestId    : String
  installation : WorkerInstallation
  deriving DecidableEq, Repr

def approvedRefundExecution (item : ExecutionWorkItem) : ApprovedRefundExecution where
  tenantId     := item.tenantId
  requestId    := item.id
  installation := {
    tenantId          := item.tenantId
    installationId    := item.request.installationId
    stripeAccountId   := item.installation.stripeAccountId
    environment       := item.request.environment
    active            := item.tenant.status = .active ∧ item.installation.status = .active
    tenantLiveEnabled := item.tenant.liveEnabled
  }

def executionCannotBeRecovered (row : RefundRequest) (execution : Option RefundExecution)
    (expectedIdempotencyKey : String) : Bool :=
  row.workflowStatus = .executing ∧ row.effectState = .absenceProven ∧ execution = none ∨
    execution.any fun execution =>
      execution.stripeRefundId ≠ none ∨ execution.idempotencyKey ≠ expectedIdempotencyKey

-- What the listing makes of an item that was prepared. One that cannot be recovered goes to
-- reconciliation, in a transaction of its own, or it stays where it is.
def listPrepared (tenantId : String) (item : ExecutionWorkItem) :
    Transactions StoreError TenantStores (List ApprovedRefundExecution) :=
  match refundIdempotencyKey item.id with
  | .error e                   => fail (.domain e)
  | .ok expectedIdempotencyKey =>
    if executionCannotBeRecovered item.request item.execution expectedIdempotencyKey then
      if item.request.workflowStatus = .executing then
        (TenantStores.withTenantTransaction tenantId
          (requireExecutionReconciliation now item.id)).andThen fun _ => done []
      else
        done []
    else
      done [approvedRefundExecution item]

def listWork (tenantId : String) :
    List ExecutionWorkItem → Transactions StoreError TenantStores (List ApprovedRefundExecution)
  | []           => done []
  | item :: work =>
    (listPrepared now tenantId item).andThen fun found =>
      (listWork tenantId work).andThen fun rest => done (found ++ rest)

-- The tenants share the limit, and each has a limit of its own.
def listTenants : Nat → List String →
    Transactions StoreError TenantStores (List ApprovedRefundExecution)
  | _, []                            => done []
  | remaining, tenantId :: tenantIds =>
    if remaining = 0 then
      done []
    else
      (TenantStores.withTenantTransaction tenantId
        (prepareExecutionRecoveryWork now (min remaining 100))).andThen fun work =>
          (listWork now tenantId (work.getD [])).andThen fun found =>
            (listTenants (remaining - found.length) tenantIds).andThen fun rest =>
              done (found ++ rest)

def listApprovedRefundExecutions (limit : Nat) :
    Transactions StoreError TenantStores (List ApprovedRefundExecution) := fun tenants =>
  if 1 ≤ limit ∧ limit ≤ 1000 then
    listTenants now limit tenants.activeTenantIds tenants
  else
    (.error (.rangeError "Approved recovery limit must be between 1 and 1000"), tenants)

structure ProcessWebhookJob where
  tenantId          : String
  installationId    : String
  receiptId         : String
  stripeEventId     : String
  stripeAccountId   : String
  normalizedPayload : NormalizedAccountWebhookPayload
  deriving DecidableEq, Repr

-- The condition of `refunddesk_list_recoverable_webhook_receipts_v2`. The events that are not about
-- a refund are those of `account.application.%`.
def isRecoverableReceipt (s : Store) (receipt : WebhookReceipt) : Bool :=
  (s.installations.find? receipt.installationId).any fun installation =>
    installation.stripeAccountId = receipt.stripeAccountId ∧
    installation.environment = environmentForStoredWebhookEndpoint receipt.endpoint ∧
    receipt.status ∈ [.received, .failed] ∧
    (AccountWebhook.isRefundEvent receipt.eventType = false ∨
      s.tenant.status = .active ∧ s.tenant.liveEnabled = false ∧ installation.status = .active)

def receiptKey (receivedAt : String → Timestamp) (e : String × String × WebhookReceipt) :
    Timestamp ×ₗ String :=
  toLex (receivedAt e.2.1, e.2.1)

-- The receipts that can be recovered, with their tenants, in the order in which they came in
def recoverableReceipts (tenants : TenantStores) : List (String × String × WebhookReceipt) :=
  (tenants.stores.entries.flatMap fun e =>
    (e.2.receipts.entries.filter fun receipt => isRecoverableReceipt e.2 receipt.2).map
      fun receipt => (e.1, receipt)).insertionSort fun left right =>
        receiptKey tenants.receivedAt left ≤ receiptKey tenants.receivedAt right

def processWebhookJob (e : String × String × WebhookReceipt) :
    Except StoreError ProcessWebhookJob := do
  let receipt := e.2.2
  if isEventId receipt.stripeEventId = false then
    .error (.typeError "Invalid Stripe event ID")
  else if isStripeAccountId receipt.stripeAccountId = false then
    .error (.typeError "Invalid Stripe account ID")
  else
    let normalizedPayload ← assertNormalizedAccountWebhookRowConsistency receipt.endpoint
      receipt.eventType receipt.objectId receipt.stripeCreatedAt receipt.normalizedPayload
    pure {
      tenantId        := e.1
      installationId  := receipt.installationId
      receiptId       := e.2.1
      stripeEventId   := receipt.stripeEventId
      stripeAccountId := receipt.stripeAccountId
      normalizedPayload
    }

def listRecoverableWebhookJobs (limit : Nat) (tenants : TenantStores) :
    Except StoreError (List ProcessWebhookJob) :=
  if 1 ≤ limit ∧ limit ≤ 1000 then
    ((recoverableReceipts tenants).take limit).mapM processWebhookJob
  else
    .error (.rangeError "Webhook recovery limit must be between 1 and 1000")

end WorkerStore

open WorkerStore

def recoveryBatchSize : Nat := 500

-- `handleWebhookRecoveryJob`: the jobs that it puts into the queue
def handleWebhookRecoveryJob (tenants : TenantStores) :
    Except StoreError (List ProcessWebhookJob) :=
  (listRecoverableWebhookJobs recoveryBatchSize tenants).mapError
    fun _ => .error "WEBHOOK_RECOVERY_READ_FAILED"

def isRejectedCandidate (candidate : ApprovedRefundExecution) : Bool :=
  candidate.installation.tenantId ≠ candidate.tenantId ∨ candidate.installation.active = false ∨
    candidate.installation.environment = .live ∨ candidate.installation.tenantLiveEnabled

structure ExecuteRefundJob where
  tenantId  : String
  requestId : String
  deriving DecidableEq, Repr

def executeRefundJob (candidate : ApprovedRefundExecution) : ExecuteRefundJob where
  tenantId  := candidate.tenantId
  requestId := candidate.requestId

-- `handleApprovedExecutionRecoveryJob`: the jobs that it puts into the queue
def handleApprovedExecutionRecoveryJob (now : Timestamp) :
    Transactions StoreError TenantStores (List ExecuteRefundJob) :=
  (listApprovedRefundExecutions now recoveryBatchSize).andThen fun candidates =>
    done <| (candidates.filter fun candidate => ¬isRejectedCandidate candidate).map executeRefundJob

end RefundDesk
