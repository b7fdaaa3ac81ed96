import Mathlib.Data.List.Sort
import Mathlib.Data.Prod.Lex
import Mathlib.Data.String.Basic
import RefundDesk.Database.Tenants
import RefundDesk.Platform.AccountWebhook

namespace RefundDesk

open Transaction

def microsecondsOfDays (days : Int) : Timestamp :=
  days * 24 * 60 * 60 * 1000000

namespace RequestRow

def hasUnresolvedFinancialState (row : RequestRow) : Bool :=
  row.paymentGuardReleasedAt = none ∨
    row.workflowStatus ∈ [.executing, .reconciliationRequired] ∨ row.effectState = .possible ∨
    row.effectState = .identified ∧ row.workflowStatus ≠ .succeeded

end RequestRow

def ReceiptRow.isUnprocessedRefundEvent (row : ReceiptRow) : Bool :=
  AccountWebhook.isRefundEvent row.eventType ∧ row.status ≠ .processed

namespace InstallationRow

def isDeauthorized (row : InstallationRow) : Bool :=
  row.status = .deauthorized ∧ row.deauthorizedAt ≠ none

end InstallationRow

namespace TenantDatabase

variable (db : TenantDatabase) (tenantId : String)

def installationsOf : List InstallationRow :=
  db.stripeInstallations.filter (·.tenantId = tenantId)

-- `MAX(installation."deauthorized_at")`
def uninstalledAt : Option Timestamp :=
  ((db.installationsOf tenantId).filterMap (·.deauthorizedAt)).max?

def hasFinancialState : Bool :=
  db.refundRequests.any fun row => row.tenantId = tenantId ∧ row.hasUnresolvedFinancialState

def hasStartedAttempt : Bool :=
  db.refundExecutionAttempts.any fun row => row.tenantId = tenantId ∧ row.state = .started

def hasOpenCandidate : Bool :=
  db.refundCorrelationCandidates.any fun row =>
    row.tenantId = tenantId ∧ row.state ∈ [.pending, .conflict]

def hasUnprocessedRefundEvent : Bool :=
  db.webhookReceipts.any fun row => row.tenantId = tenantId ∧ row.isUnprocessedRefundEvent

def hasPageInProgress : Bool :=
  db.reconciliationCheckpoints.any fun row => row.tenantId = tenantId ∧ row.pageInProgress

end TenantDatabase

namespace Retention

structure DuePurge where
  tenantId       : String
  blockerReason  : Option String
  overdueSeconds : Int
  deriving DecidableEq, Repr

def blockerReason (db : TenantDatabase) (tenant : TenantRow) : Option String :=
  if tenant.legalHoldAt ≠ none then
    some "legal_hold"
  else if db.installationsOf tenant.id = [] then
    some "installation_missing"
  else if (db.installationsOf tenant.id).any fun row =>
      row.environment ∉ [.test, .sandbox] ∨ row.isDeauthorized = false then
    some "installation_state"
  else if (db.uninstalledAt tenant.id).any fun uninstalledAt =>
      tenant.pendingDeleteAt.any (uninstalledAt + microsecondsOfDays 30 < ·) then
    some "deadline_invalid"
  else if db.hasFinancialState tenant.id then
    some "financial_state"
  else if db.hasStartedAttempt tenant.id then
    some "execution_attempt"
  else if db.hasOpenCandidate tenant.id then
    some "correlation_state"
  else if db.hasUnprocessedRefundEvent tenant.id then
    some "webhook_state"
  else if db.hasPageInProgress tenant.id then
    some "checkpoint_state"
  else
    none

def isDue (now : Timestamp) (tenant : TenantRow) : Bool :=
  tenant.status = .pendingDeletion ∧ tenant.pendingDeleteAt.any (· ≤ now)

def overdueSeconds (now : Timestamp) (tenant : TenantRow) : Int :=
  (now - tenant.pendingDeleteAt.getD now) / 1000000

-- The tenants that nothing blocks come first, and of them the one that has been due the longest.
def listingKey (db : TenantDatabase) (tenant : TenantRow) : Bool ×ₗ Timestamp ×ₗ String :=
  toLex ((blockerReason db tenant).isSome,
    toLex (tenant.pendingDeleteAt.getD 0, tenant.id))

def dueTenants (now : Timestamp) (db : TenantDatabase) : List TenantRow :=
  (db.tenants.filter (isDue now)).insertionSort fun left right =>
    listingKey db left ≤ listingKey db right

def duePurge (now : Timestamp) (db : TenantDatabase) (tenant : TenantRow) : DuePurge where
  tenantId       := tenant.id
  blockerReason  := blockerReason db tenant
  overdueSeconds := overdueSeconds now tenant

-- `refunddesk_list_due_tenant_purges`
def listDueTenantPurges (now : Timestamp) (requestedLimit : Int) :
    Transaction StoreError TenantDatabase (List DuePurge) := do
  require (1 ≤ requestedLimit ∧ requestedLimit ≤ 100)
    (.database "22023" "invalid tenant purge candidate limit")
  let db ← get
  pure (((dueTenants now db).take requestedLimit.toNat).map (duePurge now db))

end Retention
end RefundDesk
