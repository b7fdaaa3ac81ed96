import RefundDesk.Library.Listing
import RefundDesk.Library.Script
import RefundDesk.Worker.Observation

namespace RefundDesk

open Script TenantRepository WorkerStore

structure ScannableWorkerInstallation where
  installationId    : String
  stripeAccountId   : String
  environment       : StripeEnvironment
  active            : Bool
  tenantLiveEnabled : Bool
  installedAt       : Timestamp
  deriving DecidableEq, Repr

def isPilotScannableInstallation (installation : ScannableWorkerInstallation) : Bool :=
  installation.active ∧ installation.environment ≠ .live ∧ installation.tenantLiveEnabled = false

structure NormalizedRefund where
  id              : String
  paymentIntentId : Option String
  chargeId        : Option String
  amountMinor     : Int
  currency        : String
  status          : Option StripeRefundStatus
  created         : Int
  metadata        : List (String × String)
  requestId       : Option String
  deriving DecidableEq, Repr

def observationFromStripe (refund : NormalizedRefund) : RefundObservation where
  refundId          := refund.id
  paymentIntentId   := refund.paymentIntentId
  chargeId          := refund.chargeId
  amountMinor       := refund.amountMinor
  currency          := refund.currency
  status            := refund.status
  created           := refund.created
  metadataRequestId := refund.metadata.lookup "refunddesk_request_id"
  metadataProof     := refund.metadata.lookup "refunddesk_proof"

def overlapMilliseconds : Timestamp := 60 * 60 * 1000

def maxPagesPerInstallation : Nat := 10000

def stripeTimestamp (date : Timestamp) : Int :=
  max 0 (date / 1000)

-- The seconds that a listing of refunds asks for.
structure CreatedRange where
  gte : Int
  lte : Int
  deriving DecidableEq, Repr

def createdRange (window : ScanWindow) : CreatedRange where
  gte := stripeTimestamp window.start
  lte := stripeTimestamp window.stop

structure RefundPage where
  refunds : List NormalizedRefund
  hasMore : Bool

-- What a scan asks of its store, of Stripe and of its clock.
inductive ScanCall
  | loadReconciliationCheckpoint
  | listRefunds (created : CreatedRange) (startingAfter : Option String)
  | now
  | observeRefund (input : ObserveRefundInput)
  | commitReconciliationCheckpoint (input : CommitCheckpointInput)

def ScanCall.Reply : ScanCall → Type
  | loadReconciliationCheckpoint     => Option Timestamp
  | listRefunds _ _                  => RefundPage
  | now                              => Timestamp
  | observeRefund _                  => Unit
  | commitReconciliationCheckpoint _ => Unit

abbrev ScanScript := Script String ScanCall ScanCall.Reply

namespace ScanScript

def loadReconciliationCheckpoint : ScanScript (Option Timestamp) :=
  perform ScanCall.loadReconciliationCheckpoint

def listRefunds (created : CreatedRange) (startingAfter : Option String) : ScanScript RefundPage :=
  perform (ScanCall.listRefunds created startingAfter)

def now : ScanScript Timestamp :=
  perform ScanCall.now

def observeRefund (input : ObserveRefundInput) : ScanScript Unit :=
  perform (ScanCall.observeRefund input)

def commitReconciliationCheckpoint (input : CommitCheckpointInput) : ScanScript Unit :=
  perform (ScanCall.commitReconciliationCheckpoint input)

end ScanScript

namespace ReconciliationScanner

variable (installation : ScannableWorkerInstallation) (window : ScanWindow)

def observePage : List NormalizedRefund → ScanScript Unit
  | []             => pure ()
  | refund :: rest => do
    let observedAt ← ScanScript.now
    ScanScript.observeRefund {
      installationId := installation.installationId
      environment    := installation.environment
      refund         := observationFromStripe refund
      source         := .scan window.stop
      observedAt
    }
    observePage rest

-- The loop over the pages. `pages` is how many more there may be.
def scanPages (pages : Nat) (startingAfter : Option String) : ScanScript Unit :=
  match pages with
  | 0         => throw "REFUND_SCAN_PAGE_LIMIT_EXCEEDED"
  | pages + 1 => do
    let page ← ScanScript.listRefunds (createdRange window) startingAfter
    observePage installation window page.refunds
    if page.hasMore then
      match page.refunds.getLast? with
      | none            => throw "REFUND_SCAN_EMPTY_PAGE_WITH_MORE"
      | some lastRefund =>
        if some lastRefund.id = startingAfter then
          throw "REFUND_SCAN_CURSOR_DID_NOT_ADVANCE"
        else
          scanPages pages (some lastRefund.id)

def scanWindow (previousWindowEnd : Option Timestamp) (windowEnd : Timestamp) : ScanWindow where
  start := previousWindowEnd.getD (min installation.installedAt windowEnd) - overlapMilliseconds
  stop  := windowEnd

def scanInstallation (windowEnd : Timestamp) : ScanScript Unit := do
  let checkpoint ← ScanScript.loadReconciliationCheckpoint
  let previousWindowEnd := checkpoint.map fun committed => min committed windowEnd
  let window := scanWindow installation previousWindowEnd windowEnd
  scanPages installation window maxPagesPerInstallation none
  let completedAt ← ScanScript.now
  ScanScript.commitReconciliationCheckpoint {
    installationId := installation.installationId
    previousWindowEnd, window, completedAt
  }

end ReconciliationScanner
end RefundDesk
