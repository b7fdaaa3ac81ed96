import RefundDesk.Domain.ApprovalAttestation
import RefundDesk.Repositories.Tenant

namespace RefundDesk

open Transaction TenantRepository

namespace AccountWebhook

def tenantPurgeDelayMilliseconds : Timestamp := 29 * 24 * 60 * 60 * 1000

structure ResolvedWebhookInstallation where
  installationId : String
  applied        : Bool
  deriving DecidableEq, Repr

structure ResolveInput where
  stripeAccountId      : String
  environment          : StripeEnvironment
  eventType            : AccountWebhookEventType
  stripeEventId        : String
  stripeEventCreatedAt : Timestamp

def installationOf (s : Store) (accountId : String) (environment : StripeEnvironment) :
    Option (String × StripeInstallation) :=
  s.installations.entries.find? fun e =>
    e.2.stripeAccountId = accountId ∧ e.2.environment = environment

-- An authorization is applied while the event is resolved.
def resolve (input : ResolveInput) : StoreTransaction (Option ResolvedWebhookInstallation) := do
  let s ← get
  let found := installationOf s input.stripeAccountId input.environment
  match input.eventType with
  | .accountApplicationAuthorized =>
    require (input.environment ≠ .live)
      (.database "42501" "live installation provisioning is disabled for the pilot")
    require (isStripeAccountId input.stripeAccountId ∧ isEventId input.stripeEventId)
      (.database "22023" "invalid Stripe identifier")
    match found with
    | none =>
      throw (.database "55000" "webhook authorization requires existing installation context")
    | some (installationId, _) =>
      let applied ←
        provisionWebhookInstallation installationId input.stripeEventId input.stripeEventCreatedAt
      pure (some { installationId, applied })
  | .accountApplicationDeauthorized =>
    pure <| (found.filter fun _ => input.environment ≠ .live).map fun e =>
      { installationId := e.1, applied := false }
  | _ =>
    pure <| (found.filter fun _ => s.tenant.status = .active).map fun e =>
      { installationId := e.1, applied := false }

structure InsertInput where
  installationId  : String
  endpoint        : StoredWebhookEndpoint
  stripeEventId   : String
  stripeAccountId : String
  payload         : NormalizedAccountWebhookPayload
  objectId        : String

def InsertInput.receipt (input : InsertInput) : WebhookReceipt where
  installationId     := input.installationId
  endpoint           := input.endpoint
  stripeEventId      := input.stripeEventId
  stripeAccountId    := input.stripeAccountId
  eventType          := input.payload.eventType
  objectId           := input.objectId
  normalizedPayload  := input.payload
  stripeCreatedAt    := stripeSecond input.payload.eventCreated
  status             := .received
  processingAttempts := 0
  processedAt        := none
  lastErrorCode      := none

def isRefundEvent : AccountWebhookEventType → Bool
  | .refundCreated | .refundUpdated | .refundFailed                       => true
  | .accountApplicationAuthorized | .accountApplicationDeauthorized       => false

-- A deauthorization is applied while the receipt of the event is inserted.
def insert (now : Timestamp) (receiptId : String) (input : InsertInput) :
    StoreTransaction Bool := do
  let s ← get
  require ((s.installations.find? input.installationId).any fun installation =>
      installation.stripeAccountId = input.stripeAccountId ∧
        installation.environment = input.payload.environment ∧ s.tenant.liveEnabled = false ∧
        (isRefundEvent input.payload.eventType →
          installation.status = .active ∧ s.tenant.status = .active))
    (.error "WEBHOOK_INSTALLATION_MISMATCH")
  let stripeEventCreatedAt := stripeSecond input.payload.eventCreated
  if input.payload.eventType = .accountApplicationDeauthorized then
    let _ ← applyWebhookDeauthorization now {
      installationId := input.installationId
      stripeEventId  := input.stripeEventId
      stripeEventCreatedAt
      purgeAt        := stripeEventCreatedAt + tenantPurgeDelayMilliseconds
    }
  insertWebhookReceipt receiptId input.receipt

end AccountWebhook
end RefundDesk
