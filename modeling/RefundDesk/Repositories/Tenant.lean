import RefundDesk.Repositories.Identification

namespace RefundDesk

open Transaction

namespace Store

-- An alert of the payment scope that nobody has reconciled.
def hasUnresolvedAlert (s : Store) (installationId : String) (environment : StripeEnvironment)
    (paymentKey : String) : Bool :=
  s.alerts.entries.any fun e =>
    (ofLex e.1).1 = installationId ∧ e.2.environment = environment ∧
      e.2.paymentKey = paymentKey ∧ e.2.reconciledAt = none

def hasPaymentProtection (s : Store) (row : RefundRequest) : Bool :=
  s.hasUnresolvedAlert row.installationId row.environment row.paymentKey

def refundLinkedElsewhere (s : Store) (requestId refundId : String) : Bool :=
  s.requests.entries.any fun e =>
    e.1 ≠ requestId ∧ e.2.execution.any fun execution => execution.stripeRefundId = some refundId

def triggerEnv (s : Store) (now : Timestamp) (requestId : String) (row : RefundRequest) :
    TriggerEnv where
  requestId             := requestId
  now                   := now
  paymentProtected      := s.hasPaymentProtection row
  refundLinkedElsewhere := s.refundLinkedElsewhere requestId
  approverEnabled       := fun userId => (s.users.find? userId).any (·.approverEnabled)

def putRequest (s : Store) (requestId : String) (detail : RefundRequestDetail) : Store :=
  { s with requests := s.requests.insert requestId detail }

end Store

-- The methods of `TenantRepositories` that read and write more than the rows of one request.
-- `now` is the clock of the database.
namespace TenantRepository

open RequestRepository

variable {α : Type} (now : Timestamp)

-- Runs a method of one request in the store, if the tenant has the request.
def onRequest (requestId : String) (m : TriggerEnv → RequestTransaction α) :
    StoreTransaction (Option α) :=
  onPart (fun s => s.requests.find? requestId) (fun s detail => s.putRequest requestId detail)
    fun s => do m (s.triggerEnv now requestId (← get).request)

-- `updateMany` on the requests of a scope: the number of rows that it changed.
def updateMany (scope : RefundRequest → Bool) (m : TriggerEnv → RequestTransaction Bool) :
    StoreTransaction Nat := do
  let s ← get
  let run (requestId : String) (detail : RefundRequestDetail) :=
    (m (s.triggerEnv now requestId detail.request)).run detail
  let requests ← fromExcept <| s.requests.traverse fun requestId detail =>
    if scope detail.request then (run requestId detail).map (·.2) else .ok detail
  set { s with requests }
  pure <| s.requests.count fun requestId detail =>
    scope detail.request &&
      match run requestId detail with
      | .ok (changed, _) => changed
      | .error _         => false

def getRefundRequestDetail (requestId : String) : StoreTransaction (Option RefundRequestDetail) := do
  return (← get).requests.find? requestId

structure CreateRefundRequestInput where
  installationId    : String
  environment       : StripeEnvironment
  paymentKey        : String
  paymentIntentId   : Option String
  chargeId          : Option String
  amountMinor       : Int
  currency          : String
  reason            : RefundReason
  requesterUserId   : String
  policyVersion     : Nat
  requiredApprovals : Nat
  expiresAt         : Timestamp

-- The columns that the caller does not give have their defaults.
def CreateRefundRequestInput.row (input : CreateRefundRequestInput) : RefundRequest where
  installationId            := input.installationId
  environment               := input.environment
  paymentKey                := input.paymentKey
  paymentIntentId           := input.paymentIntentId
  chargeId                  := input.chargeId
  amountMinor               := input.amountMinor
  currency                  := input.currency
  reason                    := input.reason
  requesterUserId           := input.requesterUserId
  policyVersion             := input.policyVersion
  requiredApprovals         := input.requiredApprovals
  workflowStatus            := .pendingApproval
  effectState               := .notStarted
  version                   := 0
  paymentGuardReleasedAt    := none
  createdAt                 := now
  expiresAt                 := input.expiresAt
  approvedAt                := none
  executionStartedAt        := none
  reconciliationSafeAfterAt := none
  terminalAt                := none

-- The checks and keys of an INSERT into `refund_requests`.
def checkCreatedRequest (s : Store) (requestId : String) (row : RefundRequest) :
    Except StoreError RefundRequest :=
  if isUuidText requestId.toList = false then
    raise "22P02" "invalid input syntax for type uuid"
  else if (s.requests.find? requestId).isSome then
    raise "23505" "refund_requests_pkey"
  else if row.paymentIntentId = none ∧ row.chargeId = none then
    raise "23514" "refund_requests_payment_reference_check"
  else if row.paymentIntentId.any fun id => isPaymentIntentId id = false then
    raise "23514" "refund_requests_payment_intent_check"
  else if row.chargeId.any fun id => isChargeId id = false then
    raise "23514" "refund_requests_charge_check"
  else if row.amountMinor ≤ 0 then
    raise "23514" "refund_requests_amount_check"
  else if isCurrency row.currency = false then
    raise "23514" "refund_requests_currency_check"
  else if row.requiredApprovals ≠ 1 then
    raise "23514" "refund_requests_pilot_quorum_check"
  else if row.policyVersion = 0 then
    raise "23514" "refund_requests_policy_version_check"
  else if row.expiresAt ≤ row.createdAt then
    raise "23514" "refund_requests_expiry_check"
  else if (s.installations.find? row.installationId).map (·.environment) ≠
      some row.environment then
    raise "23503" "refund_requests_installation_id_tenant_id_environment_fkey"
  else if (s.users.find? row.requesterUserId).isNone then
    raise "23503" "refund_requests_requester_user_id_tenant_id_fkey"
  else if s.requests.entries.any fun e =>
      e.2.request.environment = row.environment ∧ e.2.request.paymentKey = row.paymentKey ∧
        e.2.request.paymentGuardReleasedAt = none then
    raise "23505" "refund_requests_active_payment_guard_key"
  else
    .ok row

def createRefundRequest (requestId : String) (input : CreateRefundRequestInput) :
    StoreTransaction Unit := do
  let s ← get
  let row ← fromExcept
    ((input.row now).guardExternalPaymentProtection (s.triggerEnv now requestId (input.row now)))
  -- `refunddesk_validate_request_approver_available`
  require (s.users.entries.any fun e => e.2.approverEnabled ∧ e.1 ≠ row.requesterUserId)
    (.database "23514" "a distinct enabled approver is required")
  let row ← fromExcept (checkCreatedRequest s requestId row)
  set (s.putRequest requestId {
    request := row, decisions := [], execution := none, candidates := .empty, images := []
  })

def persistApprovalAttestation (attestationId : String) (row : ApprovalAttestation) :
    StoreTransaction Unit := do
  let s ← get
  require ((s.attestations.find? attestationId).isNone)
    (.database "23505" "approval_attestations_pkey")
  require (∀ e ∈ s.attestations.entries, e.2.requestNonce ≠ row.requestNonce)
    (.database "23505" "approval_attestations_tenant_nonce_key")
  set { s with attestations := s.attestations.insert attestationId row }

def recordDecision (requestId : String) (decision : ApprovalDecision) (time : Timestamp) :
    StoreTransaction (Option DecisionResult) := do
  let s ← get
  let attestation := decision.approvalAttestationId.bind s.attestations.find?
  onRequest now requestId fun env => do
    let installation := s.installations.find? (← get).request.installationId
    RequestRepository.recordDecision env attestation (installation.map (·.stripeAccountId))
      decision time

-- The requests that expire, the earliest first. Rows that another transaction has locked are
-- skipped.
def expirableRequests (s : Store) (skipLocked : String → Bool) (time : Timestamp) (limit : Nat) :
    List String :=
  let due := s.requests.entries.filter fun e =>
    e.2.request.workflowStatus = .pendingApproval ∧ e.2.request.effectState = .notStarted ∧
      e.2.request.expiresAt ≤ time ∧ ¬skipLocked e.1
  ((due.insertionSort fun left right =>
    left.2.request.expiresAt ≤ right.2.request.expiresAt).take limit).map (·.1)

def expirePendingRequests (skipLocked : String → Bool) (time : Timestamp) (limit : Nat) :
    StoreTransaction Unit := do
  require (1 ≤ limit ∧ limit ≤ 1000)
    (.rangeError "Expiry batch limit must be between 1 and 1000")
  let s ← get
  (expirableRequests s skipLocked time limit).forM fun requestId => do
    let _ ← onRequest now requestId fun env => expirePendingRequest env time

-- The number of requests that `updateMany` is expected to change.
def countRequests (s : Store) (condition : RefundRequest → Bool) : Nat :=
  s.requests.count fun _ detail => condition detail.request

def isUnstarted (row : RefundRequest) : Bool :=
  row.workflowStatus ∈ [.pendingApproval, .approved] ∧ row.effectState = .notStarted ∧
    row.paymentGuardReleasedAt = none

def isExecutingWithoutEffect (row : RefundRequest) : Bool :=
  row.workflowStatus = .executing ∧ row.effectState ∈ [.notStarted, .absenceProven] ∧
    row.paymentGuardReleasedAt = none

def isExecutingWithEffect (row : RefundRequest) : Bool :=
  row.workflowStatus = .executing ∧ row.effectState ∈ [.possible, .identified] ∧
    row.paymentGuardReleasedAt = none

-- The protective updates on the requests of a scope, compared with the rows that were locked.
def protectRequests (scope : RefundRequest → Bool) (time : Timestamp) (conflict : StoreError) :
    StoreTransaction (Nat × Nat × Nat) := do
  let s ← get
  let stale ← updateMany now scope fun env => markStale env time
  let terminal ← updateMany now scope fun env => markFailedWithoutEffect env time
  let reconciliation ← updateMany now scope markEffectForReconciliation
  require (stale = countRequests s (fun row => scope row && isUnstarted row) ∧
    terminal = countRequests s (fun row => scope row && isExecutingWithoutEffect row) ∧
    reconciliation = countRequests s (fun row => scope row && isExecutingWithEffect row)) conflict
  pure (stale, terminal, reconciliation)

def settleRequestsForDeauthorization (occurredAt : Timestamp) : StoreTransaction Unit := do
  let _ ← protectRequests now (fun _ => true) occurredAt
    (.error "DEAUTHORIZATION_REQUEST_COMPARE_AND_SET_FAILED")

def deauthorizeInstallation (installationId : String) (deauthorizedAt purgeAt : Timestamp) :
    StoreTransaction Bool := do
  require (deauthorizedAt < purgeAt)
    (.rangeError "Tenant purge must be scheduled after deauthorization")
  let s ← get
  match s.installations.find? installationId with
  | none => pure false
  | some installation =>
    set { s with
      installations := s.installations.insert installationId { installation with
        status         := .deauthorized
        deauthorizedAt := some deauthorizedAt
      }
    }
    settleRequestsForDeauthorization now deauthorizedAt
    modify fun s => { s with
      tenant := { s.tenant with status := .pendingDeletion, pendingDeleteAt := some purgeAt }
    }
    pure true

structure WebhookDeauthorizationInput where
  installationId       : String
  stripeEventId        : String
  stripeEventCreatedAt : Timestamp
  purgeAt              : Timestamp

def shouldApplyDeauthorization (installation : StripeInstallation)
    (input : WebhookDeauthorizationInput) : Bool :=
  match installation.lastLifecycleEventCreatedAt with
  | none                => true
  | some priorCreatedAt =>
    priorCreatedAt < input.stripeEventCreatedAt ∨
      priorCreatedAt = input.stripeEventCreatedAt ∧
        (installation.lastLifecycleEventId = some input.stripeEventId ∨
          installation.lastLifecycleEventType = some .accountApplicationAuthorized)

def applyWebhookDeauthorization (input : WebhookDeauthorizationInput) : StoreTransaction Bool := do
  require (input.stripeEventCreatedAt < input.purgeAt)
    (.rangeError "Tenant purge must be scheduled after deauthorization")
  let s ← get
  match s.installations.find? input.installationId with
  | none => pure false
  | some installation =>
    if installation.environment = .live then pure false
    else if shouldApplyDeauthorization installation input = false then pure false
    else
      set { s with
        installations := s.installations.insert input.installationId { installation with
          status                      := .deauthorized
          deauthorizedAt              := some input.stripeEventCreatedAt
          lastLifecycleEventId        := some input.stripeEventId
          lastLifecycleEventType      := some .accountApplicationDeauthorized
          lastLifecycleEventCreatedAt := some input.stripeEventCreatedAt
        }
      }
      settleRequestsForDeauthorization now input.stripeEventCreatedAt
      modify fun s => { s with
        tenant := { s.tenant with
          status          := .pendingDeletion
          pendingDeleteAt := some input.purgeAt
        }
      }
      pure true

-- `refunddesk_provision_webhook_installation` for an installation of the tenant: the account
-- authorizes the application again.
def provisionWebhookInstallation (installationId eventId : String) (eventCreatedAt : Timestamp) :
    StoreTransaction Bool := do
  let s ← get
  match s.installations.find? installationId with
  | none =>
    throw (.database "55000" "webhook authorization requires existing installation context")
  | some installation =>
    let shouldApply : Bool :=
      match installation.lastLifecycleEventCreatedAt with
      | none                => true
      | some priorCreatedAt =>
        priorCreatedAt < eventCreatedAt ∨
          eventCreatedAt = priorCreatedAt ∧ installation.lastLifecycleEventId = some eventId
    if shouldApply then
      set { s with
        tenant        := { s.tenant with status := .active, pendingDeleteAt := none }
        installations := s.installations.insert installationId { installation with
          status                      := .active
          deauthorizedAt              := none
          lastLifecycleEventId        := some eventId
          lastLifecycleEventType      := some .accountApplicationAuthorized
          lastLifecycleEventCreatedAt := some eventCreatedAt
        }
      }
    pure shouldApply

structure ExternalRefundObservationInput where
  installationId        : String
  stripeRefundId        : String
  stripeRefundCreatedAt : Timestamp
  paymentKey            : String
  amountMinor           : Int
  currency              : String
  classification        : AlertClassification
  observedAt            : Timestamp

namespace ExternalRefundObservationInput

def alertKey (input : ExternalRefundObservationInput) : String ×ₗ String :=
  toLex (input.installationId, input.stripeRefundId)

def scope (input : ExternalRefundObservationInput) (environment : StripeEnvironment)
    (row : RefundRequest) : Bool :=
  row.installationId = input.installationId ∧ row.environment = environment ∧
    row.paymentKey = input.paymentKey

-- The request was executing when the refund was created, and has ended since.
def overlaps (input : ExternalRefundObservationInput) (environment : StripeEnvironment)
    (row : RefundRequest) : Bool :=
  input.scope environment row ∧ row.workflowStatus ∈ [.succeeded, .failedTerminal] ∧
    (row.executionStartedAt.any fun startedAt => startedAt ≤ input.stripeRefundCreatedAt) ∧
    row.terminalAt.any fun terminalAt => input.stripeRefundCreatedAt ≤ terminalAt

-- The latest of the requests that the refund overlaps.
def overlappedRequestId (input : ExternalRefundObservationInput)
    (environment : StripeEnvironment) (s : Store) : Option String :=
  let overlapped := s.requests.entries.filter fun e => input.overlaps environment e.2.request
  ((overlapped.insertionSort fun left right =>
    right.2.request.executionStartedAt.getD 0 ≤ left.2.request.executionStartedAt.getD 0).map
      (·.1)).head?

-- The row that the INSERT would create.
def alert (input : ExternalRefundObservationInput) (environment : StripeEnvironment)
    (overlappedRequestId : Option String) : ExternalRefundAlert where
  environment           := environment
  stripeRefundCreatedAt := input.stripeRefundCreatedAt
  paymentKey            := input.paymentKey
  amountMinor           := input.amountMinor
  currency              := input.currency
  classification        := input.classification
  status                := .opened
  detectedAt            := input.observedAt
  acknowledgedAt        := none
  acknowledgedByUserId  := none
  overlappedRequestId   := overlappedRequestId
  reconciledAt          := none

-- The comparison with the stored row.
def agreesWith (input : ExternalRefundObservationInput) (environment : StripeEnvironment)
    (overlappedRequestId : Option String) (alert : ExternalRefundAlert) : Prop :=
  alert.environment = environment ∧
  alert.stripeRefundCreatedAt = input.stripeRefundCreatedAt ∧
  alert.paymentKey = input.paymentKey ∧ alert.amountMinor = input.amountMinor ∧
  alert.currency = input.currency ∧ alert.classification = input.classification ∧
  (alert.overlappedRequestId = none ∨ alert.overlappedRequestId = overlappedRequestId) ∧
  alert.reconciledAt = none

instance (input : ExternalRefundObservationInput) (environment overlappedRequestId alert) :
    Decidable (input.agreesWith environment overlappedRequestId alert) :=
  inferInstanceAs (Decidable (_ ∧ _))

end ExternalRefundObservationInput

-- The environment of a pilot installation.
def pilotEnvironment (s : Store) (installationId : String) : Except StoreError StripeEnvironment :=
  match s.installations.find? installationId with
  | none => .error (.error "EXTERNAL_REFUND_INSTALLATION_NOT_FOUND")
  | some installation =>
    if installation.environment.isPilot then .ok installation.environment
    else .error (.error "EXTERNAL_REFUND_INSTALLATION_NOT_FOUND")

-- `INSERT ... ON CONFLICT DO NOTHING`, and the row that the table then has. The checks of the table
-- come before the conflict.
def insertAlert (input : ExternalRefundObservationInput) (environment : StripeEnvironment) :
    StoreTransaction ExternalRefundAlert := do
  let s ← get
  let overlapped := input.overlappedRequestId environment s
  let created ← fromExcept ((input.alert environment overlapped).check input.stripeRefundId)
  let stored := (s.alerts.find? input.alertKey).getD created
  set { s with alerts := s.alerts.insert input.alertKey stored }
  require (input.agreesWith environment overlapped stored) (.error "EXTERNAL_REFUND_ALERT_CONFLICT")
  pure stored

inductive RequestTransition
  | none
  | stale
  | failedTerminal
  | reconciliationRequired
  deriving DecidableEq, Repr

def observeExternalRefund (input : ExternalRefundObservationInput) :
    StoreTransaction (ExternalRefundAlert × RequestTransition) := do
  require (input.stripeRefundCreatedAt ≤ input.observedAt)
    (.rangeError "External refund creation time must not exceed observation time")
  let s ← get
  let environment ← fromExcept (pilotEnvironment s input.installationId)
  fromExcept (lockPaymentScope environment input.paymentKey)
  let alert ← insertAlert input environment
  let (stale, terminal, reconciliation) ←
    protectRequests now (input.scope environment) input.observedAt
      (.error "EXTERNAL_REFUND_REQUEST_COMPARE_AND_SET_FAILED")
  pure (alert,
    if reconciliation > 0 then .reconciliationRequired
    else if terminal > 0 then .failedTerminal
    else if stale > 0 then .stale
    else .none)

def acknowledgeExternalRefundAlert (key : String ×ₗ String) (acknowledgedByUserId : String)
    (acknowledgedAt : Timestamp) : StoreTransaction Bool := do
  let s ← get
  match s.alerts.find? key with
  | none       => pure false
  | some alert =>
    if alert.status = .opened then
      set { s with
        alerts := s.alerts.insert key { alert with
          status               := .acknowledged
          acknowledgedAt       := some acknowledgedAt
          acknowledgedByUserId := some acknowledgedByUserId
        }
      }
      pure true
    else
      pure false

def setApproverEnabled (userId : String) (enabled : Bool) : StoreTransaction Bool := do
  let s ← get
  match s.users.find? userId with
  | none      => pure false
  | some user =>
    set { s with users := s.users.insert userId { user with approverEnabled := enabled } }
    pure true

-- The event was stored with the values of its own payload.
def assertNormalizedAccountWebhookRowConsistency (endpoint : StoredWebhookEndpoint)
    (eventType : AccountWebhookEventType) (objectId : String) (stripeCreatedAt : Timestamp)
    (payload : NormalizedAccountWebhookPayload) :
    Except StoreError NormalizedAccountWebhookPayload :=
  let expectedObjectId :=
    match payload.subject with
    | .refund refund             => refund.refundId
    | .application applicationId => applicationId
  if environmentForStoredWebhookEndpoint endpoint ≠ payload.environment then
    .error (.typeError "Webhook endpoint and normalized environment differ")
  else if payload.eventType ≠ eventType then
    .error (.typeError "Webhook event type and normalized payload differ")
  else if expectedObjectId ≠ objectId then
    .error (.typeError "Webhook object ID and normalized payload differ")
  else if stripeCreatedAt ≠ stripeSecond payload.eventCreated then
    .error (.typeError "Webhook creation time and normalized payload differ")
  else
    .ok payload

-- `createMany` skips an event that the account has already delivered.
def insertWebhookReceipt (receiptId : String) (data : WebhookReceipt) : StoreTransaction Bool := do
  let _ ← fromExcept (assertNormalizedAccountWebhookRowConsistency data.endpoint data.eventType
    data.objectId data.stripeCreatedAt data.normalizedPayload)
  let s ← get
  if s.receipts.entries.any fun e => e.1 = receiptId ∨
      e.2.stripeAccountId = data.stripeAccountId ∧ e.2.stripeEventId = data.stripeEventId then
    pure false
  else
    require (isEventId data.stripeEventId) (.database "23514" "webhook_receipts_event_id_check")
    set { s with
      receipts := s.receipts.insert receiptId { data with
        status := .received, processingAttempts := 0, processedAt := none, lastErrorCode := none
      }
    }
    pure true

def markWebhookReceiptFailed (receiptId errorCode : String) : StoreTransaction Bool := do
  let s ← get
  match s.receipts.find? receiptId with
  | none         => pure false
  | some receipt =>
    if receipt.status = .processed then
      pure false
    else
      set { s with
        receipts := s.receipts.insert receiptId { receipt with
          status             := .failed
          processingAttempts := receipt.processingAttempts + 1
          processedAt        := none
          lastErrorCode      := some (String.ofList (errorCode.toList.take 64))
        }
      }
      pure true

def markWebhookReceiptProcessed (receiptId : String) (processedAt : Timestamp) :
    StoreTransaction Bool := do
  let s ← get
  match s.receipts.find? receiptId with
  | none         => pure false
  | some receipt =>
    if receipt.status = .processed then
      pure false
    else
      set { s with
        receipts := s.receipts.insert receiptId { receipt with
          status        := .processed
          processedAt   := some processedAt
          lastErrorCode := none
        }
      }
      pure true

end TenantRepository
end RefundDesk
