import RefundDesk.Database.Schema

namespace RefundDesk

inductive PilotErrorCode
  | accountEnvironmentMismatch
  | adminRequired
  | approvalAttestationRequired
  | approverRequired
  | commandInvalid
  | envelopeNonCanonical
  | idempotencyConflict
  | installationInactive
  | installationNotFound
  | internalError
  | liveModeDisabled
  | noDistinctApprover
  | paymentNotEligible
  | pilotBackendUnavailable
  | requestTooLarge
  | requestNotFound
  | resourceMismatch
  | routeMismatch
  | selfApproval
  | unauthorized
  | workflowConflict
  deriving DecidableEq, Repr

def PilotErrorCode.text : PilotErrorCode → String
  | accountEnvironmentMismatch  => "ACCOUNT_ENVIRONMENT_MISMATCH"
  | adminRequired               => "ADMIN_REQUIRED"
  | approvalAttestationRequired => "APPROVAL_ATTESTATION_REQUIRED"
  | approverRequired            => "APPROVER_REQUIRED"
  | commandInvalid              => "COMMAND_INVALID"
  | envelopeNonCanonical        => "ENVELOPE_NON_CANONICAL"
  | idempotencyConflict         => "IDEMPOTENCY_CONFLICT"
  | installationInactive        => "INSTALLATION_INACTIVE"
  | installationNotFound        => "INSTALLATION_NOT_FOUND"
  | internalError               => "INTERNAL_ERROR"
  | liveModeDisabled            => "LIVE_MODE_DISABLED"
  | noDistinctApprover          => "NO_DISTINCT_APPROVER"
  | paymentNotEligible          => "PAYMENT_NOT_ELIGIBLE"
  | pilotBackendUnavailable     => "PILOT_BACKEND_UNAVAILABLE"
  | requestTooLarge             => "REQUEST_TOO_LARGE"
  | requestNotFound             => "REQUEST_NOT_FOUND"
  | resourceMismatch            => "RESOURCE_MISMATCH"
  | routeMismatch               => "ROUTE_MISMATCH"
  | selfApproval                => "SELF_APPROVAL"
  | unauthorized                => "UNAUTHORIZED"
  | workflowConflict            => "WORKFLOW_CONFLICT"

structure PilotApiError where
  code    : PilotErrorCode
  status  : Nat
  message : String
  deriving DecidableEq, Repr

-- What a call of the platform can throw. A unique key that is taken is Prisma's `P2002`, and a lost
-- connection leaves open whether the transaction has committed.
inductive PilotFailure
  | api (error : PilotApiError)
  | uniqueConstraint
  | unexpected
  | connectionLost
  deriving DecidableEq, Repr

def PilotFailure.error (code : PilotErrorCode) (status : Nat) (message : String) : PilotFailure :=
  .api { code, status, message }

def PilotFailure.ofStore : StoreError → PilotFailure
  | .database "23505" _ => .uniqueConstraint
  | _                   => .unexpected

-- The values of a JSON body. A list of pairs stands for an object.
inductive CanonicalJsonValue
  | null
  | boolean (value : Bool)
  | number (value : Int)
  | string (value : String)
  | array (items : List CanonicalJsonValue)
  | object (members : List (String × CanonicalJsonValue))
  deriving Repr

def CanonicalJsonValue.ofOption : Option String → CanonicalJsonValue
  | none      => .null
  | some text => .string text

structure PilotStoredResponse where
  body   : List (String × CanonicalJsonValue)
  status : Nat

inductive PilotOperation
  | contextSync
  | paymentEligibility
  | refundRequestCreate
  | refundRequestList
  | refundRequestGet
  | refundRequestDecide
  | refundRequestCancel
  | externalAlertList
  | externalAlertAcknowledge
  | settingsGet
  | settingsUpdate
  | auditExport
  deriving DecidableEq, Repr

-- `mutation` of the route of the operation in `PILOT_ROUTE_SPECS`
def PilotOperation.mutation : PilotOperation → Bool
  | contextSync | refundRequestCreate | refundRequestDecide | refundRequestCancel
  | externalAlertAcknowledge | settingsUpdate | auditExport                        => true
  | paymentEligibility | refundRequestList | refundRequestGet | externalAlertList
  | settingsGet                                                                    => false

structure PilotSignedIdentity where
  accountId     : String
  environment   : StripeEnvironment
  roles         : List StripeRole
  rolesAsserted : Bool
  userId        : String
  deriving DecidableEq, Repr

structure PilotActor where
  id              : String
  approverEnabled : Bool
  stripeUserId    : String
  deriving DecidableEq, Repr

structure PilotTenantContext where
  actor              : PilotActor
  environment        : StripeEnvironment
  installationId     : String
  installationStatus : InstallationStatus
  stripeAccountId    : String
  tenantId           : String
  tenantStatus       : TenantStatus
  deriving DecidableEq, Repr

structure PilotPaymentResource where
  id   : String
  type : ResourceType
  deriving DecidableEq, Repr

structure PilotPayment where
  amountCaptured      : Int
  amountRefunded      : Int
  captured            : Bool
  chargeId            : String
  currency            : String
  disputed            : Bool
  hasConnectSemantics : Bool
  paid                : Bool
  paymentIntentId     : Option String
  paymentKey          : String
  paymentMethodType   : Option String
  deriving DecidableEq, Repr

-- `PilotRequestRecord` with the fields of its summary. Instants are given by their ISO texts.
structure PilotRequestRecord where
  amountMinor     : Int
  canCancel       : Bool
  canDecide       : Bool
  createdAt       : String
  currency        : String
  expiresAt       : String
  id              : String
  isRequester     : Bool
  justification   : Option String
  reason          : RefundReason
  requesterUserId : String
  resourceId      : String
  resourceType    : ResourceType
  status          : WorkflowStatus
  version         : Nat
  chargeId        : String
  paymentIntentId : Option String
  deriving DecidableEq, Repr

structure PilotActiveRequest where
  canCancel : Bool
  id        : String
  status    : WorkflowStatus
  deriving DecidableEq, Repr

structure PilotExternalAlert where
  acknowledged   : Bool
  amountMinor    : Int
  classification : AlertClassification
  currency       : String
  detectedAt     : String
  id             : String
  refundId       : String
  deriving DecidableEq, Repr

structure PilotObservedUser where
  stripeUserId    : String
  displayName     : Option String
  approverEnabled : Bool
  lastSeenAt      : String
  deriving DecidableEq, Repr

structure PilotSettings where
  approverUserIds     : List String
  onboardingCompleted : Bool
  observedUsers       : List PilotObservedUser
  deriving DecidableEq, Repr

structure PilotPage (α : Type) where
  items      : List α
  nextCursor : Option String

structure PilotMutationReceipt where
  actorId              : String
  canonicalRequestHash : String
  operation            : PilotOperation
  response             : PilotStoredResponse

structure PilotMutationMetadata where
  actorId               : String
  approvalAttestationId : Option String
  assertedStripeRoles   : Option (List StripeRole)
  canonicalRequestHash  : String
  operation             : PilotOperation
  requestNonce          : String
  responseRequestId     : String
  deriving DecidableEq, Repr

inductive PilotDecision
  | approve
  | reject (justification : String)
  deriving DecidableEq, Repr

inductive PilotMutation
  | contextSync
  | refundRequestCreate (amountMinor : Int) (currency justification : String)
      (payment : PilotPayment) (reason : RefundReason) (resource : PilotPaymentResource)
  | refundRequestDecide (decision : PilotDecision) (requestId : String)
      (resource : PilotPaymentResource)
  | refundRequestCancel (requestId : String) (resource : PilotPaymentResource)
  | externalAlertAcknowledge (alertId : String)
  | settingsUpdate (approverUserIds : List String) (onboardingCompleted : Bool)
  | auditExport
  deriving DecidableEq, Repr

-- The receipt answers a repetition of the same mutation only.
def PilotMutationReceipt.matches (receipt : PilotMutationReceipt)
    (metadata : PilotMutationMetadata) : Bool :=
  receipt.actorId = metadata.actorId ∧ receipt.operation = metadata.operation ∧
    receipt.canonicalRequestHash = metadata.canonicalRequestHash

def idempotencyConflict : PilotFailure :=
  .error .idempotencyConflict 409 "The request nonce was already used for a different mutation."

def assertReceiptMatches (receipt : PilotMutationReceipt) (metadata : PilotMutationMetadata) :
    Except PilotFailure Unit :=
  if receipt.matches metadata then .ok () else .error idempotencyConflict

end RefundDesk
