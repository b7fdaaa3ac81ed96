import RefundDesk.Domain.Policies
import RefundDesk.Worker.Operations
import RefundDesk.Worker.Scanner

namespace RefundDesk

open Script WorkerStore

-- What is read of a thrown value. A field that has another type counts as absent.
structure StripeError where
  type       : Option String
  code       : Option String
  name       : Option String
  statusCode : Option Int
  deriving DecidableEq, Repr

inductive RefundFailureKind
  | network
  | timeout
  | rateLimit
  | apiError
  | authentication
  | permission
  | invalidRequest
  | idempotency
  | notFound
  | conflict
  | unknown
  deriving DecidableEq, Repr

def RefundFailureKind.text : RefundFailureKind → String
  | network        => "network"
  | timeout        => "timeout"
  | rateLimit      => "rate_limit"
  | apiError       => "api_error"
  | authentication => "authentication"
  | permission     => "permission"
  | invalidRequest => "invalid_request"
  | idempotency    => "idempotency"
  | notFound       => "not_found"
  | conflict       => "conflict"
  | unknown        => "unknown"

inductive RefundFailureClass
  | retryable
  | terminal
  | ambiguous
  deriving DecidableEq, Repr

structure RefundFailureSignal where
  kind                  : RefundFailureKind
  httpStatus            : Option Int
  effectBoundaryCrossed : Bool

def classifyRefundFailure (signal : RefundFailureSignal) : RefundFailureClass :=
  if signal.effectBoundaryCrossed ∧
      (signal.kind ∈ [.network, .timeout, .apiError, .idempotency, .conflict, .unknown] ∨
        signal.httpStatus.any fun status => status = 409 ∨ 500 ≤ status) then
    .ambiguous
  else if signal.kind ∈
        [.authentication, .permission, .invalidRequest, .idempotency, .notFound, .conflict] ∨
      signal.httpStatus.any fun status =>
        400 ≤ status ∧ status < 500 ∧ status ≠ 409 ∧ status ≠ 429 then
    .terminal
  else
    .retryable

namespace StripeError

variable (error : StripeError)

def kindOf : RefundFailureKind :=
  if error.type = some "StripeRateLimitError" ∨ error.code = some "rate_limit" then .rateLimit
  else if error.type = some "StripeAuthenticationError" then .authentication
  else if error.type = some "StripePermissionError" then .permission
  else if error.type = some "StripeInvalidRequestError" then .invalidRequest
  else if error.type = some "StripeIdempotencyError" then .idempotency
  else if error.type = some "StripeAPIError" then .apiError
  else if error.type = some "StripeConnectionError" then .network
  else if error.name = some "AbortError" ∨
      error.code ∈ [some "ETIMEDOUT", some "UND_ERR_CONNECT_TIMEOUT"] then .timeout
  else if error.code ∈
      [some "ECONNRESET", some "ECONNREFUSED", some "EPIPE", some "ENETUNREACH"] then .network
  else if error.statusCode = some 404 then .notFound
  else if error.statusCode = some 409 then .conflict
  else .unknown

-- The prefixes of Stripe's secrets
def secretPrefixes : List String :=
  ["sk_test_", "sk_live_", "rk_test_", "rk_live_", "whsec_", "absec_"]

-- `^[A-Za-z0-9_.-]{1,64}$`, unless it may be a secret
def isSafeCode (code : String) : Bool :=
  0 < code.length && code.length ≤ 64 &&
    code.toList.all (fun c => c.isAlphanum || c ∈ ['_', '.', '-']) &&
    secretPrefixes.all fun start => !code.startsWith start

def safeCode : String :=
  match error.code.filter isSafeCode with
  | some code => code
  | none      => "STRIPE_" ++ error.kindOf.text.map Char.toUpper

end StripeError

structure NormalizedStripeFailure where
  code           : String
  classification : RefundFailureClass

def normalizeStripeFailure (error : StripeError) (effectBoundaryCrossed : Bool) :
    NormalizedStripeFailure where
  code           := error.safeCode
  classification := classifyRefundFailure {
    kind       := error.kindOf
    httpStatus := error.statusCode
    effectBoundaryCrossed
  }

structure NormalizedPayment where
  paymentKey          : String
  paymentIntentId     : Option String
  chargeId            : String
  amountCaptured      : Int
  amountRefunded      : Int
  currency            : String
  captured            : Bool
  paid                : Bool
  disputed            : Bool
  paymentMethodType   : Option String
  hasConnectSemantics : Bool
  deriving DecidableEq, Repr

structure RefundMetadata where
  refunddeskRequestId : String
  refunddeskProof     : String
  deriving DecidableEq, Repr

-- A request to Stripe to create a refund, on the account of an installation.
structure CreateRefundInput where
  stripeAccountId : String
  environment     : StripeEnvironment
  paymentIntentId : Option String
  chargeId        : Option String
  amountMinor     : Int
  reason          : RefundReason
  metadata        : RefundMetadata
  idempotencyKey  : String
  deriving DecidableEq, Repr

-- What a job asks of the database, of Stripe and of the clock. A request to create a refund is sent
-- in one step and answered in a later one: in between it can take effect at any time.
inductive ExecutionCall
  | loadRefundExecution (requestId : String)
  | retrievePayment (stripeAccountId : String) (environment : StripeEnvironment)
      (resourceType : ResourceType) (resourceId : String)
  | persistEffectBoundary (requestId idempotencyKey : String) (time : Timestamp)
  | sendRefund (input : CreateRefundInput)
  | receiveRefund (input : CreateRefundInput)
  | record (outcome : Operation)
  | now

namespace ExecutionCall

def Reply : ExecutionCall → Type
  | loadRefundExecution _       => Except StoreError (Option RefundExecutionRecord)
  | retrievePayment _ _ _ _     => Except StripeError NormalizedPayment
  | persistEffectBoundary _ _ _ => Except StoreError EffectBoundaryDecision
  | sendRefund _                => Unit
  | receiveRefund _             => Except StripeError NormalizedRefund
  | record _                    => Except StoreError Unit
  | now                         => Timestamp

end ExecutionCall

inductive ExecutionFailure
  | thrown (error : StoreError)
  | liveModeRejected
  | retryable (code : String)
  deriving DecidableEq, Repr

abbrev ExecutionScript := Script ExecutionFailure ExecutionCall ExecutionCall.Reply

namespace ExecutionScript

variable {α : Type}

def fromStore (r : Except StoreError α) : ExecutionScript α :=
  fromExcept (r.mapError .thrown)

def loadRefundExecution (requestId : String) : ExecutionScript (Option RefundExecutionRecord) :=
  perform (ExecutionCall.loadRefundExecution requestId) >>= fromStore

def retrievePayment (record : RefundExecutionRecord) :
    ExecutionScript (Except StripeError NormalizedPayment) :=
  perform (ExecutionCall.retrievePayment record.stripeAccountId record.environment
    record.resourceType record.resourceId)

def persistEffectBoundary (requestId idempotencyKey : String) (time : Timestamp) :
    ExecutionScript EffectBoundaryDecision :=
  perform (ExecutionCall.persistEffectBoundary requestId idempotencyKey time) >>= fromStore

def record (outcome : Operation) : ExecutionScript Unit :=
  perform (ExecutionCall.record outcome) >>= fromStore

def now : ExecutionScript Timestamp :=
  perform ExecutionCall.now

def sendRefund (input : CreateRefundInput) : ExecutionScript Unit :=
  perform (ExecutionCall.sendRefund input)

def receiveRefund (input : CreateRefundInput) :
    ExecutionScript (Except StripeError NormalizedRefund) :=
  perform (ExecutionCall.receiveRefund input)

end ExecutionScript

namespace DirectAccountStripeClient

def maxSafeInteger : Int :=
  9007199254740991

def typeError : StripeError where
  type       := none
  code       := none
  name       := "TypeError"
  statusCode := none

def rangeError : StripeError :=
  { typeError with name := "RangeError" }

def createRefund (input : CreateRefundInput) :
    ExecutionScript (Except StripeError NormalizedRefund) := do
  if input.paymentIntentId.isNone = input.chargeId.isNone then
    pure (.error typeError)
  else if input.amountMinor ≤ 0 ∨ maxSafeInteger < input.amountMinor then
    pure (.error rangeError)
  else
    ExecutionScript.sendRefund input
    ExecutionScript.receiveRefund input

end DirectAccountStripeClient

namespace WorkerStore.RefundExecutionRecord

variable (record : RefundExecutionRecord)

def paymentIdentityMatches (payment : NormalizedPayment) : Bool :=
  payment.paymentKey = record.paymentKey ∧ payment.chargeId = record.chargeId ∧
    (record.paymentIntentId = none ∨ payment.paymentIntentId = record.paymentIntentId)

def refundResponseMatches (refund : NormalizedRefund) : Except DomainError Bool :=
  let target :=
    match record.resourceType with
    | .paymentIntent => refund.paymentIntentId
    | .charge        => refund.chargeId
  if target = some record.resourceId ∧ refund.amountMinor = record.amountMinor then
    currenciesAgree refund.currency record.currency
  else
    .ok false

def eligibilityInput (payment : NormalizedPayment) : PaymentEligibilityInput where
  amountCaptured       := payment.amountCaptured
  amountRefunded       := payment.amountRefunded
  currency             := payment.currency
  paid                 := payment.paid
  captured             := payment.captured
  disputed             := payment.disputed
  paymentMethodType    := payment.paymentMethodType
  hasConnectSemantics  := payment.hasConnectSemantics
  requestedAmountMinor := record.amountMinor
  requestedCurrency    := record.currency

def proofPayload : RefundProofPayload where
  tenantId        := record.tenantId
  requestId       := record.requestId
  stripeAccountId := record.stripeAccountId
  paymentKey      := record.paymentKey
  amountMinor     := record.amountMinor
  currency        := record.currency
  environment     := record.environment

def createRefundInput (proof idempotencyKey : String) : CreateRefundInput where
  stripeAccountId := record.stripeAccountId
  environment     := record.environment
  paymentIntentId := if record.resourceType = .paymentIntent then record.resourceId else none
  chargeId        := if record.resourceType = .paymentIntent then none else record.resourceId
  amountMinor     := record.amountMinor
  reason          := record.reason
  metadata        := ⟨record.requestId, proof⟩
  idempotencyKey  := idempotencyKey

def assertPilotInstallation : Except ExecutionFailure Unit :=
  if record.active = false then .error (.thrown (.error "INSTALLATION_INACTIVE"))
  else if record.environment = .live ∨ record.tenantLiveEnabled then .error .liveModeRejected
  else .ok ()

end WorkerStore.RefundExecutionRecord

section Job

variable (proofs : RefundProofKeyring)

def fromDomain {α : Type} (x : Except DomainError α) : ExecutionScript α :=
  fromExcept (x.mapError fun e => .thrown (.domain e))

-- The error codes of these failures only go to the log.
def markPreflightFailure (record : RefundExecutionRecord) (ambiguous : Bool) :
    ExecutionScript Unit := do
  let time ← ExecutionScript.now
  if ambiguous ∨ record.effectState = .possible then
    ExecutionScript.record (.recordReconciliationRequired record.requestId)
  else
    ExecutionScript.record (.recordTerminalWithoutEffect record.requestId time)

-- The payment is still the one of the request, and it can still be refunded.
def revalidatePayment (record : RefundExecutionRecord) : ExecutionScript Bool := do
  match ← ExecutionScript.retrievePayment record with
  | .error error =>
    let failure := normalizeStripeFailure error
      (record.effectState = .possible ∨ record.effectState = .identified)
    if failure.classification = .retryable then
      throw (.retryable failure.code)
    else
      markPreflightFailure record (failure.classification = .ambiguous)
      pure false
  | .ok payment =>
    if record.paymentIdentityMatches payment = false then
      markPreflightFailure record (record.effectState = .possible)
      pure false
    else
      let eligibility ← fromDomain (evaluatePaymentEligibility (record.eligibilityInput payment))
      match eligibility with
      | .error _ =>
        markPreflightFailure record (record.effectState = .possible)
        pure false
      | .ok _    => pure true

def recordAttemptFailure (requestId : String) (attemptNumber : Nat) (error : StripeError) :
    ExecutionScript Unit := do
  let failure := normalizeStripeFailure error true
  let time ← ExecutionScript.now
  let input : AttemptFailureInput :=
    { errorCode := failure.code, requestId, attemptNumber, time }
  match failure.classification with
  | .ambiguous => ExecutionScript.record (.recordAmbiguousAttemptFailure input)
  | .terminal  => ExecutionScript.record (.recordTerminalAttemptWithoutEffect input)
  | .retryable =>
    ExecutionScript.record (.recordRetryableAttemptFailure input)
    throw (.retryable failure.code)

def recordRefund (record : RefundExecutionRecord) (attemptNumber : Nat) (idempotencyKey : String)
    (refund : NormalizedRefund) : ExecutionScript Unit := do
  let responseMatchesRequest ← fromDomain (record.refundResponseMatches refund)
  let time ← ExecutionScript.now
  ExecutionScript.record (.recordIdentifiedRefund {
    requestId       := record.requestId
    refundId        := refund.id
    refundStatus    := refund.status
    stripeRequestId := refund.requestId
    attemptNumber, idempotencyKey, responseMatchesRequest, time
  })

-- Calls Stripe, once the attempt is in the database.
def executeAttempt (record : RefundExecutionRecord) (attemptNumber : Nat)
    (idempotencyKey : String) : ExecutionScript Unit := do
  let proof ← fromDomain (proofs.sign record.proofPayload)
  match ← DirectAccountStripeClient.createRefund
      (record.createRefundInput proof idempotencyKey) with
  | .error error => recordAttemptFailure record.requestId attemptNumber error
  | .ok refund   => recordRefund record attemptNumber idempotencyKey refund

def executeRecord (record : RefundExecutionRecord) : ExecutionScript Unit := do
  fromExcept record.assertPilotInstallation
  let idempotencyKey ← fromDomain (refundIdempotencyKey record.requestId)
  if ← revalidatePayment record then
    let time ← ExecutionScript.now
    match ← ExecutionScript.persistEffectBoundary record.requestId idempotencyKey time with
    | .execute attemptNumber boundaryKey =>
      if boundaryKey ≠ idempotencyKey then
        throw (.thrown (.error "IDEMPOTENCY_KEY_INVARIANT_VIOLATION"))
      else
        executeAttempt proofs record attemptNumber idempotencyKey
    | _ => pure ()

-- A job names its request. One that fails is started again, and one whose worker dies goes no
-- further.
def handleRefundExecutionJob (requestId : String) : ExecutionScript Unit := do
  match ← ExecutionScript.loadRefundExecution requestId with
  | none        => pure ()
  | some record => executeRecord proofs record

end Job
end RefundDesk
