import RefundDesk.Library.Script
import RefundDesk.Platform.PrismaRepository

namespace RefundDesk

open Script

inductive PilotListScope
  | myRequests
  | awaitingMyApproval
  | allActivity
  deriving DecidableEq, Repr

structure ApprovalSnapshot where
  amountMinor     : Int
  currency        : String
  reason          : RefundReason
  requesterUserId : String
  deriving DecidableEq, Repr

inductive DecisionCommand
  | approve (expectedRequestVersion : Nat) (approvalSnapshot : ApprovalSnapshot)
  | reject (justification : String)
  deriving DecidableEq, Repr

-- The command of an operation, as its schema has parsed it.
inductive PilotCommand
  | contextSync (displayName : Option String)
  | paymentEligibility
  | refundRequestCreate (amountMinor : Int) (currency : String) (reason : RefundReason)
      (justification : String)
  | refundRequestList (scope : PilotListScope) (limit : Nat) (cursor : Option String)
  | refundRequestGet (requestId : String)
  | refundRequestDecide (requestId : String) (decision : DecisionCommand)
  | refundRequestCancel (requestId : String)
  | externalAlertList (limit : Nat) (cursor : Option String)
  | externalAlertAcknowledge (alertId : String)
  | settingsGet
  | settingsUpdate (approverUserIds : List String) (onboardingCompleted : Bool)
  | auditExport
  deriving DecidableEq, Repr

def PilotCommand.operation : PilotCommand → PilotOperation
  | contextSync _               => .contextSync
  | paymentEligibility          => .paymentEligibility
  | refundRequestCreate _ _ _ _ => .refundRequestCreate
  | refundRequestList _ _ _     => .refundRequestList
  | refundRequestGet _          => .refundRequestGet
  | refundRequestDecide _ _     => .refundRequestDecide
  | refundRequestCancel _       => .refundRequestCancel
  | externalAlertList _ _       => .externalAlertList
  | externalAlertAcknowledge _  => .externalAlertAcknowledge
  | settingsGet                 => .settingsGet
  | settingsUpdate _ _          => .settingsUpdate
  | auditExport                 => .auditExport

structure PilotDispatchRequest where
  approvalAttestationId : Option String
  canonicalRequestHash  : String
  command               : PilotCommand
  identity              : PilotSignedIdentity
  requestNonce          : String
  responseRequestId     : String
  resource              : Option PilotPaymentResource
  deriving DecidableEq, Repr

namespace PilotDispatchRequest

def operation (input : PilotDispatchRequest) : PilotOperation :=
  input.command.operation

def metadata (input : PilotDispatchRequest) : PilotMutationMetadata where
  actorId               := input.identity.userId
  approvalAttestationId := input.approvalAttestationId
  assertedStripeRoles   := if input.identity.rolesAsserted then some input.identity.roles else none
  canonicalRequestHash  := input.canonicalRequestHash
  operation             := input.operation
  requestNonce          := input.requestNonce
  responseRequestId     := input.responseRequestId

end PilotDispatchRequest

-- What a dispatch asks of the database and of Stripe. Each call of the database is a transaction.
inductive PilotCall
  | resolveInstallation (accountId : String) (environment : StripeEnvironment)
  | provisionInstallation (accountId : String) (environment : StripeEnvironment)
  | observeContext (identity : PilotSignedIdentity) (displayName : Option String)
      (installationId : String)
  | findMutationReceipt (requestNonce : String)
  | mutate (context : PilotTenantContext) (metadata : PilotMutationMetadata)
      (mutation : PilotMutation)
  | storeReceipt (context : PilotTenantContext) (metadata : PilotMutationMetadata)
      (response : PilotStoredResponse)
  | retrievePayment (context : PilotTenantContext) (resource : PilotPaymentResource)
  | findActiveRequest (context : PilotTenantContext) (paymentKey : String)
  | getRefundRequest (context : PilotTenantContext) (requestId : String)
  | listRefundRequests (context : PilotTenantContext) (scope : PilotListScope) (limit : Nat)
      (cursor : Option String)
  | listExternalAlerts (context : PilotTenantContext) (limit : Nat) (cursor : Option String)
  | getSettings (context : PilotTenantContext)

namespace PilotCall

def Value : PilotCall → Type
  | resolveInstallation _ _    => Option String
  | provisionInstallation _ _  => Option String
  | observeContext _ _ _       => Option PilotTenantContext
  | findMutationReceipt _      => Option PilotMutationReceipt
  | mutate _ _ _               => PilotStoredResponse
  | storeReceipt _ _ _         => PilotStoredResponse
  | retrievePayment _ _        => PilotPayment
  | findActiveRequest _ _      => Option PilotActiveRequest
  | getRefundRequest _ _       => Option PilotRequestRecord
  | listRefundRequests _ _ _ _ => PilotPage PilotRequestRecord
  | listExternalAlerts _ _ _   => PilotPage PilotExternalAlert
  | getSettings _              => PilotSettings

def Reply (call : PilotCall) : Type :=
  Except PilotFailure call.Value

end PilotCall

abbrev PilotScript := Script PilotFailure PilotCall PilotCall.Reply

namespace PilotScript

-- A call that throws what it is answered with when that is a failure.
def await (call : PilotCall) : PilotScript call.Value :=
  perform call >>= fun
    | .ok value      => pure value
    | .error failure => throw failure

def resolveInstallation (accountId : String) (environment : StripeEnvironment) :
    PilotScript (Option String) :=
  await (.resolveInstallation accountId environment)

def provisionInstallation (accountId : String) (environment : StripeEnvironment) :
    PilotScript (Option String) :=
  await (.provisionInstallation accountId environment)

def observeContext (identity : PilotSignedIdentity) (displayName : Option String)
    (installationId : String) : PilotScript (Option PilotTenantContext) :=
  await (.observeContext identity displayName installationId)

def findMutationReceipt (requestNonce : String) : PilotScript (Option PilotMutationReceipt) :=
  await (.findMutationReceipt requestNonce)

def mutate (context : PilotTenantContext) (metadata : PilotMutationMetadata)
    (mutation : PilotMutation) : PilotScript PilotStoredResponse :=
  await (.mutate context metadata mutation)

def storeReceipt (context : PilotTenantContext) (metadata : PilotMutationMetadata)
    (response : PilotStoredResponse) : PilotScript PilotStoredResponse :=
  await (.storeReceipt context metadata response)

def retrievePayment (context : PilotTenantContext) (resource : PilotPaymentResource) :
    PilotScript PilotPayment :=
  await (.retrievePayment context resource)

def findActiveRequest (context : PilotTenantContext) (paymentKey : String) :
    PilotScript (Option PilotActiveRequest) :=
  await (.findActiveRequest context paymentKey)

def getRefundRequest (context : PilotTenantContext) (requestId : String) :
    PilotScript (Option PilotRequestRecord) :=
  await (.getRefundRequest context requestId)

def listRefundRequests (context : PilotTenantContext) (scope : PilotListScope) (limit : Nat)
    (cursor : Option String) : PilotScript (PilotPage PilotRequestRecord) :=
  await (.listRefundRequests context scope limit cursor)

def listExternalAlerts (context : PilotTenantContext) (limit : Nat) (cursor : Option String) :
    PilotScript (PilotPage PilotExternalAlert) :=
  await (.listExternalAlerts context limit cursor)

def getSettings (context : PilotTenantContext) : PilotScript PilotSettings :=
  await (.getSettings context)

end PilotScript

namespace PilotPrismaRepository

def resolveContext (identity : PilotSignedIdentity) (allowProvision : Bool)
    (displayName : Option String) : PilotScript (Option PilotTenantContext) := do
  let resolved ← PilotScript.resolveInstallation identity.accountId identity.environment
  let resolved ←
    (if resolved = none ∧ allowProvision then
      PilotScript.provisionInstallation identity.accountId identity.environment
    else
      pure resolved)
  match resolved with
  | none                => pure none
  | some installationId => PilotScript.observeContext identity displayName installationId

-- A taken key means that another dispatch has stored its receipt first, or that the mutation has
-- run into a key of its own rows.
def replayOnConflict (metadata : PilotMutationMetadata)
    (transaction : PilotScript PilotStoredResponse) : PilotScript PilotStoredResponse :=
  tryCatch transaction fun failure =>
    if failure = .uniqueConstraint then do
      match ← PilotScript.findMutationReceipt metadata.requestNonce with
      | none         => throw (.error .workflowConflict 409 "The workflow changed concurrently.")
      | some receipt =>
        if receipt.matches metadata then pure receipt.response else throw idempotencyConflict
    else
      throw failure

def executeMutation (context : PilotTenantContext) (metadata : PilotMutationMetadata)
    (mutation : PilotMutation) : PilotScript PilotStoredResponse :=
  replayOnConflict metadata (PilotScript.mutate context metadata mutation)

def storeMutationReceipt (context : PilotTenantContext) (metadata : PilotMutationMetadata)
    (response : PilotStoredResponse) : PilotScript PilotStoredResponse :=
  if response.status < 200 ∨ 500 ≤ response.status then
    throw (.error .internalError 500 "A mutation receipt response is invalid.")
  else
    replayOnConflict metadata (PilotScript.storeReceipt context metadata response)

end PilotPrismaRepository

-- `actionForOperation`
def PilotOperation.action : PilotOperation → AccessAction
  | refundRequestCreate                                                          =>
    .createRefundRequest
  | refundRequestDecide                                                          =>
    .decideRefundRequest
  | refundRequestCancel                                                          =>
    .cancelRefundRequest
  | settingsUpdate                                                               => .settings
  | auditExport                                                                  => .auditExport
  | contextSync | externalAlertAcknowledge | externalAlertList | paymentEligibility
  | refundRequestGet | refundRequestList | settingsGet                           => .read

def accessDenial : AccessDenialCode → PilotFailure
  | .adminRequired            =>
    .error .adminRequired 403 "A signed Stripe Administrator role is required."
  | .explicitApproverRequired =>
    .error .approverRequired 403 "This action requires an explicitly enabled approver."
  | .installationInactive     =>
    .error .installationInactive 403 "The Stripe installation is not active."
  | .pilotLiveDisabled        =>
    .error .liveModeDisabled 403 "RefundDesk pilot operations are disabled in live mode."
  | .tenantInactive           =>
    .error .installationInactive 403 "The RefundDesk tenant is not active."

-- `TestAndSandboxAccessPolicy`
def assertAllowed (context : PilotTenantContext) (operation : PilotOperation)
    (roles : List StripeRole) : Except PilotFailure Unit :=
  match PilotAccessPolicy.authorize {
    action             := operation.action
    environment        := context.environment
    tenantStatus       := context.tenantStatus
    installationStatus := context.installationStatus
    signedStripeRoles  := roles
    explicitApprover   := context.actor.approverEnabled
  } with
  | .ok ()      => .ok ()
  | .error code => .error (accessDenial code)

def ineligibilityMessage : IneligibilityCode → String
  | .amountExceedsRemaining   => "The requested amount exceeds the remaining refundable balance."
  | .cardPresentUnsupported   => "Card-present payments are not supported during the pilot."
  | .connectUnsupported       =>
    "Payments with Connect transfer semantics are not supported during the pilot."
  | .currencyMismatch         => "The requested currency does not match the payment."
  | .disputed                 => "Disputed payments are not eligible for this workflow."
  | .nothingRefundable        => "This payment has no refundable balance remaining."
  | .notCaptured              => "The payment has not been captured."
  | .notPaid                  => "The payment has not been paid."
  | .paymentMethodUnsupported => "Only captured card payments are supported during the pilot."

def PilotSignedIdentity.isAdministrator (identity : PilotSignedIdentity) : Bool :=
  identity.rolesAsserted && hasStripeAdministratorRole identity.roles

-- The accounts that the deployment serves.
structure PilotService where
  admitted : List (String × StripeEnvironment)

namespace PilotService

open PilotPrismaRepository

def requireApprover (context : PilotTenantContext) : Except PilotFailure Unit :=
  if context.actor.approverEnabled then .ok ()
  else .error (.error .approverRequired 403 "This action requires an explicitly enabled approver.")

def requireAdministrator (identity : PilotSignedIdentity) : Except PilotFailure Unit :=
  if identity.isAdministrator then .ok ()
  else .error (.error .adminRequired 403 "A signed Stripe Administrator role is required.")

def requireAuditAccess (context : PilotTenantContext) (identity : PilotSignedIdentity) :
    Except PilotFailure Unit :=
  if context.actor.approverEnabled ∨ identity.isAdministrator then .ok ()
  else .error (.error .unauthorized 403
    "Audit export requires an Administrator or explicit approver.")

def assertCurrentMutationAccess (context : PilotTenantContext) (input : PilotDispatchRequest) :
    Except PilotFailure Unit :=
  match input.operation with
  | .refundRequestDecide | .externalAlertAcknowledge => requireApprover context
  | .settingsUpdate                                  => requireAdministrator input.identity
  | .auditExport                                     => requireAuditAccess context input.identity
  | _                                                => .ok ()

def assertContextBinding (context : PilotTenantContext) (identity : PilotSignedIdentity) :
    Except PilotFailure Unit :=
  if context.stripeAccountId ≠ identity.accountId ∨
      context.environment ≠ identity.environment then
    .error (.error .accountEnvironmentMismatch 403
      "The signed account and environment do not match the installation.")
  else if context.actor.stripeUserId ≠ identity.userId then
    .error (.error .unauthorized 403 "The signed Stripe user does not match the tenant actor.")
  else
    .ok ()

def requirePaymentResource (resource : Option PilotPaymentResource) :
    Except PilotFailure PilotPaymentResource :=
  match resource with
  | none          => .error (.error .resourceMismatch 400
    "This operation requires a Charge or PaymentIntent resource.")
  | some resource => .ok resource

def requestMatchesResource (request : PilotRequestRecord) (resource : PilotPaymentResource) :
    Bool :=
  match resource.type with
  | .charge        => request.chargeId = resource.id
  | .paymentIntent => request.paymentIntentId = some resource.id

def paymentMatchesResource (payment : PilotPayment) (resource : PilotPaymentResource) : Bool :=
  match resource.type with
  | .charge        => payment.chargeId = resource.id
  | .paymentIntent => payment.paymentIntentId = some resource.id

-- `requestSummaryJson` of the summary of a request
def requestSummaryJson (request : PilotRequestRecord) : List (String × CanonicalJsonValue) := [
  ("amount_minor", .string (toString request.amountMinor)),
  ("can_cancel", .boolean request.canCancel),
  ("can_decide", .boolean request.canDecide),
  ("created_at", .string request.createdAt),
  ("currency", .string request.currency),
  ("expires_at", .string request.expiresAt),
  ("id", .string request.id),
  ("is_requester", .boolean request.isRequester),
  ("justification", .ofOption request.justification),
  ("reason", .string request.reason.text),
  ("requester_user_id", .string request.requesterUserId),
  ("resource_id", .string request.resourceId),
  ("resource_type", .string request.resourceType.text),
  ("status", .string request.status.text),
  ("version", .number request.version)
]

def externalAlertJson (alert : PilotExternalAlert) : List (String × CanonicalJsonValue) := [
  ("acknowledged", .boolean alert.acknowledged),
  ("amount_minor", .string (toString alert.amountMinor)),
  ("classification", .string alert.classification.text),
  ("currency", .string alert.currency),
  ("detected_at", .string alert.detectedAt),
  ("id", .string alert.id),
  ("refund_id", .string alert.refundId)
]

def pageJson {α : Type} (page : PilotPage α) (json : α → List (String × CanonicalJsonValue)) :
    List (String × CanonicalJsonValue) := [
  ("items", .array (page.items.map fun item => .object (json item))),
  ("next_cursor", .ofOption page.nextCursor)
]

def ok (body : List (String × CanonicalJsonValue)) : PilotStoredResponse where
  body   := body
  status := 200

def eligibilityInput (payment : PilotPayment) (requestedAmountMinor : Option Int)
    (requestedCurrency : Option String) : PaymentEligibilityInput where
  amountCaptured       := payment.amountCaptured
  amountRefunded       := payment.amountRefunded
  currency             := payment.currency
  paid                 := payment.paid
  captured             := payment.captured
  disputed             := payment.disputed
  paymentMethodType    := payment.paymentMethodType
  hasConnectSemantics  := payment.hasConnectSemantics
  requestedAmountMinor := requestedAmountMinor
  requestedCurrency    := requestedCurrency

-- A domain error is not an error of the API.
def eligibilityOf (input : PaymentEligibilityInput) :
    Except PilotFailure (Except IneligibilityCode EligiblePayment) :=
  (evaluatePaymentEligibility input).mapError fun _ => .unexpected

def retrieveSignedPayment (context : PilotTenantContext) (resource : PilotPaymentResource) :
    PilotScript PilotPayment := do
  let payment ← PilotScript.retrievePayment context resource
  if paymentMatchesResource payment resource then
    pure payment
  else
    throw (.error .resourceMismatch 422
      "Stripe returned a payment that does not match the signed resource.")

def paymentEligibility (context : PilotTenantContext) (resource : Option PilotPaymentResource) :
    PilotScript PilotStoredResponse := do
  let resource ← fromExcept (requirePaymentResource resource)
  let payment ← retrieveSignedPayment context resource
  let eligibility ← fromExcept (eligibilityOf (eligibilityInput payment none none))
  let activeRequest ← PilotScript.findActiveRequest context payment.paymentKey
  pure <| ok [
    ("active_request",
      match activeRequest with
      | none         => .null
      | some request => .object [
          ("can_cancel", .boolean request.canCancel),
          ("id", .string request.id),
          ("status", .string request.status.text)
        ]),
    ("approvals_required", .number 1),
    ("currency", .string (lowerCase payment.currency)),
    ("eligible", .boolean eligibility.isOk),
    ("ineligible_reason",
      match eligibility with
      | .ok _       => .null
      | .error code => .string (ineligibilityMessage code)),
    ("remaining_amount_minor",
      .string (toString (max 0 (payment.amountCaptured - payment.amountRefunded))))
  ]

def createRefundRequest (context : PilotTenantContext) (input : PilotDispatchRequest)
    (amountMinor : Int) (currency : String) (reason : RefundReason) (justification : String) :
    PilotScript PilotStoredResponse := do
  let resource ← fromExcept (requirePaymentResource input.resource)
  let payment ← retrieveSignedPayment context resource
  let eligibility ←
    fromExcept (eligibilityOf (eligibilityInput payment (some amountMinor) (some currency)))
  match eligibility with
  | .error code  => throw (.error .paymentNotEligible 422 (ineligibilityMessage code))
  | .ok eligible =>
    let activeRequest ← PilotScript.findActiveRequest context payment.paymentKey
    if activeRequest.isSome then
      throw (.error .workflowConflict 409
        "A non-terminal refund request already exists for this payment.")
    else
      executeMutation context input.metadata
        (.refundRequestCreate amountMinor eligible.currency justification payment reason resource)

def requireRequest (context : PilotTenantContext) (requestId : String)
    (resource : PilotPaymentResource) : PilotScript PilotRequestRecord := do
  match ← PilotScript.getRefundRequest context requestId with
  | none         => throw (.error .requestNotFound 404 "The refund request was not found.")
  | some request =>
    if requestMatchesResource request resource = false then
      throw (.error .resourceMismatch 403
        "The request does not belong to the signed payment resource.")
    else if request.isRequester = false ∧ context.actor.approverEnabled = false then
      throw (.error .unauthorized 403
        "Only the requester or an explicit approver can read this request.")
    else
      pure request

def decideRefundRequest (context : PilotTenantContext) (input : PilotDispatchRequest)
    (requestId : String) (command : DecisionCommand) : PilotScript PilotStoredResponse := do
  fromExcept (requireApprover context)
  let resource ← fromExcept (requirePaymentResource input.resource)
  let request ← requireRequest context requestId resource
  if request.requesterUserId = context.actor.stripeUserId then
    throw (.error .selfApproval 403 "A requester cannot approve or reject their own request.")
  else if request.status ≠ .pendingApproval then
    throw (.error .workflowConflict 409 "Only a pending request can be decided.")
  else
    match command with
    | .approve expectedRequestVersion snapshot =>
      if input.approvalAttestationId = none ∨ expectedRequestVersion ≠ request.version ∨
          snapshot.amountMinor ≠ request.amountMinor ∨ snapshot.currency ≠ request.currency ∨
          snapshot.reason ≠ request.reason ∨
          snapshot.requesterUserId ≠ request.requesterUserId then
        throw (.error .workflowConflict 409
          "The signed approval no longer matches the request snapshot.")
      else
        executeMutation context input.metadata (.refundRequestDecide .approve requestId resource)
    | .reject justification =>
      executeMutation context input.metadata
        (.refundRequestDecide (.reject justification) requestId resource)

def cancelRefundRequest (context : PilotTenantContext) (input : PilotDispatchRequest)
    (requestId : String) : PilotScript PilotStoredResponse := do
  let resource ← fromExcept (requirePaymentResource input.resource)
  let request ← requireRequest context requestId resource
  if request.requesterUserId ≠ context.actor.stripeUserId then
    throw (.error .unauthorized 403 "Only the original requester can cancel this request.")
  else if request.status ≠ .pendingApproval then
    throw (.error .workflowConflict 409 "Only a pending request can be canceled.")
  else
    executeMutation context input.metadata (.refundRequestCancel requestId resource)

def updateSettings (context : PilotTenantContext) (input : PilotDispatchRequest)
    (approverUserIds : List String) (onboardingCompleted : Bool) :
    PilotScript PilotStoredResponse := do
  fromExcept (requireAdministrator input.identity)
  if approverUserIds = [] then
    throw (.error .noDistinctApprover 422 "At least one explicit approver must remain enabled.")
  else
    executeMutation context input.metadata
      (.settingsUpdate approverUserIds.eraseDups onboardingCompleted)

-- The cases of `dispatch`.
def operate (context : PilotTenantContext) (input : PilotDispatchRequest) :
    PilotScript PilotStoredResponse :=
  match input.command with
  | .contextSync _ => executeMutation context input.metadata .contextSync
  | .paymentEligibility => paymentEligibility context input.resource
  | .refundRequestCreate amountMinor currency reason justification =>
    createRefundRequest context input amountMinor currency reason justification
  | .refundRequestList scope limit cursor => do
    fromExcept <|
      if scope ∈ [.awaitingMyApproval, .allActivity] then requireApprover context else .ok ()
    let page ← PilotScript.listRefundRequests context scope limit cursor
    pure (ok (pageJson page requestSummaryJson))
  | .refundRequestGet requestId => do
    let resource ← fromExcept (requirePaymentResource input.resource)
    let request ← requireRequest context requestId resource
    pure (ok (requestSummaryJson request))
  | .refundRequestDecide requestId decision => decideRefundRequest context input requestId decision
  | .refundRequestCancel requestId => cancelRefundRequest context input requestId
  | .externalAlertList limit cursor => do
    fromExcept (requireApprover context)
    let page ← PilotScript.listExternalAlerts context limit cursor
    pure (ok (pageJson page externalAlertJson))
  | .externalAlertAcknowledge alertId => do
    fromExcept (requireApprover context)
    executeMutation context input.metadata (.externalAlertAcknowledge alertId)
  | .settingsGet => do
    let settings ← PilotScript.getSettings context
    pure <| ok [
      ("approver_user_ids", .array (settings.approverUserIds.map .string)),
      ("expiration_days", .number 7),
      ("onboarding_completed", .boolean settings.onboardingCompleted)
    ]
  | .settingsUpdate approverUserIds onboardingCompleted =>
    updateSettings context input approverUserIds onboardingCompleted
  | .auditExport => do
    fromExcept (requireAuditAccess context input.identity)
    executeMutation context input.metadata .auditExport

-- The expected failures of a mutation are stored like its responses.
def storeFailure (context : PilotTenantContext) (input : PilotDispatchRequest) :
    PilotFailure → PilotScript PilotStoredResponse
  | .api error =>
    if error.status = 403 ∨ 500 ≤ error.status then
      throw (.api error)
    else
      storeMutationReceipt context input.metadata {
        body   := [
          ("code", .string error.code.text),
          ("message", .string error.message),
          ("request_id", .string input.responseRequestId)
        ]
        status := error.status
      }
  | failure => throw failure

def contextSyncDisplayName : PilotCommand → Option String
  | .contextSync displayName => displayName.filter (· ≠ "")
  | _                        => none

def dispatch (service : PilotService) (input : PilotDispatchRequest) :
    PilotScript PilotStoredResponse := do
  let identity := input.identity
  if (identity.accountId, identity.environment) ∉ service.admitted then
    throw (.error .accountEnvironmentMismatch 403
      "RefundDesk does not serve this Stripe account and environment.")
  else
    let allowProvision := input.operation = .contextSync ∧ identity.isAdministrator
    match ← resolveContext identity allowProvision (contextSyncDisplayName input.command) with
    | none =>
      throw (.error .installationNotFound 404
        "No RefundDesk installation matches this account and environment.")
    | some context =>
      fromExcept (assertContextBinding context identity)
      fromExcept (assertAllowed context input.operation identity.roles)
      if input.operation.mutation then
        fromExcept (assertCurrentMutationAccess context input)
        match ← PilotScript.findMutationReceipt input.requestNonce with
        | none         => tryCatch (operate context input) (storeFailure context input)
        | some receipt =>
          fromExcept (assertReceiptMatches receipt input.metadata)
          pure receipt.response
      else
        operate context input

end PilotService
end RefundDesk
