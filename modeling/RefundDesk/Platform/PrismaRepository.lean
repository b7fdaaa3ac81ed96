import RefundDesk.Platform.Repository

namespace RefundDesk

open Transaction

-- A mutation that has been performed, as its transaction saw it.
structure AppliedMutation where
  metadata : PilotMutationMetadata
  mutation : PilotMutation
  response : PilotStoredResponse
  before   : PilotRows
  after    : PilotRows

structure ApiMutationReceipt where
  receipt   : PilotMutationReceipt
  createdAt : Timestamp
  expiresAt : Timestamp

-- The rows of the tenant with the receipts of its mutations. `applied` is a ghost: the mutations
-- that transactions have performed and committed, the latest first. No operation reads it.
structure PilotStore where
  rows     : PilotRows
  receipts : Table String ApiMutationReceipt
  applied  : List AppliedMutation

abbrev PilotStoreTransaction := Transaction PilotFailure PilotStore

def onRows {α : Type} (m : PilotTransaction α) : PilotStoreTransaction α :=
  onField (·.rows) (fun s rows => { s with rows }) id m

-- The nonce of a request is a UUID to the database, which does not tell upper case from lower case.
def nonceKey (requestNonce : String) : String :=
  lowerCase requestNonce

-- The receipt that a mutation leaves with its response.
def PilotMutationMetadata.receipt (metadata : PilotMutationMetadata)
    (response : PilotStoredResponse) : PilotMutationReceipt where
  actorId              := metadata.actorId
  canonicalRequestHash := metadata.canonicalRequestHash
  operation            := metadata.operation
  response             := response

-- The receipt under the unique key of the tenant and the nonce.
def PilotStore.receipt? (s : PilotStore) (requestNonce : String) : Option PilotMutationReceipt :=
  (s.receipts.find? (nonceKey requestNonce)).map (·.receipt)

namespace PilotPrismaRepository

open PilotRepository

def receiptRetentionMilliseconds : Timestamp := 365 * 24 * 60 * 60 * 1000

def auditLinkLifetimeMilliseconds : Timestamp := 5 * 60 * 1000

variable (options : PilotPrismaRepositoryOptions) (draw : Draw)

def fail {α : Type} (code : PilotErrorCode) (status : Nat) (message : String) :
    PilotTransaction α :=
  throw (.error code status message)

def assertCurrentInstallation (installation : Option InstallationContext)
    (context : PilotTenantContext) : Except PilotFailure Unit :=
  match installation with
  | none =>
    .error (.error .accountEnvironmentMismatch 403
      "The installation binding changed during the request.")
  | some current =>
    if current.installation.stripeAccountId ≠ context.stripeAccountId ∨
        current.installation.environment ≠ context.environment then
      .error (.error .accountEnvironmentMismatch 403
        "The installation binding changed during the request.")
    else if current.installation.status ≠ .active ∨ current.tenant.status ≠ .active then
      .error (.error .installationInactive 403 "The Stripe installation is not active.")
    else
      .ok ()

def requestMatchesMutationResource (request : RefundRequest) (resource : PilotPaymentResource) :
    Bool :=
  match resource.type with
  | .charge        => request.chargeId = some resource.id
  | .paymentIntent => request.paymentIntentId = some resource.id

-- The event of a mutation of a user.
def auditEvent (stripeUserId : String) (metadata : PilotMutationMetadata)
    (action entityType entityId : String) (payload : List (String × CanonicalJsonValue)) :
    AuditEvent where
  actorType            := .stripeUser
  actorId              := some stripeUserId
  assertedStripeRoles  := metadata.assertedStripeRoles
  action               := action
  entityType           := entityType
  entityId             := entityId
  payload              :=
    payload ++ [("roles_asserted", .boolean metadata.assertedStripeRoles.isSome)]
  correlationRequestId := metadata.requestNonce
  occurredAt           := draw.databaseNow

variable (context : PilotTenantContext) (metadata : PilotMutationMetadata)

def settingsOf : PilotTransaction SettingsSnapshot := do
  match ← getSettings options.collation context.installationId with
  | none          =>
    fail .installationNotFound 404 "The Stripe installation was not found."
  | some settings => pure settings

def synchronizeContext : PilotTransaction PilotStoredResponse := do
  let settings ← settingsOf options context
  pure {
    status := 200
    body   := [
      ("approvals_required", .number 1),
      ("current_user_is_approver", .boolean (settings.approvers.any (·.1 = context.actor.id))),
      ("installation_active", .boolean (settings.installation.installation.status = .active ∧
        settings.installation.tenant.status = .active)),
      ("onboarding_completed", .boolean settings.installation.onboardingCompletedAt.isSome)
    ]
  }

def createRefundRequest (amountMinor : Int) (currency justification : String)
    (payment : PilotPayment) (reason : RefundReason) : PilotTransaction PilotStoredResponse := do
  let policy ← getActiveApprovalPolicy
  let activeRequest ← getActiveRequestByPayment context.environment payment.paymentKey
  let distinctApprovers ← countEligibleDistinctApprovers context.actor.id
  match policy with
  | none =>
    fail .installationInactive 403
      "Complete the one-approver pilot setup before creating requests."
  | some policy =>
    require (policy.requiredApprovals = 1 ∧ policy.expiresAfterSeconds = 604800)
      (.error .installationInactive 403
        "Complete the one-approver pilot setup before creating requests.")
    require (1 ≤ distinctApprovers)
      (.error .noDistinctApprover 422
        "A different explicit approver is required for this requester.")
    require (activeRequest.isNone)
      (.error .workflowConflict 409
        "A non-terminal refund request already exists for this payment.")
    let requestId := draw.id
    let encrypted := options.encrypt justification {
      tenantId := context.tenantId
      table    := "refund_requests"
      entityId := requestId
      field    := "justification"
    } draw.nonce
    let input : TenantRepository.CreateRefundRequestInput := {
      installationId    := context.installationId
      environment       := context.environment
      paymentKey        := payment.paymentKey
      paymentIntentId   := payment.paymentIntentId
      chargeId          := some payment.chargeId
      amountMinor
      currency
      reason
      requesterUserId   := context.actor.id
      policyVersion     := policy.version
      requiredApprovals := policy.requiredApprovals
      expiresAt         := draw.now + policy.expiresAfterSeconds * 1000
    }
    onStore (TenantRepository.createRefundRequest draw.databaseNow requestId input)
    modify fun rows => { rows with
      justifications := rows.justifications.insert requestId encrypted
    }
    appendAuditEvent <|
      auditEvent draw context.actor.stripeUserId metadata "refund_request.created"
        "refund_request" requestId [
        ("amount_minor", .string (toString amountMinor)),
        ("currency", .string currency),
        ("payment_key", .string payment.paymentKey)
      ]
    pure {
      status := 200
      body   := [
        ("request_id", .string requestId),
        ("status", .string (input.row draw.databaseNow).workflowStatus.text)
      ]
    }

-- The user of the context, if the user can decide and acknowledge.
def currentApprover : PilotTransaction TenantUser := do
  match (← get).store.users.find? context.actor.id with
  | none      =>
    fail .approverRequired 403 "This action requires an explicitly enabled approver."
  | some user =>
    require user.approverEnabled
      (.error .approverRequired 403 "This action requires an explicitly enabled approver.")
    pure user

def decideRefundRequest (decision : PilotDecision) (requestId : String)
    (resource : PilotPaymentResource) : PilotTransaction PilotStoredResponse := do
  match (← get).store.requests.find? requestId with
  | none => fail .requestNotFound 404 "The refund request was not found."
  | some detail =>
    let actor ← currentApprover context
    require (detail.request.requesterUserId ≠ context.actor.id)
      (.error .selfApproval 403 "A requester cannot approve or reject their own request.")
    require (detail.request.workflowStatus = .pendingApproval ∧
        requestMatchesMutationResource detail.request resource)
      (.error .workflowConflict 409 "The pending request no longer matches this decision.")
    let decisionId := draw.id
    let rejection :=
      match decision with
      | .approve              => none
      | .reject justification => some <| options.encrypt justification {
          tenantId := context.tenantId
          table    := "approval_decisions"
          entityId := decisionId
          field    := "rejection"
        } draw.nonce
    require (decision = .approve → metadata.approvalAttestationId.isSome)
      (.error .approvalAttestationRequired 503
        "The approval could not be independently attested.")
    let row : ApprovalDecision := {
      approverUserId        := context.actor.id
      decision              := if decision = .approve then .approve else .reject
      approvalAttestationId := if decision = .approve then metadata.approvalAttestationId else none
      decidedAt             := draw.now
    }
    let result ← onStore (TenantRepository.recordDecision draw.databaseNow requestId row draw.now)
    modify fun rows => { rows with
      decisions := rows.decisions.insert decisionId {
        requestId
        approverUserId      := context.actor.id
        rejection
        stripeRolesSnapshot := metadata.assertedStripeRoles.getD []
      }
    }
    require (result.any fun result =>
        if decision = .approve then result.becameApproved else result.becameRejected)
      (.error .workflowConflict 409 "The request was already decided.")
    let kind := if decision = .approve then "approve" else "reject"
    appendAuditEvent <|
      auditEvent draw actor.stripeUserId metadata ("refund_request." ++ kind ++ "d")
        "refund_request" requestId [("decision", .string kind)]
    pure {
      status := 200
      body   := [
        ("request_id", .string requestId),
        ("status", .string (if decision = .approve then "approved" else "rejected"))
      ]
    }

def cancelRefundRequest (requestId : String) (resource : PilotPaymentResource) :
    PilotTransaction PilotStoredResponse := do
  match (← get).store.requests.find? requestId with
  | none => fail .requestNotFound 404 "The refund request was not found."
  | some detail =>
    require (detail.request.requesterUserId = context.actor.id ∧
        requestMatchesMutationResource detail.request resource)
      (.error .unauthorized 403 "Only the requester can cancel this payment request.")
    let canceled ← onStore <| TenantRepository.onRequest draw.databaseNow requestId fun env =>
      RequestRepository.cancelPendingRequest env context.actor.id draw.now
    require (canceled = some true)
      (.error .workflowConflict 409 "Only a pending request can be canceled.")
    appendAuditEvent <|
      auditEvent draw context.actor.stripeUserId metadata "refund_request.canceled"
        "refund_request" requestId []
    pure {
      status := 200
      body   := [("request_id", .string requestId), ("status", .string "canceled")]
    }

def acknowledgeAlert (alertId : String) : PilotTransaction PilotStoredResponse := do
  let actor ← currentApprover context
  let missing : PilotFailure := .error .workflowConflict 409
    "The external refund alert is missing or already acknowledged."
  match (← get).alertIds.find? alertId with
  | none     => throw missing
  | some key =>
    let acknowledged ← onStore <|
      TenantRepository.acknowledgeExternalRefundAlert key context.actor.id draw.now
    require acknowledged missing
    appendAuditEvent <|
      auditEvent draw actor.stripeUserId metadata "external_refund_alert.acknowledged"
        "external_refund_alert" alertId [("stripe_refund_id", .string (ofLex key).2)]
    pure {
      status := 200
      body   := [("acknowledged", .boolean true), ("alert_id", .string alertId)]
    }

def updateSettings (approverUserIds : List String) (onboardingCompleted : Bool) :
    PilotTransaction PilotStoredResponse := do
  let users := (← get).store.users
  let isListed (user : TenantUser) : Bool := user.stripeUserId ∈ approverUserIds
  let approverCount := users.count fun _ user => isListed user
  require (approverCount = approverUserIds.length)
    (.error .noDistinctApprover 422
      "Every approver must open RefundDesk once before activation.")
  modify fun rows => { rows with
    store := { rows.store with
      users := users.map fun user => { user with approverEnabled := isListed user }
    }
  }
  createApprovalPolicy context.actor.stripeUserId
  let completed ←
    (if onboardingCompleted then completeOnboarding context.installationId draw.now else pure true)
  require completed (.error .installationInactive 403 "The Stripe installation is not active.")
  appendAuditEvent <|
    auditEvent draw context.actor.stripeUserId metadata "settings.updated" "stripe_installation"
      context.installationId [
        ("approver_count", .number approverCount),
        ("expiration_days", .number 7),
        ("onboarding_completed", .boolean onboardingCompleted)
      ]
  let settings ← settingsOf options context
  pure {
    status := 200
    body   := [
      ("approver_user_ids", .array (settings.approvers.map fun e => .string e.2.stripeUserId)),
      ("expiration_days", .number 7),
      ("onboarding_completed", .boolean settings.installation.onboardingCompletedAt.isSome)
    ]
  }

def createAuditExport : PilotTransaction PilotStoredResponse := do
  let expiresAt := isoText (draw.now + auditLinkLifetimeMilliseconds)
  let token := options.createAuditToken {
    actorId        := context.actor.stripeUserId
    environment    := context.environment
    expiresAt
    installationId := context.installationId
    nonce          := draw.nonce
    tenantId       := context.tenantId
  }
  appendAuditEvent <|
    auditEvent draw context.actor.stripeUserId metadata "audit.export_prepared"
      "stripe_installation" context.installationId
      [("expires_at", .string expiresAt), ("format", .string "csv")]
  pure {
    status := 200
    body   := [
      ("download_url", .string (options.appOrigin ++ "/api/v1/audit/download?token=" ++ token)),
      ("expires_at", .string expiresAt)
    ]
  }

def performMutation : PilotMutation → PilotTransaction PilotStoredResponse
  | .contextSync => synchronizeContext options context
  | .refundRequestCreate amountMinor currency justification payment reason _ =>
    createRefundRequest options draw context metadata amountMinor currency justification payment
      reason
  | .refundRequestDecide decision requestId resource =>
    decideRefundRequest options draw context metadata decision requestId resource
  | .refundRequestCancel requestId resource =>
    cancelRefundRequest draw context metadata requestId resource
  | .externalAlertAcknowledge alertId => acknowledgeAlert draw context metadata alertId
  | .settingsUpdate approverUserIds onboardingCompleted =>
    updateSettings options draw context metadata approverUserIds onboardingCompleted
  | .auditExport => createAuditExport options draw context metadata

def findMutationReceipt (requestNonce : String) :
    PilotStoreTransaction (Option PilotMutationReceipt) := do
  require (isDatabaseUuid requestNonce) .unexpected
  return (← get).receipt? requestNonce

-- The checks and the key of an INSERT into `api_mutation_receipts`.
def createMutationReceipt (response : PilotStoredResponse) : PilotStoreTransaction Unit := do
  let row : ApiMutationReceipt := {
    receipt   := metadata.receipt response
    createdAt := draw.databaseNow
    expiresAt := draw.now + receiptRetentionMilliseconds
  }
  require (isDatabaseUuid metadata.requestNonce ∧ metadata.canonicalRequestHash.length = 64 ∧
    200 ≤ response.status ∧ response.status ≤ 499 ∧ row.createdAt < row.expiresAt) .unexpected
  let s ← get
  require (s.receipt? metadata.requestNonce = none) .uniqueConstraint
  set { s with receipts := s.receipts.insert (nonceKey metadata.requestNonce) row }

-- What the transactions of `executeMutation` and `storeMutationReceipt` share: the response of the
-- stored receipt, or else that of `body`.
def underReceipt (body : PilotStoreTransaction PilotStoredResponse) :
    PilotStoreTransaction PilotStoredResponse := do
  match ← findMutationReceipt metadata.requestNonce with
  | some receipt =>
    fromExcept (assertReceiptMatches receipt metadata)
    pure receipt.response
  | none =>
    let installation ← onRows (getInstallationContext context.installationId)
    fromExcept (assertCurrentInstallation installation context)
    body

def mutate (mutation : PilotMutation) : PilotStoreTransaction PilotStoredResponse :=
  underReceipt context metadata do
    let before := (← get).rows
    let result ← onRows (performMutation options draw context metadata mutation)
    modify fun s => { s with
      applied := { metadata, mutation, response := result, before, after := s.rows } :: s.applied
    }
    if result.status < 500 then
      createMutationReceipt draw metadata result
    pure result

def storeReceipt (response : PilotStoredResponse) : PilotStoreTransaction PilotStoredResponse :=
  underReceipt context metadata do
    createMutationReceipt draw metadata response
    pure response

-- `refunddesk_resolve_installation`
def resolveInstallation (accountId : String) (environment : StripeEnvironment) :
    PilotStoreTransaction (Option String) := do
  require (isStripeAccountId accountId) .unexpected
  let store := (← get).rows.store
  pure <| (store.installations.entries.find? fun e =>
    e.2.stripeAccountId = accountId ∧ e.2.environment = environment ∧
      store.tenant.status = .active).map (·.1)

-- `refunddesk_provision_installation` for an installation of the tenant. The installation that it
-- creates for an account that has none belongs to another tenant.
def provisionInstallation (accountId : String) (environment : StripeEnvironment) :
    PilotStoreTransaction (Option String) := do
  require (isStripeAccountId accountId ∧ environment ≠ .live) .unexpected
  let s ← get
  let store := s.rows.store
  match store.installations.entries.find? fun e =>
      e.2.stripeAccountId = accountId ∧ e.2.environment = environment with
  | none => pure none
  | some (installationId, installation) =>
    if installation.status = .deauthorized ∧
        installation.lastLifecycleEventType = some .accountApplicationDeauthorized then
      pure (some installationId)
    else
      set { s with
        rows := { s.rows with
          store := { store with
            tenant        := { store.tenant with status := .active, pendingDeleteAt := none }
            installations := store.installations.insert installationId { installation with
              status := .active, deauthorizedAt := none
            }
          }
        }
      }
      pure (some installationId)

-- The transaction of `resolveContext` on a resolved installation.
def observeContext (identity : PilotSignedIdentity) (displayName : Option String)
    (installationId : String) : PilotStoreTransaction (Option PilotTenantContext) :=
  onRows do
    let installation ← getInstallationContext installationId
    let actor ← observeTenantUser draw.id {
      stripeUserId := identity.userId
      displayName
      stripeRoles  := if identity.rolesAsserted then some identity.roles else none
      verifiedAt   := draw.now
    }
    let rows ← get
    pure <| installation.map fun current => {
      actor
      environment        := identity.environment
      installationId
      installationStatus := current.installation.status
      stripeAccountId    := current.installation.stripeAccountId
      tenantId           := rows.store.tenantId
      tenantStatus       := current.tenant.status
    }

end PilotPrismaRepository
end RefundDesk
