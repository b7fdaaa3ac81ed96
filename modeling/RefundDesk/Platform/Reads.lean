import RefundDesk.Library.Pagination
import RefundDesk.Platform.PrismaRepository
import RefundDesk.Platform.Service

namespace RefundDesk

open Transaction

-- The latest row comes first, and of rows of the same instant the one with the greatest id.
abbrev ListKey := (Timestamp ×ₗ String)ᵒᵈ

def listKey (time : Timestamp) (id : String) : ListKey :=
  OrderDual.toDual (toLex (time, id))

theorem listKey_inj {time time' : Timestamp} {id id' : String} :
    listKey time id = listKey time' id' ↔ time = time' ∧ id = id' := by
  simp [listKey]

namespace PilotRepository

inductive RequestListScope
  | requester
  | awaitingApproval
  | all
  deriving DecidableEq, Repr

-- The conditions of the scope on a request.
def RequestListScope.admits (scope : RequestListScope) (actorUserId : String)
    (detail : RefundRequestDetail) : Bool :=
  match scope with
  | .requester        => detail.request.requesterUserId = actorUserId
  | .awaitingApproval =>
    detail.request.workflowStatus = .pendingApproval ∧
      detail.request.requesterUserId ≠ actorUserId ∧
      detail.decisions.all fun decision => decision.approverUserId ≠ actorUserId
  | .all              => true

structure RequestListInput where
  actorUserId : String
  cursor      : Option String
  limit       : Nat
  scope       : RequestListScope

-- A cursor that names no row leaves no row.
def findPage {ρ : Type} (time : ρ → Timestamp) (rows : List (String × ρ)) (found : String → Option ρ)
    (cursor : Option String) (limit : Nat) : List (String × ρ) :=
  let key (row : String × ρ) := listKey (time row.2) row.1
  match cursor with
  | none    => Pagination.findMany key none limit rows
  | some id =>
    match found id with
    | none     => []
    | some row => Pagination.findMany key (some (listKey (time row) id)) limit rows

def listRefundRequests (input : RequestListInput) :
    PilotTransaction (List (String × RefundRequestDetail)) := do
  require (1 ≤ input.limit ∧ input.limit ≤ 100) .unexpected
  let requests := (← get).store.requests
  let admitted := requests.entries.filter fun e => input.scope.admits input.actorUserId e.2
  pure <| findPage (·.request.createdAt) admitted requests.find? input.cursor input.limit

-- The alerts under their ids.
def alertRows (rows : PilotRows) : List (String × (String ×ₗ String) × ExternalRefundAlert) :=
  rows.alertIds.entries.filterMap fun e =>
    (rows.store.alerts.find? e.2).map fun alert => (e.1, e.2, alert)

def listExternalRefundAlerts (cursor : Option String) (limit : Nat) :
    PilotTransaction (List (String × (String ×ₗ String) × ExternalRefundAlert)) := do
  require (1 ≤ limit ∧ limit ≤ 100) .unexpected
  let alerts := alertRows (← get)
  let found (id : String) := (alerts.find? (·.1 = id)).map (·.2)
  pure <| findPage (·.2.detectedAt) alerts found cursor limit

-- By the display name, and under one name by the Stripe id.
def observedUserLe (collation : String → String → Bool) (left right : Option String × String) :
    Bool :=
  if displayNameLe collation left.1 right.1 ∧ displayNameLe collation right.1 left.1 then
    collation left.2 right.2
  else
    displayNameLe collation left.1 right.1

def listObservedTenantUsers (collation : String → String → Bool) :
    PilotTransaction (List (TenantUser × TenantUserProfile)) := do
  let rows ← get
  let users := rows.store.users.entries.filterMap fun e =>
    (rows.profiles.find? e.1).map fun profile => (e.2, profile)
  let name (e : TenantUser × TenantUserProfile) := (e.2.displayName, e.1.stripeUserId)
  pure <| users.insertionSort fun left right => observedUserLe collation (name left) (name right)

end PilotRepository

namespace PilotPrismaRepository

open PilotRepository

variable (options : PilotPrismaRepositoryOptions) (fieldKeyring : FieldEncryptionKeyring)
  (context : PilotTenantContext)

def requestResource (request : RefundRequest) : Except PilotFailure PilotPaymentResource :=
  match request.paymentIntentId, request.chargeId with
  | some id, _    => .ok ⟨id, .paymentIntent⟩
  | none, some id => .ok ⟨id, .charge⟩
  | none, none    => .error (.error .internalError 500 "A refund request has no payment resource.")

-- The justification for those who may read it.
def justificationOf (rows : PilotRows) (id : String) (isRequester : Bool) :
    Except PilotFailure (Option String) :=
  if isRequester ∨ context.actor.approverEnabled then
    match rows.justifications.find? id with
    | none           => .error .unexpected
    | some encrypted =>
      match fieldKeyring.decrypt encrypted {
          tenantId := context.tenantId
          table    := "refund_requests"
          entityId := id
          field    := "justification"
        } with
      | .error _          => .error .unexpected
      | .ok justification => .ok (some justification)
  else
    .ok none

def mapRequest (rows : PilotRows) (id : String) (detail : RefundRequestDetail)
    (requesterStripeUserId : String) : Except PilotFailure PilotRequestRecord := do
  let request := detail.request
  match request.chargeId with
  | none =>
    .error (.error .internalError 500 "A refund request has no Charge identifier.")
  | some chargeId =>
    let resource ← requestResource request
    let isRequester := decide (request.requesterUserId = context.actor.id)
    let alreadyDecided := detail.decisions.any (·.approverUserId = context.actor.id)
    let pending := decide (request.workflowStatus = .pendingApproval)
    let justification ← justificationOf fieldKeyring context rows id isRequester
    pure {
      amountMinor     := request.amountMinor
      canCancel       := isRequester && pending
      canDecide       := context.actor.approverEnabled && !isRequester && !alreadyDecided && pending
      createdAt       := isoText request.createdAt
      currency        := lowerCase request.currency
      expiresAt       := isoText request.expiresAt
      id
      isRequester
      justification
      reason          := request.reason
      requesterUserId := requesterStripeUserId
      resourceId      := resource.id
      resourceType    := resource.type
      status          := request.workflowStatus
      version         := request.version
      chargeId
      paymentIntentId := request.paymentIntentId
    }

def page {α : Type} (id : α → String) (items : List α) (requestedLimit : Nat) : PilotPage α where
  items      := items
  nextCursor := if items.length = requestedLimit then items.getLast?.map id else none

def repositoryScope : PilotListScope → RequestListScope
  | .myRequests         => .requester
  | .awaitingMyApproval => .awaitingApproval
  | .allActivity        => .all

-- The record of a request whose requester is known.
def recordOf (rows : PilotRows) (e : String × RefundRequestDetail) :
    Except PilotFailure PilotRequestRecord :=
  match rows.store.users.find? e.2.request.requesterUserId with
  | none           =>
    .error (.error .internalError 500 "A refund requester could not be resolved.")
  | some requester =>
    mapRequest fieldKeyring context rows e.1 e.2 requester.stripeUserId

def findActiveRequest (paymentKey : String) : PilotTransaction (Option PilotActiveRequest) := do
  let request ← getActiveRequestByPayment context.environment paymentKey
  pure <| request.map fun (id, detail) => {
    canCancel := detail.request.requesterUserId = context.actor.id ∧
      detail.request.workflowStatus = .pendingApproval ∧ detail.request.effectState = .notStarted
    id
    status    := detail.request.workflowStatus
  }

def listRefundRequests (scope : PilotListScope) (limit : Nat) (cursor : Option String) :
    PilotTransaction (PilotPage PilotRequestRecord) := do
  let requests ← PilotRepository.listRefundRequests {
    actorUserId := context.actor.id
    cursor
    limit
    scope       := repositoryScope scope
  }
  let rows ← get
  let mapped ← fromExcept (requests.mapM (recordOf fieldKeyring context rows))
  pure (page (·.id) mapped limit)

def getRefundRequest (requestId : String) : PilotTransaction (Option PilotRequestRecord) := do
  let rows ← get
  match rows.store.requests.find? requestId with
  | none        => pure none
  | some detail =>
    let record ← fromExcept (recordOf fieldKeyring context rows (requestId, detail))
    pure (some record)

def listExternalAlerts (limit : Nat) (cursor : Option String) :
    PilotTransaction (PilotPage PilotExternalAlert) := do
  let alerts ← listExternalRefundAlerts cursor limit
  let items := alerts.map fun (id, key, alert) => {
    acknowledged   := alert.status = .acknowledged
    amountMinor    := alert.amountMinor
    classification := alert.classification
    currency       := lowerCase alert.currency
    detectedAt     := isoText alert.detectedAt
    id
    refundId       := (ofLex key).2 : PilotExternalAlert
  }
  pure (page (·.id) items limit)

def getSettings : PilotTransaction PilotSettings := do
  let settings ← settingsOf options context
  let observed ← listObservedTenantUsers options.collation
  pure {
    approverUserIds     := settings.approvers.map (·.2.stripeUserId)
    onboardingCompleted := settings.installation.onboardingCompletedAt.isSome
    observedUsers       := observed.map fun (user, profile) => {
      stripeUserId    := user.stripeUserId
      displayName     := profile.displayName
      approverEnabled := user.approverEnabled
      lastSeenAt      := isoText profile.lastVerifiedAt
    }
  }

end PilotPrismaRepository
end RefundDesk
