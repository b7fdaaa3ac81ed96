import RefundDesk.Domain.ApprovalAttestation
import RefundDesk.Domain.Encryption
import RefundDesk.Domain.Instants
import RefundDesk.Platform.Ports
import RefundDesk.Repositories.Tenant

namespace RefundDesk

open Transaction

structure PilotAuditTokenPayload where
  actorId        : String
  environment    : StripeEnvironment
  expiresAt      : String
  installationId : String
  nonce          : String
  tenantId       : String

-- What the repository is built with: the origin of the application, the encryption of a field under
-- the active key with a given nonce, the signed text of an audit token, and the order that the
-- database has for texts.
structure PilotPrismaRepositoryOptions where
  appOrigin        : String
  encrypt          : String → FieldContext → String → EncryptedField
  createAuditToken : PilotAuditTokenPayload → String
  collation        : String → String → Bool

-- The clocks of the platform and of the database at a transaction, and the values that it draws.
structure Draw where
  now         : Timestamp
  databaseNow : Timestamp
  id          : String
  nonce       : String

structure TenantUserProfile where
  displayName    : Option String
  stripeRoles    : List StripeRole
  lastVerifiedAt : Timestamp

structure ApprovalPolicy where
  version               : Nat
  active                : Bool
  requiredApprovals     : Nat
  expiresAfterSeconds   : Int
  createdByStripeUserId : String

inductive AuditActorType
  | stripeUser
  | system
  | worker
  | webhook
  deriving DecidableEq, Repr

structure AuditEvent where
  actorType            : AuditActorType
  actorId              : Option String
  assertedStripeRoles  : Option (List StripeRole)
  action               : String
  entityType           : String
  entityId             : String
  payload              : List (String × CanonicalJsonValue)
  correlationRequestId : String
  occurredAt           : Timestamp

-- The columns of a decision that only the platform writes.
structure DecisionRecord where
  requestId           : String
  approverUserId      : String
  rejection           : Option EncryptedField
  stripeRolesSnapshot : List StripeRole

-- The rows of the tenant with those that only the platform uses: the profiles of the users, the
-- policies, when the installations were set up, the ids of the alerts, the justifications of the
-- requests, the rest of the decisions and the audit trail.
structure PilotRows where
  store          : Store
  profiles       : Table String TenantUserProfile
  policies       : List ApprovalPolicy
  onboarding     : Table String Timestamp
  alertIds       : Table String (String ×ₗ String)
  justifications : Table String EncryptedField
  decisions      : Table String DecisionRecord
  auditEvents    : List AuditEvent

abbrev PilotTransaction := Transaction PilotFailure PilotRows

def onStore {α : Type} (m : StoreTransaction α) : PilotTransaction α :=
  onField (·.store) (fun rows store => { rows with store }) .ofStore m

-- The methods of `TenantRepositories` that only the platform calls.
namespace PilotRepository

structure InstallationContext where
  installation          : StripeInstallation
  tenant                : Tenant
  onboardingCompletedAt : Option Timestamp

def getInstallationContext (installationId : String) :
    PilotTransaction (Option InstallationContext) := do
  let rows ← get
  pure <| (rows.store.installations.find? installationId).map fun installation => {
    installation
    tenant                := rows.store.tenant
    onboardingCompletedAt := rows.onboarding.find? installationId
  }

def getActiveApprovalPolicy : PilotTransaction (Option ApprovalPolicy) := do
  return (← get).policies.find? (·.active)

-- Users without a display name come last.
def displayNameLe (collation : String → String → Bool) : Option String → Option String → Bool
  | some left, some right => collation left right
  | none, some _          => false
  | _, none               => true

def listApprovers (collation : String → String → Bool) :
    PilotTransaction (List (String × TenantUser)) := do
  let rows ← get
  let displayName (id : String) := (rows.profiles.find? id).bind (·.displayName)
  pure <| (rows.store.users.entries.filter (·.2.approverEnabled)).insertionSort
    fun left right => displayNameLe collation (displayName left.1) (displayName right.1)

structure SettingsSnapshot where
  installation : InstallationContext
  activePolicy : Option ApprovalPolicy
  approvers    : List (String × TenantUser)

def getSettings (collation : String → String → Bool) (installationId : String) :
    PilotTransaction (Option SettingsSnapshot) := do
  let installation ← getInstallationContext installationId
  let activePolicy ← getActiveApprovalPolicy
  let approvers ← listApprovers collation
  pure (installation.map fun installation => { installation, activePolicy, approvers })

def countEligibleDistinctApprovers (requesterUserId : String) : PilotTransaction Nat := do
  return (← get).store.users.count fun id user => user.approverEnabled && id ≠ requesterUserId

def getActiveRequestByPayment (environment : StripeEnvironment) (paymentKey : String) :
    PilotTransaction (Option (String × RefundRequestDetail)) := do
  return (← get).store.requests.entries.find? fun e =>
    e.2.request.environment = environment ∧ e.2.request.paymentKey = paymentKey ∧
      e.2.request.paymentGuardReleasedAt = none

-- The new policy takes the place of the active one.
def createApprovalPolicy (createdByStripeUserId : String) : PilotTransaction Unit := do
  require (isStripeUserId createdByStripeUserId) .unexpected
  modify fun rows => { rows with
    policies := rows.policies.map (fun policy => { policy with active := false }) ++ [{
      version             := (rows.policies.map (·.version)).foldl max 0 + 1
      active              := true
      requiredApprovals   := 1
      expiresAfterSeconds := 604800
      createdByStripeUserId
    }]
  }

def completeOnboarding (installationId : String) (completedAt : Timestamp) :
    PilotTransaction Bool := do
  let rows ← get
  if (rows.store.installations.find? installationId).any (·.status = .active) then
    set { rows with onboarding := rows.onboarding.insert installationId completedAt }
    pure true
  else
    pure false

structure ObserveTenantUserInput where
  stripeUserId : String
  displayName  : Option String
  stripeRoles  : Option (List StripeRole)
  verifiedAt   : Timestamp

-- The profile that the upsert leaves.
def ObserveTenantUserInput.profile (input : ObserveTenantUserInput)
    (old : Option TenantUserProfile) : TenantUserProfile where
  displayName    := input.displayName.or (old.bind (·.displayName))
  stripeRoles    := input.stripeRoles.getD ((old.map (·.stripeRoles)).getD [])
  lastVerifiedAt := input.verifiedAt

-- An upsert under the Stripe id of the user. `id` is the key of a new row.
def observeTenantUser (id : String) (input : ObserveTenantUserInput) :
    PilotTransaction PilotActor := do
  let rows ← get
  match rows.store.users.entries.find? (·.2.stripeUserId = input.stripeUserId) with
  | some (userId, user) =>
    set { rows with
      profiles := rows.profiles.insert userId (input.profile (rows.profiles.find? userId))
    }
    pure { id := userId, approverEnabled := user.approverEnabled, stripeUserId := user.stripeUserId }
  | none =>
    require (isStripeUserId input.stripeUserId) .unexpected
    require ((rows.store.users.find? id).isNone) .uniqueConstraint
    let user : TenantUser := { stripeUserId := input.stripeUserId, approverEnabled := false }
    set { rows with
      store    := { rows.store with users := rows.store.users.insert id user }
      profiles := rows.profiles.insert id (input.profile none)
    }
    pure { id, approverEnabled := false, stripeUserId := input.stripeUserId }

def appendAuditEvent (event : AuditEvent) : PilotTransaction Unit := do
  require (isDatabaseUuid event.correlationRequestId) .unexpected
  modify fun rows => { rows with auditEvents := rows.auditEvents ++ [event] }

end PilotRepository
end RefundDesk
