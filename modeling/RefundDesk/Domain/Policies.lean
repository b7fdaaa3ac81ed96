import RefundDesk.Domain.Types

namespace RefundDesk

inductive TenantStatus
  | active
  | suspended
  | deauthorized
  | pendingDeletion
  deriving DecidableEq, Repr

inductive InstallationStatus
  | active
  | suspended
  | deauthorized
  deriving DecidableEq, Repr

inductive StripeRoleType
  | builtIn
  | custom
  deriving DecidableEq, Repr

structure StripeRole where
  id   : Option String
  name : String
  type : StripeRoleType
  deriving DecidableEq, Repr

-- A role without an id is an older one, which is known by its name.
def isStripeAdministratorRole (role : StripeRole) : Bool :=
  match role.type, role.id with
  | .custom, _        => false
  | .builtIn, some id => id ∈ ["admin", "super_admin"]
  | .builtIn, none    => role.name ∈ ["Administrator", "Super Administrator"]

def hasStripeAdministratorRole (roles : List StripeRole) : Bool :=
  roles.any isStripeAdministratorRole

inductive AccessAction
  | onboarding
  | settings
  | createRefundRequest
  | decideRefundRequest
  | cancelRefundRequest
  | executeRefund
  | read
  | auditExport
  | reconcile
  | receiveWebhook
  deriving DecidableEq, Repr

inductive AccessDenialCode
  | tenantInactive
  | installationInactive
  | pilotLiveDisabled
  | adminRequired
  | explicitApproverRequired
  deriving DecidableEq, Repr

structure AccessContext where
  action             : AccessAction
  environment        : StripeEnvironment
  tenantStatus       : TenantStatus
  installationStatus : InstallationStatus
  signedStripeRoles  : List StripeRole
  explicitApprover   : Bool

def PilotAccessPolicy.authorize (context : AccessContext) : Except AccessDenialCode Unit :=
  if context.tenantStatus ≠ .active then
    .error .tenantInactive
  else if context.installationStatus ≠ .active then
    .error .installationInactive
  else if context.environment = .live then
    .error .pilotLiveDisabled
  else if context.action ∈ [.onboarding, .settings] ∧
      hasStripeAdministratorRole context.signedStripeRoles = false then
    .error .adminRequired
  else if context.action = .decideRefundRequest ∧ context.explicitApprover = false then
    .error .explicitApproverRequired
  else
    .ok ()

inductive IneligibilityCode
  | notPaid
  | notCaptured
  | disputed
  | connectUnsupported
  | paymentMethodUnsupported
  | cardPresentUnsupported
  | nothingRefundable
  | amountExceedsRemaining
  | currencyMismatch
  deriving DecidableEq, Repr

structure PaymentEligibilityInput where
  amountCaptured       : Int
  amountRefunded       : Int
  currency             : String
  paid                 : Bool
  captured             : Bool
  disputed             : Bool
  paymentMethodType    : Option String
  hasConnectSemantics  : Bool
  requestedAmountMinor : Option Int
  requestedCurrency    : Option String

structure EligiblePayment where
  currency       : String
  remainingMinor : Int

def remainingRefundableAmount (amountCaptured amountRefunded : Int) : Except DomainError Int :=
  if amountCaptured < 0 ∨ amountRefunded < 0 ∨ amountCaptured < amountRefunded then
    .error ⟨.invalidAmount, "Payment totals are inconsistent"⟩
  else
    .ok (amountCaptured - amountRefunded)

def assertRefundAmountWithinRemaining (amountMinor remainingMinor : Int) :
    Except DomainError Unit :=
  if amountMinor ≤ 0 then
    .error ⟨.invalidAmount, "Amount must be positive"⟩
  else if remainingMinor < 0 ∨ remainingMinor < amountMinor then
    .error ⟨.invalidAmount, "Amount exceeds the refundable balance"⟩
  else
    .ok ()

-- The outer error is one that the function throws, the inner one is an answer of it.
def evaluatePaymentEligibility (payment : PaymentEligibilityInput) :
    Except DomainError (Except IneligibilityCode EligiblePayment) :=
  if payment.paid = false then
    .ok (.error .notPaid)
  else if payment.captured = false then
    .ok (.error .notCaptured)
  else if payment.disputed then
    .ok (.error .disputed)
  else if payment.hasConnectSemantics then
    .ok (.error .connectUnsupported)
  else if payment.paymentMethodType = some "card_present" then
    .ok (.error .cardPresentUnsupported)
  else if payment.paymentMethodType ≠ some "card" then
    .ok (.error .paymentMethodUnsupported)
  else do
    let currency ← normalizeCurrency payment.currency
    let remainingMinor ← remainingRefundableAmount payment.amountCaptured payment.amountRefunded
    if remainingMinor = 0 then
      pure (.error .nothingRefundable)
    else
      let requestedCurrency ← payment.requestedCurrency.mapM normalizeCurrency
      if requestedCurrency.any (· ≠ currency) then
        pure (.error .currencyMismatch)
      else
        let withinRemaining (amountMinor : Int) : Bool :=
          (assertRefundAmountWithinRemaining amountMinor remainingMinor).isOk
        if payment.requestedAmountMinor.any fun amountMinor => withinRemaining amountMinor = false then
          pure (.error .amountExceedsRemaining)
        else
          pure (.ok { currency, remainingMinor })

end RefundDesk
