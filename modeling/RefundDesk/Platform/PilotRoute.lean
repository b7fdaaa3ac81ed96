import RefundDesk.Contracts.SignedEnvelope
import RefundDesk.Library.JsonIntegers

namespace RefundDesk

open Utf16 Json Contracts

variable {ν : Type}

inductive RouteResource
  | account
  | payment
  deriving DecidableEq, Repr

-- `resource` of the route of the operation in `PILOT_ROUTE_SPECS`
def PilotOperation.routeResource : PilotOperation → RouteResource
  | .paymentEligibility | .refundRequestCreate | .refundRequestGet | .refundRequestDecide
  | .refundRequestCancel => .payment
  | .contextSync | .refundRequestList | .externalAlertList | .externalAlertAcknowledge
  | .settingsGet | .settingsUpdate | .auditExport => .account

-- `path` of the route of the operation in `PILOT_ROUTE_SPECS`
def PilotOperation.path : PilotOperation → String
  | .contextSync              => "/api/v1/context/sync"
  | .paymentEligibility       => "/api/v1/payments/eligibility"
  | .refundRequestCreate      => "/api/v1/refund-requests/create"
  | .refundRequestList        => "/api/v1/refund-requests/list"
  | .refundRequestGet         => "/api/v1/refund-requests/get"
  | .refundRequestDecide      => "/api/v1/refund-requests/decide"
  | .refundRequestCancel      => "/api/v1/refund-requests/cancel"
  | .externalAlertList        => "/api/v1/external-alerts/list"
  | .externalAlertAcknowledge => "/api/v1/external-alerts/acknowledge"
  | .settingsGet              => "/api/v1/settings/get"
  | .settingsUpdate           => "/api/v1/settings/update"
  | .auditExport              => "/api/v1/audit/export"

inductive RouteFailure
  | signed (error : SignedExtensionRequestError)
  | rejected (code : PilotErrorCode)
  | rateLimited
  | attestation
  deriving DecidableEq, Repr

structure PilotRouteRequest where
  pathname        : String
  search          : String
  stripeSignature : Option Text
  rawText         : Text

structure PilotRouteIdentity where
  accountId     : Text
  environment   : StripeEnvironment
  roles         : List EnvelopeRole
  rolesAsserted : Bool
  userId        : Text
  deriving DecidableEq, Repr

-- The request that the service is given, but for the identifier of the response.
structure PilotRouteDispatch (ν : Type) where
  approvalAttestationId : Option Text
  canonicalRequestHash  : Text
  command               : Json ν
  identity              : PilotRouteIdentity
  mutation              : Bool
  operation             : PilotOperation
  requestNonce          : Text
  resource              : Option (ResourceType × Text)

-- What a route relies on: the check of the header of Stripe under the secrets of the worker, the
-- digest of a text, the rate limit, the attestation of an approval, and the numbers and the collation
-- of its process.
structure PilotRouteDependencies (ν : Type) where
  verifyHeader   : Text → Text → Bool
  sha256         : Text → Text
  admits         : (accountId : Text) → (environment : StripeEnvironment) → (mutation : Bool) → Bool
  attestApproval : Envelope → Except RouteFailure Text
  numbers        : JsonNumbers ν
  collation      : Collation

namespace PilotRoute

-- `MAX_SIGNED_BODY_BYTES`
def maxSignedBodyBytes : Nat :=
  32 * 1024

-- The bytes of the text in UTF-8. Half of a pair takes as many as what replaces it.
def byteCount : Text → Nat
  | []             => 0
  | [u]            => if u < 0x80 then 1 else if u < 0x800 then 2 else 3
  | u :: v :: rest =>
    if isLead u && isTrail v then 4 + byteCount rest
    else (if u < 0x80 then 1 else if u < 0x800 then 2 else 3) + byteCount (v :: rest)

def reject {α : Type} (code : PilotErrorCode) : Except RouteFailure α :=
  .error (.rejected code)

def assertRoute (operation : PilotOperation) (request : PilotRouteRequest) :
    Except RouteFailure Unit :=
  if request.pathname ≠ operation.path ∨ 0 < request.search.length then reject .routeMismatch
  else .ok ()

def hasUnits (start : String) (text : Text) : Bool :=
  (ofString start).isPrefixOf text

def paymentResource (type : ResourceType) (id : Text) : Except RouteFailure (ResourceType × Text) :=
  match type with
  | .charge        => if hasUnits "ch_" id then .ok (type, id) else reject .resourceMismatch
  | .paymentIntent => if hasUnits "pi_" id then .ok (type, id) else reject .resourceMismatch

def signedResource (operation : PilotOperation) (resource : EnvelopeResource) :
    Except RouteFailure (Option (ResourceType × Text)) :=
  match operation.routeResource, resource with
  | .account, .account         => .ok none
  | .payment, .payment type id => (paymentResource type id).map some
  | _, _                       => reject .resourceMismatch

-- The request is signed by a user of an account, in test mode.
def assertIdentity (envelope : Envelope) : Except RouteFailure Unit :=
  if hasUnits "acct_" envelope.accountId = false ∨ hasUnits "usr_" envelope.userId = false then
    reject .accountEnvironmentMismatch
  else if envelope.mode ≠ .test then
    reject .liveModeDisabled
  else
    .ok ()

def environmentOf (envelope : Envelope) : StripeEnvironment :=
  if envelope.isSandbox then .sandbox else .test

def identityOf (envelope : Envelope) : PilotRouteIdentity where
  accountId     := envelope.accountId
  environment   := environmentOf envelope
  roles         := envelope.stripeRoles.getD []
  rolesAsserted := envelope.stripeRoles.isSome
  userId        := envelope.userId

variable (dependencies : PilotRouteDependencies ν)

-- The command is the one that the signed text says, and no other text says it.
def signedCommand (operation : PilotOperation) (commandJson : Text) :
    Except RouteFailure (Json ν) :=
  match parseOperationCommand dependencies.numbers operation commandJson with
  | none         => reject .commandInvalid
  | some command =>
    match CanonicalJson.Contracts.canonicalJson dependencies.collation dependencies.numbers.format
        (command.map some) with
    | .error _ => reject .internalError
    | .ok text => if text ≠ commandJson then reject .envelopeNonCanonical else .ok command

def isApproval (operation : PilotOperation) (command : Json ν) : Bool :=
  operation = .refundRequestDecide ∧ text? "decision" command = some (ofString "approve")

def approvalAttestation (operation : PilotOperation) (envelope : Envelope) (command : Json ν) :
    Except RouteFailure (Option Text) :=
  if isApproval operation command then (dependencies.attestApproval envelope).map some
  else .ok none

def handlePilotRoute (operation : PilotOperation) (request : PilotRouteRequest) :
    Except RouteFailure (PilotRouteDispatch ν) := do
  assertRoute operation request
  if request.stripeSignature.all (· = []) then
    .error (.signed .signatureMissing)
  else if maxSignedBodyBytes < byteCount request.rawText then
    reject .requestTooLarge
  else
    let envelope ← (verifySignedExtensionRequest dependencies.numbers.format
      dependencies.verifyHeader request.rawText request.stripeSignature).mapError .signed
    assertIdentity envelope
    if dependencies.admits envelope.accountId (environmentOf envelope) operation.mutation = false then
      .error .rateLimited
    else if envelope.operation ≠ ofString (operationName operation) then
      reject .routeMismatch
    else
      let resource ← signedResource operation envelope.resource
      let command ← signedCommand dependencies operation envelope.commandJson
      let approvalAttestationId ← approvalAttestation dependencies operation envelope command
      pure {
        canonicalRequestHash := dependencies.sha256 request.rawText
        identity             := identityOf envelope
        mutation             := operation.mutation
        requestNonce         := envelope.requestNonce
        approvalAttestationId, command, operation, resource
      }

def payment? : EnvelopeResource → Option (ResourceType × Text)
  | .account         => none
  | .payment type id => some (type, id)

section Dispatched

variable {dependencies} {operation operation' : PilotOperation}
variable {request request' : PilotRouteRequest} {dispatch dispatch' : PilotRouteDispatch ν}
variable {envelope : Envelope} {command : Json ν} {resource : Option (ResourceType × Text)}

-- The route gives the service the request that the envelope says.
structure Dispatches (dependencies : PilotRouteDependencies ν) (operation : PilotOperation)
    (rawText : Text) (envelope : Envelope) (dispatch : PilotRouteDispatch ν) : Prop where
  conforms : envelope.Conforms
  text     : rawText = serializeSignedEnvelope dependencies.numbers.format envelope
  mode     : envelope.mode = .test
  named    : envelope.operation = ofString (operationName operation)
  resource : signedResource operation envelope.resource = .ok dispatch.resource
  command  : signedCommand dependencies operation envelope.commandJson = .ok dispatch.command
  request  : dispatch.canonicalRequestHash = dependencies.sha256 rawText ∧
    dispatch.identity = identityOf envelope ∧ dispatch.mutation = operation.mutation ∧
    dispatch.operation = operation ∧ dispatch.requestNonce = envelope.requestNonce

theorem assertIdentity_eq_ok : assertIdentity envelope = .ok () ↔
    hasUnits "acct_" envelope.accountId ∧ hasUnits "usr_" envelope.userId ∧
      envelope.mode = .test := by
  unfold assertIdentity reject
  split_ifs with hids hmode
  · rcases hids with hid | hid <;> simp [hid]
  · simp [hmode]
  · rw [not_or, Bool.not_eq_false, Bool.not_eq_false] at hids
    simp [hids, not_not.mp hmode]

theorem signedCommand_eq_ok {commandJson : Text} :
    signedCommand dependencies operation commandJson = .ok command ↔
      parseOperationCommand dependencies.numbers operation commandJson = some command ∧
        CanonicalJson.Contracts.canonicalJson dependencies.collation dependencies.numbers.format
          (command.map some) = .ok commandJson := by
  unfold signedCommand reject
  split
  case h_1 hparse => simp [hparse]
  case h_2 parsed hparse =>
    split
    case h_1 herror =>
      simp only [reduceCtorEq, hparse, Option.some.injEq, false_iff, not_and]
      rintro rfl htext
      rw [htext] at herror
      cases herror
    case h_2 text htext =>
      split_ifs with hcanonical
      · simp only [hparse, Option.some.injEq, false_iff, not_and]
        rintro rfl htext'
        exact hcanonical (Except.ok.inj (htext.symm.trans htext'))
      · rw [not_not] at hcanonical
        subst hcanonical
        simp only [Except.ok.injEq, hparse, Option.some.injEq, iff_self_and]
        rintro rfl
        exact htext

theorem dispatches_of_handlePilotRoute
    (h : handlePilotRoute dependencies operation request = .ok dispatch) :
    ∃ envelope, Dispatches dependencies operation request.rawText envelope dispatch := by
  simp only [handlePilotRoute, Except.bind_eq_ok] at h
  obtain ⟨-, -, h⟩ := h
  split_ifs at h with hmissing hlarge
  · cases h
  simp only [Except.bind_eq_ok, mapError_eq_ok] at h
  obtain ⟨envelope, hverified, ⟨⟩, hidentity, h⟩ := h
  split_ifs at h with hlimited hoperation
  · cases h
  simp only [Except.bind_eq_ok] at h
  obtain ⟨resource, hresource, command, hcommand, attestation, -, h⟩ := h
  obtain rfl := Except.ok.inj h
  cases hsignature : request.stripeSignature with
  | none           => simp [hsignature] at hmissing
  | some signature =>
    rw [hsignature] at hverified
    obtain ⟨-, -, hconforms, htext⟩ := verifySignedExtensionRequest_eq_ok.mp hverified
    exact ⟨envelope, hconforms, htext, (assertIdentity_eq_ok.mp hidentity).2.2,
      not_not.mp hoperation, hresource, hcommand, rfl, rfl, rfl, rfl, rfl⟩

theorem handlePilotRoute_of_conforms {signature : Text} {attestation : Option Text}
    (hroute : assertRoute operation request = .ok ())
    (hsignature : request.stripeSignature = some signature) (hpresent : signature ≠ [])
    (hsize : byteCount request.rawText ≤ maxSignedBodyBytes)
    (hverify : dependencies.verifyHeader request.rawText signature = true)
    (hadmits : dependencies.admits envelope.accountId (environmentOf envelope) operation.mutation)
    (hconforms : envelope.Conforms)
    (htext : request.rawText = serializeSignedEnvelope dependencies.numbers.format envelope)
    (hidentity : assertIdentity envelope = .ok ())
    (hoperation : envelope.operation = ofString (operationName operation))
    (hresource : signedResource operation envelope.resource = .ok resource)
    (hcommand : signedCommand dependencies operation envelope.commandJson = .ok command)
    (hattestation : approvalAttestation dependencies operation envelope command = .ok attestation) :
    handlePilotRoute dependencies operation request = .ok {
      approvalAttestationId := attestation
      canonicalRequestHash  := dependencies.sha256 request.rawText
      identity              := identityOf envelope
      mutation              := operation.mutation
      requestNonce          := envelope.requestNonce
      command, operation, resource
    } := by
  have hverified := verifySignedExtensionRequest_eq_ok.mpr ⟨hpresent, hverify, hconforms, htext⟩
  simp [handlePilotRoute, hroute, hsignature, hpresent, not_lt.mpr hsize, hverified, hidentity,
    hadmits, hoperation, hresource, hcommand, hattestation, Except.mapError, bind, Except.bind, pure,
    Except.pure]

theorem paymentResource_eq_ok {type : ResourceType} {id : Text} {payment : ResourceType × Text}
    (h : paymentResource type id = .ok payment) : payment = (type, id) := by
  cases type <;> dsimp only [paymentResource, reject] at h <;> split_ifs at h <;>
    exact (Except.ok.inj h).symm

theorem payment?_of_signedResource {signed : EnvelopeResource}
    (h : signedResource operation signed = .ok resource) : resource = payment? signed := by
  unfold signedResource reject at h
  split at h
  case h_1 => exact (Except.ok.inj h).symm
  case h_3 => cases h
  case h_2 type id _ =>
    cases hpayment : paymentResource type id with
    | error error => rw [hpayment] at h; cases h
    | ok payment  =>
      rw [hpayment, paymentResource_eq_ok hpayment] at h
      exact (Except.ok.inj h).symm

theorem payment?_injective {signed signed' : EnvelopeResource} (h : payment? signed = payment? signed') :
    signed = signed' := by
  cases signed <;> cases signed' <;> simp_all [payment?]

theorem identityOf_injective {envelope' : Envelope} (h : identityOf envelope = identityOf envelope') :
    envelope.accountId = envelope'.accountId ∧ envelope.isSandbox = envelope'.isSandbox ∧
      envelope.stripeRoles = envelope'.stripeRoles ∧ envelope.userId = envelope'.userId := by
  simp only [identityOf, PilotRouteIdentity.mk.injEq, environmentOf] at h
  obtain ⟨haccount, henvironment, hroles, hasserted, huser⟩ := h
  refine ⟨haccount, ?_, ?_, huser⟩
  · split_ifs at henvironment with hsandbox hsandbox' hsandbox'
    · rw [hsandbox, hsandbox']
    · rw [Bool.eq_false_of_not_eq_true hsandbox, Bool.eq_false_of_not_eq_true hsandbox']
  · cases hsigned : envelope.stripeRoles <;> cases hsigned' : envelope'.stripeRoles <;>
      simp_all

theorem operationName_injective (h : operationName operation = operationName operation') :
    operation = operation' := by
  cases operation <;> cases operation' <;> first | rfl | exact absurd h (by decide)

-- Routes with different secrets or at different times read a text in the same way.
theorem rawText_eq_iff_dispatch {dependencies' : PilotRouteDependencies ν}
    (h : handlePilotRoute dependencies operation request = .ok dispatch)
    (h' : handlePilotRoute dependencies' operation' request' = .ok dispatch')
    (hnumbers : dependencies.numbers = dependencies'.numbers)
    (hcollation : dependencies.collation = dependencies'.collation) :
    request.rawText = request'.rawText ↔
      dispatch.operation = dispatch'.operation ∧ dispatch.requestNonce = dispatch'.requestNonce ∧
        dispatch.command = dispatch'.command ∧ dispatch.identity = dispatch'.identity ∧
        dispatch.resource = dispatch'.resource := by
  obtain ⟨envelope, hsigned⟩ := dispatches_of_handlePilotRoute h
  obtain ⟨envelope', hsigned'⟩ := dispatches_of_handlePilotRoute h'
  obtain ⟨-, hidentity, -, hoperation, hnonce⟩ := hsigned.request
  obtain ⟨-, hidentity', -, hoperation', hnonce'⟩ := hsigned'.request
  have hcommand := signedCommand_eq_ok.mp hsigned.command
  have hcommand' := signedCommand_eq_ok.mp hsigned'.command
  rw [← hnumbers, ← hcollation] at hcommand'
  have hresource := payment?_of_signedResource hsigned.resource
  have hresource' := payment?_of_signedResource hsigned'.resource
  constructor
  · intro htext
    have hserialized := hsigned.text.symm.trans (htext.trans hsigned'.text)
    rw [← hnumbers] at hserialized
    obtain rfl := serializeSignedEnvelope_injective hsigned'.conforms hserialized
    have hname := ofString_inj.mp (hsigned.named.symm.trans hsigned'.named)
    obtain rfl := operationName_injective hname
    refine ⟨hoperation.trans hoperation'.symm, hnonce.trans hnonce'.symm, ?_,
      hidentity.trans hidentity'.symm, hresource.trans hresource'.symm⟩
    exact Option.some.inj (hcommand.1.symm.trans hcommand'.1)
  · rintro ⟨hsameOperation, hsameNonce, hsameCommand, hsameIdentity, hsameResource⟩
    obtain rfl : operation = operation' := by rw [← hoperation, hsameOperation, hoperation']
    have hids := identityOf_injective (hidentity.symm.trans (hsameIdentity.trans hidentity'))
    have hsigns : envelope.resource = envelope'.resource :=
      payment?_injective (hresource.symm.trans (hsameResource.trans hresource'))
    have hcommandJson : envelope.commandJson = envelope'.commandJson :=
      Except.ok.inj (hcommand.2.symm.trans (hsameCommand ▸ hcommand'.2))
    have henvelope : envelope = envelope' := by
      rw [Envelope.mk.injEq]
      exact ⟨hsigned.named.trans hsigned'.named.symm,
        hnonce.symm.trans (hsameNonce.trans hnonce'), hsigned.mode.trans hsigned'.mode.symm,
        hids.2.1, hsigns, hcommandJson, hids.2.2.1, hids.2.2.2, hids.1⟩
    rw [hsigned.text, hsigned'.text, henvelope, hnumbers]

end Dispatched

end PilotRoute

namespace Pilot

open PilotRoute

def integerNumbers : JsonNumbers Int where
  format           := integerFormat
  integer?         := some
  ofInteger        := id
  integer?_integer := fun _ _ => rfl

def routeDependencies : PilotRouteDependencies Int where
  verifyHeader   := fun _ signature => signature = ofString "signature"
  sha256         := id
  admits         := fun _ _ _ => true
  attestApproval := fun _ => .ok (ofString "attestation")
  numbers        := integerNumbers
  collation      := unitOrder

def settingsEnvelope (requestNonce : Text) : Envelope where
  operation    := ofString "settings.get"
  requestNonce := requestNonce
  mode         := .test
  isSandbox    := true
  resource     := .account
  commandJson  := ofString "\x7b\x7d"
  stripeRoles  := none
  userId       := ofString "usr_1"
  accountId    := ofString "acct_1"

def settingsRequest (requestNonce : Text) : PilotRouteRequest where
  pathname        := "/api/v1/settings/get"
  search          := ""
  stripeSignature := some (ofString "signature")
  rawText         := serializeSignedEnvelope integerFormat (settingsEnvelope requestNonce)

def firstNonce : Text :=
  ofString "10000000-0000-4000-8000-000000000001"

def secondNonce : Text :=
  ofString "10000000-0000-4000-8000-000000000002"

theorem settings_dispatched (requestNonce : Text) (h : matching isUuid requestNonce)
    (hsize : byteCount (settingsRequest requestNonce).rawText ≤ maxSignedBodyBytes) :
    ∃ dispatch, dispatch.requestNonce = requestNonce ∧
      handlePilotRoute routeDependencies .settingsGet (settingsRequest requestNonce) =
        .ok dispatch := by
  have hoperation : matching isOperationName (ofString "settings.get") := by decide +kernel
  have hlength : within 2 8192 (ofString "\x7b\x7d") := by decide +kernel
  have huser : matching isStripeUserId (ofString "usr_1") ∧ within 0 255 (ofString "usr_1") := by
    decide +kernel
  have haccount : matching isStripeAccountId (ofString "acct_1") ∧
      within 0 255 (ofString "acct_1") := by
    decide +kernel
  have hconforms : (settingsEnvelope requestNonce).Conforms :=
    ⟨hoperation, h, hlength, huser, haccount, trivial, by simp [settingsEnvelope]⟩
  have hcommand : signedCommand routeDependencies .settingsGet (ofString "\x7b\x7d") = .ok (.obj []) :=
    signedCommand_eq_ok.mpr ⟨rfl, rfl⟩
  have hverify : routeDependencies.verifyHeader (settingsRequest requestNonce).rawText
      (ofString "signature") = true := by
    simp [routeDependencies]
  exact ⟨_, rfl, handlePilotRoute_of_conforms rfl rfl (by decide +kernel) hsize hverify rfl
    hconforms rfl (assertIdentity_eq_ok.mpr ⟨by rfl, by rfl, rfl⟩) rfl rfl hcommand rfl⟩

theorem rawText_eq_iff_dispatch_settings :
    (settingsRequest firstNonce).rawText ≠ (settingsRequest secondNonce).rawText := by
  obtain ⟨dispatch, hnonce, h⟩ :=
    settings_dispatched firstNonce (by decide +kernel) (by decide +kernel)
  obtain ⟨dispatch', hnonce', h'⟩ :=
    settings_dispatched secondNonce (by decide +kernel) (by decide +kernel)
  intro htext
  have hdispatch := (rawText_eq_iff_dispatch h h' rfl rfl).mp htext
  have hsame := hnonce.symm.trans (hdispatch.2.1.trans hnonce')
  exact absurd hsame (by decide +kernel)

end Pilot
end RefundDesk
