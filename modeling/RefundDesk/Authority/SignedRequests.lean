import RefundDesk.Authority.Attestations
import RefundDesk.Platform.Service

namespace RefundDesk

open Transaction Script

inductive SignedMode
  | live
  | test
  deriving DecidableEq, Repr

inductive SignedResource
  | account
  | payment (type : ResourceType) (id : String)
  deriving DecidableEq, Repr

-- The roles are there when the envelope asserts them.
structure SignedEnvelope where
  operation    : String
  requestNonce : String
  mode         : SignedMode
  isSandbox    : Bool
  resource     : SignedResource
  commandJson  : String
  stripeRoles  : Option (List StripeRole)
  userId       : String
  accountId    : String
  deriving DecidableEq, Repr

-- A `DecisionCommand` with the request that it decides.
structure SignedDecision where
  requestId : String
  decision  : DecisionCommand
  deriving DecidableEq, Repr

-- The pattern of `z.uuid`
def isUuid (id : String) : Bool :=
  isCanonicalUuid (lowerCase id) ||
    id ∈ ["00000000-0000-0000-0000-000000000000", "ffffffff-ffff-ffff-ffff-ffffffffffff"]

-- `^[a-z][a-z0-9_.-]{2,63}$`
def isOperationName (name : String) : Bool :=
  match name.toList with
  | []      => false
  | c :: cs => c.isLower && 2 ≤ cs.length && cs.length ≤ 63 &&
    cs.all fun c => c.isLower || c.isDigit || c ∈ ['_', '.', '-']

-- `^[a-z]+_[A-Za-z0-9]+$`
def isStripeId (id : String) : Bool :=
  match id.toList.span Char.isLower with
  | (_ :: _, '_' :: cs) => isObjectIdSuffix cs
  | _                   => false

-- `signedEnvelopeSchema`
def SignedEnvelope.conforms (envelope : SignedEnvelope) : Bool :=
  isOperationName envelope.operation && isUuid envelope.requestNonce &&
    2 ≤ envelope.commandJson.length && envelope.commandJson.length ≤ 8192 &&
    isStripeUserId envelope.userId && envelope.userId.length ≤ 255 &&
    isStripeAccountId envelope.accountId && envelope.accountId.length ≤ 255 &&
    (match envelope.resource with
      | .account      => true
      | .payment _ id => isStripeId id && id.length ≤ 255) &&
    envelope.stripeRoles.all fun roles => 1 ≤ roles.length && roles.length ≤ 32 &&
      roles.all fun role => 1 ≤ role.name.length && role.name.length ≤ 255 &&
        role.id.all fun id => 1 ≤ id.length && id.length ≤ 255

-- `approvalSnapshotSchema`
def ApprovalSnapshot.conforms (snapshot : ApprovalSnapshot) : Bool :=
  0 < snapshot.amountMinor && (toString snapshot.amountMinor).length ≤ 32 &&
    isCurrency snapshot.currency && isStripeUserId snapshot.requesterUserId &&
    snapshot.requesterUserId.length ≤ 255

-- `decisionCommandSchema`, whose justification is trimmed
def SignedDecision.conforms (command : SignedDecision) : Bool :=
  isUuid command.requestId &&
    match command.decision with
    | .approve version snapshot => version ≤ 9007199254740991 && snapshot.conforms
    | .reject justification     => 10 ≤ justification.length && justification.length ≤ 2000

inductive WorkerSignedRequestErrorCode
  | approvalConflict
  | approvalUnavailable
  | envelopeInvalid
  | liveForbidden
  | signatureInvalid
  | signatureMissing
  deriving DecidableEq, Repr

-- A `WorkerSignedRequestAuthorityError`, or what the authority does not translate into one.
inductive AuthorityFailure
  | refused (status : Nat) (code : WorkerSignedRequestErrorCode)
      (reason : Option ApprovalAttestationRejection)
  | unexpected
  deriving DecidableEq, Repr

inductive SignedExtensionRequestError
  | signatureMissing
  | signatureInvalid
  | envelopeInvalid
  deriving DecidableEq, Repr

-- A request as it arrives, with the times at which the authority looks at its clock.
structure SignedRequest where
  rawText         : String
  stripeSignature : Option String
  receivedAt      : Timestamp
  verifiedAt      : Timestamp
  deriving DecidableEq, Repr

-- What the authority asks of the database. Each call is a query or a transaction.
inductive AuthorityCall
  | resolveInstallation (accountId : String) (environment : StripeEnvironment)
  | persist (installationId : String) (input : PersistApprovalAttestationInput)

namespace AuthorityCall

def Value : AuthorityCall → Type
  | resolveInstallation _ _ => Option (String × InstallationStatus)
  | persist _ _             => PersistedApprovalAttestation

def Reply (call : AuthorityCall) : Type :=
  Except AttestationFailure call.Value

end AuthorityCall

abbrev AuthorityScript := Script AuthorityFailure AuthorityCall AuthorityCall.Reply

namespace AuthorityScript

def resolveInstallation (accountId : String) (environment : StripeEnvironment) :
    AuthorityScript (Except AttestationFailure (Option (String × InstallationStatus))) :=
  perform (AuthorityCall.resolveInstallation accountId environment)

def persist (installationId : String) (input : PersistApprovalAttestationInput) :
    AuthorityScript (Except AttestationFailure PersistedApprovalAttestation) :=
  perform (AuthorityCall.persist installationId input)

end AuthorityScript

structure WorkerSignedApprovalAttestation where
  approvalAttestationId : String
  canonicalRequestHash  : String
  envelope              : SignedEnvelope
  deriving DecidableEq, Repr

-- The signing secrets, the active one first, with what comes from libraries: the check of the header
-- of Stripe at a time, JSON, and the digest of a text as hexadecimal text.
structure StripeSignedRequestAuthority where
  signingSecrets : List String
  required       : signingSecrets ≠ []
  verifyHeader   : Timestamp → String → String → String → Bool
  parseEnvelope  : String → Option SignedEnvelope
  serialize      : SignedEnvelope → String
  parseDecision  : String → Option SignedDecision
  sha256         : String → String

namespace StripeSignedRequestAuthority

variable (authority : StripeSignedRequestAuthority)

def verifySignedExtensionRequest (request : SignedRequest) (signingSecret : String) :
    Except SignedExtensionRequestError SignedEnvelope :=
  match request.stripeSignature with
  | none           => .error .signatureMissing
  | some signature =>
    if signature.isEmpty then
      .error .signatureMissing
    else if authority.verifyHeader request.receivedAt request.rawText signature signingSecret = false
        then
      .error .signatureInvalid
    else
      match authority.parseEnvelope request.rawText with
      | none          => .error .envelopeInvalid
      | some envelope =>
        if envelope.conforms = false ∨ authority.serialize envelope ≠ request.rawText then
          .error .envelopeInvalid
        else
          .ok envelope

-- Only an invalid signature depends on the secret.
def verifyWith (request : SignedRequest) : List String → Except AuthorityFailure SignedEnvelope
  | []                => .error (.refused 401 .signatureInvalid none)
  | secret :: secrets =>
    match authority.verifySignedExtensionRequest request secret with
    | .ok envelope             => .ok envelope
    | .error .signatureInvalid => verifyWith request secrets
    | .error .signatureMissing => .error (.refused 401 .signatureMissing none)
    | .error .envelopeInvalid  => .error (.refused 400 .envelopeInvalid none)

-- The hash of the exact text and the envelope.
def verifyExact (request : SignedRequest) : Except AuthorityFailure (String × SignedEnvelope) := do
  let envelope ← authority.verifyWith request authority.signingSecrets
  if envelope.mode ≠ .test then
    .error (.refused 403 .liveForbidden none)
  else
    .ok (authority.sha256 request.rawText, envelope)

def parseOperationCommand (commandJson : String) : Except AuthorityFailure SignedDecision :=
  match authority.parseDecision commandJson with
  | none         => .error (.refused 400 .envelopeInvalid none)
  | some command =>
    if command.conforms then .ok command else .error (.refused 400 .envelopeInvalid none)

-- What `attestApproval` persists for a verified envelope.
def attestationInput (request : SignedRequest) (canonicalRequestHash : String)
    (envelope : SignedEnvelope) : Except AuthorityFailure PersistApprovalAttestationInput :=
  if envelope.operation ≠ "refund_request.decide" then
    .error (.refused 400 .envelopeInvalid none)
  else do
    let command ← authority.parseOperationCommand envelope.commandJson
    match command.decision, envelope.resource with
    | .approve expectedRequestVersion snapshot, .payment resourceType resourceId =>
      .ok {
        amountMinor            := snapshot.amountMinor
        approverStripeUserId   := envelope.userId
        currency               := snapshot.currency
        environment            := if envelope.isSandbox then .sandbox else .test
        reason                 := snapshot.reason
        requestId              := command.requestId
        requestNonce           := envelope.requestNonce
        requesterStripeUserId  := snapshot.requesterUserId
        signedEnvelopeHash     := canonicalRequestHash
        stripeAccountId        := envelope.accountId
        verifiedAt             := request.verifiedAt
        expectedRequestVersion, resourceId, resourceType
      }
    | _, _ => .error (.refused 400 .envelopeInvalid none)

end StripeSignedRequestAuthority

namespace PrismaWorkerStore

-- A key that was taken when the transaction ran is found when it runs once more.
def persistApprovalAttestation (input : PersistApprovalAttestationInput) :
    AuthorityScript (Except AttestationFailure PersistedApprovalAttestation) := do
  match ← AuthorityScript.resolveInstallation input.stripeAccountId input.environment with
  | .error failure                      => pure (.error failure)
  | .ok none                            => pure (.error (.invalid .installationNotActive))
  | .ok (some (installationId, status)) =>
    if status ≠ .active then
      pure (.error (.invalid .installationNotActive))
    else
      match ← AuthorityScript.persist installationId input with
      | .error .uniqueConstraint => AuthorityScript.persist installationId input
      | result                   => pure result

end PrismaWorkerStore

namespace StripeSignedRequestAuthority

variable (authority : StripeSignedRequestAuthority)

def refusal : AttestationFailure → AuthorityFailure
  | .refused .conflict reason       => .refused 409 .approvalConflict reason
  | .refused .invalid reason        => .refused 400 .envelopeInvalid reason
  | .refused .unavailable reason    => .refused 503 .approvalUnavailable reason
  | .uniqueConstraint | .unexpected => .unexpected

def attestApproval (request : SignedRequest) :
    AuthorityScript WorkerSignedApprovalAttestation := do
  let (canonicalRequestHash, envelope) ← fromExcept (authority.verifyExact request)
  let input ← fromExcept (authority.attestationInput request canonicalRequestHash envelope)
  match ← PrismaWorkerStore.persistApprovalAttestation input with
  | .error failure => throw (refusal failure)
  | .ok persisted  =>
    if persisted.signedEnvelopeHash ≠ canonicalRequestHash then
      throw (.refused 409 .approvalConflict none)
    else
      pure { approvalAttestationId := persisted.id, canonicalRequestHash, envelope }

end StripeSignedRequestAuthority
end RefundDesk
