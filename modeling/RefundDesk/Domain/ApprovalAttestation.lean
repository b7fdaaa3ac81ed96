import RefundDesk.Domain.RefundProof

namespace RefundDesk

-- The payload that an approval attestation signs.
structure ApprovalAttestationPayload where
  amountMinor           : Int
  approverStripeUserId  : String
  approverUserId        : String
  canonicalRequestHash  : String
  chargeId              : String
  consumeBefore         : Timestamp
  currency              : String
  environment           : StripeEnvironment
  expiresAt             : Timestamp
  installationId        : String
  paymentIntentId       : Option String
  paymentKey            : String
  policyVersion         : Nat
  reason                : RefundReason
  requestId             : String
  requesterStripeUserId : String
  requesterUserId       : String
  requestNonce          : String
  requestVersion        : Nat
  requiredApprovals     : Nat
  resourceId            : String
  resourceType          : ResourceType
  stripeAccountId       : String
  tenantId              : String
  verifiedAt            : Timestamp
  deriving DecidableEq, Repr

-- `^v[1-9]\d{0,8}$`
def isKeyVersion (version : String) : Bool :=
  match version.toList with
  | 'v' :: c :: cs => '1' ≤ c && c ≤ '9' && cs.length ≤ 8 && cs.all Char.isDigit
  | _              => false

-- `^acct_[A-Za-z0-9]+$`
def isStripeAccountId (id : String) : Bool :=
  match id.toList with
  | 'a' :: 'c' :: 'c' :: 't' :: '_' :: cs => isObjectIdSuffix cs
  | _                                     => false

-- `^usr_[A-Za-z0-9]+$`
def isStripeUserId (id : String) : Bool :=
  match id.toList with
  | 'u' :: 's' :: 'r' :: '_' :: cs => isObjectIdSuffix cs
  | _                              => false

-- `UUID_PATTERN`, which knows lower case only
def isCanonicalUuid (id : String) : Bool :=
  isUuidText id.toList &&
    (id.toList[14]?.any fun c => '1' ≤ c && c ≤ '8') &&
    (id.toList[19]?.any fun c => c ∈ ['8', '9', 'a', 'b'])

-- The instants whose ISO text has a year of four digits.
def isCanonicalInstant (time : Timestamp) : Bool :=
  -62167219200000 ≤ time ∧ time ≤ 253402300799999

namespace ApprovalAttestation

def ensure (p : Prop) [Decidable p] (message : String) : Except DomainError Unit :=
  if p then .ok () else .error ⟨.invalidApprovalAttestation, message⟩

def assertBoundedMatch (value : String) (pattern : String → Bool) (label : String)
    (maximumLength : Nat) : Except DomainError Unit :=
  ensure (value.length ≤ maximumLength ∧ pattern value)
    ("Invalid approval attestation " ++ label)

def assertCanonicalInstant (time : Timestamp) (label : String) : Except DomainError Unit :=
  ensure (isCanonicalInstant time) ("Invalid approval attestation " ++ label)

-- The fields of the canonical text of a payload, in their order. The hash of the request is given
-- by its hexadecimal text, and an instant by its milliseconds.
def canonicalPayload (payload : ApprovalAttestationPayload) :
    Except DomainError (List (Option String)) := do
  ensure (payload.canonicalRequestHash.length = 64)
    "The canonical request hash must contain exactly 32 bytes"
  assertBoundedMatch payload.requestNonce isCanonicalUuid "request nonce" 36
  assertBoundedMatch payload.tenantId isCanonicalUuid "tenant identifier" 36
  assertBoundedMatch payload.installationId isCanonicalUuid "installation identifier" 36
  assertBoundedMatch payload.requestId isCanonicalUuid "request identifier" 36
  assertBoundedMatch payload.stripeAccountId isStripeAccountId "Stripe account" 255
  assertBoundedMatch payload.approverUserId isCanonicalUuid "approver user identifier" 36
  assertBoundedMatch payload.requesterUserId isCanonicalUuid "requester user identifier" 36
  ensure (payload.approverUserId ≠ payload.requesterUserId)
    "The internal approver must be distinct from the requester"
  assertBoundedMatch payload.approverStripeUserId isStripeUserId "approver" 255
  assertBoundedMatch payload.requesterStripeUserId isStripeUserId "requester" 255
  ensure (payload.approverStripeUserId ≠ payload.requesterStripeUserId)
    "The approver must be distinct from the requester"
  ensure payload.environment.isPilot
    "Approval attestations are limited to test and sandbox environments"
  match payload.resourceType with
  | .paymentIntent => assertBoundedMatch payload.resourceId isPaymentIntentId "PaymentIntent" 255
  | .charge        => assertBoundedMatch payload.resourceId isChargeId "Charge" 255
  assertBoundedMatch payload.paymentKey isPaymentKey "payment key" 255
  if let some paymentIntentId := payload.paymentIntentId then
    assertBoundedMatch paymentIntentId isPaymentIntentId "PaymentIntent snapshot" 255
  assertBoundedMatch payload.chargeId isChargeId "Charge snapshot" 255
  ensure (payload.paymentKey = payload.paymentIntentId.getD payload.chargeId)
    "The approval attestation payment key is inconsistent"
  ensure (
      (payload.resourceType = .paymentIntent → payload.paymentIntentId = some payload.resourceId) ∧
      (payload.resourceType = .charge → payload.resourceId = payload.chargeId))
    "The approval attestation resource snapshot is inconsistent"
  assertPositiveMinorAmount payload.amountMinor
  let currency ← normalizeCurrency payload.currency
  ensure (currency = payload.currency) "Approval attestation currency must be canonical lowercase"
  ensure (1 ≤ payload.policyVersion) "The approval policy version must be a positive integer"
  ensure (1 ≤ payload.requiredApprovals) "The required approval count must be a positive integer"
  assertCanonicalInstant payload.expiresAt "expiration instant"
  assertCanonicalInstant payload.verifiedAt "verification instant"
  assertCanonicalInstant payload.consumeBefore "consumption deadline"
  ensure (payload.verifiedAt < payload.consumeBefore ∧ payload.consumeBefore ≤ payload.expiresAt)
    "The approval attestation time window is inconsistent"
  pure [
    payload.canonicalRequestHash, payload.requestNonce, payload.tenantId, payload.installationId,
    payload.stripeAccountId, payload.environment.text, payload.resourceType.text,
    payload.resourceId, payload.requestId, toString payload.requestVersion, payload.approverUserId,
    payload.requesterUserId, payload.approverStripeUserId, payload.requesterStripeUserId,
    payload.paymentKey, payload.paymentIntentId, payload.chargeId, toString payload.amountMinor,
    currency, payload.reason.text, toString payload.policyVersion,
    toString payload.requiredApprovals, toString payload.expiresAt, toString payload.verifiedAt,
    toString payload.consumeBefore
  ]

end ApprovalAttestation

-- The keys of the attestations. `hmac` is the digest of the canonical fields under a key, behind the
-- domain separator.
structure ApprovalAttestationKeyring where
  hmac             : String → List (Option String) → String
  active           : VersionedSecret
  verificationOnly : List VersionedSecret
  versions         : ∀ secret ∈ active :: verificationOnly, isKeyVersion secret.version
  distinct         : ∀ secret ∈ verificationOnly, secret.version ≠ active.version

namespace ApprovalAttestationKeyring

open ApprovalAttestation

def rules : SecretRules where
  acceptsVersion := isKeyVersion
  acceptsLength  := (32 ≤ ·)
  invalidSecret  := ⟨.invalidApprovalAttestation,
    "Approval attestation keys require a vN version and at least 256 bits"⟩
  sharedVersion  := ⟨.invalidApprovalAttestation,
    "The active key cannot also be verification-only"⟩

def create (hmac : String → List (Option String) → String) (keys : SecretKeys) :
    Except DomainError ApprovalAttestationKeyring :=
  match h : rules.check keys with
  | .error e => .error e
  | .ok ()   => .ok {
      hmac
      active           := keys.active
      verificationOnly := keys.verificationSecrets
      versions         := fun secret hsecret => (rules.accepts_of_check h secret hsecret).1
      distinct         := rules.distinct_of_check h
    }

variable (keyring : ApprovalAttestationKeyring)

def key? (version : String) : Option String :=
  ((keyring.active :: keyring.verificationOnly).find? (·.version = version)).map (·.key)

-- The version and the digest of the token.
def sign (payload : ApprovalAttestationPayload) : Except DomainError (String × String) := do
  let fields ← canonicalPayload payload
  pure (keyring.active.version, keyring.hmac keyring.active.key fields)

-- The caller of `verify` takes an error for a refusal.
def verify (payload : ApprovalAttestationPayload) (version digest : String) : Bool :=
  match keyring.key? version, canonicalPayload payload with
  | some key, .ok fields => digest = keyring.hmac key fields
  | _, _                 => false

variable {keyring} {hmac : String → List (Option String) → String} {keys : SecretKeys}

theorem create_of_check (h : rules.check keys = .ok ()) :
    ∃ keyring, create hmac keys = .ok keyring ∧ keyring.hmac = hmac ∧
      keyring.active = keys.active ∧ keyring.key? = keys.key? := by
  unfold create
  split
  case h_1 e he => exact absurd (h.symm.trans he) (by simp)
  case h_2 h    => exact ⟨_, rfl, rfl, rfl, funext fun version => rfl⟩

theorem verify_of_sign {reader : ApprovalAttestationKeyring} {payload : ApprovalAttestationPayload}
    {token : String × String} (hhmac : reader.hmac = keyring.hmac)
    (hkey : reader.key? keyring.active.version = some keyring.active.key)
    (h : keyring.sign payload = .ok token) : reader.verify payload token.1 token.2 := by
  unfold sign at h
  cases hfields : canonicalPayload payload with
  | error e   => simp [hfields, bind, Except.bind] at h
  | ok fields =>
    obtain rfl : (keyring.active.version, keyring.hmac keyring.active.key fields) = token := by
      simpa [hfields, bind, Except.bind, pure, Except.pure] using h
    simp [verify, hkey, hfields, hhmac]

end ApprovalAttestationKeyring
end RefundDesk
