import RefundDesk.Authority.CanonicalPayload
import RefundDesk.Domain.Instants
import RefundDesk.Domain.ProofTokens

namespace RefundDesk

open Utf16 ApprovalAttestation

-- The payload of an attestation as the source has it: the hash by its bytes, and the instants by
-- their texts.
structure AttestationPayload where
  canonicalRequestHash  : List Base64Url.Octet
  requestNonce          : String
  tenantId              : String
  installationId        : String
  stripeAccountId       : String
  environment           : StripeEnvironment
  resourceType          : ResourceType
  resourceId            : String
  requestId             : String
  requestVersion        : Int
  approverUserId        : String
  requesterUserId       : String
  approverStripeUserId  : String
  requesterStripeUserId : String
  paymentKey            : String
  paymentIntentId       : Option String
  chargeId              : String
  amountMinor           : Int
  currency              : String
  reason                : RefundReason
  policyVersion         : Int
  requiredApprovals     : Int
  expiresAt             : String
  verifiedAt            : String
  consumeBefore         : String
  deriving DecidableEq, Repr

namespace AttestationPayload

-- `Number.isSafeInteger`, and a lower bound
def isSafeFrom (least value : Int) : Prop :=
  least ≤ value ∧ value ≤ 9007199254740991

instance {least value : Int} : Decidable (isSafeFrom least value) :=
  inferInstanceAs (Decidable (least ≤ value ∧ value ≤ 9007199254740991))

def parseCanonicalInstant (value label : String) : Except DomainError Timestamp :=
  match parseCanonicalIsoInstant value with
  | some timestamp => .ok timestamp
  | none           =>
    .error ⟨.invalidApprovalAttestation, "Invalid approval attestation " ++ label⟩

def fields (payload : AttestationPayload) (currency : String) : List CanonicalField := [
  .text (Base64Url.encode payload.canonicalRequestHash), .text payload.requestNonce,
  .text payload.tenantId, .text payload.installationId, .text payload.stripeAccountId,
  .text payload.environment.text, .text payload.resourceType.text, .text payload.resourceId,
  .text payload.requestId, .integer payload.requestVersion, .text payload.approverUserId,
  .text payload.requesterUserId, .text payload.approverStripeUserId,
  .text payload.requesterStripeUserId, .text payload.paymentKey,
  payload.paymentIntentId.elim .null .text, .text payload.chargeId,
  .text (toString payload.amountMinor), .text currency, .text payload.reason.text,
  .integer payload.policyVersion, .integer payload.requiredApprovals, .text payload.expiresAt,
  .text payload.verifiedAt, .text payload.consumeBefore
]

def canonicalPayload (payload : AttestationPayload) : Except DomainError Text := do
  ensure (payload.canonicalRequestHash.length = 32)
    "The canonical request hash must contain exactly 32 bytes"
  assertBoundedMatch payload.requestNonce isCanonicalUuid "request nonce" 36
  assertBoundedMatch payload.tenantId isCanonicalUuid "tenant identifier" 36
  assertBoundedMatch payload.installationId isCanonicalUuid "installation identifier" 36
  assertBoundedMatch payload.requestId isCanonicalUuid "request identifier" 36
  ensure (isSafeFrom 0 payload.requestVersion)
    "The approval attestation request version must be a non-negative integer"
  assertBoundedMatch payload.stripeAccountId isStripeAccountId "Stripe account" 255
  assertBoundedMatch payload.approverUserId isCanonicalUuid "approver user identifier" 36
  assertBoundedMatch payload.requesterUserId isCanonicalUuid "requester user identifier" 36
  ensure (payload.approverUserId ≠ payload.requesterUserId)
    "The internal approver must be distinct from the requester"
  assertBoundedMatch payload.approverStripeUserId isStripeUserId "approver" 255
  assertBoundedMatch payload.requesterStripeUserId isStripeUserId "requester" 255
  ensure (payload.approverStripeUserId ≠ payload.requesterStripeUserId)
    "The approver must be distinct from the requester"
  ensure payload.environment.isPilot
    "Approval attestations are limited to test and sandbox environments"
  match payload.resourceType with
  | .paymentIntent => assertBoundedMatch payload.resourceId isPaymentIntentId "PaymentIntent" 255
  | .charge        => assertBoundedMatch payload.resourceId isChargeId "Charge" 255
  assertBoundedMatch payload.paymentKey isPaymentKey "payment key" 255
  if let some paymentIntentId := payload.paymentIntentId then
    assertBoundedMatch paymentIntentId isPaymentIntentId "PaymentIntent snapshot" 255
  assertBoundedMatch payload.chargeId isChargeId "Charge snapshot" 255
  ensure (payload.paymentKey = payload.paymentIntentId.getD payload.chargeId)
    "The approval attestation payment key is inconsistent"
  ensure (
      (payload.resourceType = .paymentIntent → payload.paymentIntentId = some payload.resourceId) ∧
      (payload.resourceType = .charge → payload.resourceId = payload.chargeId))
    "The approval attestation resource snapshot is inconsistent"
  assertPositiveMinorAmount payload.amountMinor
  let currency ← normalizeCurrency payload.currency
  ensure (currency = payload.currency) "Approval attestation currency must be canonical lowercase"
  ensure (isSafeFrom 1 payload.policyVersion)
    "The approval policy version must be a positive integer"
  ensure (isSafeFrom 1 payload.requiredApprovals)
    "The required approval count must be a positive integer"
  let expiresAt ← parseCanonicalInstant payload.expiresAt "expiration instant"
  let verifiedAt ← parseCanonicalInstant payload.verifiedAt "verification instant"
  let consumeBefore ← parseCanonicalInstant payload.consumeBefore "consumption deadline"
  ensure (verifiedAt < consumeBefore ∧ consumeBefore ≤ expiresAt)
    "The approval attestation time window is inconsistent"
  pure (stringifyFields (payload.fields currency))

variable {p q : AttestationPayload} {text : Text}

theorem currency_of_canonicalPayload (h : p.canonicalPayload = .ok text) :
    text = stringifyFields (p.fields p.currency) := by
  unfold canonicalPayload at h
  cases hr : p.resourceType <;> cases hp : p.paymentIntentId <;>
    simp only [hr, hp, assertBoundedMatch, Except.bind_eq_ok, ensure_eq_ok, exists_const, pure,
      Except.pure, Except.ok.injEq] at h <;>
    grind

theorem fields_injective (h : p.fields p.currency = q.fields q.currency) : p = q := by
  have hencode : Function.Injective Base64Url.encode :=
    Function.LeftInverse.injective Base64Url.decode_encode
  have hintent : Function.Injective fun intent : Option String =>
      intent.elim CanonicalField.null CanonicalField.text := by
    intro intent intent' h
    cases intent <;> cases intent' <;> simp_all
  simp only [fields, List.cons.injEq, CanonicalField.text.injEq, CanonicalField.integer.injEq,
    hencode.eq_iff, hintent.eq_iff, StripeEnvironment.text_injective.eq_iff,
    ResourceType.text_injective.eq_iff, RefundReason.text_injective.eq_iff,
    int_toString_injective.eq_iff, and_true] at h
  cases p
  cases q
  simp_all

-- The text of a payload that is valid is that of no other one.
theorem canonicalPayload_injective {text' : Text} (hp : p.canonicalPayload = .ok text)
    (hq : q.canonicalPayload = .ok text') : text = text' ↔ p = q := by
  constructor
  · intro htext
    rw [currency_of_canonicalPayload hp, currency_of_canonicalPayload hq] at htext
    exact fields_injective (stringifyFields_injective htext)
  · rintro rfl
    exact Except.ok.inj (hp.symm.trans hq)

end AttestationPayload

-- `^(v[1-9]\d{0,8})\.([A-Za-z0-9_-]{43})$`
def parseAttestation (token : String) : Option (String × String) :=
  (parseProof token).filter fun parsed => isKeyVersion parsed.1

-- The keys of the attestations. `hmac` is the digest of a text under a key, behind the domain
-- separator.
structure AttestationTokens where
  hmac    : String → Text → Sha256Digest
  keys    : SecretKeys
  checked : ApprovalAttestationKeyring.rules.check keys = .ok ()

namespace AttestationTokens

variable (keyring : AttestationTokens)

def digest (payload : AttestationPayload) (key : String) : Except DomainError Sha256Digest := do
  let text ← payload.canonicalPayload
  pure (keyring.hmac key text)

def sign (payload : AttestationPayload) : Except DomainError String := do
  let signature ← keyring.digest payload keyring.keys.active.key
  pure (keyring.keys.active.version ++ "." ++ Base64Url.encode signature.val)

def verify (payload : AttestationPayload) (token : String) : Except DomainError Bool :=
  match parseAttestation token with
  | none => .ok false
  | some (version, encodedDigest) =>
    match keyring.keys.key? version with
    | none     => .ok false
    | some key =>
      let supplied := Base64Url.decode encodedDigest
      if Base64Url.encode supplied ≠ encodedDigest then .ok false
      else do
        let expected ← keyring.digest payload key
        pure (supplied = expected.val)

variable {keyring} {reader : AttestationTokens} {hmac : String → Text → Sha256Digest}
  {texts : Set Text} {p q : AttestationPayload} {text text' : Text}
  {version version' token key : String}

theorem isSecretVersion_of_isKeyVersion (h : isKeyVersion version) : isSecretVersion version := by
  unfold isKeyVersion at h
  unfold isSecretVersion
  generalize version.toList = cs at h ⊢
  split at h
  case h_1 =>
    simp only [Bool.and_eq_true, decide_eq_true_eq] at h ⊢
    exact ⟨h.1.1, h.2⟩
  case h_2 => cases h

theorem parseAttestation_eq_some {encoded : String} :
    parseAttestation token = some (version, encoded) ↔
      token = version ++ "." ++ encoded ∧ isKeyVersion version ∧ encoded.toList.length = 43 ∧
        ∀ c ∈ encoded.toList, Base64Url.IsEncodedChar c := by
  rw [parseAttestation, Option.filter_eq_some_iff, parseProof_eq_some]
  constructor
  · intro h
    exact ⟨h.1.1, h.2, h.1.2.2⟩
  · intro h
    exact ⟨⟨h.1, isSecretVersion_of_isKeyVersion h.2.1, h.2.2⟩, h.2.1⟩

theorem isKeyVersion_of_key? (h : keyring.keys.key? version = some key) : isKeyVersion version := by
  unfold SecretKeys.key? at h
  obtain ⟨secret, hsecret, -⟩ := Option.map_eq_some_iff.mp h
  have hversion : secret.version = version := by simpa using List.find?_some hsecret
  have hmem := List.mem_of_find?_eq_some hsecret
  rw [← hversion]
  exact (ApprovalAttestationKeyring.rules.accepts_of_check keyring.checked secret hmem).1

theorem dot_notMem_of_isKeyVersion (h : isKeyVersion version) : '.' ∉ version.toList :=
  dot_notMem_of_isSecretVersion (isSecretVersion_of_isKeyVersion h)

theorem parseAttestation_token (hversion : isKeyVersion version) (signature : Sha256Digest) :
    parseAttestation (version ++ "." ++ Base64Url.encode signature.val) =
      some (version, Base64Url.encode signature.val) := by
  apply parseAttestation_eq_some.mpr
  refine ⟨rfl, hversion, ?_, fun c hc => Base64Url.isEncodedChar_of_mem_encode hc⟩
  rw [Base64Url.length_encode, signature.property]

theorem sign_eq_ok (hp : p.canonicalPayload = .ok text) :
    keyring.sign p = .ok (keyring.keys.active.version ++ "." ++
      Base64Url.encode (keyring.hmac keyring.keys.active.key text).val) := by
  simp [sign, digest, hp, bind, Except.bind, pure, Except.pure]

-- A text of which the bytes encode to it verifies for one digest.
theorem verify_parsed {encoded : String} (hp : p.canonicalPayload = .ok text)
    (hparse : parseAttestation token = some (version, encoded))
    (hkey : keyring.keys.key? version = some key) :
    keyring.verify p token = .ok true ↔
      encoded = Base64Url.encode (keyring.hmac key text).val := by
  simp only [verify, hparse, hkey, digest, hp, bind, Except.bind, pure, Except.pure]
  constructor
  · intro h
    split_ifs at h with hencoded
    case pos => cases h
    have hdecode : Base64Url.decode encoded = (keyring.hmac key text).val :=
      of_decide_eq_true (Except.ok.inj h)
    rw [← hdecode, Decidable.not_not.mp hencoded]
  · rintro rfl
    simp [Base64Url.decode_encode]

-- A token that verifies is a version that is held, and the digest under its key.
theorem verify_eq_true (hp : p.canonicalPayload = .ok text) :
    keyring.verify p token = .ok true ↔ ∃ version key, keyring.keys.key? version = some key ∧
      token = version ++ "." ++ Base64Url.encode (keyring.hmac key text).val := by
  constructor
  · intro h
    cases hparse : parseAttestation token with
    | none        => simp [verify, hparse] at h
    | some parsed =>
      obtain ⟨version, encoded⟩ := parsed
      cases hkey : keyring.keys.key? version with
      | none     => simp [verify, hparse, hkey] at h
      | some key =>
        have hencoded := (verify_parsed hp hparse hkey).mp h
        have htoken := (parseAttestation_eq_some.mp hparse).1
        exact ⟨version, key, hkey, by rw [htoken, hencoded]⟩
  · rintro ⟨version, key, hkey, rfl⟩
    have hparse := parseAttestation_token (isKeyVersion_of_key? hkey) (keyring.hmac key text)
    exact (verify_parsed hp hparse hkey).mpr rfl

-- A token names one version and one digest.
theorem token_inj {signature signature' : Sha256Digest} (hversion : isKeyVersion version)
    (hversion' : isKeyVersion version')
    (h : version ++ "." ++ Base64Url.encode signature.val =
      version' ++ "." ++ Base64Url.encode signature'.val) :
    version = version' ∧ signature = signature' := by
  have hparse := parseAttestation_token hversion signature
  rw [h, parseAttestation_token hversion'] at hparse
  have hparts := Prod.mk.inj (Option.some.inj hparse)
  have hdecode := congrArg Base64Url.decode hparts.2
  rw [Base64Url.decode_encode, Base64Url.decode_encode] at hdecode
  exact ⟨hparts.1.symm, Subtype.ext hdecode.symm⟩

-- A token of a version that is not held verifies for no payload, be it valid or not.
theorem verify_unknown {rest : String} (hdot : '.' ∉ version.toList)
    (hkey : keyring.keys.key? version = none) :
    keyring.verify p (version ++ "." ++ rest) = .ok false := by
  cases hparse : parseAttestation (version ++ "." ++ rest) with
  | none        => simp [verify, hparse]
  | some parsed =>
    obtain ⟨version', encoded⟩ := parsed
    have hparts := parseAttestation_eq_some.mp hparse
    have hversion := RefundProofKeyring.version_of_token hdot
      (dot_notMem_of_isKeyVersion hparts.2.1) hparts.1
    rw [hversion] at hkey
    simp [verify, hparse, hkey]

-- What a reader makes of a token of the keyring, when it holds the key that signed
theorem verify_sign_iff (hinj : HmacInjectiveOn hmac texts) (hkeyring : keyring.hmac = hmac)
    (hreader : reader.hmac = hmac) (hp : p.canonicalPayload = .ok text)
    (hq : q.canonicalPayload = .ok text') (htext : text ∈ texts) (htext' : text' ∈ texts)
    (hkey : reader.keys.key? keyring.keys.active.version = some keyring.keys.active.key)
    (hsign : keyring.sign p = .ok token) : reader.verify q token = .ok true ↔ p = q := by
  rw [sign_eq_ok hp, Except.ok.injEq] at hsign
  rw [← AttestationPayload.canonicalPayload_injective hp hq, verify_eq_true hq, ← hsign, hkeyring,
    hreader]
  have hactive := isKeyVersion_of_key? hkey
  constructor
  · intro h
    obtain ⟨version, key, hkey', htoken⟩ := h
    have hsame := token_inj hactive (isKeyVersion_of_key? hkey') htoken
    rw [← hsame.1, hkey, Option.some.injEq] at hkey'
    rw [hkey'] at hsame
    exact hinj key htext htext' hsame.2
  · intro h
    exact ⟨_, _, hkey, by rw [h]⟩

-- The one token of a payload under a version that is held
theorem verify_version_iff (hp : p.canonicalPayload = .ok text)
    (hkey : keyring.keys.key? version = some key) :
    (keyring.verify p token = .ok true ∧ ∃ rest, token = version ++ "." ++ rest) ↔
      token = version ++ "." ++ Base64Url.encode (keyring.hmac key text).val := by
  have hversion := isKeyVersion_of_key? hkey
  constructor
  · intro h
    obtain ⟨hverify, rest, hrest⟩ := h
    obtain ⟨version', key', hkey', htoken⟩ := (verify_eq_true hp).mp hverify
    have hsame := RefundProofKeyring.version_of_token (dot_notMem_of_isKeyVersion hversion)
      (dot_notMem_of_isKeyVersion (isKeyVersion_of_key? hkey')) (hrest.symm.trans htoken)
    rw [← hsame, hkey, Option.some.injEq] at hkey'
    rw [htoken, ← hsame, hkey']
  · intro h
    exact ⟨(verify_eq_true hp).mpr ⟨version, key, hkey, h⟩, _, h⟩

-- The tokens of the keyring tell the payloads apart, for the keyring itself and for every one that
-- holds the key later on. Under a version that is held one token verifies for a payload, and under
-- any other version none.
theorem attestation_tokens (hinj : HmacInjectiveOn hmac texts) (hkeyring : keyring.hmac = hmac)
    (hp : p.canonicalPayload = .ok text) (hq : q.canonicalPayload = .ok text')
    (htext : text ∈ texts) (htext' : text' ∈ texts) :
    (text = text' ↔ p = q) ∧
    (∃ token, keyring.sign p = .ok token ∧ (keyring.verify q token = .ok true ↔ p = q) ∧
      ∀ reader : AttestationTokens, reader.hmac = hmac →
        reader.keys.key? keyring.keys.active.version = some keyring.keys.active.key →
        (reader.verify q token = .ok true ↔ p = q)) ∧
    (∀ version key, keyring.keys.key? version = some key →
      ∃! token, keyring.verify p token = .ok true ∧ ∃ rest, token = version ++ "." ++ rest) ∧
    ∀ payload version rest, '.' ∉ version.toList → keyring.keys.key? version = none →
      keyring.verify payload (version ++ "." ++ rest) = .ok false := by
  have hsign : keyring.sign p = _ := sign_eq_ok hp
  have hactive := keyring.keys.key?_active
  refine ⟨AttestationPayload.canonicalPayload_injective hp hq, ⟨_, hsign, ?_, ?_⟩, ?_, ?_⟩
  · exact verify_sign_iff hinj hkeyring hkeyring hp hq htext htext' hactive hsign
  · intro reader hreader hkey
    exact verify_sign_iff hinj hkeyring hreader hp hq htext htext' hkey hsign
  · intro version key hkey
    have hone := (verify_version_iff hp hkey).mpr rfl
    exact ⟨_, hone, fun token htoken => (verify_version_iff hp hkey).mp htoken⟩
  · intro payload version rest hdot hkey
    exact verify_unknown hdot hkey

end AttestationTokens

namespace Pilot

open AttestationTokens

-- A digest that tells texts apart that begin differently
def openingDigest (_ : String) (text : Text) : Sha256Digest :=
  ⟨((text ++ List.replicate 32 0).take 32).map fun unit : CodeUnit => Base64Url.octet unit, by simp⟩

def attestationKeyring : AttestationTokens where
  hmac    := openingDigest
  keys    := {
    active           := { version := "v2", key := String.ofList (List.replicate 64 'b') }
    verificationOnly := .empty
  }
  checked := by rfl

def signedPayload (hash : Base64Url.Octet) (paymentIntentId : Option String) :
    AttestationPayload where
  canonicalRequestHash  := List.replicate 32 hash
  requestNonce          := "2db72dc2-4816-4f95-aa23-57357727e113"
  tenantId              := "5c66ba36-d4c2-444e-9186-582c8e6b0671"
  installationId        := "0f12622c-eb99-49b5-9940-d194098446af"
  stripeAccountId       := "acct_123"
  environment           := .sandbox
  resourceType          := .charge
  resourceId            := "ch_123"
  requestId             := "ca3872bc-01b8-4df3-b649-e81a22c31c5e"
  requestVersion        := 3
  approverUserId        := "48257283-e1c7-46f4-88aa-f9d621ae93df"
  requesterUserId       := "8c80aa09-dfc7-42e1-824c-b4c2585054cf"
  approverStripeUserId  := "usr_Approver"
  requesterStripeUserId := "usr_Requester"
  paymentKey            := paymentIntentId.getD "ch_123"
  paymentIntentId       := paymentIntentId
  chargeId              := "ch_123"
  amountMinor           := 500
  currency              := "eur"
  reason                := .requestedByCustomer
  policyVersion         := 2
  requiredApprovals     := 1
  expiresAt             := "2030-01-08T00:00:00.000Z"
  verifiedAt            := "2030-01-01T00:00:00.000Z"
  consumeBefore         := "2030-01-01T00:05:00.000Z"

def signedText (hash : Base64Url.Octet) (paymentIntentId : Option String) : Text :=
  stringifyFields ((signedPayload hash paymentIntentId).fields "eur")

theorem canonicalPayload_signed {hash : Base64Url.Octet} {paymentIntentId : Option String}
    (h : (signedPayload hash paymentIntentId).canonicalPayload.isOk) :
    (signedPayload hash paymentIntentId).canonicalPayload =
      .ok (signedText hash paymentIntentId) := by
  cases hp : (signedPayload hash paymentIntentId).canonicalPayload with
  | error e => simp [hp, Except.isOk, Except.toBool] at h
  | ok text => rw [AttestationPayload.currency_of_canonicalPayload hp, signedText, signedPayload]

def signedTexts : Set Text :=
  {text | text = signedText (Base64Url.octet 7) none ∨
    text = signedText (Base64Url.octet 9) "pi_123"}

theorem openingDigest_injectiveOn : HmacInjectiveOn openingDigest signedTexts := by
  have hne : openingDigest "" (signedText (Base64Url.octet 7) none) ≠
      openingDigest "" (signedText (Base64Url.octet 9) "pi_123") := by decide +kernel
  rintro key text (rfl | rfl) text' (rfl | rfl) h
  · rfl
  · exact absurd h hne
  · exact absurd h.symm hne
  · rfl

theorem attestation_tokens_attested :
    ∃ token, attestationKeyring.sign (signedPayload 7 none) = .ok token ∧
      (attestationKeyring.verify (signedPayload 9 "pi_123") token = .ok true ↔
        signedPayload 7 none = signedPayload 9 "pi_123") := by
  have hkeyring : attestationKeyring.hmac = openingDigest := rfl
  have hcharge : (signedPayload 7 none).canonicalPayload.isOk := by decide +kernel
  have hintent : (signedPayload 9 "pi_123").canonicalPayload.isOk := by decide +kernel
  have htokens := attestation_tokens openingDigest_injectiveOn hkeyring
    (canonicalPayload_signed hcharge) (canonicalPayload_signed hintent) (.inl rfl) (.inr rfl)
  obtain ⟨token, hsign, hverify, -⟩ := htokens.2.1
  exact ⟨token, hsign, hverify⟩

end Pilot
end RefundDesk
