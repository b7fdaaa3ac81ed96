import Mathlib.Data.List.TakeDrop
import Mathlib.Data.String.Basic
import RefundDesk.Domain.Types
import RefundDesk.Library.Base64Url
import RefundDesk.Library.Table

namespace RefundDesk

-- The bytes of a key are given by their hexadecimal text.
structure VersionedSecret where
  version : String
  key     : String
  deriving DecidableEq, Repr

def byteLength (key : String) : Nat :=
  key.length / 2

-- `^v[1-9]\d*$`
def isSecretVersion (version : String) : Bool :=
  match version.toList with
  | 'v' :: c :: cs => '1' ≤ c && c ≤ '9' && cs.all Char.isDigit
  | _              => false

-- What the keyrings are built from: the active secret, and under their versions the keys that serve
-- to verify or to decrypt only.
structure SecretKeys where
  active           : VersionedSecret
  verificationOnly : Table String String

namespace SecretKeys

def verificationSecrets (keys : SecretKeys) : List VersionedSecret :=
  keys.verificationOnly.entries.map fun entry => ⟨entry.1, entry.2⟩

def secrets (keys : SecretKeys) : List VersionedSecret :=
  keys.active :: keys.verificationSecrets

def key? (keys : SecretKeys) (version : String) : Option String :=
  (keys.secrets.find? (·.version = version)).map (·.key)

@[simp]
theorem key?_active (keys : SecretKeys) : keys.key? keys.active.version = some keys.active.key := by
  simp [key?, secrets]

end SecretKeys

-- The secrets that a keyring takes, and how its constructor refuses the other ones.
structure SecretRules where
  acceptsVersion : String → Bool
  acceptsLength  : Nat → Bool
  invalidSecret  : DomainError
  sharedVersion  : DomainError

namespace SecretRules

variable (rules : SecretRules) {keys : SecretKeys}

def Accepts (secret : VersionedSecret) : Prop :=
  rules.acceptsVersion secret.version ∧ rules.acceptsLength (byteLength secret.key)

instance : DecidablePred rules.Accepts := fun secret =>
  inferInstanceAs
    (Decidable (rules.acceptsVersion secret.version ∧ rules.acceptsLength (byteLength secret.key)))

def validateSecret (secret : VersionedSecret) : Except DomainError Unit :=
  if rules.Accepts secret then .ok () else .error rules.invalidSecret

-- The checks of the constructors
def check (keys : SecretKeys) : Except DomainError Unit := do
  rules.validateSecret keys.active
  keys.verificationSecrets.forM fun secret => do
    rules.validateSecret secret
    if secret.version = keys.active.version then .error rules.sharedVersion else .ok ()

theorem validateSecret_eq_ok {secret : VersionedSecret} :
    rules.validateSecret secret = .ok () ↔ rules.Accepts secret := by
  unfold validateSecret
  split <;> simp_all

theorem check_eq_ok :
    rules.check keys = .ok () ↔
      rules.Accepts keys.active ∧ ∀ secret ∈ keys.verificationSecrets,
        rules.Accepts secret ∧ secret.version ≠ keys.active.version := by
  have hsecret (secret : VersionedSecret) :
      (do
        rules.validateSecret secret
        if secret.version = keys.active.version then .error rules.sharedVersion else .ok ())
        = .ok () ↔ rules.Accepts secret ∧ secret.version ≠ keys.active.version := by
    by_cases haccepts : rules.Accepts secret <;>
      by_cases hversion : secret.version = keys.active.version <;>
      simp [validateSecret, haccepts, hversion, bind, Except.bind]
  have hsecrets := forM_eq_ok (f := fun secret => do
    rules.validateSecret secret
    if secret.version = keys.active.version then .error rules.sharedVersion else .ok ())
    keys.verificationSecrets
  simp only [hsecret] at hsecrets
  unfold check
  rw [← hsecrets]
  by_cases haccepts : rules.Accepts keys.active <;>
    simp [validateSecret, haccepts, bind, Except.bind]

theorem accepts_of_check (h : rules.check keys = .ok ()) (secret : VersionedSecret)
    (hsecret : secret ∈ keys.secrets) : rules.Accepts secret := by
  have h := (rules.check_eq_ok).mp h
  rcases List.mem_cons.mp hsecret with rfl | hsecret
  · exact h.1
  · exact (h.2 secret hsecret).1

theorem distinct_of_check (h : rules.check keys = .ok ()) (secret : VersionedSecret)
    (hsecret : secret ∈ keys.verificationSecrets) : secret.version ≠ keys.active.version :=
  (((rules.check_eq_ok).mp h).2 secret hsecret).2

end SecretRules

structure RefundProofPayload where
  tenantId        : String
  stripeAccountId : String
  requestId       : String
  paymentKey      : String
  amountMinor     : Int
  currency        : String
  environment     : StripeEnvironment
  deriving DecidableEq, Repr

def canonicalProofPayload (payload : RefundProofPayload) : Except DomainError (List String) := do
  assertPositiveMinorAmount payload.amountMinor
  let currency ← normalizeCurrency payload.currency
  let fields := [
    payload.tenantId, payload.stripeAccountId, payload.requestId, payload.paymentKey,
    toString payload.amountMinor, currency, payload.environment.text
  ]
  if "" ∈ fields then .error ⟨.invalidProof, "Proof fields cannot be empty"⟩ else .ok fields

-- `^(v[1-9]\d*)\.([A-Za-z0-9_-]{43})$`
def parseProof (proof : String) : Option (String × String) :=
  match proof.toList.span (· ≠ '.') with
  | (version, '.' :: digest) =>
    if isSecretVersion (String.ofList version) ∧ digest.length = 43 ∧
        digest.all fun c => Base64Url.IsEncodedChar c then
      some (String.ofList version, String.ofList digest)
    else
      none
  | _ => none

theorem dot_notMem_of_isSecretVersion {version : String} (h : isSecretVersion version) :
    '.' ∉ version.toList := by
  unfold isSecretVersion at h
  split at h
  case h_2 => exact absurd h (by simp)
  case h_1 c cs heq =>
    simp only [Bool.and_eq_true, decide_eq_true_eq, List.all_eq_true] at h
    obtain ⟨⟨hlow, -⟩, hdigits⟩ := h
    intro hdot
    rw [heq] at hdot
    rcases List.mem_cons.mp hdot with h | hdot
    · exact absurd h (by decide)
    rcases List.mem_cons.mp hdot with rfl | hdot
    · exact absurd hlow (by decide)
    · exact absurd (hdigits '.' hdot) (by decide)

-- The versions have no dot, so that the first one ends the version.
theorem parseProof_eq_some {proof version digest : String} :
    parseProof proof = some (version, digest) ↔
      proof = version ++ "." ++ digest ∧ isSecretVersion version ∧ digest.toList.length = 43 ∧
        ∀ c ∈ digest.toList, Base64Url.IsEncodedChar c := by
  constructor
  · intro h
    unfold parseProof at h
    split at h
    case h_2 => cases h
    case h_1 before after hspan =>
      split_ifs at h with hchecks
      obtain ⟨rfl, rfl⟩ := Prod.mk.inj (Option.some.inj h)
      rw [List.span_eq_takeWhile_dropWhile] at hspan
      obtain ⟨hbefore, hafter⟩ := Prod.mk.inj hspan
      refine ⟨?_, hchecks.1, ?_, ?_⟩
      · have hsplit := List.takeWhile_append_dropWhile (p := (· ≠ '.')) (l := proof.toList)
        rw [hbefore, hafter] at hsplit
        rw [← String.toList_inj, ← hsplit]
        simp
      · rw [String.toList_ofList]
        exact hchecks.2.1
      · rw [String.toList_ofList]
        exact fun c hc => of_decide_eq_true (List.all_eq_true.mp hchecks.2.2 c hc)
  · rintro ⟨rfl, hversion, hlength, hchars⟩
    have hdot : ∀ c ∈ version.toList, decide (c ≠ '.') = true := by
      intro c hc
      rw [decide_eq_true_eq]
      rintro rfl
      exact dot_notMem_of_isSecretVersion hversion hc
    have hspan : (version ++ "." ++ digest).toList.span (· ≠ '.') =
        (version.toList, '.' :: digest.toList) := by
      rw [List.span_eq_takeWhile_dropWhile, String.toList_append, String.toList_append,
        List.append_assoc, List.takeWhile_append_of_pos hdot, List.dropWhile_append_of_pos hdot]
      simp
    have hall : digest.toList.all fun c => Base64Url.IsEncodedChar c :=
      List.all_eq_true.mpr fun c hc => decide_eq_true (hchars c hc)
    rw [parseProof, hspan]
    simp only [String.ofList_toList, hversion, hlength, hall, true_and, if_true]

theorem parseProof_token {version : String} {digest : List Base64Url.Octet}
    (hversion : isSecretVersion version) (hdigest : digest.length = 32) :
    parseProof (version ++ "." ++ Base64Url.encode digest) =
      some (version, Base64Url.encode digest) := by
  refine parseProof_eq_some.mpr ⟨rfl, hversion, ?_, ?_⟩
  · rw [Base64Url.length_encode, hdigest]
  · exact fun c hc => Base64Url.isEncodedChar_of_mem_encode hc

abbrev Sha256Digest := { digest : List Base64Url.Octet // digest.length = 32 }

def RefundProofKeyring.rules : SecretRules where
  acceptsVersion := isSecretVersion
  acceptsLength  := (32 ≤ ·)
  invalidSecret  := ⟨.invalidProof, "Proof keys require a vN version and at least 256 bits"⟩
  sharedVersion  := ⟨.invalidProof, "The active key cannot also be verification-only"⟩

-- The keys of the proofs. `hmac` is the digest of the canonical text of the fields under a key.
structure RefundProofKeyring where
  hmac    : String → List String → Sha256Digest
  keys    : SecretKeys
  checked : RefundProofKeyring.rules.check keys = .ok ()

namespace RefundProofKeyring

def create (hmac : String → List String → Sha256Digest) (keys : SecretKeys) :
    Except DomainError RefundProofKeyring :=
  match checked : rules.check keys with
  | .error e => .error e
  | .ok ()   => .ok { hmac, keys, checked }

variable (keyring : RefundProofKeyring)

def sign (payload : RefundProofPayload) : Except DomainError String := do
  let fields ← canonicalProofPayload payload
  pure (keyring.keys.active.version ++ "." ++
    Base64Url.encode (keyring.hmac keyring.keys.active.key fields).val)

def verify (payload : RefundProofPayload) (proof : String) : Except DomainError Bool :=
  match parseProof proof with
  | none => .ok false
  | some (version, encodedDigest) =>
    match keyring.keys.key? version with
    | none     => .ok false
    | some key => do
      let fields ← canonicalProofPayload payload
      pure (Base64Url.decode encodedDigest = (keyring.hmac key fields).val)

variable {keyring} {hmac : String → List String → Sha256Digest} {keys : SecretKeys}

theorem create_of_check (h : rules.check keys = .ok ()) :
    ∃ keyring, create hmac keys = .ok keyring ∧ keyring.hmac = hmac ∧ keyring.keys = keys := by
  unfold create
  split
  case h_1 e he => exact absurd (h.symm.trans he) (by simp)
  case h_2 h    => exact ⟨_, rfl, rfl, rfl⟩

theorem isSecretVersion_active : isSecretVersion keyring.keys.active.version :=
  (rules.accepts_of_check keyring.checked _ (List.mem_cons_self ..)).1

theorem verify_of_sign {reader : RefundProofKeyring} {payload : RefundProofPayload}
    {proof : String} (hhmac : reader.hmac = keyring.hmac)
    (hkey : reader.keys.key? keyring.keys.active.version = some keyring.keys.active.key)
    (h : keyring.sign payload = .ok proof) : reader.verify payload proof = .ok true := by
  unfold sign at h
  cases hfields : canonicalProofPayload payload with
  | error e   => simp [hfields, bind, Except.bind] at h
  | ok fields =>
    obtain rfl : _ = proof := by
      simpa only [hfields, bind, Except.bind, pure, Except.pure, Except.ok.injEq] using h
    have hparse := parseProof_token keyring.isSecretVersion_active
      (keyring.hmac keyring.keys.active.key fields).property
    simp [verify, hparse, hkey, hfields, hhmac, Base64Url.decode_encode, bind, Except.bind, pure,
      Except.pure]

end RefundProofKeyring

inductive RefundEvidenceClassification
  | external
  | tampered
  | workflowCandidate
  | workflowRefund
  | proofReplay
  deriving DecidableEq, Repr

structure RefundEvidence where
  candidateRefundId : String
  metadataRequestId : Option String
  metadataProof     : Option String
  expectedRequestId : String
  proofValid        : Bool
  linkedRefundId    : Option String

def classifyRefundEvidence (evidence : RefundEvidence) : RefundEvidenceClassification :=
  if evidence.metadataRequestId = none ∨ evidence.metadataProof = none then
    .external
  else if evidence.metadataRequestId ≠ some evidence.expectedRequestId ∨ ¬evidence.proofValid then
    .tampered
  else
    match evidence.linkedRefundId with
    | none                => .workflowCandidate
    | some linkedRefundId =>
      if linkedRefundId = evidence.candidateRefundId then .workflowRefund else .proofReplay

-- The identifiers that `refundIdempotencyKey` accepts, in any case: a UUID of version 1 to 8 and
-- of the standard variant.
def isRequestId (id : String) : Bool :=
  let cs := (lowerCase id).toList
  isUuidText cs &&
    (cs[14]?.any fun c => '1' ≤ c && c ≤ '8') &&
    (cs[19]?.any fun c => c ∈ ['8', '9', 'a', 'b'])

def refundIdempotencyKey (requestId : String) : Except DomainError String :=
  if isRequestId requestId then
    .ok ("refunddesk:refund-request:" ++ lowerCase requestId ++ ":v1")
  else
    .error ⟨.invalidProof, "Invalid request identifier"⟩

inductive EventIdempotencyEvidence
  | absent
  | exact
  | mismatch
  deriving DecidableEq, Repr

inductive RefundCandidateDecision
  | alreadyLinked
  | proofReplay
  | linkExact
  | linkUnique
  | waitForCompleteScan
  | conflict
  deriving DecidableEq, Repr

structure RefundCandidateInput where
  linkedRefundId           : Option String
  candidateRefundId        : String
  eventIdempotencyEvidence : EventIdempotencyEvidence
  candidateCount           : Nat
  completeScan             : Bool
  scanCoversExecution      : Bool

-- The source throws a `RangeError` on a count below one; every caller passes `max(1, count)`.
def decideRefundCandidate (input : RefundCandidateInput) : RefundCandidateDecision :=
  match input.linkedRefundId with
  | some linkedRefundId =>
    if linkedRefundId = input.candidateRefundId then .alreadyLinked else .proofReplay
  | none =>
    if input.eventIdempotencyEvidence = .exact then .linkExact
    else if input.eventIdempotencyEvidence = .mismatch ∨ input.candidateCount > 1 then .conflict
    else if input.completeScan ∧ input.scanCoversExecution then .linkUnique
    else .waitForCompleteScan

end RefundDesk
