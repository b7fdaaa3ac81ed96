import RefundDesk.Domain.RefundProof

namespace RefundDesk

structure FieldContext where
  tenantId : String
  table    : String
  entityId : String
  field    : String

structure EncryptedField where
  algorithm         : String
  keyVersion        : String
  nonce             : String
  ciphertext        : String
  authenticationTag : String
  deriving DecidableEq, Repr

-- AES-256-GCM under a key of 32 bytes: the ciphertext and the tag of a text under a nonce of 12
-- bytes and authenticated fields, and the text that they open to.
structure AesGcm where
  cipher          : String → List Base64Url.Octet → List String → String →
    List Base64Url.Octet × List Base64Url.Octet
  decipher        : String → List Base64Url.Octet → List String → List Base64Url.Octet →
    List Base64Url.Octet → Option String
  decipher_cipher : ∀ key nonce fields plaintext, byteLength key = 32 → nonce.length = 12 →
    decipher key nonce fields (cipher key nonce fields plaintext).1
      (cipher key nonce fields plaintext).2 = some plaintext

abbrev FieldNonce := { nonce : List Base64Url.Octet // nonce.length = 12 }

def FieldContext.aad (context : FieldContext) : Except DomainError (List String) :=
  let fields := [context.tenantId, context.table, context.entityId, context.field]
  if "" ∈ fields then
    .error ⟨.invalidEncryptionKey, "Tenant and field type are required as authenticated context"⟩
  else
    .ok fields

def FieldEncryptionKeyring.rules : SecretRules where
  acceptsVersion := isSecretVersion
  acceptsLength  := (· = 32)
  invalidSecret  := ⟨.invalidEncryptionKey,
    "AES-256-GCM keys must be exactly 32 bytes and use a vN version"⟩
  sharedVersion  := ⟨.invalidEncryptionKey, "The active key cannot also be decrypt-only"⟩

structure FieldEncryptionKeyring where
  aes     : AesGcm
  keys    : SecretKeys
  checked : FieldEncryptionKeyring.rules.check keys = .ok ()

namespace FieldEncryptionKeyring

def create (aes : AesGcm) (keys : SecretKeys) : Except DomainError FieldEncryptionKeyring :=
  match checked : rules.check keys with
  | .error e => .error e
  | .ok ()   => .ok { aes, keys, checked }

variable (keyring : FieldEncryptionKeyring)

def encrypt (plaintext : String) (context : FieldContext) (nonce : FieldNonce) :
    Except DomainError EncryptedField := do
  let fields ← context.aad
  let sealed := keyring.aes.cipher keyring.keys.active.key nonce.val fields plaintext
  pure {
    algorithm         := "aes-256-gcm"
    keyVersion        := keyring.keys.active.version
    nonce             := Base64Url.encode nonce.val
    ciphertext        := Base64Url.encode sealed.1
    authenticationTag := Base64Url.encode sealed.2
  }

-- A context without one of its parts fails like a tag that does not match.
def decrypt (encrypted : EncryptedField) (context : FieldContext) : Except DomainError String :=
  if encrypted.algorithm ≠ "aes-256-gcm" then
    .error ⟨.invalidEncryptionKey, "Unsupported encryption algorithm"⟩
  else
    match keyring.keys.key? encrypted.keyVersion with
    | none     => .error ⟨.invalidEncryptionKey, "Encryption key version unavailable"⟩
    | some key =>
      let opened := context.aad.toOption.bind fun fields =>
        keyring.aes.decipher key (Base64Url.decode encrypted.nonce) fields
          (Base64Url.decode encrypted.ciphertext) (Base64Url.decode encrypted.authenticationTag)
      match opened with
      | none           => .error ⟨.invalidEncryptionKey, "Encrypted field authentication failed"⟩
      | some plaintext => .ok plaintext

variable {keyring} {aes : AesGcm} {keys : SecretKeys}

theorem create_of_check (h : rules.check keys = .ok ()) :
    ∃ keyring, create aes keys = .ok keyring ∧ keyring.aes = aes ∧ keyring.keys = keys := by
  unfold create
  split
  case h_1 e he => exact absurd (h.symm.trans he) (by simp)
  case h_2 h    => exact ⟨_, rfl, rfl, rfl⟩

theorem byteLength_active : byteLength keyring.keys.active.key = 32 := by
  have haccepts := (rules.accepts_of_check keyring.checked _ (List.mem_cons_self ..)).2
  exact of_decide_eq_true haccepts

theorem decrypt_of_encrypt {reader : FieldEncryptionKeyring} {plaintext : String}
    {context : FieldContext} {nonce : FieldNonce} {encrypted : EncryptedField}
    (haes : reader.aes = keyring.aes)
    (hkey : reader.keys.key? keyring.keys.active.version = some keyring.keys.active.key)
    (h : keyring.encrypt plaintext context nonce = .ok encrypted) :
    reader.decrypt encrypted context = .ok plaintext := by
  unfold encrypt at h
  cases hfields : context.aad with
  | error e   => simp [hfields, bind, Except.bind] at h
  | ok fields =>
    obtain rfl : _ = encrypted := by
      simpa only [hfields, bind, Except.bind, pure, Except.pure, Except.ok.injEq] using h
    have hopen := keyring.aes.decipher_cipher keyring.keys.active.key nonce.val fields plaintext
      keyring.byteLength_active nonce.property
    simp [decrypt, hkey, hfields, haes, Base64Url.decode_encode, Except.toOption, hopen]

end FieldEncryptionKeyring
end RefundDesk
