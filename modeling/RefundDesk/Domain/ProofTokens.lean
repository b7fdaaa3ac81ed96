import RefundDesk.Domain.CanonicalTexts
import RefundDesk.Domain.RefundProof

namespace RefundDesk

open Utf16

section Fields

variable {p q : RefundProofPayload} {fields fields' : List String}

-- Two payloads agree on every field, up to how the currency is written.
structure RefundProofPayload.Agrees (p q : RefundProofPayload) : Prop where
  tenantId        : p.tenantId = q.tenantId
  stripeAccountId : p.stripeAccountId = q.stripeAccountId
  requestId       : p.requestId = q.requestId
  paymentKey      : p.paymentKey = q.paymentKey
  amountMinor     : p.amountMinor = q.amountMinor
  currency        : normalizeCurrency p.currency = normalizeCurrency q.currency
  environment     : p.environment = q.environment

theorem fields_of_canonicalProofPayload (h : canonicalProofPayload p = .ok fields) :
    ∃ currency, normalizeCurrency p.currency = .ok currency ∧
      fields = [p.tenantId, p.stripeAccountId, p.requestId, p.paymentKey, toString p.amountMinor,
        currency, p.environment.text] := by
  unfold canonicalProofPayload at h
  cases hpos : assertPositiveMinorAmount p.amountMinor with
  | error e => simp [hpos, bind, Except.bind] at h
  | ok _    =>
    cases hcurrency : normalizeCurrency p.currency with
    | error e     => simp [hpos, hcurrency, bind, Except.bind] at h
    | ok currency =>
      simp only [hpos, hcurrency, bind, Except.bind] at h
      split at h
      · cases h
      · exact ⟨currency, rfl, (Except.ok.inj h).symm⟩

theorem canonicalProofPayload_agrees (hp : canonicalProofPayload p = .ok fields)
    (hq : canonicalProofPayload q = .ok fields') : fields = fields' ↔ p.Agrees q := by
  obtain ⟨currency, hcurrency, rfl⟩ := fields_of_canonicalProofPayload hp
  obtain ⟨currency', hcurrency', rfl⟩ := fields_of_canonicalProofPayload hq
  simp only [List.cons.injEq, and_true]
  constructor
  · rintro ⟨htenant, haccount, hrequest, hpayment, hamount, rfl, henvironment⟩
    exact {
      tenantId        := htenant
      stripeAccountId := haccount
      requestId       := hrequest
      paymentKey      := hpayment
      amountMinor     := int_toString_injective hamount
      currency        := hcurrency.trans hcurrency'.symm
      environment     := StripeEnvironment.text_injective henvironment
    }
  · intro h
    have hsame := h.currency
    rw [hcurrency, hcurrency', Except.ok.injEq] at hsame
    exact ⟨h.tenantId, h.stripeAccountId, h.requestId, h.paymentKey,
      congrArg toString h.amountMinor, hsame, congrArg StripeEnvironment.text h.environment⟩

end Fields

namespace RefundProofKeyring

-- The text that is digested
def canonicalText (fields : List String) : Text :=
  stringifyFields (fields.map .text)

theorem canonicalText_injective : Function.Injective canonicalText := by
  intro fields fields' h
  refine List.map_injective_iff.mpr ?_ (stringifyFields_injective h)
  exact fun _ _ => CanonicalField.text.inj

-- The digest of the fields is that of their text.
def textDigest (hmac : String → Text → Sha256Digest) (key : String) (fields : List String) :
    Sha256Digest :=
  hmac key (canonicalText fields)

section Tokens

variable {keyring reader : RefundProofKeyring} {hmac : String → Text → Sha256Digest}
  {texts : Set Text} {p q : RefundProofPayload} {fields fields' : List String}
  {version version' proof key : String} {k : Fin 4}

theorem isSecretVersion_of_key? (h : keyring.keys.key? version = some key) :
    isSecretVersion version := by
  unfold SecretKeys.key? at h
  obtain ⟨secret, hsecret, -⟩ := Option.map_eq_some_iff.mp h
  have hversion : secret.version = version := by simpa using List.find?_some hsecret
  have hmem := List.mem_of_find?_eq_some hsecret
  rw [← hversion]
  exact (rules.accepts_of_check keyring.checked secret hmem).1

theorem parseProof_spelled (hversion : isSecretVersion version) (digest : Sha256Digest) :
    parseProof (version ++ "." ++ Base64Url.spelled k digest.val) =
      some (version, Base64Url.spelled k digest.val) := by
  refine parseProof_eq_some.mpr ⟨rfl, hversion, ?_, ?_⟩
  · rw [Base64Url.length_spelled, digest.property]
  · exact fun c hc => Base64Url.isEncodedChar_of_mem_spelled hc

-- A token that verifies is a spelling of the digest under a key that is held.
theorem verify_eq_true (hfields : canonicalProofPayload p = .ok fields) :
    keyring.verify p proof = .ok true ↔ ∃ version key k, keyring.keys.key? version = some key ∧
      proof = version ++ "." ++ Base64Url.spelled k (keyring.hmac key fields).val := by
  constructor
  · intro h
    unfold verify at h
    cases hparse : parseProof proof with
    | none        => simp [hparse] at h
    | some parsed =>
      obtain ⟨version, digest⟩ := parsed
      obtain ⟨rfl, hversion, hlength, hchars⟩ := parseProof_eq_some.mp hparse
      cases hkey : keyring.keys.key? version with
      | none     => simp [hparse, hkey] at h
      | some key =>
        simp only [hparse, hkey, hfields, bind, Except.bind, pure, Except.pure, Except.ok.injEq,
          decide_eq_true_eq] at h
        obtain ⟨k, rfl⟩ := (Base64Url.decode_eq_iff (by omega) hchars).mp h
        exact ⟨version, key, k, hkey, rfl⟩
  · rintro ⟨version, key, k, hkey, rfl⟩
    have hparse := parseProof_spelled (k := k) (isSecretVersion_of_key? hkey)
      (keyring.hmac key fields)
    have hlength := Base64Url.length_spelled k (keyring.hmac key fields).val
    rw [(keyring.hmac key fields).property] at hlength
    have hdecode := (Base64Url.decode_eq_iff (by omega)
      fun _ => Base64Url.isEncodedChar_of_mem_spelled).mpr
        ⟨k, Eq.refl (Base64Url.spelled k (keyring.hmac key fields).val)⟩
    simp only [verify, hparse, hkey, hfields, bind, Except.bind, pure, Except.pure, hdecode,
      decide_true]

-- A token names one version, and spells one digest.
theorem spelled_token_inj {k' : Fin 4} {digest digest' : Sha256Digest}
    (hversion : isSecretVersion version) (hversion' : isSecretVersion version')
    (h : version ++ "." ++ Base64Url.spelled k digest.val =
      version' ++ "." ++ Base64Url.spelled k' digest'.val) :
    version = version' ∧ k = k' ∧ digest = digest' := by
  have hparse := parseProof_spelled (k := k) hversion digest
  rw [h, parseProof_spelled hversion'] at hparse
  obtain ⟨rfl, hspelled⟩ := Prod.mk.inj (Option.some.inj hparse)
  have hlength (k : Fin 4) (digest : Sha256Digest) :
      (Base64Url.spelled k digest.val).toList.length % 4 = 3 := by
    rw [Base64Url.length_spelled, digest.property]
  have hdecode (k : Fin 4) (digest : Sha256Digest) :
      Base64Url.decode (Base64Url.spelled k digest.val) = digest.val :=
    (Base64Url.decode_eq_iff (hlength k digest)
      fun _ => Base64Url.isEncodedChar_of_mem_spelled).mpr ⟨k, rfl⟩
  have hdigest : digest.val = digest'.val := by rw [← hdecode k digest, ← hspelled, hdecode]
  rw [hdigest] at hspelled
  have hmod : digest'.val.length % 3 = 2 := by rw [digest'.property]
  exact ⟨rfl, (Base64Url.spelled_injective hmod hspelled).symm, Subtype.ext hdigest⟩

theorem sign_eq_ok (hfields : canonicalProofPayload p = .ok fields) :
    keyring.sign p = .ok (keyring.keys.active.version ++ "." ++
      Base64Url.spelled 0 (keyring.hmac keyring.keys.active.key fields).val) := by
  simp [sign, hfields, bind, Except.bind, pure, Except.pure, Base64Url.spelled_zero]

-- The active keys of the keyrings give the payload the same proof.
def SignsAlike (keyring reader : RefundProofKeyring) (payload : RefundProofPayload) : Prop :=
  ∃ fields, canonicalProofPayload payload = .ok fields ∧
    keyring.keys.active.version = reader.keys.active.version ∧
    keyring.hmac keyring.keys.active.key fields = reader.hmac reader.keys.active.key fields

theorem fields_of_sign (h : keyring.sign p = .ok proof) :
    ∃ fields, canonicalProofPayload p = .ok fields := by
  cases hfields : canonicalProofPayload p with
  | ok fields => exact ⟨fields, rfl⟩
  | error e   => simp [sign, hfields, bind, Except.bind] at h

-- A token shows the version of the key that signed it and the digest under it.
theorem signsAlike_iff {proof' : String} (h : keyring.sign p = .ok proof)
    (h' : reader.sign p = .ok proof') : proof = proof' ↔ keyring.SignsAlike reader p := by
  obtain ⟨fields, hfields⟩ := fields_of_sign h
  obtain rfl := Except.ok.inj ((sign_eq_ok hfields).symm.trans h)
  obtain rfl := Except.ok.inj ((sign_eq_ok hfields).symm.trans h')
  constructor
  · intro heq
    obtain ⟨hversion, -, hdigest⟩ := spelled_token_inj keyring.isSecretVersion_active
      reader.isSecretVersion_active heq
    exact ⟨fields, hfields, hversion, hdigest⟩
  · rintro ⟨fields', hfields', hversion, hdigest⟩
    obtain rfl := Except.ok.inj (hfields.symm.trans hfields')
    rw [hversion, hdigest]

-- The first dot of a token ends its version.
theorem version_of_token {rest rest' : String} (hdot : '.' ∉ version.toList)
    (hdot' : '.' ∉ version'.toList) (h : version ++ "." ++ rest = version' ++ "." ++ rest') :
    version = version' := by
  have htake (version rest : String) (hdot : '.' ∉ version.toList) :
      (version ++ "." ++ rest).toList.takeWhile (· ≠ '.') = version.toList := by
    have hall : ∀ c ∈ version.toList, decide (c ≠ '.') = true := by
      intro c hc
      rw [decide_eq_true_eq]
      rintro rfl
      exact hdot hc
    rw [String.toList_append, String.toList_append, List.append_assoc,
      List.takeWhile_append_of_pos hall]
    simp
  rw [← String.toList_inj, ← htake _ rest hdot, h, htake _ _ hdot']

-- The tokens of a payload under a version that is held are the four spellings of its digest.
theorem verify_version_iff (hfields : canonicalProofPayload p = .ok fields)
    (hkey : keyring.keys.key? version = some key) :
    (keyring.verify p proof = .ok true ∧ ∃ rest, proof = version ++ "." ++ rest) ↔
      ∃ k, proof = version ++ "." ++ Base64Url.spelled k (keyring.hmac key fields).val := by
  have hdot := dot_notMem_of_isSecretVersion (isSecretVersion_of_key? hkey)
  constructor
  · rintro ⟨hverify, rest, rfl⟩
    obtain ⟨version', key', k, hkey', htoken⟩ := (verify_eq_true hfields).mp hverify
    have hdot' := dot_notMem_of_isSecretVersion (isSecretVersion_of_key? hkey')
    obtain rfl := version_of_token hdot hdot' htoken
    obtain rfl := Option.some.inj (hkey.symm.trans hkey')
    exact ⟨k, htoken⟩
  · rintro ⟨k, rfl⟩
    exact ⟨(verify_eq_true hfields).mpr ⟨version, key, k, hkey, rfl⟩, _, rfl⟩

-- A token of a version that is not held does not verify.
theorem verify_unknown {rest : String} (hdot : '.' ∉ version.toList)
    (hkey : keyring.keys.key? version = none) :
    keyring.verify p (version ++ "." ++ rest) = .ok false := by
  unfold verify
  cases hparse : parseProof (version ++ "." ++ rest) with
  | none        => rfl
  | some parsed =>
    obtain ⟨version', digest⟩ := parsed
    obtain ⟨htoken, hversion, -, -⟩ := parseProof_eq_some.mp hparse
    obtain rfl := version_of_token hdot (dot_notMem_of_isSecretVersion hversion) htoken
    simp [hkey]

-- A reader that holds the key of a token verifies it for the payloads that agree with the one that
-- was signed.
theorem verify_sign_iff (hinj : HmacInjectiveOn hmac texts)
    (hkeyring : keyring.hmac = textDigest hmac) (hreader : reader.hmac = textDigest hmac)
    (hp : canonicalProofPayload p = .ok fields) (hq : canonicalProofPayload q = .ok fields')
    (htext : canonicalText fields ∈ texts) (htext' : canonicalText fields' ∈ texts)
    (hkey : reader.keys.key? keyring.keys.active.version = some keyring.keys.active.key)
    (hsign : keyring.sign p = .ok proof) : reader.verify q proof = .ok true ↔ p.Agrees q := by
  rw [sign_eq_ok hp, Except.ok.injEq] at hsign
  rw [← canonicalProofPayload_agrees hp hq, verify_eq_true hq, ← hsign, hkeyring, hreader]
  have hactive := isSecretVersion_of_key? hkey
  constructor
  · rintro ⟨version, key, k, hkey', htoken⟩
    obtain ⟨rfl, -, hdigest⟩ := spelled_token_inj hactive (isSecretVersion_of_key? hkey') htoken
    obtain rfl := Option.some.inj (hkey.symm.trans hkey')
    exact canonicalText_injective (hinj _ htext htext' hdigest)
  · rintro rfl
    exact ⟨_, _, 0, hkey, rfl⟩

-- The keyring tells payloads apart, for its own tokens and for those of versions that a later
-- keyring retains. No token is the only one of its payload and version: the digest has four
-- spellings, since the two bits that the last character has to spare are not looked at.
theorem proof_tokens (hinj : HmacInjectiveOn hmac texts) (hkeyring : keyring.hmac = textDigest hmac)
    (hp : canonicalProofPayload p = .ok fields) (hq : canonicalProofPayload q = .ok fields')
    (htext : canonicalText fields ∈ texts) (htext' : canonicalText fields' ∈ texts) :
    (∃ token, keyring.sign p = .ok token ∧ (keyring.verify q token = .ok true ↔ p.Agrees q) ∧
      ∀ reader : RefundProofKeyring, reader.hmac = textDigest hmac →
        reader.keys.key? keyring.keys.active.version = some keyring.keys.active.key →
        (reader.verify q token = .ok true ↔ p.Agrees q)) ∧
    (∀ version rest, '.' ∉ version.toList → keyring.keys.key? version = none →
      keyring.verify p (version ++ "." ++ rest) = .ok false) ∧
    ∀ version key, keyring.keys.key? version = some key →
      (∃ tokens : List String, tokens.Nodup ∧ tokens.length = 4 ∧ ∀ token, token ∈ tokens ↔
        keyring.verify p token = .ok true ∧ ∃ rest, token = version ++ "." ++ rest) ∧
      ¬∃! token, keyring.verify p token = .ok true ∧ ∃ rest, token = version ++ "." ++ rest := by
  refine ⟨⟨_, sign_eq_ok hp, ?_, ?_⟩, fun _ _ => verify_unknown, ?_⟩
  · exact verify_sign_iff hinj hkeyring hkeyring hp hq htext htext' keyring.keys.key?_active
      (sign_eq_ok hp)
  · exact fun reader hreader hkey =>
      verify_sign_iff hinj hkeyring hreader hp hq htext htext' hkey (sign_eq_ok hp)
  · intro version key hkey
    have hversion := isSecretVersion_of_key? hkey
    have hspelled : Function.Injective fun k : Fin 4 =>
        version ++ "." ++ Base64Url.spelled k (keyring.hmac key fields).val :=
      fun _ _ h => (spelled_token_inj hversion hversion h).2.1
    constructor
    · refine ⟨List.ofFn fun k : Fin 4 =>
        version ++ "." ++ Base64Url.spelled k (keyring.hmac key fields).val,
        List.nodup_ofFn.mpr hspelled, List.length_ofFn, fun token => ?_⟩
      rw [verify_version_iff hp hkey, List.mem_ofFn]
      exact exists_congr fun k => eq_comm
    · rintro ⟨token, -, hunique⟩
      have hzero := hunique _ ((verify_version_iff hp hkey).mpr ⟨0, rfl⟩)
      have hone := hunique _ ((verify_version_iff hp hkey).mpr ⟨1, rfl⟩)
      exact absurd (hspelled (hzero.trans hone.symm)) (by decide)

end Tokens

end RefundProofKeyring

namespace Pilot

open RefundProofKeyring

-- A digest that tells texts of different lengths apart
def lengthDigest (_ : String) (text : Text) : Sha256Digest :=
  ⟨List.replicate 32 (Base64Url.octet text.length), List.length_replicate⟩

def proofKeyring : RefundProofKeyring where
  hmac    := textDigest lengthDigest
  keys    := {
    active           := { version := "v2", key := String.ofList (List.replicate 64 'b') }
    verificationOnly := .empty
  }
  checked := by rfl

def paidPayload (amountMinor : Int) : RefundProofPayload where
  tenantId        := "t_1"
  stripeAccountId := "acct_1"
  requestId       := "r_1"
  paymentKey      := "pi_1"
  amountMinor     := amountMinor
  currency        := "EUR"
  environment     := .test

def paidFields (amount : String) : List String :=
  ["t_1", "acct_1", "r_1", "pi_1", amount, "eur", "test"]

def paidTexts : Set Text :=
  {text | text = canonicalText (paidFields "5") ∨ text = canonicalText (paidFields "50")}

theorem lengthDigest_injectiveOn : HmacInjectiveOn lengthDigest paidTexts := by
  have hne : lengthDigest "" (canonicalText (paidFields "5")) ≠
      lengthDigest "" (canonicalText (paidFields "50")) := by decide +kernel
  rintro key text (rfl | rfl) text' (rfl | rfl) h
  · rfl
  · exact absurd h hne
  · exact absurd h.symm hne
  · rfl

theorem proof_tokens_paid :
    ∃ token, proofKeyring.sign (paidPayload 5) = .ok token ∧
      (proofKeyring.verify (paidPayload 50) token = .ok true ↔
        (paidPayload 5).Agrees (paidPayload 50)) := by
  have hkeyring : proofKeyring.hmac = textDigest lengthDigest := rfl
  have hfive : canonicalProofPayload (paidPayload 5) = .ok (paidFields "5") := rfl
  have hfifty : canonicalProofPayload (paidPayload 50) = .ok (paidFields "50") := rfl
  obtain ⟨⟨token, hsign, hverify, -⟩, -, -⟩ :=
    proof_tokens lengthDigest_injectiveOn hkeyring hfive hfifty (.inl rfl) (.inr rfl)
  exact ⟨token, hsign, hverify⟩

-- The last character of the digest of a token can be another one.
theorem proof_tokens_counterexample :
    ∃ token token', token ≠ token' ∧
      proofKeyring.verify (paidPayload 5) token = .ok true ∧
      proofKeyring.verify (paidPayload 5) token' = .ok true ∧
      (∃ rest, token = "v2" ++ "." ++ rest) ∧ ∃ rest, token' = "v2" ++ "." ++ rest := by
  have hfive : canonicalProofPayload (paidPayload 5) = .ok (paidFields "5") := rfl
  have hkey := proofKeyring.keys.key?_active
  have hversion := isSecretVersion_of_key? hkey
  have hzero := (verify_version_iff hfive hkey).mpr ⟨0, rfl⟩
  have hone := (verify_version_iff hfive hkey).mpr ⟨1, rfl⟩
  refine ⟨_, _, fun h => ?_, hzero.1, hone.1, hzero.2, hone.2⟩
  exact absurd (spelled_token_inj hversion hversion h).2.1 (by decide)

end Pilot
end RefundDesk
