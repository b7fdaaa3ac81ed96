import RefundDesk.Config.KeyHistory

namespace RefundDesk

theorem assertApplicationKeyRotationTransition_eq_ok {previous : Option ApplicationKeyRotationSet}
    {target : ApplicationKeyRotationSet} :
    assertApplicationKeyRotationTransition previous target = .ok () ↔
      ∀ family, target family ∈
        (previous.map (· family)).elim allowedInitialStates allowedTransitions := by
  have hfamily (family : ApplicationKeyFamily) :
      (if target family = .retired ∧ previous.map (· family) ≠ some .retired then
        (.error "APPLICATION_KEY_RETIREMENT_EVIDENCE_UNAVAILABLE" : Except String Unit)
      else if target family ∉
          (previous.map (· family)).elim allowedInitialStates allowedTransitions then
        .error "APPLICATION_KEY_ROTATION_TRANSITION_INVALID"
      else
        .ok ()) = .ok () ↔
      target family ∈ (previous.map (· family)).elim allowedInitialStates allowedTransitions := by
    cases previous with
    | none =>
      cases htarget : target family <;> simp [allowedInitialStates]
    | some previous =>
      cases hprevious : previous family <;> cases htarget : target family <;>
        simp [hprevious, allowedTransitions]
  rw [assertApplicationKeyRotationTransition, forM_eq_ok]
  simp only [hfamily]
  constructor
  case mp =>
    intro h family
    exact h family (by cases family <;> decide)
  case mpr => exact fun h family _ => h family

-- The versions and the lengths that every keyring takes.
structure SecretRules.TakesApplicationKeys (rules : SecretRules) : Prop where
  v1     : rules.acceptsVersion "v1"
  v2     : rules.acceptsVersion "v2"
  length : rules.acceptsLength 32

section CreateKeyring

variable {α : Type} {rules : SecretRules} {keys reader writer : ApplicationKeys}

theorem ApplicationKey.byteLength_key (key : ApplicationKey) : byteLength key.key = 32 := by
  rw [byteLength, key.length]

theorem SecretRules.TakesApplicationKeys.accepts (h : rules.TakesApplicationKeys)
    (version : ApplicationKeyVersion) (key : ApplicationKey) :
    rules.Accepts ⟨version.text, key.key⟩ := by
  refine ⟨?_, by simpa only [key.byteLength_key] using h.length⟩
  cases version with
  | v1 => exact h.v1
  | v2 => exact h.v2

theorem SecretRules.TakesApplicationKeys.check_single (h : rules.TakesApplicationKeys)
    (version : ApplicationKeyVersion) (key : ApplicationKey) :
    rules.check ⟨⟨version.text, key.key⟩, .empty⟩ = .ok () :=
  rules.check_eq_ok.mpr ⟨h.accepts version key, by simp [SecretKeys.verificationSecrets, Table.empty]⟩

theorem SecretRules.TakesApplicationKeys.check_pair (h : rules.TakesApplicationKeys)
    (version version' : ApplicationKeyVersion) (hne : version' ≠ version)
    (key key' : ApplicationKey) :
    rules.check ⟨⟨version.text, key.key⟩, Table.empty.insert version'.text key'.key⟩ = .ok () := by
  refine rules.check_eq_ok.mpr ⟨h.accepts version key, ?_⟩
  have htext : version'.text ≠ version.text := by
    cases version <;> cases version' <;> first | exact absurd rfl hne | decide
  simpa [SecretKeys.verificationSecrets, Table.empty, Table.insert, Table.insertEntry]
    using And.intro (h.accepts version' key') htext

-- A keyring is built from valid keys: the active one is what the configuration says, and every key
-- of the configuration is there under its version.
theorem createKeyring_of_valid (build : SecretKeys → Except DomainError α) (code : String)
    (htakes : rules.TakesApplicationKeys) (h : keys.Valid) :
    ∃ secretKeys key, createKeyring build code keys = (build secretKeys).mapError .domain ∧
      rules.check secretKeys = .ok () ∧ keys.key? keys.activeVersion = some key ∧
      secretKeys.active = ⟨keys.activeVersion.text, key.key⟩ ∧
      ∀ version, secretKeys.key? version.text = (keys.key? version).map (·.key) := by
  obtain ⟨activeVersion, rotationState, v1, v2⟩ := keys
  have hvalid := h
  simp only [ApplicationKeys.Valid, ApplicationKeys.materialState] at hvalid
  unfold createKeyring
  simp only [ApplicationKeys.materialState, hvalid, Bool.not_true, Bool.false_eq_true, if_false]
  cases rotationState <;> cases v1 <;> cases v2 <;>
    simp [applicationKeyMaterialStateIsValid] at hvalid <;> subst hvalid
  case legacy.some.none v1 =>
    exact ⟨_, v1, rfl, htakes.check_single .v1 v1, rfl, rfl, fun version => by cases version <;> rfl⟩
  case staged.some.some v1 v2 =>
    exact ⟨_, v1, rfl, htakes.check_pair .v1 .v2 (by decide) v1 v2, rfl, rfl,
      fun version => by cases version <;> rfl⟩
  case active.some.some v1 v2 =>
    exact ⟨_, v2, rfl, htakes.check_pair .v2 .v1 (by decide) v2 v1, rfl, rfl,
      fun version => by cases version <;> rfl⟩
  case rollback.some.some v1 v2 =>
    exact ⟨_, v1, rfl, htakes.check_pair .v1 .v2 (by decide) v1 v2, rfl, rfl,
      fun version => by cases version <;> rfl⟩
  case retired.none.some v2 =>
    exact ⟨_, v2, rfl, htakes.check_single .v2 v2, rfl, rfl, fun version => by cases version <;> rfl⟩

-- The keyring of a reader that holds the key of a writer knows the active secret of the writer.
theorem createKeyring_of_holds {P : α → SecretKeys → Prop}
    (build : SecretKeys → Except DomainError α) (code : String)
    (htakes : rules.TakesApplicationKeys)
    (hbuild : ∀ {secretKeys}, rules.check secretKeys = .ok () →
      ∃ keyring, build secretKeys = .ok keyring ∧ P keyring secretKeys)
    (hreader : reader.Valid) (hwriter : writer.Valid) (hholds : reader.Holds writer) :
    ∃ written read writerKeys readerKeys,
      createKeyring build code writer = .ok written ∧ createKeyring build code reader = .ok read ∧
      P written writerKeys ∧ P read readerKeys ∧
      readerKeys.key? writerKeys.active.version = some writerKeys.active.key := by
  obtain ⟨writerKeys, key, hwritten, hchecked, hkey, hactive, -⟩ :=
    createKeyring_of_valid build code htakes hwriter
  obtain ⟨readerKeys, -, hread, hchecked', -, -, hkeys⟩ :=
    createKeyring_of_valid build code htakes hreader
  obtain ⟨written, hcreate, hP⟩ := hbuild hchecked
  obtain ⟨read, hcreate', hP'⟩ := hbuild hchecked'
  rw [hcreate] at hwritten
  rw [hcreate'] at hread
  refine ⟨written, read, writerKeys, readerKeys, hwritten, hread, hP, hP', ?_⟩
  rw [hactive, hkeys, hholds, hkey]
  rfl

end CreateKeyring

-- The keys that a release configures. The field keys are those of the platform, the other two
-- families those of the worker.
structure Release where
  approvalAttestation : ApplicationKeys
  field               : ApplicationKeys
  proof               : ApplicationKeys

def Release.keys (release : Release) : ApplicationKeyFamily → ApplicationKeys
  | .approvalAttestation => release.approvalAttestation
  | .field               => release.field
  | .proof               => release.proof

def Release.rotationSet (release : Release) : ApplicationKeyRotationSet :=
  fun family => (release.keys family).rotationState

-- The releases so far, the newest ones first.
inductive Releases : List Release → Prop
  | none : Releases []
  | release {target : Release} {releases : List Release} (earlier : Releases releases)
      (transition : assertApplicationKeyRotationTransition
        (releases.head?.map (·.rotationSet)) target.rotationSet = .ok ())
      (valid : ∀ family, (target.keys family).Valid)
      (agrees : ∀ previous ∈ releases.head?, ∀ family,
        (previous.keys family).Agrees (target.keys family)) :
      Releases (target :: releases)

theorem Releases.keyHistory {releases : List Release} (h : Releases releases)
    (family : ApplicationKeyFamily) : KeyHistory (releases.map (·.keys family)) := by
  induction h with
  | none => exact .none
  | release earlier transition valid agrees ih =>
    refine ih.release ⟨?allowed, valid family, ?agrees⟩
    case allowed =>
      have hallowed := assertApplicationKeyRotationTransition_eq_ok.mp transition family
      rw [Option.map_map] at hallowed
      rw [List.head?_map, Option.map_map]
      exact hallowed
    case agrees =>
      intro keys hkeys
      rw [List.head?_map] at hkeys
      obtain ⟨previous, hprevious, rfl⟩ := Option.mem_map.mp hkeys
      exact agrees previous hprevious family

-- The keyrings that are built for the reader take what those of the writer have produced.
structure Release.Reads (aes : AesGcm) (proofHmac : String → List String → Sha256Digest)
    (approvalHmac : String → List (Option String) → String) (reader writer : Release) : Prop where
  field : ∃ written read,
    createFieldEncryptionKeyring aes writer.field = .ok written ∧
    createFieldEncryptionKeyring aes reader.field = .ok read ∧
    ∀ plaintext context nonce encrypted, written.encrypt plaintext context nonce = .ok encrypted →
      read.decrypt encrypted context = .ok plaintext
  proof : ∃ written read,
    createRefundProofKeyring proofHmac writer.proof = .ok written ∧
    createRefundProofKeyring proofHmac reader.proof = .ok read ∧
    ∀ payload proof, written.sign payload = .ok proof → read.verify payload proof = .ok true
  approvalAttestation : ∃ written read,
    createApprovalAttestationKeyring approvalHmac writer.approvalAttestation = .ok written ∧
    createApprovalAttestationKeyring approvalHmac reader.approvalAttestation = .ok read ∧
    ∀ payload token, written.sign payload = .ok token → read.verify payload token.1 token.2

namespace Release

variable {reader writer : Release} (aes : AesGcm)
  (proofHmac : String → List String → Sha256Digest)
  (approvalHmac : String → List (Option String) → String)

theorem reads_of_holds (hreader : ∀ family, (reader.keys family).Valid)
    (hwriter : ∀ family, (writer.keys family).Valid)
    (hholds : ∀ family, (reader.keys family).Holds (writer.keys family)) :
    reader.Reads aes proofHmac approvalHmac writer where
  field := by
    obtain ⟨written, read, writerKeys, readerKeys, hwritten, hread, ⟨haes, rfl⟩, ⟨haes', rfl⟩,
      hkey⟩ := createKeyring_of_holds (FieldEncryptionKeyring.create aes)
        "FIELD_ENCRYPTION_KEY_ROTATION_STATE_INVALID" ⟨by decide, by decide, by decide⟩
        FieldEncryptionKeyring.create_of_check (hreader .field) (hwriter .field) (hholds .field)
    exact ⟨written, read, hwritten, hread, fun plaintext context nonce encrypted =>
      FieldEncryptionKeyring.decrypt_of_encrypt (haes'.trans haes.symm) hkey⟩
  proof := by
    obtain ⟨written, read, writerKeys, readerKeys, hwritten, hread, ⟨hhmac, rfl⟩, ⟨hhmac', rfl⟩,
      hkey⟩ := createKeyring_of_holds (RefundProofKeyring.create proofHmac)
        "PROOF_HMAC_KEY_ROTATION_STATE_INVALID" ⟨by decide, by decide, by decide⟩
        RefundProofKeyring.create_of_check (hreader .proof) (hwriter .proof) (hholds .proof)
    exact ⟨written, read, hwritten, hread, fun payload proof =>
      RefundProofKeyring.verify_of_sign (hhmac'.trans hhmac.symm) hkey⟩
  approvalAttestation := by
    obtain ⟨written, read, writerKeys, readerKeys, hwritten, hread, ⟨hhmac, hactive, -⟩,
      ⟨hhmac', -, hkeys⟩, hkey⟩ := createKeyring_of_holds
        (ApprovalAttestationKeyring.create approvalHmac)
        "APPROVAL_ATTESTATION_KEY_ROTATION_STATE_INVALID" ⟨by decide, by decide, by decide⟩
        ApprovalAttestationKeyring.create_of_check (hreader .approvalAttestation)
        (hwriter .approvalAttestation) (hholds .approvalAttestation)
    rw [← hkeys, ← hactive] at hkey
    exact ⟨written, read, hwritten, hread, fun payload token =>
      ApprovalAttestationKeyring.verify_of_sign (hhmac'.trans hhmac.symm) hkey⟩

end Release

-- Whatever a release has encrypted or signed is read at the release itself, at every later one and
-- at the one just before it.
theorem releases_read {releases : List Release} (h : Releases releases) (aes : AesGcm)
    (proofHmac : String → List String → Sha256Digest)
    (approvalHmac : String → List (Option String) → String) {i j : Nat} {reader writer : Release}
    (hwriter : releases[i]? = some writer) (hreader : releases[j]? = some reader)
    (hij : j ≤ i ∨ j = i + 1) : reader.Reads aes proofHmac approvalHmac writer := by
  have hat {n : Nat} {release : Release} (hn : releases[n]? = some release)
      (family : ApplicationKeyFamily) :
      (releases.map (·.keys family))[n]? = some (release.keys family) := by
    rw [List.getElem?_map, hn]
    rfl
  have hvalid {n : Nat} {release : Release} (hn : releases[n]? = some release)
      (family : ApplicationKeyFamily) : (release.keys family).Valid :=
    (h.keyHistory family).valid _ (List.mem_of_getElem? (hat hn family))
  exact Release.reads_of_holds aes proofHmac approvalHmac (hvalid hreader) (hvalid hwriter)
    fun family => (h.keyHistory family).holds (hat hwriter family) (hat hreader family) hij

namespace Pilot

-- A second key is staged and withdrawn, and another one staged in its place and activated.
def applicationKey (digit : Char) : ApplicationKey where
  key    := String.ofList (List.replicate 64 digit)
  length := by simp

def configured (state : ApplicationKeyRotationState) (activeVersion : ApplicationKeyVersion)
    (v2 : Option Char) : Release :=
  let keys := {
    activeVersion
    rotationState := state
    v1            := some (applicationKey '1')
    v2            := v2.map applicationKey
  }
  { approvalAttestation := keys, field := keys, proof := keys }

def rotation : List Release := [
  configured .rollback .v1 (some '3'),
  configured .active .v2 (some '3'),
  configured .staged .v1 (some '3'),
  configured .legacy .v1 none,
  configured .staged .v1 (some '2')
]

theorem configured_agrees {state state' : ApplicationKeyRotationState}
    {activeVersion activeVersion' : ApplicationKeyVersion} {v2 v2' : Option Char}
    (h : ∀ digit ∈ v2, ∀ digit' ∈ v2', digit = digit') (family : ApplicationKeyFamily) :
    ((configured state activeVersion v2).keys family).Agrees
      ((configured state' activeVersion' v2').keys family) := by
  have hv1 (state activeVersion v2) : ((configured state activeVersion v2).keys family).key? .v1 =
      some (applicationKey '1') := by
    cases family <;> rfl
  have hv2 (state activeVersion v2) : ((configured state activeVersion v2).keys family).key? .v2 =
      v2.map applicationKey := by
    cases family <;> rfl
  intro version key key' hkey hkey'
  cases version with
  | v1 =>
    rw [hv1] at hkey hkey'
    exact Option.some.inj (hkey.symm.trans hkey')
  | v2 =>
    rw [hv2] at hkey hkey'
    obtain ⟨digit, hdigit, rfl⟩ := Option.map_eq_some_iff.mp hkey
    obtain ⟨digit', hdigit', rfl⟩ := Option.map_eq_some_iff.mp hkey'
    rw [h digit hdigit digit' hdigit']

theorem rotation_releases : Releases rotation := by
  have hvalid (state activeVersion v2) (h : (configured state activeVersion v2).field.Valid)
      (family : ApplicationKeyFamily) : ((configured state activeVersion v2).keys family).Valid := by
    cases family <;> exact h
  have hagrees {state state' activeVersion activeVersion' v2 v2'} {earlier : List Release}
      (h : ∀ digit ∈ v2, ∀ digit' ∈ v2', digit = digit') :
      ∀ previous ∈ (configured state activeVersion v2 :: earlier).head?, ∀ family,
        (previous.keys family).Agrees ((configured state' activeVersion' v2').keys family) := by
    intro previous hprevious
    obtain rfl := Option.some.inj hprevious
    exact configured_agrees h
  have hfirst : Releases [configured .staged .v1 (some '2')] :=
    .release .none (by rfl) (hvalid _ _ _ (by decide)) (by simp)
  have hwithdrawn := hfirst.release (by rfl) (hvalid .legacy .v1 none (by decide)) (hagrees (by simp))
  have hstaged := hwithdrawn.release (by rfl) (hvalid .staged .v1 (some '3') (by decide))
    (hagrees (by simp))
  have hactive := hstaged.release (by rfl) (hvalid .active .v2 (some '3') (by decide))
    (hagrees (by simp))
  exact hactive.release (by rfl) (hvalid .rollback .v1 (some '3') (by decide)) (hagrees (by simp))

def spelled : List Base64Url.Octet → List Char
  | a :: b :: c :: octets => Char.ofNat (a * 65536 + b * 256 + c) :: spelled octets
  | _                     => []

-- A cipher that only spells the text out.
def plainAes : AesGcm where
  cipher _ _ _ plaintext := (plaintext.toList.flatMap fun c =>
    [Base64Url.octet (c.toNat / 65536), Base64Url.octet (c.toNat / 256), Base64Url.octet c.toNat], [])
  decipher _ _ _ ciphertext _ := some (String.ofList (spelled ciphertext))
  decipher_cipher key nonce fields plaintext _ _ := by
    have hspelled (cs : List Char) : spelled (cs.flatMap fun c =>
        [Base64Url.octet (c.toNat / 65536), Base64Url.octet (c.toNat / 256),
          Base64Url.octet c.toNat]) = cs := by
      induction cs with
      | nil => rfl
      | cons c cs ih =>
        have hvalid : c.toNat < 1114112 := by
          rcases c.valid with h | ⟨-, h⟩
          · exact Nat.lt_trans h (by decide)
          · exact h
        have hnat : c.toNat / 65536 % 256 * 65536 + c.toNat / 256 % 256 * 256 + c.toNat % 256 =
            c.toNat := by
          omega
        simp only [List.flatMap_cons, List.cons_append, List.nil_append, spelled,
          Base64Url.octet_val, hnat, Char.ofNat_toNat, ih]
    simp only [hspelled, String.ofList_toList]

def constantHmac (key : String) (_ : List String) : Sha256Digest :=
  ⟨List.replicate 32 (Base64Url.octet key.length), List.length_replicate⟩

end Pilot

theorem releases_read_rollback :
    (Pilot.configured .rollback .v1 (some '3')).Reads Pilot.plainAes Pilot.constantHmac
      (fun key _ => key) (Pilot.configured .active .v2 (some '3')) :=
  releases_read Pilot.rotation_releases Pilot.plainAes Pilot.constantHmac (fun key _ => key)
    (i := 1) (j := 0) rfl rfl (.inl (by decide))

end RefundDesk
