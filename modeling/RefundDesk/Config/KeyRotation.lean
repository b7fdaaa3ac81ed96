import RefundDesk.Domain.ApprovalAttestation
import RefundDesk.Domain.Encryption

namespace RefundDesk

inductive ApplicationKeyRotationState
  | legacy
  | staged
  | active
  | rollback
  | retired
  deriving DecidableEq, Repr

inductive ApplicationKeyVersion
  | v1
  | v2
  deriving DecidableEq, Repr

def ApplicationKeyVersion.text : ApplicationKeyVersion → String
  | v1 => "v1"
  | v2 => "v2"

inductive ApplicationKeyFamily
  | approvalAttestation
  | field
  | proof
  deriving DecidableEq, Repr

abbrev ApplicationKeyRotationSet := ApplicationKeyFamily → ApplicationKeyRotationState

structure ApplicationKeyMaterialState where
  activeVersion : ApplicationKeyVersion
  rotationState : ApplicationKeyRotationState
  v1Present     : Bool
  v2Present     : Bool
  deriving DecidableEq, Repr

def applicationKeyMaterialStateIsValid (state : ApplicationKeyMaterialState) : Bool :=
  match state.rotationState with
  | .legacy            => state.activeVersion = .v1 && state.v1Present && !state.v2Present
  | .staged | .rollback => state.activeVersion = .v1 && state.v1Present && state.v2Present
  | .active            => state.activeVersion = .v2 && state.v1Present && state.v2Present
  | .retired           => state.activeVersion = .v2 && !state.v1Present && state.v2Present

def allowedInitialStates : List ApplicationKeyRotationState :=
  [.legacy, .staged]

def allowedTransitions : ApplicationKeyRotationState → List ApplicationKeyRotationState
  | .legacy   => [.legacy, .staged]
  | .staged   => [.legacy, .staged, .active]
  | .active   => [.active, .rollback]
  | .rollback => [.active, .rollback]
  | .retired  => [.retired]

def assertApplicationKeyRotationTransition (previous : Option ApplicationKeyRotationSet)
    (target : ApplicationKeyRotationSet) : Except String Unit :=
  [.field, .proof, .approvalAttestation].forM fun family : ApplicationKeyFamily =>
    if target family = .retired ∧ previous.map (· family) ≠ some .retired then
      .error "APPLICATION_KEY_RETIREMENT_EVIDENCE_UNAVAILABLE"
    else if target family ∉
        (previous.map (· family)).elim allowedInitialStates allowedTransitions then
      .error "APPLICATION_KEY_ROTATION_TRANSITION_INVALID"
    else
      .ok ()

-- The configuration takes keys of 32 bytes only.
structure ApplicationKey where
  key    : String
  length : key.length = 64

-- The keys of one family in the configuration of a service.
structure ApplicationKeys where
  activeVersion : ApplicationKeyVersion
  rotationState : ApplicationKeyRotationState
  v1            : Option ApplicationKey
  v2            : Option ApplicationKey

namespace ApplicationKeys

def materialState (keys : ApplicationKeys) : ApplicationKeyMaterialState where
  activeVersion := keys.activeVersion
  rotationState := keys.rotationState
  v1Present     := keys.v1.isSome
  v2Present     := keys.v2.isSome

def key? (keys : ApplicationKeys) : ApplicationKeyVersion → Option ApplicationKey
  | .v1 => keys.v1
  | .v2 => keys.v2

end ApplicationKeys

inductive KeyringFailure
  | error (code : String)
  | domain (e : DomainError)
  deriving DecidableEq, Repr

def requiredApplicationKey (key : Option ApplicationKey) (code : String) :
    Except KeyringFailure String :=
  match key with
  | none     => .error (.error code)
  | some key => .ok key.key

-- The builders of the keyrings differ in the class that they build and in the code they fail with.
def createKeyring {α : Type} (build : SecretKeys → Except DomainError α) (code : String)
    (keys : ApplicationKeys) : Except KeyringFailure α := do
  if !applicationKeyMaterialStateIsValid keys.materialState then
    throw (.error code)
  let secretKeys : SecretKeys ← match keys.rotationState with
    | .legacy => do
      let v1 ← requiredApplicationKey keys.v1 code
      pure { active := ⟨"v1", v1⟩, verificationOnly := .empty }
    | .staged | .rollback => do
      let v1 ← requiredApplicationKey keys.v1 code
      let v2 ← requiredApplicationKey keys.v2 code
      pure { active := ⟨"v1", v1⟩, verificationOnly := Table.empty.insert "v2" v2 }
    | .active => do
      let v2 ← requiredApplicationKey keys.v2 code
      let v1 ← requiredApplicationKey keys.v1 code
      pure { active := ⟨"v2", v2⟩, verificationOnly := Table.empty.insert "v1" v1 }
    | .retired => do
      let v2 ← requiredApplicationKey keys.v2 code
      pure { active := ⟨"v2", v2⟩, verificationOnly := .empty }
  (build secretKeys).mapError .domain

def createFieldEncryptionKeyring (aes : AesGcm) :
    ApplicationKeys → Except KeyringFailure FieldEncryptionKeyring :=
  createKeyring (FieldEncryptionKeyring.create aes) "FIELD_ENCRYPTION_KEY_ROTATION_STATE_INVALID"

def createRefundProofKeyring (hmac : String → List String → Sha256Digest) :
    ApplicationKeys → Except KeyringFailure RefundProofKeyring :=
  createKeyring (RefundProofKeyring.create hmac) "PROOF_HMAC_KEY_ROTATION_STATE_INVALID"

def createApprovalAttestationKeyring (hmac : String → List (Option String) → String) :
    ApplicationKeys → Except KeyringFailure ApprovalAttestationKeyring :=
  createKeyring (ApprovalAttestationKeyring.create hmac)
    "APPROVAL_ATTESTATION_KEY_ROTATION_STATE_INVALID"

end RefundDesk
