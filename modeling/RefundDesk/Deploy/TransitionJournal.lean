import RefundDesk.Library.JsonObjects

open Utf16

namespace RefundDesk

namespace TransitionJournal

variable {ν : Type}

def families : List String := ["approvalAttestation", "field", "proof"]
def versions : List String := ["v1", "v2"]

-- The value that a dictionary has for a key
def member (value : Json ν) (key : String) : Json ν :=
  match value with
  | .obj members => ((members.find? fun member => member.1 = ofString key).map (·.2)).getD .null
  | _            => .null

def string? : Json ν → Option Text
  | .str s => some s
  | _      => none

def bool? : Json ν → Option Bool
  | .bool b => some b
  | _       => none

def isNull : Json ν → Bool
  | .null => true
  | _     => false

def keys? : Json ν → Option (List Text)
  | .obj members => some (members.map (·.1))
  | _            => none

def requireKeys (value : Json ν) (expected : List String) (label : String) : Except String Unit :=
  match keys? value with
  | none      => .error (label ++ " has an invalid shape")
  | some keys =>
    if (∀ key ∈ keys, key ∈ expected.map ofString) ∧ ∀ key ∈ expected.map ofString, key ∈ keys then
      .ok ()
    else .error (label ++ " has an invalid shape")

-- `[0-9a-f]`
def isHexDigit (u : CodeUnit) : Bool :=
  (0x30 ≤ u && u ≤ 0x39) || (0x61 ≤ u && u ≤ 0x66)

def isRevision (text : Text) : Bool :=
  text.length = 40 && text.all isHexDigit

def isFingerprint (text : Text) : Bool :=
  (ofString "sha256:").isPrefixOf text && (text.drop 7).length = 64 && (text.drop 7).all isHexDigit

def validateFingerprint (fingerprint : Json ν) (label : String) : Except String Unit :=
  if isNull fingerprint ∨ (string? fingerprint).any isFingerprint then .ok ()
  else .error (label ++ " is invalid")

def validateFingerprints (value : Json ν) (label : String) : Except String Unit := do
  requireKeys value families label
  families.forM fun family => do
    requireKeys (member value family) versions (label ++ "." ++ family)
    versions.forM fun version =>
      validateFingerprint (member (member value family) version)
        (label ++ "." ++ family ++ "." ++ version)

def expectedPresence (state : Text) : Option (Bool × Bool) :=
  if state = ofString "legacy" then some (true, false)
  else if state ∈ ["staged", "active", "rollback"].map ofString then some (true, true)
  else if state = ofString "retired" then some (false, true)
  else none

-- The states are those that have an expected presence.
def validateFamily (fresh : Bool) (state fingerprints : Json ν) (label family : String) :
    Except String Unit :=
  let presence := (!isNull (member fingerprints "v1"), !isNull (member fingerprints "v2"))
  if fresh then
    if isNull state = false ∨ presence ≠ (false, false) then
      .error (label ++ " fresh state contains key material")
    else .ok ()
  else
    match (string? state).bind expectedPresence with
    | none          => .error (label ++ ".states." ++ family ++ " is invalid")
    | some expected =>
      if presence ≠ expected then
        .error (label ++ ".fingerprints." ++ family ++ " does not match its lifecycle state")
      else .ok ()

def validateSide (value : Json ν) (label : String) (target : Bool) : Except String Unit := do
  requireKeys value ["fingerprints", "recorded", "revision", "states"] label
  let revision := member value "revision"
  if isNull revision = false ∧ (string? revision).any isRevision = false then
    throw (label ++ ".revision is invalid")
  if target ∧ isNull revision then
    throw "target revision cannot be null"
  if bool? (member value "recorded") = none then
    throw (label ++ ".recorded is invalid")
  let states := member value "states"
  requireKeys states families (label ++ ".states")
  let fingerprints := member value "fingerprints"
  validateFingerprints fingerprints (label ++ ".fingerprints")
  families.forM fun family =>
    validateFamily (isNull revision) (member states family) (member fingerprints family) label family
  if isNull revision ∧ bool? (member value "recorded") = some true then
    throw (label ++ " fresh state cannot be recorded")
  if target ∧ bool? (member value "recorded") = some false then
    throw "target state must be recorded"

-- The numbers of JSON as Python reads and writes them, with those that are equal to 1
structure PythonNumbers (ν : Type) where
  format : Json.NumberFormat ν
  isOne  : ν → Bool

section Journal

variable (numbers : PythonNumbers ν)

-- `True` is equal to 1 as well.
def isOne : Json ν → Bool
  | .num n  => numbers.isOne n
  | .bool b => b
  | _       => false

def hasStatus (value : Json ν) (status : String) : Bool :=
  isOne numbers (member value "schemaVersion") &&
    string? (member value "status") = some (ofString status)

def validateJournal (value : Json ν) : Except String Unit := do
  requireKeys value ["from", "schemaVersion", "status", "to"] "journal"
  if hasStatus numbers value "in_progress" = false then
    throw "journal version or status is invalid"
  validateSide (member value "from") "journal.from" false
  validateSide (member value "to") "journal.to" true

def canonicalBytes (value : Json ν) : Text :=
  Json.print numbers.format (value.rearrange Json.byKey) ++ [0x0A]

def loadJson (text : Text) : Except String (Json ν) :=
  match Json.parse numbers.format text with
  | some value => .ok value
  | none       => .error "JSON control file is unreadable or invalid"

def loadJournal (text : Text) : Except String (Json ν) := do
  let value ← loadJson numbers text
  validateJournal numbers value
  pure value

end Journal

-- `dict(value)` with another status
def withStatus (value : Json ν) (status : String) : Json ν :=
  match value with
  | .obj members => .obj (members.map fun member =>
      if member.1 = ofString "status" then (member.1, .str (ofString status)) else member)
  | value        => value

section Canonical

open Json

variable {numbers : PythonNumbers ν} {value : Json ν} {key label : String}

abbrev sorted (value : Json ν) : Json ν :=
  value.rearrange byKey

theorem find?_eq_some {β : Type} {members : List (Text × β)} (hnodup : (members.map (·.1)).Nodup)
    (member : Text × β) (key : Text) :
    (members.find? fun member => member.1 = key) = some member ↔
      member ∈ members ∧ member.1 = key := by
  constructor
  case mp =>
    intro h
    exact ⟨List.mem_of_find?_eq_some h, by simpa using List.find?_some h⟩
  case mpr =>
    rintro ⟨hmem, rfl⟩
    cases hfind : members.find? fun other => other.1 = member.1 with
    | none       => simpa using List.find?_eq_none.mp hfind member hmem
    | some other =>
      have hother : other.1 = member.1 := by simpa using List.find?_some hfind
      rw [List.inj_on_of_nodup_map hnodup (List.mem_of_find?_eq_some hfind) hmem hother]

theorem find?_of_perm {β : Type} {members members' : List (Text × β)}
    (hnodup : (members.map (·.1)).Nodup) (hperm : members.Perm members') (key : Text) :
    (members.find? fun member => member.1 = key) = members'.find? fun member => member.1 = key := by
  have hnodup' := (hperm.map (·.1)).nodup_iff.mp hnodup
  refine Option.ext fun member => ?_
  rw [find?_eq_some hnodup, find?_eq_some hnodup', hperm.mem_iff]

theorem wellFormed_member (h : value.WellFormed) (key : String) : (member value key).WellFormed := by
  cases h with
  | @obj members hnodup hmembers =>
    unfold member
    dsimp only
    cases hfind : members.find? fun member => member.1 = ofString key with
    | none        => exact .null
    | some member => exact hmembers member (List.mem_of_find?_eq_some hfind)
  | _ => exact .null

-- Sorting keeps what is found under a key.
theorem member_sorted (h : value.WellFormed) (key : String) :
    member (sorted value) key = sorted (member value key) := by
  cases h with
  | @obj members hnodup hmembers =>
    have hnodup' : ((members.map (Prod.map id (rearrange byKey))).map (·.1)).Nodup := by
      simpa [Function.comp_def] using hnodup
    have hperm := permutes_byKey (P := fun _ => True)
      (members.map (Prod.map id (rearrange (ν := ν) byKey))) trivial
    rw [sorted, rearrange_obj]
    unfold member
    dsimp only
    rw [← find?_of_perm hnodup' hperm.symm, List.find?_map]
    change (((members.find? fun member => member.1 = ofString key).map _).map _).getD _ = _
    cases members.find? fun member => member.1 = ofString key <;> rfl
  | arr => rw [sorted, rearrange_arr]; rfl
  | _ => rfl

theorem keys?_sorted (value : Json ν) {keys : List Text} (h : keys? (sorted value) = some keys) :
    ∃ keys', keys? value = some keys' ∧ keys.Perm keys' := by
  cases value with
  | obj members =>
    rw [sorted, rearrange_obj, keys?, Option.some.injEq] at h
    refine ⟨members.map (·.1), rfl, ?_⟩
    have hperm := permutes_byKey (P := fun _ => True)
      (members.map (Prod.map id (rearrange (ν := ν) byKey))) trivial
    simpa [← h, Function.comp_def] using hperm.map (·.1)
  | arr items => rw [sorted, rearrange_arr] at h; cases h
  | _ => cases h

theorem requireKeys_sorted (value : Json ν) (expected : List String) (label : String) :
    requireKeys (sorted value) expected label = requireKeys value expected label := by
  unfold requireKeys
  cases value with
  | obj members =>
    cases hkeys : keys? (sorted (.obj members)) with
    | none      => rw [sorted, rearrange_obj] at hkeys; cases hkeys
    | some keys =>
      obtain ⟨keys', hkeys', hperm⟩ := keys?_sorted _ hkeys
      rw [hkeys']
      simp only [hperm.mem_iff]
  | arr items => rw [sorted, rearrange_arr]; rfl
  | _ => rfl

@[simp]
theorem string?_sorted (value : Json ν) : string? (sorted value) = string? value := by
  cases value with
  | obj members => rw [sorted, rearrange_obj]; rfl
  | arr items   => rw [sorted, rearrange_arr]; rfl
  | _           => rfl

@[simp]
theorem bool?_sorted (value : Json ν) : bool? (sorted value) = bool? value := by
  cases value with
  | obj members => rw [sorted, rearrange_obj]; rfl
  | arr items   => rw [sorted, rearrange_arr]; rfl
  | _           => rfl

@[simp]
theorem isNull_sorted (value : Json ν) : isNull (sorted value) = isNull value := by
  cases value with
  | obj members => rw [sorted, rearrange_obj]; rfl
  | arr items   => rw [sorted, rearrange_arr]; rfl
  | _           => rfl

@[simp]
theorem isOne_sorted (value : Json ν) : isOne numbers (sorted value) = isOne numbers value := by
  cases value with
  | obj members => rw [sorted, rearrange_obj]; rfl
  | arr items   => rw [sorted, rearrange_arr]; rfl
  | _           => rfl

end Canonical

section Validation

open Json

variable {numbers : PythonNumbers ν} {value : Json ν}

theorem validateFingerprint_sorted (value : Json ν) (label : String) :
    validateFingerprint (sorted value) label = validateFingerprint value label := by
  simp [validateFingerprint]

theorem validateFingerprints_sorted (h : value.WellFormed) (label : String) :
    validateFingerprints (sorted value) label = validateFingerprints value label := by
  have hversion (family version : String) : member (member (sorted value) family) version =
      sorted (member (member value family) version) := by
    rw [member_sorted h, member_sorted (wellFormed_member h family)]
  simp only [validateFingerprints, requireKeys_sorted, hversion, validateFingerprint_sorted]
  simp only [member_sorted h, requireKeys_sorted]

theorem validateFamily_sorted {fingerprints : Json ν} (h : fingerprints.WellFormed) (fresh : Bool)
    (state : Json ν) (label family : String) :
    validateFamily fresh (sorted state) (sorted fingerprints) label family =
      validateFamily fresh state fingerprints label family := by
  simp [validateFamily, member_sorted h]

theorem validateSide_sorted (h : value.WellFormed) (label : String) (target : Bool) :
    validateSide (sorted value) label target = validateSide value label target := by
  have hstates := wellFormed_member h "states"
  have hfingerprints := wellFormed_member h "fingerprints"
  have hfamily (fresh : Bool) (family : String) := validateFamily_sorted
    (wellFormed_member hfingerprints family) fresh (member (member value "states") family) label
    family
  simp only [validateSide, member_sorted h, member_sorted hstates, member_sorted hfingerprints,
    requireKeys_sorted, validateFingerprints_sorted hfingerprints, hfamily, isNull_sorted,
    string?_sorted, bool?_sorted]

theorem hasStatus_sorted (h : value.WellFormed) (status : String) :
    hasStatus numbers (sorted value) status = hasStatus numbers value status := by
  simp only [hasStatus, member_sorted h, isOne_sorted, string?_sorted]

theorem validateJournal_sorted (h : value.WellFormed) :
    validateJournal numbers (sorted value) = validateJournal numbers value := by
  simp only [validateJournal, requireKeys_sorted, hasStatus_sorted h, member_sorted h,
    validateSide_sorted (wellFormed_member h _)]

-- The canonical bytes of a journal are loaded as the journal with its members in order, and that has
-- the same canonical bytes.
theorem loadJson_canonicalBytes (h : value.WellFormed) :
    loadJson numbers (canonicalBytes numbers value) = .ok (sorted value) := by
  have hsorted : (sorted value).WellFormed :=
    (objects_rearrange (permutes_byKey (P := fun _ => True)) unordered_nodup
      (objects_true value)).mpr h
  have hreads : Reads numbers.format (sorted value) := hsorted.reads
  have hvalue := hreads (canonicalBytes numbers value).length [0x0A]
    (by rw [canonicalBytes, List.length_append]; exact Nat.le_add_right _ _) (ends_cons (by decide))
  unfold loadJson Json.parse
  rw [canonicalBytes] at hvalue ⊢
  rw [hvalue]
  rfl

theorem loadJournal_canonicalBytes (h : value.WellFormed)
    (hvalid : validateJournal numbers value = .ok ()) :
    loadJournal numbers (canonicalBytes numbers value) = .ok (sorted value) := by
  unfold loadJournal
  rw [loadJson_canonicalBytes h]
  simp only [bind, Except.bind]
  rw [validateJournal_sorted h, hvalid]
  rfl

theorem canonicalBytes_sorted (h : value.WellFormed) :
    canonicalBytes numbers (sorted value) = canonicalBytes numbers value := by
  have hsame : Same value (sorted value) := same_rearrange h (objects_true value)
    (permutes_byKey (P := fun _ => True))
  rw [canonicalBytes, canonicalBytes, ← hsame]

theorem canonicalBytes_ne_nil (value : Json ν) : canonicalBytes numbers value ≠ [] := by
  simp [canonicalBytes]

end Validation

end TransitionJournal

end RefundDesk
