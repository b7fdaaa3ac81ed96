import RefundDesk.Contracts.CanonicalJson
import RefundDesk.Contracts.Schemas

namespace RefundDesk.Contracts

open Utf16 Json

variable {ν : Type}

structure EnvelopeRole where
  id   : Option Text
  type : StripeRoleType
  name : Text
  deriving DecidableEq, Repr

inductive EnvelopeResource
  | account
  | payment (type : ResourceType) (id : Text)
  deriving DecidableEq, Repr

-- A `SignedEnvelope` with its texts as they are in JSON. The roles are there when they are asserted.
structure Envelope where
  operation    : Text
  requestNonce : Text
  mode         : SignedMode
  isSandbox    : Bool
  resource     : EnvelopeResource
  commandJson  : Text
  stripeRoles  : Option (List EnvelopeRole)
  userId       : Text
  accountId    : Text
  deriving DecidableEq, Repr

def modeText : SignedMode → String
  | .live => "live"
  | .test => "test"

def roleTypeText : StripeRoleType → String
  | .builtIn => "builtIn"
  | .custom  => "custom"

section Schemas

@[simp]
def roleNameSchema : Schema ν :=
  .string (within 1 255)

def stripeRoleSchema : Schema ν :=
  .object [
    optionalField "id" roleNameSchema,
    field "type" (enum ["builtIn", "custom"]),
    field "name" roleNameSchema
  ]

@[simp]
def signedEnvelopeBase : List (Text × Presence ν × Schema ν) := [
  field "operation" (.string (matching isOperationName)),
  field "request_nonce" uuidSchema,
  field "mode" (enum ["live", "test"]),
  field "is_sandbox" (.bool fun _ => true),
  field "command_json" (.string (within 2 8192)),
  field "user_id" stripeUserIdSchema,
  field "account_id" stripeAccountIdSchema
]

@[simp]
def assertedRoles : List (Text × Presence ν × Schema ν) := [
  field "roles_asserted" (.bool (· = true)),
  field "stripe_roles" (.array (fun n => 1 ≤ n ∧ n ≤ 32) stripeRoleSchema)
]

@[simp]
def unassertedRoles : List (Text × Presence ν × Schema ν) :=
  [field "roles_asserted" (.bool (· = false))]

@[simp]
def accountResource : List (Text × Presence ν × Schema ν) :=
  [field "resource_type" (literal "account")]

@[simp]
def paymentResource : List (Text × Presence ν × Schema ν) := [
  field "resource_type" (enum ["payment_intent", "charge"]),
  field "resource_id" stripeIdSchema
]

@[simp]
def signedEnvelopeSchema : Schema ν :=
  .union [
    .object (signedEnvelopeBase ++ accountResource ++ unassertedRoles),
    .object (signedEnvelopeBase ++ accountResource ++ assertedRoles),
    .object (signedEnvelopeBase ++ paymentResource ++ unassertedRoles),
    .object (signedEnvelopeBase ++ paymentResource ++ assertedRoles)
  ]

end Schemas

section Fields

def member? (name : String) : Json ν → Option (Json ν)
  | .obj members => (members.find? fun member => member.1 = ofString name).map (·.2)
  | _            => none

def text? (name : String) (value : Json ν) : Option Text :=
  match member? name value with
  | some (.str text) => some text
  | _                => none

def bool? (name : String) (value : Json ν) : Option Bool :=
  match member? name value with
  | some (.bool b) => some b
  | _              => none

def EnvelopeRole.ofJson (value : Json ν) : Option EnvelopeRole := do
  let type ← text? "type" value
  let name ← text? "name" value
  pure {
    id   := text? "id" value
    type := if type = ofString "builtIn" then .builtIn else .custom
    name := name
  }

def EnvelopeResource.ofJson (value : Json ν) : Option EnvelopeResource := do
  let type ← text? "resource_type" value
  if type = ofString "account" then
    pure .account
  else
    let id ← text? "resource_id" value
    pure (.payment (if type = ofString "charge" then .charge else .paymentIntent) id)

-- What the fields of a parsed envelope are read as.
def Envelope.ofJson (value : Json ν) : Option Envelope := do
  let operation ← text? "operation" value
  let requestNonce ← text? "request_nonce" value
  let mode ← text? "mode" value
  let isSandbox ← bool? "is_sandbox" value
  let resource ← EnvelopeResource.ofJson value
  let commandJson ← text? "command_json" value
  let rolesAsserted ← bool? "roles_asserted" value
  let stripeRoles ←
    match rolesAsserted, member? "stripe_roles" value with
    | true, some (.arr roles) => (roles.mapM EnvelopeRole.ofJson).map some
    | true, _                 => none
    | false, _                => some none
  let userId ← text? "user_id" value
  let accountId ← text? "account_id" value
  pure {
    mode := if mode = ofString "live" then .live else .test
    operation, requestNonce, isSandbox, resource, commandJson, stripeRoles, userId, accountId
  }

end Fields

section Serialize

def EnvelopeRole.toJson (role : EnvelopeRole) : Json ν :=
  .obj (
    (role.id.elim [] fun id => [(ofString "id", .str id)]) ++ [
      (ofString "type", .str (ofString (roleTypeText role.type))),
      (ofString "name", .str role.name)
    ])

@[simp]
def EnvelopeResource.members : EnvelopeResource → List (Text × Json ν)
  | account         => [(ofString "resource_type", .str (ofString "account"))]
  | payment type id => [
    (ofString "resource_type", .str (ofString type.text)),
    (ofString "resource_id", .str id)
  ]

@[simp]
def roleMembers : Option (List EnvelopeRole) → List (Text × Json ν)
  | none       => [(ofString "roles_asserted", .bool false)]
  | some roles => [
    (ofString "roles_asserted", .bool true),
    (ofString "stripe_roles", .arr (roles.map EnvelopeRole.toJson))
  ]

def Envelope.toJson (envelope : Envelope) : Json ν :=
  .obj (
    [
      (ofString "operation", .str envelope.operation),
      (ofString "request_nonce", .str envelope.requestNonce),
      (ofString "mode", .str (ofString (modeText envelope.mode))),
      (ofString "is_sandbox", .bool envelope.isSandbox)
    ] ++ envelope.resource.members ++ [(ofString "command_json", .str envelope.commandJson)] ++
    roleMembers envelope.stripeRoles ++ [
      (ofString "user_id", .str envelope.userId),
      (ofString "account_id", .str envelope.accountId)
    ])

def serializeSignedEnvelope (format : NumberFormat ν) (envelope : Envelope) : Text :=
  CanonicalJson.stringify format (envelope.toJson : Json ν)

end Serialize

@[simp]
theorem ofString_inj {s s' : String} : ofString s = ofString s' ↔ s = s' :=
  ofString_injective.eq_iff

section Conforms

-- What `signedEnvelopeSchema` asks of the fields
def EnvelopeRole.Conforms (role : EnvelopeRole) : Prop :=
  (∀ id, role.id = some id → within 1 255 id) ∧ within 1 255 role.name

def EnvelopeResource.Conforms : EnvelopeResource → Prop
  | account      => True
  | payment _ id => matching isStripeId id ∧ within 0 255 id

def Envelope.Conforms (envelope : Envelope) : Prop :=
  matching isOperationName envelope.operation ∧ matching isUuid envelope.requestNonce ∧
    within 2 8192 envelope.commandJson ∧
    (matching isStripeUserId envelope.userId ∧ within 0 255 envelope.userId) ∧
    (matching isStripeAccountId envelope.accountId ∧ within 0 255 envelope.accountId) ∧
    envelope.resource.Conforms ∧ ∀ roles, envelope.stripeRoles = some roles →
      (1 ≤ roles.length ∧ roles.length ≤ 32) ∧ ∀ role ∈ roles, role.Conforms

end Conforms

section Parsed

variable {envelope : Envelope} {value : Json ν}

theorem parse_role {role : EnvelopeRole} :
    stripeRoleSchema.parse role.toJson = some value ↔ role.Conforms ∧ value = role.toJson := by
  rw [eq_comm (a := value)]
  obtain ⟨id, type, name⟩ := role
  cases id <;> cases type <;>
    simp [stripeRoleSchema, EnvelopeRole.toJson, roleTypeText, EnvelopeRole.Conforms,
      Option.bind_eq_some_iff, and_assoc]

theorem ofJson_role (role : EnvelopeRole) :
    EnvelopeRole.ofJson (role.toJson : Json ν) = some role := by
  obtain ⟨id, type, name⟩ := role
  cases id <;> cases type <;>
    simp [EnvelopeRole.ofJson, EnvelopeRole.toJson, text?, member?, roleTypeText]

theorem mapM_parse_role {roles : List EnvelopeRole} {values : List (Json ν)} :
    roles.mapM (stripeRoleSchema.parse ∘ EnvelopeRole.toJson) = some values ↔
      (∀ role ∈ roles, role.Conforms) ∧ values = roles.map EnvelopeRole.toJson :=
  Schema.mapM_eq_some_iff fun _ _ => parse_role

theorem mapM_ofJson_role (roles : List EnvelopeRole) :
    roles.mapM (EnvelopeRole.ofJson ∘ EnvelopeRole.toJson (ν := ν)) = some roles := by
  induction roles with
  | nil                => rfl
  | cons role roles ih =>
    simp only [List.mapM_cons, Function.comp, ofJson_role] at ih ⊢
    simp [ih]

-- The members of the envelope in the order of its schema
def Envelope.parsed (envelope : Envelope) : Json ν :=
  .obj (
    [
      (ofString "operation", .str envelope.operation),
      (ofString "request_nonce", .str envelope.requestNonce),
      (ofString "mode", .str (ofString (modeText envelope.mode))),
      (ofString "is_sandbox", .bool envelope.isSandbox),
      (ofString "command_json", .str envelope.commandJson),
      (ofString "user_id", .str envelope.userId),
      (ofString "account_id", .str envelope.accountId)
    ] ++ envelope.resource.members ++ roleMembers envelope.stripeRoles)

@[simp]
theorem modeText_known (mode : SignedMode) : modeText mode = "live" ∨ modeText mode = "test" := by
  cases mode <;> simp [modeText]

@[simp]
theorem resourceType_known (type : ResourceType) :
    type.text = "payment_intent" ∨ type.text = "charge" := by
  cases type <;> simp [ResourceType.text]

@[simp]
theorem resourceType_ne (type : ResourceType) : type.text ≠ "account" := by
  cases type <;> simp [ResourceType.text]

-- The schema takes the envelopes that conform.
theorem parse_envelope : signedEnvelopeSchema.parse envelope.toJson = some value ↔
    envelope.Conforms ∧ value = envelope.parsed := by
  rw [eq_comm (a := value)]
  obtain ⟨operation, requestNonce, mode, isSandbox, resource, commandJson, stripeRoles, userId,
    accountId⟩ := envelope
  cases resource <;> cases stripeRoles <;>
    simp [Envelope.toJson, Envelope.parsed, Envelope.Conforms, EnvelopeResource.Conforms,
      Option.bind_eq_some_iff, mapM_parse_role, and_assoc]

theorem ofJson_parsed (envelope : Envelope) :
    Envelope.ofJson (envelope.parsed : Json ν) = some envelope := by
  obtain ⟨operation, requestNonce, mode, isSandbox, resource, commandJson, stripeRoles, userId,
    accountId⟩ := envelope
  cases mode <;> rcases resource with _ | ⟨_ | _, id⟩ <;> cases stripeRoles <;>
    simp [Envelope.ofJson, Envelope.parsed, EnvelopeResource.ofJson, text?, bool?, member?, modeText,
      ResourceType.text, mapM_ofJson_role]

end Parsed

section Text

variable {format : NumberFormat ν}

-- Distinct keys, none of which is an array index
def Named (keys : List Text) : Prop :=
  keys.Nodup ∧ ∀ key ∈ keys, isIndex key = false

instance : DecidablePred Named := fun keys =>
  inferInstanceAs (Decidable (keys.Nodup ∧ ∀ key ∈ keys, isIndex key = false))

theorem propertyOrder_apply {β : Type} {members : List (Text × β)}
    (h : ∀ key ∈ members.map (·.1), isIndex key = false) : propertyOrder.apply members = members := by
  have hkey : ∀ member ∈ members, isIndex member.1 = false :=
    fun member hmember => h member.1 (List.mem_map_of_mem hmember)
  have hindices : members.filter (fun member => isIndex member.1) = [] :=
    List.filter_eq_nil_iff.mpr fun member hmember => by simp [hkey member hmember]
  have hothers : members.filter (fun member => !isIndex member.1) = members :=
    List.filter_eq_self.mpr fun member hmember => by simp [hkey member hmember]
  change ((members.filter fun member => isIndex member.1).insertionSort _ ++
    members.filter fun member => !isIndex member.1) = members
  rw [hindices, hothers]
  rfl

theorem rearrange_named {value : Json ν} (h : value.Objects Named) :
    value.rearrange propertyOrder = value := by
  induction h with
  | null | bool | num | str => rfl
  | @arr items _ ih =>
    rw [rearrange_arr, List.map_congr_left ih, List.map_id']
  | @obj members hkeys _ ih =>
    have hvalues : members.map (Prod.map id (rearrange propertyOrder)) = members := by
      conv_rhs => rw [← List.map_id members]
      exact List.map_congr_left fun member hmember => Prod.ext rfl (ih member hmember)
    rw [rearrange_obj, hvalues, propertyOrder_apply hkeys.2]

theorem named_role (role : EnvelopeRole) : (role.toJson : Json ν).Objects Named := by
  obtain ⟨id, type, name⟩ := role
  cases id <;> refine .obj ?_ ?_ <;>
    simp only [Option.elim, List.cons_append, List.nil_append, List.map_cons, List.map_nil,
      List.forall_mem_cons]
  · decide +kernel
  · exact ⟨.str, .str, List.forall_mem_nil _⟩
  · decide +kernel
  · exact ⟨.str, .str, .str, List.forall_mem_nil _⟩

theorem named_envelope (envelope : Envelope) : (envelope.toJson : Json ν).Objects Named := by
  obtain ⟨operation, requestNonce, mode, isSandbox, resource, commandJson, stripeRoles, userId,
    accountId⟩ := envelope
  have hroles (roles : List EnvelopeRole) :
      (Json.arr (roles.map EnvelopeRole.toJson) : Json ν).Objects Named := by
    refine .arr fun value hvalue => ?_
    obtain ⟨role, -, rfl⟩ := List.mem_map.mp hvalue
    exact named_role role
  cases resource <;> cases stripeRoles <;> refine .obj ?_ ?_ <;>
    simp only [EnvelopeResource.members, roleMembers, List.cons_append, List.nil_append,
      List.map_cons, List.map_nil, List.forall_mem_cons]
  · decide +kernel
  · exact ⟨.str, .str, .str, .bool, .str, .str, .bool, .str, .str, List.forall_mem_nil _⟩
  · decide +kernel
  · exact ⟨.str, .str, .str, .bool, .str, .str, .bool, hroles _, .str, .str, List.forall_mem_nil _⟩
  · decide +kernel
  · exact ⟨.str, .str, .str, .bool, .str, .str, .str, .bool, .str, .str, List.forall_mem_nil _⟩
  · decide +kernel
  · exact ⟨.str, .str, .str, .bool, .str, .str, .str, .bool, hroles _, .str, .str, List.forall_mem_nil _⟩

theorem parse_serializeSignedEnvelope (envelope : Envelope) :
    parse format (serializeSignedEnvelope format envelope) = some envelope.toJson := by
  have hnamed : (envelope.toJson : Json ν).Objects Named := named_envelope envelope
  rw [serializeSignedEnvelope, CanonicalJson.stringify, rearrange_named hnamed,
    parse_print (hnamed.mono fun _ h => h.1)]

end Text

section Verify

variable (format : NumberFormat ν)

-- The check of the header of Stripe is that of its library.
def verifySignedExtensionRequest (verifyHeader : Text → Text → Bool) (rawText : Text)
    (signature : Option Text) : Except SignedExtensionRequestError Envelope :=
  match signature with
  | none           => .error .signatureMissing
  | some signature =>
    if signature = [] then
      .error .signatureMissing
    else if verifyHeader rawText signature = false then
      .error .signatureInvalid
    else
      match parse format rawText >>= signedEnvelopeSchema.parse >>= Envelope.ofJson with
      | none          => .error .envelopeInvalid
      | some envelope =>
        if serializeSignedEnvelope format envelope ≠ rawText then
          .error .envelopeInvalid
        else
          .ok envelope

variable {format} {verifyHeader : Text → Text → Bool} {rawText signature : Text}
  {envelope : Envelope}

theorem verify_serialized (h : envelope.Conforms) :
    parse format (serializeSignedEnvelope format envelope) >>= signedEnvelopeSchema.parse >>=
      Envelope.ofJson = some envelope := by
  rw [parse_serializeSignedEnvelope, Option.bind_eq_bind, Option.bind_eq_bind, Option.bind_some,
    parse_envelope.mpr ⟨h, rfl⟩, Option.bind_some, ofJson_parsed]

theorem serializeSignedEnvelope_injective {envelope' : Envelope} (h : envelope.Conforms)
    (htext : serializeSignedEnvelope format envelope' = serializeSignedEnvelope format envelope) :
    envelope' = envelope := by
  have hparse : parse format (serializeSignedEnvelope format envelope') = some envelope'.toJson :=
    parse_serializeSignedEnvelope envelope'
  rw [htext, parse_serializeSignedEnvelope, Option.some.injEq] at hparse
  have hschema : signedEnvelopeSchema.parse envelope.toJson = some (envelope.parsed : Json ν) :=
    parse_envelope.mpr ⟨h, rfl⟩
  rw [hparse] at hschema
  have hparsed := congrArg Envelope.ofJson (parse_envelope.mp hschema).2
  rw [ofJson_parsed, ofJson_parsed] at hparsed
  exact (Option.some.inj hparsed).symm

-- An envelope that conforms has exactly one text, and only the texts of these are accepted.
theorem verifySignedExtensionRequest_eq_ok :
    verifySignedExtensionRequest format verifyHeader rawText (some signature) = .ok envelope ↔
      signature ≠ [] ∧ verifyHeader rawText signature = true ∧ envelope.Conforms ∧
        rawText = serializeSignedEnvelope format envelope := by
  constructor
  · intro h
    unfold verifySignedExtensionRequest at h
    dsimp only at h
    split_ifs at h with hempty hheader
    split at h
    case h_1 => cases h
    case h_2 parsed hparsed =>
      split_ifs at h with htext
      obtain rfl := Except.ok.inj h
      refine ⟨hempty, by simpa using hheader, ?_, (not_not.mp htext).symm⟩
      rw [← not_not.mp htext, parse_serializeSignedEnvelope] at hparsed
      simp only [Option.bind_eq_bind, Option.bind_some, Option.bind_eq_some_iff] at hparsed
      obtain ⟨value, hvalue, -⟩ := hparsed
      exact (parse_envelope.mp hvalue).1
  · rintro ⟨hempty, hheader, hconforms, rfl⟩
    rw [verifySignedExtensionRequest, if_neg hempty, if_neg (by simp [hheader])]
    simp only [verify_serialized hconforms, ne_eq, not_true, if_false]

end Verify

end RefundDesk.Contracts
