import RefundDesk.Platform.PilotRoute

namespace RefundDesk

open Utf16 Json Contracts

variable {ν : Type}

-- What the extension is given at runtime. The roles are not checked by then.
structure ExtensionContext (ν : Type) where
  mode      : SignedMode
  userId    : Option Text
  userName  : Option Text
  roles     : Option (Json ν)
  accountId : Text
  isSandbox : Bool
  apiBase   : Option Text

-- The resource is the account, or a charge or payment intent by its identifier. A number of the command
-- that is not finite is none.
structure SignedRequestInput (ν : Type) where
  endpoint     : String
  operation    : Text
  resource     : EnvelopeResource
  command      : Json (Option ν)
  requestNonce : Option Text

structure PreparedSignedRequest (ν : Type) where
  apiUrl           : Text
  body             : Text
  signaturePayload : Json ν

inductive SignedFetchFailure
  | apiConfigurationInvalid
  | identityUnavailable
  | liveModeDisabled
  | roleContextInvalid
  | typeError (error : CanonicalJson.TypeError)
  deriving DecidableEq, Repr

-- A location with the text that it is written back as
structure Location where
  protocol : String
  hostname : String
  href     : Text
  deriving DecidableEq, Repr

-- What the extension takes from its runtime: numbers, the collation of its locale, the parser of
-- locations and the next random nonce.
structure ExtensionRuntime (ν : Type) where
  numbers            : JsonNumbers ν
  collation          : Collation
  parseLocation      : Text → Option Location
  createRequestNonce : Except SignedFetchFailure Text

namespace SignedFetch

section Definitions

variable (runtime : ExtensionRuntime ν) (context : ExtensionContext ν)

def isLocalDevelopmentUrl (url : Location) : Bool :=
  url.protocol = "http:" ∧ url.hostname ∈ ["localhost", "127.0.0.1", "[::1]"]

def getApiBase : Except SignedFetchFailure Text :=
  match context.apiBase.bind runtime.parseLocation with
  | none     => .error .apiConfigurationInvalid
  | some url =>
    if url.protocol ≠ "https:" ∧ isLocalDevelopmentUrl url = false then
      .error .apiConfigurationInvalid
    else
      .ok (url.href.rdropWhile fun unit => (ofString "/").contains unit)

def getPilotEnvironment : Except SignedFetchFailure StripeEnvironment :=
  if context.mode = .live then .error .liveModeDisabled
  else .ok (if context.isSandbox then .sandbox else .test)

def isAdministratorRole (role : EnvelopeRole) : Bool :=
  match role.type, role.id with
  | .custom, _        => false
  | .builtIn, none    =>
    role.name = ofString "Administrator" ∨ role.name = ofString "Super Administrator"
  | .builtIn, some id => id = ofString "admin" ∨ id = ofString "super_admin"

def roleTypeOf (type : Text) : Option StripeRoleType :=
  if type = ofString "builtIn" then some .builtIn
  else if type = ofString "custom" then some .custom
  else none

-- The fields of a record that are read; its others are left behind.
def roleOf : Json ν → Except SignedFetchFailure EnvelopeRole
  | .obj members =>
    match member? "id" (Json.obj members), text? "name" (Json.obj members),
        (text? "type" (Json.obj members)).bind roleTypeOf with
    | none, some name, some type           =>
      if 0 < name.length ∧ name.length ≤ 255 then .ok { id := none, type, name }
      else .error .roleContextInvalid
    | some (.str id), some name, some type =>
      if (0 < id.length ∧ id.length ≤ 255) ∧ 0 < name.length ∧ name.length ≤ 255 then
        .ok { id := some id, type, name }
      else
        .error .roleContextInvalid
    | _, _, _                              => .error .roleContextInvalid
  | _ => .error .roleContextInvalid

def normalizedStripeRoles : Except SignedFetchFailure (List EnvelopeRole) :=
  match context.roles with
  | none | some .null  => .ok []
  | some (.arr roles)  =>
    if 32 < roles.length then .error .roleContextInvalid else roles.mapM roleOf
  | some _             => .error .roleContextInvalid

def isAdministrator : Except SignedFetchFailure Bool := do
  let roles ← normalizedStripeRoles context
  pure (roles.any isAdministratorRole)

def requireIdentity : Except SignedFetchFailure (Text × Text) :=
  match context.userId with
  | none        => .error .identityUnavailable
  | some userId =>
    if userId = [] ∨ context.accountId = [] then .error .identityUnavailable
    else .ok (context.accountId, userId)

def resourceMembers : EnvelopeResource → List (Text × Json ν)
  | .account         => [(ofString "resource_type", .str (ofString "account"))]
  | .payment type id => [
    (ofString "resource_type", .str (ofString type.text)),
    (ofString "resource_id", .str id)
  ]

def commonPayload (input : SignedRequestInput ν) (requestNonce commandJson : Text) :
    List (Text × Json ν) :=
  [
    (ofString "operation", .str input.operation),
    (ofString "request_nonce", .str requestNonce),
    (ofString "mode", .str (ofString "test")),
    (ofString "is_sandbox", .bool context.isSandbox)
  ] ++ resourceMembers input.resource ++ [(ofString "command_json", .str commandJson)]

def roleAssertion (roles : List EnvelopeRole) : List (Text × Json ν) :=
  if roles.any isAdministratorRole then [
    (ofString "roles_asserted", .bool true),
    (ofString "stripe_roles", .arr (roles.map EnvelopeRole.toJson))
  ]
  else [(ofString "roles_asserted", .bool false)]

def nonceOf (input : SignedRequestInput ν) : Except SignedFetchFailure Text :=
  match input.requestNonce with
  | some requestNonce => .ok requestNonce
  | none              => runtime.createRequestNonce

def prepareSignedRequest (input : SignedRequestInput ν) :
    Except SignedFetchFailure (PreparedSignedRequest ν) := do
  let _ ← getPilotEnvironment context
  let (accountId, userId) ← requireIdentity context
  let normalizedRoles ← normalizedStripeRoles context
  let requestNonce ← nonceOf runtime input
  let commandJson ← (CanonicalJson.StripeApp.canonicalJson runtime.collation
    runtime.numbers.format input.command).mapError .typeError
  let signaturePayload :=
    commonPayload context input requestNonce commandJson ++ roleAssertion normalizedRoles
  let body := CanonicalJson.stringify runtime.numbers.format
    (.obj (signaturePayload ++ [
      (ofString "user_id", .str userId),
      (ofString "account_id", .str accountId)
    ]))
  let apiBase ← getApiBase runtime context
  pure {
    apiUrl           := apiBase ++ ofString input.endpoint
    signaturePayload := .obj signaturePayload
    body
  }

end Definitions

def envelopeOf (context : ExtensionContext ν) (input : SignedRequestInput ν)
    (requestNonce commandJson userId accountId : Text) (roles : List EnvelopeRole) : Envelope where
  mode        := .test
  isSandbox   := context.isSandbox
  operation   := input.operation
  resource    := input.resource
  stripeRoles := if roles.any isAdministratorRole then some roles else none
  requestNonce := requestNonce
  commandJson := commandJson
  userId      := userId
  accountId   := accountId

section Prepared

variable {runtime : ExtensionRuntime ν} {context : ExtensionContext ν}
variable {input : SignedRequestInput ν} {prepared : PreparedSignedRequest ν}

-- The envelope that a body is the text of
structure Prepares (runtime : ExtensionRuntime ν) (context : ExtensionContext ν)
    (input : SignedRequestInput ν) (envelope : Envelope) : Prop where
  operation : envelope.operation = input.operation
  nonce     : nonceOf runtime input = .ok envelope.requestNonce
  mode      : envelope.mode = .test ∧ context.mode = .test
  isSandbox : envelope.isSandbox = context.isSandbox
  resource  : envelope.resource = input.resource
  command   : CanonicalJson.StripeApp.canonicalJson runtime.collation runtime.numbers.format
    input.command = .ok envelope.commandJson
  roles     : ∃ roles, normalizedStripeRoles context = .ok roles ∧
    envelope.stripeRoles = if roles.any isAdministratorRole then some roles else none
  userId    : context.userId = some envelope.userId
  accountId : envelope.accountId = context.accountId

theorem getPilotEnvironment_eq_ok {environment : StripeEnvironment}
    (h : getPilotEnvironment context = .ok environment) : context.mode = .test := by
  cases hmode : context.mode with
  | live => simp [getPilotEnvironment, hmode] at h
  | test => rfl

theorem requireIdentity_eq_ok {accountId userId : Text} :
    requireIdentity context = .ok (accountId, userId) ↔
      (context.userId = some userId ∧ userId ≠ []) ∧ context.accountId = accountId ∧
        accountId ≠ [] := by
  unfold requireIdentity
  cases context.userId with
  | none        => simp
  | some signer =>
    dsimp only
    split_ifs with hempty
    · simp only [Option.some.injEq, false_iff]
      rintro ⟨⟨rfl, huser⟩, rfl, haccount⟩
      exact hempty.elim huser haccount
    · rw [not_or] at hempty
      simp only [Except.ok.injEq, Prod.mk.injEq, Option.some.injEq]
      constructor
      · rintro ⟨rfl, rfl⟩
        exact ⟨⟨rfl, hempty.1⟩, rfl, hempty.2⟩
      · rintro ⟨⟨rfl, -⟩, rfl, -⟩
        exact ⟨rfl, rfl⟩

-- The members come in the order of the envelope.
theorem payload_eq_toJson (requestNonce commandJson userId accountId : Text)
    (roles : List EnvelopeRole) :
    (Json.obj (commonPayload context input requestNonce commandJson ++ roleAssertion roles ++ [
      (ofString "user_id", .str userId),
      (ofString "account_id", .str accountId)
    ]) : Json ν) =
      (envelopeOf context input requestNonce commandJson userId accountId roles).toJson := by
  unfold envelopeOf Envelope.toJson commonPayload roleAssertion
  split_ifs <;> cases input.resource <;> rfl

theorem prepares_of_prepareSignedRequest
    (h : prepareSignedRequest runtime context input = .ok prepared) :
    ∃ envelope, Prepares runtime context input envelope ∧
      prepared.body = serializeSignedEnvelope runtime.numbers.format envelope := by
  simp only [prepareSignedRequest, Except.bind_eq_ok, mapError_eq_ok] at h
  obtain ⟨environment, henvironment, ⟨accountId, userId⟩, hidentity, roles, hroles, requestNonce,
    hnonce, commandJson, hcommand, apiBase, -, h⟩ := h
  obtain rfl := Except.ok.inj h
  obtain ⟨huser, haccount⟩ := requireIdentity_eq_ok.mp hidentity
  refine ⟨envelopeOf context input requestNonce commandJson userId accountId roles, ?_, ?_⟩
  · exact ⟨rfl, hnonce, ⟨rfl, getPilotEnvironment_eq_ok henvironment⟩, rfl, rfl, hcommand,
      ⟨roles, hroles, rfl⟩, huser.1, haccount.1.symm⟩
  · exact congrArg (CanonicalJson.stringify runtime.numbers.format)
      (payload_eq_toJson requestNonce commandJson userId accountId roles)

theorem within_iff {low high : Nat} {text : Text} :
    within low high text ↔ low ≤ text.length ∧ text.length ≤ high := by
  simp [within]

theorem conforms_of_roleOf {value : Json ν} {role : EnvelopeRole} (h : roleOf value = .ok role) :
    role.Conforms := by
  unfold roleOf at h
  split at h
  case h_2 => cases h
  split at h
  case h_3 => cases h
  case h_1 =>
    split_ifs at h with hname
    obtain rfl := Except.ok.inj h
    exact ⟨by simp, within_iff.mpr hname⟩
  case h_2 =>
    split_ifs at h with hname
    obtain rfl := Except.ok.inj h
    refine ⟨fun id hid => ?_, within_iff.mpr hname.2⟩
    obtain rfl := Option.some.inj hid
    exact within_iff.mpr hname.1

theorem conforms_of_normalizedStripeRoles {roles : List EnvelopeRole}
    (h : normalizedStripeRoles context = .ok roles) :
    roles.length ≤ 32 ∧ ∀ role ∈ roles, role.Conforms := by
  unfold normalizedStripeRoles at h
  split at h
  case h_1 | h_2 =>
    obtain rfl := Except.ok.inj h
    simp
  case h_3 values _ =>
    split_ifs at h with hlength
    have hmapM {values : List (Json ν)} {roles : List EnvelopeRole}
        (h : values.mapM roleOf = .ok roles) :
        roles.length = values.length ∧ ∀ role ∈ roles, role.Conforms := by
      induction values generalizing roles with
      | nil                => cases h; simp
      | cons value values ih =>
        simp only [List.mapM_cons, Except.bind_eq_ok] at h
        obtain ⟨role, hrole, rest, hrest, h⟩ := h
        obtain rfl := Except.ok.inj h
        obtain ⟨hlength, hall⟩ := ih hrest
        exact ⟨congrArg (· + 1) hlength,
          List.forall_mem_cons.mpr ⟨conforms_of_roleOf hrole, hall⟩⟩
    obtain ⟨hsame, hall⟩ := hmapM h
    exact ⟨by omega, hall⟩
  case h_4 => cases h

end Prepared

section Transport

variable {runtime : ExtensionRuntime ν} {context : ExtensionContext ν}
variable {input : SignedRequestInput ν} {prepared : PreparedSignedRequest ν}
variable {dependencies : PilotRouteDependencies ν} {operation : PilotOperation}
variable {request : PilotRouteRequest} {dispatch : PilotRouteDispatch ν}
variable {command parsed : Json ν} {commandJson : Text}

theorem canonical_of_parse
    (hkeys : CanonicalJson.Distinguished dependencies.collation runtime.collation commandKeys)
    (hcommand : command.WellFormed)
    (h : (operationSchemas dependencies.numbers operation).parse command = some parsed) :
    (parsed.WellFormed ∧
      CanonicalJson.Distinguishes dependencies.collation runtime.collation parsed) ∧
      CanonicalJson.Distinguishes dependencies.collation runtime.collation command := by
  have hschema := keys_operationSchemas dependencies.numbers operation
  have hsub (keys : List Text) (h : keys ⊆ commandKeys) :
      CanonicalJson.Distinguished dependencies.collation runtime.collation keys :=
    ⟨fun hkey => hkeys.prototype (h hkey),
      fun key hkey key' hkey' => hkeys.apart key (h hkey) key' (h hkey'),
      fun key hkey key' hkey' => hkeys.agree key (h hkey) key' (h hkey')⟩
  have hparsed := Schema.objects_of_parse (fun keys keys' hkeys h =>
    ⟨h.1.sublist hkeys, List.Subset.trans hkeys.subset h.2⟩) hschema h
  have hgiven := Schema.objects_of_parsed (P := (· ⊆ commandKeys))
    (fun keys keys' hkeys h => List.Subset.trans hkeys h) (hschema.mono fun _ h => h.2) hcommand h
  exact ⟨⟨hparsed.mono fun _ h => h.1, hparsed.mono fun keys h => hsub keys h.2⟩,
    hgiven.mono hsub⟩

-- The command is dispatched exactly when the schema leaves it as it is.
theorem signedCommand_canonical_iff
    (hkeys : CanonicalJson.Distinguished dependencies.collation runtime.collation commandKeys)
    (hcommand : command.WellFormed) (hnumbers : runtime.numbers = dependencies.numbers)
    (htext : CanonicalJson.StripeApp.canonicalJson runtime.collation runtime.numbers.format
      (command.map some) = .ok commandJson) :
    PilotRoute.signedCommand dependencies operation commandJson = .ok parsed ↔
      (operationSchemas dependencies.numbers operation).parse command = some parsed ∧
        Same command parsed := by
  rw [hnumbers] at htext
  have hparse : parseOperationCommand dependencies.numbers operation commandJson =
      (operationSchemas dependencies.numbers operation).parse command := by
    rw [CanonicalJson.StripeApp.canonicalJson_map, Except.ok.injEq] at htext
    have hsame := same_rearrange hcommand (objects_true command)
      (permutes_inOrder (P := fun _ => True) (r := runtime.collation.Le))
    have hwell := (hsame.objects unordered_nodup).mp hcommand
    rw [parseOperationCommand, ← htext, parse_print hwell, Option.bind_eq_bind, Option.bind_some,
      ← Schema.parse_same hsame hcommand hwell]
  rw [PilotRoute.signedCommand_eq_ok, hparse, and_congr_right_iff]
  intro hparsed
  obtain ⟨⟨hwell, hdistinct⟩, hgiven⟩ := canonical_of_parse hkeys hcommand hparsed
  have hcanonical : CanonicalJson.Canonical dependencies.collation runtime.collation
      dependencies.numbers.format command := CanonicalJson.canonical_of_distinguishes hcommand hgiven
  have hcanonical' : CanonicalJson.Canonical dependencies.collation runtime.collation
      dependencies.numbers.format parsed := CanonicalJson.canonical_of_distinguishes hwell hdistinct
  obtain ⟨text, hserver, hclient⟩ := hcanonical
  obtain ⟨text', hserver', -⟩ := hcanonical'
  obtain rfl : text = commandJson :=
    Except.ok.inj ((hclient.ordered command rfl).symm.trans htext)
  rw [← hserver.eq_iff hserver', hserver.ordered command rfl]
  exact eq_comm

theorem toNat_of_ofNat {n : Nat} {c : Char} (h : Char.ofNat n = c) (hc : 0 < c.toNat) :
    c.toNat = n := by
  subst h
  unfold Char.ofNat at hc ⊢
  split_ifs with hvalid
  · rfl
  · rw [dif_neg hvalid] at hc
    exact absurd hc (by decide)

theorem hasUnits_of_prefix {start : String} {text : Text}
    (hstart : ∀ c ∈ start.toList, 0 < c.toNat ∧ c.toNat < 0x10000)
    (h : start.toList <+: (characters text).toList) : PilotRoute.hasUnits start text := by
  rw [characters, String.toList_ofList] at h
  rw [PilotRoute.hasUnits, List.isPrefixOf_iff_prefix, ofString]
  generalize start.toList = chars at hstart h ⊢
  induction chars generalizing text with
  | nil          => exact List.nil_prefix
  | cons c cs ih =>
    cases text with
    | nil       => simp at h
    | cons u us =>
      rw [List.map_cons, List.cons_prefix_cons] at h
      rw [List.forall_mem_cons] at hstart
      obtain ⟨hunit, hrest⟩ := h
      have hu : Fin.ofNat 65536 c.toNat = u := by
        rw [toNat_of_ofNat hunit.symm hstart.1.1, Fin.ofNat_val_eq_self]
      rw [List.flatMap_cons, encodeChar, if_pos hstart.1.2, List.singleton_append, hu,
        List.cons_prefix_cons]
      exact ⟨rfl, ih hstart.2 hrest⟩

theorem hasUnits_account {text : Text} (h : matching isStripeAccountId text) :
    PilotRoute.hasUnits "acct_" text := by
  refine hasUnits_of_prefix (by simp) ?_
  unfold matching isStripeAccountId at h
  split at h
  case h_1 cs hcs => rw [hcs]; exact ⟨cs, rfl⟩
  case h_2 => cases h

theorem hasUnits_user {text : Text} (h : matching isStripeUserId text) :
    PilotRoute.hasUnits "usr_" text := by
  refine hasUnits_of_prefix (by simp) ?_
  unfold matching isStripeUserId at h
  split at h
  case h_1 cs hcs => rw [hcs]; exact ⟨cs, rfl⟩
  case h_2 => cases h

-- The body reaches the route of its operation with a signature that is good.
structure Delivered (dependencies : PilotRouteDependencies ν) (operation : PilotOperation)
    (context : ExtensionContext ν) (prepared : PreparedSignedRequest ν)
    (request : PilotRouteRequest) : Prop where
  text     : request.rawText = prepared.body
  route    : PilotRoute.assertRoute operation request = .ok ()
  signed   : ∃ signature, request.stripeSignature = some signature ∧ signature ≠ [] ∧
    dependencies.verifyHeader request.rawText signature = true
  size     : PilotRoute.byteCount request.rawText ≤ PilotRoute.maxSignedBodyBytes
  admitted : ∀ environment,
    dependencies.admits context.accountId environment operation.mutation = true
  attested : ∀ envelope, prepared.body = serializeSignedEnvelope dependencies.numbers.format envelope →
    ∃ approvalAttestationId, dependencies.attestApproval envelope = .ok approvalAttestationId

-- What the schemas and the route of the operation ask of a request
structure Fits (runtime : ExtensionRuntime ν) (numbers : JsonNumbers ν) (operation : PilotOperation)
    (context : ExtensionContext ν) (input : SignedRequestInput ν) (command : Json ν) : Prop where
  named     : input.operation = ofString (operationName operation)
  nonce     : ∀ requestNonce, nonceOf runtime input = .ok requestNonce → matching isUuid requestNonce
  userId    : ∀ userId, context.userId = some userId →
    matching isStripeUserId userId ∧ within 0 255 userId
  accountId : matching isStripeAccountId context.accountId ∧ within 0 255 context.accountId
  resource  : input.resource.Conforms ∧
    ∃ resource, PilotRoute.signedResource operation input.resource = .ok resource
  length    : ∀ commandJson, CanonicalJson.StripeApp.canonicalJson runtime.collation
    runtime.numbers.format input.command = .ok commandJson → commandJson.length ≤ 8192
  command   : ∃ parsed, (operationSchemas numbers operation).parse command = some parsed ∧
    Same command parsed

-- The service is asked for what the extension was.
structure Carries (runtime : ExtensionRuntime ν) (operation : PilotOperation)
    (context : ExtensionContext ν) (input : SignedRequestInput ν) (command : Json ν)
    (dispatch : PilotRouteDispatch ν) : Prop where
  named       : dispatch.operation = operation ∧ input.operation = ofString (operationName operation)
  nonce       : nonceOf runtime input = .ok dispatch.requestNonce
  command     : Same command dispatch.command
  resource    : dispatch.resource = PilotRoute.payment? input.resource
  accountId   : dispatch.identity.accountId = context.accountId
  userId      : context.userId = some dispatch.identity.userId
  environment : getPilotEnvironment context = .ok dispatch.identity.environment
  roles       : ∃ roles, normalizedStripeRoles context = .ok roles ∧
    dispatch.identity.rolesAsserted = roles.any isAdministratorRole ∧
    dispatch.identity.roles = if roles.any isAdministratorRole then roles else []

theorem two_le_length (h : (operationSchemas dependencies.numbers operation).parse command = some parsed)
    (htext : CanonicalJson.StripeApp.canonicalJson runtime.collation runtime.numbers.format
      (command.map some) = .ok commandJson) : 2 ≤ commandJson.length := by
  have hobject : ∃ members, command = .obj members := by
    cases command with
    | obj members => exact ⟨members, rfl⟩
    | null | bool | num | str | arr => cases operation <;> cases h
  obtain ⟨members, rfl⟩ := hobject
  rw [CanonicalJson.StripeApp.canonicalJson_map, Except.ok.injEq, rearrange_obj, print] at htext
  subst htext
  cases (inOrder runtime.collation.Le).apply _ with
  | nil => simp [printMembers]
  | cons member members => simp [printMembers]; omega

theorem conforms_of_fits {envelope : Envelope} (henvelope : Prepares runtime context input envelope)
    (hcommand : input.command = command.map some)
    (h : Fits runtime dependencies.numbers operation context input command) :
    envelope.Conforms := by
  obtain ⟨parsed, hparsed, -⟩ := h.command
  obtain ⟨roles, hroles, hasserted⟩ := henvelope.roles
  obtain ⟨hcount, hconforms⟩ := conforms_of_normalizedStripeRoles hroles
  have hlength := two_le_length hparsed (hcommand ▸ henvelope.command)
  refine ⟨?operation, h.nonce _ henvelope.nonce, ?command, h.userId _ henvelope.userId, ?account,
    ?resource, ?roles⟩
  case operation =>
    rw [henvelope.operation, h.named]
    cases operation <;> decide +kernel
  case command => exact within_iff.mpr ⟨hlength, h.length _ henvelope.command⟩
  case account => exact henvelope.accountId ▸ h.accountId
  case resource => exact henvelope.resource ▸ h.resource.1
  case roles =>
    intro signed hsigned
    rw [hasserted] at hsigned
    split_ifs at hsigned with hadministrator
    obtain rfl := Option.some.inj hsigned
    obtain ⟨role, hrole, -⟩ := List.any_eq_true.mp hadministrator
    exact ⟨⟨List.length_pos_of_mem hrole, hcount⟩, hconforms⟩

theorem fits_of_conforms {envelope : Envelope} {resource : Option (ResourceType × Text)}
    (henvelope : Prepares runtime context input envelope) (hconforms : envelope.Conforms)
    (hnamed : envelope.operation = ofString (operationName operation))
    (hresource : PilotRoute.signedResource operation envelope.resource = .ok resource)
    (hparsed : (operationSchemas dependencies.numbers operation).parse command = some parsed ∧
      Same command parsed) :
    Fits runtime dependencies.numbers operation context input command := by
  obtain ⟨-, hnonce, hcommand, huser, haccount, hsigned, -⟩ := hconforms
  refine ⟨henvelope.operation ▸ hnamed, ?nonce, ?user, henvelope.accountId ▸ haccount, ?resource,
    ?length, ⟨parsed, hparsed⟩⟩
  case nonce =>
    intro requestNonce h
    rw [Except.ok.inj (h.symm.trans henvelope.nonce)]
    exact hnonce
  case user =>
    intro userId h
    rw [Option.some.inj (h.symm.trans henvelope.userId)]
    exact huser
  case resource => exact henvelope.resource ▸ ⟨hsigned, resource, hresource⟩
  case length =>
    intro commandJson h
    rw [Except.ok.inj (h.symm.trans henvelope.command)]
    exact (within_iff.mp hcommand).2

theorem carries_of_dispatches {envelope : Envelope} {rawText : Text}
    (henvelope : Prepares runtime context input envelope)
    (h : PilotRoute.Dispatches dependencies operation rawText envelope dispatch)
    (hsame : Same command dispatch.command) :
    Carries runtime operation context input command dispatch := by
  obtain ⟨-, hidentity, -, hoperation, hnonce⟩ := h.request
  obtain ⟨roles, hroles, hasserted⟩ := henvelope.roles
  refine ⟨⟨hoperation, henvelope.operation ▸ h.named⟩, hnonce ▸ henvelope.nonce, hsame,
    henvelope.resource ▸ PilotRoute.payment?_of_signedResource h.resource, ?_, ?_, ?_,
    ⟨roles, hroles, ?_⟩⟩ <;> rw [hidentity]
  · exact henvelope.accountId
  · exact henvelope.userId
  · simp [getPilotEnvironment, henvelope.mode.2, PilotRoute.identityOf, PilotRoute.environmentOf,
      henvelope.isSandbox]
  · rw [PilotRoute.identityOf, hasserted]
    split_ifs with hadministrator <;> simp [hadministrator]

-- A request that is delivered is dispatched as it was made, and it is refused only where the schemas
-- or the route of the operation ask for something else.
theorem handlePilotRoute_prepared
    (hprepared : prepareSignedRequest runtime context input = .ok prepared)
    (hcommand : input.command = command.map some) (hwell : command.WellFormed)
    (hnumbers : runtime.numbers = dependencies.numbers)
    (hkeys : CanonicalJson.Distinguished dependencies.collation runtime.collation commandKeys)
    (hdelivered : Delivered dependencies operation context prepared request) :
    ((∃ dispatch, PilotRoute.handlePilotRoute dependencies operation request = .ok dispatch) ↔
      Fits runtime dependencies.numbers operation context input command) ∧
    ∀ dispatch, PilotRoute.handlePilotRoute dependencies operation request = .ok dispatch →
      Carries runtime operation context input command dispatch := by
  obtain ⟨envelope, henvelope, hbody⟩ := prepares_of_prepareSignedRequest hprepared
  rw [hnumbers] at hbody
  have hsigned {parsed : Json ν} :
      PilotRoute.signedCommand dependencies operation envelope.commandJson = .ok parsed ↔
        (operationSchemas dependencies.numbers operation).parse command = some parsed ∧
          Same command parsed :=
    signedCommand_canonical_iff hkeys hwell hnumbers (hcommand ▸ henvelope.command)
  have hdispatched {dispatch : PilotRouteDispatch ν}
      (h : PilotRoute.handlePilotRoute dependencies operation request = .ok dispatch) :
      PilotRoute.Dispatches dependencies operation request.rawText envelope dispatch := by
    obtain ⟨envelope', h⟩ := PilotRoute.dispatches_of_handlePilotRoute h
    have htext := hbody.symm.trans (hdelivered.text.symm.trans h.text)
    rwa [serializeSignedEnvelope_injective h.conforms htext]
  refine ⟨⟨?fits, ?dispatched⟩, fun dispatch h => ?carries⟩
  case fits =>
    rintro ⟨dispatch, h⟩
    have hdispatch := hdispatched h
    exact fits_of_conforms henvelope hdispatch.conforms hdispatch.named hdispatch.resource
      (hsigned.mp hdispatch.command)
  case dispatched =>
    intro hfits
    have hconforms := conforms_of_fits henvelope hcommand hfits
    obtain ⟨signature, hsignature, hpresent, hverify⟩ := hdelivered.signed
    obtain ⟨resource, hresource⟩ := hfits.resource.2
    obtain ⟨parsed, hparsed⟩ := hfits.command
    have hidentity : PilotRoute.assertIdentity envelope = .ok () :=
      PilotRoute.assertIdentity_eq_ok.mpr ⟨hasUnits_account hconforms.2.2.2.2.1.1,
        hasUnits_user hconforms.2.2.2.1.1, henvelope.mode.1⟩
    obtain ⟨attestation, hattestation⟩ : ∃ attestation,
        PilotRoute.approvalAttestation dependencies operation envelope parsed = .ok attestation := by
      obtain ⟨attested, hattested⟩ := hdelivered.attested envelope hbody
      unfold PilotRoute.approvalAttestation
      split_ifs
      · exact ⟨some attested, by rw [hattested]; rfl⟩
      · exact ⟨none, rfl⟩
    exact ⟨_, PilotRoute.handlePilotRoute_of_conforms hdelivered.route hsignature hpresent
      hdelivered.size hverify (henvelope.accountId ▸ hdelivered.admitted _) hconforms
      (hdelivered.text.trans hbody) hidentity (henvelope.operation ▸ hfits.named)
      (henvelope.resource ▸ hresource) (hsigned.mpr hparsed) hattestation⟩
  case carries =>
    have hdispatch := hdispatched h
    exact carries_of_dispatches henvelope hdispatch (hsigned.mp hdispatch.command).2

end Transport

end SignedFetch

namespace Pilot

open SignedFetch

def extensionRuntime : ExtensionRuntime Int where
  numbers            := integerNumbers
  collation          := unitOrder
  parseLocation      := fun text => some { protocol := "https:", hostname := "localhost", href := text }
  createRequestNonce := .ok secondNonce

def administratorContext : ExtensionContext Int where
  mode      := .test
  userId    := some (ofString "usr_1")
  userName  := some (ofString "Ada")
  roles     := some (.arr [.obj [
    (ofString "id", .str (ofString "admin")),
    (ofString "type", .str (ofString "builtIn")),
    (ofString "name", .str (ofString "Administrator"))
  ]])
  accountId := ofString "acct_1"
  isSandbox := true
  apiBase   := some (ofString "https://localhost/api/")

def cancelCommand : Json Int :=
  .obj [(ofString "request_id", .str secondNonce)]

def cancelInput : SignedRequestInput Int where
  endpoint     := "/v1/refund-requests/cancel"
  operation    := ofString "refund_request.cancel"
  resource     := .payment .charge (ofString "ch_1")
  command      := cancelCommand.map some
  requestNonce := some firstNonce

def cancelPrepared : Option (PreparedSignedRequest Int) :=
  (prepareSignedRequest extensionRuntime administratorContext cancelInput).toOption

def cancelRequest : PilotRouteRequest where
  pathname        := "/api/v1/refund-requests/cancel"
  search          := ""
  stripeSignature := some (ofString "signature")
  rawText         := cancelPrepared.elim [] (·.body)

theorem handlePilotRoute_prepared_cancel : ∃ dispatch,
    PilotRoute.handlePilotRoute routeDependencies .refundRequestCancel cancelRequest =
      .ok dispatch ∧
    Carries extensionRuntime .refundRequestCancel administratorContext cancelInput cancelCommand
      dispatch := by
  obtain ⟨prepared, hprepared, hbody⟩ : ∃ prepared, prepareSignedRequest extensionRuntime
      administratorContext cancelInput = .ok prepared ∧ cancelRequest.rawText = prepared.body :=
    ⟨_, rfl, rfl⟩
  have hdelivered : Delivered routeDependencies .refundRequestCancel administratorContext prepared
      cancelRequest :=
    ⟨hbody, by decide +kernel, ⟨_, rfl, by decide +kernel, by simp [routeDependencies]⟩,
      by decide +kernel, fun _ => rfl, fun _ _ => ⟨_, rfl⟩⟩
  have hkeys : CanonicalJson.Distinguished routeDependencies.collation extensionRuntime.collation
      commandKeys :=
    unitOrder_distinguished (by decide +kernel)
  have hcancel := handlePilotRoute_prepared hprepared rfl
    (.obj (by decide +kernel) (by simp [Objects.str])) rfl hkeys hdelivered
  have hfits : Fits extensionRuntime routeDependencies.numbers .refundRequestCancel
      administratorContext cancelInput cancelCommand := by
    refine ⟨rfl, ?_, ?_, by decide +kernel, ⟨⟨by decide +kernel, by decide +kernel⟩, _, rfl⟩, ?_, _,
      rfl, rfl⟩
    · rintro _ ⟨⟩
      decide +kernel
    · rintro _ ⟨⟩
      decide +kernel
    · rintro _ ⟨⟩
      decide +kernel
  obtain ⟨dispatch, hdispatch⟩ := hcancel.1.mpr hfits
  exact ⟨dispatch, hdispatch, hcancel.2 dispatch hdispatch⟩

end Pilot
end RefundDesk
