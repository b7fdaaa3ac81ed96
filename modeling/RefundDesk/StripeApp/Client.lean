import RefundDesk.StripeApp.SignedFetch

namespace RefundDesk

open Utf16 Json Contracts

variable {ν : Type}

structure PaymentResource where
  resourceType : ResourceType
  resourceId   : Text
  deriving DecidableEq, Repr

inductive RequestScope
  | allActivity
  | awaitingMyApproval
  | myRequests
  deriving DecidableEq, Repr

def RequestScope.text : RequestScope → String
  | allActivity        => "all_activity"
  | awaitingMyApproval => "awaiting_my_approval"
  | myRequests         => "my_requests"

structure CreateRefundCommand where
  amountMinor   : Text
  currency      : Text
  reason        : RefundReason
  justification : Text
  deriving DecidableEq, Repr

structure RefundApprovalSnapshot where
  amountMinor     : Text
  currency        : Text
  reason          : RefundReason
  requesterUserId : Text
  deriving DecidableEq, Repr

inductive RefundDecisionCommand (ν : Type)
  | approve (requestId : Text) (expectedRequestVersion : ν) (approvalSnapshot : RefundApprovalSnapshot)
  | reject (requestId : Text) (justification : Text)
  deriving DecidableEq, Repr

structure SettingsCommand where
  approverUserIds     : List Text
  onboardingCompleted : Bool
  deriving DecidableEq, Repr

namespace RefundDeskApi

def accountResource : EnvelopeResource :=
  .account

def resourceOf (resource : PaymentResource) : EnvelopeResource :=
  .payment resource.resourceType resource.resourceId

section Commands

def displayName (userName : Option Text) : Option Text :=
  match userName with
  | none      => none
  | some name =>
    if 0 < (trimUnits name).length then some ((trimUnits name).take 255) else none

def syncContextCommand (userName : Option Text) : Json ν :=
  .obj ((displayName userName).elim [] fun name => [(ofString "display_name", .str name)])

def createRefundCommand (command : CreateRefundCommand) : Json ν :=
  .obj [
    (ofString "amount_minor", .str command.amountMinor),
    (ofString "currency", .str command.currency),
    (ofString "reason", .str (ofString command.reason.text)),
    (ofString "justification", .str command.justification)
  ]

def cursorMember (cursor : Option Text) : List (Text × Json ν) :=
  cursor.elim [] fun cursor => [(ofString "cursor", .str cursor)]

def listRequestsCommand (numbers : JsonNumbers ν) (scope : RequestScope) (cursor : Option Text) :
    Json ν :=
  .obj ([
    (ofString "scope", .str (ofString scope.text)),
    (ofString "limit", .num (numbers.ofInteger 25))
  ] ++ cursorMember cursor)

def requestIdCommand (requestId : Text) : Json ν :=
  .obj [(ofString "request_id", .str requestId)]

def snapshotOf (snapshot : RefundApprovalSnapshot) : Json ν :=
  .obj [
    (ofString "amount_minor", .str snapshot.amountMinor),
    (ofString "currency", .str snapshot.currency),
    (ofString "reason", .str (ofString snapshot.reason.text)),
    (ofString "requester_user_id", .str snapshot.requesterUserId)
  ]

def decisionCommand : RefundDecisionCommand ν → Json ν
  | .approve requestId expectedRequestVersion approvalSnapshot => .obj [
    (ofString "request_id", .str requestId),
    (ofString "decision", .str (ofString "approve")),
    (ofString "expected_request_version", .num expectedRequestVersion),
    (ofString "approval_snapshot", snapshotOf approvalSnapshot)
  ]
  | .reject requestId justification => .obj [
    (ofString "request_id", .str requestId),
    (ofString "decision", .str (ofString "reject")),
    (ofString "justification", .str justification)
  ]

def listAlertsCommand (numbers : JsonNumbers ν) (cursor : Option Text) : Json ν :=
  .obj ([(ofString "limit", .num (numbers.ofInteger 25))] ++ cursorMember cursor)

def alertIdCommand (alertId : Text) : Json ν :=
  .obj [(ofString "alert_id", .str alertId)]

def settingsCommand (numbers : JsonNumbers ν) (command : SettingsCommand) : Json ν :=
  .obj [
    (ofString "approver_user_ids", .arr (command.approverUserIds.map .str)),
    (ofString "expiration_days", .num (numbers.ofInteger 7)),
    (ofString "onboarding_completed", .bool command.onboardingCompleted)
  ]

def auditExportCommand : Json ν :=
  .obj [(ofString "format", .str (ofString "csv"))]

end Commands

-- The calls of `refundDeskApi` with what the views give them
inductive Call (ν : Type)
  | syncContext
  | getEligibility (resource : PaymentResource)
  | createRefundRequest (resource : PaymentResource) (command : CreateRefundCommand)
      (requestNonce : Text)
  | listRefundRequests (scope : RequestScope) (cursor : Option Text)
  | getRefundRequest (resource : PaymentResource) (requestId : Text)
  | decideRefundRequest (resource : PaymentResource) (command : RefundDecisionCommand ν)
      (requestNonce : Text)
  | cancelRefundRequest (resource : PaymentResource) (requestId : Text) (requestNonce : Text)
  | listExternalAlerts (cursor : Option Text)
  | acknowledgeExternalAlert (alertId : Text) (requestNonce : Text)
  | getSettings
  | updateSettings (command : SettingsCommand) (requestNonce : Text)
  | createAuditExport (requestNonce : Text)
  deriving DecidableEq, Repr

namespace Call

variable (numbers : JsonNumbers ν) (context : ExtensionContext ν)

def operation : Call ν → PilotOperation
  | syncContext                    => .contextSync
  | getEligibility _               => .paymentEligibility
  | createRefundRequest _ _ _      => .refundRequestCreate
  | listRefundRequests _ _         => .refundRequestList
  | getRefundRequest _ _           => .refundRequestGet
  | decideRefundRequest _ _ _      => .refundRequestDecide
  | cancelRefundRequest _ _ _      => .refundRequestCancel
  | listExternalAlerts _           => .externalAlertList
  | acknowledgeExternalAlert _ _   => .externalAlertAcknowledge
  | getSettings                    => .settingsGet
  | updateSettings _ _             => .settingsUpdate
  | createAuditExport _            => .auditExport

def command : Call ν → Json ν
  | syncContext                        => syncContextCommand context.userName
  | getEligibility _                   => .obj []
  | createRefundRequest _ command _    => createRefundCommand command
  | listRefundRequests scope cursor    => listRequestsCommand numbers scope cursor
  | getRefundRequest _ requestId       => requestIdCommand requestId
  | decideRefundRequest _ command _    => decisionCommand command
  | cancelRefundRequest _ requestId _  => requestIdCommand requestId
  | listExternalAlerts cursor          => listAlertsCommand numbers cursor
  | acknowledgeExternalAlert alertId _ => alertIdCommand alertId
  | getSettings                        => .obj []
  | updateSettings command _           => settingsCommand numbers command
  | createAuditExport _                => auditExportCommand

-- What a call gives to `signedApiRequest`
def input (call : Call ν) : SignedRequestInput ν :=
  let request (endpoint operation : String) (resource : EnvelopeResource)
      (requestNonce : Option Text) : SignedRequestInput ν := {
    operation := ofString operation
    command   := (call.command numbers context).map some
    endpoint, resource, requestNonce
  }
  match call with
  | syncContext =>
    request "/v1/context/sync" "context.sync" accountResource none
  | getEligibility resource =>
    request "/v1/payments/eligibility" "payment.eligibility" (resourceOf resource) none
  | createRefundRequest resource _ requestNonce =>
    request "/v1/refund-requests/create" "refund_request.create" (resourceOf resource)
      (some requestNonce)
  | listRefundRequests _ _ =>
    request "/v1/refund-requests/list" "refund_request.list" accountResource none
  | getRefundRequest resource _ =>
    request "/v1/refund-requests/get" "refund_request.get" (resourceOf resource) none
  | decideRefundRequest resource _ requestNonce =>
    request "/v1/refund-requests/decide" "refund_request.decide" (resourceOf resource)
      (some requestNonce)
  | cancelRefundRequest resource _ requestNonce =>
    request "/v1/refund-requests/cancel" "refund_request.cancel" (resourceOf resource)
      (some requestNonce)
  | listExternalAlerts _ =>
    request "/v1/external-alerts/list" "external_alert.list" accountResource none
  | acknowledgeExternalAlert _ requestNonce =>
    request "/v1/external-alerts/acknowledge" "external_alert.acknowledge" accountResource
      (some requestNonce)
  | getSettings =>
    request "/v1/settings/get" "settings.get" accountResource none
  | updateSettings _ requestNonce =>
    request "/v1/settings/update" "settings.update" accountResource (some requestNonce)
  | createAuditExport requestNonce =>
    request "/v1/audit/export" "audit.export" accountResource (some requestNonce)

end Call

def IsPositiveMinor (amount : Text) : Prop :=
  isMoneyMinor amount ∧ amount ≠ ofString "0"

def IsUserId (id : Text) : Prop :=
  matching isStripeUserId id ∧ within 0 255 id

-- A text of the length that is asked for, which `trim` leaves as it is
def IsJustification (text : Text) : Prop :=
  trimUnits text = text ∧ within 10 2000 text

def FitsCursor (cursor : Option Text) : Prop :=
  ∀ text, cursor = some text → text.length ≤ 512

def RefundApprovalSnapshot.Conforms (snapshot : RefundApprovalSnapshot) : Prop :=
  IsPositiveMinor snapshot.amountMinor ∧ matching isCurrency snapshot.currency ∧
    IsUserId snapshot.requesterUserId

-- When the schema of the operation leaves the command of a call as it is
def Call.Conforms (numbers : JsonNumbers ν) (context : ExtensionContext ν) : Call ν → Prop
  | .syncContext =>
    ∀ name, displayName context.userName = some name → trimUnits name = name
  | .createRefundRequest _ command _ =>
    IsPositiveMinor command.amountMinor ∧ matching isCurrency command.currency ∧
      IsJustification command.justification
  | .listRefundRequests _ cursor => FitsCursor cursor
  | .getRefundRequest _ requestId => matching isUuid requestId
  | .decideRefundRequest _ (.approve requestId version snapshot) _ =>
    matching isUuid requestId ∧
      (∃ i, numbers.integer? version = some i ∧ 0 ≤ i ∧ i ≤ 9007199254740991) ∧
      RefundApprovalSnapshot.Conforms snapshot
  | .decideRefundRequest _ (.reject requestId justification) _ =>
    matching isUuid requestId ∧ IsJustification justification
  | .cancelRefundRequest _ requestId _ => matching isUuid requestId
  | .listExternalAlerts cursor => FitsCursor cursor
  | .acknowledgeExternalAlert alertId _ => matching isUuid alertId
  | .updateSettings command _ =>
    command.approverUserIds.length ≤ 100 ∧ ∀ id ∈ command.approverUserIds, IsUserId id
  | .getEligibility _ | .getSettings | .createAuditExport _ => True

section Parsed

variable {numbers : JsonNumbers ν} {context : ExtensionContext ν} {call : Call ν}

@[simp]
theorem same_self (value : Json ν) : Same value value :=
  rfl

theorem integer_iff {low high : Int} {n : ν} :
    (numbers.integer? n).any (fun i => low ≤ i ∧ i ≤ high) ↔
      ∃ i, numbers.integer? n = some i ∧ low ≤ i ∧ i ≤ high := by
  simp [Option.any_eq_true]

theorem parse_justified (members : List (Text × Json ν)) (justification : Text) (P : Prop)
    (hnodup : (members.map (·.1) ++ [ofString "justification"]).Nodup) :
    (P ∧ within 10 2000 (trimUnits justification)) ∧
      Same (.obj (members ++ [(ofString "justification", .str justification)]))
        (.obj (members ++ [(ofString "justification", .str (trimUnits justification))])) ↔
      P ∧ IsJustification justification := by
  rw [Schema.same_last_str_iff hnodup, IsJustification]
  constructor
  · rintro ⟨⟨hP, hlength⟩, htrim⟩
    exact ⟨hP, htrim.symm, htrim ▸ hlength⟩
  · rintro ⟨hP, htrim, hlength⟩
    exact ⟨⟨hP, htrim.symm ▸ hlength⟩, htrim.symm⟩

theorem parse_createRefundCommand {command : CreateRefundCommand} {parsed : Json ν} :
    refundRequestCommandSchema.parse (createRefundCommand command) = some parsed ↔
      ((IsPositiveMinor command.amountMinor ∧ matching isCurrency command.currency) ∧
        within 10 2000 (trimUnits command.justification)) ∧
      parsed = createRefundCommand { command with
        justification := trimUnits command.justification } := by
  rw [eq_comm (a := parsed)]
  obtain ⟨amount, currency, reason, justification⟩ := command
  cases reason <;>
    simp [createRefundCommand, RefundReason.text, IsPositiveMinor, Option.bind_eq_some_iff, and_assoc]

theorem parse_approve {requestId : Text} {version : ν} {snapshot : RefundApprovalSnapshot}
    {parsed : Json ν} : (decisionCommandSchema numbers).parse
      (decisionCommand (.approve requestId version snapshot)) = some parsed ↔
        (matching isUuid requestId ∧
          (∃ i, numbers.integer? version = some i ∧ 0 ≤ i ∧ i ≤ 9007199254740991) ∧
          RefundApprovalSnapshot.Conforms snapshot) ∧
        parsed = decisionCommand (.approve requestId version snapshot) := by
  rw [← integer_iff, eq_comm (a := parsed)]
  obtain ⟨amount, currency, reason, requester⟩ := snapshot
  cases reason <;>
    simp [decisionCommand, snapshotOf, RefundReason.text, IsPositiveMinor, IsUserId,
      RefundApprovalSnapshot.Conforms, Option.bind_eq_some_iff, and_assoc]

theorem parse_reject {requestId justification : Text} {parsed : Json ν} :
    (decisionCommandSchema numbers).parse (decisionCommand (.reject requestId justification)) =
      some parsed ↔
        (matching isUuid requestId ∧ within 10 2000 (trimUnits justification)) ∧
          parsed = decisionCommand (.reject requestId (trimUnits justification)) := by
  rw [eq_comm (a := parsed)]
  simp [decisionCommand, Option.bind_eq_some_iff, and_assoc]

theorem mapM_parse_user {ids : List Text} {values : List (Json ν)} :
    ids.mapM (stripeUserIdSchema.parse ∘ Json.str) = some values ↔
      (∀ id ∈ ids, IsUserId id) ∧ values = ids.map .str :=
  Schema.mapM_eq_some_iff fun id value => by
    rw [eq_comm (a := value)]
    simp [IsUserId]

theorem parse_settingsCommand {command : SettingsCommand} {parsed : Json ν} :
    (settingsUpdateCommandSchema numbers).parse (settingsCommand numbers command) = some parsed ↔
      (command.approverUserIds.length ≤ 100 ∧ ∀ id ∈ command.approverUserIds, IsUserId id) ∧
        parsed = settingsCommand numbers command := by
  rw [eq_comm (a := parsed)]
  have hmapM (values : List (Json ν)) :
      command.approverUserIds.mapM (stripeUserIdSchema.parse ∘ Json.str) = some values ↔ _ :=
    mapM_parse_user
  simp only [stripeUserIdSchema] at hmapM
  simp [settingsCommand, Option.bind_eq_some_iff, numbers.integer?_integer 7, hmapM, and_assoc]

theorem length_displayName {userName : Option Text} {name : Text}
    (h : displayName userName = some name) : within 1 255 name := by
  cases userName with
  | none       => cases h
  | some given =>
    dsimp only [displayName] at h
    split_ifs at h with hlength
    obtain rfl := Option.some.inj h
    rw [SignedFetch.within_iff, List.length_take]
    omega

theorem parse_syncContextCommand {userName : Option Text} :
    (∃ parsed, contextSyncCommandSchema.parse (syncContextCommand userName : Json ν) = some parsed ∧
      Same (syncContextCommand userName) parsed) ↔
        ∀ name, displayName userName = some name → trimUnits name = name := by
  cases hname : displayName userName with
  | none      => simp [syncContextCommand, hname]
  | some name =>
    have hlength := length_displayName hname
    have hlast : Same (.obj ([] ++ [(ofString "display_name", .str name)]))
        (.obj ([] ++ [(ofString "display_name", .str (trimUnits name))]) : Json ν) ↔
          name = trimUnits name :=
      Schema.same_last_str_iff (by simp)
    simp only [syncContextCommand, hname, Option.elim, Option.some.injEq, forall_eq']
    constructor
    · rintro ⟨parsed, hparsed, hsame⟩
      have hshape : parsed = .obj [(ofString "display_name", .str (trimUnits name))] := by
        simp [Option.bind_eq_some_iff] at hparsed
        exact hparsed.2.symm
      exact (hlast.mp (hshape ▸ hsame)).symm
    · intro htrim
      exact ⟨_, by simp [htrim, hlength], rfl⟩

theorem parse_command_iff : (∃ parsed, (operationSchemas numbers call.operation).parse
    (call.command numbers context) = some parsed ∧ Same (call.command numbers context) parsed) ↔
      call.Conforms numbers context := by
  cases call with
  | syncContext => exact parse_syncContextCommand
  | createRefundRequest resource command requestNonce =>
    simp only [Call.operation, operationSchemas, Call.command, parse_createRefundCommand]
    obtain ⟨amount, currency, reason, justification⟩ := command
    have hjustified := parse_justified (ν := ν)
      [
        (ofString "amount_minor", .str amount),
        (ofString "currency", .str currency),
        (ofString "reason", .str (ofString reason.text))
      ]
      justification (IsPositiveMinor amount ∧ matching isCurrency currency) (by simp)
    simp only [and_assoc, exists_and_left, exists_eq_left] at hjustified ⊢
    exact hjustified
  | decideRefundRequest resource command requestNonce =>
    cases command with
    | approve requestId version snapshot =>
      simp only [Call.operation, operationSchemas, Call.command, parse_approve]
      simp [Call.Conforms]
    | reject requestId justification =>
      simp only [Call.operation, operationSchemas, Call.command, parse_reject]
      have hjustified := parse_justified (ν := ν)
        [
          (ofString "request_id", .str requestId),
          (ofString "decision", .str (ofString "reject"))
        ]
        justification (matching isUuid requestId) (by simp)
      simp only [and_assoc, exists_and_left, exists_eq_left] at hjustified ⊢
      exact hjustified
  | updateSettings command requestNonce =>
    simp only [Call.operation, operationSchemas, Call.command, parse_settingsCommand]
    simp [Call.Conforms]
  | getEligibility resource => simp [Call.operation, Call.command, Call.Conforms]
  | listRefundRequests scope cursor =>
    cases cursor <;> cases scope <;>
      simp [Call.operation, Call.command, Call.Conforms, listRequestsCommand, cursorMember,
        RequestScope.text, FitsCursor, within, Option.bind_eq_some_iff, numbers.integer?_integer 25]
  | getRefundRequest resource requestId =>
    simp [Call.operation, Call.command, Call.Conforms, requestIdCommand, Option.bind_eq_some_iff]
  | cancelRefundRequest resource requestId requestNonce =>
    simp [Call.operation, Call.command, Call.Conforms, requestIdCommand, Option.bind_eq_some_iff]
  | listExternalAlerts cursor =>
    cases cursor <;>
      simp [Call.operation, Call.command, Call.Conforms, listAlertsCommand, cursorMember, FitsCursor,
        within, Option.bind_eq_some_iff, numbers.integer?_integer 25]
  | acknowledgeExternalAlert alertId requestNonce =>
    simp [Call.operation, Call.command, Call.Conforms, alertIdCommand, Option.bind_eq_some_iff]
  | getSettings => simp [Call.operation, Call.command, Call.Conforms]
  | createAuditExport requestNonce =>
    simp [Call.operation, Call.command, Call.Conforms, RefundDeskApi.auditExportCommand]

theorem wellFormed_command : (call.command numbers context).WellFormed := by
  have hnil : (Json.obj [] : Json ν).WellFormed := .obj (by simp) (by simp)
  cases call with
  | syncContext =>
    unfold Call.command syncContextCommand
    cases displayName context.userName with
    | none      => exact hnil
    | some name => exact .obj (by simp) (by simp [Objects.str])
  | getEligibility | getSettings => exact hnil
  | createRefundRequest | getRefundRequest | cancelRefundRequest | acknowledgeExternalAlert
  | createAuditExport => exact .obj (by simp) (by simp [Objects.str])
  | listRefundRequests scope cursor | listExternalAlerts cursor =>
    cases cursor <;> exact .obj (by simp [cursorMember])
      (by simp [cursorMember, Objects.str, Objects.num])
  | decideRefundRequest resource command requestNonce =>
    cases command with
    | approve =>
      exact .obj (by simp) (by simp [snapshotOf, Objects.str, Objects.num, objects_obj])
    | reject => exact .obj (by simp) (by simp [Objects.str])
  | updateSettings command requestNonce =>
    exact .obj (by simp) (by simp [Objects.str, Objects.num, Objects.bool, objects_arr])

-- The route of the call reads the command of a call out of its text, exactly when the schema leaves
-- the command as it is.
theorem signedCommand_call_iff {runtime : ExtensionRuntime ν}
    {dependencies : PilotRouteDependencies ν} {commandJson : Text}
    (hkeys : CanonicalJson.Distinguished dependencies.collation runtime.collation commandKeys)
    (hnumbers : runtime.numbers = dependencies.numbers)
    (htext : CanonicalJson.StripeApp.canonicalJson runtime.collation runtime.numbers.format
      (call.input runtime.numbers context).command = .ok commandJson) :
    ((∃ parsed, PilotRoute.signedCommand dependencies call.operation commandJson = .ok parsed) ↔
      call.Conforms runtime.numbers context) ∧
    (∀ parsed, PilotRoute.signedCommand dependencies call.operation commandJson = .ok parsed →
      Same (call.command runtime.numbers context) parsed) ∧
    (call.input runtime.numbers context).operation = ofString (operationName call.operation) ∧
    call.operation.path = "/api" ++ (call.input runtime.numbers context).endpoint := by
  have hcommand : (call.input runtime.numbers context).command =
      (call.command runtime.numbers context).map some := by
    cases call <;> rfl
  have hsigned {parsed : Json ν} :
      PilotRoute.signedCommand dependencies call.operation commandJson = .ok parsed ↔
        (operationSchemas dependencies.numbers call.operation).parse
            (call.command runtime.numbers context) = some parsed ∧
          Same (call.command runtime.numbers context) parsed :=
    SignedFetch.signedCommand_canonical_iff hkeys wellFormed_command hnumbers (hcommand ▸ htext)
  refine ⟨?_, fun parsed h => (hsigned.mp h).2, ?_, ?_⟩
  · rw [← parse_command_iff, hnumbers]
    rw [hnumbers] at hsigned
    exact exists_congr fun _ => hsigned
  · cases call <;> rfl
  · cases call <;> simp [Call.operation, Call.input, PilotOperation.path]

end Parsed

end RefundDeskApi

namespace Pilot

open RefundDeskApi

def createCall : Call Int :=
  .createRefundRequest ⟨.charge, ofString "ch_1"⟩
    ⟨ofString "1250", ofString "eur", .requestedByCustomer, ofString "Returned in the shop"⟩ firstNonce

def createText : Text :=
  ofString ("\x7b\"amount_minor\":\"1250\",\"currency\":\"eur\"," ++
    "\"justification\":\"Returned in the shop\",\"reason\":\"requested_by_customer\"\x7d")

theorem signedCommand_call_iff_create : ∃ parsed,
    PilotRoute.signedCommand routeDependencies .refundRequestCreate createText = .ok parsed := by
  have hkeys : CanonicalJson.Distinguished routeDependencies.collation extensionRuntime.collation
      commandKeys :=
    unitOrder_distinguished (by decide +kernel)
  have htext : CanonicalJson.StripeApp.canonicalJson extensionRuntime.collation
      extensionRuntime.numbers.format
      (createCall.input extensionRuntime.numbers administratorContext).command = .ok createText := by
    decide +kernel
  have hcreate := signedCommand_call_iff hkeys rfl htext
  refine hcreate.1.mpr ⟨⟨by decide +kernel, by decide +kernel⟩, by decide +kernel, ?_⟩
  exact ⟨by decide +kernel, by decide +kernel⟩

end Pilot
end RefundDesk
