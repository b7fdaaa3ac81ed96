import RefundDesk.Authority.SignedRequests
import RefundDesk.Library.JsonSchema

namespace RefundDesk

open Utf16 Json

-- The numbers of JSON, with those that are integers.
structure JsonNumbers (ν : Type) where
  format           : NumberFormat ν
  integer?         : ν → Option Int
  ofInteger        : Int → ν
  integer?_integer : ∀ n : Int, n.natAbs ≤ 9007199254740991 → integer? (ofInteger n) = some n

namespace Contracts

variable {ν : Type}

-- Units that are no characters become one that no pattern accepts.
def characters (text : Text) : String :=
  String.ofList (text.map fun u => Char.ofNat u.val)

def matching (pattern : String → Bool) (text : Text) : Bool :=
  pattern (characters text)

def within (low high : Nat) (text : Text) : Bool :=
  low ≤ text.length ∧ text.length ≤ high

-- `^(?:0|[1-9]\d*)$`
def isMinorAmount (amount : String) : Bool :=
  match amount.toList with
  | []      => false
  | ['0']   => true
  | c :: cs => '1' ≤ c && c ≤ '9' && cs.all Char.isDigit

@[simp]
def enum (values : List String) : Schema ν :=
  .string fun text => (values.map ofString).contains text

@[simp]
def literal (value : String) : Schema ν :=
  enum [value]

@[simp]
def uuidSchema : Schema ν :=
  .string (matching isUuid)

def isMoneyMinor (text : Text) : Bool :=
  matching isMinorAmount text && within 0 32 text

-- `moneyMinorSchema` of a positive amount
@[simp]
def positiveMinorSchema : Schema ν :=
  .string fun text => isMoneyMinor text && text ≠ ofString "0"

@[simp]
def currencySchema : Schema ν :=
  .string (matching isCurrency)

@[simp]
def stripeIdSchema : Schema ν :=
  .string fun text => matching isStripeId text && within 0 255 text

@[simp]
def stripeAccountIdSchema : Schema ν :=
  .string fun text => matching isStripeAccountId text && within 0 255 text

@[simp]
def stripeUserIdSchema : Schema ν :=
  .string fun text => matching isStripeUserId text && within 0 255 text

@[simp]
def refundReasonSchema : Schema ν :=
  enum ["duplicate", "fraudulent", "requested_by_customer"]

@[simp]
def justificationSchema : Schema ν :=
  .trimmed (within 10 2000)

@[simp]
def cursorSchema : Schema ν :=
  .string (within 0 512)

@[simp]
def field (name : String) (schema : Schema ν) : Text × Presence ν × Schema ν :=
  (ofString name, .required, schema)

@[simp]
def optionalField (name : String) (schema : Schema ν) : Text × Presence ν × Schema ν :=
  (ofString name, .optional, schema)

@[simp]
def approvalSnapshotSchema : Schema ν :=
  .object [
    field "amount_minor" positiveMinorSchema,
    field "currency" currencySchema,
    field "reason" refundReasonSchema,
    field "requester_user_id" stripeUserIdSchema
  ]

@[simp]
def refundRequestCommandSchema : Schema ν :=
  .object [
    field "amount_minor" positiveMinorSchema,
    field "currency" currencySchema,
    field "reason" refundReasonSchema,
    field "justification" justificationSchema
  ]

@[simp]
def requestIdCommandSchema : Schema ν :=
  .object [field "request_id" uuidSchema]

@[simp]
def rejectDecisionCommandSchema : Schema ν :=
  .object [
    field "request_id" uuidSchema,
    field "decision" (literal "reject"),
    field "justification" justificationSchema
  ]

@[simp]
def alertAcknowledgeCommandSchema : Schema ν :=
  .object [field "alert_id" uuidSchema]

@[simp]
def auditExportCommandSchema : Schema ν :=
  .object [field "format" (literal "csv")]

@[simp]
def emptyCommandSchema : Schema ν :=
  .object []

@[simp]
def contextSyncCommandSchema : Schema ν :=
  .object [optionalField "display_name" (.trimmed (within 1 255))]

section Numbers

variable (numbers : JsonNumbers ν)

@[simp]
def integerSchema (low high : Int) : Schema ν :=
  .number fun n => (numbers.integer? n).any fun i => low ≤ i ∧ i ≤ high

@[simp]
def approveDecisionCommandSchema : Schema ν :=
  .object [
    field "request_id" uuidSchema,
    field "decision" (literal "approve"),
    field "expected_request_version" (integerSchema numbers 0 9007199254740991),
    field "approval_snapshot" approvalSnapshotSchema
  ]

-- The decision tells which of the two it is.
@[simp]
def decisionCommandSchema : Schema ν :=
  .union [approveDecisionCommandSchema numbers, rejectDecisionCommandSchema]

@[simp]
def limitField : Text × Presence ν × Schema ν :=
  (ofString "limit", .default (.num (numbers.ofInteger 25)), integerSchema numbers 1 100)

@[simp]
def requestListCommandSchema : Schema ν :=
  .object [
    field "scope" (enum ["awaiting_my_approval", "my_requests", "all_activity"]),
    limitField numbers,
    optionalField "cursor" cursorSchema
  ]

@[simp]
def alertListCommandSchema : Schema ν :=
  .object [limitField numbers, optionalField "cursor" cursorSchema]

@[simp]
def settingsUpdateCommandSchema : Schema ν :=
  .object [
    field "approver_user_ids" (.array (· ≤ 100) stripeUserIdSchema),
    field "expiration_days" (integerSchema numbers 7 7),
    field "onboarding_completed" (.bool fun _ => true)
  ]

@[simp]
def operationSchemas : PilotOperation → Schema ν
  | .contextSync              => contextSyncCommandSchema
  | .paymentEligibility       => emptyCommandSchema
  | .refundRequestCreate      => refundRequestCommandSchema
  | .refundRequestList        => requestListCommandSchema numbers
  | .refundRequestGet         => requestIdCommandSchema
  | .refundRequestDecide      => decisionCommandSchema numbers
  | .refundRequestCancel      => requestIdCommandSchema
  | .externalAlertList        => alertListCommandSchema numbers
  | .externalAlertAcknowledge => alertAcknowledgeCommandSchema
  | .settingsGet              => emptyCommandSchema
  | .settingsUpdate           => settingsUpdateCommandSchema numbers
  | .auditExport              => auditExportCommandSchema

-- No number of a schema is infinite, so that a text that has one is refused either way.
def parseOperationCommand (operation : PilotOperation) (commandJson : Text) : Option (Json ν) := do
  let command ← parse numbers.format commandJson
  (operationSchemas numbers operation).parse command

-- The names of the fields of the commands
def commandKeys : List Text := [
  "alert_id", "amount_minor", "approval_snapshot", "approver_user_ids", "currency", "cursor",
  "decision", "display_name", "expected_request_version", "expiration_days", "format",
  "justification", "limit", "onboarding_completed", "reason", "request_id", "requester_user_id",
  "scope"
].map ofString

theorem keys_operationSchemas (operation : PilotOperation) :
    (operationSchemas numbers operation).Keys fun keys => keys.Nodup ∧ keys ⊆ commandKeys := by
  cases operation <;> simp [commandKeys, ofString_injective.eq_iff, Objects.num]

end Numbers

def operationName : PilotOperation → String
  | .contextSync              => "context.sync"
  | .paymentEligibility       => "payment.eligibility"
  | .refundRequestCreate      => "refund_request.create"
  | .refundRequestList        => "refund_request.list"
  | .refundRequestGet         => "refund_request.get"
  | .refundRequestDecide      => "refund_request.decide"
  | .refundRequestCancel      => "refund_request.cancel"
  | .externalAlertList        => "external_alert.list"
  | .externalAlertAcknowledge => "external_alert.acknowledge"
  | .settingsGet              => "settings.get"
  | .settingsUpdate           => "settings.update"
  | .auditExport              => "audit.export"

end Contracts
end RefundDesk
