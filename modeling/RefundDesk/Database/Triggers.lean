import RefundDesk.Database.Schema
import RefundDesk.Library.ThreeValued

namespace RefundDesk

-- What the triggers of a row read outside of the row: `clock_timestamp()`, the unresolved alerts
-- of the payment scope, the links of the other executions and the enabled approvers.
structure TriggerEnv where
  requestId             : String
  now                   : Timestamp
  paymentProtected      : Bool
  refundLinkedElsewhere : String → Bool
  approverEnabled       : String → Bool

def raise {α : Type} (sqlState message : String) : Except StoreError α :=
  .error (.database sqlState message)

-- `refunddesk_lock_payment_scope`; the lock itself is held by the serial execution.
def lockPaymentScope (environment : StripeEnvironment) (paymentKey : String) :
    Except StoreError Unit :=
  if environment.isPilot ∧ isPaymentKey paymentKey then .ok ()
  else raise "22023" "invalid payment scope"

namespace RefundRequest

-- `refunddesk_guard_external_payment_protection`
def guardExternalPaymentProtection (env : TriggerEnv) (new : RefundRequest) :
    Except StoreError RefundRequest := do
  lockPaymentScope new.environment new.paymentKey
  if new.workflowStatus ∈ [.pendingApproval, .approved, .executing] ∧ env.paymentProtected then
    raise "55000" "payment is protected by unresolved external reconciliation"
  else
    pure new

structure FinancialSnapshot where
  installationId    : String
  environment       : StripeEnvironment
  paymentKey        : String
  paymentIntentId   : Option String
  chargeId          : Option String
  amountMinor       : Int
  currency          : String
  reason            : RefundReason
  requesterUserId   : String
  policyVersion     : Nat
  requiredApprovals : Nat
  createdAt         : Timestamp
  expiresAt         : Timestamp
  deriving DecidableEq

def financialSnapshot (row : RefundRequest) : FinancialSnapshot where
  installationId    := row.installationId
  environment       := row.environment
  paymentKey        := row.paymentKey
  paymentIntentId   := row.paymentIntentId
  chargeId          := row.chargeId
  amountMinor       := row.amountMinor
  currency          := row.currency
  reason            := row.reason
  requesterUserId   := row.requesterUserId
  policyVersion     := row.policyVersion
  requiredApprovals := row.requiredApprovals
  createdAt         := row.createdAt
  expiresAt         := row.expiresAt

-- `refunddesk_preserve_request_snapshot`
def preserveSnapshot (old new : RefundRequest) : Except StoreError RefundRequest :=
  if new.financialSnapshot ≠ old.financialSnapshot then
    raise "23514" "refund request financial snapshot is immutable"
  else if new.version ≠ old.version + 1 then
    raise "23514" "refund request version must increment exactly once"
  else if old.terminalAt ≠ none ∧ new.terminalAt ≠ old.terminalAt then
    raise "23514" "refund request terminal timestamp is immutable"
  else
    .ok new

-- `GREATEST`, which ignores NULL
def greatest (left : Timestamp) : Option Timestamp → Timestamp
  | none       => left
  | some right => max left right

-- `refunddesk_stamp_reconciliation_safe_boundary`
def stampReconciliationSafeBoundary (env : TriggerEnv) (old new : RefundRequest) :
    Except StoreError RefundRequest :=
  if new.workflowStatus = .reconciliationRequired ∧
      old.workflowStatus ≠ .reconciliationRequired then
    .ok { new with reconciliationSafeAfterAt := some (greatest env.now new.executionStartedAt) }
  else if new.reconciliationSafeAfterAt ≠ old.reconciliationSafeAfterAt then
    raise "42501" "reconciliation safe boundary is database-managed"
  else
    .ok new

-- `refunddesk_validate_durable_decision_transition`
def validateDurableDecisionTransition (env : TriggerEnv) (decisions : List ApprovalDecision)
    (old new : RefundRequest) : Except StoreError RefundRequest :=
  let byDistinctApprover (decision : ApprovalDecision) : Bool :=
    env.approverEnabled decision.approverUserId ∧ decision.approverUserId ≠ new.requesterUserId
  let validApprovals := decisions.countP fun decision =>
    decision.decision = .approve ∧ decision.approvalAttestationId ≠ none ∧
      byDistinctApprover decision
  let validRejections := decisions.countP fun decision =>
    decision.decision = .reject ∧ decision.approvalAttestationId = none ∧
      byDistinctApprover decision
  if old.workflowStatus ≠ .pendingApproval ∨ new.workflowStatus ∉ [.approved, .rejected] then
    .ok new
  else if decisions.length ≠ validApprovals + validRejections then
    raise "23514" "refund decision references invalid approval evidence"
  else if new.workflowStatus = .approved ∧
      (validApprovals < new.requiredApprovals ∨ validRejections ≠ 0) then
    raise "23514" "approval transition requires a durable coherent quorum"
  else if new.workflowStatus = .rejected ∧ validRejections < 1 then
    raise "23514" "rejection transition requires a durable rejection decision"
  else
    .ok new

-- `refunddesk_validate_effect_transition`, where `status` is the Stripe status of the execution
def validateEffectTransition (status : Option StripeRefundStatus) (old new : RefundRequest) :
    Except StoreError RefundRequest :=
  let allowed : List EffectState :=
    match old.effectState with
    | .notStarted    => [.possible, .absenceProven]
    | .possible      => [.identified, .absenceProven]
    | .identified    => [.absenceProven]
    | .absenceProven => [.possible]
  if new.effectState = old.effectState then
    .ok new
  else if new.effectState ∉ allowed then
    raise "23514"
      ("invalid effect transition from " ++ old.effectState.text ++ " to " ++ new.effectState.text)
  else if old.effectState = .identified ∧ new.effectState = .absenceProven ∧
      (Truth.not (.member status [.failed, .canceled])).Holds then
    raise "23514" "identified effect absence requires authoritative Stripe terminal status"
  else
    .ok new

-- `refunddesk_validate_guard_release`
def validateGuardRelease (status : Option StripeRefundStatus) (old new : RefundRequest) :
    Except StoreError RefundRequest :=
  if old.paymentGuardReleasedAt ≠ none then
    if new.paymentGuardReleasedAt ≠ old.paymentGuardReleasedAt then
      raise "23514" "payment guard release is immutable"
    else
      .ok new
  else if new.paymentGuardReleasedAt = none then
    .ok new
  else if new.workflowStatus = .reconciliationRequired then
    raise "23514" "payment guard cannot be released during reconciliation"
  else if new.workflowStatus ∈ [.rejected, .canceled, .expired] ∧
      new.effectState = .notStarted then
    .ok new
  else if new.workflowStatus ∈ [.stale, .failedTerminal] ∧ new.effectState = .absenceProven then
    .ok new
  else if new.workflowStatus = .succeeded ∧ (Truth.equal status (some .succeeded)).Holds then
    .ok new
  else
    raise "23514" "payment guard release requires certain absence or a terminal Stripe refund"

-- `refunddesk_validate_workflow_transition`, as the latest migration defines it
def validateWorkflowTransition (status : Option StripeRefundStatus) (old new : RefundRequest) :
    Except StoreError RefundRequest :=
  let allowed : List WorkflowStatus :=
    match old.workflowStatus with
    | .pendingApproval        => [.approved, .rejected, .canceled, .expired, .stale]
    | .approved               => [.executing, .stale]
    | .executing              => [.succeeded, .reconciliationRequired, .failedTerminal]
    | .reconciliationRequired => [.succeeded, .failedTerminal, .executing]
    | .succeeded              => [.failedTerminal]
    | _                       => []
  if new.workflowStatus = old.workflowStatus then
    .ok new
  else if new.workflowStatus ∉ allowed then
    raise "23514" ("invalid workflow transition from " ++ old.workflowStatus.text ++ " to " ++
      new.workflowStatus.text)
  else if old.workflowStatus = .reconciliationRequired ∧ new.workflowStatus = .executing ∧
      new.effectState ≠ .absenceProven then
    raise "23514" "reconciliation can resume only after absence is proven"
  -- `<>` on an execution without a status is unknown, and unknown does not raise.
  else if new.workflowStatus = .succeeded ∧
      (Truth.or (.ofBool (new.effectState ≠ .identified))
        (.distinct status (some .succeeded))).Holds then
    raise "23514" "workflow succeeds only after Stripe confirms refund success"
  else if old.workflowStatus = .succeeded ∧ new.workflowStatus = .failedTerminal ∧
      (Truth.or (.ofBool (old.effectState ≠ .identified))
        (.or (.ofBool (new.effectState ≠ .absenceProven))
          (.or (.ofBool (status = none))
            (.not (.member status [.failed, .canceled]))))).Holds then
    raise "23514" "succeeded workflow can fail only after the same Refund fails or is canceled"
  else if new.workflowStatus ∈ [.stale, .failedTerminal] ∧ new.effectState ≠ .absenceProven then
    raise "23514" "terminal state requires certain absence of effect"
  else
    .ok new

end RefundRequest

def WorkflowStatus.isTerminal : WorkflowStatus → Bool
  | succeeded | failedTerminal | rejected | canceled | expired | stale    => true
  | pendingApproval | approved | executing | reconciliationRequired       => false

namespace RefundRequest

-- `refund_requests_terminal_timestamp_check` and `refund_requests_reconciliation_safe_boundary_check`.
-- The other checks are about columns of the financial snapshot.
def lifecycleCheck (row : RefundRequest) : Except StoreError RefundRequest :=
  if row.workflowStatus.isTerminal ∧ row.terminalAt = none then
    raise "23514" "refund_requests_terminal_timestamp_check"
  else
    match row.workflowStatus, row.reconciliationSafeAfterAt, row.executionStartedAt with
    | .reconciliationRequired, some safeAfter, some startedAt =>
      if startedAt ≤ safeAfter then .ok row
      else raise "23514" "refund_requests_reconciliation_safe_boundary_check"
    | .reconciliationRequired, _, _ =>
      raise "23514" "refund_requests_reconciliation_safe_boundary_check"
    | _, _, _ => .ok row

-- The row that an UPDATE stores: the triggers run in the order of their names, a trigger that is
-- declared for some columns changes nothing and raises nothing when these columns stay, and the
-- checks come last.
def update (env : TriggerEnv) (detail : RefundRequestDetail) (new : RefundRequest) :
    Except StoreError RefundRequest := do
  let old := detail.request
  let status := detail.execution.bind (·.stripeRefundStatus)
  let new ← new.guardExternalPaymentProtection env
  let new ← old.preserveSnapshot new
  let new ← old.stampReconciliationSafeBoundary env new
  let new ← old.validateDurableDecisionTransition env detail.decisions new
  let new ← old.validateEffectTransition status new
  let new ← old.validateGuardRelease status new
  let new ← old.validateWorkflowTransition status new
  new.lifecycleCheck

end RefundRequest

namespace RefundExecution

structure Identity where
  idempotencyKey          : String
  canonicalParametersHash : String
  amountMinor             : Int
  currency                : String
  deriving DecidableEq

def identity (row : RefundExecution) : Identity where
  idempotencyKey          := row.idempotencyKey
  canonicalParametersHash := row.canonicalParametersHash
  amountMinor             := row.amountMinor
  currency                := row.currency

-- `refunddesk_preserve_first_refund_link`, as the latest migration defines it
def preserveFirstRefundLink (old new : RefundExecution) : Except StoreError RefundExecution :=
  if new.identity ≠ old.identity then
    raise "23514" "refund execution identity and parameters are immutable"
  else if old.stripeRefundId ≠ none ∧ new.stripeRefundId ≠ old.stripeRefundId then
    raise "23514" "the first linked Stripe Refund ID is immutable"
  else if old.stripeRefundStatus ∈ [some .succeeded, some .failed, some .canceled] ∧
      new.stripeRefundStatus ≠ old.stripeRefundStatus ∧
      ¬((old.stripeRefundStatus = some .succeeded ∧
          new.stripeRefundStatus ∈ [some .failed, some .canceled]) ∨
        (old.stripeRefundStatus = some .canceled ∧ new.stripeRefundStatus = some .failed)) then
    raise "23514" "terminal Stripe refund status is immutable"
  else
    match old.lastStripeEventCreatedAt, new.lastStripeEventCreatedAt with
    | some oldCreatedAt, some newCreatedAt =>
      if newCreatedAt < oldCreatedAt then
        raise "23514" "out-of-order Stripe event cannot replace newer state"
      else
        .ok new
    | _, _ => .ok new

-- `refund_executions_refund_id_check`, `refund_executions_refund_link_check` and
-- `refund_executions_tenant_stripe_refund_key`
def linkCheck (env : TriggerEnv) (row : RefundExecution) : Except StoreError RefundExecution :=
  match row.stripeRefundId with
  | none =>
    if row.stripeRefundStatus = none then .ok row
    else raise "23514" "refund_executions_refund_link_check"
  | some refundId =>
    if isRefundId refundId = false then raise "23514" "refund_executions_refund_id_check"
    else if env.refundLinkedElsewhere refundId then
      raise "23505" "refund_executions_tenant_stripe_refund_key"
    else .ok row

-- The row that an UPDATE of an execution stores.
def update (env : TriggerEnv) (old new : RefundExecution) : Except StoreError RefundExecution := do
  let new ← old.preserveFirstRefundLink new
  new.linkCheck env

-- The idempotency check of the table.
def isIdempotencyKey (key : String) : Bool :=
  let kind := "refunddesk:refund-request:".toList
  let id   := (key.toList.drop kind.length).take 36
  key.toList = kind ++ id ++ ":v1".toList && isUuidText id &&
    (id[14]?.any fun c => '1' ≤ c && c ≤ '8') &&
    (id[19]?.any fun c => c ∈ ['8', '9', 'a', 'b'])

-- The row that an INSERT of an execution stores: `refunddesk_validate_execution_insert` and the
-- checks of the table.
def insert (env : TriggerEnv) (request : RefundRequest) (new : RefundExecution) :
    Except StoreError RefundExecution :=
  if request.amountMinor ≠ new.amountMinor ∨ request.currency ≠ new.currency then
    raise "23514" "execution parameters differ from request snapshot"
  else if new.idempotencyKey ≠ "refunddesk:refund-request:" ++ env.requestId ++ ":v1" then
    raise "23514" "execution idempotency key does not match request"
  else if request.workflowStatus ≠ .executing then
    raise "23514" "execution can be created only for a claimed request"
  else if isIdempotencyKey new.idempotencyKey = false then
    raise "23514" "refund_executions_idempotency_check"
  else
    new.linkCheck env

end RefundExecution

namespace RefundCorrelationCandidate

-- The checks of `refund_correlation_candidates`.
def check (refundId : String) (row : RefundCorrelationCandidate) :
    Except StoreError RefundCorrelationCandidate :=
  if isRefundId refundId = false then
    raise "23514" "refund_candidates_refund_id_check"
  else if isPaymentKey row.paymentKey = false then
    raise "23514" "refund_candidates_payment_key_check"
  else if row.paymentIntentId = none ∧ row.chargeId = none then
    raise "23514" "refund_candidates_payment_reference_check"
  else if row.amountMinor ≤ 0 then
    raise "23514" "refund_candidates_amount_check"
  else if isCurrency row.currency = false then
    raise "23514" "refund_candidates_currency_check"
  else if row.stripeEventId.any fun id => isEventId id = false then
    raise "23514" "refund_candidates_event_id_check"
  else if row.stripeEventId.isSome ≠ row.stripeEventCreatedAt.isSome then
    raise "23514" "refund_candidates_event_pair_check"
  else if row.eventIdempotencyCorrelation ≠ .absent ∧ row.stripeEventId = none then
    raise "23514" "refund_candidates_event_correlation_check"
  else if row.lastObservedAt < row.firstObservedAt then
    raise "23514" "refund_candidates_observation_time_check"
  else if ¬(row.state ∈ [.exactLinked, .uniqueLinked] ↔ row.resolvedAt ≠ none) then
    raise "23514" "refund_candidates_resolution_check"
  else
    .ok row

end RefundCorrelationCandidate

namespace ExternalRefundAlert

-- The checks of `external_refund_alerts`.
def check (refundId : String) (row : ExternalRefundAlert) : Except StoreError ExternalRefundAlert :=
  if isRefundId refundId = false then
    raise "23514" "external_refund_alerts_refund_id_check"
  else if row.environment.isPilot = false then
    raise "23514" "external_refund_alerts_non_live_check"
  else if row.detectedAt < row.stripeRefundCreatedAt then
    raise "23514" "external_refund_alerts_observation_time_check"
  else if isPaymentKey row.paymentKey = false then
    raise "23514" "external_refund_alerts_payment_key_check"
  else if row.amountMinor ≤ 0 then
    raise "23514" "external_refund_alerts_amount_check"
  else if isCurrency row.currency = false then
    raise "23514" "external_refund_alerts_currency_check"
  else if row.reconciledAt ≠ none then
    raise "23514" "external_refund_alerts_pilot_reconciliation_check"
  else
    .ok row

end ExternalRefundAlert

namespace ReconciliationCheckpoint

-- `reconciliation_checkpoints_progress_check`
def check (row : ReconciliationCheckpoint) : Except StoreError ReconciliationCheckpoint :=
  match row.pageInProgress, row.scanWindowEnd, row.startingAfter with
  | true, some scanWindowEnd, _ =>
    if row.committedThrough < scanWindowEnd then .ok row
    else raise "23514" "reconciliation_checkpoints_progress_check"
  | false, none, none => .ok row
  | _, _, _           => raise "23514" "reconciliation_checkpoints_progress_check"

end ReconciliationCheckpoint
end RefundDesk
