import RefundDesk.Database.Update

namespace RefundDesk

open Transaction

namespace RefundRequestDetail

-- Stores the image of an accepted UPDATE.
def replaceRow (detail : RefundRequestDetail) (row : RefundRequest) : RefundRequestDetail :=
  { detail with request := row, images := detail.request :: detail.images }

end RefundRequestDetail

-- The methods of `TenantRepositories` that read and write the rows of one request.
namespace RequestRepository

variable (env : TriggerEnv)

-- `updateMany` with the primary key in its condition: whether it changed the row.
def updateRequest (guard : RefundRequest → Bool) (data : RefundRequest → RefundRequest) :
    RequestTransaction Bool := do
  let detail ← get
  if guard detail.request then
    let row ← fromExcept (RefundRequest.update env detail (data detail.request))
    set (detail.replaceRow row)
    pure true
  else
    pure false

-- `refunddesk_validate_decision` for a new decision. `attestation` is the row that the decision
-- references, `accountId` the Stripe account of the installation of the request.
def validateDecision (attestation : Option ApprovalAttestation) (accountId : Option String)
    (request : RefundRequest) (decision : ApprovalDecision) : Except StoreError Unit :=
  if request.requesterUserId = decision.approverUserId then
    raise "23514" "requester cannot decide their own request"
  else if env.approverEnabled decision.approverUserId = false then
    raise "42501" "approver is not explicitly enabled in the request tenant"
  else if request.workflowStatus ≠ .pendingApproval ∨ request.expiresAt ≤ env.now ∨
      decision.decidedAt < request.createdAt ∨ request.expiresAt ≤ decision.decidedAt ∨
      env.now < decision.decidedAt then
    raise "23514" "request is no longer open for decisions"
  else if decision.decision = .reject then
    if decision.approvalAttestationId ≠ none then
      raise "23514" "rejection decisions cannot consume an approval attestation"
    else
      .ok ()
  else if decision.approvalAttestationId = none then
    raise "23514" "approval decisions require an independent attestation"
  else
    match attestation with
    | none => raise "23514" "approval attestation does not match the decision identity"
    | some attestation =>
      if attestation.requestId ≠ env.requestId ∨
          attestation.approverUserId ≠ decision.approverUserId then
        raise "23514" "approval attestation does not match the decision identity"
      else if attestation.installationId ≠ request.installationId ∨
          some attestation.stripeAccountId ≠ accountId ∨
          attestation.environment ≠ request.environment ∨
          attestation.requestVersion ≠ request.version ∨
          attestation.verifiedAt < request.createdAt ∨
          decision.decidedAt < attestation.verifiedAt ∨
          attestation.consumeBefore ≤ decision.decidedAt ∨
          request.expiresAt < attestation.consumeBefore ∨
          ¬(attestation.resourceType = .paymentIntent ∧
              request.paymentIntentId = some attestation.resourceId ∨
            attestation.resourceType = .charge ∧
              request.chargeId = some attestation.resourceId) then
        raise "23514" "approval attestation does not match the current request snapshot"
      else
        .ok ()

structure DecisionResult where
  becameApproved : Bool
  becameRejected : Bool
  deriving DecidableEq

def recordDecision (attestation : Option ApprovalAttestation) (accountId : Option String)
    (decision : ApprovalDecision) (now : Timestamp) : RequestTransaction DecisionResult := do
  let detail ← get
  fromExcept (validateDecision env attestation accountId detail.request decision)
  require (∀ other ∈ detail.decisions, other.approverUserId ≠ decision.approverUserId)
    (.database "23505" "approval_decisions_request_approver_key")
  set { detail with decisions := detail.decisions ++ [decision] }
  if decision.decision = .reject then
    let rejected ← updateRequest env
      (fun row => row.workflowStatus = .pendingApproval ∧ row.effectState = .notStarted)
      fun row => { row with
        workflowStatus         := .rejected
        terminalAt             := some now
        paymentGuardReleasedAt := some now
        version                := row.version + 1
      }
    pure { becameApproved := false, becameRejected := rejected }
  else
    let approved ← updateRequest env
      (fun row => row.workflowStatus = .pendingApproval)
      fun row => { row with
        workflowStatus := .approved
        approvedAt     := some now
        version        := row.version + 1
      }
    pure { becameApproved := approved, becameRejected := false }

def cancelPendingRequest (requesterUserId : String) (now : Timestamp) : RequestTransaction Bool :=
  updateRequest env
    (fun row => row.requesterUserId = requesterUserId ∧ row.workflowStatus = .pendingApproval ∧
      row.effectState = .notStarted)
    fun row => { row with
      workflowStatus         := .canceled
      terminalAt             := some now
      paymentGuardReleasedAt := some now
      version                := row.version + 1
    }

-- The UPDATE of `expirePendingRequests`.
def expirePendingRequest (now : Timestamp) : RequestTransaction Bool :=
  updateRequest env
    (fun row => row.workflowStatus = .pendingApproval ∧ row.effectState = .notStarted)
    fun row => { row with
      workflowStatus         := .expired
      terminalAt             := some now
      paymentGuardReleasedAt := some now
      version                := row.version + 1
    }

def claimExecution (tenant : Tenant) (installation : Option StripeInstallation)
    (now : Timestamp) : RequestTransaction Bool :=
  updateRequest env
    (fun row => row.workflowStatus = .approved ∧ row.effectState = .notStarted ∧
      row.paymentGuardReleasedAt = none ∧ row.environment.isPilot ∧
      tenant.status = .active ∧ tenant.liveEnabled = false ∧
      installation.any fun installation =>
        installation.status = .active ∧ installation.environment.isPilot)
    fun row => { row with
      workflowStatus     := .executing
      executionStartedAt := some now
      version            := row.version + 1
    }

def resumeExecutionAfterAbsence (now : Timestamp) : RequestTransaction Bool :=
  updateRequest env
    (fun row => row.workflowStatus = .reconciliationRequired ∧ row.effectState = .absenceProven)
    fun row => { row with
      workflowStatus     := .executing
      executionStartedAt := some now
      version            := row.version + 1
    }

def markEffectPossible : RequestTransaction Bool :=
  updateRequest env
    (fun row => row.workflowStatus = .executing ∧ row.effectState ∈ [.notStarted, .absenceProven])
    fun row => { row with
      effectState := .possible
      version     := row.version + 1
    }

def markReconciliationRequired : RequestTransaction Bool :=
  updateRequest env
    (fun row => row.workflowStatus = .executing ∧ row.paymentGuardReleasedAt = none)
    fun row => { row with
      workflowStatus := .reconciliationRequired
      version        := row.version + 1
    }

def markAbsenceProven : RequestTransaction Bool :=
  updateRequest env
    (fun row => row.workflowStatus = .reconciliationRequired ∧ row.effectState = .possible)
    fun row => { row with
      effectState := .absenceProven
      version     := row.version + 1
    }

def markCertainAbsenceWhileExecuting : RequestTransaction Bool :=
  updateRequest env
    (fun row => row.workflowStatus = .executing ∧ row.effectState = .possible)
    fun row => { row with
      effectState := .absenceProven
      version     := row.version + 1
    }

def markTerminalFailureAfterAbsence (now : Timestamp) : RequestTransaction Bool :=
  updateRequest env
    (fun row => row.workflowStatus = .executing ∧ row.effectState ∈ [.notStarted, .absenceProven])
    fun row => { row with
      effectState            := .absenceProven
      workflowStatus         := .failedTerminal
      terminalAt             := some now
      paymentGuardReleasedAt := some now
      version                := row.version + 1
    }

-- The three protective updates that deauthorization and an external refund make.
def markStale (now : Timestamp) : RequestTransaction Bool :=
  updateRequest env
    (fun row => row.workflowStatus ∈ [.pendingApproval, .approved] ∧
      row.effectState = .notStarted ∧ row.paymentGuardReleasedAt = none)
    fun row => { row with
      workflowStatus         := .stale
      effectState            := .absenceProven
      terminalAt             := some now
      paymentGuardReleasedAt := some now
      version                := row.version + 1
    }

def markFailedWithoutEffect (now : Timestamp) : RequestTransaction Bool :=
  updateRequest env
    (fun row => row.workflowStatus = .executing ∧
      row.effectState ∈ [.notStarted, .absenceProven] ∧ row.paymentGuardReleasedAt = none)
    fun row => { row with
      workflowStatus         := .failedTerminal
      effectState            := .absenceProven
      terminalAt             := some now
      paymentGuardReleasedAt := some now
      version                := row.version + 1
    }

def markEffectForReconciliation : RequestTransaction Bool :=
  updateRequest env
    (fun row => row.workflowStatus = .executing ∧
      row.effectState ∈ [.possible, .identified] ∧ row.paymentGuardReleasedAt = none)
    fun row => { row with
      workflowStatus := .reconciliationRequired
      version        := row.version + 1
    }

structure EnsureExecutionInput where
  idempotencyKey          : String
  canonicalParametersHash : String
  amountMinor             : Int
  currency                : String

-- The row that the upsert creates.
def EnsureExecutionInput.created (input : EnsureExecutionInput) : RefundExecution where
  idempotencyKey           := input.idempotencyKey
  canonicalParametersHash  := input.canonicalParametersHash
  stripeRefundId           := none
  stripeRefundStatus       := none
  amountMinor              := input.amountMinor
  currency                 := input.currency
  lastStripeEventId        := none
  lastStripeEventCreatedAt := none
  lastStripeRequestId      := none
  reconciledAt             := none
  attempts                 := []

-- An upsert whose update is empty.
def ensureExecution (input : EnsureExecutionInput) : RequestTransaction RefundExecution := do
  let detail ← get
  match detail.execution with
  | some execution => pure execution
  | none =>
    let execution ← fromExcept (input.created.insert env detail.request)
    set { detail with execution := some execution }
    pure execution

-- The largest attempt number of the execution, or zero.
def maximumAttemptNumber (execution : RefundExecution) : Nat :=
  (execution.attempts.map (·.attemptNumber)).foldl max 0

def beginExecutionAttempt (attemptNumber : Nat) (startedAt : Timestamp) :
    RequestTransaction Unit := do
  require (1 ≤ attemptNumber) (.rangeError "Execution attempt number must be positive")
  let detail ← get
  match detail.execution with
  | none => throw (.database "23503" "refund_execution_attempts_execution_id_tenant_id_fkey")
  | some execution =>
    require (∀ attempt ∈ execution.attempts, attempt.attemptNumber ≠ attemptNumber)
      (.database "23505" "refund_execution_attempts_execution_number_key")
    let attempt : RefundExecutionAttempt := {
      attemptNumber
      state               := .started
      normalizedErrorCode := none
      stripeRequestId     := none
      startedAt
      finishedAt          := none
    }
    set { detail with
      execution := some { execution with attempts := execution.attempts ++ [attempt] }
    }

structure FinishExecutionAttemptInput where
  attemptNumber       : Nat
  state               : ExecutionAttemptState
  normalizedErrorCode : Option String
  stripeRequestId     : Option String
  finishedAt          : Timestamp

def finishAttempt (input : FinishExecutionAttemptInput) (attempt : RefundExecutionAttempt) :
    RefundExecutionAttempt :=
  { attempt with
    state               := input.state
    normalizedErrorCode := input.normalizedErrorCode.or attempt.normalizedErrorCode
    stripeRequestId     := input.stripeRequestId.or attempt.stripeRequestId
    finishedAt          := some input.finishedAt
  }

def finishExecutionAttempt (input : FinishExecutionAttemptInput) : RequestTransaction Bool := do
  let detail ← get
  match detail.execution with
  | none => pure false
  | some execution =>
    let matching (attempt : RefundExecutionAttempt) : Bool :=
      attempt.attemptNumber = input.attemptNumber ∧ attempt.state = .started
    set { detail with
      execution := some { execution with
        attempts := execution.attempts.map fun attempt =>
          if matching attempt then finishAttempt input attempt else attempt
      }
    }
    pure (execution.attempts.countP matching = 1)

end RequestRepository
end RefundDesk
