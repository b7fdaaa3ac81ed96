import RefundDesk.Domain.ApprovalAttestation
import RefundDesk.Repositories.Reconciliation

namespace RefundDesk

open Transaction

-- The keyrings of the worker and the hash of a list of fields (`sha256` of its JSON text).
structure WorkerKeys where
  hashFields                : List (Option String) → String
  verifyRefundProof         : RefundProofPayload → String → Bool
  verifyApprovalAttestation : ApprovalAttestationPayload → String → String → Bool

-- The methods of `PrismaWorkerStore`. Each is one serializable transaction, except the listing that
-- the recovery job reads, which is a sequence of them.
namespace WorkerStore

open RequestRepository TenantRepository

variable (keys : WorkerKeys) (now : Timestamp)

def fromDomain {α : Type} (x : Except DomainError α) : StoreTransaction α :=
  fromExcept (x.mapError .domain)

-- How many revisions an attempt that is over has cost.
def resolvedRevisionCost (attempt : RefundExecutionAttempt) : Option Nat :=
  match attempt.state with
  | .retryableFailure            => some 2
  | .ambiguousFailure | .started => some 4
  | .terminalFailure | .completed => none

def resolvedRevisionCosts (attempts : List RefundExecutionAttempt) : Option Nat :=
  (attempts.mapM resolvedRevisionCost).map List.sum

-- The attempts are numbered from one, and none has completed or failed for good.
def attemptsAreOpen (attempts : List RefundExecutionAttempt) : Bool :=
  attempts.zipIdx.all fun (attempt, index) =>
    attempt.attemptNumber = index + 1 ∧ attempt.state ≠ .completed ∧
      attempt.state ≠ .terminalFailure

def approvalAttestationRequestVersionIsCompatible (request : RefundRequest)
    (execution : Option RefundExecution) (attestedRequestVersion : Nat) : Bool :=
  if request.version ≤ attestedRequestVersion then
    false
  else
    let revisionDelta := request.version - attestedRequestVersion
    match execution with
    | none =>
      (request.workflowStatus = .approved ∧ request.effectState = .notStarted ∧
          revisionDelta = 1) ∨
        (request.workflowStatus = .executing ∧ request.effectState = .notStarted ∧
          revisionDelta = 2)
    | some execution =>
      match execution.attempts.getLast? with
      | none        => false
      | some latest =>
        if execution.stripeRefundId ≠ none ∨ attemptsAreOpen execution.attempts = false then
          false
        else if request.workflowStatus = .executing ∧ request.effectState = .absenceProven then
          (resolvedRevisionCosts execution.attempts).any fun cost => revisionDelta = 2 + cost
        else
          (resolvedRevisionCosts execution.attempts.dropLast).any fun cost =>
            (request.workflowStatus = .executing ∧ request.effectState = .possible ∧
                latest.state = .started ∧ revisionDelta = 3 + cost) ∨
              (request.workflowStatus = .reconciliationRequired ∧
                request.effectState = .possible ∧
                latest.state ∈ [.started, .ambiguousFailure] ∧ revisionDelta = 4 + cost) ∨
              (request.workflowStatus = .reconciliationRequired ∧
                request.effectState = .absenceProven ∧
                latest.state ∈ [.started, .ambiguousFailure] ∧ revisionDelta = 5 + cost)

def resourceOf (row : RefundRequest) (chargeId : String) : ResourceType × String :=
  match row.paymentIntentId with
  | none                 => (.charge, chargeId)
  | some paymentIntentId => (.paymentIntent, paymentIntentId)

-- The payload that the stored attestation must have signed, and that attestation.
def approvalPayloadFromExecutionItem (item : ExecutionWorkItem) :
    Except DomainError (Option (ApprovalAttestationPayload × ApprovalAttestation)) :=
  match item.approvalDecision, item.request.chargeId with
  | some { decision, approver, approvalAttestation := some (attestationId, attestation) },
      some chargeId =>
    let (resourceType, resourceId) := resourceOf item.request chargeId
    if decision.decision ≠ .approve ∨
        decision.approvalAttestationId ≠ some attestationId ∨
        attestation.requestId ≠ item.id ∨
        attestation.installationId ≠ item.request.installationId ∨
        attestation.approverUserId ≠ decision.approverUserId ∨
        attestation.stripeAccountId ≠ item.installation.stripeAccountId ∨
        attestation.environment ≠ item.request.environment ∨
        item.request.environment = .live ∨ item.request.requiredApprovals ≠ 1 ∨
        approver.approverEnabled = false ∨
        decision.approverUserId = item.request.requesterUserId ∨
        approver.stripeUserId = item.requester.stripeUserId ∨
        approvalAttestationRequestVersionIsCompatible item.request item.execution
          attestation.requestVersion = false ∨
        decision.decidedAt < attestation.verifiedAt ∨
        attestation.consumeBefore ≤ decision.decidedAt ∨
        attestation.resourceType ≠ resourceType ∨ attestation.resourceId ≠ resourceId then
      .ok none
    else do
      let currency ← normalizeCurrency item.request.currency
      pure (some ({
        amountMinor           := item.request.amountMinor
        approverStripeUserId  := approver.stripeUserId
        approverUserId        := decision.approverUserId
        canonicalRequestHash  := attestation.signedEnvelopeHash
        consumeBefore         := attestation.consumeBefore
        environment           := item.request.environment
        expiresAt             := item.request.expiresAt
        installationId        := item.request.installationId
        paymentIntentId       := item.request.paymentIntentId
        paymentKey            := item.request.paymentKey
        policyVersion         := item.request.policyVersion
        reason                := item.request.reason
        requestId             := item.id
        requesterStripeUserId := item.requester.stripeUserId
        requesterUserId       := item.request.requesterUserId
        requestNonce          := attestation.requestNonce
        requestVersion        := attestation.requestVersion
        requiredApprovals     := item.request.requiredApprovals
        stripeAccountId       := item.installation.stripeAccountId
        tenantId              := item.tenantId
        verifiedAt            := attestation.verifiedAt
        chargeId, currency, resourceId, resourceType
      }, attestation))
  | _, _ => .ok none

def approvalAuthorizationSnapshotHash (payload : ApprovalAttestationPayload) : String :=
  keys.hashFields [
    payload.tenantId, payload.installationId, payload.stripeAccountId, payload.environment.text,
    ResourceType.text payload.resourceType, payload.resourceId, payload.requestId,
    toString payload.requestVersion, payload.approverUserId, payload.requesterUserId,
    payload.approverStripeUserId, payload.requesterStripeUserId, payload.paymentKey,
    payload.paymentIntentId, payload.chargeId, toString payload.amountMinor, payload.currency,
    payload.reason.text, toString payload.policyVersion, toString payload.requiredApprovals,
    toString payload.expiresAt
  ]

def approvalAttestationIsValid (item : ExecutionWorkItem) : Except DomainError Bool := do
  match ← approvalPayloadFromExecutionItem item with
  | none                        => pure false
  | some (payload, attestation) =>
    pure <| attestation.authorizationSnapshotHash = approvalAuthorizationSnapshotHash keys payload &&
      keys.verifyApprovalAttestation payload attestation.hmacKeyVersion attestation.hmac

def hasActivePilotExecutionContext (item : ExecutionWorkItem) : Bool :=
  item.tenant.status = .active ∧ item.installation.status = .active ∧
    item.tenant.liveEnabled = false ∧ item.request.environment.isPilot ∧
    item.installation.environment = item.request.environment

def requireExecutionReconciliation (requestId : String) : StoreTransaction Unit := do
  let marked ← onRequest now requestId markReconciliationRequired
  if marked ≠ some true then
    let current ← getExecutionWorkItem requestId
    require (current.any fun item => item.request.workflowStatus = .reconciliationRequired)
      (.error "EXECUTION_RECOVERY_RECONCILIATION_COMPARE_AND_SET_FAILED")

structure RefundExecutionRecord where
  tenantId          : String
  requestId         : String
  installationId    : String
  stripeAccountId   : String
  environment       : StripeEnvironment
  active            : Bool
  tenantLiveEnabled : Bool
  resourceType      : ResourceType
  resourceId        : String
  paymentKey        : String
  paymentIntentId   : Option String
  chargeId          : String
  amountMinor       : Int
  currency          : String
  reason            : RefundReason
  effectState       : EffectState
  linkedRefundId    : Option String
  deriving DecidableEq, Repr

def executionRecord (item : ExecutionWorkItem) (chargeId : String) : RefundExecutionRecord where
  tenantId          := item.tenantId
  requestId         := item.id
  installationId    := item.request.installationId
  stripeAccountId   := item.installation.stripeAccountId
  environment       := item.request.environment
  active            := item.installation.status = .active
  tenantLiveEnabled := item.tenant.liveEnabled
  resourceType      := (resourceOf item.request chargeId).1
  resourceId        := (resourceOf item.request chargeId).2
  paymentKey        := item.request.paymentKey
  paymentIntentId   := item.request.paymentIntentId
  chargeId          := chargeId
  amountMinor       := item.request.amountMinor
  currency          := item.request.currency
  reason            := item.request.reason
  effectState       := item.request.effectState
  linkedRefundId    := item.execution.bind (·.stripeRefundId)

-- A claimed request that may have had its effect, or whose execution is not its own, is not
-- executed again.
def mustReconcile (item : ExecutionWorkItem) (idempotencyKey : String) : Bool :=
  item.request.effectState = .possible ∨
    (item.request.effectState = .absenceProven ∧ item.execution.isNone) ∨
    item.execution.any fun execution => execution.idempotencyKey ≠ idempotencyKey

def loadClaimedExecution (item : ExecutionWorkItem) :
    StoreTransaction (Option RefundExecutionRecord) := do
  let valid ← fromDomain (approvalAttestationIsValid keys item)
  if hasActivePilotExecutionContext item = false ∨ valid = false ∨
      item.request.workflowStatus ≠ .executing ∨
      item.request.effectState ∉ [.notStarted, .possible, .absenceProven] then
    pure none
  else
    match item.request.chargeId with
    | none          => pure none
    | some chargeId =>
      let expectedIdempotencyKey ← fromDomain (refundIdempotencyKey item.id)
      if mustReconcile item expectedIdempotencyKey then
        requireExecutionReconciliation now item.id
        pure none
      else
        pure (some (executionRecord item chargeId))

-- The second read of the work item, under the locks, sees what the first one saw.
def loadRefundExecution (requestId : String) (time : Timestamp) :
    StoreTransaction (Option RefundExecutionRecord) := do
  match ← getExecutionWorkItem requestId with
  | none      => pure none
  | some item =>
    if hasActivePilotExecutionContext item = false then
      pure none
    else
      let authorizationLocked ← lockExecutionAuthorization item.id item.request.installationId
      if authorizationLocked = false then
        pure none
      else
        let valid ← fromDomain (approvalAttestationIsValid keys item)
        if valid = false then
          if item.request.effectState = .possible then
            requireExecutionReconciliation now item.id
          pure none
        else
          let claimed ←
            if item.request.workflowStatus = .approved ∧
                item.request.effectState = .notStarted then
              claimExecutionWorkItem now requestId time
            else
              pure (some item)
          match claimed with
          | none      => pure none
          | some item => loadClaimedExecution keys now item

inductive EffectBoundaryDecision
  | execute (attemptNumber : Nat) (idempotencyKey : String)
  | alreadyIdentified (refundId : String)
  | reconciliationRequired
  | notExecutable
  deriving DecidableEq, Repr

def canonicalExecutionHash (item : ExecutionWorkItem) : Except DomainError String := do
  let currency ← normalizeCurrency item.request.currency
  pure <| keys.hashFields [
    item.tenantId, item.id, item.installation.stripeAccountId, item.request.environment.text,
    item.request.paymentKey, item.request.paymentIntentId, item.request.chargeId,
    toString item.request.amountMinor, currency, item.request.reason.text
  ]

-- The transaction after which Stripe may be called.
def crossEffectBoundary (item : ExecutionWorkItem) (idempotencyKey : String) (time : Timestamp) :
    StoreTransaction EffectBoundaryDecision := do
  let parametersHash ← fromDomain (canonicalExecutionHash keys item)
  let attemptNumber ← onRequest now item.id fun env => do
    let execution ← ensureExecution env {
      idempotencyKey
      canonicalParametersHash := parametersHash
      amountMinor             := item.request.amountMinor
      currency                := item.request.currency
    }
    let agree ← fromExcept
      ((currenciesAgree execution.currency item.request.currency).mapError .domain)
    require (execution.idempotencyKey = idempotencyKey ∧
        execution.amountMinor = item.request.amountMinor ∧ agree = true ∧
        execution.canonicalParametersHash = parametersHash)
      (.error "EXECUTION_IDEMPOTENCY_CONFLICT")
    let marked ← markEffectPossible env
    require (marked = true) (.error "EFFECT_BOUNDARY_COMPARE_AND_SET_FAILED")
    let attemptNumber := maximumAttemptNumber execution + 1
    beginExecutionAttempt attemptNumber time
    pure attemptNumber
  match attemptNumber with
  | none               => throw (.error "EFFECT_BOUNDARY_COMPARE_AND_SET_FAILED")
  | some attemptNumber => pure (.execute attemptNumber idempotencyKey)

def persistEffectBoundary (requestId idempotencyKey : String) (time : Timestamp) :
    StoreTransaction EffectBoundaryDecision := do
  match ← getExecutionWorkItem requestId with
  | none      => pure .notExecutable
  | some item =>
    if item.request.workflowStatus ≠ .executing then
      pure (if item.request.workflowStatus = .reconciliationRequired then .reconciliationRequired
        else .notExecutable)
    else if hasActivePilotExecutionContext item = false ∨
        item.request.paymentGuardReleasedAt ≠ none then
      pure .notExecutable
    else
      let authorizationLocked ← lockExecutionAuthorization item.id item.request.installationId
      if authorizationLocked = false then
        pure .notExecutable
      else
        let valid ← fromDomain (approvalAttestationIsValid keys item)
        if valid = false then
          if item.request.effectState = .possible then
            requireExecutionReconciliation now item.id
            pure .reconciliationRequired
          else
            pure .notExecutable
        else
          match item.execution.bind (·.stripeRefundId) with
          | some refundId => pure (.alreadyIdentified refundId)
          | none =>
            if mustReconcile item idempotencyKey then
              requireExecutionReconciliation now item.id
              pure .reconciliationRequired
            else if item.request.effectState ∉ [.notStarted, .absenceProven] then
              pure .notExecutable
            else
              crossEffectBoundary keys now item idempotencyKey time

-- Alerts for the candidates of a request that are not the refund that was linked.
def alertConflictingCandidates (installationId refundId : String) (observedAt : Timestamp)
    (candidates : List (String × RefundCorrelationCandidate)) : StoreTransaction Unit :=
  (candidates.filter fun candidate => candidate.1 ≠ refundId).forM fun candidate => do
    let currency ← fromDomain (normalizeCurrency candidate.2.currency)
    let _ ← observeExternalRefund now {
      stripeRefundId        := candidate.1
      stripeRefundCreatedAt := candidate.2.stripeCreatedAt
      paymentKey            := candidate.2.paymentKey
      amountMinor           := candidate.2.amountMinor
      classification        := .proofReplay
      installationId, currency, observedAt
    }

structure RecordIdentifiedRefundInput where
  requestId              : String
  attemptNumber          : Nat
  idempotencyKey         : String
  refundId               : String
  refundStatus           : Option StripeRefundStatus
  stripeRequestId        : Option String
  responseMatchesRequest : Bool
  time                   : Timestamp

def recordIdentifiedRefund (input : RecordIdentifiedRefundInput) : StoreTransaction Unit := do
  match ← getExecutionWorkItem input.requestId with
  | none      => throw (.error "EXECUTION_NOT_FOUND")
  | some item =>
    match item.execution with
    | none           => throw (.error "EXECUTION_NOT_FOUND")
    | some execution =>
      require (execution.idempotencyKey = input.idempotencyKey)
        (.error "EXECUTION_IDEMPOTENCY_CONFLICT")
      let candidates ← onRequest now input.requestId fun env => do
        let identified ← markRefundIdentified env {
          stripeRefundId           := input.refundId
          stripeRefundStatus       :=
            if input.responseMatchesRequest then input.refundStatus else none
          reconciliationResolution := .preserve
          stripeRequestId          := input.stripeRequestId
          stripeEventId            := none
          stripeEventCreatedAt     := none
          observedAt               := input.time
        }
        require (identified = true) (.error "REFUND_IDENTITY_COMPARE_AND_SET_FAILED")
        let _ ← markRefundCorrelationCandidateLinked input.refundId .exactLinked input.time
        pure (listRefundCorrelationCandidates (← get))
      alertConflictingCandidates now item.request.installationId input.refundId input.time
        (candidates.getD [])
      let finished ← onRequest now input.requestId fun _ => finishExecutionAttempt {
        attemptNumber       := input.attemptNumber
        state               := .completed
        normalizedErrorCode := none
        stripeRequestId     := input.stripeRequestId
        finishedAt          := input.time
      }
      require (finished = some true) (.error "EXECUTION_ATTEMPT_COMPARE_AND_SET_FAILED")

structure AttemptFailureInput where
  requestId     : String
  attemptNumber : Nat
  errorCode     : String
  time          : Timestamp

-- Ends the attempt of a failed call.
def AttemptFailureInput.finish (input : AttemptFailureInput) (state : ExecutionAttemptState) :
    RequestTransaction Bool :=
  finishExecutionAttempt {
    attemptNumber       := input.attemptNumber
    state               := state
    normalizedErrorCode := some input.errorCode
    stripeRequestId     := none
    finishedAt          := input.time
  }

-- Runs a method of the request, which must exist.
def onExistingRequest {α : Type} (requestId : String) (missing : StoreError)
    (m : TriggerEnv → RequestTransaction α) : StoreTransaction α := do
  match ← onRequest now requestId m with
  | none   => throw missing
  | some a => pure a

def recordRetryableAttemptFailure (input : AttemptFailureInput) : StoreTransaction Unit :=
  onExistingRequest now input.requestId (.error "RETRYABLE_FAILURE_COMPARE_AND_SET_FAILED")
    fun env => do
      let finished ← input.finish .retryableFailure
      let absence ← markCertainAbsenceWhileExecuting env
      require (finished = true ∧ absence = true)
        (.error "RETRYABLE_FAILURE_COMPARE_AND_SET_FAILED")

def recordAmbiguousAttemptFailure (input : AttemptFailureInput) : StoreTransaction Unit :=
  onExistingRequest now input.requestId (.error "AMBIGUOUS_FAILURE_COMPARE_AND_SET_FAILED")
    fun env => do
      let finished ← input.finish .ambiguousFailure
      let reconciliation ← markReconciliationRequired env
      require (finished = true ∧ reconciliation = true)
        (.error "AMBIGUOUS_FAILURE_COMPARE_AND_SET_FAILED")

def recordTerminalAttemptWithoutEffect (input : AttemptFailureInput) : StoreTransaction Unit :=
  onExistingRequest now input.requestId (.error "TERMINAL_FAILURE_COMPARE_AND_SET_FAILED")
    fun env => do
      let finished ← input.finish .terminalFailure
      let absence ← markCertainAbsenceWhileExecuting env
      let terminal ← markTerminalFailureAfterAbsence env input.time
      require (finished = true ∧ absence = true ∧ terminal = true)
        (.error "TERMINAL_FAILURE_COMPARE_AND_SET_FAILED")

def recordTerminalWithoutEffect (requestId : String) (time : Timestamp) :
    StoreTransaction Unit := do
  let terminal ← onRequest now requestId fun env => markTerminalFailureAfterAbsence env time
  if terminal ≠ some true then
    let current ← getExecutionWorkItem requestId
    require (current.any fun item => item.request.workflowStatus = .failedTerminal)
      (.error "TERMINAL_PREFLIGHT_COMPARE_AND_SET_FAILED")

def recordReconciliationRequired (requestId : String) : StoreTransaction Unit := do
  let marked ← onRequest now requestId markReconciliationRequired
  if marked ≠ some true then
    let current ← getExecutionWorkItem requestId
    require (current.any fun item => item.request.workflowStatus = .reconciliationRequired)
      (.error "RECONCILIATION_COMPARE_AND_SET_FAILED")

-- A prepared request whose execution cannot be its own goes to reconciliation, in a transaction
-- of its own.
def reconcileUnrecoverable (item : ExecutionWorkItem) : StoreTransaction Unit := do
  let expectedIdempotencyKey ← fromDomain (refundIdempotencyKey item.id)
  let executionCannotBeRecovered : Bool :=
    item.request.workflowStatus = .executing ∧ item.request.effectState = .absenceProven ∧
        item.execution.isNone ∨
      item.execution.any fun execution =>
        execution.stripeRefundId ≠ none ∨ execution.idempotencyKey ≠ expectedIdempotencyKey
  if executionCannotBeRecovered ∧ item.request.workflowStatus = .executing then
    requireExecutionReconciliation now item.id

end WorkerStore
end RefundDesk
