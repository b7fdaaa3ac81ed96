import RefundDesk.Worker.Observation
import RefundDesk.Repositories.Runs

namespace RefundDesk

open Transaction Relation RequestRepository TenantRepository WorkerStore

-- A transaction of the application: of the interface, of the webhook intake or of the worker.
inductive Operation
  | createRefundRequest (requestId : String) (input : CreateRefundRequestInput)
  | persistApprovalAttestation (attestationId : String) (row : ApprovalAttestation)
  | recordDecision (requestId : String) (decision : ApprovalDecision) (time : Timestamp)
  | cancelPendingRequest (requestId requesterUserId : String) (time : Timestamp)
  | expirePendingRequests (skipLocked : String → Bool) (time : Timestamp) (limit : Nat)
  | setApproverEnabled (userId : String) (enabled : Bool)
  | acknowledgeExternalRefundAlert (key : String ×ₗ String) (userId : String) (time : Timestamp)
  | deauthorizeInstallation (installationId : String) (deauthorizedAt purgeAt : Timestamp)
  | provisionWebhookInstallation (installationId eventId : String) (eventCreatedAt : Timestamp)
  | insertWebhookReceipt (receiptId : String) (data : WebhookReceipt)
  | markWebhookReceiptFailed (receiptId errorCode : String)
  | processInstallationLifecycle (input : InstallationLifecycleInput)
  | loadRefundExecution (requestId : String) (time : Timestamp)
  | persistEffectBoundary (requestId idempotencyKey : String) (time : Timestamp)
  | recordIdentifiedRefund (input : RecordIdentifiedRefundInput)
  | recordRetryableAttemptFailure (input : AttemptFailureInput)
  | recordAmbiguousAttemptFailure (input : AttemptFailureInput)
  | recordTerminalAttemptWithoutEffect (input : AttemptFailureInput)
  | recordTerminalWithoutEffect (requestId : String) (time : Timestamp)
  | recordReconciliationRequired (requestId : String)
  | prepareExecutionRecoveryWork (limit : Nat)
  | reconcileUnrecoverable (item : ExecutionWorkItem)
  | observeRefund (input : ObserveRefundInput)
  | observeLinkedRefund (input : ObserveLinkedRefundInput)
  | commitReconciliationCheckpoint (input : CommitCheckpointInput)

namespace Operation

def run (keys : WorkerKeys) (now : Timestamp) : Operation → StoreTransaction Unit
  | createRefundRequest requestId input =>
    TenantRepository.createRefundRequest now requestId input
  | persistApprovalAttestation attestationId row =>
    TenantRepository.persistApprovalAttestation attestationId row
  | recordDecision requestId decision time =>
    discard <| TenantRepository.recordDecision now requestId decision time
  | cancelPendingRequest requestId requesterUserId time =>
    discard <| onRequest now requestId fun env =>
      RequestRepository.cancelPendingRequest env requesterUserId time
  | expirePendingRequests skipLocked time limit =>
    TenantRepository.expirePendingRequests now skipLocked time limit
  | setApproverEnabled userId enabled =>
    discard <| TenantRepository.setApproverEnabled userId enabled
  | acknowledgeExternalRefundAlert key userId time =>
    discard <| TenantRepository.acknowledgeExternalRefundAlert key userId time
  | deauthorizeInstallation installationId deauthorizedAt purgeAt =>
    discard <| TenantRepository.deauthorizeInstallation now installationId deauthorizedAt purgeAt
  | provisionWebhookInstallation installationId eventId eventCreatedAt =>
    discard <| TenantRepository.provisionWebhookInstallation installationId eventId eventCreatedAt
  | insertWebhookReceipt receiptId data =>
    discard <| TenantRepository.insertWebhookReceipt receiptId data
  | markWebhookReceiptFailed receiptId errorCode =>
    discard <| TenantRepository.markWebhookReceiptFailed receiptId errorCode
  | processInstallationLifecycle input => WorkerStore.processInstallationLifecycle now input
  | loadRefundExecution requestId time =>
    discard <| WorkerStore.loadRefundExecution keys now requestId time
  | persistEffectBoundary requestId idempotencyKey time =>
    discard <| WorkerStore.persistEffectBoundary keys now requestId idempotencyKey time
  | recordIdentifiedRefund input => WorkerStore.recordIdentifiedRefund now input
  | recordRetryableAttemptFailure input => WorkerStore.recordRetryableAttemptFailure now input
  | recordAmbiguousAttemptFailure input => WorkerStore.recordAmbiguousAttemptFailure now input
  | recordTerminalAttemptWithoutEffect input =>
    WorkerStore.recordTerminalAttemptWithoutEffect now input
  | recordTerminalWithoutEffect requestId time =>
    WorkerStore.recordTerminalWithoutEffect now requestId time
  | recordReconciliationRequired requestId =>
    WorkerStore.recordReconciliationRequired now requestId
  | prepareExecutionRecoveryWork limit =>
    discard <| TenantRepository.prepareExecutionRecoveryWork now limit
  | reconcileUnrecoverable item => WorkerStore.reconcileUnrecoverable now item
  | observeRefund input => WorkerStore.observeRefund keys now input
  | observeLinkedRefund input => WorkerStore.observeLinkedRefund now input
  | commitReconciliationCheckpoint input =>
    WorkerStore.commitReconciliationCheckpoint now input

end Operation

-- The calls that an observation makes for a request. A refund is identified for a request that is
-- linked to it, or by the event that carries the idempotency key of the request.
def ObservationCall (input : ObserveRefundInput) (d : RefundRequestDetail) :
    RequestCall → Bool → Prop
  | .markReconciliationRequired, _                  => True
  | .markRefundCorrelationCandidateLinked id _ _, _ => Identifies d id
  | .recordRefundCorrelationCandidate candidate, _  =>
    d.execution.isSome ∧ candidate.installationId = d.request.installationId ∧
      candidate.paymentKey = d.request.paymentKey ∧
      candidate.stripeRefundId = input.refund.refundId ∧
      candidate.paymentIntentId = input.refund.paymentIntentId ∧
      candidate.chargeId = input.refund.chargeId ∧
      candidate.amountMinor = input.refund.amountMinor ∧
      normalizeCurrency input.refund.currency = .ok candidate.currency ∧
      candidate.stripeCreatedAt = stripeSecond input.refund.created ∧
      candidate.scanWindowEnd = input.scanWindowEnd
  | .markRefundIdentified observation, changed      =>
    changed = true ∧ observation = input.identified ∧
      ∃ execution, d.execution = some execution ∧
        (execution.stripeRefundId = some input.refund.refundId ∨
          execution.stripeRefundId = none ∧
            input.eventIdempotencyCorrelation d.execution = .exact)
  | call, _                                         => call ∈ protectiveCalls input.observedAt

-- The calls that a transaction may make.
def Operation.calls : Operation → Footprint
  | .createRefundRequest .. | .persistApprovalAttestation .. | .setApproverEnabled ..
  | .acknowledgeExternalRefundAlert .. | .provisionWebhookInstallation ..
  | .insertWebhookReceipt .. | .markWebhookReceiptFailed .. => fun _ _ _ _ => False
  | .recordDecision requestId decision time => fun id _ call _ =>
    id = requestId ∧ ∃ attestation accountId,
      call = .recordDecision attestation accountId decision time
  | .cancelPendingRequest requestId requesterUserId time => fun id _ call _ =>
    id = requestId ∧ call = .cancelPendingRequest requesterUserId time
  | .expirePendingRequests _ time _ => fun _ _ call _ => call = .expirePendingRequest time
  | .deauthorizeInstallation _ deauthorizedAt _ => fun _ _ call _ =>
    call ∈ protectiveCalls deauthorizedAt
  | .processInstallationLifecycle input => fun _ _ call _ =>
    call ∈ protectiveCalls (stripeSecond input.eventCreated)
  | .loadRefundExecution requestId time => fun id _ call _ =>
    id = requestId ∧ (call = .markReconciliationRequired ∨
      ∃ tenant installation, call = .claimExecution tenant installation time)
  | .persistEffectBoundary requestId _ time => fun id _ call _ =>
    id = requestId ∧ (call = .markReconciliationRequired ∨ call = .markEffectPossible ∨
      (∃ input, call = .ensureExecution input) ∨
      ∃ attemptNumber, call = .beginExecutionAttempt attemptNumber time)
  | .recordIdentifiedRefund input => fun id d call b =>
    id = input.requestId ∧
        ((b = true ∧ ∃ observation, call = .markRefundIdentified observation ∧
            observation.stripeRefundId = input.refundId ∧
            (observation.stripeRefundStatus = none ∨
              observation.stripeRefundStatus = input.refundStatus)) ∨
          (Identifies d input.refundId ∧
            ∃ state, call = .markRefundCorrelationCandidateLinked input.refundId state input.time) ∨
          ∃ attempt, call = .finishExecutionAttempt attempt) ∨
      call ∈ protectiveCalls input.time
  | .recordRetryableAttemptFailure input => fun id _ call b =>
    id = input.requestId ∧ b = true ∧
      ((∃ attempt, call = .finishExecutionAttempt attempt) ∨
        call = .markCertainAbsenceWhileExecuting)
  | .recordAmbiguousAttemptFailure input => fun id _ call b =>
    id = input.requestId ∧ b = true ∧
      ((∃ attempt, call = .finishExecutionAttempt attempt) ∨ call = .markReconciliationRequired)
  | .recordTerminalAttemptWithoutEffect input => fun id _ call b =>
    id = input.requestId ∧ b = true ∧
      ((∃ attempt, call = .finishExecutionAttempt attempt) ∨
        call = .markCertainAbsenceWhileExecuting ∨
        call = .markTerminalFailureAfterAbsence input.time)
  | .recordTerminalWithoutEffect requestId time => fun id _ call _ =>
    id = requestId ∧ call = .markTerminalFailureAfterAbsence time
  | .recordReconciliationRequired requestId => fun id _ call _ =>
    id = requestId ∧ call = .markReconciliationRequired
  | .prepareExecutionRecoveryWork _ => fun _ _ call _ => call = .markReconciliationRequired
  | .reconcileUnrecoverable item => fun id _ call _ =>
    id = item.id ∧ call = .markReconciliationRequired
  | .observeRefund input => fun _ => ObservationCall input
  | .observeLinkedRefund input => fun id d call b =>
    id = input.requestId ∧ b = true ∧ ∃ observation, call = .markRefundIdentified observation ∧
      observation.stripeRefundId = input.expectedRefundId ∧
      observation.stripeRefundStatus = input.refund.status ∧
      ∃ execution, d.execution = some execution ∧
        execution.stripeRefundId = some input.expectedRefundId
  | .commitReconciliationCheckpoint input => fun _ => ResolutionCall input.window input.completedAt

end RefundDesk
