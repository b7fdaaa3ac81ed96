import RefundDesk.Worker.Execution

namespace RefundDesk

open Transaction

-- Where an observation of a refund comes from.
inductive ObservationSource
  | webhook (receiptId stripeEventId stripeAccountId : String)
      (eventIdempotencyKey : Option String) (eventType : AccountWebhookEventType)
      (eventCreated : Int)
  | scan (scanWindowEnd : Timestamp)
  deriving DecidableEq, Repr

structure ObserveRefundInput where
  installationId : String
  environment    : StripeEnvironment
  refund         : RefundObservation
  source         : ObservationSource
  observedAt     : Timestamp
  deriving DecidableEq, Repr

namespace ObserveRefundInput

def paymentKeyOf (refund : RefundObservation) : Except StoreError String :=
  match refund.paymentIntentId.or refund.chargeId with
  | none            => .error (.error "REFUND_OBSERVATION_PAYMENT_MISSING")
  | some paymentKey => .ok paymentKey

def authoritativeObservedRefundStatus (input : ObserveRefundInput) : Option StripeRefundStatus :=
  match input.source with
  | .webhook _ _ _ _ .refundFailed _ => some .failed
  | _                                => input.refund.status

def shouldApplyLinkedRefundObservation (input : ObserveRefundInput)
    (execution : RefundExecution) : Bool :=
  let currentStatus := execution.stripeRefundStatus
  match input.source, execution.lastStripeEventCreatedAt with
  | .scan _, _                                           => currentStatus ≠ input.refund.status
  | .webhook .., none                                    => true
  | .webhook _ _ _ _ _ eventCreated, some previousEventCreatedAt =>
    if previousEventCreatedAt < stripeSecond eventCreated then
      true
    else if stripeSecond eventCreated < previousEventCreatedAt then
      false
    else if input.authoritativeObservedRefundStatus = some .failed then
      currentStatus ≠ some .failed
    else if input.authoritativeObservedRefundStatus = some .canceled then
      currentStatus ≠ some .failed ∧ currentStatus ≠ some .canceled
    else
      false

def stripeEventId (input : ObserveRefundInput) : Option String :=
  match input.source with
  | .webhook _ stripeEventId .. => some stripeEventId
  | .scan _                     => none

def stripeEventCreatedAt (input : ObserveRefundInput) : Option Timestamp :=
  match input.source with
  | .webhook _ _ _ _ _ eventCreated => some (stripeSecond eventCreated)
  | .scan _                         => none

def scanWindowEnd (input : ObserveRefundInput) : Option Timestamp :=
  match input.source with
  | .webhook ..          => none
  | .scan scanWindowEnd  => some scanWindowEnd

def eventIdempotencyCorrelation (input : ObserveRefundInput)
    (execution : Option RefundExecution) : EventIdempotencyEvidence :=
  match input.source with
  | .webhook _ _ _ (some eventIdempotencyKey) _ _ =>
    if execution.any fun execution => execution.idempotencyKey = eventIdempotencyKey then .exact
    else .mismatch
  | _ => .absent

-- The payment of the observation is the one of the request.
def tupleMatches (input : ObserveRefundInput) (paymentKey : String) (row : RefundRequest) :
    Except StoreError Bool :=
  if row.installationId = input.installationId ∧ row.environment = input.environment ∧
      row.paymentKey = paymentKey ∧ row.amountMinor = input.refund.amountMinor then do
    let agree ← (currenciesAgree row.currency input.refund.currency).mapError .domain
    pure <| agree && decide ((row.paymentIntentId = none ∨
        row.paymentIntentId = input.refund.paymentIntentId) ∧
      (row.chargeId = none ∨ row.chargeId = input.refund.chargeId))
  else
    .ok false

-- What the observation says about the request that its metadata names.
structure Evidence where
  classification              : RefundEvidenceClassification
  tupleMatches                : Bool
  proofValid                  : Bool
  alreadyLinked               : Bool
  alreadyHandled              : Bool
  eventIdempotencyCorrelation : EventIdempotencyEvidence
  canPersistCandidate         : Bool
  deriving DecidableEq, Repr

def isWorkflowEvidence : RefundEvidenceClassification → Bool
  | .workflowCandidate | .workflowRefund    => true
  | .external | .tampered | .proofReplay    => false

-- The proof in the metadata of the refund is the one of the request.
def hasValidProof (keys : WorkerKeys) (tenantId stripeAccountId : String)
    (input : ObserveRefundInput) (requestId : String) (row : RefundRequest) : Bool :=
  input.refund.metadataProof.any fun proof => keys.verifyRefundProof {
    paymentKey  := row.paymentKey
    amountMinor := row.amountMinor
    currency    := row.currency
    environment := row.environment
    tenantId, stripeAccountId, requestId
  } proof

-- The evidence, given whether the payment of the observation is the one of the request.
def evidenceFor (keys : WorkerKeys) (tenantId stripeAccountId : String)
    (input : ObserveRefundInput) (request : Option (String × RefundRequestDetail))
    (tupleMatches : Bool) : Evidence :=
  let proofValid := tupleMatches && request.any fun (requestId, detail) =>
    input.hasValidProof keys tenantId stripeAccountId requestId detail.request
  let execution := request.bind (·.2.execution)
  let classification :=
    if input.refund.metadataRequestId ≠ none ∧ request.isNone then
      .tampered
    else
      classifyRefundEvidence {
        candidateRefundId := input.refund.refundId
        metadataRequestId := input.refund.metadataRequestId
        metadataProof     := input.refund.metadataProof
        expectedRequestId := (request.map (·.1)).getD ""
        linkedRefundId    := execution.bind (·.stripeRefundId)
        proofValid
      }
  let alreadyLinked := isWorkflowEvidence classification &&
    decide (execution.bind (·.stripeRefundId) = some input.refund.refundId)
  let alreadyHandled := alreadyLinked &&
    execution.any fun execution => !input.shouldApplyLinkedRefundObservation execution
  {
    eventIdempotencyCorrelation := input.eventIdempotencyCorrelation execution
    canPersistCandidate         := execution.isSome && tupleMatches && proofValid &&
      (isWorkflowEvidence classification || classification = .proofReplay)
    classification, tupleMatches, proofValid, alreadyLinked, alreadyHandled
  }

def evidence (keys : WorkerKeys) (tenantId stripeAccountId : String) (input : ObserveRefundInput)
    (paymentKey : String) (request : Option (String × RefundRequestDetail)) :
    Except StoreError Evidence :=
  match request with
  | none             => .ok (input.evidenceFor keys tenantId stripeAccountId none false)
  | some (_, detail) =>
    (input.tupleMatches paymentKey detail.request).map
      (input.evidenceFor keys tenantId stripeAccountId request)

-- The input of `markRefundIdentified`, which a webhook completes with its event.
def identified (input : ObserveRefundInput) : RequestRepository.IdentifiedRefundInput where
  stripeRefundId           := input.refund.refundId
  stripeRefundStatus       := input.authoritativeObservedRefundStatus
  reconciliationResolution := .preserve
  stripeRequestId          := none
  stripeEventId            := input.stripeEventId
  stripeEventCreatedAt     := input.stripeEventCreatedAt
  observedAt               := input.observedAt

-- The candidate as which the refund is recorded.
def candidate (input : ObserveRefundInput) (paymentKey : String)
    (correlation : EventIdempotencyEvidence) (currency : String) :
    RequestRepository.RefundCorrelationCandidateInput where
  installationId              := input.installationId
  stripeRefundId              := input.refund.refundId
  paymentKey                  := paymentKey
  paymentIntentId             := input.refund.paymentIntentId
  chargeId                    := input.refund.chargeId
  amountMinor                 := input.refund.amountMinor
  currency                    := currency
  stripeRefundStatus          := input.authoritativeObservedRefundStatus
  stripeCreatedAt             := stripeSecond input.refund.created
  stripeEventId               := input.stripeEventId
  stripeEventCreatedAt        := input.stripeEventCreatedAt
  eventIdempotencyCorrelation := correlation
  scanWindowEnd               := input.scanWindowEnd
  observedAt                  := input.observedAt

-- The observation of a refund that the workflow does not own.
def external (input : ObserveRefundInput) (paymentKey currency : String)
    (classification : AlertClassification) : TenantRepository.ExternalRefundObservationInput where
  installationId        := input.installationId
  stripeRefundId        := input.refund.refundId
  stripeRefundCreatedAt := stripeSecond input.refund.created
  paymentKey            := paymentKey
  amountMinor           := input.refund.amountMinor
  currency              := currency
  classification        := classification
  observedAt            := input.observedAt

end ObserveRefundInput

namespace WorkerStore

open RequestRepository TenantRepository ObserveRefundInput

variable (keys : WorkerKeys) (now : Timestamp)

def persistCandidate (input : ObserveRefundInput) (paymentKey : String)
    (correlation : EventIdempotencyEvidence) (requestId : String) :
    StoreTransaction RefundCorrelationCandidateResult := do
  let currency ← fromDomain (normalizeCurrency input.refund.currency)
  onExistingRequest now requestId (.error "REFUND_CANDIDATE_REQUEST_NOT_FOUND") fun _ =>
    recordRefundCorrelationCandidate (input.candidate paymentKey correlation currency)

-- Links the request to the refund of a webhook that carries its idempotency key.
def linkExactCandidate (input : ObserveRefundInput) (requestId : String) :
    StoreTransaction Unit := do
  let candidates ← onExistingRequest now requestId
      (.error "OBSERVED_REFUND_COMPARE_AND_SET_FAILED") fun env => do
    let identified ← markRefundIdentified env input.identified
    require (identified = true) (.error "OBSERVED_REFUND_COMPARE_AND_SET_FAILED")
    let _ ← markRefundCorrelationCandidateLinked input.refund.refundId .exactLinked
      input.observedAt
    pure (listRefundCorrelationCandidates (← get))
  alertConflictingCandidates now input.installationId input.refund.refundId input.observedAt
    candidates

-- A valid refund of a request that executes or waits for reconciliation and has no link yet. The
-- classification that is left decides about an alert.
def correlateUnlinkedCandidate (input : ObserveRefundInput) (evidence : Evidence)
    (candidateCount : Nat) (requestId : String) :
    StoreTransaction RefundEvidenceClassification := do
  let candidateDecision := decideRefundCandidate {
    linkedRefundId           := none
    candidateRefundId        := input.refund.refundId
    eventIdempotencyEvidence := evidence.eventIdempotencyCorrelation
    candidateCount           := max 1 candidateCount
    completeScan             := false
    scanCoversExecution      := false
  }
  if candidateDecision = .linkExact then
    linkExactCandidate now input requestId
    pure .workflowRefund
  else
    let _ ← onRequest now requestId markReconciliationRequired
    if candidateDecision = .conflict ∧ evidence.eventIdempotencyCorrelation = .mismatch then
      pure .tampered
    else if candidateDecision = .conflict then
      pure .proofReplay
    else
      pure evidence.classification

-- Another observation of the refund that the request is linked to.
def refreshLinkedRefund (input : ObserveRefundInput) (evidence : Evidence)
    (candidateState : Option CorrelationCandidateState) (requestId : String) :
    StoreTransaction Unit := do
  match candidateState with
  | none                => throw (.error "OBSERVED_REFUND_CANDIDATE_MISSING")
  | some candidateState =>
    let linkedState : LinkedState :=
      if candidateState = .uniqueLinked ∧ evidence.eventIdempotencyCorrelation ≠ .exact then
        .uniqueLinked
      else
        .exactLinked
    onExistingRequest now requestId (.error "OBSERVED_REFUND_COMPARE_AND_SET_FAILED") fun env => do
      let linked ← markRefundCorrelationCandidateLinked input.refund.refundId linkedState
        input.observedAt
      require (linked = true) (.error "OBSERVED_REFUND_CANDIDATE_COMPARE_AND_SET_FAILED")
      if evidence.alreadyHandled = false then
        let identified ← markRefundIdentified env input.identified
        require (identified = true) (.error "OBSERVED_REFUND_COMPARE_AND_SET_FAILED")

-- A valid refund can still be linked to the request.
def isUnlinkedCandidate (evidence : Evidence) (detail : RefundRequestDetail) : Bool :=
  evidence.classification = .workflowCandidate ∧
    (detail.execution.any fun execution => execution.stripeRefundId = none) ∧
    detail.request.workflowStatus ∈ [.executing, .reconciliationRequired]

-- The part of `observeRefund` that writes the request of the observation.
def correlateRequest (input : ObserveRefundInput) (paymentKey : String) (evidence : Evidence)
    (request : Option (String × RefundRequestDetail)) :
    StoreTransaction RefundEvidenceClassification := do
  match request with
  | none                     => pure evidence.classification
  | some (requestId, detail) =>
    let candidate ←
      if evidence.canPersistCandidate then
        some <$> persistCandidate now input paymentKey evidence.eventIdempotencyCorrelation requestId
      else
        pure none
    if isUnlinkedCandidate evidence detail ∧ evidence.alreadyHandled = false then
      correlateUnlinkedCandidate now input evidence ((candidate.map (·.candidateCount)).getD 0)
        requestId
    else
      if evidence.alreadyLinked then
        refreshLinkedRefund now input evidence (candidate.map (·.state)) requestId
      pure evidence.classification

def alertClassification : RefundEvidenceClassification → Option AlertClassification
  | .external                             => some .external
  | .tampered                             => some .tampered
  | .proofReplay                          => some .proofReplay
  | .workflowCandidate | .workflowRefund  => none

def alertObservation (input : ObserveRefundInput) (paymentKey : String) (alreadyHandled : Bool)
    (classification : RefundEvidenceClassification) : StoreTransaction Unit := do
  match alertClassification classification with
  | none                => pure ()
  | some classification =>
    if alreadyHandled = false then
      let currency ← fromDomain (normalizeCurrency input.refund.currency)
      let _ ← observeExternalRefund now (input.external paymentKey currency classification)

-- The installation of an observation, which must be active.
def requireObservedInstallation (s : Store) (input : ObserveRefundInput) :
    Except StoreError StripeInstallation :=
  match s.installations.find? input.installationId with
  | none => .error (.error "REFUND_OBSERVATION_INSTALLATION_MISMATCH")
  | some installation =>
    if installation.environment ≠ input.environment ∨ installation.status ≠ .active ∨
        s.tenant.status ≠ .active ∨ s.tenant.liveEnabled then
      .error (.error "REFUND_OBSERVATION_INSTALLATION_MISMATCH")
    else
      .ok installation

-- The request that the metadata of the refund names. The database compares identifiers by value,
-- so in any case of their letters.
def namedRequest (s : Store) (input : ObserveRefundInput) : Option (String × RefundRequestDetail) :=
  match input.refund.metadataRequestId with
  | none           => none
  | some requestId =>
    if isDatabaseUuid requestId then
      (s.requests.find? (lowerCase requestId)).map fun detail => (lowerCase requestId, detail)
    else
      none

-- The part of `observeRefund` after the check of the receipt.
def observeRefundEvidence (input : ObserveRefundInput) : StoreTransaction Unit := do
  let s ← get
  let installation ← fromExcept (requireObservedInstallation s input)
  let paymentKey ← fromExcept (paymentKeyOf input.refund)
  let request := namedRequest s input
  let evidence ← fromExcept
    (input.evidence keys s.tenantId installation.stripeAccountId paymentKey request)
  let classification ← correlateRequest now input paymentKey evidence request
  alertObservation now input paymentKey evidence.alreadyHandled classification

-- The receipt of a webhook must be the one of the job; whether it is still to be processed.
def checkReceipt (s : Store) (input : ObserveRefundInput) (receiptId stripeEventId : String)
    (stripeAccountId : String) (eventIdempotencyKey : Option String)
    (eventType : AccountWebhookEventType) (eventCreated : Int) : Except StoreError Bool := do
  match s.receipts.find? receiptId with
  | none         => .error (.error "WEBHOOK_RECEIPT_NOT_FOUND")
  | some receipt =>
    if receipt.status = .processed then
      pure false
    else
      let storedPayload ← assertNormalizedAccountWebhookRowConsistency receipt.endpoint
        receipt.eventType receipt.objectId receipt.stripeCreatedAt receipt.normalizedPayload
      let expectedPayload : NormalizedAccountWebhookPayload := {
        environment := input.environment
        subject     := .refund input.refund
        eventType, eventCreated, eventIdempotencyKey
      }
      if receipt.installationId ≠ input.installationId ∨
          environmentForStoredWebhookEndpoint receipt.endpoint ≠ input.environment ∨
          receipt.stripeEventId ≠ stripeEventId ∨ receipt.stripeAccountId ≠ stripeAccountId ∨
          storedPayload ≠ expectedPayload then
        .error (.error "WEBHOOK_RECEIPT_JOB_MISMATCH")
      else
        pure true

def observeRefund (input : ObserveRefundInput) : StoreTransaction Unit := do
  require (input.environment ≠ .live) (.error "REFUND_OBSERVATION_INSTALLATION_MISMATCH")
  match input.source with
  | .scan _ => observeRefundEvidence keys now input
  | .webhook receiptId stripeEventId stripeAccountId eventIdempotencyKey eventType eventCreated =>
    let pending ← fromExcept (checkReceipt (← get) input receiptId stripeEventId stripeAccountId
      eventIdempotencyKey eventType eventCreated)
    if pending then
      observeRefundEvidence keys now input
      let marked ← markWebhookReceiptProcessed receiptId input.observedAt
      require (marked = true) (.error "WEBHOOK_RECEIPT_PROCESS_COMPARE_AND_SET_FAILED")

structure ObserveLinkedRefundInput where
  installationId   : String
  environment      : StripeEnvironment
  requestId        : String
  expectedRefundId : String
  refund           : RefundObservation
  scanWindowEnd    : Timestamp
  observedAt       : Timestamp

-- The refund was made for the payment of the request and its execution.
def linkedTupleMatches (item : ExecutionWorkItem) (execution : RefundExecution)
    (refund : RefundObservation) (paymentKey : String) : Except DomainError Bool :=
  if item.request.paymentKey = paymentKey ∧ item.request.amountMinor = refund.amountMinor ∧
      execution.amountMinor = item.request.amountMinor then do
    let requestAgrees ← currenciesAgree item.request.currency refund.currency
    let executionAgrees ← currenciesAgree execution.currency item.request.currency
    pure <| requestAgrees && executionAgrees &&
      decide ((item.request.paymentIntentId = none ∨
          item.request.paymentIntentId = refund.paymentIntentId) ∧
        (item.request.chargeId = none ∨ item.request.chargeId = refund.chargeId))
  else
    .ok false

def linkedResolution (status : Option StripeRefundStatus) : ReconciliationResolution :=
  if status = some .succeeded ∨ status = some .failed ∨ status = some .canceled then .resolve
  else .preserve

def observeLinkedRefund (input : ObserveLinkedRefundInput) : StoreTransaction Unit := do
  require (input.scanWindowEnd ≤ input.observedAt ∧ isRefundId input.expectedRefundId ∧
      input.refund.refundId = input.expectedRefundId)
    (.error "LINKED_REFUND_RECONCILIATION_INPUT_MISMATCH")
  let authorizationLocked ← lockExecutionAuthorization input.requestId input.installationId
  require (authorizationLocked = true) (.error "LINKED_REFUND_RECONCILIATION_REQUEST_NOT_FOUND")
  match ← getExecutionWorkItem input.requestId with
  | none      => throw (.error "LINKED_REFUND_RECONCILIATION_REQUEST_MISMATCH")
  | some item =>
    match item.execution with
    | none           => throw (.error "LINKED_REFUND_RECONCILIATION_REQUEST_MISMATCH")
    | some execution =>
      require (hasActivePilotExecutionContext item ∧
          item.request.installationId = input.installationId ∧
          item.request.environment = input.environment ∧
          execution.stripeRefundId = some input.expectedRefundId)
        (.error "LINKED_REFUND_RECONCILIATION_REQUEST_MISMATCH")
      let paymentKey ← fromExcept (paymentKeyOf input.refund)
      let tupleMatches ← fromDomain (linkedTupleMatches item execution input.refund paymentKey)
      require (tupleMatches = true) (.error "LINKED_REFUND_RECONCILIATION_TUPLE_MISMATCH")
      let identified ← onRequest now input.requestId fun env => markRefundIdentified env {
        stripeRefundId           := input.expectedRefundId
        stripeRefundStatus       := input.refund.status
        reconciliationResolution := linkedResolution input.refund.status
        stripeRequestId          := none
        stripeEventId            := none
        stripeEventCreatedAt     := none
        observedAt               := input.observedAt
      }
      require (identified = some true)
        (.error "LINKED_REFUND_RECONCILIATION_COMPARE_AND_SET_FAILED")

structure CommitCheckpointInput where
  installationId    : String
  previousWindowEnd : Option Timestamp
  window            : ScanWindow
  completedAt       : Timestamp

def commitReconciliationCheckpoint (input : CommitCheckpointInput) : StoreTransaction Unit := do
  let current := (← get).checkpoints.find? input.installationId
  require (current.map (·.committedThrough) = input.previousWindowEnd)
    (.error "RECONCILIATION_CHECKPOINT_COMPARE_AND_SET_FAILED")
  beginReconciliationWindow {
    installationId          := input.installationId
    initialCommittedThrough := input.previousWindowEnd.getD input.window.start
    scanWindowEnd           := input.window.stop
  }
  completeReconciliationWindow input.installationId input.window.stop none
  let _ ← resolveUniqueRefundCandidates now input.installationId input.window input.completedAt

-- A lifecycle event of the account: the deauthorization is applied here, the authorization when
-- the event was received.
structure InstallationLifecycleInput where
  installationId      : String
  environment         : StripeEnvironment
  receiptId           : String
  stripeEventId       : String
  stripeAccountId     : String
  eventType           : AccountWebhookEventType
  eventCreated        : Int
  eventIdempotencyKey : Option String
  applicationId       : String
  processedAt         : Timestamp
  purgeDelay          : Timestamp

def lifecycleReceiptPending (s : Store) (input : InstallationLifecycleInput) :
    Except StoreError Bool := do
  match s.receipts.find? input.receiptId with
  | none         => .error (.error "WEBHOOK_RECEIPT_NOT_FOUND")
  | some receipt =>
    if receipt.status = .processed then
      pure false
    else
      let storedPayload ← assertNormalizedAccountWebhookRowConsistency receipt.endpoint
        receipt.eventType receipt.objectId receipt.stripeCreatedAt receipt.normalizedPayload
      let expectedPayload : NormalizedAccountWebhookPayload := {
        environment         := input.environment
        eventType           := input.eventType
        eventCreated        := input.eventCreated
        eventIdempotencyKey := input.eventIdempotencyKey
        subject             := .application input.applicationId
      }
      if receipt.installationId ≠ input.installationId ∨
          environmentForStoredWebhookEndpoint receipt.endpoint ≠ input.environment ∨
          receipt.stripeEventId ≠ input.stripeEventId ∨
          receipt.stripeAccountId ≠ input.stripeAccountId ∨ storedPayload ≠ expectedPayload then
        .error (.error "WEBHOOK_RECEIPT_JOB_MISMATCH")
      else
        pure true

def processInstallationLifecycle (input : InstallationLifecycleInput) :
    StoreTransaction Unit := do
  let s ← get
  let pending ← fromExcept (lifecycleReceiptPending s input)
  if pending then
    require ((s.installations.find? input.installationId).any fun installation =>
        installation.stripeAccountId = input.stripeAccountId ∧
          installation.environment = input.environment ∧ s.tenant.liveEnabled = false)
      (.error "WEBHOOK_LIFECYCLE_INSTALLATION_MISMATCH")
    if input.eventType = .accountApplicationDeauthorized then
      let _ ← applyWebhookDeauthorization now {
        installationId       := input.installationId
        stripeEventId        := input.stripeEventId
        stripeEventCreatedAt := stripeSecond input.eventCreated
        purgeAt              := stripeSecond input.eventCreated + input.purgeDelay
      }
    let marked ← markWebhookReceiptProcessed input.receiptId input.processedAt
    require (marked = true) (.error "WEBHOOK_RECEIPT_PROCESS_COMPARE_AND_SET_FAILED")

end WorkerStore
end RefundDesk
