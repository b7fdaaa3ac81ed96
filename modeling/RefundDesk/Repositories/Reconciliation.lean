import RefundDesk.Repositories.Tenant

namespace RefundDesk

open Transaction

namespace TenantRepository

open RequestRepository

variable (now : Timestamp)

structure ExecutionApprovalEvidence where
  decision            : ApprovalDecision
  approver            : TenantUser
  approvalAttestation : Option (String × ApprovalAttestation)

structure ExecutionWorkItem where
  id               : String
  tenantId         : String
  request          : RefundRequest
  tenant           : Tenant
  installation     : StripeInstallation
  execution        : Option RefundExecution
  requester        : TenantUser
  approvalDecision : Option ExecutionApprovalEvidence

-- The first approve decision of a request, with the approver and the attestation it references.
def getApprovalEvidence (s : Store) (requestId : String) (detail : RefundRequestDetail) :
    Except StoreError (Option ExecutionApprovalEvidence) :=
  let approvals := detail.decisions.filter fun decision => decision.decision = .approve
  match (approvals.insertionSort fun left right => left.decidedAt ≤ right.decidedAt).head? with
  | none          => .ok none
  | some decision =>
    match s.users.find? decision.approverUserId with
    | none          => .error (.error "EXECUTION_WORK_ITEM_APPROVER_NOT_FOUND")
    | some approver =>
      let approvalAttestation := decision.approvalAttestationId.bind fun attestationId =>
        ((s.attestations.find? attestationId).filter fun attestation =>
          attestation.approverUserId = decision.approverUserId ∧
            attestation.requestId = requestId).map fun attestation => (attestationId, attestation)
      .ok (some { decision, approver, approvalAttestation })

def getExecutionWorkItem (requestId : String) : StoreTransaction (Option ExecutionWorkItem) := do
  let s ← get
  match s.requests.find? requestId with
  | none        => pure none
  | some detail =>
    match s.installations.find? detail.request.installationId,
        s.users.find? detail.request.requesterUserId with
    | none, _      => throw (.error "EXECUTION_WORK_ITEM_INSTALLATION_NOT_FOUND")
    | some _, none => throw (.error "EXECUTION_WORK_ITEM_REQUESTER_NOT_FOUND")
    | some installation, some requester =>
      let approvalDecision ← fromExcept (getApprovalEvidence s requestId detail)
      pure (some {
        id        := requestId
        tenantId  := s.tenantId
        request   := detail.request
        tenant    := s.tenant
        execution := detail.execution
        installation, requester, approvalDecision
      })

def lockExecutionAuthorization (requestId installationId : String) : StoreTransaction Bool := do
  let s ← get
  return (s.installations.find? installationId).isSome &&
    (s.requests.find? requestId).any fun detail => detail.request.installationId = installationId

def claimExecutionWorkItem (requestId : String) (time : Timestamp) :
    StoreTransaction (Option ExecutionWorkItem) := do
  let s ← get
  let claimed ← onRequest now requestId fun env => do
    let installation := s.installations.find? (← get).request.installationId
    claimExecution env s.tenant installation time
  if claimed = some true then getExecutionWorkItem requestId else pure none

-- The requests that the recovery sweep looks at.
def isRecoverable (s : Store) (row : RefundRequest) : Bool :=
  row.environment.isPilot ∧ row.paymentGuardReleasedAt = none ∧
  s.tenant.status = .active ∧ s.tenant.liveEnabled = false ∧
  ((s.installations.find? row.installationId).any fun installation =>
    installation.status = .active ∧ installation.environment.isPilot) ∧
  (row.workflowStatus = .approved ∧ row.effectState = .notStarted ∨
    row.workflowStatus = .executing ∧
      row.effectState ∈ [.notStarted, .possible, .absenceProven])

def recoveryCandidates (s : Store) (limit : Nat) : List (String × RefundRequestDetail) :=
  ((s.requests.entries.filter fun e => isRecoverable s e.2.request).insertionSort
    fun left right => left.2.request.createdAt ≤ right.2.request.createdAt).take limit

-- A persisted effect boundary may already have reached Stripe, so it is reconciled before it can
-- be retried. The other requests are returned.
def prepareExecutionRecoveryWork (limit : Nat) : StoreTransaction (List ExecutionWorkItem) := do
  require (1 ≤ limit ∧ limit ≤ 1000)
    (.rangeError "Execution recovery limit must be between 1 and 1000")
  let candidates := recoveryCandidates (← get) limit
  let isAmbiguous (candidate : String × RefundRequestDetail) : Bool :=
    candidate.2.request.workflowStatus = .executing ∧ candidate.2.request.effectState = .possible
  (candidates.filter isAmbiguous).forM fun candidate => do
    let _ ← onRequest now candidate.1 markReconciliationRequired
  let work ← (candidates.filter fun candidate => ¬isAmbiguous candidate).mapM fun candidate => do
    match ← getExecutionWorkItem candidate.1 with
    | none      => throw (.error "EXECUTION_RECOVERY_WORK_ITEM_DISAPPEARED")
    | some item => pure item
  pure work

structure LinkedRefundReconciliationTarget where
  requestId : String
  refundId  : String
  deriving DecidableEq, Repr

-- The linked refund of a request whose status can still change.
def reconciliationTarget (installationId : String) (afterRequestId : Option String)
    (e : String × RefundRequestDetail) : Option LinkedRefundReconciliationTarget :=
  let row := e.2.request
  if row.installationId = installationId ∧ row.environment.isPilot ∧
      row.workflowStatus ∈ [.executing, .reconciliationRequired, .succeeded] ∧
      ∀ after ∈ afterRequestId, after < e.1 then
    match e.2.execution with
    | none           => none
    | some execution =>
      match execution.stripeRefundId with
      | none          => none
      | some refundId =>
        if execution.stripeRefundStatus ∈
            [none, some .pending, some .requiresAction, some .succeeded] then
          some { requestId := e.1, refundId }
        else
          none
  else
    none

def listLinkedRefundReconciliationTargets (s : Store) (installationId : String)
    (afterRequestId : Option String) (limit : Nat) : List LinkedRefundReconciliationTarget :=
  (s.requests.entries.filterMap (reconciliationTarget installationId afterRequestId)).take limit

structure BeginCheckpointInput where
  installationId          : String
  initialCommittedThrough : Timestamp
  scanWindowEnd           : Timestamp

def beginReconciliationWindow (input : BeginCheckpointInput) : StoreTransaction Unit := do
  let s ← get
  let committedThrough :=
    match s.checkpoints.find? input.installationId with
    | none            => input.initialCommittedThrough
    | some checkpoint => checkpoint.committedThrough
  let row ← fromExcept (ReconciliationCheckpoint.check {
    committedThrough
    scanWindowEnd  := some input.scanWindowEnd
    startingAfter  := none
    pageInProgress := true
  })
  set { s with checkpoints := s.checkpoints.insert input.installationId row }

def completeReconciliationWindow (installationId : String) (expectedScanWindowEnd : Timestamp)
    (expectedLastCursor : Option String) : StoreTransaction Unit := do
  let s ← get
  match s.checkpoints.find? installationId with
  | none => throw (.error "Reconciliation checkpoint completion compare-and-set failed")
  | some checkpoint =>
    require (checkpoint.scanWindowEnd = some expectedScanWindowEnd ∧
        checkpoint.startingAfter = expectedLastCursor ∧ checkpoint.pageInProgress)
      (.error "Reconciliation checkpoint completion compare-and-set failed")
    set { s with
      checkpoints := s.checkpoints.insert installationId {
        committedThrough := expectedScanWindowEnd
        scanWindowEnd    := none
        startingAfter    := none
        pageInProgress   := false
      }
    }

-- A completed scan window.
structure ScanWindow where
  start : Timestamp
  stop  : Timestamp
  deriving DecidableEq, Repr

-- The scan began after the request needed reconciliation and looked back to its execution.
def scanCoversExecution (window : ScanWindow) (row : RefundRequest) : Bool :=
  match row.executionStartedAt, row.reconciliationSafeAfterAt with
  | some startedAt, some safeAfter =>
    window.start ≤ startedAt ∧ startedAt ≤ safeAfter ∧ safeAfter ≤ window.stop
  | _, _ => false

def seenInWindow (installationId : String) (window : ScanWindow) (detail : RefundRequestDetail) :
    Bool :=
  detail.candidates.entries.any fun e =>
    e.2.installationId = installationId ∧ e.2.lastSeenScanWindowEnd = some window.stop

def isCoveredAmbiguity (installationId : String) (window : ScanWindow) (row : RefundRequest) :
    Bool :=
  row.installationId = installationId ∧ row.workflowStatus = .reconciliationRequired ∧
    row.effectState = .possible ∧ row.paymentGuardReleasedAt = none ∧
    scanCoversExecution window row

-- The requests that a completed scan visits, in the order of their ids.
def visitedRequests (s : Store) (installationId : String) (window : ScanWindow) : List String :=
  (s.requests.entries.filter fun e =>
    seenInWindow installationId window e.2 ∨
      isCoveredAmbiguity installationId window e.2.request).map (·.1)

inductive CandidateResolution
  | skipped
  | resolved
  | conflict
  | waiting
  deriving DecidableEq, Repr

-- The scan saw no refund of the request.
def resolveWithoutCandidate (conflict : Bool) (resolvedAt : Timestamp) (env : TriggerEnv) :
    RequestTransaction CandidateResolution := do
  if conflict then
    let _ ← markReconciliationRequired env
    pure .conflict
  else
    let absenceProven ← markAbsenceProven env
    require (absenceProven = true) (.error "REFUND_ABSENCE_COMPARE_AND_SET_FAILED")
    let resumed ← resumeExecutionAfterAbsence env resolvedAt
    require (resumed = true) (.error "REFUND_ABSENCE_RESUME_COMPARE_AND_SET_FAILED")
    pure .resolved

-- The scan saw only this refund of the request.
def linkUniqueCandidate (conflict : Bool) (resolvedAt : Timestamp) (refundId : String)
    (candidate : RefundCorrelationCandidate) (env : TriggerEnv) :
    RequestTransaction CandidateResolution := do
  let identified ← markRefundIdentified env {
    stripeRefundId           := refundId
    stripeRefundStatus       := candidate.stripeRefundStatus
    reconciliationResolution := if conflict then .preserve else .resolve
    stripeRequestId          := none
    stripeEventId            := candidate.stripeEventId
    stripeEventCreatedAt     := candidate.stripeEventId.map fun _ =>
      candidate.stripeEventCreatedAt.getD candidate.stripeCreatedAt
    observedAt               := resolvedAt
  }
  require (identified = true) (.error "UNIQUE_REFUND_CANDIDATE_COMPARE_AND_SET_FAILED")
  let _ ← markRefundCorrelationCandidateLinked refundId .uniqueLinked resolvedAt
  pure (if conflict then .conflict else .resolved)

-- The body of the loop of `resolveUniqueRefundCandidates`. `conflict` tells whether the payment of
-- the request has an unresolved external refund.
def resolveRequest (window : ScanWindow) (conflict : Bool) (resolvedAt : Timestamp)
    (env : TriggerEnv) : RequestTransaction CandidateResolution := do
  let detail ← get
  match detail.execution with
  | none           => pure .skipped
  | some execution =>
    if execution.stripeRefundId ≠ none then
      pure .skipped
    else if scanCoversExecution window detail.request = false then
      pure .skipped
    else
      let candidates := listRefundCorrelationCandidates detail
      match candidates with
      | [] => resolveWithoutCandidate conflict resolvedAt env
      | (refundId, candidate) :: _ =>
        let decision := decideRefundCandidate {
          linkedRefundId           := none
          candidateRefundId        := refundId
          eventIdempotencyEvidence := candidate.eventIdempotencyCorrelation
          candidateCount           := max 1 candidates.length
          completeScan             := true
          scanCoversExecution      := true
        }
        if decision = .conflict then
          conflictPendingCandidates
          let _ ← markReconciliationRequired env
          pure .conflict
        else if decision ≠ .linkUnique ∨ candidate.lastSeenScanWindowEnd = none ∨
            candidate.state = .conflict then
          let _ ← markReconciliationRequired env
          pure .waiting
        else
          linkUniqueCandidate conflict resolvedAt refundId candidate env

-- One round of the loop, which reads the alerts of the payment of the request.
def resolveVisitedRequest (installationId : String) (window : ScanWindow) (resolvedAt : Timestamp)
    (requestId : String) : StoreTransaction (Option CandidateResolution) := do
  let s ← get
  onRequest now requestId fun env => do
    let row := (← get).request
    let conflict := s.hasUnresolvedAlert installationId row.environment row.paymentKey
    resolveRequest window conflict resolvedAt env

def resolveUniqueRefundCandidates (installationId : String) (window : ScanWindow)
    (resolvedAt : Timestamp) : StoreTransaction (Nat × Nat) := do
  let requestIds := visitedRequests (← get) installationId window
  let outcomes ← requestIds.mapM (resolveVisitedRequest now installationId window resolvedAt)
  pure (outcomes.count (some .resolved), outcomes.count (some .conflict))

end TenantRepository
end RefundDesk
