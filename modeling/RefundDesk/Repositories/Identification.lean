import RefundDesk.Repositories.Requests
import Mathlib.Data.List.Sort

namespace RefundDesk

open Transaction

namespace RequestRepository

inductive ReconciliationResolution
  | preserve
  | resolve
  deriving DecidableEq, Repr

structure IdentifiedRefundInput where
  stripeRefundId           : String
  stripeRefundStatus       : Option StripeRefundStatus
  reconciliationResolution : ReconciliationResolution
  stripeRequestId          : Option String
  stripeEventId            : Option String
  stripeEventCreatedAt     : Option Timestamp
  observedAt               : Timestamp

-- The event of the observation was created before the one that the row has recorded.
def isOlderEvent (current incoming : Option Timestamp) : Bool :=
  match current, incoming with
  | some current, some incoming => incoming < current
  | _, _                        => false

def isEqualEvent (current incoming : Option Timestamp) : Bool :=
  match current, incoming with
  | some current, some incoming => incoming = current
  | _, _                        => false

def shouldApplyRefundObservation (locked : RefundExecution) (input : IdentifiedRefundInput) :
    Bool :=
  let currentStatus  := locked.stripeRefundStatus
  let incomingStatus := input.stripeRefundStatus
  if isOlderEvent locked.lastStripeEventCreatedAt input.stripeEventCreatedAt then
    false
  else if currentStatus = some .failed then
    incomingStatus = some .failed
  else if currentStatus = some .canceled then
    incomingStatus = some .canceled ∨ incomingStatus = some .failed
  else if currentStatus = some .succeeded ∧ incomingStatus ≠ some .succeeded then
    incomingStatus = some .failed ∨ incomingStatus = some .canceled
  else if currentStatus ≠ none ∧ incomingStatus = none then
    false
  else if isEqualEvent locked.lastStripeEventCreatedAt input.stripeEventCreatedAt ∧
      incomingStatus ≠ currentStatus then
    if incomingStatus = some .failed then true
    else if currentStatus = none ∧ incomingStatus ≠ none then true
    else incomingStatus = some .succeeded ∨ incomingStatus = some .canceled
  else
    true

-- The columns of the execution that an observation writes.
def recordObservation (input : IdentifiedRefundInput) (row : RefundExecution) : RefundExecution :=
  { row with
    stripeRefundId           := some input.stripeRefundId
    stripeRefundStatus       := input.stripeRefundStatus
    lastStripeRequestId      := input.stripeRequestId.or row.lastStripeRequestId
    lastStripeEventId        := input.stripeEventId.or row.lastStripeEventId
    lastStripeEventCreatedAt := input.stripeEventCreatedAt.or row.lastStripeEventCreatedAt
    reconciledAt             := some input.observedAt
  }

variable (env : TriggerEnv)

-- The compare-and-set on the locked execution: its conditions are the columns just read.
def updateExecution (locked : RefundExecution) (input : IdentifiedRefundInput) :
    RequestTransaction Unit := do
  let execution ← fromExcept (locked.update env (recordObservation input locked))
  let detail ← get
  set { detail with execution := some execution }

-- A request that needs reconciliation keeps its guard whatever Stripe reports.
def preserveReconciliation (locked : RefundRequest) : RequestTransaction Bool := do
  let possible ←
    if locked.effectState = .notStarted ∨ locked.effectState = .absenceProven then
      updateRequest env
        (fun row => row.workflowStatus = .reconciliationRequired ∧
          row.effectState = locked.effectState ∧ row.paymentGuardReleasedAt = none)
        fun row => { row with
          effectState := .possible
          version     := row.version + 1
        }
    else
      pure true
  if possible = false then
    pure false
  else
    updateRequest env
      (fun row => row.workflowStatus = .reconciliationRequired ∧
        row.effectState ∈ [.possible, .identified] ∧ row.paymentGuardReleasedAt = none)
      fun row => { row with
        effectState := .identified
        version     := row.version + 1
      }

-- The columns of the request that follow the status of the refund.
def followStatus (status : Option StripeRefundStatus) (observedAt : Timestamp)
    (row : RefundRequest) : RefundRequest :=
  match status with
  | none => { row with
      effectState    := .identified
      workflowStatus := .reconciliationRequired
      version        := row.version + 1
    }
  | some .pending | some .requiresAction => { row with
      effectState := .identified
      version     := row.version + 1
    }
  | some .succeeded => { row with
      effectState            := .identified
      workflowStatus         := .succeeded
      terminalAt             := some observedAt
      paymentGuardReleasedAt := some observedAt
      version                := row.version + 1
    }
  | some .failed | some .canceled => { row with
      effectState            := .absenceProven
      workflowStatus         := .failedTerminal
      terminalAt             := some observedAt
      paymentGuardReleasedAt := some observedAt
      version                := row.version + 1
    }

def convergeRequest (status : Option StripeRefundStatus) (observedAt : Timestamp) :
    RequestTransaction Bool :=
  updateRequest env
    (fun row => row.workflowStatus ∈ [.executing, .reconciliationRequired] ∧
      row.effectState ∈ [.possible, .identified])
    (followStatus status observedAt)

-- A succeeded request whose linked refund failed or was canceled.
def correctSucceededRequest : RequestTransaction Bool :=
  updateRequest env
    (fun row => row.workflowStatus = .succeeded ∧ row.effectState = .identified)
    fun row => { row with
      effectState    := .absenceProven
      workflowStatus := .failedTerminal
      version        := row.version + 1
    }

def markRefundIdentified (input : IdentifiedRefundInput) : RequestTransaction Bool := do
  let detail ← get
  match detail.execution with
  | none => pure false
  | some locked =>
    if locked.stripeRefundId ≠ none ∧ locked.stripeRefundId ≠ some input.stripeRefundId then
      pure false
    else if shouldApplyRefundObservation locked input = false then
      pure true
    else
      updateExecution env locked input
      if detail.request.workflowStatus = .succeeded ∧
          locked.stripeRefundStatus = some .succeeded ∧
          (input.stripeRefundStatus = some .failed ∨ input.stripeRefundStatus = some .canceled) then
        correctSucceededRequest env
      else if detail.request.workflowStatus ∉ [.executing, .reconciliationRequired] then
        pure true
      else if detail.request.workflowStatus = .reconciliationRequired ∧
          input.reconciliationResolution = .preserve then
        preserveReconciliation env detail.request
      else
        convergeRequest env input.stripeRefundStatus input.observedAt

structure RefundCorrelationCandidateInput where
  installationId              : String
  stripeRefundId              : String
  paymentKey                  : String
  paymentIntentId             : Option String
  chargeId                    : Option String
  amountMinor                 : Int
  currency                    : String
  stripeRefundStatus          : Option StripeRefundStatus
  stripeCreatedAt             : Timestamp
  stripeEventId               : Option String
  stripeEventCreatedAt        : Option Timestamp
  eventIdempotencyCorrelation : EventIdempotencyEvidence
  scanWindowEnd               : Option Timestamp
  observedAt                  : Timestamp

namespace RefundCorrelationCandidateInput

-- When Stripe had the state that the observation reports.
def stripeStateObservedAt (input : RefundCorrelationCandidateInput) : Timestamp :=
  (input.stripeEventCreatedAt.or input.scanWindowEnd).getD input.observedAt

-- The row that the upsert creates.
def created (input : RefundCorrelationCandidateInput) : RefundCorrelationCandidate where
  installationId              := input.installationId
  paymentKey                  := input.paymentKey
  paymentIntentId             := input.paymentIntentId
  chargeId                    := input.chargeId
  amountMinor                 := input.amountMinor
  currency                    := input.currency
  stripeRefundStatus          := input.stripeRefundStatus
  stripeCreatedAt             := input.stripeCreatedAt
  stripeStateObservedAt       := input.stripeStateObservedAt
  stripeEventId               := input.stripeEventId
  stripeEventCreatedAt        := input.stripeEventCreatedAt
  eventIdempotencyCorrelation := input.eventIdempotencyCorrelation
  lastSeenScanWindowEnd       := input.scanWindowEnd
  state                       := .pending
  firstObservedAt             := input.observedAt
  lastObservedAt              := input.observedAt
  resolvedAt                  := none

-- The candidate was recorded for the same refund of the same payment.
def tupleAgrees (input : RefundCorrelationCandidateInput) (row : RefundCorrelationCandidate) :
    Prop :=
  row.installationId = input.installationId ∧ row.paymentKey = input.paymentKey ∧
  row.paymentIntentId = input.paymentIntentId ∧ row.chargeId = input.chargeId ∧
  row.amountMinor = input.amountMinor ∧ row.currency = input.currency ∧
  row.stripeCreatedAt = input.stripeCreatedAt

instance (input : RefundCorrelationCandidateInput) (row) : Decidable (input.tupleAgrees row) :=
  inferInstanceAs (Decidable (_ ∧ _))

def mergedCorrelation (input : RefundCorrelationCandidateInput)
    (row : RefundCorrelationCandidate) : EventIdempotencyEvidence :=
  if row.eventIdempotencyCorrelation = .exact ∨ input.eventIdempotencyCorrelation = .exact then
    .exact
  else if row.eventIdempotencyCorrelation = .mismatch ∨
      input.eventIdempotencyCorrelation = .mismatch then
    .mismatch
  else
    .absent

def mergedScanWindowEnd (input : RefundCorrelationCandidateInput)
    (row : RefundCorrelationCandidate) : Option Timestamp :=
  match input.scanWindowEnd, row.lastSeenScanWindowEnd with
  | none, lastSeen                         => lastSeen
  | some scanWindowEnd, none               => some scanWindowEnd
  | some scanWindowEnd, some lastSeen      =>
    if lastSeen < scanWindowEnd then some scanWindowEnd else some lastSeen

def hasNewerStripeState (input : RefundCorrelationCandidateInput)
    (row : RefundCorrelationCandidate) : Bool :=
  row.stripeStateObservedAt ≤ input.stripeStateObservedAt

def replacesEvent (input : RefundCorrelationCandidateInput) (row : RefundCorrelationCandidate) :
    Bool :=
  let preserveExactEvent : Bool :=
    row.eventIdempotencyCorrelation = .exact ∧ input.eventIdempotencyCorrelation ≠ .exact
  let isNewerEvent : Bool :=
    match input.stripeEventCreatedAt, row.stripeEventCreatedAt with
    | some incoming, some current => current ≤ incoming
    | _, _                        => false
  input.stripeEventId ≠ none ∧ ¬preserveExactEvent ∧
    (input.eventIdempotencyCorrelation = .exact ∨ row.stripeEventCreatedAt = none ∨ isNewerEvent)

def merged (input : RefundCorrelationCandidateInput) (row : RefundCorrelationCandidate) :
    RefundCorrelationCandidate :=
  { row with
    stripeRefundStatus :=
      if input.hasNewerStripeState row then input.stripeRefundStatus else row.stripeRefundStatus
    stripeStateObservedAt :=
      if input.hasNewerStripeState row then input.stripeStateObservedAt
      else row.stripeStateObservedAt
    stripeEventId :=
      if input.replacesEvent row then input.stripeEventId else row.stripeEventId
    stripeEventCreatedAt :=
      if input.replacesEvent row then input.stripeEventCreatedAt else row.stripeEventCreatedAt
    eventIdempotencyCorrelation := input.mergedCorrelation row
    lastSeenScanWindowEnd       := input.mergedScanWindowEnd row
    lastObservedAt              := max input.observedAt row.lastObservedAt
  }

end RefundCorrelationCandidateInput

structure RefundCorrelationCandidateResult where
  candidateCount : Nat
  state          : CorrelationCandidateState

-- A candidate that is still pending when a conflict is found.
def conflicted (row : RefundCorrelationCandidate) : RefundCorrelationCandidate :=
  if row.state = .pending then { row with state := .conflict, resolvedAt := none } else row

def conflictPendingCandidates : RequestTransaction Unit :=
  modify fun detail => { detail with candidates := detail.candidates.map conflicted }

-- The UPDATE of the candidate that the upsert returned.
def updateCandidate (input : RefundCorrelationCandidateInput)
    (candidate : RefundCorrelationCandidate) :
    RequestTransaction RefundCorrelationCandidateResult := do
  require (input.tupleAgrees candidate) (.error "REFUND_CANDIDATE_TUPLE_CONFLICT")
  let detail ← get
  let updated ← fromExcept ((input.merged candidate).check input.stripeRefundId)
  let candidates := detail.candidates.insert input.stripeRefundId updated
  set { detail with candidates := candidates }
  let candidateCount := candidates.entries.length
  if candidateCount > 1 then
    conflictPendingCandidates
    pure {
      candidateCount
      state := if updated.state = .pending then .conflict else updated.state
    }
  else
    pure { candidateCount, state := updated.state }

def recordRefundCorrelationCandidate (input : RefundCorrelationCandidateInput) :
    RequestTransaction RefundCorrelationCandidateResult := do
  let detail ← get
  match detail.candidates.find? input.stripeRefundId with
  | some candidate => updateCandidate input candidate
  | none           =>
    let candidate ← fromExcept (input.created.check input.stripeRefundId)
    updateCandidate input candidate

inductive LinkedState
  | exactLinked
  | uniqueLinked
  deriving DecidableEq, Repr

def LinkedState.toCandidateState : LinkedState → CorrelationCandidateState
  | exactLinked  => .exactLinked
  | uniqueLinked => .uniqueLinked

def LinkedState.sourceStates : LinkedState → List CorrelationCandidateState
  | exactLinked  => [.pending, .conflict, .uniqueLinked, .exactLinked]
  | uniqueLinked => [.pending, .conflict, .uniqueLinked]

def markRefundCorrelationCandidateLinked (stripeRefundId : String) (state : LinkedState)
    (resolvedAt : Timestamp) : RequestTransaction Bool := do
  let detail ← get
  match detail.candidates.find? stripeRefundId with
  | none           => pure false
  | some candidate =>
    if candidate.state ∈ state.sourceStates then
      let linked := { candidate with
        state      := state.toCandidateState
        resolvedAt := some resolvedAt
      }
      set { detail with candidates := detail.candidates.insert stripeRefundId linked }
      pure true
    else
      pure false

def listRefundCorrelationCandidates (detail : RefundRequestDetail) :
    List (String × RefundCorrelationCandidate) :=
  detail.candidates.entries.insertionSort fun left right =>
    left.2.stripeCreatedAt < right.2.stripeCreatedAt ∨
      left.2.stripeCreatedAt = right.2.stripeCreatedAt ∧ left.1 ≤ right.1

end RequestRepository
end RefundDesk
