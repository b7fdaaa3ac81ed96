import RefundDesk.Worker.Execution

namespace RefundDesk

open Transaction TenantRepository

-- How a `Date` of the worker and a timestamp of the database convert into each other. A date that
-- is written is read back as it was.
structure DateConversion where
  read       : Timestamp → Timestamp
  write      : Timestamp → Timestamp
  galois     : ∀ t u, write t ≤ u ↔ t ≤ read u
  read_write : ∀ t, read (write t) = t

namespace DateConversion

def exact : DateConversion where
  read       := id
  write      := id
  galois _ _ := .rfl
  read_write _ := rfl

-- The database keeps microseconds, and a `Date` has milliseconds.
def truncating : DateConversion where
  read t  := t / 1000
  write t := t * 1000
  galois t u := by
    have h := Int.le_ediv_iff_mul_le (a := t) (b := u) (c := 1000) (by decide)
    exact h.symm
  read_write t := Int.mul_ediv_cancel t (by decide)

end DateConversion

section Dates

variable (dates : DateConversion)

def RefundRequest.read (row : RefundRequest) : RefundRequest := { row with
  paymentGuardReleasedAt    := row.paymentGuardReleasedAt.map dates.read
  createdAt                 := dates.read row.createdAt
  expiresAt                 := dates.read row.expiresAt
  approvedAt                := row.approvedAt.map dates.read
  executionStartedAt        := row.executionStartedAt.map dates.read
  reconciliationSafeAfterAt := row.reconciliationSafeAfterAt.map dates.read
  terminalAt                := row.terminalAt.map dates.read
}

def ApprovalDecision.read (decision : ApprovalDecision) : ApprovalDecision :=
  { decision with decidedAt := dates.read decision.decidedAt }

def ApprovalAttestation.read (row : ApprovalAttestation) : ApprovalAttestation := { row with
  verifiedAt    := dates.read row.verifiedAt
  consumeBefore := dates.read row.consumeBefore
}

def RefundExecutionAttempt.read (attempt : RefundExecutionAttempt) : RefundExecutionAttempt :=
  { attempt with
    startedAt  := dates.read attempt.startedAt
    finishedAt := attempt.finishedAt.map dates.read
  }

def RefundExecution.read (execution : RefundExecution) : RefundExecution := { execution with
  lastStripeEventCreatedAt := execution.lastStripeEventCreatedAt.map dates.read
  reconciledAt             := execution.reconciledAt.map dates.read
  attempts                 := execution.attempts.map (·.read dates)
}

def Tenant.read (tenant : Tenant) : Tenant :=
  { tenant with pendingDeleteAt := tenant.pendingDeleteAt.map dates.read }

def StripeInstallation.read (installation : StripeInstallation) : StripeInstallation :=
  { installation with
    installedAt                 := dates.read installation.installedAt
    deauthorizedAt              := installation.deauthorizedAt.map dates.read
    lastLifecycleEventCreatedAt := installation.lastLifecycleEventCreatedAt.map dates.read
  }

def TenantRepository.ExecutionApprovalEvidence.read (evidence : ExecutionApprovalEvidence) :
    ExecutionApprovalEvidence where
  decision            := evidence.decision.read dates
  approver            := evidence.approver
  approvalAttestation := evidence.approvalAttestation.map fun e => (e.1, e.2.read dates)

-- The work item that the worker gets for the rows of the database.
def TenantRepository.ExecutionWorkItem.read (item : ExecutionWorkItem) : ExecutionWorkItem where
  id               := item.id
  tenantId         := item.tenantId
  request          := item.request.read dates
  tenant           := item.tenant.read dates
  installation     := item.installation.read dates
  execution        := item.execution.map (·.read dates)
  requester        := item.requester
  approvalDecision := item.approvalDecision.map (·.read dates)

end Dates

inductive ApprovalAttestationStoreErrorCode
  | conflict
  | invalid
  | unavailable
  deriving DecidableEq, Repr

inductive ApprovalAttestationRejection
  | installationNotActive
  | requestNotFound
  | approverNotEligible
  | requestNotApprovable
  | resourceMismatch
  | requestNotPendingApproval
  | attestationWindowEmpty
  deriving DecidableEq, Repr

-- What the persistence of an attestation throws: an `ApprovalAttestationStoreError`, an error that
-- has the code `P2002`, or another one.
inductive AttestationFailure
  | refused (code : ApprovalAttestationStoreErrorCode)
      (reason : Option ApprovalAttestationRejection)
  | uniqueConstraint
  | unexpected
  deriving DecidableEq, Repr

namespace AttestationFailure

def invalid (reason : ApprovalAttestationRejection) : AttestationFailure :=
  .refused .invalid reason

def ofStore : StoreError → AttestationFailure
  | .database "23505" _ => .uniqueConstraint
  | _                   => .unexpected

end AttestationFailure

structure PersistApprovalAttestationInput where
  signedEnvelopeHash     : String
  requestNonce           : String
  stripeAccountId        : String
  environment            : StripeEnvironment
  resourceType           : ResourceType
  resourceId             : String
  requestId              : String
  expectedRequestVersion : Nat
  approverStripeUserId   : String
  requesterStripeUserId  : String
  amountMinor            : Int
  currency               : String
  reason                 : RefundReason
  verifiedAt             : Timestamp
  deriving DecidableEq, Repr

structure PersistedApprovalAttestation where
  id                 : String
  signedEnvelopeHash : String
  deriving DecidableEq, Repr

namespace WorkerStore

def approvalAttestationLifetimeMilliseconds : Int :=
  5 * 60 * 1000

section Payload

variable (policies : Nat → Option Nat) (s : Store) (installationId requestId : String)
variable (request : RefundRequest) (input : PersistApprovalAttestationInput)

-- The one refusal of the common guard, with the reason that the operator gets.
def approvalRefusal (requester : Option TenantUser) (approver : Option (String × TenantUser)) :
    AttestationFailure :=
  .invalid
    (if requester.isNone ∨ approver.all (fun e => e.2.approverEnabled = false) then
      .approverNotEligible
    else
      .requestNotApprovable)

def attestedPayload (requesterStripeUserId approverUserId approverStripeUserId currency : String)
    (chargeId : String) : ApprovalAttestationPayload := {
  amountMinor          := request.amountMinor
  canonicalRequestHash := input.signedEnvelopeHash
  consumeBefore        :=
    min (input.verifiedAt + approvalAttestationLifetimeMilliseconds) request.expiresAt
  environment          := input.environment
  expiresAt            := request.expiresAt
  paymentIntentId      := request.paymentIntentId
  paymentKey           := request.paymentKey
  policyVersion        := request.policyVersion
  reason               := request.reason
  requesterUserId      := request.requesterUserId
  requestNonce         := input.requestNonce
  requestVersion       := request.version
  requiredApprovals    := request.requiredApprovals
  resourceId           := (resourceOf request chargeId).2
  resourceType         := (resourceOf request chargeId).1
  stripeAccountId      := input.stripeAccountId
  tenantId             := s.tenantId
  verifiedAt           := input.verifiedAt
  approverStripeUserId, approverUserId, chargeId, currency, installationId, requestId
  requesterStripeUserId
}

-- The last checks, on the resource and the times of the payload.
def pendingPayload (payload : ApprovalAttestationPayload) :
    Except AttestationFailure ApprovalAttestationPayload :=
  if payload.resourceType ≠ input.resourceType ∨ payload.resourceId ≠ input.resourceId then
    .error (.invalid .resourceMismatch)
  else if request.workflowStatus ≠ .pendingApproval ∨ input.verifiedAt < request.createdAt ∨
      request.expiresAt ≤ input.verifiedAt then
    .error (.invalid .requestNotPendingApproval)
  else if payload.consumeBefore ≤ input.verifiedAt then
    .error (.invalid .attestationWindowEmpty)
  else
    .ok payload

-- The payload that is signed for a request with its row as the worker has read it. `policies` are
-- the approvals that the policies of the tenant require, by their versions.
def approvalPayload : Except AttestationFailure ApprovalAttestationPayload :=
  let requester := s.users.find? request.requesterUserId
  let approver := s.users.entries.find? fun e => e.2.stripeUserId = input.approverStripeUserId
  match s.installations.find? installationId, requester, approver,
      policies request.policyVersion with
  | some installation, some requester, some (approverId, approver), some requiredApprovals =>
    let refusal := approvalRefusal (some requester) (some (approverId, approver))
    if s.tenant.status ≠ .active ∨ s.tenant.liveEnabled = true ∨
        installation.status ≠ .active ∨ installationId ≠ request.installationId ∨
        installation.environment ≠ input.environment ∨
        installation.stripeAccountId ≠ input.stripeAccountId ∨
        request.environment ≠ input.environment ∨
        request.version ≠ input.expectedRequestVersion ∨
        request.amountMinor ≠ input.amountMinor then
      .error refusal
    else do
      let currency ← (normalizeCurrency request.currency).mapError fun _ => .unexpected
      let signedCurrency ← (normalizeCurrency input.currency).mapError fun _ => .unexpected
      if currency ≠ signedCurrency ∨ request.reason ≠ input.reason ∨
          requester.stripeUserId ≠ input.requesterStripeUserId ∨
          approver.approverEnabled = false ∨ approverId = request.requesterUserId ∨
          approver.stripeUserId = requester.stripeUserId ∨
          request.paymentGuardReleasedAt ≠ none ∨ request.effectState ≠ .notStarted ∨
          request.requiredApprovals ≠ 1 ∨ requiredApprovals ≠ request.requiredApprovals then
        .error refusal
      else
        match request.chargeId with
        | none          => .error refusal
        | some chargeId =>
          pendingPayload request input (attestedPayload s installationId requestId request input
            requester.stripeUserId approverId approver.stripeUserId currency chargeId)
  | _, requester, approver, _ => .error (approvalRefusal requester approver)

end Payload

-- The row of a signed payload. The nonce is a UUID of the database.
def attestationRow (dates : DateConversion) (payload : ApprovalAttestationPayload)
    (token : String × String) (snapshotHash : String) : ApprovalAttestation where
  installationId            := payload.installationId
  requestId                 := payload.requestId
  approverUserId            := payload.approverUserId
  requestNonce              := lowerCase payload.requestNonce
  stripeAccountId           := payload.stripeAccountId
  environment               := payload.environment
  resourceType              := payload.resourceType
  resourceId                := payload.resourceId
  requestVersion            := payload.requestVersion
  signedEnvelopeHash        := payload.canonicalRequestHash
  authorizationSnapshotHash := snapshotHash
  verifiedAt                := dates.write payload.verifiedAt
  consumeBefore             := dates.write payload.consumeBefore
  hmacKeyVersion            := token.1
  hmac                      := token.2

section Persist

variable (keyring : ApprovalAttestationKeyring) (dates : DateConversion)
variable (policies : Nat → Option Nat) (s : Store)

-- What is persisted already under the nonce, or the payload that is signed now with its token.
def signApproval (installationId : String) (input : PersistApprovalAttestationInput) :
    Except AttestationFailure
      (PersistedApprovalAttestation ⊕ ApprovalAttestationPayload × String × String) :=
  let requestId := lowerCase input.requestId
  match s.requests.find? requestId with
  | none        => .error (.invalid .requestNotFound)
  | some detail =>
    match s.attestations.entries.find? fun e =>
        e.2.requestNonce = lowerCase input.requestNonce with
    | some (id, existing) =>
      if existing.signedEnvelopeHash ≠ input.signedEnvelopeHash then
        .error (.refused .conflict none)
      else
        .ok (.inl { id, signedEnvelopeHash := existing.signedEnvelopeHash })
    | none => do
      let payload ←
        approvalPayload policies s installationId requestId (detail.request.read dates) input
      let token ← (keyring.sign payload).mapError fun _ => .unexpected
      pure (.inr (payload, token))

-- The transaction of `persistApprovalAttestation` for an installation that has been resolved.
def persistApprovalAttestation (keys : WorkerKeys) (attestationId installationId : String)
    (input : PersistApprovalAttestationInput) :
    Transaction AttestationFailure Store PersistedApprovalAttestation := do
  match ← fromExcept (signApproval keyring dates policies (← get) installationId input) with
  | .inl existing         => pure existing
  | .inr (payload, token) =>
    let row := attestationRow dates payload token (approvalAuthorizationSnapshotHash keys payload)
    onField id (fun _ s => s) .ofStore
      (TenantRepository.persistApprovalAttestation attestationId row)
    pure { id := attestationId, signedEnvelopeHash := row.signedEnvelopeHash }

end Persist

-- `refunddesk_resolve_installation`
def resolveInstallation (s : Store) (accountId : String) (environment : StripeEnvironment) :
    Except AttestationFailure (Option (String × InstallationStatus)) :=
  if isStripeAccountId accountId then
    .ok ((s.installations.entries.find? fun e =>
      e.2.stripeAccountId = accountId ∧ e.2.environment = environment ∧
        s.tenant.status = .active).map fun e => (e.1, e.2.status))
  else
    .error .unexpected

end WorkerStore
end RefundDesk
