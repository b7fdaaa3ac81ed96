import RefundDesk.Authority.CanonicalPayload
import RefundDesk.Authority.Provenance
import RefundDesk.Worker.ExecutionSpecs

namespace RefundDesk

open Transaction Script Relation RequestRepository TenantRepository WorkerStore

section Rebuilt

variable {item : ExecutionWorkItem} {decision : ApprovalDecision} {approver : TenantUser}
variable {attestationId : String} {attestation : ApprovalAttestation}
variable {payload : ApprovalAttestationPayload}

-- The payload that is rebuilt from the evidence of an approval and the rows of its request.
structure Rebuilt (item : ExecutionWorkItem) (decision : ApprovalDecision) (approver : TenantUser)
    (attestationId : String) (attestation : ApprovalAttestation)
    (payload : ApprovalAttestationPayload) : Prop where
  evidence       : item.approvalDecision =
    some { decision, approver, approvalAttestation := some (attestationId, attestation) }
  approved       : decision.decision = .approve
  referenced     : decision.approvalAttestationId = some attestationId
  distinct       : decision.approverUserId ≠ item.request.requesterUserId
  distinctStripe : approver.stripeUserId ≠ item.requester.stripeUserId
  charge         : item.request.chargeId = some payload.chargeId
  currency       : normalizeCurrency item.request.currency = .ok payload.currency
  payload        : payload = {
    amountMinor           := item.request.amountMinor
    approverStripeUserId  := approver.stripeUserId
    approverUserId        := decision.approverUserId
    canonicalRequestHash  := attestation.signedEnvelopeHash
    chargeId              := payload.chargeId
    consumeBefore         := attestation.consumeBefore
    currency              := payload.currency
    environment           := item.request.environment
    expiresAt             := item.request.expiresAt
    installationId        := item.request.installationId
    paymentIntentId       := item.request.paymentIntentId
    paymentKey            := item.request.paymentKey
    policyVersion         := item.request.policyVersion
    reason                := item.request.reason
    requestId             := item.id
    requesterStripeUserId := item.requester.stripeUserId
    requesterUserId       := item.request.requesterUserId
    requestNonce          := attestation.requestNonce
    requestVersion        := attestation.requestVersion
    requiredApprovals     := item.request.requiredApprovals
    resourceId            := (resourceOf item.request payload.chargeId).2
    resourceType          := (resourceOf item.request payload.chargeId).1
    stripeAccountId       := item.installation.stripeAccountId
    tenantId              := item.tenantId
    verifiedAt            := attestation.verifiedAt
  }

theorem rebuilt_of_approvalPayload
    (h : approvalPayloadFromExecutionItem item = .ok (some (payload, attestation))) :
    ∃ decision approver attestationId,
      Rebuilt item decision approver attestationId attestation payload := by
  unfold approvalPayloadFromExecutionItem at h
  split at h
  case h_2 => cases h
  case h_1 decision approver attestationId attestation' chargeId hevidence hcharge =>
    simp only at h
    split at h
    case isTrue => cases h
    case isFalse hguard =>
      simp only [Except.bind_eq_ok, pure, Except.pure, Except.ok.injEq, Option.some.injEq,
        Prod.mk.injEq] at h
      obtain ⟨currency, hcurrency, rfl, rfl⟩ := h
      simp only [not_or, not_not] at hguard
      obtain ⟨happroved, hreferenced, -, -, -, -, -, -, -, -, hdistinct, hstripe, -⟩ := hguard
      exact ⟨decision, approver, attestationId, {
        evidence       := hevidence
        approved       := happroved
        referenced     := hreferenced
        distinct       := hdistinct
        distinctStripe := hstripe
        charge         := hcharge
        currency       := hcurrency
        payload        := rfl
      }⟩

end Rebuilt

theorem stored_of_getApprovalEvidence {s : Store} {requestId : String} {d : RefundRequestDetail}
    {decision : ApprovalDecision} {approver : TenantUser} {attestationId : String}
    {attestation : ApprovalAttestation}
    (h : getApprovalEvidence s requestId d = .ok
      (some { decision, approver, approvalAttestation := some (attestationId, attestation) })) :
    decision ∈ d.decisions ∧ s.users.find? decision.approverUserId = some approver ∧
      s.attestations.find? attestationId = some attestation := by
  unfold getApprovalEvidence at h
  simp only at h
  split at h
  case h_1 => cases h
  case h_2 decision' hhead =>
    split at h
    case h_1 => cases h
    case h_2 approver' happrover =>
      simp only [Except.ok.injEq, Option.some.injEq, ExecutionApprovalEvidence.mk.injEq,
        Option.bind_eq_some_iff, Option.map_eq_some_iff, Option.filter_eq_some_iff, Prod.mk.injEq] at h
      obtain ⟨rfl, rfl, _, _, _, ⟨hstored, -⟩, rfl, rfl⟩ := h
      have hmem := List.mem_of_mem_head? hhead
      rw [List.mem_insertionSort, List.mem_filter] at hmem
      exact ⟨hmem.1, happrover, hstored⟩

section Envelope

variable {worker : AttestingWorker} {request : SignedRequest} {hash : String}
variable {envelope : SignedEnvelope} {input : PersistApprovalAttestationInput}

-- The approve command that an accepted envelope carries.
structure ApproveCommand (worker : AttestingWorker) (envelope : SignedEnvelope)
    (requestId : String) (expectedRequestVersion : Nat) (snapshot : ApprovalSnapshot) : Prop where
  operation : envelope.operation = "refund_request.decide"
  parsed    : worker.authority.parseOperationCommand envelope.commandJson =
    .ok { requestId, decision := .approve expectedRequestVersion snapshot }

def SignedEnvelope.environment (envelope : SignedEnvelope) : StripeEnvironment :=
  if envelope.isSandbox then .sandbox else .test

theorem approveCommand_of_attestationInput
    (h : worker.authority.attestationInput request hash envelope = .ok input) :
    ∃ snapshot, ApproveCommand worker envelope input.requestId input.expectedRequestVersion snapshot ∧
      envelope.resource = .payment input.resourceType input.resourceId ∧
      input = { input with
        amountMinor           := snapshot.amountMinor
        approverStripeUserId  := envelope.userId
        currency              := snapshot.currency
        environment           := envelope.environment
        reason                := snapshot.reason
        requestNonce          := envelope.requestNonce
        requesterStripeUserId := snapshot.requesterUserId
        signedEnvelopeHash    := hash
        stripeAccountId       := envelope.accountId
      } := by
  simp only [StripeSignedRequestAuthority.attestationInput, ite_error_eq_ok, not_not,
    Except.bind_eq_ok] at h
  obtain ⟨hoperation, ⟨requestId, decision⟩, hparsed, h⟩ := h
  split at h
  case h_2 => cases h
  case h_1 expectedRequestVersion snapshot resourceType resourceId hdecision hresource =>
    obtain rfl := Except.ok.inj h
    obtain rfl := hdecision
    exact ⟨snapshot, ⟨hoperation, hparsed⟩, hresource, rfl⟩

theorem ApproveCommand.conforms {requestId : String} {expectedRequestVersion : Nat}
    {snapshot : ApprovalSnapshot}
    (h : ApproveCommand worker envelope requestId expectedRequestVersion snapshot) :
    snapshot.conforms := by
  have hparsed := h.parsed
  unfold StripeSignedRequestAuthority.parseOperationCommand at hparsed
  split at hparsed
  case h_1 => cases hparsed
  case h_2 command _ =>
    split at hparsed
    case isFalse => cases hparsed
    case isTrue hconforms =>
      obtain rfl := Except.ok.inj hparsed
      simp only [SignedDecision.conforms, Bool.and_eq_true] at hconforms
      exact hconforms.2.2

end Envelope

-- A payload whose token a stored attestation carries has been signed.
def ApprovalState.Unforged (keyring : ApprovalAttestationKeyring) (s : ApprovalState) : Prop :=
  ∀ attestationId row payload, s.store.attestations.find? attestationId = some row →
    keyring.verify payload row.hmacKeyVersion row.hmac = true → ∃ i signed, (i, signed) ∈ s.signed ∧
      ApprovalAttestation.canonicalPayload signed = ApprovalAttestation.canonicalPayload payload

-- The request has one decision. It is an approval by another user, which has consumed the attestation.
structure ApprovedBy (s : Store) (requestId : String) (d : RefundRequestDetail)
    (decision : ApprovalDecision) (approver requester : TenantUser)
    (attestation : ApprovalAttestation) : Prop where
  found          : s.requests.find? requestId = some d
  only           : d.decisions = [decision]
  approved       : decision.decision = .approve
  approves       : s.users.find? decision.approverUserId = some approver
  requests       : s.users.find? d.request.requesterUserId = some requester
  distinct       : decision.approverUserId ≠ d.request.requesterUserId
  distinctStripe : approver.stripeUserId ≠ requester.stripeUserId
  consumed       : decision.approvalAttestationId.bind s.attestations.find? = some attestation

-- The attestation is for an accepted envelope, in which the approver has approved what is executed.
structure EnvelopeFor (worker : AttestingWorker) (request : SignedRequest)
    (record : RefundExecutionRecord) (approver requester : TenantUser)
    (attestation : ApprovalAttestation) (envelope : SignedEnvelope) (requestId : String)
    (expectedRequestVersion : Nat) (snapshot : ApprovalSnapshot) : Prop where
  accepted    : worker.authority.verifyExact request = .ok (attestation.signedEnvelopeHash, envelope)
  command     : ApproveCommand worker envelope requestId expectedRequestVersion snapshot
  nonce       : attestation.requestNonce = envelope.requestNonce
  approver    : envelope.userId = approver.stripeUserId
  account     : envelope.accountId = record.stripeAccountId
  environment : envelope.environment = record.environment
  resource    : envelope.resource = .payment record.resourceType record.resourceId
  requestId   : lowerCase requestId = record.requestId
  amountMinor : snapshot.amountMinor = record.amountMinor
  currency    : snapshot.currency = record.currency
  reason      : snapshot.reason = record.reason
  requester   : snapshot.requesterUserId = requester.stripeUserId

-- The decision at a position of a request has consumed the attestation.
def Consumes (s : Store) (requestId : String) (n : Nat) (attestationId : String)
    (row : ApprovalAttestation) : Prop :=
  ∃ d decision, s.requests.find? requestId = some d ∧ d.decisions[n]? = some decision ∧
    decision.approvalAttestationId = some attestationId ∧
    s.attestations.find? attestationId = some row

-- The same attestation, or one for the same nonce, is consumed by the same decision only.
def ConsumedOnce (s s' : Store) : Prop :=
  ∀ requestId requestId' n n' attestationId attestationId' row row',
    Consumes s requestId n attestationId row → Consumes s' requestId' n' attestationId' row' →
    attestationId = attestationId' ∨ row.requestNonce = row'.requestNonce →
    requestId = requestId' ∧ n = n'

-- A payload that the keyring accepts has a canonical text, which no other payload has.
theorem payload_of_verify {keyring : ApprovalAttestationKeyring} {version digest : String}
    {signed payload : ApprovalAttestationPayload}
    (h : keyring.verify payload version digest = true)
    (hsame : ApprovalAttestation.canonicalPayload signed =
      ApprovalAttestation.canonicalPayload payload) : signed = payload := by
  unfold ApprovalAttestationKeyring.verify at h
  split at h
  case h_1 key fields _ hfields => exact canonicalPayload_injective (hsame.trans hfields) hfields
  case h_2 => cases h

section Binding

variable {dates : DateConversion} {workers : Nat → AttestingWorker}
variable {requests : Nat → SignedRequest} {y₀ y₁ y : Approvals} {s s' : Store}

theorem consumes_of_operationStep {keys : WorkerKeys} {admits : Operation → Prop}
    {requestId attestationId : String} {n : Nat} {row : ApprovalAttestation}
    (hstep : OperationStep keys admits s s') (h : Consumes s requestId n attestationId row) :
    Consumes s' requestId n attestationId row := by
  obtain ⟨now, op, -, hc⟩ := hstep
  refine preserved_of_run (fun s => Consumes s requestId n attestationId row)
    (fun s s' hs hchange => ?_) (op.within_run hc) h
  obtain ⟨d, decision, hd, hn, hreferenced, hrow⟩ := hs
  obtain ⟨d', hd', hkept, -⟩ := hchange.decisions_kept hd
  have hn' : d'.decisions[n]? = some decision := by
    obtain ⟨more, hmore⟩ := hkept
    have hlt := (List.getElem?_eq_some_iff.mp hn).1
    rw [← hmore, List.getElem?_append_left hlt, hn]
  exact ⟨d', decision, hd', hn', hreferenced, hchange.grows.attestations _ _ hrow⟩

theorem consumedOnce_of_sound (h : ApprovalsSound s) (hnonces : s.NoncesUnique) :
    ConsumedOnce s s := by
  have hevidence {requestId attestationId : String} {n : Nat} {row : ApprovalAttestation}
      (hc : Consumes s requestId n attestationId row) : row.requestId = requestId ∧ n = 0 := by
    obtain ⟨d, decision, hd, hn, hreferenced, hrow⟩ := hc
    have hsound := h.decisions requestId d hd
    have hmem := List.mem_of_getElem? hn
    have happrove : decision.decision = .approve := by
      cases hkind : decision.decision with
      | approve => rfl
      | reject  => simp [hsound.rejected decision hmem hkind] at hreferenced
    obtain ⟨_, attestation, he⟩ := hsound.evidence decision hmem happrove
    have hstored := he.stored
    rw [← Option.some.inj (hreferenced.symm.trans he.referenced), hrow] at hstored
    obtain rfl := Option.some.inj hstored
    have hlt := (List.getElem?_eq_some_iff.mp hn).1
    have hsingle := hsound.single
    exact ⟨he.requestId, by omega⟩
  intro requestId requestId' n n' attestationId attestationId' row row' hc hc' hsame
  have hid : attestationId = attestationId' := by
    rcases hsame with hid | hnonce
    · exact hid
    · obtain ⟨_, _, -, -, -, hrow⟩ := hc
      obtain ⟨_, _, -, -, -, hrow'⟩ := hc'
      exact hnonces _ _ _ _ hrow hrow' hnonce
  obtain ⟨hrequest, rfl⟩ := hevidence hc
  obtain ⟨hrequest', rfl⟩ := hevidence hc'
  subst hid
  obtain ⟨_, _, -, -, -, hrow⟩ := hc
  obtain ⟨_, _, -, -, -, hrow'⟩ := hc'
  obtain rfl := Option.some.inj (hrow.symm.trans hrow')
  exact ⟨hrequest.symm.trans hrequest', rfl⟩

theorem store_of_step
    (hstep : Concurrent.Step (approvalSurroundings dates workers requests) y₀ y) :
    y.state.store = y₀.state.store ∨
      ∃ keys, OperationStep keys (fun _ => True) y₀.state.store y.state.store := by
  cases hstep with
  | started _ _ => exact .inl rfl
  | @answered i c next r s' _ hr =>
    cases c with
    | resolveInstallation accountId environment => exact .inl (congrArg _ hr.1)
    | persist installationId input =>
      obtain ⟨policies, attestationId, hpersists⟩ := hr
      exact store_of_persists hpersists
  | disturbed hdisturbs => exact .inr hdisturbs.2

theorem consumes_of_run {requestId attestationId : String} {n : Nat} {row : ApprovalAttestation}
    (hrun : ReflTransGen (Concurrent.Step (approvalSurroundings dates workers requests)) y₀ y)
    (h : Consumes y₀.state.store requestId n attestationId row) :
    Consumes y.state.store requestId n attestationId row := by
  refine preserved_of_run (fun y : Approvals => Consumes y.state.store requestId n attestationId row)
    (fun y y' hy hstep => ?_) hrun h
  rcases store_of_step hstep with heq | ⟨keys, hstep⟩
  · rwa [heq]
  · exact consumes_of_operationStep hstep hy

theorem approvedBy_of_loaded {keys : WorkerKeys} {requestId : String}
    {record : RefundExecutionRecord} {item : ExecutionWorkItem} (hsound : ApprovalsSound s)
    (hloaded : LoadedItem keys s requestId item record) :
    ∃ d decision approver attestationId attestation payload,
      ApprovedBy s record.requestId d decision approver item.requester attestation ∧
      WorkItemOf s requestId item d ∧
      Rebuilt item decision approver attestationId attestation payload ∧
      s.attestations.find? attestationId = some attestation ∧
      keys.verifyApprovalAttestation payload attestation.hmacKeyVersion attestation.hmac = true := by
  obtain ⟨-, d, hitem⟩ := workItemOf_getExecutionWorkItem hloaded.read
  obtain ⟨payload, attestation, hpayload, -, hverify⟩ := payload_of_valid hloaded.valid
  obtain ⟨decision, approver, attestationId, hrebuilt⟩ := rebuilt_of_approvalPayload hpayload
  obtain ⟨chargeId, -, hrecord⟩ := hloaded.charge
  have hid : record.requestId = requestId := by rw [hrecord]; exact hitem.id
  have happroval := hitem.approval
  rw [hrebuilt.evidence] at happroval
  obtain ⟨hmem, happrover, hstored⟩ := stored_of_getApprovalEvidence happroval
  have honly : d.decisions = [decision] := by
    have hsingle := (hsound.decisions requestId d hitem.found).single
    obtain ⟨first, hfirst⟩ := List.length_eq_one_iff.mp
      (le_antisymm hsingle (List.length_pos_of_mem hmem))
    rw [hfirst] at hmem ⊢
    rw [List.mem_singleton.mp hmem]
  have hdistinct := hrebuilt.distinct
  rw [hitem.request] at hdistinct
  refine ⟨d, decision, approver, attestationId, attestation, payload, ?_, hitem, hrebuilt, hstored,
    hverify⟩
  exact {
    found          := hid ▸ hitem.found
    only           := honly
    approved       := hrebuilt.approved
    approves       := happrover
    requests       := hitem.requester
    distinct       := hdistinct
    distinctStripe := hrebuilt.distinctStripe
    consumed       := by simp [hrebuilt.referenced, hstored]
  }

theorem envelopeFor_of_covers {worker : AttestingWorker} {request : SignedRequest} {hash : String}
    {envelope : SignedEnvelope} {input : PersistApprovalAttestationInput} {keys : WorkerKeys}
    {requestId attestationId : String} {record : RefundExecutionRecord} {item : ExecutionWorkItem}
    {decision : ApprovalDecision} {approver : TenantUser} {attestation : ApprovalAttestation}
    {payload : ApprovalAttestationPayload} (haccepts : Accepts worker request hash envelope input)
    (hcovers : Covers input payload)
    (hrebuilt : Rebuilt item decision approver attestationId attestation payload)
    (hloaded : LoadedItem keys s requestId item record)
    (hcurrency : isCurrency item.request.currency) :
    ∃ snapshot, EnvelopeFor worker request record approver item.requester attestation envelope
      input.requestId input.expectedRequestVersion snapshot := by
  obtain ⟨snapshot, hcommand, hresource, hinput⟩ :=
    approveCommand_of_attestationInput haccepts.input
  obtain ⟨chargeId, hcharge, rfl⟩ := hloaded.charge
  obtain rfl : payload.chargeId = chargeId := Option.some.inj (hrebuilt.charge.symm.trans hcharge)
  have hconforms := hcommand.conforms
  simp only [ApprovalSnapshot.conforms, Bool.and_eq_true] at hconforms
  rw [hinput, hrebuilt.payload] at hcovers
  have hhash : attestation.signedEnvelopeHash = hash := hcovers.hash
  have hsame : snapshot.currency = item.request.currency := by
    have hsigned := normalizeCurrency_of_isCurrency hconforms.1.1.2
    have hstored := normalizeCurrency_of_isCurrency hcurrency
    exact (Except.ok.inj (hsigned.symm.trans hcovers.currency)).trans
      (Except.ok.inj (hstored.symm.trans hrebuilt.currency)).symm
  have hpayment : envelope.resource = .payment (resourceOf item.request payload.chargeId).1
      (resourceOf item.request payload.chargeId).2 := by
    rw [hresource]
    exact congrArg₂ SignedResource.payment hcovers.resource.1.symm hcovers.resource.2.symm
  exact ⟨snapshot, {
    accepted    := hhash ▸ haccepts.verified
    command     := hcommand
    nonce       := hcovers.nonce
    approver    := hcovers.approver.symm
    account     := hcovers.account.symm
    environment := hcovers.environment.symm
    resource    := hpayment
    requestId   := hcovers.requestId.symm
    amountMinor := hcovers.amountMinor.symm
    currency    := hsame
    reason      := hcovers.reason.symm
    requester   := hcovers.requester.symm
  }⟩

-- What is executed is what another user has approved in an envelope that a worker has accepted, and
-- over the whole run no attestation and no nonce is consumed twice. The HMAC is taken to be
-- unforgeable.
theorem approval_binding (hidle : y₀.Idle) (hinitial : y₀.state.Initial)
    (hbefore : ReflTransGen (Concurrent.Step (approvalSurroundings dates workers requests)) y₀ y₁)
    (hrun : ReflTransGen (Concurrent.Step (approvalSurroundings dates workers requests)) y₁ y) :
    ConsumedOnce y₁.state.store y.state.store ∧
    ∀ keys keyring now requestId time record s',
      keys.verifyApprovalAttestation = ApprovalAttestationKeyring.verify keyring →
      y.state.Unforged keyring →
      (loadRefundExecution keys now requestId time).Commits y.state.store (some record) s' →
      ∃ d decision approver requester attestation,
        ApprovedBy s' record.requestId d decision approver requester attestation ∧
        ∃ i envelope requestId expectedRequestVersion snapshot,
          EnvelopeFor (workers i) (requests i) record approver requester attestation envelope
            requestId expectedRequestVersion snapshot := by
  have htraced := traced_of_run hidle hinitial (hbefore.trans hrun)
  constructor
  · have honce := consumedOnce_of_sound htraced.sound htraced.nonces
    intro requestId requestId' n n' attestationId attestationId' row row' hc hc' hsame
    exact honce _ _ _ _ _ _ _ _ (consumes_of_run hrun hc) hc' hsame
  · intro keys keyring now requestId time record s' hkeys hunforged hload
    have hstep : OperationStep keys (fun _ => True) y.state.store s' :=
      ⟨now, .loadRefundExecution requestId time, trivial, (commits_map _).mpr ⟨_, hload, rfl⟩⟩
    have hsound := htraced.sound.step hstep
    obtain ⟨hattestations, item, hloaded⟩ := loadedItem_of_loadRefundExecution hload
    obtain ⟨d, decision, approver, attestationId, attestation, payload, happroved, hitem, hrebuilt,
      hstored, hverify⟩ := approvedBy_of_loaded hsound hloaded
    rw [hkeys] at hverify
    obtain ⟨i, signed, hsigned, hcanonical⟩ :=
      hunforged attestationId attestation payload (hattestations ▸ hstored) hverify
    obtain rfl := payload_of_verify hverify hcanonical
    obtain ⟨hash, envelope, input, haccepts, hcovers⟩ := htraced.signed i signed hsigned
    have hcurrency : isCurrency item.request.currency :=
      hitem.request ▸ (hsound.sound.requests requestId d hitem.found).currency
    obtain ⟨snapshot, henvelope⟩ :=
      envelopeFor_of_covers haccepts hcovers hrebuilt hloaded hcurrency
    exact ⟨d, decision, approver, item.requester, attestation, happroved, i, envelope, _, _, snapshot,
      henvelope⟩

end Binding

namespace Pilot

def uuid (suffix : String) : String :=
  "00000000-0000-4000-8000-0000000000" ++ suffix

-- A tenant whose rows have UUIDs, with the worker that attests its approvals.
def attesting : Store := { Store.pilot with
  tenantId      := uuid "a0"
  installations := Table.empty.insert (uuid "b0") {
    stripeAccountId := "acct_1", environment := .test, status := .active, installedAt := 0
    deauthorizedAt := none, lastLifecycleEventId := none, lastLifecycleEventType := none
    lastLifecycleEventCreatedAt := none
  }
  users         :=
    (Table.empty.insert (uuid "c1") { stripeUserId := "usr_1", approverEnabled := false }).insert
      (uuid "c2") { stripeUserId := "usr_2", approverEnabled := true }
}

def envelopeHash : String :=
  String.ofList (List.replicate 64 'e')

def attestedPayload : ApprovalAttestationPayload where
  amountMinor           := 500
  approverStripeUserId  := "usr_2"
  approverUserId        := uuid "c2"
  canonicalRequestHash  := envelopeHash
  chargeId              := "ch_1"
  consumeBefore         := 100000
  currency              := "eur"
  environment           := .test
  expiresAt             := 100000
  installationId        := uuid "b0"
  paymentIntentId       := "pi_1"
  paymentKey            := "pi_1"
  policyVersion         := 1
  reason                := .requestedByCustomer
  requestId             := requestId
  requesterStripeUserId := "usr_1"
  requesterUserId       := uuid "c1"
  requestNonce          := uuid "d0"
  requestVersion        := 0
  requiredApprovals     := 1
  resourceId            := "pi_1"
  resourceType          := .paymentIntent
  stripeAccountId       := "acct_1"
  tenantId              := uuid "a0"
  verifiedAt            := 2000

-- The digest of one text is not the one of any other.
def attestingKeyring : ApprovalAttestationKeyring where
  hmac _ fields    :=
    if fields = ApprovalAttestation.canonicalFields attestedPayload then "mac" else ""
  active           := { version := "v1", key := "key" }
  verificationOnly := []
  versions         := by decide
  distinct         := by decide

def attestingKeys : WorkerKeys :=
  { keys with verifyApprovalAttestation := attestingKeyring.verify }

def approvingEnvelope : SignedEnvelope where
  operation    := "refund_request.decide"
  requestNonce := uuid "d0"
  mode         := .test
  isSandbox    := false
  resource     := .payment .paymentIntent "pi_1"
  commandJson  := "{}"
  stripeRoles  := none
  userId       := "usr_2"
  accountId    := "acct_1"

def approvingSnapshot : ApprovalSnapshot where
  amountMinor     := 500
  currency        := "eur"
  reason          := .requestedByCustomer
  requesterUserId := "usr_1"

def attestingWorker : AttestingWorker where
  authority := {
    signingSecrets := ["secret"]
    required       := by simp
    verifyHeader   := fun _ text signature secret =>
      text = "text" && signature = "signature" && secret = "secret"
    parseEnvelope  := fun _ => some approvingEnvelope
    serialize      := fun _ => "text"
    parseDecision  := fun _ => some { requestId, decision := .approve 0 approvingSnapshot }
    sha256         := fun _ => envelopeHash
  }
  keys      := attestingKeys
  keyring   := attestingKeyring

def approving : SignedRequest where
  rawText         := "text"
  stripeSignature := "signature"
  receivedAt      := 2000
  verifiedAt      := 2000

def approvingInput : PersistApprovalAttestationInput where
  signedEnvelopeHash     := envelopeHash
  requestNonce           := uuid "d0"
  stripeAccountId        := "acct_1"
  environment            := .test
  resourceType           := .paymentIntent
  resourceId             := "pi_1"
  requestId              := requestId
  expectedRequestVersion := 0
  approverStripeUserId   := "usr_2"
  requesterStripeUserId  := "usr_1"
  amountMinor            := 500
  currency               := "eur"
  reason                 := .requestedByCustomer
  verifiedAt             := 2000

def attestedRequest : Operation :=
  .createRefundRequest requestId
    { input with installationId := uuid "b0", requesterUserId := uuid "c1" }

def attestedDecision : Operation :=
  .recordDecision requestId { approval with approverUserId := uuid "c2" } 2000

def openedStore : Store :=
  (attestedRequest.run attestingKeys 1000).after attesting

def attestedStore : Store :=
  (WorkerStore.persistApprovalAttestation attestingKeyring .exact (fun _ => some 1) attestingKeys "a"
    (uuid "b0") approvingInput).after openedStore

def decidedStore : Store :=
  (attestedDecision.run attestingKeys 2000).after attestedStore

def aroundApprovals : Surroundings ApprovalState AuthorityFailure AuthorityCall.Reply
    WorkerSignedApprovalAttestation :=
  approvalSurroundings .exact (fun _ => attestingWorker) fun _ => approving

def unapproved : Approvals :=
  ⟨⟨attesting, []⟩, fun _ => none, []⟩

theorem verifyExact_approving :
    attestingWorker.authority.verifyExact approving = .ok (envelopeHash, approvingEnvelope) := by
  decide +kernel

theorem attestationInput_approving :
    attestingWorker.authority.attestationInput approving envelopeHash approvingEnvelope =
      .ok approvingInput := by
  decide +kernel

theorem attestApproval_approving : ∃ rest, attestingWorker.authority.attestApproval approving =
    PrismaWorkerStore.persistApprovalAttestation approvingInput >>= rest := by
  simp only [StripeSignedRequestAuthority.attestApproval, verifyExact_approving,
    attestationInput_approving, fromExcept_ok_bind]
  exact ⟨_, rfl⟩

-- The one request that is attested: its persistence is answered between the creation of the refund
-- request and the decision.
theorem approval_run {s₁ s₂ s₃ : Store}
    (hopened : (attestedRequest.run attestingKeys 1000).Commits attesting () s₁)
    (hattested : (WorkerStore.persistApprovalAttestation attestingKeyring .exact
      (fun _ => some 1) attestingKeys "a" (uuid "b0") approvingInput).Commits s₁
      { id := "a", signedEnvelopeHash := envelopeHash } s₂)
    (hdecided : (attestedDecision.run attestingKeys 2000).Commits s₂ () s₃)
    (hsigned : newlySigned .exact (fun _ => attestingWorker) 0 (fun _ => some 1) s₁
      (uuid "b0") approvingInput = [(0, attestedPayload)])
    (hresolve : WorkerStore.resolveInstallation s₁ "acct_1" .test =
      .ok (some (uuid "b0", .active))) :
    ∃ y : Approvals, ReflTransGen (Concurrent.Step aroundApprovals) unapproved y ∧
      y.state = ⟨s₃, [(0, attestedPayload)]⟩ := by
  obtain ⟨rest, hscript⟩ := attestApproval_approving
  have hstarts : aroundApprovals.starts 0
      (PrismaWorkerStore.persistApprovalAttestation approvingInput >>= rest) := hscript.symm
  have hnone : unapproved.scripts 0 = none := rfl
  have hanswer₁ : aroundApprovals.answers 0 ⟨s₁, []⟩ (.resolveInstallation "acct_1" .test)
      (.ok (some (uuid "b0", .active))) ⟨s₁, []⟩ := ⟨rfl, .inl hresolve.symm⟩
  have hanswer₂ : aroundApprovals.answers 0 ⟨s₁, []⟩ (.persist (uuid "b0") approvingInput)
      (.ok { id := "a", signedEnvelopeHash := envelopeHash }) ⟨s₂, [(0, attestedPayload)]⟩ :=
    ⟨fun _ => some 1, "a", hsigned ▸ Persists.committed hattested⟩
  have hopen : Concurrent.Step aroundApprovals unapproved
      { unapproved with state := ⟨s₁, []⟩ } :=
    .disturbed ⟨rfl, attestingKeys, 1000, attestedRequest, trivial, hopened⟩
  obtain ⟨y₁, h₁, hs, hp, -⟩ := Concurrent.Step.start (y := { unapproved with
    state := ⟨s₁, []⟩ }) hnone hstarts
  obtain ⟨y₂, h₂, hs, hp, -⟩ := Concurrent.Step.answer hs hp hanswer₁
  obtain ⟨y₃, h₃, hs, -⟩ := Concurrent.Step.answer hs hp hanswer₂
  have hdecide : Concurrent.Step aroundApprovals y₃
      { y₃ with state := ⟨s₃, [(0, attestedPayload)]⟩ } :=
    .disturbed (hs ▸ ⟨rfl, attestingKeys, 2000, attestedDecision, trivial, hdecided⟩)
  exact ⟨_, (ReflTransGen.single hopen).tail h₁ |>.tail h₂ |>.tail h₃ |>.tail hdecide, rfl⟩

theorem unforged_of_approval {s : Store}
    (hmacs : ∀ e ∈ s.attestations.entries, e.2.hmac = "mac") :
    ApprovalState.Unforged attestingKeyring ⟨s, [(0, attestedPayload)]⟩ := by
  have hcanonical : ApprovalAttestation.canonicalPayload attestedPayload =
      .ok (ApprovalAttestation.canonicalFields attestedPayload) := by decide +kernel
  intro attestationId row payload hrow hverify
  refine ⟨0, attestedPayload, List.mem_singleton_self _, ?_⟩
  have hmac : row.hmac = "mac" := hmacs (attestationId, row) (Table.mem_entries_iff.mpr hrow)
  unfold ApprovalAttestationKeyring.verify at hverify
  split at hverify
  case h_1 key fields _ hfields =>
    have hsame : fields = ApprovalAttestation.canonicalFields attestedPayload := by
      by_contra hne
      simp [attestingKeyring, hne, hmac] at hverify
    rw [hcanonical, hfields, hsame]
  case h_2 => cases hverify

def executedRecord : RefundExecutionRecord where
  tenantId          := uuid "a0"
  requestId         := requestId
  installationId    := uuid "b0"
  stripeAccountId   := "acct_1"
  environment       := .test
  active            := true
  tenantLiveEnabled := false
  resourceType      := .paymentIntent
  resourceId        := "pi_1"
  paymentKey        := "pi_1"
  paymentIntentId   := "pi_1"
  chargeId          := "ch_1"
  amountMinor       := 500
  currency          := "eur"
  reason            := .requestedByCustomer
  effectState       := .notStarted
  linkedRefundId    := none

-- The answers of the run and of the execution after it. They are evaluated together, since each is
-- given in the store that the transactions before it leave.
theorem answers_of_approval :
    ((attestedRequest.run attestingKeys 1000).run attesting).toOption.map (·.1) = some () ∧
    ((WorkerStore.persistApprovalAttestation attestingKeyring .exact (fun _ => some 1)
      attestingKeys "a" (uuid "b0") approvingInput).run openedStore).toOption.map (·.1) =
      some { id := "a", signedEnvelopeHash := envelopeHash } ∧
    ((attestedDecision.run attestingKeys 2000).run attestedStore).toOption.map (·.1) = some () ∧
    newlySigned .exact (fun _ => attestingWorker) 0 (fun _ => some 1) openedStore (uuid "b0")
      approvingInput = [(0, attestedPayload)] ∧
    WorkerStore.resolveInstallation openedStore "acct_1" .test =
      .ok (some (uuid "b0", .active)) ∧
    (∀ e ∈ decidedStore.attestations.entries, e.2.hmac = "mac") ∧
    ((loadRefundExecution attestingKeys 3000 requestId 3000).run decidedStore).toOption.map (·.1) =
      some (some executedRecord) := by
  decide +kernel

-- The request that is executed after the run.
theorem approval_binding_attested : ∃ d decision approver requester attestation s',
    ApprovedBy s' requestId d decision approver requester attestation ∧
    ∃ envelope requestId expectedRequestVersion snapshot, snapshot.amountMinor = 500 ∧
      ApproveCommand attestingWorker envelope requestId expectedRequestVersion snapshot := by
  obtain ⟨s, s', y, hrun, hy, hunforged, hload⟩ : ∃ s s', ∃ y : Approvals,
      ReflTransGen (Concurrent.Step aroundApprovals) unapproved y ∧
      y.state = ⟨s, [(0, attestedPayload)]⟩ ∧
      ApprovalState.Unforged attestingKeyring ⟨s, [(0, attestedPayload)]⟩ ∧
      (loadRefundExecution attestingKeys 3000 requestId 3000).Commits s (some executedRecord)
        s' := by
    obtain ⟨hopened, hattested, hdecided, hsigned, hresolve, hmacs, hload⟩ := answers_of_approval
    obtain ⟨y, hrun, hy⟩ := approval_run (commits_after hopened) (commits_after hattested)
      (commits_after hdecided) hsigned hresolve
    exact ⟨decidedStore, _, y, hrun, hy, unforged_of_approval hmacs, commits_after hload⟩
  have hinitial : unapproved.state.Initial := ⟨⟨rfl, rfl, rfl, rfl⟩, rfl, rfl⟩
  obtain ⟨d, decision, approver, requester, attestation, happroved, i, envelope, requestId,
    version, snapshot, henvelope⟩ := (approval_binding ⟨fun _ => rfl, rfl⟩ hinitial .refl hrun).2
    attestingKeys attestingKeyring 3000 requestId 3000 executedRecord s' rfl
    (hy ▸ hunforged) (by rw [hy]; exact hload)
  exact ⟨d, decision, approver, requester, attestation, s', happroved, envelope, requestId,
    version, snapshot, henvelope.amountMinor, henvelope.command⟩

end Pilot
end RefundDesk
