import RefundDesk.Authority.SignedRequests
import RefundDesk.Worker.Approvals

namespace RefundDesk

open Transaction Script Relation

-- What the worker has checked of the row of a request, as it has read it, when it signs a payload.
structure Approvable (s : Store) (installationId requestId : String) (request : RefundRequest)
    (input : PersistApprovalAttestationInput) (payload : ApprovalAttestationPayload) : Prop where
  installation   : installationId = request.installationId
  account        : (s.installations.find? installationId).map (·.stripeAccountId) =
    some input.stripeAccountId
  environment    : request.environment = input.environment
  amountMinor    : request.amountMinor = input.amountMinor
  currency       : normalizeCurrency request.currency = .ok payload.currency
  signedCurrency : normalizeCurrency input.currency = .ok payload.currency
  reason         : request.reason = input.reason
  requester      : (s.users.find? request.requesterUserId).map (·.stripeUserId) =
    some input.requesterStripeUserId
  approver       : (s.users.find? payload.approverUserId).map (·.stripeUserId) =
    some input.approverStripeUserId
  distinct       : payload.approverUserId ≠ request.requesterUserId
  distinctStripe : input.approverStripeUserId ≠ input.requesterStripeUserId
  quorum         : request.requiredApprovals = 1
  charge         : request.chargeId = some payload.chargeId
  resource       : WorkerStore.resourceOf request payload.chargeId =
    (input.resourceType, input.resourceId)
  pending        : request.workflowStatus = .pendingApproval
  verified       : request.createdAt ≤ input.verifiedAt
  window         : input.verifiedAt < payload.consumeBefore ∧
    payload.consumeBefore ≤ request.expiresAt
  attested       : payload = WorkerStore.attestedPayload s installationId requestId request input
    input.requesterStripeUserId payload.approverUserId input.approverStripeUserId payload.currency
    payload.chargeId

section Signing

variable {keyring : ApprovalAttestationKeyring} {dates : DateConversion}
variable {policies : Nat → Option Nat} {s : Store} {installationId requestId : String}
variable {request : RefundRequest} {input : PersistApprovalAttestationInput}
variable {payload : ApprovalAttestationPayload} {token : String × String}

theorem ite_error_eq_ok {ε α : Type} {p : Prop} [Decidable p] {e : ε} {x : Except ε α} {a : α} :
    (if p then .error e else x) = .ok a ↔ ¬p ∧ x = .ok a := by
  by_cases h : p <;> simp [h]

theorem pendingPayload_eq_ok {payload' : ApprovalAttestationPayload} :
    WorkerStore.pendingPayload request input payload = .ok payload' ↔
      payload.resourceType = input.resourceType ∧ payload.resourceId = input.resourceId ∧
      request.workflowStatus = .pendingApproval ∧ request.createdAt ≤ input.verifiedAt ∧
      input.verifiedAt < request.expiresAt ∧ input.verifiedAt < payload.consumeBefore ∧
      payload = payload' := by
  simp only [WorkerStore.pendingPayload, ite_error_eq_ok, ne_eq, not_or, not_not, not_lt, not_le,
    Except.ok.injEq, and_assoc]

theorem approvable_of_approvalPayload
    (h : WorkerStore.approvalPayload policies s installationId requestId request input =
      .ok payload) :
    Approvable s installationId requestId request input payload := by
  unfold WorkerStore.approvalPayload at h
  cases hi : s.installations.find? installationId with
  | none => simp [hi] at h
  | some installation =>
  cases hr : s.users.find? request.requesterUserId with
  | none => simp [hi, hr] at h
  | some requester =>
  cases ha : s.users.entries.find? fun e => e.2.stripeUserId = input.approverStripeUserId with
  | none => simp [hi, hr, ha] at h
  | some approver =>
  cases hp : policies request.policyVersion with
  | none => simp [hi, hr, ha, hp] at h
  | some requiredApprovals =>
  simp only [hi, hr, ha, hp, ite_error_eq_ok, Except.bind_eq_ok, mapError_eq_ok, not_or,
    not_not] at h
  obtain ⟨⟨-, -, -, hid, -, haccount, henvironment, -, hamount⟩, currency, hcurrency, _, hsigned,
    ⟨rfl, hreason, hrequester, -, hdistinct, hstripe, -, -, hquorum, -⟩, h⟩ := h
  cases hcharge : request.chargeId with
  | none => simp [hcharge] at h
  | some chargeId =>
  simp only [hcharge, pendingPayload_eq_ok] at h
  obtain ⟨htype, hresource, hpending, hcreated, hexpires, hwindow, rfl⟩ := h
  have happrover : approver.2.stripeUserId = input.approverStripeUserId := by
    simpa using List.find?_some ha
  have hstored : s.users.find? approver.1 = some approver.2 :=
    Table.mem_entries_iff.mp (List.mem_of_find?_eq_some ha)
  exact {
    installation   := hid
    account        := by simp [hi, haccount]
    environment    := henvironment
    amountMinor    := hamount
    currency       := hcurrency
    signedCurrency := hsigned
    reason         := hreason
    requester      := by simp [hr, hrequester]
    approver       := by simp [WorkerStore.attestedPayload, hstored, happrover]
    distinct       := hdistinct
    distinctStripe := by rwa [← happrover, ← hrequester]
    quorum         := hquorum
    charge         := hcharge
    resource       := Prod.ext htype hresource
    pending        := hpending
    verified       := hcreated
    window         := ⟨hwindow, min_le_right _ _⟩
    attested       := by rw [← happrover, ← hrequester]; rfl
  }

theorem signed_of_signApproval
    (h : WorkerStore.signApproval keyring dates policies s installationId input =
      .ok (.inr (payload, token))) :
    ∃ d, s.requests.find? (lowerCase input.requestId) = some d ∧
      Approvable s installationId (lowerCase input.requestId) (d.request.read dates) input payload ∧
      keyring.sign payload = .ok token := by
  unfold WorkerStore.signApproval at h
  cases hd : s.requests.find? (lowerCase input.requestId) with
  | none => simp [hd] at h
  | some d =>
  cases hn : s.attestations.entries.find? fun e =>
      e.2.requestNonce = lowerCase input.requestNonce with
  | some existing =>
    simp only [hd, hn, ite_error_eq_ok] at h
    cases h.2
  | none =>
  simp only [hd, hn, Except.bind_eq_ok, mapError_eq_ok] at h
  obtain ⟨payload', hpayload, token', hsign, h⟩ := h
  obtain ⟨rfl, rfl⟩ : payload' = payload ∧ token' = token := by simpa [pure, Except.pure] using h
  exact ⟨d, rfl, approvable_of_approvalPayload hpayload, hsign⟩

theorem commits_persistApprovalAttestation {keys : WorkerKeys} {attestationId : String}
    {a : PersistedApprovalAttestation} {s' : Store}
    (h : (WorkerStore.persistApprovalAttestation keyring dates policies keys attestationId
      installationId input).Commits s a s') :
    s' = s ∨ ∃ payload token,
      WorkerStore.signApproval keyring dates policies s installationId input =
        .ok (.inr (payload, token)) ∧
      (TenantRepository.persistApprovalAttestation attestationId
        (WorkerStore.attestationRow dates payload token
          (WorkerStore.approvalAuthorizationSnapshotHash keys payload))).Commits s () s' := by
  simp only [WorkerStore.persistApprovalAttestation, commits_bind, commits_get,
    commits_fromExcept] at h
  obtain ⟨_, _, ⟨rfl, rfl⟩, result, _, ⟨hsign, rfl⟩, h⟩ := h
  rcases result with existing | ⟨payload, token⟩
  · exact .inl (commits_pure.mp h).2
  · simp only [commits_bind, commits_onField, commits_pure] at h
    obtain ⟨_, _, ⟨s', hpersist, rfl⟩, -, rfl⟩ := h
    exact .inr ⟨payload, token, hsign, hpersist⟩

end Signing

-- The payload is the one of a request to persist an attestation.
structure Covers (input : PersistApprovalAttestationInput) (payload : ApprovalAttestationPayload) :
    Prop where
  requestId   : payload.requestId = lowerCase input.requestId
  account     : payload.stripeAccountId = input.stripeAccountId
  environment : payload.environment = input.environment
  resource    : payload.resourceType = input.resourceType ∧ payload.resourceId = input.resourceId
  amountMinor : payload.amountMinor = input.amountMinor
  currency    : normalizeCurrency input.currency = .ok payload.currency
  reason      : payload.reason = input.reason
  requester   : payload.requesterStripeUserId = input.requesterStripeUserId
  approver    : payload.approverStripeUserId = input.approverStripeUserId
  nonce       : payload.requestNonce = input.requestNonce
  hash        : payload.canonicalRequestHash = input.signedEnvelopeHash

theorem Approvable.covers {s : Store} {installationId : String} {request : RefundRequest}
    {input : PersistApprovalAttestationInput} {payload : ApprovalAttestationPayload}
    (h : Approvable s installationId (lowerCase input.requestId) request input payload) :
    Covers input payload := by
  have hresource := Prod.mk.inj (h.resource)
  rw [h.attested]
  exact {
    requestId   := rfl
    account     := rfl
    environment := rfl
    resource    := hresource
    amountMinor := h.amountMinor
    currency    := h.signedCurrency
    reason      := h.reason
    requester   := rfl
    approver    := rfl
    nonce       := rfl
    hash        := rfl
  }

-- A worker that attests approvals.
structure AttestingWorker where
  authority : StripeSignedRequestAuthority
  keys      : WorkerKeys
  keyring   : ApprovalAttestationKeyring

-- The envelope that the worker has accepted, with its hash and with what is to be persisted for it.
structure Accepts (worker : AttestingWorker) (request : SignedRequest) (hash : String)
    (envelope : SignedEnvelope) (input : PersistApprovalAttestationInput) : Prop where
  verified : worker.authority.verifyExact request = .ok (hash, envelope)
  input    : worker.authority.attestationInput request hash envelope = .ok input

-- The rows of a tenant with a ghost: the payloads that have been signed, each with the number of the
-- call for which it was.
structure ApprovalState where
  store  : Store
  signed : List (Nat × ApprovalAttestationPayload)

-- How the transaction of an attestation answers over a connection that can break. A transaction that
-- aborts may have signed its payload.
inductive Persists (m : Transaction AttestationFailure Store PersistedApprovalAttestation)
    (signed : List (Nat × ApprovalAttestationPayload)) (s : ApprovalState) :
    Except AttestationFailure PersistedApprovalAttestation → ApprovalState → Prop
  | committed {a store} :
    m.Commits s.store a store → Persists m signed s (.ok a) ⟨store, s.signed ++ signed⟩
  | lost {a store} :
    m.Commits s.store a store →
    Persists m signed s (.error .unexpected) ⟨store, s.signed ++ signed⟩
  | aborted {e} :
    m.Aborts s.store e → Persists m signed s (.error e) ⟨s.store, s.signed ++ signed⟩
  | unreachable : Persists m signed s (.error .unexpected) s

section Surroundings

variable (dates : DateConversion) (workers : Nat → AttestingWorker)
variable (requests : Nat → SignedRequest)

def newlySigned (i : Nat) (policies : Nat → Option Nat) (s : Store) (installationId : String)
    (input : PersistApprovalAttestationInput) : List (Nat × ApprovalAttestationPayload) :=
  match WorkerStore.signApproval (workers i).keyring dates policies s installationId input with
  | .ok (.inr (payload, _)) => [(i, payload)]
  | _                       => []

-- What happens around the calls of `attestApproval`: any transaction of the application, with the
-- keys of any worker.
def approvalSurroundings : Surroundings ApprovalState AuthorityFailure AuthorityCall.Reply
    WorkerSignedApprovalAttestation where
  starts i script := script = (workers i).authority.attestApproval (requests i)
  answers i s call :=
    match call with
    | .resolveInstallation accountId environment => fun r s' => s' = s ∧
      (r = WorkerStore.resolveInstallation s.store accountId environment ∨
        r = Except.error .unexpected)
    | .persist installationId input => fun r s' => ∃ policies attestationId,
      Persists
        (WorkerStore.persistApprovalAttestation (workers i).keyring dates policies (workers i).keys
          attestationId installationId input)
        (newlySigned dates workers i policies s.store installationId input) s r s'
  disturbs s s' :=
    s'.signed = s.signed ∧ ∃ keys, OperationStep keys (fun _ => True) s.store s'.store

abbrev Approvals :=
  Concurrent ApprovalState AuthorityFailure AuthorityCall.Reply WorkerSignedApprovalAttestation

-- A call only persists what it has verified.
def attestContract (i : Nat) : Contract AuthorityCall.Reply where
  rely _ _ _ := True
  guarantee _ call :=
    match call with
    | .resolveInstallation _ _ => True
    | .persist _ input         =>
      ∃ hash envelope, Accepts (workers i) (requests i) hash envelope input

end Surroundings

section Run

variable {dates : DateConversion} {workers : Nat → AttestingWorker}
variable {requests : Nat → SignedRequest}

theorem persistApprovalAttestation_meets {i : Nat} {t : List (Event AuthorityCall.Reply)}
    {hash : String} {envelope : SignedEnvelope} {input : PersistApprovalAttestationInput}
    (h : Accepts (workers i) (requests i) hash envelope input) :
    (PrismaWorkerStore.persistApprovalAttestation input).Meets (attestContract workers requests i)
      (fun _ _ => True) t := by
  have hpersist {installationId : String} {t : List (Event AuthorityCall.Reply)} :
      (AuthorityScript.persist installationId input).Meets (attestContract workers requests i)
        (fun _ _ => True) t :=
    meets_perform.mpr ⟨⟨hash, envelope, h⟩, fun _ _ => trivial⟩
  refine meets_bind.mpr (meets_perform.mpr ⟨trivial, fun r _ => ?_⟩)
  rcases r with failure | ⟨⟩ | ⟨installationId, status⟩
  case error => trivial
  case ok.none => trivial
  case ok.some =>
    simp only
    split_ifs
    · trivial
    · refine meets_bind.mpr (hpersist.mono fun t' result _ => ?_)
      cases result with
      | error _ => trivial
      | ok r    =>
        simp only
        split
        · exact hpersist
        · trivial

theorem attestApproval_meets {i : Nat} {t : List (Event AuthorityCall.Reply)} :
    ((workers i).authority.attestApproval (requests i)).Meets (attestContract workers requests i)
      (fun _ _ => True) t := by
  refine meets_bind.mpr (meets_fromExcept.mpr ?_)
  cases hverified : (workers i).authority.verifyExact (requests i) with
  | error _ => trivial
  | ok v    =>
  obtain ⟨hash, envelope⟩ := v
  refine meets_bind.mpr (meets_fromExcept.mpr ?_)
  cases hinput : (workers i).authority.attestationInput (requests i) hash envelope with
  | error _  => trivial
  | ok input =>
  refine meets_bind.mpr ((persistApprovalAttestation_meets ⟨hverified, hinput⟩).mono
    fun t' result _ => ?_)
  rcases result with _ | _ | persisted
  case error => trivial
  case ok.error => trivial
  case ok.ok =>
    simp only
    split_ifs <;> trivial

-- The store is sound, no nonce has two attestations, and every signed payload covers what a worker
-- has accepted.
structure Traced (workers : Nat → AttestingWorker) (requests : Nat → SignedRequest)
    (s : ApprovalState) : Prop where
  sound  : ApprovalsSound s.store
  nonces : s.store.NoncesUnique
  signed : ∀ i payload, (i, payload) ∈ s.signed →
    ∃ hash envelope input, Accepts (workers i) (requests i) hash envelope input ∧
      Covers input payload

theorem grows_of_operationStep {keys : WorkerKeys} {admits : Operation → Prop} {s s' : Store}
    (h : OperationStep keys admits s s') : Grows s s' := by
  obtain ⟨now, op, -, hc⟩ := h
  exact preserved_of_run (Grows s) (fun _ _ hs hchange => hs.trans hchange.grows)
    (op.within_run hc) (.refl s)

theorem Traced.disturbed {s s' : ApprovalState} {keys : WorkerKeys} {admits : Operation → Prop}
    (h : Traced workers requests s) (hsigned : s'.signed = s.signed)
    (hstep : OperationStep keys admits s.store s'.store) : Traced workers requests s' where
  sound  := h.sound.step hstep
  nonces := (grows_of_operationStep hstep).nonces h.nonces
  signed := by rw [hsigned]; exact h.signed

theorem mem_newlySigned {i j : Nat} {policies : Nat → Option Nat} {s : Store}
    {installationId : String} {input : PersistApprovalAttestationInput}
    {payload : ApprovalAttestationPayload}
    (h : (j, payload) ∈ newlySigned dates workers i policies s installationId input) :
    j = i ∧ Covers input payload := by
  unfold newlySigned at h
  split at h
  case h_1 payload' token hsign =>
    obtain ⟨rfl, rfl⟩ := Prod.mk.inj (List.mem_singleton.mp h)
    obtain ⟨d, -, happrovable, -⟩ := signed_of_signApproval hsign
    exact ⟨rfl, happrovable.covers⟩
  case h_2 => cases h

-- A payload that a call signs covers what the call has accepted.
theorem Traced.signing {i : Nat} {hash : String} {envelope : SignedEnvelope}
    {input : PersistApprovalAttestationInput} {policies : Nat → Option Nat}
    {installationId : String} {s : ApprovalState} (h : Traced workers requests s)
    (haccepts : Accepts (workers i) (requests i) hash envelope input) :
    Traced workers requests { s with
      signed := s.signed ++ newlySigned dates workers i policies s.store installationId input
    } where
  sound  := h.sound
  nonces := h.nonces
  signed j payload hm := by
    rcases List.mem_append.mp hm with hm | hm
    · exact h.signed j payload hm
    · obtain ⟨rfl, hcovers⟩ := mem_newlySigned hm
      exact ⟨hash, envelope, input, haccepts, hcovers⟩

theorem store_of_persists {i : Nat} {policies : Nat → Option Nat}
    {attestationId installationId : String} {input : PersistApprovalAttestationInput}
    {signed : List (Nat × ApprovalAttestationPayload)} {s s' : ApprovalState}
    {r : Except AttestationFailure PersistedApprovalAttestation}
    (h : Persists
      (WorkerStore.persistApprovalAttestation (workers i).keyring dates policies (workers i).keys
        attestationId installationId input) signed s r s') :
    s'.store = s.store ∨ ∃ keys, OperationStep keys (fun _ => True) s.store s'.store := by
  have hcommitted {a : PersistedApprovalAttestation} {store : Store}
      (hc : (WorkerStore.persistApprovalAttestation (workers i).keyring dates policies
        (workers i).keys attestationId installationId input).Commits s.store a store) :
      store = s.store ∨ ∃ keys, OperationStep keys (fun _ => True) s.store store := by
    rcases commits_persistApprovalAttestation hc with rfl | ⟨payload, token, -, hc⟩
    · exact .inl rfl
    · exact .inr ⟨(workers i).keys, 0, .persistApprovalAttestation attestationId _, trivial, hc⟩
  cases h with
  | committed hc => exact hcommitted hc
  | lost hc      => exact hcommitted hc
  | aborted _    => exact .inl rfl
  | unreachable  => exact .inl rfl

theorem Traced.persisted {i : Nat} {hash : String} {envelope : SignedEnvelope}
    {input : PersistApprovalAttestationInput} {policies : Nat → Option Nat}
    {attestationId installationId : String} {s s' : ApprovalState}
    {r : Except AttestationFailure PersistedApprovalAttestation}
    (h : Traced workers requests s)
    (haccepts : Accepts (workers i) (requests i) hash envelope input)
    (hpersists : Persists
      (WorkerStore.persistApprovalAttestation (workers i).keyring dates policies (workers i).keys
        attestationId installationId input)
      (newlySigned dates workers i policies s.store installationId input) s r s') :
    Traced workers requests s' := by
  have hsigned : s'.signed = s.signed ∨ s'.signed =
      s.signed ++ newlySigned dates workers i policies s.store installationId input := by
    cases hpersists with
    | unreachable => exact .inl rfl
    | _           => exact .inr rfl
  have hbefore : Traced workers requests { s with signed := s'.signed } := by
    rcases hsigned with hsigned | hsigned
    · exact hsigned ▸ h
    · exact hsigned ▸ h.signing haccepts
  rcases store_of_persists hpersists with hstore | ⟨keys, hstep⟩
  · exact ⟨hstore ▸ h.sound, hstore ▸ h.nonces, hbefore.signed⟩
  · exact hbefore.disturbed rfl hstep

theorem Traced.step {y y' : Approvals}
    (hmeets : y.Meets (attestContract workers requests) (fun _ _ _ => True))
    (h : Traced workers requests y.state)
    (hstep : Concurrent.Step (approvalSurroundings dates workers requests) y y') :
    Traced workers requests y'.state := by
  cases hstep with
  | started _ _ => exact h
  | @answered i c next r s' hi hr =>
    have haccepts := hmeets.guarantee hi
    cases c with
    | resolveInstallation accountId environment =>
      obtain ⟨rfl, -⟩ := hr
      exact h
    | persist installationId input =>
      obtain ⟨hash, envelope, haccepts⟩ := haccepts
      obtain ⟨policies, attestationId, hpersists⟩ := hr
      exact h.persisted haccepts hpersists
  | disturbed hdisturbs =>
    obtain ⟨hsigned, keys, hstep⟩ := hdisturbs
    exact h.disturbed hsigned hstep

-- A tenant before its first request and its first attestation, with nothing signed.
structure ApprovalState.Initial (s : ApprovalState) : Prop where
  store        : s.store.Initial
  attestations : s.store.attestations = .empty
  signed       : s.signed = []

theorem ApprovalState.Initial.traced {s : ApprovalState} (h : s.Initial) :
    Traced workers requests s where
  sound  := ⟨h.store.sound, by simp [h.store.requests], by simp [h.store.requests]⟩
  nonces := by simp [Store.NoncesUnique, h.attestations]
  signed := by simp [h.signed]

theorem traced_of_run {y₀ y : Approvals} (hidle : y₀.Idle) (hinitial : y₀.state.Initial)
    (hrun : ReflTransGen (Concurrent.Step (approvalSurroundings dates workers requests)) y₀ y) :
    Traced workers requests y.state := by
  have hboth : y.Meets (attestContract workers requests) (fun _ _ _ => True) ∧
      Traced workers requests y.state := by
    refine Concurrent.meets_of_run (fun y => Traced workers requests y.state) ?_ ?_ ?_ hidle
      hinitial.traced hrun
    · rintro i p rfl
      exact attestApproval_meets
    · exact fun _ _ _ _ _ _ _ => trivial
    · exact fun y y' hmeets h hstep => h.step hmeets hstep
  exact hboth.2

end Run
end RefundDesk
