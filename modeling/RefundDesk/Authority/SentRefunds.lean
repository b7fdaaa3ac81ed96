import RefundDesk.Authority.Binding
import RefundDesk.Worker.ExecutionRuns

namespace RefundDesk

open Transaction Relation RequestRepository TenantRepository WorkerStore

-- The only decision of the request is the approval of another user. It has consumed the attestation,
-- whose payload the keys verify and which names what is executed.
structure Approves (keys : WorkerKeys) (s : Store) (record : RefundExecutionRecord)
    (d : RefundRequestDetail) (decision : ApprovalDecision) (attestation : ApprovalAttestation)
    (payload : ApprovalAttestationPayload) : Prop where
  found          : s.requests.find? record.requestId = some d
  only           : d.decisions = [decision]
  approved       : decision.decision = .approve
  consumed       : decision.approvalAttestationId.bind s.attestations.find? = some attestation
  verified       : keys.verifyApprovalAttestation payload attestation.hmacKeyVersion attestation.hmac
  approver       : payload.approverUserId = decision.approverUserId
  requester      : payload.requesterUserId = d.request.requesterUserId
  distinct       : decision.approverUserId ≠ d.request.requesterUserId
  approverUser   : (s.users.find? decision.approverUserId).map (·.stripeUserId) =
    some payload.approverStripeUserId
  requesterUser  : (s.users.find? d.request.requesterUserId).map (·.stripeUserId) =
    some payload.requesterStripeUserId
  distinctStripe : payload.approverStripeUserId ≠ payload.requesterStripeUserId
  tenantId       : payload.tenantId = record.tenantId
  requestId      : payload.requestId = record.requestId
  account        : payload.stripeAccountId = record.stripeAccountId
  environment    : payload.environment = record.environment
  resource       : (payload.resourceType, payload.resourceId) =
    (record.resourceType, record.resourceId)
  amountMinor    : payload.amountMinor = record.amountMinor
  currency       : normalizeCurrency record.currency = .ok payload.currency
  reason         : payload.reason = record.reason

section Approves

variable {keys : WorkerKeys} {s s' : Store} {record : RefundExecutionRecord} {requestId : String}
variable {item : ExecutionWorkItem} {d : RefundRequestDetail} {decision : ApprovalDecision}
variable {attestation : ApprovalAttestation} {payload : ApprovalAttestationPayload}

theorem approves_of_loaded (hsound : ApprovalsSound s)
    (hloaded : LoadedItem keys s requestId item record) :
    ∃ d decision attestation payload, Approves keys s record d decision attestation payload := by
  obtain ⟨d, decision, approver, attestationId, attestation, payload, hby, hitem, hrebuilt, -,
    hverify⟩ := approvedBy_of_loaded hsound hloaded
  obtain ⟨chargeId, hcharge, hrecord⟩ := hloaded.charge
  obtain rfl : payload.chargeId = chargeId := Option.some.inj (hrebuilt.charge.symm.trans hcharge)
  subst hrecord
  have hpayload := hrebuilt.payload
  refine ⟨d, decision, attestation, payload, {
    found          := hby.found
    only           := hby.only
    approved       := hby.approved
    consumed       := hby.consumed
    verified       := hverify
    distinct       := hby.distinct
    currency       := hrebuilt.currency
    approver       := by rw [hpayload]
    requester      := by rw [hpayload, ← hitem.request]
    approverUser   := by rw [hby.approves, hpayload]; rfl
    requesterUser  := by rw [hby.requests, hpayload]; rfl
    distinctStripe := by rw [hpayload]; exact hby.distinctStripe
    tenantId       := by rw [hpayload]; rfl
    requestId      := by rw [hpayload]; rfl
    account        := by rw [hpayload]; rfl
    environment    := by rw [hpayload]; rfl
    resource       := by rw [hpayload]; rfl
    amountMinor    := by rw [hpayload]; rfl
    reason         := by rw [hpayload]; rfl
  }⟩

-- An approval stays what it is, since a request is decided once.
theorem Approves.kept (h : Approves keys s record d decision attestation payload)
    (hsound : ApprovalsSound s') (hgrows : Grows s s')
    (hkept : ∃ d', s'.requests.find? record.requestId = some d' ∧ d.decisions <+: d'.decisions ∧
      d'.request.financialSnapshot = d.request.financialSnapshot) :
    ∃ d', Approves keys s' record d' decision attestation payload := by
  obtain ⟨d', hd', hprefix, hsnapshot⟩ := hkept
  have honly : d'.decisions = [decision] := by
    obtain ⟨more, hmore⟩ := hprefix
    have hsingle := (hsound.decisions _ d' hd').single
    rw [h.only] at hmore
    rw [← hmore] at hsingle ⊢
    simpa using hsingle
  have hrequester : d'.request.requesterUserId = d.request.requesterUserId :=
    congrArg (·.requesterUserId) hsnapshot
  obtain ⟨attestationId, hreferenced, hstored⟩ := Option.bind_eq_some_iff.mp h.consumed
  exact ⟨d', { h with
    found         := hd'
    only          := honly
    consumed      := by
      rw [hreferenced]
      exact hgrows.attestations attestationId attestation hstored
    requester     := hrequester ▸ h.requester
    distinct      := hrequester ▸ h.distinct
    approverUser  := (hgrows.identities _).trans h.approverUser
    requesterUser := by rw [hrequester, hgrows.identities, h.requesterUser]
  }⟩

theorem Approves.step {admits : Operation → Prop} {keys' : WorkerKeys}
    (h : Approves keys s record d decision attestation payload) (hsound : ApprovalsSound s')
    (hstep : OperationStep keys' admits s s') :
    ∃ d', Approves keys s' record d' decision attestation payload := by
  obtain ⟨now, op, -, hc⟩ := hstep
  refine h.kept hsound (Store.kept_of_run hc).grows ?_
  refine preserved_of_run (fun s' => ∃ d', s'.requests.find? record.requestId = some d' ∧
    d.decisions <+: d'.decisions ∧ d'.request.financialSnapshot = d.request.financialSnapshot) ?_
    (op.within_run hc) ⟨d, h.found, List.prefix_rfl, rfl⟩
  rintro s₁ s₂ ⟨d₁, hd₁, hprefix, hsnapshot⟩ hchange
  obtain ⟨d₂, hd₂, hprefix', hsnapshot'⟩ := hchange.decisions_kept hd₁
  exact ⟨d₂, hd₂, hprefix.trans hprefix', hsnapshot'.trans hsnapshot⟩

end Approves

-- The records that the jobs have been given are approved.
structure LoadsApproved (jobs : ExecutionJobs) (y : Executions) : Prop where
  sound    : ApprovalsSound y.state
  approved : ∀ i e record, (i, e) ∈ y.events → Loads record e →
    ∃ d decision attestation payload,
      Approves (jobs.keys i) y.state record d decision attestation payload

section Runs

variable {jobs : ExecutionJobs} {y y' : Executions} {i : Nat} {s s' : Store}

theorem step_of_commits {α : Type} {m : StoreTransaction α} {op : Operation} {keys : WorkerKeys}
    {now : Timestamp} {r : Except StoreError α}
    (hop : ∀ ⦃a s'⦄, m.Commits s a s' → (op.run keys now).Commits s () s') (h : m.Answers s r s') :
    s' = s ∨ ∃ keys, OperationStep keys (fun _ => True) s s' := by
  rcases h.commits_or_eq with ⟨a, hc⟩ | rfl
  · exact .inr ⟨keys, now, op, trivial, hop hc⟩
  · exact .inl rfl

-- An answer leaves the store alone or comes with a transaction of the application.
theorem step_of_answers {c : ExecutionCall} {r : c.Reply}
    (h : (executionSurroundings jobs).answers i s c r s') :
    s' = s ∨ ∃ keys, OperationStep keys (fun _ => True) s s' := by
  cases c with
  | loadRefundExecution requestId =>
    obtain ⟨now, time, h⟩ := h
    have hrun ⦃r : Option RefundExecutionRecord⦄ ⦃s' : Store⦄
        (hc : (loadRefundExecution (jobs.keys i) now requestId time).Commits s r s') :
        ((Operation.loadRefundExecution requestId time).run (jobs.keys i) now).Commits s () s' :=
      (commits_map _).mpr ⟨r, hc, rfl⟩
    exact step_of_commits hrun h
  | persistEffectBoundary requestId key time =>
    obtain ⟨now, h⟩ := h
    have hrun ⦃r : EffectBoundaryDecision⦄ ⦃s' : Store⦄
        (hc : (persistEffectBoundary (jobs.keys i) now requestId key time).Commits s r s') :
        ((Operation.persistEffectBoundary requestId key time).run (jobs.keys i) now).Commits s ()
          s' :=
      (commits_map _).mpr ⟨r, hc, rfl⟩
    exact step_of_commits hrun h
  | record outcome =>
    obtain ⟨now, h⟩ := h
    exact step_of_commits (fun _ _ hc => hc) h
  | _ => exact .inl h

theorem LoadsApproved.moved (h : LoadsApproved jobs y)
    (hstep : s' = y.state ∨ ∃ keys, OperationStep keys (fun _ => True) y.state s') :
    LoadsApproved jobs { y with state := s' } := by
  rcases hstep with rfl | ⟨keys, hstep⟩
  · exact h
  · have hsound := h.sound.step hstep
    refine ⟨hsound, fun i e record he hload => ?_⟩
    obtain ⟨d, decision, attestation, payload, happroves⟩ := h.approved i e record he hload
    obtain ⟨d', happroves'⟩ := happroves.step hsound hstep
    exact ⟨d', decision, attestation, payload, happroves'⟩

theorem LoadsApproved.step (h : LoadsApproved jobs y)
    (hstep : Concurrent.Step (executionSurroundings jobs) y y') : LoadsApproved jobs y' := by
  cases hstep with
  | started _ _   => exact ⟨h.sound, h.approved⟩
  | disturbed hd  => exact h.moved (.inr hd)
  | @answered i c next r s' _ ha =>
    have hmoved := h.moved (step_of_answers ha)
    refine ⟨hmoved.sound, fun j e record he hload => ?_⟩
    rcases List.mem_append.mp he with he | he
    · exact hmoved.approved j e record he hload
    · obtain ⟨rfl, rfl⟩ := Prod.mk.inj (List.mem_singleton.mp he)
      cases c with
      | loadRefundExecution requestId =>
        obtain ⟨now, time, ha⟩ := ha
        obtain rfl : r = _ := hload
        cases ha with
        | committed hc =>
          obtain ⟨-, item, hitem⟩ := loadedItem_of_loadRefundExecution hc
          exact approves_of_loaded hmoved.sound hitem
      | _ => exact hload.elim

-- No refund is asked for without the approval of another user: whatever has been sent to Stripe is
-- what the payload says that the worker has verified against the consumed attestation.
theorem sent_refunds_approved {keys : WorkerKeys} {admits : Operation → Prop}
    {input : CreateRefundInput} (hidle : y.Idle) (hs : Reachable keys admits y.state)
    (hrun : ReflTransGen (Concurrent.Step (executionSurroundings jobs)) y y')
    (hsent : Sent y' i input) :
    ∃ record d decision attestation payload,
      Approves (jobs.keys i) y'.state record d decision attestation payload ∧
      ∃ proof, input = record.createRefundInput proof input.idempotencyKey := by
  have happroved : LoadsApproved jobs y' :=
    preserved_of_run (LoadsApproved jobs) (fun _ _ hy hstep => hy.step hstep) hrun
      ⟨hs.approvals, by simp [hidle.2]⟩
  obtain ⟨e, he, hsends⟩ := hsent
  obtain ⟨record, proof, key, n, ⟨l, hl, hload⟩, -, -, -, rfl⟩ :=
    (JobsSound.of_run hidle hrun).prepared i e input he hsends
  obtain ⟨d, decision, attestation, payload, happroves⟩ :=
    happroved.approved i l record (Concurrent.mem_eventsOf.mp hl) hload
  exact ⟨record, d, decision, attestation, payload, happroves, proof, rfl⟩

end Runs

namespace Pilot

theorem approvedStore_reachable : Reachable keys (fun _ => True) approvedStore := by
  have hruns : Store.pilot.runs keys (attempted.take 3) (fun _ => true) = true := by decide +kernel
  obtain ⟨s, hs, hafter, -⟩ := Reachable.of_runs Store.pilot_initial hruns
  have hsame : approvedStore = s := by rw [approvedStore, hafter]
  exact hsame ▸ hs

-- Both workers have sent the refund of the approved request.
theorem sent_refunds_approved_rotated :
    ∃ y : Executions, (∃ input, Sent y 0 input) ∧ (∃ input, Sent y 1 input) ∧
      ∀ i input, Sent y i input → ∃ record d decision attestation payload,
        Approves keys y.state record d decision attestation payload ∧
        ∃ proof, input = record.createRefundInput proof input.idempotencyKey := by
  obtain ⟨y, proof, proof', hrun, -, -, -, hsent, hsent'⟩ := execution_run
  have hidle : unsent.Idle := ⟨fun _ => rfl, rfl⟩
  exact ⟨y, ⟨_, hsent⟩, ⟨_, hsent'⟩,
    fun i input hinput => sent_refunds_approved hidle approvedStore_reachable hrun hinput⟩

end Pilot
end RefundDesk
