import RefundDesk.Repositories.Approvals
import RefundDesk.Worker.Revisions

namespace RefundDesk

open Transaction Relation RequestRepository TenantRepository WorkerStore

section Reachable

variable {keys : WorkerKeys} {admits : Operation → Prop} {s s' : Store} {id : String}
variable {d : RefundRequestDetail}

-- The requests of a store whose versions and decisions are accounted for.
structure ApprovalsSound (s : Store) : Prop where
  sound     : StoreSound s
  revisions : ∀ id d, s.requests.find? id = some d → RevisionsAccounted d
  decisions : ∀ id d, s.requests.find? id = some d → DecisionsSound s id d

theorem ApprovalsSound.step (h : ApprovalsSound s) (hstep : OperationStep keys admits s s') :
    ApprovalsSound s' := by
  refine ⟨h.sound.step hstep, RevisionsAccounted.step h.sound hstep h.revisions, ?_⟩
  obtain ⟨now, op, -, hc⟩ := hstep
  by_cases hop : ∃ requestId decision time, op = .recordDecision requestId decision time
  · obtain ⟨requestId, decision, time, rfl⟩ := hop
    obtain ⟨r, hc, -⟩ := (commits_map _).mp hc
    refine DecisionsSound.recordDecision (fun id d hd hw => ?_) hc h.decisions
    have hrequest := h.sound.requests id d hd
    have hunclaimed := hrequest.unclaimed (by simp [hw])
    exact ⟨hrequest.coherent.unstarted (by simp [hw]), (h.revisions id d hd).version_of_pending hw
      (by simp [RefundRequestDetail.linkedRefundId, hunclaimed])⟩
  · refine preserved_of_run
      (fun s => ∀ id d, s.requests.find? id = some d → DecisionsSound s id d)
      (fun _ _ hs hchange => ?_) (op.within_run hc) h.decisions
    refine DecisionsSound.change hchange (fun id d call b hcall => ?_) hs
    rintro attestation accountId decision time rfl
    cases op <;> simp_all [Operation.calls, ObservationCall, ResolutionCall, protectiveCalls]

theorem Reachable.approvals (h : Reachable keys admits s) : ApprovalsSound s := by
  obtain ⟨s₀, h₀, hrun⟩ := h
  refine preserved_of_run ApprovalsSound (fun _ _ hs hstep => hs.step hstep) hrun ?_
  exact ⟨h₀.sound, by simp [h₀.requests], by simp [h₀.requests]⟩

-- The attestation of a request that can be executed is compatible with the version that the
-- request has after all the attempts, failures and resumptions of its run, and with no other.
theorem attested_version_exact {decision : ApprovalDecision} {attestation : ApprovalAttestation}
    (h : Reachable keys admits s) (hd : s.requests.find? id = some d)
    (hdecision : decision ∈ d.decisions) (happrove : decision.decision = .approve)
    (ha : decision.approvalAttestationId.bind s.attestations.find? = some attestation)
    (hw : d.request.workflowStatus ∈ [.approved, .executing]) (hlink : d.linkedRefundId = none) :
    approvalAttestationRequestVersionIsCompatible d.request d.execution
        attestation.requestVersion = true ∧
      ∀ version, version ≠ d.request.version →
        approvalAttestationRequestVersionIsCompatible { d.request with version } d.execution
          attestation.requestVersion = false := by
  have hsound := h.approvals
  obtain ⟨attestationId, evidence, he⟩ := (hsound.decisions id d hd).evidence decision hdecision happrove
  obtain rfl : attestation = evidence := by
    simpa [he.referenced, he.stored] using ha.symm
  have hiff (version : Nat) : approvalAttestationRequestVersionIsCompatible
      { d.request with version } d.execution 0 ↔ version = d.request.version :=
    (hsound.revisions id d hd).isCompatible_iff hw hlink
  rw [he.version]
  exact ⟨(hiff d.request.version).mpr rfl, fun version hne => by simpa [hne] using hiff version⟩

end Reachable

namespace Pilot

-- The first attempt fails, the second one is lost, and a scan proves that it had no effect.
def resumed : List (Timestamp × Operation) :=
  attempted ++ [
    (5000, .recordRetryableAttemptFailure {
      requestId, attemptNumber := 1, errorCode := "rate_limit", time := 5000
    }),
    (6000, .persistEffectBoundary requestId idempotencyKey 6000),
    (7000, .recordReconciliationRequired requestId),
    (9500, .commitReconciliationCheckpoint {
      installationId    := "i"
      previousWindowEnd := none
      window            := { start := 0, stop := 9000 }
      completedAt       := 9500
    })
  ]

def isResumed (s : Store) : Bool :=
  (s.requests.find? requestId).any fun d =>
    d.request.workflowStatus = .executing ∧ d.linkedRefundId = none ∧ approval ∈ d.decisions ∧
      s.attestations.find? "a" = some attestation ∧ d.request.version = 8

theorem resumed_of_runs : ∃ s d, Reachable keys (fun _ => True) s ∧
    s.requests.find? requestId = some d ∧ d.request.workflowStatus = .executing ∧
    d.linkedRefundId = none ∧ approval ∈ d.decisions ∧
    s.attestations.find? "a" = some attestation ∧ d.request.version = 8 := by
  have hruns : Store.pilot.runs keys resumed isResumed := by decide +kernel
  obtain ⟨s, hreach, -, hs⟩ := Reachable.of_runs Store.pilot_initial hruns
  obtain ⟨d, hd, hs⟩ := (Option.any_eq_true _ _).mp hs
  obtain ⟨hw, hlink, hdecision, ha, hv⟩ := of_decide_eq_true hs
  exact ⟨s, d, hreach, hd, hw, hlink, hdecision, ha, hv⟩

end Pilot

theorem attested_version_exact_resumed : ∃ s d, Reachable Pilot.keys (fun _ => True) s ∧
    s.requests.find? Pilot.requestId = some d ∧ d.request.version = 8 ∧
    approvalAttestationRequestVersionIsCompatible d.request d.execution 0 = true ∧
    approvalAttestationRequestVersionIsCompatible { d.request with version := 9 } d.execution 0 =
      false := by
  obtain ⟨s, d, hreach, hd, hw, hlink, hdecision, ha, hv⟩ := Pilot.resumed_of_runs
  obtain ⟨htrue, hfalse⟩ := attested_version_exact hreach hd hdecision rfl ha (by simp [hw]) hlink
  exact ⟨s, d, hreach, hd, hv, htrue, hfalse 9 (by simp [hv])⟩
end RefundDesk
