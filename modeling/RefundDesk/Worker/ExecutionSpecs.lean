import RefundDesk.Worker.Footprints

namespace RefundDesk

open Transaction Relation RequestRepository TenantRepository WorkerStore

section Load

variable {keys : WorkerKeys} {now time : Timestamp} {requestId : String} {s s' : Store}
variable {item : ExecutionWorkItem} {record : RefundExecutionRecord}

-- The work item behind a record that is loaded.
structure LoadedItem (keys : WorkerKeys) (s : Store) (requestId : String)
    (item : ExecutionWorkItem) (record : RefundExecutionRecord) : Prop where
  read   : (getExecutionWorkItem requestId).Commits s (some item) s
  valid  : approvalAttestationIsValid keys item = .ok true
  charge : ∃ chargeId, item.request.chargeId = some chargeId ∧
    record = executionRecord item chargeId

theorem record_of_loadClaimedExecution
    (h : (loadClaimedExecution keys now item).Commits s (some record) s') :
    s' = s ∧ approvalAttestationIsValid keys item = .ok true ∧
      ∃ chargeId, item.request.chargeId = some chargeId ∧
        record = executionRecord item chargeId := by
  simp only [loadClaimedExecution, fromDomain, commits_bind, commits_fromExcept, commits_ite,
    mapError_eq_ok] at h
  obtain ⟨valid, _, ⟨hvalid, rfl⟩, ⟨-, h⟩ | ⟨hguard, h⟩⟩ := h
  case inl => cases (commits_pure.mp h).1
  case inr =>
    simp only [not_or, Bool.not_eq_false] at hguard
    obtain rfl := hguard.2.1
    cases hcharge : item.request.chargeId with
    | none => simp [hcharge] at h
    | some chargeId =>
      simp only [hcharge, commits_bind, commits_fromExcept, commits_ite, commits_pure] at h
      obtain ⟨_, _, ⟨-, rfl⟩, ⟨-, _, _, -, h, -⟩ | ⟨-, h, rfl⟩⟩ := h
      · cases h
      · exact ⟨rfl, hvalid, chargeId, rfl, Option.some.inj h⟩

theorem attestations_of_onRequest {α : Type} {m : TriggerEnv → RequestTransaction α} {r : Option α}
    (h : (onRequest now requestId m).Commits s r s') : s'.attestations = s.attestations := by
  rcases commits_onRequest.mp h with ⟨-, -, rfl⟩ | ⟨_, _, _, -, -, -, rfl⟩ <;> rfl

theorem read_of_claimExecutionWorkItem
    (h : (claimExecutionWorkItem now requestId time).Commits s (some item) s') :
    s'.attestations = s.attestations ∧
      (getExecutionWorkItem requestId).Commits s' (some item) s' := by
  simp only [claimExecutionWorkItem, commits_bind, commits_get, commits_ite, commits_pure] at h
  obtain ⟨_, _, ⟨rfl, rfl⟩, _, _, hclaim, ⟨-, h⟩ | ⟨-, h, -⟩⟩ := h
  · obtain rfl := frame_getExecutionWorkItem h
    exact ⟨attestations_of_onRequest hclaim, h⟩
  · cases h

theorem loadedItem_of_loadRefundExecution
    (h : (loadRefundExecution keys now requestId time).Commits s (some record) s') :
    s'.attestations = s.attestations ∧ ∃ item, LoadedItem keys s' requestId item record := by
  simp only [loadRefundExecution, commits_bind] at h
  obtain ⟨found, _, hread, h⟩ := h
  obtain rfl := frame_getExecutionWorkItem hread
  cases found with
  | none => cases (commits_pure.mp h).1
  | some item =>
    simp only [commits_ite, commits_bind, commits_pure, lockExecutionAuthorization, commits_get,
      fromDomain, commits_fromExcept] at h
    obtain ⟨-, h, -⟩ | ⟨-, _, _, ⟨_, _, ⟨rfl, rfl⟩, -, rfl⟩, ⟨-, h, -⟩ | ⟨-, _, _, ⟨-, rfl⟩, h⟩⟩ := h
    · cases h
    · cases h
    rcases h with ⟨-, ⟨-, _, _, -, h, -⟩ | ⟨-, h, -⟩⟩ |
      ⟨-, ⟨-, claimed, s₁, hclaim, h⟩ | ⟨-, _, _, ⟨rfl, rfl⟩, h⟩⟩
    · cases h
    · cases h
    · cases claimed with
      | none => cases (commits_pure.mp h).1
      | some item =>
        obtain ⟨rfl, hvalid, hcharge⟩ := record_of_loadClaimedExecution h
        obtain ⟨hattestations, hread⟩ := read_of_claimExecutionWorkItem hclaim
        exact ⟨hattestations, item, hread, hvalid, hcharge⟩
    · obtain ⟨rfl, hvalid, hcharge⟩ := record_of_loadClaimedExecution h
      exact ⟨rfl, item, hread, hvalid, hcharge⟩

theorem payload_of_valid (h : approvalAttestationIsValid keys item = .ok true) :
    ∃ payload attestation,
      approvalPayloadFromExecutionItem item = .ok (some (payload, attestation)) ∧
      attestation.authorizationSnapshotHash = approvalAuthorizationSnapshotHash keys payload ∧
      keys.verifyApprovalAttestation payload attestation.hmacKeyVersion attestation.hmac = true := by
  simp only [approvalAttestationIsValid, Except.bind_eq_ok] at h
  obtain ⟨found, hfound, h⟩ := h
  cases found with
  | none => simp [pure, Except.pure] at h
  | some found =>
    obtain ⟨payload, attestation⟩ := found
    simp only [pure, Except.pure, Except.ok.injEq, Bool.and_eq_true, decide_eq_true_eq] at h
    exact ⟨payload, attestation, hfound, h.1, h.2⟩

end Load
end RefundDesk
