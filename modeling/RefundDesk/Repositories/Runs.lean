import RefundDesk.Repositories.Changes
import RefundDesk.Repositories.Resolution

namespace RefundDesk

open Transaction Relation RequestRepository TenantRepository

namespace Frame

theorem refl (s : Store) : Frame s s :=
  ⟨rfl, rfl, rfl, rfl, fun _ => rfl, fun _ h => h, fun _ => rfl, fun _ => rfl, fun _ _ h => h, id⟩

-- An installation changes without its environment and its account.
theorem of_installation {s : Store} {id : String} {installation installation' : StripeInstallation}
    {tenant : Tenant} (hi : s.installations.find? id = some installation)
    (he : installation'.environment = installation.environment)
    (ha : installation'.stripeAccountId = installation.stripeAccountId) :
    Frame s { s with tenant, installations := s.installations.insert id installation' } where
  tenantId           := rfl
  requests           := rfl
  alerts             := rfl
  checkpoints        := rfl
  users _ h          := h
  identities _       := rfl
  attestations _ _ h := h
  nonces h           := h
  installations id' := by
    rw [Table.find?_insert]
    split_ifs with hid
    · simp [hid, hi, he]
    · rfl
  accounts id' := by
    rw [Table.find?_insert]
    split_ifs with hid
    · simp [hid, hi, ha]
    · rfl

theorem of_eq {s s' : Store} (hid : s'.tenantId = s.tenantId) (hr : s'.requests = s.requests)
    (ha : s'.alerts = s.alerts) (hc : s'.checkpoints = s.checkpoints)
    (hi : s'.installations = s.installations) (hu : s'.users = s.users)
    (hatt : s'.attestations = s.attestations) : Frame s s' :=
  ⟨hid, hr, ha, hc, fun _ => by rw [hi], fun _ h => by rwa [hu], fun _ => by rw [hi],
    fun _ => by rw [hu], fun _ _ h => by rwa [hatt], fun h => by rwa [Store.NoncesUnique, hatt]⟩

end Frame

namespace TenantRepository

variable {α : Type} {now : Timestamp} {footprint : Footprint} {s s' : Store}

theorem within_of_frame {m : StoreTransaction α} (h : ∀ ⦃s a s'⦄, m.Commits s a s' → Frame s s') :
    Within (Change now footprint) m :=
  fun _ _ _ hc => .single (.frame (h hc))

theorem commits_onRequest {requestId : String} {m : TriggerEnv → RequestTransaction α}
    {r : Option α} :
    (onRequest now requestId m).Commits s r s' ↔
      (s.requests.find? requestId = none ∧ r = none ∧ s' = s) ∨
      ∃ d a d', s.requests.find? requestId = some d ∧
        (m (s.triggerEnv now requestId d.request)).Commits d a d' ∧ r = some a ∧
        s' = s.putRequest requestId d' := by
  simp [onRequest, commits_onPart, and_assoc]

theorem within_onRequest {requestId : String} {m : TriggerEnv → RequestTransaction α}
    (h : ∀ env : TriggerEnv, env.requestId = requestId →
      Within (CallStep env (footprint requestId)) (m env)) :
    Within (Change now footprint) (onRequest now requestId m) := by
  intro s r s' hc
  rcases commits_onRequest.mp hc with ⟨_, _, rfl⟩ | ⟨d, a, d', hd, hm, _, rfl⟩
  · exact .refl
  · exact .single (.request hd (h _ rfl hm))

-- What holds of the rows of every request still does.
def Keeps (P : RefundRequestDetail → Prop) (s s' : Store) : Prop :=
  (∀ id d, s.requests.find? id = some d → P d) → ∀ id d, s'.requests.find? id = some d → P d

theorem within_onRequest_keeps {P : RefundRequestDetail → Prop} {requestId : String}
    {m : TriggerEnv → RequestTransaction α}
    (h : ∀ env d a d', (m env).Commits d a d' → P d → P d') :
    Within (Keeps P) (onRequest now requestId m) := by
  intro s r s' hc
  rcases commits_onRequest.mp hc with ⟨_, _, rfl⟩ | ⟨d, a, d', hd, hm, _, rfl⟩
  · exact .refl
  · refine .single fun hs id d₁ hd₁ => ?_
    simp only [Store.putRequest, Table.find?_insert] at hd₁
    split_ifs at hd₁
    · obtain rfl := Option.some.inj hd₁
      exact h _ d a d' hm (hs requestId d hd)
    · exact hs id d₁ hd₁

theorem within_call {env : TriggerEnv} {call : RequestCall}
    {allowed : RefundRequestDetail → RequestCall → Bool → Prop}
    (h : ∀ d b d', (call.run env).Commits d b d' → allowed d call b) :
    Within (CallStep env allowed) (call.run env) :=
  fun _ _ _ hc => .single ⟨call, _, h _ _ _ hc, RequestCall.outcome_of_run hc⟩

section Frames

theorem frame_getExecutionWorkItem {requestId : String} {item : Option ExecutionWorkItem}
    (h : (getExecutionWorkItem requestId).Commits s item s') : s' = s := by
  simp only [getExecutionWorkItem, commits_bind, commits_get] at h
  obtain ⟨_, _, ⟨rfl, rfl⟩, h⟩ := h
  split at h
  case h_1 => exact (commits_pure.mp h).2
  case h_2 =>
    split at h
    case h_1 => exact (not_commits_throw h).elim
    case h_2 => exact (not_commits_throw h).elim
    case h_3 =>
      simp only [commits_bind, commits_fromExcept, commits_pure] at h
      obtain ⟨_, _, ⟨_, rfl⟩, _, rfl⟩ := h
      rfl

theorem frame_persistApprovalAttestation {attestationId : String} {row : ApprovalAttestation}
    {u : Unit} (h : (persistApprovalAttestation attestationId row).Commits s u s') : Frame s s' := by
  simp only [persistApprovalAttestation, commits_bind, commits_get, commits_require,
    commits_set] at h
  obtain ⟨_, _, ⟨rfl, rfl⟩, _, _, ⟨hfresh, rfl⟩, _, s, ⟨hnonce, rfl⟩, rfl⟩ := h
  refine ⟨rfl, rfl, rfl, rfl, fun _ => rfl, fun _ h => h, fun _ => rfl, fun _ => rfl,
    fun id row' hf => ?_, fun hunique => ?_⟩
  · rw [Table.find?_insert_ne, hf]
    rintro rfl
    simp [hf] at hfresh
  · have hother {id : String} {row' : ApprovalAttestation}
        (hf : s.attestations.find? id = some row') : row'.requestNonce ≠ row.requestNonce :=
      hnonce (id, row') (Table.mem_entries_iff.mpr hf)
    intro id id' row₁ row₂ h₁ h₂ heq
    simp only [Table.find?_insert] at h₁ h₂
    split_ifs at h₁ h₂ with hid hid' hid'
    · exact hid.trans hid'.symm
    · obtain rfl := Option.some.inj h₁
      exact (hother h₂ heq.symm).elim
    · obtain rfl := Option.some.inj h₂
      exact (hother h₁ heq).elim
    · exact hunique id id' row₁ row₂ h₁ h₂ heq

theorem frame_setApproverEnabled {userId : String} {enabled b : Bool}
    (h : (setApproverEnabled userId enabled).Commits s b s') : Frame s s' := by
  simp only [setApproverEnabled, commits_bind, commits_get] at h
  obtain ⟨_, _, ⟨rfl, rfl⟩, h⟩ := h
  split at h
  case h_1 =>
    obtain ⟨_, rfl⟩ := commits_pure.mp h
    exact .refl _
  case h_2 user hu =>
    simp only [commits_bind, commits_set, commits_pure] at h
    obtain ⟨_, _, rfl, _, rfl⟩ := h
    refine ⟨rfl, rfl, rfl, rfl, fun _ => rfl, fun id hid => ?_, fun _ => rfl, fun id => ?_,
      fun _ _ h => h, id⟩
    · simp only [Table.find?_insert]
      split_ifs
      · rfl
      · exact hid
    · rw [Table.find?_insert]
      split_ifs with hid
      · simp [hid, hu]
      · rfl

theorem frame_provisionWebhookInstallation {installationId eventId : String}
    {eventCreatedAt : Timestamp} {b : Bool}
    (h : (provisionWebhookInstallation installationId eventId eventCreatedAt).Commits s b s') :
    Frame s s' := by
  simp only [provisionWebhookInstallation, commits_bind, commits_get] at h
  obtain ⟨_, _, ⟨rfl, rfl⟩, h⟩ := h
  split at h
  case h_1 => exact (not_commits_throw h).elim
  case h_2 installation hi =>
    simp only [commits_ite, commits_bind, commits_set, commits_pure] at h
    rcases h with ⟨_, _, _, rfl, _, rfl⟩ | ⟨_, _, rfl⟩
    · exact .of_installation hi rfl rfl
    · exact .refl _

theorem frame_insertWebhookReceipt {receiptId : String} {data : WebhookReceipt} {b : Bool}
    (h : (insertWebhookReceipt receiptId data).Commits s b s') : Frame s s' := by
  simp only [insertWebhookReceipt, commits_bind, commits_get, commits_fromExcept, commits_ite,
    commits_require, commits_set, commits_pure] at h
  obtain ⟨_, _, ⟨_, rfl⟩, _, _, ⟨rfl, rfl⟩, h⟩ := h
  rcases h with ⟨_, _, rfl⟩ | ⟨_, _, _, ⟨_, rfl⟩, _, _, rfl, _, rfl⟩
  · exact .refl _
  · exact .of_eq rfl rfl rfl rfl rfl rfl rfl

theorem frame_markWebhookReceiptFailed {receiptId errorCode : String} {b : Bool}
    (h : (markWebhookReceiptFailed receiptId errorCode).Commits s b s') : Frame s s' := by
  simp only [markWebhookReceiptFailed, commits_bind, commits_get] at h
  obtain ⟨_, _, ⟨rfl, rfl⟩, h⟩ := h
  split at h
  case h_1 =>
    obtain ⟨_, rfl⟩ := commits_pure.mp h
    exact .refl _
  case h_2 =>
    simp only [commits_ite, commits_bind, commits_set, commits_pure] at h
    rcases h with ⟨_, _, rfl⟩ | ⟨_, _, _, rfl, _, rfl⟩
    · exact .refl _
    · exact .of_eq rfl rfl rfl rfl rfl rfl rfl

theorem frame_markWebhookReceiptProcessed {receiptId : String} {time : Timestamp} {b : Bool}
    (h : (markWebhookReceiptProcessed receiptId time).Commits s b s') : Frame s s' := by
  simp only [markWebhookReceiptProcessed, commits_bind, commits_get] at h
  obtain ⟨_, _, ⟨rfl, rfl⟩, h⟩ := h
  split at h
  case h_1 =>
    obtain ⟨_, rfl⟩ := commits_pure.mp h
    exact .refl _
  case h_2 =>
    simp only [commits_ite, commits_bind, commits_set, commits_pure] at h
    rcases h with ⟨_, _, rfl⟩ | ⟨_, _, _, rfl, _, rfl⟩
    · exact .refl _
    · exact .of_eq rfl rfl rfl rfl rfl rfl rfl

end Frames

section Checkpoints

theorem check_openedCheckpoint {committedThrough stop : Timestamp} {row : ReconciliationCheckpoint} :
    ReconciliationCheckpoint.check {
      committedThrough, scanWindowEnd := some stop, startingAfter := none, pageInProgress := true
    } = .ok row ↔ committedThrough < stop ∧ row = {
      committedThrough, scanWindowEnd := some stop, startingAfter := none, pageInProgress := true
    } := by
  by_cases h : committedThrough < stop
  · simp [ReconciliationCheckpoint.check, h, eq_comm]
  · simp [ReconciliationCheckpoint.check, h]

theorem commits_beginReconciliationWindow {input : BeginCheckpointInput} {u : Unit} :
    (beginReconciliationWindow input).Commits s u s' ↔
      ∃ committedThrough,
        ((s.checkpoints.find? input.installationId).map (·.committedThrough)).getD
          input.initialCommittedThrough = committedThrough ∧
        committedThrough < input.scanWindowEnd ∧
        s' = { s with
          checkpoints := s.checkpoints.insert input.installationId {
            committedThrough, scanWindowEnd := some input.scanWindowEnd, startingAfter := none
            pageInProgress := true
          }
        } := by
  simp only [beginReconciliationWindow, commits_bind, commits_get, commits_fromExcept, commits_set]
  cases hc : s.checkpoints.find? input.installationId <;>
    simp [check_openedCheckpoint, hc, and_assoc]

theorem commits_completeReconciliationWindow {installationId : String} {stop : Timestamp}
    {cursor : Option String} {u : Unit} :
    (completeReconciliationWindow installationId stop cursor).Commits s u s' ↔
      ∃ checkpoint, s.checkpoints.find? installationId = some checkpoint ∧
        checkpoint.scanWindowEnd = some stop ∧ checkpoint.startingAfter = cursor ∧
        checkpoint.pageInProgress = true ∧
        s' = { s with
          checkpoints := s.checkpoints.insert installationId {
            committedThrough := stop, scanWindowEnd := none, startingAfter := none
            pageInProgress := false
          }
        } := by
  simp only [completeReconciliationWindow, commits_bind, commits_get]
  cases hc : s.checkpoints.find? installationId <;> simp [hc, and_assoc]

theorem within_beginReconciliationWindow {input : BeginCheckpointInput} {t : Timestamp}
    (hf : ∀ id d, footprint id d (.resumeExecutionAfterAbsence t) true) :
    Within (Change now footprint) (beginReconciliationWindow input) := by
  intro s u s' h
  obtain ⟨_, _, _, rfl⟩ := commits_beginReconciliationWindow.mp h
  exact .single (.checkpointed hf)

theorem within_completeReconciliationWindow {installationId : String} {stop t : Timestamp}
    {cursor : Option String}
    (hf : ∀ id d, footprint id d (.resumeExecutionAfterAbsence t) true) :
    Within (Change now footprint) (completeReconciliationWindow installationId stop cursor) := by
  intro s u s' h
  obtain ⟨_, _, _, _, _, rfl⟩ := commits_completeReconciliationWindow.mp h
  exact .single (.checkpointed hf)

end Checkpoints

-- The calls that a completed scan makes for a request that it visits.
def ResolutionCall (window : ScanWindow) (resolvedAt : Timestamp) (d : RefundRequestDetail) :
    RequestCall → Bool → Prop
  | .markReconciliationRequired, _                   => True
  | .conflictPendingCandidates, _                    => True
  | .markRefundCorrelationCandidateLinked id _ _, _  => Identifies d id
  | .markAbsenceProven, changed                      =>
    changed = true ∧ Decides window d ∧ d.candidates.entries = []
  | .resumeExecutionAfterAbsence time, changed       => changed = true ∧ time = resolvedAt
  | .markRefundIdentified input, changed             =>
    changed = true ∧ Decides window d ∧ ∃ refundId candidate conflict,
      Linkable d refundId candidate ∧
        input = uniqueObservation conflict resolvedAt refundId candidate
  | _, _                                             => False

section Within

theorem within_resolveRequest {window : ScanWindow} {conflict : Bool} {resolvedAt : Timestamp}
    {env : TriggerEnv} :
    Within (CallStep env (ResolutionCall window resolvedAt))
      (resolveRequest window conflict resolvedAt env) := by
  have step {call : RequestCall} {b : Bool} {d d' : RefundRequestDetail}
      (h : (call.run env).Commits d b d') (ha : ResolutionCall window resolvedAt d call b) :
      CallStep env (ResolutionCall window resolvedAt) d d' :=
    ⟨call, b, ha, RequestCall.outcome_of_run h⟩
  have reconcile {b : Bool} {d d' : RefundRequestDetail}
      (h : (markReconciliationRequired env).Commits d b d') :
      CallStep env (ResolutionCall window resolvedAt) d d' := by
    have hcall : (RequestCall.markReconciliationRequired.run env).Commits d b d' := h
    exact step hcall trivial
  intro d r d' h
  cases resolution_of_resolveRequest h with
  | skipped _ => exact .refl
  | contested _ _ _ h => exact .single (reconcile h)
  | absent hd hempty _ h₁ h₂ =>
    have hcall₁ : (RequestCall.markAbsenceProven.run env).Commits d true _ := h₁
    have hcall₂ : ((RequestCall.resumeExecutionAfterAbsence resolvedAt).run env).Commits _ true d' :=
      h₂
    exact .head (step hcall₁ ⟨rfl, hd, hempty⟩) (.single (step hcall₂ ⟨rfl, rfl⟩))
  | undecided _ _ _ hd₁ hmark =>
    rcases hd₁ with rfl | rfl
    · exact .single (reconcile hmark)
    · exact .head ⟨.conflictPendingCandidates, true, trivial, .candidatesConflicted⟩
        (.single (reconcile hmark))
  | linked hd hl h₁ h₂ =>
    have hcall₁ : ((RequestCall.markRefundIdentified _).run env).Commits d true _ := h₁
    have hcall₂ : ((RequestCall.markRefundCorrelationCandidateLinked _ _ _).run env).Commits _ _ d' :=
      h₂
    have hidentifies : Identifies _ _ := .inr ⟨env, d, _, RequestCall.outcome_of_run hcall₁, rfl⟩
    exact .head (step hcall₁ ⟨rfl, hd, _, _, _, hl, rfl⟩) (.single (step hcall₂ hidentifies))

theorem within_resolveUniqueRefundCandidates {installationId : String} {window : ScanWindow}
    {resolvedAt : Timestamp}
    (hf : ∀ id d call b, ResolutionCall window resolvedAt d call b → footprint id d call b) :
    Within (Change now footprint)
      (resolveUniqueRefundCandidates now installationId window resolvedAt) := by
  unfold resolveUniqueRefundCandidates
  refine .bind .get fun s => .bind (.mapM fun requestId _ => ?_) fun outcomes => .pure _
  refine .bind .get fun s => within_onRequest fun env _ => .bind .get fun d => ?_
  exact fun _ _ _ h => ReflTransGen.mono
    (fun _ _ ⟨call, b, ha, ho⟩ => ⟨call, b, hf requestId _ call b ha, ho⟩) _ _
    (within_resolveRequest h)

theorem within_getExecutionWorkItem {step : Store → Store → Prop} {requestId : String} :
    Within step (getExecutionWorkItem requestId) :=
  fun _ _ _ h => frame_getExecutionWorkItem h ▸ .refl

theorem within_settleRequestsForDeauthorization {occurredAt : Timestamp}
    (hf : ∀ id d, ∀ call ∈ protectiveCalls occurredAt, ∀ b, footprint id d call b) :
    Within (Change now footprint) (settleRequestsForDeauthorization now occurredAt) := by
  intro s u s' h
  simp only [settleRequestsForDeauthorization, commits_bind, commits_pure] at h
  obtain ⟨_, _, h, _, rfl⟩ := h
  exact .single (.guarded hf h)

theorem within_deauthorizeInstallation {installationId : String}
    {deauthorizedAt purgeAt : Timestamp}
    (hf : ∀ id d, ∀ call ∈ protectiveCalls deauthorizedAt, ∀ b, footprint id d call b) :
    Within (Change now footprint)
      (deauthorizeInstallation now installationId deauthorizedAt purgeAt) := by
  intro s b s' h
  simp only [deauthorizeInstallation, commits_bind, commits_get, commits_require] at h
  obtain ⟨_, _, ⟨_, rfl⟩, _, _, ⟨rfl, rfl⟩, h⟩ := h
  split at h
  case h_1 =>
    obtain ⟨_, rfl⟩ := commits_pure.mp h
    exact .refl
  case h_2 installation hi =>
    simp only [commits_bind, commits_set, commits_modify, commits_pure] at h
    obtain ⟨_, _, rfl, _, s₂, hsettle, _, _, rfl, _, rfl⟩ := h
    have hrun := within_settleRequestsForDeauthorization hf hsettle
    refine .head (.frame (.of_installation hi ?_ ?_))
      (hrun.tail (.frame (.of_eq rfl rfl rfl rfl rfl rfl rfl))) <;> rfl

theorem within_applyWebhookDeauthorization {input : WebhookDeauthorizationInput}
    (hf : ∀ id d, ∀ call ∈ protectiveCalls input.stripeEventCreatedAt, ∀ b, footprint id d call b) :
    Within (Change now footprint) (applyWebhookDeauthorization now input) := by
  intro s b s' h
  simp only [applyWebhookDeauthorization, commits_bind, commits_get, commits_require] at h
  obtain ⟨_, _, ⟨_, rfl⟩, _, _, ⟨rfl, rfl⟩, h⟩ := h
  split at h
  case h_1 =>
    obtain ⟨_, rfl⟩ := commits_pure.mp h
    exact .refl
  case h_2 installation hi =>
    simp only [commits_ite, commits_bind, commits_set, commits_modify, commits_pure] at h
    rcases h with ⟨_, _, rfl⟩ | ⟨_, ⟨_, _, rfl⟩ | ⟨_, _, _, rfl, _, s₂, hsettle, _, _, rfl, _, rfl⟩⟩
    · exact .refl
    · exact .refl
    · have hrun := within_settleRequestsForDeauthorization hf hsettle
      refine .head (.frame (.of_installation hi ?_ ?_))
        (hrun.tail (.frame (.of_eq rfl rfl rfl rfl rfl rfl rfl))) <;> rfl

theorem within_claimExecutionWorkItem {requestId : String} {time : Timestamp}
    (hf : ∀ d tenant installation b,
      footprint requestId d (.claimExecution tenant installation time) b) :
    Within (Change now footprint) (claimExecutionWorkItem now requestId time) := by
  unfold claimExecutionWorkItem
  refine .bind .get fun s => .bind (within_onRequest fun env _ => .bind .get fun d => ?_) fun claimed =>
    .ite (fun _ => within_getExecutionWorkItem) fun _ => .pure _
  exact within_call fun d b _ _ => hf d _ _ b

theorem within_recordDecision {requestId : String} {decision : ApprovalDecision}
    {time : Timestamp}
    (hf : ∀ d attestation accountId b,
      footprint requestId d (.recordDecision attestation accountId decision time) b) :
    Within (Change now footprint) (TenantRepository.recordDecision now requestId decision time) := by
  unfold TenantRepository.recordDecision
  refine .bind .get fun s => within_onRequest fun env _ => .bind .get fun d => ?_
  intro d r d' h
  exact .single ⟨_, true, hf d _ _ true, RequestCall.outcome_of_recordDecision h⟩

theorem within_expirePendingRequests {skipLocked : String → Bool} {time : Timestamp} {limit : Nat}
    (hf : ∀ id d b, footprint id d (.expirePendingRequest time) b) :
    Within (Change now footprint) (expirePendingRequests now skipLocked time limit) := by
  unfold expirePendingRequests
  refine .bind (.require _ _) fun _ => .bind .get fun s => .forM fun requestId _ =>
    .bind (within_onRequest fun env _ => ?_) fun _ => .pure _
  have hcall (env : TriggerEnv) : Within (CallStep env (footprint requestId))
      ((RequestCall.expirePendingRequest time).run env) :=
    within_call fun d b _ _ => hf requestId d b
  exact hcall env

theorem within_prepareExecutionRecoveryWork {limit : Nat}
    (hf : ∀ id d b, footprint id d .markReconciliationRequired b) :
    Within (Change now footprint) (prepareExecutionRecoveryWork now limit) := by
  unfold prepareExecutionRecoveryWork
  refine .bind (.require _ _) fun _ => .bind .get fun s => .bind (.forM fun candidate _ =>
    .bind (within_onRequest fun env _ => ?_) fun _ => .pure _) fun _ => .mapM fun candidate _ =>
    .bind within_getExecutionWorkItem fun item => ?_
  · have hcall : Within (CallStep env (footprint candidate.1))
        (RequestCall.markReconciliationRequired.run env) :=
      within_call fun d b _ _ => hf candidate.1 d b
    exact hcall
  · cases item with
    | none      => exact .throw _
    | some item => exact .pure _

end Within
end TenantRepository

-- A call of one of the methods of `TenantRepositories`.
inductive RepositoryCall
  | request (requestId : String) (call : RequestCall)
  | createRefundRequest (requestId : String) (input : CreateRefundRequestInput)
  | persistApprovalAttestation (attestationId : String) (row : ApprovalAttestation)
  | recordDecision (requestId : String) (decision : ApprovalDecision) (time : Timestamp)
  | expirePendingRequests (skipLocked : String → Bool) (time : Timestamp) (limit : Nat)
  | claimExecutionWorkItem (requestId : String) (time : Timestamp)
  | prepareExecutionRecoveryWork (limit : Nat)
  | observeExternalRefund (input : ExternalRefundObservationInput)
  | acknowledgeExternalRefundAlert (key : String ×ₗ String) (userId : String) (time : Timestamp)
  | deauthorizeInstallation (installationId : String) (deauthorizedAt purgeAt : Timestamp)
  | applyWebhookDeauthorization (input : WebhookDeauthorizationInput)
  | provisionWebhookInstallation (installationId eventId : String) (eventCreatedAt : Timestamp)
  | setApproverEnabled (userId : String) (enabled : Bool)
  | insertWebhookReceipt (receiptId : String) (data : WebhookReceipt)
  | markWebhookReceiptFailed (receiptId errorCode : String)
  | markWebhookReceiptProcessed (receiptId : String) (time : Timestamp)
  | beginReconciliationWindow (input : BeginCheckpointInput)
  | completeReconciliationWindow (installationId : String) (stop : Timestamp)
      (cursor : Option String)
  | resolveUniqueRefundCandidates (installationId : String) (window : ScanWindow)
      (resolvedAt : Timestamp)

namespace RepositoryCall

def run (now : Timestamp) : RepositoryCall → StoreTransaction Unit
  | request requestId call => discard <| onRequest now requestId call.run
  | createRefundRequest requestId input =>
    TenantRepository.createRefundRequest now requestId input
  | persistApprovalAttestation attestationId row =>
    TenantRepository.persistApprovalAttestation attestationId row
  | recordDecision requestId decision time =>
    discard <| TenantRepository.recordDecision now requestId decision time
  | expirePendingRequests skipLocked time limit =>
    TenantRepository.expirePendingRequests now skipLocked time limit
  | claimExecutionWorkItem requestId time =>
    discard <| TenantRepository.claimExecutionWorkItem now requestId time
  | prepareExecutionRecoveryWork limit =>
    discard <| TenantRepository.prepareExecutionRecoveryWork now limit
  | observeExternalRefund input => discard <| TenantRepository.observeExternalRefund now input
  | acknowledgeExternalRefundAlert key userId time =>
    discard <| TenantRepository.acknowledgeExternalRefundAlert key userId time
  | deauthorizeInstallation installationId deauthorizedAt purgeAt =>
    discard <| TenantRepository.deauthorizeInstallation now installationId deauthorizedAt purgeAt
  | applyWebhookDeauthorization input =>
    discard <| TenantRepository.applyWebhookDeauthorization now input
  | provisionWebhookInstallation installationId eventId eventCreatedAt =>
    discard <| TenantRepository.provisionWebhookInstallation installationId eventId eventCreatedAt
  | setApproverEnabled userId enabled =>
    discard <| TenantRepository.setApproverEnabled userId enabled
  | insertWebhookReceipt receiptId data =>
    discard <| TenantRepository.insertWebhookReceipt receiptId data
  | markWebhookReceiptFailed receiptId errorCode =>
    discard <| TenantRepository.markWebhookReceiptFailed receiptId errorCode
  | markWebhookReceiptProcessed receiptId time =>
    discard <| TenantRepository.markWebhookReceiptProcessed receiptId time
  | beginReconciliationWindow input => TenantRepository.beginReconciliationWindow input
  | completeReconciliationWindow installationId stop cursor =>
    TenantRepository.completeReconciliationWindow installationId stop cursor
  | resolveUniqueRefundCandidates installationId window resolvedAt =>
    discard <| TenantRepository.resolveUniqueRefundCandidates now installationId window resolvedAt

theorem within_run {now : Timestamp} (call : RepositoryCall) :
    Within (Change now fun _ _ _ _ => True) (call.run now) := by
  cases call with
  | request requestId call =>
    exact .map _ (within_onRequest fun env _ => within_call fun _ _ _ _ => trivial)
  | createRefundRequest requestId input => exact fun _ _ _ h => .single (.created h)
  | persistApprovalAttestation attestationId row =>
    exact within_of_frame fun _ _ _ => frame_persistApprovalAttestation
  | recordDecision requestId decision time =>
    exact .map _ (within_recordDecision fun _ _ _ _ => trivial)
  | expirePendingRequests skipLocked time limit =>
    exact within_expirePendingRequests fun _ _ _ => trivial
  | claimExecutionWorkItem requestId time =>
    exact .map _ (within_claimExecutionWorkItem fun _ _ _ _ => trivial)
  | prepareExecutionRecoveryWork limit =>
    exact .map _ (within_prepareExecutionRecoveryWork fun _ _ _ => trivial)
  | observeExternalRefund input =>
    exact .map _ fun _ _ _ h => .single (.alerted (fun _ _ _ _ _ => trivial) h)
  | acknowledgeExternalRefundAlert key userId time =>
    exact .map _ fun _ _ _ h => .single (.acknowledged h)
  | deauthorizeInstallation installationId deauthorizedAt purgeAt =>
    exact .map _ (within_deauthorizeInstallation fun _ _ _ _ _ => trivial)
  | applyWebhookDeauthorization input =>
    exact .map _ (within_applyWebhookDeauthorization fun _ _ _ _ _ => trivial)
  | provisionWebhookInstallation installationId eventId eventCreatedAt =>
    exact .map _ (within_of_frame fun _ _ _ => frame_provisionWebhookInstallation)
  | setApproverEnabled userId enabled =>
    exact .map _ (within_of_frame fun _ _ _ => frame_setApproverEnabled)
  | insertWebhookReceipt receiptId data =>
    exact .map _ (within_of_frame fun _ _ _ => frame_insertWebhookReceipt)
  | markWebhookReceiptFailed receiptId errorCode =>
    exact .map _ (within_of_frame fun _ _ _ => frame_markWebhookReceiptFailed)
  | markWebhookReceiptProcessed receiptId time =>
    exact .map _ (within_of_frame fun _ _ _ => frame_markWebhookReceiptProcessed)
  | beginReconciliationWindow input =>
    exact within_beginReconciliationWindow (t := 0) fun _ _ => trivial
  | completeReconciliationWindow installationId stop cursor =>
    exact within_completeReconciliationWindow (t := 0) fun _ _ => trivial
  | resolveUniqueRefundCandidates installationId window resolvedAt =>
    exact .map _ (within_resolveUniqueRefundCandidates fun _ _ _ _ _ => trivial)

end RepositoryCall

-- One committed call of a method, at any time of the database clock.
def RepositoryStep (s s' : Store) : Prop :=
  ∃ now call, (RepositoryCall.run now call).Commits s () s'

-- What holds of the rows of every request, from its creation on.
structure WellKept (d : RefundRequestDetail) : Prop where
  coherent   : Coherent d.request d.execution
  chronicled : d.Chronicled

namespace WellKept

variable {now : Timestamp} {footprint : Footprint} {s s' : Store}

theorem created {requestId : String} {d : RefundRequestDetail} {input : CreateRefundRequestInput}
    (h : Created now s requestId d input) : WellKept d := by
  obtain ⟨rfl, -, -⟩ := h
  refine ⟨?_, .singleton _⟩
  constructor <;> simp [CreateRefundRequestInput.row, WorkflowStatus.isTerminal]

theorem outcome {env : TriggerEnv} {d d' : RefundRequestDetail} {call : RequestCall} {b : Bool}
    (h : WellKept d) (ho : Outcome env d call b d') : WellKept d' where
  coherent   := h.coherent.outcome ho
  chronicled := (RefundRequestDetail.extends_outcome ho).2 h.chronicled

theorem change (h : Change now footprint s s')
    (hs : ∀ id d, s.requests.find? id = some d → WellKept d) :
    ∀ id d, s'.requests.find? id = some d → WellKept d :=
  h.eachRequest (fun {_ _ _ _} hc => created hc) (fun {_ _ _ _ _} _ _ hp ho => hp.outcome ho) hs

end WellKept

theorem Evolves.extends {now : Timestamp} {footprint : Footprint} {id : String}
    {d d' : RefundRequestDetail} (h : Evolves now footprint id d d') : d'.Extends d := by
  induction h with
  | refl => exact .refl d
  | tail _ hstep ih =>
    obtain ⟨env, _, _, call, b, _, ho⟩ := hstep
    exact (RefundRequestDetail.extends_outcome ho).trans ih

section Lifecycle

variable {s₀ s s' : Store} {id : String} {d : RefundRequestDetail}

theorem RepositoryStep.changes (h : RepositoryStep s s') :
    ∃ now, ReflTransGen (Change now fun _ _ _ _ => True) s s' := by
  obtain ⟨now, call, hc⟩ := h
  exact ⟨now, call.within_run hc⟩

theorem wellKept_of_run (h₀ : s₀.requests = .empty) (h : ReflTransGen RepositoryStep s₀ s) :
    ∀ id d, s.requests.find? id = some d → WellKept d := by
  induction h with
  | refl => simp [h₀]
  | tail _ hstep ih =>
    obtain ⟨now, hchanges⟩ := hstep.changes
    exact preserved_of_run (fun s => ∀ id d, s.requests.find? id = some d → WellKept d)
      (fun _ _ hs hc => WellKept.change hc hs) hchanges ih

theorem extends_of_run (h : ReflTransGen RepositoryStep s s')
    (hd : s.requests.find? id = some d) :
    ∃ d', s'.requests.find? id = some d' ∧ d'.Extends d := by
  induction h with
  | refl => exact ⟨d, hd, .refl d⟩
  | tail _ hstep ih =>
    obtain ⟨now, hchanges⟩ := hstep.changes
    refine preserved_of_run (fun s => ∃ d', s.requests.find? id = some d' ∧ d'.Extends d)
      (fun s₁ s₂ hs hc => ?_) hchanges ih
    obtain ⟨d₁, hd₁, hx₁⟩ := hs
    obtain ⟨d₂, hd₂, he⟩ := hc.kept id d₁ hd₁
    exact ⟨d₂, hd₂, he.extends.trans hx₁⟩

-- Over every run of the methods, a request keeps its columns coherent, every update raises its
-- version by one, and its first terminal timestamp and guard release stay for good.
theorem lifecycle_of_run (h₀ : s₀.requests = .empty) (h : ReflTransGen RepositoryStep s₀ s)
    (h' : ReflTransGen RepositoryStep s s') (hd : s.requests.find? id = some d) :
    Coherent d.request d.execution ∧ d.Chronicled ∧
      ∃ d', s'.requests.find? id = some d' ∧ d.history <:+ d'.history ∧
        (d.request.terminalAt ≠ none → d'.request.terminalAt = d.request.terminalAt) ∧
        (d.request.paymentGuardReleasedAt ≠ none →
          d'.request.paymentGuardReleasedAt = d.request.paymentGuardReleasedAt) := by
  have hkept := wellKept_of_run h₀ h id d hd
  obtain ⟨d', hd', hx⟩ := extends_of_run h' hd
  exact ⟨hkept.coherent, hkept.chronicled, d', hd', hx.1,
    RefundRequestDetail.frozen_of_extends hx.1 (hx.2 hkept.chronicled)⟩

end Lifecycle

-- A tenant with one test installation, a requester and an approver.
def Store.pilot : Store where
  tenantId      := "t"
  tenant        := { status := .active, liveEnabled := false, pendingDeleteAt := none }
  installations := Table.empty.insert "i" {
    stripeAccountId := "acct_1", environment := .test, status := .active, installedAt := 0
    deauthorizedAt := none, lastLifecycleEventId := none, lastLifecycleEventType := none
    lastLifecycleEventCreatedAt := none
  }
  users         :=
    (Table.empty.insert "requester" { stripeUserId := "usr_1", approverEnabled := false }).insert
      "approver" { stripeUserId := "usr_2", approverEnabled := true }
  attestations  := .empty
  requests      := .empty
  alerts        := .empty
  receipts      := .empty
  checkpoints   := .empty

namespace Pilot

def requestId : String :=
  "00000000-0000-4000-8000-000000000001"

def input : CreateRefundRequestInput where
  installationId    := "i"
  environment       := .test
  paymentKey        := "pi_1"
  paymentIntentId   := "pi_1"
  chargeId          := "ch_1"
  amountMinor       := 500
  currency          := "eur"
  reason            := .requestedByCustomer
  requesterUserId   := "requester"
  policyVersion     := 1
  requiredApprovals := 1
  expiresAt         := 100000

def requested : RefundRequestDetail where
  request    := input.row 1000
  decisions  := []
  execution  := none
  candidates := .empty
  images     := []

def canceled : RefundRequestDetail :=
  requested.replaceRow (requested.request.ended .canceled .notStarted 2000)

end Pilot

theorem lifecycle_of_run_canceled :
    Coherent Pilot.requested.request none ∧ Pilot.requested.Chronicled ∧
      ∃ d', ((Store.pilot.putRequest Pilot.requestId Pilot.requested).putRequest Pilot.requestId
          Pilot.canceled).requests.find? Pilot.requestId = some d' ∧
        Pilot.requested.history <:+ d'.history ∧
        (Pilot.requested.request.terminalAt ≠ none →
          d'.request.terminalAt = Pilot.requested.request.terminalAt) ∧
        (Pilot.requested.request.paymentGuardReleasedAt ≠ none →
          d'.request.paymentGuardReleasedAt = Pilot.requested.request.paymentGuardReleasedAt) :=
  have hcreate : RepositoryStep Store.pilot (Store.pilot.putRequest Pilot.requestId Pilot.requested) :=
    ⟨1000, .createRefundRequest Pilot.requestId Pilot.input, rfl⟩
  have hcancel : RepositoryStep (Store.pilot.putRequest Pilot.requestId Pilot.requested)
      ((Store.pilot.putRequest Pilot.requestId Pilot.requested).putRequest Pilot.requestId
        Pilot.canceled) :=
    ⟨2000, .request Pilot.requestId (.cancelPendingRequest "requester" 2000), rfl⟩
  lifecycle_of_run rfl (.single hcreate) (.single hcancel) rfl

end RefundDesk
