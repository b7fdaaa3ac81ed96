import RefundDesk.Worker.Operations

namespace RefundDesk

open Transaction Relation RequestRepository TenantRepository

namespace WorkerStore

variable {α : Type} {keys : WorkerKeys} {now : Timestamp} {footprint : Footprint} {s s' : Store}
variable {requestId : String}

theorem within_fromDomain {step : Store → Store → Prop} {x : Except DomainError α} :
    Within step (fromDomain x) :=
  .fromExcept _

theorem commits_fromDomain {x : Except DomainError α} {a : α} :
    (fromDomain x).Commits s a s' ↔ x = .ok a ∧ s' = s := by
  cases x <;> simp [fromDomain, Except.mapError]

theorem within_lockExecutionAuthorization {step : Store → Store → Prop} {installationId : String} :
    Within step (lockExecutionAuthorization requestId installationId) := by
  unfold lockExecutionAuthorization
  exact .bind .get fun _ => .pure _

theorem within_onRequest_call {call : RequestCall} (hf : ∀ d b, footprint requestId d call b) :
    Within (Change now footprint) (onRequest now requestId call.run) :=
  within_onRequest fun _ _ => within_call fun d b _ _ => hf d b

theorem within_markReconciliationRequired
    (hf : ∀ d b, footprint requestId d .markReconciliationRequired b) :
    Within (Change now footprint) (onRequest now requestId markReconciliationRequired) := by
  have hcall : Within (Change now footprint)
      (onRequest now requestId RequestCall.markReconciliationRequired.run) :=
    within_onRequest_call hf
  exact hcall

theorem within_requireExecutionReconciliation
    (hf : ∀ d b, footprint requestId d .markReconciliationRequired b) :
    Within (Change now footprint) (requireExecutionReconciliation now requestId) := by
  unfold requireExecutionReconciliation
  refine .bind (within_markReconciliationRequired hf) fun marked => .ite (fun _ => ?_) fun _ => .pure _
  exact .bind within_getExecutionWorkItem fun _ => .require _ _

theorem within_recordReconciliationRequired
    (hf : ∀ d b, footprint requestId d .markReconciliationRequired b) :
    Within (Change now footprint) (recordReconciliationRequired now requestId) := by
  unfold recordReconciliationRequired
  refine .bind (within_markReconciliationRequired hf) fun marked => .ite (fun _ => ?_) fun _ => .pure _
  exact .bind within_getExecutionWorkItem fun _ => .require _ _

theorem within_recordTerminalWithoutEffect {time : Timestamp}
    (hf : ∀ d b, footprint requestId d (.markTerminalFailureAfterAbsence time) b) :
    Within (Change now footprint) (recordTerminalWithoutEffect now requestId time) := by
  have hcall : Within (Change now footprint)
      (onRequest now requestId (RequestCall.markTerminalFailureAfterAbsence time).run) :=
    within_onRequest_call hf
  unfold recordTerminalWithoutEffect
  refine .bind hcall fun terminal => .ite (fun _ => ?_) fun _ => .pure _
  exact .bind within_getExecutionWorkItem fun _ => .require _ _

theorem within_reconcileUnrecoverable {item : ExecutionWorkItem}
    (hf : ∀ d b, footprint item.id d .markReconciliationRequired b) :
    Within (Change now footprint) (reconcileUnrecoverable now item) := by
  unfold reconcileUnrecoverable
  refine .bind within_fromDomain fun key => .ite (fun _ => ?_) fun _ => .pure _
  exact within_requireExecutionReconciliation hf

theorem within_loadClaimedExecution {item : ExecutionWorkItem}
    (hf : ∀ d b, footprint item.id d .markReconciliationRequired b) :
    Within (Change now footprint) (loadClaimedExecution keys now item) := by
  unfold loadClaimedExecution
  refine .bind within_fromDomain fun valid => .ite (fun _ => .pure _) fun _ => ?_
  split
  case h_1 => exact .pure _
  case h_2 =>
    refine .bind within_fromDomain fun key => .ite (fun _ => ?_) fun _ => .pure _
    exact .bind (within_requireExecutionReconciliation hf) fun _ => .pure _

-- The work item that is read for a request of the store.
structure WorkItemOf (s : Store) (requestId : String) (item : ExecutionWorkItem)
    (d : RefundRequestDetail) : Prop where
  found        : s.requests.find? requestId = some d
  id           : item.id = requestId
  tenantId     : item.tenantId = s.tenantId
  request      : item.request = d.request
  tenant       : item.tenant = s.tenant
  installation : s.installations.find? d.request.installationId = some item.installation
  execution    : item.execution = d.execution
  requester    : s.users.find? d.request.requesterUserId = some item.requester
  approval     : getApprovalEvidence s requestId d = .ok item.approvalDecision

theorem workItemOf_getExecutionWorkItem {item : ExecutionWorkItem}
    (h : (getExecutionWorkItem requestId).Commits s (some item) s') :
    s' = s ∧ ∃ d, WorkItemOf s requestId item d := by
  simp only [getExecutionWorkItem, commits_bind, commits_get] at h
  obtain ⟨_, _, ⟨rfl, rfl⟩, h⟩ := h
  split at h
  case h_1 => simp at h
  case h_2 d hd =>
    split at h
    case h_1 => exact (not_commits_throw h).elim
    case h_2 => exact (not_commits_throw h).elim
    case h_3 installation requester hi hu =>
      simp only [commits_bind, commits_fromExcept, commits_pure, Option.some.injEq] at h
      obtain ⟨_, _, ⟨happroval, rfl⟩, rfl, rfl⟩ := h
      exact ⟨rfl, d, hd, rfl, rfl, rfl, rfl, hi, rfl, hu, happroval⟩

theorem id_of_getExecutionWorkItem {item : ExecutionWorkItem}
    (h : (getExecutionWorkItem requestId).Commits s (some item) s') : item.id = requestId := by
  obtain ⟨_, d, hitem⟩ := workItemOf_getExecutionWorkItem h
  exact hitem.id

theorem id_of_claimExecutionWorkItem {time : Timestamp} {item : ExecutionWorkItem}
    (h : (claimExecutionWorkItem now requestId time).Commits s (some item) s') :
    item.id = requestId := by
  simp only [claimExecutionWorkItem, commits_bind, commits_get, commits_ite, commits_pure] at h
  obtain ⟨_, _, _, _, _, _, ⟨_, h⟩ | ⟨_, h, _⟩⟩ := h
  · exact id_of_getExecutionWorkItem h
  · cases h

theorem within_loadRefundExecution {time : Timestamp}
    (hr : ∀ d b, footprint requestId d .markReconciliationRequired b)
    (hc : ∀ d tenant installation b,
      footprint requestId d (.claimExecution tenant installation time) b) :
    Within (Change now footprint) (loadRefundExecution keys now requestId time) := by
  unfold loadRefundExecution
  refine .bind_of within_getExecutionWorkItem fun found hfound => ?_
  cases found with
  | none      => exact .pure _
  | some item =>
    obtain ⟨_, _, hitem⟩ := hfound
    have hid := id_of_getExecutionWorkItem hitem
    have hload (item : ExecutionWorkItem) (hid : item.id = requestId) :
        Within (Change now footprint) (loadClaimedExecution keys now item) :=
      within_loadClaimedExecution (hid ▸ hr)
    refine .ite (fun _ => .pure _) fun _ => .bind within_lockExecutionAuthorization fun locked =>
      .ite (fun _ => .pure _) fun _ => .bind within_fromDomain fun valid =>
      .ite (fun _ => ?_) fun _ => ?_
    · refine .ite (fun _ => ?_) fun _ => .pure _
      exact .bind (within_requireExecutionReconciliation (hid ▸ hr)) fun _ => .pure _
    · refine .ite (fun _ => ?_) fun _ => ?_
      · refine .bind_of (within_claimExecutionWorkItem hc) fun claimed hclaimed => ?_
        cases claimed with
        | none      => exact .pure _
        | some item =>
          obtain ⟨_, _, hitem⟩ := hclaimed
          exact hload item (id_of_claimExecutionWorkItem hitem)
      · exact .bind_of (.pure _) fun claimed hclaimed => by
          obtain ⟨_, _, hc⟩ := hclaimed
          obtain ⟨rfl, _⟩ := commits_pure.mp hc
          exact hload item hid

-- The calls with which `crossEffectBoundary` lets an attempt begin.
theorem within_crossEffectBoundary {item : ExecutionWorkItem} {key : String} {time : Timestamp}
    (hp : ∀ d b, footprint item.id d .markEffectPossible b)
    (he : ∀ d input b, footprint item.id d (.ensureExecution input) b)
    (hb : ∀ d attemptNumber b, footprint item.id d (.beginExecutionAttempt attemptNumber time) b) :
    Within (Change now footprint) (crossEffectBoundary keys now item key time) := by
  unfold crossEffectBoundary
  refine .bind within_fromDomain fun hash => .bind (within_onRequest fun env _ => ?_) fun attempt => ?_
  · have hensure (input : EnsureExecutionInput) :
        Within (CallStep env (footprint item.id)) (ensureExecution env input) := by
      intro d execution d' h
      have hcall : ((RequestCall.ensureExecution input).run env).Commits d true d' :=
        commits_bind.mpr ⟨execution, d', h, commits_pure.mpr ⟨rfl, rfl⟩⟩
      exact .single ⟨_, true, he _ _ _, RequestCall.outcome_of_run hcall⟩
    have hpossible : Within (CallStep env (footprint item.id)) (markEffectPossible env) := by
      have hcall : Within (CallStep env (footprint item.id)) (RequestCall.markEffectPossible.run env) :=
        within_call fun d b _ _ => hp d b
      exact hcall
    have hbegin (attemptNumber : Nat) :
        Within (CallStep env (footprint item.id)) (beginExecutionAttempt attemptNumber time) := by
      intro d u d' h
      have hcall : ((RequestCall.beginExecutionAttempt attemptNumber time).run env).Commits d true d' :=
        commits_bind.mpr ⟨u, d', h, commits_pure.mpr ⟨rfl, rfl⟩⟩
      exact .single ⟨_, true, hb _ _ _, RequestCall.outcome_of_run hcall⟩
    exact .bind (hensure _) fun execution => .bind (.fromExcept _) fun agree =>
      .bind (.require _ _) fun _ => .bind hpossible fun marked => .bind (.require _ _) fun _ =>
      .bind (hbegin _) fun _ => .pure _
  · cases attempt with
    | none   => exact .throw _
    | some n => exact .pure _

theorem within_persistEffectBoundary {key : String} {time : Timestamp}
    (hr : ∀ d b, footprint requestId d .markReconciliationRequired b)
    (hp : ∀ d b, footprint requestId d .markEffectPossible b)
    (he : ∀ d input b, footprint requestId d (.ensureExecution input) b)
    (hb : ∀ d attemptNumber b, footprint requestId d (.beginExecutionAttempt attemptNumber time) b) :
    Within (Change now footprint) (persistEffectBoundary keys now requestId key time) := by
  unfold persistEffectBoundary
  refine .bind_of within_getExecutionWorkItem fun found hfound => ?_
  cases found with
  | none      => exact .pure _
  | some item =>
    obtain ⟨_, _, hitem⟩ := hfound
    obtain rfl := id_of_getExecutionWorkItem hitem
    refine .ite (fun _ => .pure _) fun _ => .ite (fun _ => .pure _) fun _ =>
      .bind within_lockExecutionAuthorization fun locked => .ite (fun _ => .pure _) fun _ =>
      .bind within_fromDomain fun valid => .ite (fun _ => .ite (fun _ => ?_) fun _ => .pure _)
      fun _ => ?_
    · exact .bind (within_requireExecutionReconciliation hr) fun _ => .pure _
    · split
      case h_1 => exact .pure _
      case h_2 =>
        refine .ite (fun _ => ?_) fun _ => .ite (fun _ => .pure _) fun _ => ?_
        · exact .bind (within_requireExecutionReconciliation hr) fun _ => .pure _
        · exact within_crossEffectBoundary hp he hb

theorem within_alertConflictingCandidates {installationId refundId : String} {time : Timestamp}
    {candidates : List (String × RefundCorrelationCandidate)}
    (hf : ∀ id d, ∀ call ∈ protectiveCalls time, ∀ b, footprint id d call b) :
    Within (Change now footprint)
      (alertConflictingCandidates now installationId refundId time candidates) := by
  unfold alertConflictingCandidates
  exact .forM fun candidate _ => .bind within_fromDomain fun currency =>
    .bind (fun _ _ _ h => .single (.alerted hf h)) fun _ => .pure _

theorem commits_onExistingRequest {missing : StoreError} {m : TriggerEnv → RequestTransaction α}
    {a : α} :
    (onExistingRequest now requestId missing m).Commits s a s' ↔
      (onRequest now requestId m).Commits s (some a) s' := by
  simp only [onExistingRequest, commits_bind]
  constructor
  · rintro ⟨r, s₁, h, hr⟩
    cases r with
    | none   => exact (not_commits_throw hr).elim
    | some b =>
      obtain ⟨rfl, rfl⟩ := commits_pure.mp hr
      exact h
  · exact fun h => ⟨some a, s', h, commits_pure.mpr ⟨rfl, rfl⟩⟩

theorem within_onExistingRequest {missing : StoreError} {m : TriggerEnv → RequestTransaction α}
    (h : ∀ env : TriggerEnv, env.requestId = requestId →
      Within (CallStep env (footprint requestId)) (m env)) :
    Within (Change now footprint) (onExistingRequest now requestId missing m) :=
  fun _ _ _ hc => within_onRequest h (commits_onExistingRequest.mp hc)

section Attempts

variable {env : TriggerEnv} {allowed : RefundRequestDetail → RequestCall → Bool → Prop}
variable {d d' : RefundRequestDetail} {b : Bool} {input : AttemptFailureInput}

theorem step_of_finish {state : ExecutionAttemptState} (h : (input.finish state).Commits d b d')
    (hf : ∀ attempt, allowed d (.finishExecutionAttempt attempt) b) : CallStep env allowed d d' := by
  have hcall : ((RequestCall.finishExecutionAttempt _).run env).Commits d b d' := h
  exact ⟨_, b, hf _, RequestCall.outcome_of_run hcall⟩

theorem step_of_call {call : RequestCall} (h : (call.run env).Commits d b d')
    (hf : allowed d call b) : CallStep env allowed d d' :=
  ⟨call, b, hf, RequestCall.outcome_of_run h⟩

end Attempts

theorem within_recordRetryableAttemptFailure {input : AttemptFailureInput}
    (hf : ∀ d attempt, footprint input.requestId d (.finishExecutionAttempt attempt) true)
    (ha : ∀ d, footprint input.requestId d .markCertainAbsenceWhileExecuting true) :
    Within (Change now footprint) (recordRetryableAttemptFailure now input) := by
  unfold recordRetryableAttemptFailure
  refine within_onExistingRequest fun env _ => fun d u d' h => ?_
  simp only [commits_bind, commits_require] at h
  obtain ⟨_, d₁, h₁, _, d₂, h₂, ⟨rfl, rfl⟩, rfl⟩ := h
  have h₂ : (RequestCall.markCertainAbsenceWhileExecuting.run env).Commits d₁ true d' := h₂
  exact .head (step_of_finish h₁ (hf _)) (.single (step_of_call h₂ (ha _)))

theorem within_recordAmbiguousAttemptFailure {input : AttemptFailureInput}
    (hf : ∀ d attempt, footprint input.requestId d (.finishExecutionAttempt attempt) true)
    (hr : ∀ d, footprint input.requestId d .markReconciliationRequired true) :
    Within (Change now footprint) (recordAmbiguousAttemptFailure now input) := by
  unfold recordAmbiguousAttemptFailure
  refine within_onExistingRequest fun env _ => fun d u d' h => ?_
  simp only [commits_bind, commits_require] at h
  obtain ⟨_, d₁, h₁, _, d₂, h₂, ⟨rfl, rfl⟩, rfl⟩ := h
  have h₂ : (RequestCall.markReconciliationRequired.run env).Commits d₁ true d' := h₂
  exact .head (step_of_finish h₁ (hf _)) (.single (step_of_call h₂ (hr _)))

theorem within_recordTerminalAttemptWithoutEffect {input : AttemptFailureInput}
    (hf : ∀ d attempt, footprint input.requestId d (.finishExecutionAttempt attempt) true)
    (ha : ∀ d, footprint input.requestId d .markCertainAbsenceWhileExecuting true)
    (ht : ∀ d, footprint input.requestId d (.markTerminalFailureAfterAbsence input.time) true) :
    Within (Change now footprint) (recordTerminalAttemptWithoutEffect now input) := by
  unfold recordTerminalAttemptWithoutEffect
  refine within_onExistingRequest fun env _ => fun d u d' h => ?_
  simp only [commits_bind, commits_require] at h
  obtain ⟨_, d₁, h₁, _, d₂, h₂, _, d₃, h₃, ⟨rfl, rfl, rfl⟩, rfl⟩ := h
  have h₂ : (RequestCall.markCertainAbsenceWhileExecuting.run env).Commits d₁ true d₂ := h₂
  have h₃ : ((RequestCall.markTerminalFailureAfterAbsence input.time).run env).Commits d₂ true d' :=
    h₃
  exact .head (step_of_finish h₁ (hf _)) (.head (step_of_call h₂ (ha _))
    (.single (step_of_call h₃ (ht _))))

theorem within_recordIdentifiedRefund {input : RecordIdentifiedRefundInput}
    (hi : ∀ d observation, observation.stripeRefundId = input.refundId →
      observation.stripeRefundStatus = none ∨
        observation.stripeRefundStatus = input.refundStatus →
      footprint input.requestId d (.markRefundIdentified observation) true)
    (hl : ∀ d state b, Identifies d input.refundId → footprint input.requestId d
      (.markRefundCorrelationCandidateLinked input.refundId state input.time) b)
    (hf : ∀ d attempt b, footprint input.requestId d (.finishExecutionAttempt attempt) b)
    (hp : ∀ id d, ∀ call ∈ protectiveCalls input.time, ∀ b, footprint id d call b) :
    Within (Change now footprint) (recordIdentifiedRefund now input) := by
  unfold recordIdentifiedRefund
  refine .bind within_getExecutionWorkItem fun found => ?_
  cases found with
  | none      => exact .throw _
  | some item =>
    dsimp only
    split
    case h_1 => exact .throw _
    case h_2 execution _ =>
      refine .bind (.require _ _) fun _ => .bind (within_onRequest fun env _ => ?_) fun candidates =>
        .bind (within_alertConflictingCandidates hp) fun _ =>
        .bind (within_onRequest fun env _ => ?_) fun finished => .require _ _
      · intro d r d' h
        simp only [commits_bind, commits_require, commits_get, commits_pure] at h
        obtain ⟨_, d₁, h₁, _, _, ⟨rfl, rfl⟩, _, d₂, h₂, _, _, ⟨rfl, rfl⟩, rfl, rfl⟩ := h
        have h₁ : ((RequestCall.markRefundIdentified _).run env).Commits d true _ := h₁
        have h₂ : ((RequestCall.markRefundCorrelationCandidateLinked input.refundId .exactLinked
          input.time).run env).Commits _ _ _ := h₂
        have hidentifies : Identifies _ input.refundId :=
          .inr ⟨env, d, _, RequestCall.outcome_of_run h₁, rfl⟩
        refine .head (step_of_call h₁ (hi _ _ rfl ?_))
          (.single (step_of_call h₂ (hl _ _ _ hidentifies)))
        dsimp only
        split_ifs <;> simp
      · intro d b d' h
        have h : ((RequestCall.finishExecutionAttempt _).run env).Commits d b d' := h
        exact .single (step_of_call h (hf _ _ _))

theorem within_observeLinkedRefund {input : ObserveLinkedRefundInput}
    (hi : ∀ d execution observation, d.execution = some execution →
      execution.stripeRefundId = some input.expectedRefundId →
      observation.stripeRefundId = input.expectedRefundId →
      observation.stripeRefundStatus = input.refund.status →
      footprint input.requestId d (.markRefundIdentified observation) true) :
    Within (Change now footprint) (observeLinkedRefund now input) := by
  intro s u s' h
  simp only [observeLinkedRefund, lockExecutionAuthorization, commits_bind, commits_require,
    commits_get, commits_pure] at h
  obtain ⟨_, _, ⟨_, rfl⟩, _, _, ⟨_, _, ⟨rfl, rfl⟩, _, rfl⟩, _, _, ⟨_, rfl⟩, found, _, hitem, h⟩ := h
  cases found with
  | none      => exact (not_commits_throw h).elim
  | some item =>
    obtain ⟨rfl, d, hitem⟩ := workItemOf_getExecutionWorkItem hitem
    dsimp only at h
    split at h
    case h_1 => exact (not_commits_throw h).elim
    case h_2 execution he =>
      simp only [commits_bind, commits_require, commits_fromExcept, commits_fromDomain] at h
      obtain ⟨_, _, ⟨hlinked, rfl⟩, _, _, ⟨_, rfl⟩, _, _, ⟨_, rfl⟩, _, _, ⟨_, rfl⟩, _, _, h, rfl,
        rfl⟩ := h
      rcases commits_onRequest.mp h with ⟨_, ⟨⟩, _⟩ | ⟨d₀, _, d', hd₀, hm, ⟨⟩, rfl⟩
      obtain rfl := Option.some.inj (hitem.found.symm.trans hd₀)
      have hm : ((RequestCall.markRefundIdentified _).run _).Commits d true d' := hm
      refine .single (.request hitem.found (.single (step_of_call hm ?_)))
      exact hi _ _ _ (hitem.execution ▸ he) hlinked.2.2.2 rfl rfl

theorem within_commitReconciliationCheckpoint {input : CommitCheckpointInput}
    (hf : ∀ id d call b, ResolutionCall input.window input.completedAt d call b →
      footprint id d call b) :
    Within (Change now footprint) (commitReconciliationCheckpoint now input) := by
  unfold commitReconciliationCheckpoint
  exact .bind .get fun s => .bind (.require _ _) fun _ =>
    .bind (within_beginReconciliationWindow fun id d => hf id d _ _ ⟨rfl, rfl⟩) fun _ =>
    .bind (within_completeReconciliationWindow fun id d => hf id d _ _ ⟨rfl, rfl⟩) fun _ =>
    .bind (within_resolveUniqueRefundCandidates hf) fun _ => .pure _

theorem within_processInstallationLifecycle {input : InstallationLifecycleInput}
    (hf : ∀ id d, ∀ call ∈ protectiveCalls (stripeSecond input.eventCreated), ∀ b,
      footprint id d call b) :
    Within (Change now footprint) (processInstallationLifecycle now input) := by
  have hmark : Within (Change now footprint) (do
      let marked ← markWebhookReceiptProcessed input.receiptId input.processedAt
      require (marked = true) (.error "WEBHOOK_RECEIPT_PROCESS_COMPARE_AND_SET_FAILED")) :=
    .bind (within_of_frame fun _ _ _ => frame_markWebhookReceiptProcessed) fun _ => .require _ _
  unfold processInstallationLifecycle
  refine .bind .get fun s => .bind (.fromExcept _) fun pending => .ite (fun _ => ?_) fun _ => .pure _
  refine .bind (.require _ _) fun _ => .ite (fun _ => ?_) fun _ => hmark
  exact .bind (within_applyWebhookDeauthorization hf) fun _ => hmark

end WorkerStore
end RefundDesk
