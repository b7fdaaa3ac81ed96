import RefundDesk.Database.Triggers

namespace RefundDesk
@[simp]
theorem raise_ne_ok {α : Type} {sqlState message : String} {a : α} :
    (raise sqlState message : Except StoreError α) ≠ .ok a := by
  simp [raise]

-- A check that raises lets a row pass when its condition fails.
theorem ite_raise_eq_ok {α : Type} {p : Prop} [Decidable p] {sqlState message : String}
    {x : Except StoreError α} {a : α} :
    (if p then raise sqlState message else x) = .ok a ↔ ¬p ∧ x = .ok a := by
  by_cases h : p <;> simp [h]

namespace RefundRequest

-- The row after the only trigger that writes one.
def stamped (env : TriggerEnv) (old new : RefundRequest) : RefundRequest :=
  if new.workflowStatus = .reconciliationRequired ∧
      old.workflowStatus ≠ .reconciliationRequired then
    { new with reconciliationSafeAfterAt := some (greatest env.now new.executionStartedAt) }
  else
    new

section Stamped

variable {env : TriggerEnv} {old new : RefundRequest}

@[simp]
theorem stamped_workflowStatus : (old.stamped env new).workflowStatus = new.workflowStatus := by
  unfold stamped; split <;> rfl

@[simp]
theorem stamped_effectState : (old.stamped env new).effectState = new.effectState := by
  unfold stamped; split <;> rfl

@[simp]
theorem stamped_version : (old.stamped env new).version = new.version := by
  unfold stamped; split <;> rfl

@[simp]
theorem stamped_paymentGuardReleasedAt :
    (old.stamped env new).paymentGuardReleasedAt = new.paymentGuardReleasedAt := by
  unfold stamped; split <;> rfl

@[simp]
theorem stamped_terminalAt : (old.stamped env new).terminalAt = new.terminalAt := by
  unfold stamped; split <;> rfl

@[simp]
theorem stamped_executionStartedAt :
    (old.stamped env new).executionStartedAt = new.executionStartedAt := by
  unfold stamped; split <;> rfl

@[simp]
theorem stamped_requesterUserId :
    (old.stamped env new).requesterUserId = new.requesterUserId := by
  unfold stamped; split <;> rfl

@[simp]
theorem stamped_requiredApprovals :
    (old.stamped env new).requiredApprovals = new.requiredApprovals := by
  unfold stamped; split <;> rfl

@[simp]
theorem stamped_financialSnapshot :
    (old.stamped env new).financialSnapshot = new.financialSnapshot := by
  unfold stamped; split <;> rfl

theorem stamped_of_ne (h : new.workflowStatus ≠ .reconciliationRequired) :
    old.stamped env new = new := by
  simp [stamped, h]

theorem stamped_of_eq (h : new.workflowStatus = old.workflowStatus) :
    old.stamped env new = new := by
  simp +contextual [stamped, h]

end Stamped

-- The payment of the request is in the scope of the pilot.
structure InScope (row : RefundRequest) : Prop where
  environment : row.environment.isPilot
  paymentKey  : isPaymentKey row.paymentKey

-- The conditions under which the database stores an UPDATE of a request.
structure Accepted (env : TriggerEnv) (detail : RefundRequestDetail) (new : RefundRequest) :
    Prop where
  scope       : new.InScope
  unprotected : new.workflowStatus ∈ [.pendingApproval, .approved, .executing] →
    env.paymentProtected = false
  snapshot    : new.financialSnapshot = detail.request.financialSnapshot
  version     : new.version = detail.request.version + 1
  terminal    : detail.request.terminalAt ≠ none → new.terminalAt = detail.request.terminalAt
  boundary    : new.workflowStatus = .reconciliationRequired ∧
      detail.request.workflowStatus ≠ .reconciliationRequired ∨
    new.reconciliationSafeAfterAt = detail.request.reconciliationSafeAfterAt
  decision    :
    detail.request.validateDurableDecisionTransition env detail.decisions new = .ok new
  effect      : detail.request.validateEffectTransition
    (detail.execution.bind (·.stripeRefundStatus)) new = .ok new
  guard       : detail.request.validateGuardRelease
    (detail.execution.bind (·.stripeRefundStatus)) new = .ok new
  workflow    : detail.request.validateWorkflowTransition
    (detail.execution.bind (·.stripeRefundStatus)) new = .ok new
  lifecycle   : (detail.request.stamped env new).lifecycleCheck =
    .ok (detail.request.stamped env new)

section Triggers

variable {env : TriggerEnv} {decisions : List ApprovalDecision} {status : Option StripeRefundStatus}
variable {old new row : RefundRequest}

theorem guardExternalPaymentProtection_eq_ok :
    new.guardExternalPaymentProtection env = .ok row ↔
      new = row ∧ new.InScope ∧
      (new.workflowStatus ∈ [.pendingApproval, .approved, .executing] →
        env.paymentProtected = false) := by
  unfold guardExternalPaymentProtection lockPaymentScope
  by_cases h : new.environment.isPilot ∧ isPaymentKey new.paymentKey
  · have hs : new.InScope := ⟨h.1, h.2⟩
    simp only [if_pos h, Except.bind_eq_ok, exists_const, hs, true_and]
    split_ifs <;> simp_all [pure, Except.pure]
  · have hs : ¬new.InScope := fun hs => h ⟨hs.environment, hs.paymentKey⟩
    simp [if_neg h, Except.bind_eq_ok, hs]

theorem preserveSnapshot_eq_ok :
    old.preserveSnapshot new = .ok row ↔
      new = row ∧ new.financialSnapshot = old.financialSnapshot ∧
      new.version = old.version + 1 ∧ (old.terminalAt ≠ none → new.terminalAt = old.terminalAt) := by
  unfold preserveSnapshot
  split_ifs <;> simp_all

theorem stampReconciliationSafeBoundary_eq_ok :
    old.stampReconciliationSafeBoundary env new = .ok row ↔
      old.stamped env new = row ∧
      (new.workflowStatus = .reconciliationRequired ∧
          old.workflowStatus ≠ .reconciliationRequired ∨
        new.reconciliationSafeAfterAt = old.reconciliationSafeAfterAt) := by
  unfold stampReconciliationSafeBoundary stamped
  split_ifs <;> simp_all

theorem validateDurableDecisionTransition_eq_ok :
    old.validateDurableDecisionTransition env decisions new = .ok row ↔
      new = row ∧ old.validateDurableDecisionTransition env decisions new = .ok new := by
  unfold validateDurableDecisionTransition
  dsimp only
  split_ifs <;> simp

theorem validateEffectTransition_eq_ok :
    old.validateEffectTransition status new = .ok row ↔
      new = row ∧ old.validateEffectTransition status new = .ok new := by
  unfold validateEffectTransition
  dsimp only
  split_ifs <;> simp

theorem validateGuardRelease_eq_ok :
    old.validateGuardRelease status new = .ok row ↔
      new = row ∧ old.validateGuardRelease status new = .ok new := by
  unfold validateGuardRelease
  split_ifs <;> simp

theorem validateWorkflowTransition_eq_ok :
    old.validateWorkflowTransition status new = .ok row ↔
      new = row ∧ old.validateWorkflowTransition status new = .ok new := by
  unfold validateWorkflowTransition
  dsimp only
  split_ifs <;> simp

theorem lifecycleCheck_eq_ok :
    new.lifecycleCheck = .ok row ↔ new = row ∧ new.lifecycleCheck = .ok new := by
  unfold lifecycleCheck
  repeat' split
  all_goals simp

-- The later triggers do not read the column that the stamp writes.
theorem validateDurableDecisionTransition_stamped :
    old.validateDurableDecisionTransition env decisions (old.stamped env new) =
        .ok (old.stamped env new) ↔
      old.validateDurableDecisionTransition env decisions new = .ok new := by
  simp only [validateDurableDecisionTransition, stamped_workflowStatus, stamped_requesterUserId,
    stamped_requiredApprovals]
  split_ifs <;> simp

theorem validateEffectTransition_stamped :
    old.validateEffectTransition status (old.stamped env new) = .ok (old.stamped env new) ↔
      old.validateEffectTransition status new = .ok new := by
  simp only [validateEffectTransition, stamped_effectState]
  split_ifs <;> simp

theorem validateGuardRelease_stamped :
    old.validateGuardRelease status (old.stamped env new) = .ok (old.stamped env new) ↔
      old.validateGuardRelease status new = .ok new := by
  simp only [validateGuardRelease, stamped_workflowStatus, stamped_effectState,
    stamped_paymentGuardReleasedAt]
  split_ifs <;> simp

theorem validateWorkflowTransition_stamped :
    old.validateWorkflowTransition status (old.stamped env new) = .ok (old.stamped env new) ↔
      old.validateWorkflowTransition status new = .ok new := by
  simp only [validateWorkflowTransition, stamped_workflowStatus, stamped_effectState]
  split_ifs <;> simp

end Triggers

theorem update_eq_ok {env : TriggerEnv} {detail : RefundRequestDetail} {new row : RefundRequest} :
    update env detail new = .ok row ↔
      row = detail.request.stamped env new ∧ Accepted env detail new := by
  unfold update
  simp only [Except.bind_eq_ok]
  constructor
  · rintro ⟨_, h₁, _, h₂, _, h₃, _, h₄, _, h₅, _, h₆, _, h₇, h₈⟩
    obtain ⟨rfl, hs, hu⟩ := guardExternalPaymentProtection_eq_ok.mp h₁
    obtain ⟨rfl, hf, hv, ht⟩ := preserveSnapshot_eq_ok.mp h₂
    obtain ⟨rfl, hb⟩ := stampReconciliationSafeBoundary_eq_ok.mp h₃
    obtain ⟨rfl, hd⟩ := validateDurableDecisionTransition_eq_ok.mp h₄
    obtain ⟨rfl, he⟩ := validateEffectTransition_eq_ok.mp h₅
    obtain ⟨rfl, hg⟩ := validateGuardRelease_eq_ok.mp h₆
    obtain ⟨rfl, hw⟩ := validateWorkflowTransition_eq_ok.mp h₇
    obtain ⟨rfl, hl⟩ := lifecycleCheck_eq_ok.mp h₈
    exact ⟨rfl, {
      scope := hs, unprotected := hu, snapshot := hf, version := hv, terminal := ht, boundary := hb
      decision  := validateDurableDecisionTransition_stamped.mp hd
      effect    := validateEffectTransition_stamped.mp he
      guard     := validateGuardRelease_stamped.mp hg
      workflow  := validateWorkflowTransition_stamped.mp hw
      lifecycle := hl
    }⟩
  · rintro ⟨rfl, h⟩
    exact ⟨_, guardExternalPaymentProtection_eq_ok.mpr ⟨rfl, h.scope, h.unprotected⟩,
      _, preserveSnapshot_eq_ok.mpr ⟨rfl, h.snapshot, h.version, h.terminal⟩,
      _, stampReconciliationSafeBoundary_eq_ok.mpr ⟨rfl, h.boundary⟩,
      _, validateDurableDecisionTransition_stamped.mpr h.decision,
      _, validateEffectTransition_stamped.mpr h.effect,
      _, validateGuardRelease_stamped.mpr h.guard,
      _, validateWorkflowTransition_stamped.mpr h.workflow, h.lifecycle⟩

end RefundRequest

namespace RefundExecution

-- An image of an execution that the trigger lets replace another one.
structure Preserves (old new : RefundExecution) : Prop where
  identity : new.identity = old.identity
  link     : old.stripeRefundId ≠ none → new.stripeRefundId = old.stripeRefundId
  status   : old.stripeRefundStatus ∈ [some .succeeded, some .failed, some .canceled] →
    new.stripeRefundStatus = old.stripeRefundStatus ∨
    old.stripeRefundStatus = some .succeeded ∧
      new.stripeRefundStatus ∈ [some .failed, some .canceled] ∨
    old.stripeRefundStatus = some .canceled ∧ new.stripeRefundStatus = some .failed
  event    : ∀ oldCreatedAt newCreatedAt, old.lastStripeEventCreatedAt = some oldCreatedAt →
    new.lastStripeEventCreatedAt = some newCreatedAt → oldCreatedAt ≤ newCreatedAt

theorem preserveFirstRefundLink_of_preserves {old new : RefundExecution}
    (h : Preserves old new) : old.preserveFirstRefundLink new = .ok new := by
  unfold preserveFirstRefundLink
  rw [if_neg (not_not.mpr h.identity), if_neg (by grind [h.link]), if_neg (by grind [h.status])]
  split
  case h_1 oldCreatedAt newCreatedAt ho hn => exact if_neg (h.event _ _ ho hn).not_gt
  case h_2 => rfl

-- A linked execution whose link no other execution has.
theorem linkCheck_eq_ok {env : TriggerEnv} {new row : RefundExecution} {refundId : String}
    (h : new.stripeRefundId = some refundId) :
    new.linkCheck env = .ok row ↔
      row = new ∧ isRefundId refundId ∧ env.refundLinkedElsewhere refundId = false := by
  unfold linkCheck
  rw [h]
  dsimp only
  split_ifs <;> grind [raise]

end RefundExecution
end RefundDesk
