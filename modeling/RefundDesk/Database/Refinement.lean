import RefundDesk.Database.Update
import RefundDesk.Domain.Workflow

namespace RefundDesk
namespace RefundRequest

def linkedRefundId (execution : Option RefundExecution) : Option String :=
  execution.bind (·.stripeRefundId)

def linkedRefundStatus (execution : Option RefundExecution) : Option StripeRefundStatus :=
  execution.bind (·.stripeRefundStatus)

-- The workflow of the domain before a correction: the row of the request with the status that a
-- succeeded workflow has recorded. The execution already holds the status that corrects it.
def correctedWorkflow (old : RefundRequest) (execution : Option RefundExecution) :
    RefundWorkflow where
  status             := old.workflowStatus
  effectState        := old.effectState
  stripeRefundId     := linkedRefundId execution
  stripeRefundStatus := some .succeeded

-- The step between two row images is one that the domain model takes.
structure DomainAccepts (execution : Option RefundExecution) (old new : RefundRequest) : Prop where
  workflow :
    transitionWorkflowStatus old.workflowStatus new.workflowStatus {
      effectState        := new.effectState
      stripeRefundStatus := linkedRefundStatus execution
    } = .ok new.workflowStatus ∨
    ∃ refundId status,
      linkedRefundId execution = some refundId ∧ linkedRefundStatus execution = some status ∧
      correctLinkedRefundTerminalStatus (old.correctedWorkflow execution) refundId status = .ok {
        status             := new.workflowStatus
        effectState        := new.effectState
        stripeRefundId     := some refundId
        stripeRefundStatus := some status
      }
  effect :
    transitionEffectState old.effectState new.effectState {
      authoritativeStripeRefundStatus := linkedRefundStatus execution
      linkedStripeRefundId            := linkedRefundId execution
      observedStripeRefundId          := linkedRefundId execution
    } = .ok new.effectState
  guard :
    old.paymentGuardReleasedAt = none → new.paymentGuardReleasedAt ≠ none →
    canReleasePaymentGuard {
      workflowStatus     := new.workflowStatus
      effectState        := new.effectState
      stripeRefundStatus := linkedRefundStatus execution
    }

section Steps

variable {env : TriggerEnv} {status : Option StripeRefundStatus} {execution : Option RefundExecution}
variable {refundId : String} {old new : RefundRequest}

-- An execution with a Stripe status is linked to a well-formed refund.
theorem linked_of_status {terminal : StripeRefundStatus}
    (hc : ∀ e ∈ execution, e.linkCheck env = .ok e)
    (hs : linkedRefundStatus execution = some terminal) :
    ∃ refundId, linkedRefundId execution = some refundId ∧ isRefundId refundId := by
  cases execution with
  | none   => simp [linkedRefundStatus] at hs
  | some e =>
    have hl := hc e rfl
    simp only [linkedRefundStatus, linkedRefundId, Option.bind_some] at hs ⊢
    unfold RefundExecution.linkCheck at hl
    cases hr : e.stripeRefundId with
    | none    => simp [hr, hs] at hl
    | some id =>
      refine ⟨id, rfl, ?_⟩
      by_contra hid
      rw [Bool.not_eq_true] at hid
      simp [hr, hid] at hl

-- Every step of the workflow but the correction of a succeeded one.
theorem workflow_accepted (h : old.validateWorkflowTransition status new = .ok new)
    (hs : new.workflowStatus = .succeeded → old.workflowStatus ≠ .succeeded → status ≠ none)
    (hc : ¬(old.workflowStatus = .succeeded ∧ new.workflowStatus = .failedTerminal)) :
    transitionWorkflowStatus old.workflowStatus new.workflowStatus {
      effectState        := new.effectState
      stripeRefundStatus := status
    } = .ok new.workflowStatus := by
  revert h hs hc
  unfold validateWorkflowTransition transitionWorkflowStatus
  generalize old.workflowStatus = current
  generalize new.workflowStatus = target
  cases current <;> cases target <;>
    simp [WorkflowStatus.transitions, Truth.holds_distinct, bind, Except.bind, pure, Except.pure]
  -- What is left are the two steps to `succeeded`, which compare the status.
  all_goals cases status <;> simp_all

theorem correction_accepted (h : old.validateWorkflowTransition status new = .ok new)
    (ho : old.workflowStatus = .succeeded) (hn : new.workflowStatus = .failedTerminal) :
    old.effectState = .identified ∧ new.effectState = .absenceProven ∧
      (status = some .failed ∨ status = some .canceled) := by
  unfold validateWorkflowTransition at h
  cases status with
  | none          => simp [ho, hn] at h
  | some terminal => cases terminal <;> simp [ho, hn, Truth.holds_not_member] at h ⊢ <;> grind [raise]

theorem correct_accepted {terminal : StripeRefundStatus} (ho : old.workflowStatus = .succeeded)
    (he : old.effectState = .identified) (hl : linkedRefundId execution = some refundId)
    (hr : isRefundId refundId) (ht : terminal = .failed ∨ terminal = .canceled) :
    correctLinkedRefundTerminalStatus (old.correctedWorkflow execution) refundId terminal = .ok {
      status             := .failedTerminal
      effectState        := .absenceProven
      stripeRefundId     := some refundId
      stripeRefundStatus := some terminal
    } := by
  rcases ht with rfl | rfl <;>
    simp [correctLinkedRefundTerminalStatus, correctedWorkflow, transitionEffectState,
      transitionWorkflowStatus, LinkedRefundTerminalCorrection.check, EffectState.transitions,
      WorkflowStatus.transitions, ho, he, hl, hr, bind, Except.bind, pure, Except.pure]

theorem effect_accepted {linked : Option String}
    (h : old.validateEffectTransition status new = .ok new)
    (hl : ∀ terminal, status = some terminal → ∃ id, linked = some id ∧ isRefundId id)
    (hs : old.effectState = .identified → new.effectState = .absenceProven → status ≠ none) :
    transitionEffectState old.effectState new.effectState {
      authoritativeStripeRefundStatus := status
      linkedStripeRefundId            := linked
      observedStripeRefundId          := linked
    } = .ok new.effectState := by
  revert h hs
  unfold validateEffectTransition transitionEffectState
  generalize old.effectState = current
  generalize new.effectState = target
  cases current <;> cases target <;> simp [EffectState.transitions, Truth.holds_not_member]
  -- The step from `identified` to `absence_proven`: the trigger has compared the status.
  intro ht hs
  cases status with
  | none          => exact absurd rfl hs
  | some terminal =>
    obtain ⟨id, rfl, hid⟩ := hl terminal rfl
    cases terminal <;> simp_all

theorem guard_accepted (h : old.validateGuardRelease status new = .ok new)
    (ho : old.paymentGuardReleasedAt = none) (hn : new.paymentGuardReleasedAt ≠ none) :
    canReleasePaymentGuard {
      workflowStatus     := new.workflowStatus
      effectState        := new.effectState
      stripeRefundStatus := status
    } := by
  revert h
  unfold validateGuardRelease canReleasePaymentGuard
  cases hw : new.workflowStatus <;>
    simp +contextual [ho, hn, Truth.holds_equal, EffectState.hasCertainAbsenceOfEffect]

-- The domain takes no step to `succeeded`, and none from `identified` to `absence_proven`, without
-- the status of the refund.
theorem DomainAccepts.status_known (h : DomainAccepts execution old new) :
    ¬(linkedRefundStatus execution = none ∧
      (new.workflowStatus = .succeeded ∧ old.workflowStatus ≠ .succeeded ∨
        new.effectState = .absenceProven ∧ old.effectState = .identified)) := by
  obtain ⟨hworkflow, heffect, -⟩ := h
  rintro ⟨hs, ⟨hn, ho⟩ | ⟨hn, ho⟩⟩
  · rcases hworkflow with hworkflow | ⟨_, _, _, hsome, _⟩
    · rw [hs, hn] at hworkflow
      revert hworkflow ho
      cases old.workflowStatus <;>
        simp [transitionWorkflowStatus, WorkflowStatus.transitions, bind, Except.bind]
    · simp [hs] at hsome
  · rw [hs, hn, ho] at heffect
    simp [transitionEffectState, EffectState.transitions] at heffect

end Steps

section Unconfirmed

-- A request whose refund was linked from a response that did not match it: the execution has no
-- Stripe status.
def unconfirmed : RefundRequestDetail where
  request := {
    installationId := "i", environment := .test, paymentKey := "pi_1", paymentIntentId := "pi_1"
    chargeId := "ch_1", amountMinor := 500, currency := "eur", reason := .requestedByCustomer
    requesterUserId := "u", policyVersion := 1, requiredApprovals := 1
    workflowStatus := .reconciliationRequired, effectState := .identified, version := 5
    paymentGuardReleasedAt := none, createdAt := 0, expiresAt := 100, approvedAt := some 1
    executionStartedAt := some 2, reconciliationSafeAfterAt := some 3, terminalAt := none
  }
  decisions := []
  execution := some {
    idempotencyKey := "k", canonicalParametersHash := "h", stripeRefundId := "re_1"
    stripeRefundStatus := none, amountMinor := 500, currency := "eur", lastStripeEventId := none
    lastStripeEventCreatedAt := none, lastStripeRequestId := none, reconciledAt := some 3
    attempts := []
  }
  candidates := .empty
  images := []

def unguarded : TriggerEnv where
  requestId             := "r"
  now                   := 4
  paymentProtected      := false
  refundLinkedElsewhere := fun _ => false
  approverEnabled       := fun _ => false

def declaredSucceeded : RefundRequest :=
  { unconfirmed.request with workflowStatus := .succeeded, version := 6, terminalAt := some 4 }

end Unconfirmed

end RefundRequest
end RefundDesk
