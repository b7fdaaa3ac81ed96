import RefundDesk.Domain.Types

namespace RefundDesk

-- `EFFECT_TRANSITIONS`
def EffectState.transitions : EffectState → List EffectState
  | notStarted    => [possible, absenceProven]
  | possible      => [identified, absenceProven]
  | identified    => [absenceProven]
  | absenceProven => [possible]

-- `EffectTransitionContext`: the evidence that an identified refund had no effect, or nothing.
structure EffectTransitionContext where
  authoritativeStripeRefundStatus : Option StripeRefundStatus := none
  linkedStripeRefundId            : Option String := none
  observedStripeRefundId          : Option String := none

def transitionEffectState (current target : EffectState) (context : EffectTransitionContext) :
    Except DomainError EffectState :=
  if current = target then
    .ok target
  else if target ∉ current.transitions then
    .error ⟨.invalidEffectTransition,
      "Effect cannot transition from " ++ current.text ++ " to " ++ target.text⟩
  else if current = .identified ∧ target = .absenceProven ∧
      ((context.authoritativeStripeRefundStatus ≠ some .failed ∧
        context.authoritativeStripeRefundStatus ≠ some .canceled) ∨
      isRefundId (context.linkedStripeRefundId.getD "") = false ∨
      context.observedStripeRefundId ≠ context.linkedStripeRefundId) then
    .error ⟨.invalidEffectTransition,
      "An identified effect becomes absent only when Stripe fails or cancels the same linked Refund"⟩
  else
    .ok target

def EffectState.hasCertainAbsenceOfEffect : EffectState → Bool
  | notStarted | absenceProven => true
  | possible | identified      => false

-- `GuardState`
structure GuardState where
  workflowStatus     : WorkflowStatus
  effectState        : EffectState
  stripeRefundStatus : Option StripeRefundStatus

def canReleasePaymentGuard (state : GuardState) : Bool :=
  match state.workflowStatus with
  | .reconciliationRequired           => false
  | .rejected | .canceled | .expired  => state.effectState.hasCertainAbsenceOfEffect
  | .failedTerminal | .stale          => state.effectState = .absenceProven
  | .succeeded                        => state.stripeRefundStatus = some .succeeded
  | .pendingApproval | .approved | .executing => false

-- `WORKFLOW_TRANSITIONS`
def WorkflowStatus.transitions : WorkflowStatus → List WorkflowStatus
  | pendingApproval        => [approved, rejected, canceled, expired, stale]
  | approved               => [executing, stale]
  | executing              => [succeeded, reconciliationRequired, failedTerminal]
  | reconciliationRequired => [succeeded, failedTerminal, executing]
  | succeeded              => [failedTerminal]
  | failedTerminal | rejected | canceled | expired | stale => []

structure LinkedRefundTerminalCorrection where
  previousEffectState             : EffectState
  nextEffectState                 : EffectState
  linkedStripeRefundId            : String
  observedStripeRefundId          : String
  previousStripeRefundStatus      : StripeRefundStatus
  authoritativeStripeRefundStatus : StripeRefundStatus

-- `TransitionContext`, whose two shapes differ in the presence of the correction.
structure TransitionContext where
  effectState                    : EffectState
  stripeRefundStatus             : Option StripeRefundStatus := none
  linkedRefundTerminalCorrection : Option LinkedRefundTerminalCorrection := none

-- The demand of `transitionWorkflowStatus` on a step from `succeeded` to `failed_terminal`.
def LinkedRefundTerminalCorrection.check (context : TransitionContext) :
    Option LinkedRefundTerminalCorrection → Except DomainError Unit
  | none => .error ⟨.invalidWorkflowTransition,
      "A succeeded workflow can fail only from an explicit terminal correction of its linked Refund"⟩
  | some correction =>
    if correction.previousEffectState ≠ .identified ∨
        correction.nextEffectState ≠ .absenceProven ∨
        correction.previousStripeRefundStatus ≠ .succeeded ∨
        some correction.authoritativeStripeRefundStatus ≠ context.stripeRefundStatus ∨
        context.effectState ≠ .absenceProven then
      .error ⟨.invalidWorkflowTransition,
        "A succeeded workflow can fail only from an explicit terminal correction of its linked Refund"⟩
    else do
      let _ ← transitionEffectState correction.previousEffectState correction.nextEffectState {
        authoritativeStripeRefundStatus := some correction.authoritativeStripeRefundStatus
        linkedStripeRefundId            := some correction.linkedStripeRefundId
        observedStripeRefundId          := some correction.observedStripeRefundId
      }
      pure ()

def transitionWorkflowStatus (current target : WorkflowStatus) (context : TransitionContext) :
    Except DomainError WorkflowStatus :=
  if current = target then
    .ok current
  else if target ∉ current.transitions then
    .error ⟨.invalidWorkflowTransition,
      "Workflow cannot transition from " ++ current.text ++ " to " ++ target.text⟩
  else if context.linkedRefundTerminalCorrection.isSome ∧
      ¬(current = .succeeded ∧ target = .failedTerminal) then
    .error ⟨.invalidWorkflowTransition,
      "Linked Refund terminal correction evidence is valid only for succeeded to failed_terminal"⟩
  else do
    if current = .succeeded ∧ target = .failedTerminal then
      LinkedRefundTerminalCorrection.check context context.linkedRefundTerminalCorrection
    if current = .reconciliationRequired ∧ target = .executing ∧
        context.effectState ≠ .absenceProven then
      throw ⟨.invalidWorkflowTransition,
        "Execution may resume only after absence of a matching refund is proven"⟩
    if target = .succeeded ∧
        (context.effectState ≠ .identified ∨ context.stripeRefundStatus ≠ some .succeeded) then
      throw ⟨.invalidWorkflowTransition,
        "Workflow succeeds only after Stripe confirms the identified refund succeeded"⟩
    if (target = .failedTerminal ∨ target = .stale) ∧ context.effectState ≠ .absenceProven then
      throw ⟨.invalidWorkflowTransition,
        target.text ++ " requires certain absence of the requested effect"⟩
    pure target

-- The fields of `RefundWorkflow` that the terminal correction reads and writes.
structure RefundWorkflow where
  status             : WorkflowStatus
  effectState        : EffectState
  stripeRefundId     : Option String
  stripeRefundStatus : Option StripeRefundStatus
  deriving DecidableEq, Repr

-- `authoritative` has type `AbsenceProvingStripeRefundStatus` in the source.
def correctLinkedRefundTerminalStatus (workflow : RefundWorkflow)
    (observedStripeRefundId : String) (authoritative : StripeRefundStatus) :
    Except DomainError RefundWorkflow :=
  match workflow.stripeRefundId with
  | none => .error ⟨.invalidWorkflowTransition,
      "Terminal Stripe correction requires a succeeded workflow with one identified successful Refund"⟩
  | some linkedStripeRefundId =>
    if workflow.status ≠ .succeeded ∨ workflow.effectState ≠ .identified ∨
        workflow.stripeRefundStatus ≠ some .succeeded then
      .error ⟨.invalidWorkflowTransition,
        "Terminal Stripe correction requires a succeeded workflow with one identified successful Refund"⟩
    else do
      let correction : LinkedRefundTerminalCorrection := {
        previousEffectState             := .identified
        nextEffectState                 := .absenceProven
        linkedStripeRefundId            := linkedStripeRefundId
        observedStripeRefundId          := observedStripeRefundId
        previousStripeRefundStatus      := .succeeded
        authoritativeStripeRefundStatus := authoritative
      }
      let effectState ← transitionEffectState workflow.effectState correction.nextEffectState {
        authoritativeStripeRefundStatus := some correction.authoritativeStripeRefundStatus
        linkedStripeRefundId            := some correction.linkedStripeRefundId
        observedStripeRefundId          := some correction.observedStripeRefundId
      }
      let status ← transitionWorkflowStatus workflow.status .failedTerminal {
        effectState
        stripeRefundStatus             := some correction.authoritativeStripeRefundStatus
        linkedRefundTerminalCorrection := some correction
      }
      pure { workflow with
        status, effectState
        stripeRefundStatus := some correction.authoritativeStripeRefundStatus
      }

end RefundDesk
