import Mathlib
import RefundDesk.Domain.ApprovalAttestation
import RefundDesk.Domain.CanonicalTexts
import RefundDesk.Library.Transaction

namespace RefundDesk

namespace ApprovalAttestation

variable {payload payload' : ApprovalAttestationPayload} {fields : List (Option String)}

theorem ensure_eq_ok {p : Prop} [Decidable p] {message : String} {u : Unit} :
    ensure p message = .ok u ↔ p := by
  unfold ensure
  by_cases h : p <;> simp [h]

-- The fields of the canonical text of a payload.
def canonicalFields (payload : ApprovalAttestationPayload) : List (Option String) := [
  payload.canonicalRequestHash, payload.requestNonce, payload.tenantId, payload.installationId,
  payload.stripeAccountId, payload.environment.text, some payload.resourceType.text,
  payload.resourceId, payload.requestId, toString payload.requestVersion, payload.approverUserId,
  payload.requesterUserId, payload.approverStripeUserId, payload.requesterStripeUserId,
  payload.paymentKey, payload.paymentIntentId, payload.chargeId, toString payload.amountMinor,
  payload.currency, payload.reason.text, toString payload.policyVersion,
  toString payload.requiredApprovals, toString payload.expiresAt, toString payload.verifiedAt,
  toString payload.consumeBefore
]

theorem canonicalPayload_eq_ok (h : canonicalPayload payload = .ok fields) :
    isCanonicalUuid payload.requestNonce ∧ canonicalFields payload = fields := by
  unfold canonicalPayload at h
  unfold canonicalFields
  cases hr : payload.resourceType <;> cases hp : payload.paymentIntentId <;>
    simp only [hr, hp, assertBoundedMatch, assertCanonicalInstant, Except.bind_eq_ok,
      ensure_eq_ok, exists_const, pure, Except.pure, Except.ok.injEq] at h <;>
    grind

end ApprovalAttestation

open ApprovalAttestation

-- A canonical text is the one of one payload.
theorem canonicalPayload_injective {payload payload' : ApprovalAttestationPayload}
    {fields : List (Option String)} (h : canonicalPayload payload = .ok fields)
    (h' : canonicalPayload payload' = .ok fields) : payload = payload' := by
  have heq : canonicalFields payload = canonicalFields payload' :=
    (canonicalPayload_eq_ok h).2.trans (canonicalPayload_eq_ok h').2.symm
  simp only [canonicalFields, List.cons.injEq, Option.some.injEq, and_true,
    StripeEnvironment.text_injective.eq_iff, ResourceType.text_injective.eq_iff,
    RefundReason.text_injective.eq_iff, nat_toString_injective.eq_iff,
    int_toString_injective.eq_iff] at heq
  cases payload
  cases payload'
  simp_all

end RefundDesk
