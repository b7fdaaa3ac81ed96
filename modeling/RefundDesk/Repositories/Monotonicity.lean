import RefundDesk.Repositories.Runs

namespace RefundDesk

open Transaction Relation RequestRepository

-- The place of a recorded status in the life of a refund.
def stripeStatusRank : Option StripeRefundStatus → Nat
  | none                                  => 0
  | some .pending | some .requiresAction  => 1
  | some .succeeded                       => 2
  | some .canceled                        => 3
  | some .failed                          => 4

namespace RefundExecution

-- What the recorded state of a refund keeps from one observation to the next.
structure Advances (new old : RefundExecution) : Prop where
  refundId : ∀ refundId, old.stripeRefundId = some refundId → new.stripeRefundId = some refundId
  status   : stripeStatusRank old.stripeRefundStatus ≤ stripeStatusRank new.stripeRefundStatus
  event    : ∀ oldCreatedAt, old.lastStripeEventCreatedAt = some oldCreatedAt →
    ∃ newCreatedAt, new.lastStripeEventCreatedAt = some newCreatedAt ∧ oldCreatedAt ≤ newCreatedAt

variable {locked : RefundExecution} {input : IdentifiedRefundInput}

theorem Advances.refl (row : RefundExecution) : row.Advances row :=
  ⟨fun _ => id, le_rfl, fun createdAt h => ⟨createdAt, h, le_rfl⟩⟩

theorem Advances.trans {row₁ row₂ row₃ : RefundExecution} (h : row₃.Advances row₂)
    (h' : row₂.Advances row₁) : row₃.Advances row₁ where
  refundId refundId hr := h.refundId refundId (h'.refundId refundId hr)
  status               := h'.status.trans h.status
  event createdAt hc   := by
    obtain ⟨createdAt', hc', hle⟩ := h'.event createdAt hc
    obtain ⟨createdAt'', hc'', hle'⟩ := h.event createdAt' hc'
    exact ⟨createdAt'', hc'', hle.trans hle'⟩

-- The freshness rule never lets a status move down.
theorem rank_of_shouldApply (ha : shouldApplyRefundObservation locked input = true) :
    stripeStatusRank locked.stripeRefundStatus ≤ stripeStatusRank input.stripeRefundStatus := by
  unfold shouldApplyRefundObservation at ha
  rcases hc : locked.stripeRefundStatus with _ | _ | _ | _ | _ | _ <;>
    rcases hi : input.stripeRefundStatus with _ | _ | _ | _ | _ | _ <;>
    simp_all [stripeStatusRank]

theorem event_of_shouldApply {createdAt : Timestamp}
    (ha : shouldApplyRefundObservation locked input = true)
    (hc : locked.lastStripeEventCreatedAt = some createdAt) :
    ∃ createdAt', (recordObservation input locked).lastStripeEventCreatedAt = some createdAt' ∧
      createdAt ≤ createdAt' := by
  cases hi : input.stripeEventCreatedAt with
  | none          => exact ⟨createdAt, by simp [recordObservation, hi, hc], le_rfl⟩
  | some incoming =>
    refine ⟨incoming, by simp [recordObservation, hi], ?_⟩
    by_contra hlt
    simp [shouldApplyRefundObservation, isOlderEvent, hc, hi, not_le.mp hlt] at ha

theorem advances_of_recorded (hl : linkAgrees locked input)
    (ha : shouldApplyRefundObservation locked input = true) :
    (recordObservation input locked).Advances locked where
  refundId refundId hr := by
    rcases hl with hl | hl <;> simp_all [recordObservation]
  status               := rank_of_shouldApply ha
  event _ hc           := event_of_shouldApply ha hc

end RefundExecution

-- A committed call of `markRefundIdentified`, with any input. A call that throws changes nothing.
def IdentificationStep (d d' : RefundRequestDetail) : Prop :=
  ∃ env input b, (markRefundIdentified env input).Commits d b d'

section Identifications

variable {env : TriggerEnv} {input : IdentifiedRefundInput} {d d₀ d' : RefundRequestDetail}

-- The rest of a call leaves the execution as it has been recorded.
theorem execution_of_followObservation {locked : RefundExecution} {b : Bool}
    (h : (followObservation env input d.request locked).Commits d b d') :
    d'.execution = d.execution := by
  have hf := RequestCall.followed_of_followObservation h
  cases hf with
  | twice _ _ _ _ hd _ _ =>
    subst hd
    rfl
  | _ => rfl

theorem execution_of_identification {locked : RefundExecution} (h : IdentificationStep d d')
    (he : d.execution = some locked) :
    ∃ row, d'.execution = some row ∧ row.Advances locked := by
  obtain ⟨env, input, b, h⟩ := h
  rcases commits_markRefundIdentified.mp h with ⟨hnone, -, rfl⟩ | ⟨locked', he', h⟩
  · simp [he] at hnone
  · obtain rfl := Option.some.inj (he'.symm.trans he)
    rcases h with ⟨-, -, rfl⟩ | ⟨-, -, -, rfl⟩ | ⟨hl, ha, -, -, h⟩
    · exact ⟨locked', he, .refl _⟩
    · exact ⟨locked', he, .refl _⟩
    · have hexec : d'.execution = some (recordObservation input locked') :=
        execution_of_followObservation (d := recorded d input locked') h
      exact ⟨_, hexec, RefundExecution.advances_of_recorded hl ha⟩

-- What the triggers say to the updates that a call with this input issues.
structure RefundRequestDetail.PassesTriggers (d : RefundRequestDetail)
    (input : IdentifiedRefundInput) : Prop where
  link       : ∀ locked, d.execution = some locked → linkAgrees locked input →
    shouldApplyRefundObservation locked input = true →
    locked.preserveFirstRefundLink (recordObservation input locked) =
      .ok (recordObservation input locked)
  -- The correction of a success sees the status that the same call has recorded.
  correction : ∀ locked, d.execution = some locked → d.request.workflowStatus = .succeeded →
    locked.stripeRefundStatus = some .succeeded → d.request.effectState = .identified →
    input.stripeRefundStatus = some .failed ∨ input.stripeRefundStatus = some .canceled →
    d.request.validateWorkflowTransition
        ((recorded d input locked).execution.bind (·.stripeRefundStatus))
        (d.request.moved .failedTerminal .absenceProven) =
      .ok (d.request.moved .failedTerminal .absenceProven)

theorem passesTriggers (d : RefundRequestDetail) (input : IdentifiedRefundInput) :
    d.PassesTriggers input where
  link locked _ hl ha          :=
    RefundExecution.preserveFirstRefundLink_of_preserves (preserves_recordObservation hl ha)
  correction locked _ hw _ he hi := by
    rcases hi with hi | hi <;> simp [RefundRequest.validateWorkflowTransition, hw, he, hi, recorded,
      recordObservation, RefundRequest.moved, Truth.holds_not_member]

end Identifications

namespace Pilot

-- A succeeded refund, linked to the request whose success it is.
def linked : RefundExecution where
  idempotencyKey           := "refunddesk:refund-request:" ++ requestId ++ ":v1"
  canonicalParametersHash  := "hash"
  stripeRefundId           := some "re_1"
  stripeRefundStatus       := some .succeeded
  amountMinor              := 500
  currency                 := "eur"
  lastStripeEventId        := none
  lastStripeEventCreatedAt := none
  lastStripeRequestId      := none
  reconciledAt             := none
  attempts                 := []

def succeeded : RefundRequestDetail :=
  { requested with
    request   := requested.request.ended .succeeded .identified 3000
    execution := some linked
  }

def failure : IdentifiedRefundInput where
  stripeRefundId           := "re_1"
  stripeRefundStatus       := some .failed
  reconciliationResolution := .resolve
  stripeRequestId          := none
  stripeEventId            := some "evt_1"
  stripeEventCreatedAt     := some 4000
  observedAt               := 5000

def corrected : RefundRequestDetail :=
  (recorded succeeded failure linked).replaceRow
    (succeeded.request.moved .failedTerminal .absenceProven)

end Pilot

end RefundDesk
