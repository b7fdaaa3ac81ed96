import Mathlib.Data.List.Induction
import RefundDesk.Database.Refinement
import RefundDesk.Repositories.Soundness

namespace RefundDesk

open Transaction RequestRepository

-- What all observations of one Stripe refund agree on.
structure ObservedRefund where
  installationId  : String
  stripeRefundId  : String
  paymentKey      : String
  paymentIntentId : Option String
  chargeId        : Option String
  amountMinor     : Int
  currency        : String
  stripeCreatedAt : Timestamp
  deriving DecidableEq, Repr

-- The refund as the payment adapter reports it.
structure ObservedRefund.Valid (refund : ObservedRefund) : Prop where
  refundId   : isRefundId refund.stripeRefundId
  paymentKey : isPaymentKey refund.paymentKey
  payment    : refund.paymentIntentId ≠ none ∨ refund.chargeId ≠ none
  amount     : 0 < refund.amountMinor
  currency   : isCurrency refund.currency

-- What a webhook or a scan reports of the refund.
inductive CandidateObservation
  | webhook (stripeEventId : String) (eventCreated : Timestamp)
      (correlation : EventIdempotencyEvidence) (status : Option StripeRefundStatus)
  | scan (scanWindowEnd : Timestamp) (status : Option StripeRefundStatus)
  deriving DecidableEq, Repr

namespace CandidateObservation

def status : CandidateObservation → Option StripeRefundStatus
  | webhook _ _ _ status | scan _ status => status

-- When Stripe had the state that is reported.
def stateTime : CandidateObservation → Timestamp
  | webhook _ eventCreated _ _ => eventCreated
  | scan scanWindowEnd _       => scanWindowEnd

def correlation : CandidateObservation → EventIdempotencyEvidence
  | webhook _ _ correlation _ => correlation
  | scan _ _                  => .absent

def eventId : CandidateObservation → Option String
  | webhook stripeEventId _ _ _ => some stripeEventId
  | scan _ _                    => none

def eventCreated : CandidateObservation → Option Timestamp
  | webhook _ eventCreated _ _ => some eventCreated
  | scan _ _                   => none

def windowEnd : CandidateObservation → Option Timestamp
  | webhook _ _ _ _      => none
  | scan scanWindowEnd _ => some scanWindowEnd

-- The input that the worker builds from an observation.
def input (refund : ObservedRefund) (observation : CandidateObservation) (observedAt : Timestamp) :
    RefundCorrelationCandidateInput where
  installationId              := refund.installationId
  stripeRefundId              := refund.stripeRefundId
  paymentKey                  := refund.paymentKey
  paymentIntentId             := refund.paymentIntentId
  chargeId                    := refund.chargeId
  amountMinor                 := refund.amountMinor
  currency                    := refund.currency
  stripeRefundStatus          := observation.status
  stripeCreatedAt             := refund.stripeCreatedAt
  stripeEventId               := observation.eventId
  stripeEventCreatedAt        := observation.eventCreated
  eventIdempotencyCorrelation := observation.correlation
  scanWindowEnd               := observation.windowEnd
  observedAt

end CandidateObservation

-- The candidate of the refund after observations, each at the time of its processing.
inductive CandidateRun (refund : ObservedRefund) :
    RefundRequestDetail → List (CandidateObservation × Timestamp) → RefundRequestDetail → Prop
  | start {d : RefundRequestDetail} : CandidateRun refund d [] d
  | recorded {d d' d'' : RefundRequestDetail} {run : List (CandidateObservation × Timestamp)}
      {observation : CandidateObservation} {observedAt : Timestamp}
      {r : RefundCorrelationCandidateResult} :
    CandidateRun refund d run d' →
    (recordRefundCorrelationCandidate (observation.input refund observedAt)).Commits d' r d'' →
    CandidateRun refund d (run ++ [(observation, observedAt)]) d''

def EventIdempotencyEvidence.rank : EventIdempotencyEvidence → Nat
  | absent   => 0
  | mismatch => 1
  | exact    => 2

section Summary

variable {refund : ObservedRefund} {row : RefundCorrelationCandidate}
  {observation : CandidateObservation} {observedAt : Timestamp} {observations : List CandidateObservation}

-- The last observation with an exact key
def lastExact (observations : List CandidateObservation) : Option CandidateObservation :=
  observations.reverse.find? (·.correlation = .exact)

-- The newest of the observations that an event reports
def IsNewestEvent (observations : List CandidateObservation) (o : CandidateObservation) : Prop :=
  o ∈ observations ∧ o.eventId ≠ none ∧
    ∀ o' ∈ observations, o'.eventId ≠ none → o'.stateTime ≤ o.stateTime

-- The event that is kept of a sequence of observations: the last one with an exact key, else the
-- newest one.
def KeepsEvent (observations : List CandidateObservation) (row : RefundCorrelationCandidate) : Prop :=
  match lastExact observations with
  | some o => row.stripeEventId = o.eventId ∧ row.stripeEventCreatedAt = o.eventCreated
  | none   =>
    (∀ o ∈ observations, o.eventId = none) ∧ row.stripeEventId = none ∧
        row.stripeEventCreatedAt = none ∨
      ∃ o, IsNewestEvent observations o ∧ row.stripeEventId = o.eventId ∧
        row.stripeEventCreatedAt = o.eventCreated

-- What does not depend on the order of the observations.
structure Converged (observations : List CandidateObservation) (row : RefundCorrelationCandidate) :
    Prop where
  newest      : ∃ o ∈ observations, (∀ o' ∈ observations, o'.stateTime ≤ o.stateTime) ∧
    row.stripeRefundStatus = o.status ∧ row.stripeStateObservedAt = o.stateTime
  strongest   : (∃ o ∈ observations, o.correlation = row.eventIdempotencyCorrelation) ∧
    ∀ o ∈ observations, o.correlation.rank ≤ row.eventIdempotencyCorrelation.rank
  windows     : (∀ last ∈ row.lastSeenScanWindowEnd,
      ∃ o ∈ observations, o.windowEnd = some last) ∧
    ∀ o ∈ observations, ∀ w ∈ o.windowEnd, ∃ last ∈ row.lastSeenScanWindowEnd, w ≤ last

theorem Converged.congr {observations' : List CandidateObservation}
    (hsame : ∀ o, o ∈ observations ↔ o ∈ observations') (h : Converged observations row) :
    Converged observations' row := by
  obtain ⟨hnewest, hstrongest, hwindows⟩ := h
  simp only [hsame] at hnewest hstrongest hwindows
  exact ⟨hnewest, hstrongest, hwindows⟩

theorem mergedCorrelation_rank {input : RefundCorrelationCandidateInput} :
    (input.mergedCorrelation row).rank =
      max row.eventIdempotencyCorrelation.rank input.eventIdempotencyCorrelation.rank := by
  unfold RefundCorrelationCandidateInput.mergedCorrelation
  cases row.eventIdempotencyCorrelation <;> cases input.eventIdempotencyCorrelation <;> rfl

theorem mergedCorrelation_eq (row : RefundCorrelationCandidate)
    (input : RefundCorrelationCandidateInput) :
    input.mergedCorrelation row = row.eventIdempotencyCorrelation ∨
      input.mergedCorrelation row = input.eventIdempotencyCorrelation := by
  unfold RefundCorrelationCandidateInput.mergedCorrelation
  cases row.eventIdempotencyCorrelation <;> cases input.eventIdempotencyCorrelation <;> simp

theorem lastExact_concat : lastExact (observations ++ [observation]) =
    if observation.correlation = .exact then some observation else lastExact observations := by
  unfold lastExact
  rw [List.reverse_append, List.reverse_singleton, List.singleton_append, List.find?_cons]
  by_cases hexact : observation.correlation = .exact <;> simp [hexact]

theorem lastExact_eq_none : lastExact observations = none ↔
    ∀ o ∈ observations, o.correlation ≠ .exact := by
  simp [lastExact]

theorem mem_of_lastExact {o : CandidateObservation} (h : lastExact observations = some o) :
    o ∈ observations ∧ o.correlation = .exact :=
  ⟨List.mem_reverse.mp (List.mem_of_find?_eq_some h), by simpa using List.find?_some h⟩

theorem input_stateObservedAt :
    (observation.input refund observedAt).stripeStateObservedAt = observation.stateTime := by
  cases observation <;> rfl

theorem eventCreated_eq_some (h : observation.eventId ≠ none) :
    observation.eventCreated = some observation.stateTime := by
  cases observation with
  | webhook => rfl
  | scan    => exact absurd rfl h

theorem eventCreated_eq_none (h : observation.eventId = none) : observation.eventCreated = none := by
  cases observation with
  | webhook => cases h
  | scan    => rfl

theorem eventId_ne_none (h : observation.correlation = .exact) : observation.eventId ≠ none := by
  cases observation with
  | webhook => simp [CandidateObservation.eventId]
  | scan    => cases h

-- The row that the first observation creates.
theorem converged_created :
    Converged [observation] (observation.input refund observedAt).created := by
  refine ⟨⟨observation, by simp, by simp, rfl, input_stateObservedAt⟩, ⟨⟨observation, by simp, rfl⟩,
    by simp [RefundCorrelationCandidateInput.created, CandidateObservation.input]⟩, ?_, ?_⟩
  · intro last hlast
    exact ⟨observation, by simp, hlast⟩
  · intro o ho w hw
    obtain rfl := List.mem_singleton.mp ho
    exact ⟨w, hw, le_rfl⟩

theorem keepsEvent_created :
    KeepsEvent [observation] (observation.input refund observedAt).created := by
  have hsingle : [observation] = [] ++ [observation] := rfl
  unfold KeepsEvent
  rw [hsingle, lastExact_concat]
  split_ifs with hexact
  · exact ⟨rfl, rfl⟩
  · by_cases hevent : observation.eventId = none
    · exact .inl ⟨by simpa using hevent, hevent, eventCreated_eq_none hevent⟩
    · exact .inr ⟨observation, ⟨by simp, hevent, by simp⟩, rfl, rfl⟩

theorem hasNewerStripeState_iff :
    (observation.input refund observedAt).hasNewerStripeState row ↔
      row.stripeStateObservedAt ≤ observation.stateTime := by
  rw [RefundCorrelationCandidateInput.hasNewerStripeState, input_stateObservedAt, decide_eq_true_eq]

-- The later one of two window ends
theorem mergedScanWindowEnd_spec {input : RefundCorrelationCandidateInput} :
    (∀ last ∈ input.mergedScanWindowEnd row,
      last ∈ row.lastSeenScanWindowEnd ∨ last ∈ input.scanWindowEnd) ∧
    (∀ w ∈ row.lastSeenScanWindowEnd, ∃ last ∈ input.mergedScanWindowEnd row, w ≤ last) ∧
    ∀ w ∈ input.scanWindowEnd, ∃ last ∈ input.mergedScanWindowEnd row, w ≤ last := by
  unfold RefundCorrelationCandidateInput.mergedScanWindowEnd
  cases input.scanWindowEnd with
  | none => exact ⟨fun last hlast => .inl hlast, fun w hw => ⟨w, hw, le_rfl⟩, by simp⟩
  | some scanWindowEnd =>
    cases row.lastSeenScanWindowEnd with
    | none          => simp
    | some lastSeen =>
      by_cases hlt : lastSeen < scanWindowEnd
      · simp [hlt, hlt.le]
      · simp [hlt, not_lt.mp hlt]

-- One observation after others.
theorem Converged.merged (h : Converged observations row) :
    Converged (observations ++ [observation])
      ((observation.input refund observedAt).merged row) := by
  obtain ⟨⟨o, ho, hmax, hstatus, htime⟩, ⟨⟨o', ho', hstrongest⟩, hrank⟩, hlast, hwindows⟩ := h
  have hcorrelation : ((observation.input refund observedAt).merged row).eventIdempotencyCorrelation =
      (observation.input refund observedAt).mergedCorrelation row := rfl
  refine ⟨?_, ⟨?_, ?_⟩, ?_, ?_⟩
  · by_cases hnewer : row.stripeStateObservedAt ≤ observation.stateTime
    · refine ⟨observation, by simp, fun a ha => ?_, ?_, ?_⟩
      · rcases List.mem_append.mp ha with ha | ha
        · exact (hmax a ha).trans (htime ▸ hnewer)
        · rw [List.mem_singleton.mp ha]
      · exact if_pos (hasNewerStripeState_iff.mpr hnewer)
      · exact (if_pos (hasNewerStripeState_iff.mpr hnewer)).trans input_stateObservedAt
    · refine ⟨o, by simp [ho], fun a ha => ?_, ?_, ?_⟩
      · rcases List.mem_append.mp ha with ha | ha
        · exact hmax a ha
        · rw [List.mem_singleton.mp ha, ← htime]
          exact (not_le.mp hnewer).le
      · exact (if_neg (hasNewerStripeState_iff.not.mpr hnewer)).trans hstatus
      · exact (if_neg (hasNewerStripeState_iff.not.mpr hnewer)).trans htime
  · rcases mergedCorrelation_eq row (observation.input refund observedAt) with heq | heq
    · exact ⟨o', by simp [ho'], hstrongest.trans (hcorrelation.trans heq).symm⟩
    · exact ⟨observation, by simp, (hcorrelation.trans heq).symm⟩
  · intro a ha
    rw [hcorrelation, mergedCorrelation_rank]
    rcases List.mem_append.mp ha with ha | ha
    · exact (hrank a ha).trans (le_max_left _ _)
    · rw [List.mem_singleton.mp ha]
      exact le_max_right _ _
  · intro last hmerged
    rcases mergedScanWindowEnd_spec.1 last hmerged with hrow | hinput
    · obtain ⟨a, ha, hwindow⟩ := hlast last hrow
      exact ⟨a, by simp [ha], hwindow⟩
    · exact ⟨observation, by simp, hinput⟩
  · intro a ha w hw
    rcases List.mem_append.mp ha with ha | ha
    · obtain ⟨last, hrow, hle⟩ := hwindows a ha w hw
      obtain ⟨last', hmerged, hle'⟩ := mergedScanWindowEnd_spec.2.1 last hrow
      exact ⟨last', hmerged, hle.trans hle'⟩
    · rw [List.mem_singleton.mp ha] at hw
      exact mergedScanWindowEnd_spec.2.2 w hw

theorem exact_iff_lastExact (h : Converged observations row) :
    row.eventIdempotencyCorrelation = .exact ↔ lastExact observations ≠ none := by
  rw [Ne, lastExact_eq_none]
  push Not
  constructor
  · intro hexact
    obtain ⟨o, ho, hcorrelation⟩ := h.strongest.1
    exact ⟨o, ho, hcorrelation.trans hexact⟩
  · rintro ⟨o, ho, hexact⟩
    have hrank := h.strongest.2 o ho
    rw [hexact] at hrank
    cases hrow : row.eventIdempotencyCorrelation with
    | exact    => rfl
    | absent   => exact absurd (hrow ▸ hrank) (by decide)
    | mismatch => exact absurd (hrow ▸ hrank) (by decide)

-- An event replaces the one that is kept if its key is exact, or if it is not older and no key
-- before was exact.
theorem replacesEvent_iff :
    (observation.input refund observedAt).replacesEvent row ↔
      observation.eventId ≠ none ∧
        (observation.correlation = .exact ∨ row.eventIdempotencyCorrelation ≠ .exact ∧
          ∀ created ∈ row.stripeEventCreatedAt, created ≤ observation.stateTime) := by
  cases observation with
  | scan => simp [RefundCorrelationCandidateInput.replacesEvent, CandidateObservation.input,
      CandidateObservation.eventId]
  | webhook id eventCreated correlation status =>
    cases hcreated : row.stripeEventCreatedAt <;> cases hcorrelation : correlation <;>
      simp [RefundCorrelationCandidateInput.replacesEvent, CandidateObservation.input, hcreated,
        CandidateObservation.eventId, CandidateObservation.eventCreated,
        CandidateObservation.correlation, CandidateObservation.stateTime]

theorem IsNewestEvent.concat_none {o : CandidateObservation} (h : IsNewestEvent observations o)
    (hnone : observation.eventId = none) : IsNewestEvent (observations ++ [observation]) o := by
  refine ⟨by simp [h.1], h.2.1, fun o' ho' hevent => ?_⟩
  rcases List.mem_append.mp ho' with ho' | ho'
  · exact h.2.2 o' ho' hevent
  · rw [List.mem_singleton.mp ho'] at hevent
    exact absurd hnone hevent

theorem KeepsEvent.merged (h : KeepsEvent observations row)
    (hconverged : Converged observations row) :
    KeepsEvent (observations ++ [observation])
      ((observation.input refund observedAt).merged row) := by
  have hreplaced (hr : (observation.input refund observedAt).replacesEvent row) :
      ((observation.input refund observedAt).merged row).stripeEventId = observation.eventId ∧
        ((observation.input refund observedAt).merged row).stripeEventCreatedAt =
          observation.eventCreated :=
    ⟨if_pos hr, if_pos hr⟩
  have hkept (hr : ¬(observation.input refund observedAt).replacesEvent row) :
      ((observation.input refund observedAt).merged row).stripeEventId = row.stripeEventId ∧
        ((observation.input refund observedAt).merged row).stripeEventCreatedAt =
          row.stripeEventCreatedAt :=
    ⟨if_neg hr, if_neg hr⟩
  unfold KeepsEvent at h ⊢
  rw [lastExact_concat]
  by_cases hexact : observation.correlation = .exact
  · rw [if_pos hexact]
    exact hreplaced (replacesEvent_iff.mpr ⟨eventId_ne_none hexact, .inl hexact⟩)
  rw [if_neg hexact]
  cases hlast : lastExact observations with
  | some o =>
    have hrow := (exact_iff_lastExact hconverged).mpr (by simp [hlast])
    have hkeep : ¬(observation.input refund observedAt).replacesEvent row := by
      rw [replacesEvent_iff]
      rintro ⟨-, h | h⟩
      · exact hexact h
      · exact h.1 hrow
    rw [hlast] at h
    simp only [hkept hkeep]
    exact h
  | none =>
    have hrow : row.eventIdempotencyCorrelation ≠ .exact := by
      rw [Ne, exact_iff_lastExact hconverged]
      simp [hlast]
    rw [hlast] at h
    by_cases hevent : observation.eventId = none
    · have hkeep : ¬(observation.input refund observedAt).replacesEvent row :=
        fun hr => (replacesEvent_iff.mp hr).1 hevent
      simp only [hkept hkeep]
      rcases h with ⟨hnone, hrest⟩ | ⟨o, hnewest, hrest⟩
      · refine .inl ⟨fun o ho => ?_, hrest⟩
        rcases List.mem_append.mp ho with ho | ho
        · exact hnone o ho
        · rwa [List.mem_singleton.mp ho]
      · exact .inr ⟨o, hnewest.concat_none hevent, hrest⟩
    · by_cases holder : ∀ created ∈ row.stripeEventCreatedAt, created ≤ observation.stateTime
      · have hr : (observation.input refund observedAt).replacesEvent row :=
          replacesEvent_iff.mpr ⟨hevent, .inr ⟨hrow, holder⟩⟩
        refine .inr ⟨observation, ⟨by simp, hevent, fun o ho hother => ?_⟩, hreplaced hr⟩
        rcases List.mem_append.mp ho with ho | ho
        · rcases h with ⟨hnone, -⟩ | ⟨o', hnewest, -, hcreated⟩
          · exact absurd (hnone o ho) hother
          · rw [eventCreated_eq_some hnewest.2.1] at hcreated
            exact (hnewest.2.2 o ho hother).trans (holder _ hcreated)
        · rw [List.mem_singleton.mp ho]
      · have hkeep : ¬(observation.input refund observedAt).replacesEvent row := by
          rw [replacesEvent_iff]
          rintro ⟨-, h | h⟩
          · exact hexact h
          · exact holder h.2
        simp only [hkept hkeep]
        rcases h with ⟨-, -, hcreated⟩ | ⟨o, hnewest, hid, hcreated⟩
        · simp [hcreated] at holder
        · refine .inr ⟨o, ⟨by simp [hnewest.1], hnewest.2.1, fun a ha hother => ?_⟩, hid, hcreated⟩
          rcases List.mem_append.mp ha with ha | ha
          · exact hnewest.2.2 a ha hother
          · rw [eventCreated_eq_some hnewest.2.1] at hcreated
            rw [List.mem_singleton.mp ha]
            refine le_of_not_ge fun hle => holder fun created hmem => ?_
            rw [hcreated] at hmem
            exact Option.some.inj hmem ▸ hle

theorem Converged.conflicted (h : Converged observations row) :
    Converged observations (conflicted row) := by
  unfold RequestRepository.conflicted
  split_ifs
  · exact ⟨h.newest, h.strongest, h.windows⟩
  · exact h

theorem KeepsEvent.conflicted (h : KeepsEvent observations row) :
    KeepsEvent observations (conflicted row) := by
  unfold RequestRepository.conflicted
  split_ifs
  · exact h
  · exact h

-- The row was recorded for the refund.
def ObservedRefund.Agrees (refund : ObservedRefund) (row : RefundCorrelationCandidate) : Prop :=
  row.installationId = refund.installationId ∧ row.paymentKey = refund.paymentKey ∧
  row.paymentIntentId = refund.paymentIntentId ∧ row.chargeId = refund.chargeId ∧
  row.amountMinor = refund.amountMinor ∧ row.currency = refund.currency ∧
  row.stripeCreatedAt = refund.stripeCreatedAt

theorem tupleAgrees_input :
    (observation.input refund observedAt).tupleAgrees row ↔ refund.Agrees row :=
  Iff.rfl

theorem ObservedRefund.Agrees.conflicted (h : refund.Agrees row) :
    refund.Agrees (conflicted row) := by
  unfold RequestRepository.conflicted
  split_ifs
  · exact h
  · exact h

-- An event has an identifier of Stripe.
def CandidateObservation.Valid (observation : CandidateObservation) : Prop :=
  ∀ id ∈ observation.eventId, isEventId id

-- What the checks of the table say.
structure Checked (refundId : String) (row : RefundCorrelationCandidate) : Prop where
  refundId         : isRefundId refundId
  paymentKey       : isPaymentKey row.paymentKey
  payment          : row.paymentIntentId ≠ none ∨ row.chargeId ≠ none
  amount           : 0 < row.amountMinor
  currency         : isCurrency row.currency
  eventId          : ∀ id ∈ row.stripeEventId, isEventId id
  eventPair        : row.stripeEventId.isSome = row.stripeEventCreatedAt.isSome
  eventCorrelation : row.eventIdempotencyCorrelation ≠ .absent → row.stripeEventId ≠ none
  observed         : row.firstObservedAt ≤ row.lastObservedAt
  resolution       : row.state ∈ [.exactLinked, .uniqueLinked] ↔ row.resolvedAt ≠ none

theorem check_iff_checked {refundId : String} :
    row.check refundId = .ok row ↔ Checked refundId row := by
  have hevent : ¬(row.stripeEventId.any fun id => isEventId id = false) ↔
      ∀ id ∈ row.stripeEventId, isEventId id := by
    cases row.stripeEventId <;> simp
  simp only [RefundCorrelationCandidate.check, ite_raise_eq_ok, hevent, Bool.not_eq_false, not_le,
    not_lt, not_not, not_and_or, and_true]
  constructor
  · rintro ⟨h₁, h₂, h₃, h₄, h₅, h₆, h₇, h₈, h₉, h₁₀⟩
    exact ⟨h₁, h₂, h₃, h₄, h₅, h₆, h₇, h₈.resolve_left, h₉, h₁₀⟩
  · rintro ⟨h₁, h₂, h₃, h₄, h₅, h₆, h₇, h₈, h₉, h₁₀⟩
    exact ⟨h₁, h₂, h₃, h₄, h₅, h₆, h₇, or_iff_not_imp_left.mpr h₈, h₉, h₁₀⟩

theorem checked_created (hrefund : refund.Valid) (hvalid : observation.Valid) :
    Checked refund.stripeRefundId (observation.input refund observedAt).created where
  refundId         := hrefund.refundId
  paymentKey       := hrefund.paymentKey
  payment          := hrefund.payment
  amount           := hrefund.amount
  currency         := hrefund.currency
  eventId          := hvalid
  eventPair        := by cases observation <;> rfl
  eventCorrelation := by
    cases observation with
    | webhook => exact fun _ => Option.some_ne_none _
    | scan    => exact fun h => absurd rfl h
  observed         := le_rfl
  resolution       := by simp [RefundCorrelationCandidateInput.created]

-- The checks of the table hold after each merge.
theorem checked_merged (hvalid : observation.Valid) (hrow : Checked refund.stripeRefundId row) :
    Checked refund.stripeRefundId ((observation.input refund observedAt).merged row) := by
  have hevent : ((observation.input refund observedAt).merged row).stripeEventId =
      (if (observation.input refund observedAt).replacesEvent row then observation.eventId
        else row.stripeEventId) ∧
      ((observation.input refund observedAt).merged row).stripeEventCreatedAt =
        if (observation.input refund observedAt).replacesEvent row then observation.eventCreated
        else row.stripeEventCreatedAt :=
    ⟨rfl, rfl⟩
  refine ⟨hrow.refundId, hrow.paymentKey, hrow.payment, hrow.amount, hrow.currency, ?_, ?_, ?_,
    hrow.observed.trans (le_max_right _ _), hrow.resolution⟩
  · rw [hevent.1]
    split_ifs
    · exact hvalid
    · exact hrow.eventId
  · rw [hevent.1, hevent.2]
    split_ifs
    · cases observation <;> rfl
    · exact hrow.eventPair
  · rw [hevent.1]
    intro hcorrelation
    split_ifs with hr
    · exact (replacesEvent_iff.mp hr).1
    · by_cases hrowCorrelation : row.eventIdempotencyCorrelation = .absent
      case neg => exact hrow.eventCorrelation hrowCorrelation
      -- The event of the observation does not replace a missing one, so there is one.
      have hobservation : observation.correlation ≠ .absent := by
        intro hnone
        refine hcorrelation ?_
        rcases mergedCorrelation_eq row (observation.input refund observedAt) with heq | heq
        · exact heq.trans hrowCorrelation
        · exact heq.trans hnone
      have hevent : observation.eventId ≠ none := by
        cases observation with
        | webhook => exact Option.some_ne_none _
        | scan    => exact absurd rfl hobservation
      intro hnone
      refine hr (replacesEvent_iff.mpr ⟨hevent, .inr ⟨by rw [hrowCorrelation]; decide, ?_⟩⟩)
      intro created hcreated
      have hpair := hrow.eventPair
      rw [hnone, Option.mem_def.mp hcreated] at hpair
      cases hpair

theorem Checked.conflicted {refundId : String} (h : Checked refundId row) :
    Checked refundId (conflicted row) :=
  check_iff_checked.mp (RefundCorrelationCandidate.check_conflicted (check_iff_checked.mpr h))

end Summary

section Runs

variable {refund : ObservedRefund} {d d' d'' : RefundRequestDetail}
  {run : List (CandidateObservation × Timestamp)} {observation : CandidateObservation}
  {observedAt : Timestamp}

-- The row of the refund after observations of it.
structure CandidateAfter (refund : ObservedRefund) (observations : List CandidateObservation)
    (row : RefundCorrelationCandidate) : Prop where
  agrees    : refund.Agrees row
  checked   : Checked refund.stripeRefundId row
  converged : Converged observations row
  event     : KeepsEvent observations row

theorem CandidateAfter.conflicted {observations : List CandidateObservation}
    {row : RefundCorrelationCandidate} (h : CandidateAfter refund observations row) :
    CandidateAfter refund observations (conflicted row) :=
  ⟨h.agrees.conflicted, h.checked.conflicted, h.converged.conflicted, h.event.conflicted⟩

theorem CandidateAfter.merged {observations : List CandidateObservation}
    {row : RefundCorrelationCandidate} (hvalid : observation.Valid)
    (h : CandidateAfter refund observations row) :
    CandidateAfter refund (observations ++ [observation])
      ((observation.input refund observedAt).merged row) :=
  ⟨h.agrees, checked_merged hvalid h.checked, h.converged.merged, h.event.merged h.converged⟩

-- Merging an observation into the row that was created from it changes nothing.
theorem merged_created (input : RefundCorrelationCandidateInput) :
    input.merged input.created = input.created := by
  have hcorrelation : input.mergedCorrelation input.created = input.eventIdempotencyCorrelation := by
    rcases mergedCorrelation_eq input.created input with heq | heq
    · exact heq
    · exact heq
  have hwindow : input.mergedScanWindowEnd input.created = input.scanWindowEnd := by
    unfold RefundCorrelationCandidateInput.mergedScanWindowEnd
    cases hend : input.scanWindowEnd with
    | none     => exact hend
    | some end' => simp [RefundCorrelationCandidateInput.created, hend]
  unfold RefundCorrelationCandidateInput.merged
  rw [hcorrelation, hwindow]
  split_ifs <;> simp [RefundCorrelationCandidateInput.created]

theorem candidateAfter_first (hrefund : refund.Valid) (hvalid : observation.Valid) :
    CandidateAfter refund [observation]
      ((observation.input refund observedAt).merged
        (observation.input refund observedAt).created) := by
  rw [merged_created]
  exact ⟨⟨rfl, rfl, rfl, rfl, rfl, rfl, rfl⟩, checked_created hrefund hvalid, converged_created,
    keepsEvent_created⟩

theorem find?_stored (d : RefundRequestDetail) (input : RefundCorrelationCandidateInput)
    (row : RefundCorrelationCandidate) :
    ∃ row', (storedCandidates d input row).find? input.stripeRefundId = some row' ∧
      (row' = input.merged row ∨ row' = conflicted (input.merged row)) := by
  unfold storedCandidates
  dsimp only
  split_ifs
  · refine ⟨conflicted (input.merged row), ?_, .inr rfl⟩
    rw [Table.find?_map, Table.find?_insert_self, Option.map_some]
  · exact ⟨input.merged row, Table.find?_insert_self .., .inl rfl⟩

-- One observation of a refund that was observed before, or of a new one.
theorem commits_observation (observedAt : Timestamp) (hrefund : refund.Valid) (hvalid : observation.Valid)
    {observations : List CandidateObservation}
    (hbefore : observations = [] ∧ d.candidates.find? refund.stripeRefundId = none ∨
      ∃ row, d.candidates.find? refund.stripeRefundId = some row ∧
        CandidateAfter refund observations row) :
    ∃ r d', (recordRefundCorrelationCandidate (observation.input refund observedAt)).Commits d r d' ∧
      ∃ row, d'.candidates.find? refund.stripeRefundId = some row ∧
        CandidateAfter refund (observations ++ [observation]) row := by
  obtain ⟨row, hrow, hagrees, hafter⟩ : ∃ row,
      (d.candidates.find? refund.stripeRefundId = some row ∨
        d.candidates.find? refund.stripeRefundId = none ∧
          row = (observation.input refund observedAt).created ∧
          row.check refund.stripeRefundId = .ok row) ∧
      refund.Agrees row ∧
      CandidateAfter refund (observations ++ [observation])
        ((observation.input refund observedAt).merged row) := by
    rcases hbefore with ⟨rfl, hnone⟩ | ⟨row, hfind, hrow⟩
    · exact ⟨_, .inr ⟨hnone, rfl, check_iff_checked.mpr (checked_created hrefund hvalid)⟩,
        ⟨rfl, rfl, rfl, rfl, rfl, rfl, rfl⟩, candidateAfter_first hrefund hvalid⟩
    · exact ⟨row, .inl hfind, hrow.agrees, hrow.merged hvalid⟩
  refine ⟨_, _, commits_recordRefundCorrelationCandidate.mpr ⟨row, ?_, hagrees,
    check_iff_checked.mpr hafter.checked, rfl, rfl⟩, ?_⟩
  · rcases hrow with hfind | ⟨hnone, rfl, hcheck⟩
    · exact .inl hfind
    · exact .inr ⟨hnone, rfl, hcheck⟩
  · obtain ⟨row', hfind, rfl | rfl⟩ :=
      find?_stored d (observation.input refund observedAt) row
    · exact ⟨_, hfind, hafter⟩
    · exact ⟨_, hfind, hafter.conflicted⟩

-- A run of observations never fails.
theorem candidateRun_exists (hrefund : refund.Valid) (hvalid : ∀ e ∈ run, e.1.Valid)
    (hnew : d.candidates.find? refund.stripeRefundId = none) :
    ∃ d', CandidateRun refund d run d' ∧
      (run = [] ∧ d' = d ∨ ∃ row, d'.candidates.find? refund.stripeRefundId = some row ∧
        CandidateAfter refund (run.map (·.1)) row) := by
  induction run using List.reverseRecOn with
  | nil => exact ⟨d, .start, .inl ⟨rfl, rfl⟩⟩
  | append_singleton run e ih =>
    obtain ⟨d', hrun, hafter⟩ := ih fun e' he' => hvalid e' (by simp [he'])
    have hbefore : run.map (·.1) = [] ∧ d'.candidates.find? refund.stripeRefundId = none ∨
        ∃ row, d'.candidates.find? refund.stripeRefundId = some row ∧
          CandidateAfter refund (run.map (·.1)) row := by
      rcases hafter with ⟨rfl, rfl⟩ | hafter
      · exact .inl ⟨rfl, hnew⟩
      · exact .inr hafter
    obtain ⟨r, d'', hc, row, hfind, hrow⟩ :=
      commits_observation e.2 hrefund (hvalid e (by simp)) hbefore
    refine ⟨d'', .recorded hrun hc, .inr ⟨row, hfind, ?_⟩⟩
    rwa [List.map_append]

theorem CandidateRun.deterministic (h : CandidateRun refund d run d') :
    ∀ {d''}, CandidateRun refund d run d'' → d'' = d' := by
  induction h with
  | start =>
    intro d'' h'
    generalize hrun : ([] : List (CandidateObservation × Timestamp)) = run' at h'
    cases h' with
    | start    => rfl
    | recorded => simp at hrun
  | @recorded d₁ d₂ run observation observedAt _ _ hc ih =>
    intro d'' h'
    generalize hrun : run ++ [(observation, observedAt)] = run' at h'
    cases h' with
    | start           => simp at hrun
    | recorded h' hc' =>
      obtain ⟨rfl, hlast⟩ := List.append_inj' hrun rfl
      obtain ⟨rfl, rfl⟩ := Prod.mk.inj (List.singleton_inj.mp hlast)
      obtain rfl := ih h'
      exact (hc.deterministic hc').2.symm

end Runs

section OrderIndependence

variable {refund : ObservedRefund} {d : RefundRequestDetail}
  {observations observations' : List CandidateObservation} {row row' : RefundCorrelationCandidate}

-- The columns that the merge decides.
structure CandidateSummary where
  stripeRefundStatus          : Option StripeRefundStatus
  stripeStateObservedAt       : Timestamp
  stripeEventId               : Option String
  stripeEventCreatedAt        : Option Timestamp
  eventIdempotencyCorrelation : EventIdempotencyEvidence
  lastSeenScanWindowEnd       : Option Timestamp
  deriving DecidableEq, Repr

def RefundCorrelationCandidate.summary (row : RefundCorrelationCandidate) : CandidateSummary where
  stripeRefundStatus          := row.stripeRefundStatus
  stripeStateObservedAt       := row.stripeStateObservedAt
  stripeEventId               := row.stripeEventId
  stripeEventCreatedAt        := row.stripeEventCreatedAt
  eventIdempotencyCorrelation := row.eventIdempotencyCorrelation
  lastSeenScanWindowEnd       := row.lastSeenScanWindowEnd

-- The newest of the events with the strongest evidence
structure IsStrongestEvent (observations : List CandidateObservation)
    (row : RefundCorrelationCandidate) (o : CandidateObservation) : Prop where
  mem       : o ∈ observations
  event     : o.eventId ≠ none
  strongest : o.correlation = row.eventIdempotencyCorrelation
  newest    : ∀ o' ∈ observations, o'.eventId ≠ none →
    o'.correlation = row.eventIdempotencyCorrelation → o'.stateTime ≤ o.stateTime

def KeepsStrongestEvent (observations : List CandidateObservation)
    (row : RefundCorrelationCandidate) : Prop :=
  (∀ o ∈ observations, o.eventId = none) ∧ row.stripeEventId = none ∧
      row.stripeEventCreatedAt = none ∨
    ∃ o, IsStrongestEvent observations row o ∧ row.stripeEventId = o.eventId ∧
      row.stripeEventCreatedAt = o.eventCreated

-- There is at most one event with an exact key, and if there is none but one with the key of
-- another request, then the newest event has such a key too.
structure Orderless (observations : List CandidateObservation) : Prop where
  exact    : ∀ o ∈ observations, ∀ o' ∈ observations, o.correlation = .exact →
    o'.correlation = .exact → o = o'
  mismatch : (∀ o ∈ observations, o.correlation ≠ .exact) →
    (∃ o ∈ observations, o.correlation = .mismatch) →
    ∀ o, IsNewestEvent observations o → o.correlation = .mismatch

theorem EventIdempotencyEvidence.rank_injective :
    Function.Injective EventIdempotencyEvidence.rank := by
  intro a b h
  cases a <;> cases b <;> first | rfl | cases h

-- The newest state, the strongest evidence and the last window are determined.
theorem Converged.unique (hdistinct : ∀ o ∈ observations, ∀ o' ∈ observations,
      o.stateTime = o'.stateTime → o = o')
    (h : Converged observations row) (h' : Converged observations row') :
    row.stripeRefundStatus = row'.stripeRefundStatus ∧
      row.stripeStateObservedAt = row'.stripeStateObservedAt ∧
      row.eventIdempotencyCorrelation = row'.eventIdempotencyCorrelation ∧
      row.lastSeenScanWindowEnd = row'.lastSeenScanWindowEnd := by
  obtain ⟨o, ho, hmax, hstatus, htime⟩ := h.newest
  obtain ⟨o', ho', hmax', hstatus', htime'⟩ := h'.newest
  obtain rfl := hdistinct o ho o' ho' (le_antisymm (hmax' o ho) (hmax o' ho'))
  refine ⟨hstatus.trans hstatus'.symm, htime.trans htime'.symm, ?_, ?_⟩
  · obtain ⟨⟨a, ha, heq⟩, hrank⟩ := h.strongest
    obtain ⟨⟨a', ha', heq'⟩, hrank'⟩ := h'.strongest
    refine EventIdempotencyEvidence.rank_injective (le_antisymm ?_ ?_)
    · exact heq ▸ hrank' a ha
    · exact heq' ▸ hrank a' ha'
  · have hle {r r' : RefundCorrelationCandidate} (h : Converged observations r)
        (h' : Converged observations r') :
        ∀ last ∈ r.lastSeenScanWindowEnd, ∃ last' ∈ r'.lastSeenScanWindowEnd, last ≤ last' := by
      intro last hlast
      obtain ⟨o, ho, hwindow⟩ := h.windows.1 last hlast
      exact h'.windows.2 o ho last hwindow
    ext last
    constructor
    · intro hlast
      obtain ⟨last', hlast', h₁⟩ := hle h h' last hlast
      obtain ⟨last'', hlast'', h₂⟩ := hle h' h last' hlast'
      obtain rfl := Option.some.inj (hlast.symm.trans hlast'')
      rwa [le_antisymm h₁ h₂]
    · intro hlast
      obtain ⟨last', hlast', h₁⟩ := hle h' h last hlast
      obtain ⟨last'', hlast'', h₂⟩ := hle h h' last' hlast'
      obtain rfl := Option.some.inj (hlast.symm.trans hlast'')
      rwa [le_antisymm h₁ h₂]

theorem CandidateObservation.stateTime_of_eventCreated {o o' : CandidateObservation}
    (ho : o.eventId ≠ none) (ho' : o'.eventId ≠ none) (h : o.eventCreated = o'.eventCreated) :
    o.stateTime = o'.stateTime := by
  rw [eventCreated_eq_some ho, eventCreated_eq_some ho'] at h
  exact Option.some.inj h

theorem KeepsEvent.strongest (horderless : Orderless observations)
    (hsame : ∀ o, o ∈ observations' ↔ o ∈ observations)
    (hconverged : Converged observations' row) (h : KeepsEvent observations' row) :
    KeepsStrongestEvent observations row := by
  unfold KeepsEvent at h
  cases hlast : lastExact observations' with
  | some o =>
    rw [hlast] at h
    obtain ⟨ho, hexact⟩ := mem_of_lastExact hlast
    have hrow := (exact_iff_lastExact hconverged).mpr (by simp [hlast])
    refine .inr ⟨o, ⟨(hsame o).mp ho, eventId_ne_none hexact, hexact.trans hrow.symm,
      fun o' ho' _ hexact' => ?_⟩, h⟩
    rw [horderless.exact o' ho' o ((hsame o).mp ho) (hexact'.trans hrow) hexact]
  | none =>
    rw [hlast] at h
    rcases h with ⟨hnone, hrest⟩ | ⟨o, hnewest, hrest⟩
    · exact .inl ⟨fun o ho => hnone o ((hsame o).mpr ho), hrest⟩
    · have hnewest : IsNewestEvent observations o :=
        ⟨(hsame o).mp hnewest.1, hnewest.2.1, fun o' ho' => hnewest.2.2 o' ((hsame o').mpr ho')⟩
      refine .inr ⟨o, ⟨hnewest.1, hnewest.2.1, ?_, fun o' ho' he' _ => hnewest.2.2 o' ho' he'⟩,
        hrest⟩
      have hnoexact : ∀ o ∈ observations, o.correlation ≠ .exact :=
        fun o ho => lastExact_eq_none.mp hlast o ((hsame o).mpr ho)
      cases hrow : row.eventIdempotencyCorrelation with
      | exact =>
        exact absurd hlast ((exact_iff_lastExact hconverged).mp hrow)
      | mismatch =>
        obtain ⟨a, ha, heq⟩ := hconverged.strongest.1
        exact horderless.mismatch hnoexact ⟨a, (hsame a).mp ha, heq.trans hrow⟩ o hnewest
      | absent =>
        have hrank := hconverged.strongest.2 o ((hsame o).mpr hnewest.1)
        rw [hrow] at hrank
        exact EventIdempotencyEvidence.rank_injective (Nat.le_zero.mp hrank)

-- The columns of a row that keeps the newest event of the strongest evidence are determined.
theorem summary_unique (hdistinct : ∀ o ∈ observations, ∀ o' ∈ observations,
      o.stateTime = o'.stateTime → o = o')
    (h : Converged observations row) (h' : Converged observations row')
    (he : KeepsStrongestEvent observations row) (he' : KeepsStrongestEvent observations row') :
    row.summary = row'.summary := by
  obtain ⟨hstatus, htime, hcorrelation, hwindow⟩ := h.unique hdistinct h'
  have hevent : row.stripeEventId = row'.stripeEventId ∧
      row.stripeEventCreatedAt = row'.stripeEventCreatedAt := by
    rcases he with ⟨hnone, hid, hcreated⟩ | ⟨o, ho, hid, hcreated⟩
    · rcases he' with ⟨-, hid', hcreated'⟩ | ⟨o', ho', -⟩
      · exact ⟨hid.trans hid'.symm, hcreated.trans hcreated'.symm⟩
      · exact absurd (hnone o' ho'.mem) ho'.event
    · rcases he' with ⟨hnone, -⟩ | ⟨o', ho', hid', hcreated'⟩
      · exact absurd (hnone o ho.mem) ho.event
      · have hle := ho'.newest o ho.mem ho.event (ho.strongest.trans hcorrelation)
        have hge := ho.newest o' ho'.mem ho'.event (ho'.strongest.trans hcorrelation.symm)
        obtain rfl := hdistinct o ho.mem o' ho'.mem (le_antisymm hle hge)
        exact ⟨hid.trans hid'.symm, hcreated.trans hcreated'.symm⟩
  simp only [RefundCorrelationCandidate.summary, hstatus, htime, hcorrelation, hwindow, hevent]

-- The observations lead to one candidate in any order and with any repetitions, and the candidate
-- keeps the newest event of the strongest evidence.
def MergesInAnyOrder (refund : ObservedRefund) (d : RefundRequestDetail)
    (observations : List CandidateObservation) : Prop :=
  ∃ summary, ∀ run, (∀ o, o ∈ run.map (·.1) ↔ o ∈ observations) →
    ∃ d' row, CandidateRun refund d run d' ∧
      d'.candidates.find? refund.stripeRefundId = some row ∧
      row.check refund.stripeRefundId = .ok row ∧ row.summary = summary ∧
      Converged observations row ∧ KeepsStrongestEvent observations row

theorem candidateAfter_run (hrefund : refund.Valid)
    (hnew : d.candidates.find? refund.stripeRefundId = none) (hne : observations ≠ [])
    (hvalid : ∀ o ∈ observations, o.Valid)
    {run : List (CandidateObservation × Timestamp)}
    (hsame : ∀ o, o ∈ run.map (·.1) ↔ o ∈ observations) :
    ∃ d' row, CandidateRun refund d run d' ∧
      d'.candidates.find? refund.stripeRefundId = some row ∧
      CandidateAfter refund (run.map (·.1)) row := by
  obtain ⟨d', hrun, ⟨rfl, -⟩ | ⟨row, hfind, hafter⟩⟩ := candidateRun_exists hrefund
    (fun e he => hvalid e.1 ((hsame e.1).mp (List.mem_map_of_mem he))) hnew
  · obtain ⟨o, ho⟩ := List.exists_mem_of_ne_nil observations hne
    simpa using (hsame o).mpr ho
  · exact ⟨d', row, hrun, hfind, hafter⟩

theorem orderless_of_merges (hrefund : refund.Valid)
    (hnew : d.candidates.find? refund.stripeRefundId = none) (hne : observations ≠ [])
    (hvalid : ∀ o ∈ observations, o.Valid)
    (hdistinct : ∀ o ∈ observations, ∀ o' ∈ observations, o.stateTime = o'.stateTime → o = o')
    (h : MergesInAnyOrder refund d observations) : Orderless observations := by
  obtain ⟨summary, hmerges⟩ := h
  have hkept (sequence : List CandidateObservation)
      (hsame : ∀ o, o ∈ sequence ↔ o ∈ observations) :
      ∃ row, CandidateAfter refund sequence row ∧ KeepsStrongestEvent observations row := by
    have hmap : (sequence.map fun o => (o, (0 : Timestamp))).map (·.1) = sequence :=
      (List.map_map ..).trans (List.map_id sequence)
    obtain ⟨d', row, hrun', hfind, -, -, -, hstrongest⟩ :=
      hmerges (sequence.map fun o => (o, 0)) (by rwa [hmap])
    obtain ⟨d'', row', hrun'', hfind', hafter⟩ :=
      candidateAfter_run hrefund hnew hne hvalid (by rwa [hmap])
    obtain rfl := hrun'.deterministic hrun''
    obtain rfl := Option.some.inj (hfind.symm.trans hfind')
    exact ⟨row, hmap ▸ hafter, hstrongest⟩
  refine ⟨?_, ?_⟩
  · -- With the exact event at the end it is the one that is kept, so it is the newest one.
    have hnewest : ∀ o ∈ observations, o.correlation = .exact → ∀ o' ∈ observations,
        o'.correlation = .exact → o'.stateTime ≤ o.stateTime := by
      intro o ho hexact o' ho' hexact'
      obtain ⟨row, hafter, hstrongest⟩ := hkept (observations ++ [o]) fun a => by
        simp only [List.mem_append, List.mem_singleton]
        exact ⟨fun h => h.elim id (· ▸ ho), .inl⟩
      have hlast : lastExact (observations ++ [o]) = some o := by
        rw [lastExact_concat, if_pos hexact]
      have hrow := (exact_iff_lastExact hafter.converged).mpr (by simp [hlast])
      have hevent := hafter.event
      rw [KeepsEvent, hlast] at hevent
      rcases hstrongest with ⟨hnone, -⟩ | ⟨k, hk, -, hcreated⟩
      · exact absurd (hnone o ho) (eventId_ne_none hexact)
      · have htime := CandidateObservation.stateTime_of_eventCreated hk.event
          (eventId_ne_none hexact) (hcreated.symm.trans hevent.2)
        exact htime ▸ hk.newest o' ho' (eventId_ne_none hexact') (hexact'.trans hrow.symm)
    intro o ho o' ho' hexact hexact'
    exact hdistinct o ho o' ho'
      (le_antisymm (hnewest o' ho' hexact' o ho hexact) (hnewest o ho hexact o' ho' hexact'))
  · rintro hnoexact ⟨m, hm, hmismatch⟩ o hnewest
    obtain ⟨row, hafter, hstrongest⟩ := hkept observations fun _ => Iff.rfl
    have hevent := hafter.event
    rw [KeepsEvent, lastExact_eq_none.mpr hnoexact] at hevent
    have hmevent : m.eventId ≠ none := by
      cases m with
      | webhook => exact Option.some_ne_none _
      | scan    => cases hmismatch
    rcases hevent with ⟨hnone, -⟩ | ⟨o', hnewest', -, hcreated'⟩
    · exact absurd (hnone m hm) hmevent
    rcases hstrongest with ⟨hnone, -⟩ | ⟨k, hk, -, hcreated⟩
    · exact absurd (hnone m hm) hmevent
    have hrow : row.eventIdempotencyCorrelation = .mismatch := by
      have hrank := hafter.converged.strongest.2 m hm
      rw [hmismatch] at hrank
      obtain ⟨a, ha, heq⟩ := hafter.converged.strongest.1
      cases hrow : row.eventIdempotencyCorrelation with
      | mismatch => rfl
      | absent   => exact absurd (hrow ▸ hrank) (by decide)
      | exact    => exact absurd (heq.trans hrow) (hnoexact a ha)
    have hko' := CandidateObservation.stateTime_of_eventCreated hk.event hnewest'.2.1
      (hcreated.symm.trans hcreated')
    have hoo' : o.stateTime = o'.stateTime := le_antisymm
      (hnewest'.2.2 o hnewest.1 hnewest.2.1) (hnewest.2.2 o' hnewest'.1 hnewest'.2.1)
    obtain rfl := hdistinct k hk.mem o hnewest.1 (hko'.trans hoo'.symm)
    exact hk.strongest.trans hrow

theorem merges_of_orderless (hrefund : refund.Valid)
    (hnew : d.candidates.find? refund.stripeRefundId = none) (hne : observations ≠ [])
    (hvalid : ∀ o ∈ observations, o.Valid)
    (hdistinct : ∀ o ∈ observations, ∀ o' ∈ observations, o.stateTime = o'.stateTime → o = o')
    (horderless : Orderless observations) : MergesInAnyOrder refund d observations := by
  have hsame₀ : ∀ o, o ∈ (observations.map fun o => (o, (0 : Timestamp))).map (·.1) ↔
      o ∈ observations := by simp
  obtain ⟨d₀, row₀, -, -, hafter₀⟩ := candidateAfter_run hrefund hnew hne hvalid hsame₀
  refine ⟨row₀.summary, fun run hsame => ?_⟩
  obtain ⟨d', row, hrun', hfind, hafter⟩ := candidateAfter_run hrefund hnew hne hvalid hsame
  have hconverged := hafter.converged.congr hsame
  have hstrongest := hafter.event.strongest horderless hsame hafter.converged
  refine ⟨d', row, hrun', hfind, check_iff_checked.mpr hafter.checked, ?_, hconverged,
    hstrongest⟩
  exact summary_unique hdistinct hconverged (hafter₀.converged.congr hsame₀) hstrongest
    (hafter₀.event.strongest horderless hsame₀ hafter₀.converged)

theorem candidate_merge (hrefund : refund.Valid)
    (hnew : d.candidates.find? refund.stripeRefundId = none) (hne : observations ≠ [])
    (hvalid : ∀ o ∈ observations, o.Valid)
    (hdistinct : ∀ o ∈ observations, ∀ o' ∈ observations, o.stateTime = o'.stateTime → o = o') :
    MergesInAnyOrder refund d observations ↔ Orderless observations :=
  ⟨orderless_of_merges hrefund hnew hne hvalid hdistinct,
    merges_of_orderless hrefund hnew hne hvalid hdistinct⟩

end OrderIndependence

section Redelivery

def reportedRefund : ObservedRefund where
  installationId  := "i"
  stripeRefundId  := "re_1"
  paymentKey      := "pi_1"
  paymentIntentId := some "pi_1"
  chargeId        := some "ch_1"
  amountMinor     := 500
  currency        := "eur"
  stripeCreatedAt := 0

theorem reportedRefund_valid : reportedRefund.Valid := by
  constructor <;> decide

theorem candidate_merge_of_one_exact :
    MergesInAnyOrder reportedRefund RefundRequest.unconfirmed [
      .webhook "evt_1" 1000 .exact (some .pending), .scan 3000 (some .succeeded),
      .webhook "evt_2" 2000 .absent (some .succeeded)
    ] := by
  refine (candidate_merge reportedRefund_valid rfl (by simp) ?_ (by decide)).mpr ⟨by decide, ?_⟩
  · simp only [List.forall_mem_cons, CandidateObservation.Valid, CandidateObservation.eventId]
    decide
  · intro hnoexact
    exact absurd rfl (hnoexact _ (.head _))

-- Stripe reports a refund by several events that carry the key of its request.
theorem candidate_merge_counterexample :
    ¬∀ (refund : ObservedRefund) (d : RefundRequestDetail)
      (observations : List CandidateObservation),
      refund.Valid → d.candidates.find? refund.stripeRefundId = none → observations ≠ [] →
      (∀ o ∈ observations, o.Valid) →
      (∀ o ∈ observations, ∀ o' ∈ observations, o.stateTime = o'.stateTime → o = o') →
      MergesInAnyOrder refund d observations := by
  intro h
  have hvalid : ∀ o ∈ [CandidateObservation.webhook "evt_1" 1000 .exact (some .pending),
      .webhook "evt_2" 2000 .exact (some .succeeded)], o.Valid := by
    simp only [List.forall_mem_cons, CandidateObservation.Valid, CandidateObservation.eventId]
    decide
  have horderless := orderless_of_merges reportedRefund_valid
    (rfl : RefundRequest.unconfirmed.candidates.find? "re_1" = none) (by simp) hvalid (by decide)
    (h reportedRefund RefundRequest.unconfirmed _ reportedRefund_valid rfl (by simp) hvalid
      (by decide))
  exact absurd (horderless.exact _ (.head _) _ (.tail _ (.head _)) rfl rfl) (by decide)

end Redelivery

end RefundDesk
