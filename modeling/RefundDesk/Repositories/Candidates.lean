import RefundDesk.Repositories.Soundness

namespace RefundDesk

open Transaction Relation RequestRepository TenantRepository

def CorrelationCandidateState.isLinked : CorrelationCandidateState → Bool
  | exactLinked | uniqueLinked => true
  | pending | conflict         => false

-- The states that can follow one another: a link stays one, and an exact link stays exact.
def CorrelationCandidateState.Leads (state state' : CorrelationCandidateState) : Prop :=
  (state = .exactLinked → state' = .exactLinked) ∧
  (state = .uniqueLinked → state' = .uniqueLinked ∨ state' = .exactLinked)

theorem CorrelationCandidateState.Leads.refl (state : CorrelationCandidateState) :
    state.Leads state :=
  ⟨id, .inl⟩

theorem CorrelationCandidateState.Leads.trans {state₁ state₂ state₃ : CorrelationCandidateState}
    (h : state₁.Leads state₂) (h' : state₂.Leads state₃) : state₁.Leads state₃ where
  left he  := h'.1 (h.1 he)
  right hu := by
    rcases h.2 hu with hu | he
    · exact h'.2 hu
    · exact .inr (h'.1 he)

theorem CorrelationCandidateState.leads_of_sourceStates {state : CorrelationCandidateState}
    {linked : LinkedState} (h : state ∈ linked.sourceStates) :
    state.Leads linked.toCandidateState := by
  cases linked <;> cases state <;>
    simp_all [LinkedState.sourceStates, LinkedState.toCandidateState, Leads]

theorem CorrelationCandidateState.leads_conflicted (row : RefundCorrelationCandidate) :
    row.state.Leads (conflicted row).state := by
  unfold conflicted
  split_ifs with hp
  · simp [Leads, hp]
  · exact .refl _

-- The candidates of a request and the link of its execution.
structure CandidatesSound (d : RefundRequestDetail) : Prop where
  linked  : ∀ refundId candidate, d.candidates.find? refundId = some candidate →
    candidate.state.isLinked → d.linkedRefundId = some refundId
  settled : ∀ refundId candidate refundId' candidate',
    d.candidates.find? refundId = some candidate →
    d.candidates.find? refundId' = some candidate' → refundId ≠ refundId' →
    candidate.state ≠ .pending

-- Every candidate of the request stays, in a state that its state leads to.
def CandidatesKept (d d' : RefundRequestDetail) : Prop :=
  ∀ refundId candidate, d.candidates.find? refundId = some candidate →
    ∃ candidate', d'.candidates.find? refundId = some candidate' ∧
      candidate.state.Leads candidate'.state

theorem CandidatesKept.of_eq {d d' : RefundRequestDetail} (h : d'.candidates = d.candidates) :
    CandidatesKept d d' :=
  fun _ candidate hf => ⟨candidate, h ▸ hf, .refl _⟩

theorem CandidatesKept.trans {d₁ d₂ d₃ : RefundRequestDetail} (h : CandidatesKept d₁ d₂)
    (h' : CandidatesKept d₂ d₃) : CandidatesKept d₁ d₃ := by
  intro refundId candidate hf
  obtain ⟨candidate₂, hf₂, hl₂⟩ := h refundId candidate hf
  obtain ⟨candidate₃, hf₃, hl₃⟩ := h' refundId candidate₂ hf₂
  exact ⟨candidate₃, hf₃, hl₂.trans hl₃⟩

namespace RequestSound

variable {d : RefundRequestDetail} {refundId : String}

-- A request that has just been identified with a refund is linked to it.
theorem linked_of_identifies (h : RequestSound d) (hi : Identifies d refundId) :
    d.linkedRefundId = some refundId := by
  rcases hi with hi | ⟨env, d₀, input, ho, rfl⟩
  · exact hi
  cases ho with
  | moved hm _ => cases hm
  | @unapplied _ locked he hl ha =>
    have hlink : d.linkedRefundId = locked.stripeRefundId := by
      simp [RefundRequestDetail.linkedRefundId, he]
    rcases hl with hnone | hsome
    · obtain ⟨hs, hevent⟩ := (h.link locked he).unlinked hnone
      simp [shouldApplyRefundObservation, hs, hevent, isOlderEvent, isEqualEvent] at ha
    · exact hlink.trans hsome
  | identified _ _ _ _ _ hf =>
    obtain ⟨hexec, -, -, -⟩ := shape_of_followed hf
    simp [RefundRequestDetail.linkedRefundId, hexec, recorded, recordObservation]

theorem linked_of_markRefundIdentified {env : TriggerEnv} {d' : RefundRequestDetail}
    {input : IdentifiedRefundInput} (h : RequestSound d)
    (hm : (markRefundIdentified env input).Commits d true d') :
    d'.linkedRefundId = some input.stripeRefundId := by
  have hrun : ((RequestCall.markRefundIdentified input).run env).Commits d true d' := hm
  have hcall : SoundCall d (.markRefundIdentified input) true := rfl
  have ho := RequestCall.outcome_of_run hrun
  exact (h.outcome hcall ho).linked_of_identifies (.inr ⟨env, d, input, ho, rfl⟩)

end RequestSound

section Outcome

variable {env : TriggerEnv} {d d' : RefundRequestDetail} {call : RequestCall} {b : Bool}

theorem execution_of_followed {input : IdentifiedRefundInput} {locked : RefundExecution}
    (h : Followed env input locked d b d') : d'.execution = d.execution := by
  cases h with
  | twice _ _ _ _ hd _ _ =>
    subst hd
    rfl
  | _ => rfl

theorem candidates_of_followed {input : IdentifiedRefundInput} {locked : RefundExecution}
    (h : Followed env input locked d b d') : d'.candidates = d.candidates := by
  cases h with
  | twice _ _ _ _ hd _ _ =>
    subst hd
    rfl
  | _ => rfl

theorem candidatesKept_of_stored {input : RefundCorrelationCandidateInput}
    {row : RefundCorrelationCandidate}
    (hrow : d.candidates.find? input.stripeRefundId = some row ∨
      d.candidates.find? input.stripeRefundId = none ∧ row = input.created) :
    CandidatesKept d { d with candidates := storedCandidates d input row } := by
  intro refundId candidate hf
  have hinserted : ∃ candidate',
      (d.candidates.insert input.stripeRefundId (input.merged row)).find? refundId =
        some candidate' ∧ candidate.state.Leads candidate'.state := by
    rw [Table.find?_insert]
    split_ifs with hid
    · subst hid
      rcases hrow with hrow | ⟨hnone, -⟩
      · obtain rfl := Option.some.inj (hf.symm.trans hrow)
        exact ⟨_, rfl, .refl _⟩
      · simp [hnone] at hf
    · exact ⟨candidate, hf, .refl _⟩
  obtain ⟨candidate', hf', hl⟩ := hinserted
  simp only [storedCandidates]
  split_ifs
  · exact ⟨conflicted candidate', by simp [hf'],
      hl.trans (CorrelationCandidateState.leads_conflicted candidate')⟩
  · exact ⟨candidate', hf', hl⟩

theorem candidatesKept_of_outcome (h : Outcome env d call b d') : CandidatesKept d d' := by
  cases h with
  | decided _ hd _ _ =>
    subst hd
    exact .of_eq rfl
  | @identified input locked _ _ _ _ _ _ _ hf =>
    have hsame : d'.candidates = d.candidates := candidates_of_followed (d := recorded d input locked) hf
    exact .of_eq hsame
  | candidate _ _ hrow => exact candidatesKept_of_stored hrow
  | @candidateLinked refundId state time row hf hstate =>
    intro id candidate hc
    rw [Table.find?_insert]
    split_ifs with hid
    · subst hid
      obtain rfl := Option.some.inj (hc.symm.trans hf)
      exact ⟨_, rfl, CorrelationCandidateState.leads_of_sourceStates hstate⟩
    · exact ⟨candidate, hc, .refl _⟩
  | candidatesConflicted =>
    intro id candidate hc
    exact ⟨conflicted candidate, by simp [hc], CorrelationCandidateState.leads_conflicted candidate⟩
  | _ => exact .of_eq rfl

end Outcome

namespace CandidatesSound

variable {env : TriggerEnv} {d d' : RefundRequestDetail} {call : RequestCall} {b : Bool}

-- The link of a request only comes to be, and its candidates stay.
theorem of_eq (h : CandidatesSound d) (hc : d'.candidates = d.candidates)
    (hlink : ∀ refundId, d.linkedRefundId = some refundId → d'.linkedRefundId = some refundId) :
    CandidatesSound d' where
  linked refundId candidate hf hs := hlink refundId (h.linked refundId candidate (hc ▸ hf) hs)
  settled refundId candidate refundId' candidate' hf hf' :=
    h.settled refundId candidate refundId' candidate' (hc ▸ hf) (hc ▸ hf')

theorem conflicted_isLinked {row : RefundCorrelationCandidate}
    (h : (conflicted row).state.isLinked) : row.state.isLinked := by
  unfold conflicted at h
  split_ifs at h with hp
  · simp [CorrelationCandidateState.isLinked] at h
  · exact h

theorem conflicted_ne_pending (row : RefundCorrelationCandidate) :
    (conflicted row).state ≠ .pending := by
  unfold conflicted
  split_ifs with hp
  · simp
  · exact hp

theorem stored (h : CandidatesSound d) {input : RefundCorrelationCandidateInput}
    {row : RefundCorrelationCandidate}
    (hrow : d.candidates.find? input.stripeRefundId = some row ∨
      d.candidates.find? input.stripeRefundId = none ∧ row = input.created) :
    CandidatesSound { d with candidates := storedCandidates d input row } := by
  have hinserted : ∀ refundId candidate,
      (d.candidates.insert input.stripeRefundId (input.merged row)).find? refundId =
        some candidate → candidate.state.isLinked → d.linkedRefundId = some refundId := by
    intro refundId candidate hf hs
    rw [Table.find?_insert] at hf
    split_ifs at hf with hid
    · obtain rfl := Option.some.inj hf
      subst hid
      rcases hrow with hrow | ⟨-, rfl⟩
      · exact h.linked _ row hrow hs
      · simp [RefundCorrelationCandidateInput.merged, RefundCorrelationCandidateInput.created,
          CorrelationCandidateState.isLinked] at hs
    · exact h.linked refundId candidate hf hs
  constructor
  case linked =>
    intro refundId candidate hf hs
    simp only [storedCandidates] at hf
    split_ifs at hf
    · rw [Table.find?_map] at hf
      obtain ⟨candidate₀, hf₀, rfl⟩ := Option.map_eq_some_iff.mp hf
      exact hinserted refundId candidate₀ hf₀ (conflicted_isLinked hs)
    · exact hinserted refundId candidate hf hs
  case settled =>
    intro refundId candidate refundId' candidate' hf hf' hne
    simp only [storedCandidates] at hf hf'
    split_ifs at hf hf' with hcount
    · rw [Table.find?_map] at hf
      obtain ⟨candidate₀, -, rfl⟩ := Option.map_eq_some_iff.mp hf
      exact conflicted_ne_pending candidate₀
    · exact (hcount (Table.one_lt_length hf hf' hne)).elim

theorem candidateLinked (h : CandidatesSound d) {refundId : String} {state : LinkedState}
    {time : Timestamp} {row : RefundCorrelationCandidate}
    (hf : d.candidates.find? refundId = some row) (hlink : d.linkedRefundId = some refundId) :
    CandidatesSound { d with
      candidates := d.candidates.insert refundId { row with
        state := state.toCandidateState, resolvedAt := some time
      }
    } := by
  constructor
  case linked =>
    intro id candidate hc hs
    rw [Table.find?_insert] at hc
    split_ifs at hc with hid
    · exact hid ▸ hlink
    · exact h.linked id candidate hc hs
  case settled =>
    intro id candidate id' candidate' hc hc' hne
    rw [Table.find?_insert] at hc hc'
    split_ifs at hc with hid
    · obtain rfl := Option.some.inj hc
      cases state <;> simp [LinkedState.toCandidateState]
    · split_ifs at hc' with hid'
      · subst hid'
        exact h.settled id candidate id' row hc hf hne
      · exact h.settled id candidate id' candidate' hc hc' hne

theorem outcome (h : CandidatesSound d) (hsound : RequestSound d)
    (hlinked : ∀ refundId state time, call = .markRefundCorrelationCandidateLinked refundId state time →
      Identifies d refundId) (ho : Outcome env d call b d') : CandidatesSound d' := by
  cases ho with
  | decided _ hd _ _ =>
    subst hd
    exact h.of_eq rfl fun _ hl => hl
  | inserted he _ =>
    refine h.of_eq rfl fun _ hl => ?_
    simp [RefundRequestDetail.linkedRefundId, he] at hl
  | begun he | finished he =>
    refine h.of_eq rfl fun refundId hl => ?_
    simpa [RefundRequestDetail.linkedRefundId, he] using hl
  | @identified input locked _ _ he hagree _ _ _ hf =>
    refine h.of_eq (candidates_of_followed (d := recorded d input locked) hf) fun refundId hl => ?_
    have hexec : d'.execution = some (recordObservation input locked) := execution_of_followed hf
    have hlocked : locked.stripeRefundId = some refundId := by
      simpa [RefundRequestDetail.linkedRefundId, he] using hl
    rcases hagree with hnone | hsame
    · simp [hnone] at hlocked
    · have hid := hsame.symm.trans hlocked
      simpa [RefundRequestDetail.linkedRefundId, hexec, recordObservation] using hid
  | candidate _ _ hrow => exact h.stored hrow
  | candidateLinked hf _ =>
    have hidentifies := hlinked _ _ _ rfl
    exact h.candidateLinked hf (hsound.linked_of_identifies hidentifies)
  | candidatesConflicted =>
    constructor
    case linked =>
      intro refundId candidate hf hs
      rw [Table.find?_map] at hf
      obtain ⟨candidate₀, hf₀, rfl⟩ := Option.map_eq_some_iff.mp hf
      exact h.linked refundId candidate₀ hf₀ (conflicted_isLinked hs)
    case settled =>
      intro refundId candidate refundId' candidate' hf _ _
      rw [Table.find?_map] at hf
      obtain ⟨candidate₀, -, rfl⟩ := Option.map_eq_some_iff.mp hf
      exact conflicted_ne_pending candidate₀
  | _ => exact h.of_eq rfl fun _ hl => hl

end CandidatesSound
end RefundDesk
