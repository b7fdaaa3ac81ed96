import RefundDesk.Worker.Footprints

namespace RefundDesk

open Transaction Relation RequestRepository TenantRepository

namespace ObserveRefundInput

variable {keys : WorkerKeys} {tenantId stripeAccountId paymentKey requestId : String}
variable {input : ObserveRefundInput} {d : RefundRequestDetail} {tuple : Bool}

-- The refund carries the identifier and the proof of the request, for the payment of the request.
structure Proven (keys : WorkerKeys) (tenantId stripeAccountId : String)
    (input : ObserveRefundInput) (requestId : String) (row : RefundRequest) (tuple : Bool) :
    Prop where
  named : input.refund.metadataRequestId = some requestId
  proof : input.hasValidProof keys tenantId stripeAccountId requestId row
  tuple : tuple = true

-- The class of a refund of the request, by the link that the request has.
def provenClassification (input : ObserveRefundInput) (link : Option String) :
    RefundEvidenceClassification :=
  if link = none then .workflowCandidate
  else if link = some input.refund.refundId then .workflowRefund
  else .proofReplay

theorem classification_eq :
    (input.evidenceFor keys tenantId stripeAccountId (some (requestId, d)) tuple).classification =
      if input.refund.metadataRequestId = none ∨ input.refund.metadataProof = none then .external
      else if input.refund.metadataRequestId ≠ some requestId ∨
        ¬(tuple && input.hasValidProof keys tenantId stripeAccountId requestId d.request) then .tampered
      else input.provenClassification d.linkedRefundId := by
  have hlink : d.linkedRefundId = d.execution.bind (·.stripeRefundId) := rfl
  simp only [evidenceFor, classifyRefundEvidence, provenClassification, Option.isNone_some,
    Bool.false_eq_true, and_false, if_false, Option.bind_some, ← hlink, Option.map_some,
    Option.getD_some, Option.any_some]
  cases d.linkedRefundId with
  | none    => simp
  | some id => simp

theorem classification_of_proven
    (h : Proven keys tenantId stripeAccountId input requestId d.request tuple) :
    (input.evidenceFor keys tenantId stripeAccountId (some (requestId, d)) tuple).classification =
      input.provenClassification d.linkedRefundId := by
  have hproof : input.refund.metadataProof ≠ none := by
    intro hn
    simpa [hasValidProof, hn] using h.proof
  simp [classification_eq, h.named, h.proof, h.tuple, hproof]

-- Without the proof the refund is an external or a tampered one.
theorem classification_of_not_proven
    (h : ¬Proven keys tenantId stripeAccountId input requestId d.request tuple) :
    (input.evidenceFor keys tenantId stripeAccountId (some (requestId, d)) tuple).classification ∈
      [.external, .tampered] := by
  rw [classification_eq]
  split_ifs with hmissing hwrong
  · simp
  · simp
  · simp only [not_or, not_not, Bool.and_eq_true, ne_eq] at hwrong
    exact (h ⟨hwrong.1, hwrong.2.2, hwrong.2.1⟩).elim

theorem proven_of_workflow
    (h : isWorkflowEvidence (input.evidenceFor keys tenantId stripeAccountId
      (some (requestId, d)) tuple).classification) :
    Proven keys tenantId stripeAccountId input requestId d.request tuple := by
  by_contra hn
  have hc := classification_of_not_proven hn
  simp only [List.mem_cons, List.not_mem_nil, or_false] at hc
  rcases hc with hc | hc <;> simp [hc, isWorkflowEvidence] at h

theorem provenClassification_eq_candidate {link : Option String} :
    input.provenClassification link = .workflowCandidate ↔ link = none := by
  unfold provenClassification
  split_ifs <;> simp_all

-- The refund that a request is already linked to is proven to be its own.
theorem alreadyLinked_iff :
    (input.evidenceFor keys tenantId stripeAccountId (some (requestId, d)) tuple).alreadyLinked ↔
      Proven keys tenantId stripeAccountId input requestId d.request tuple ∧
        d.linkedRefundId = some input.refund.refundId := by
  have hdef : (input.evidenceFor keys tenantId stripeAccountId
      (some (requestId, d)) tuple).alreadyLinked =
      (isWorkflowEvidence (input.evidenceFor keys tenantId stripeAccountId
        (some (requestId, d)) tuple).classification &&
        decide (d.linkedRefundId = some input.refund.refundId)) := rfl
  rw [hdef, Bool.and_eq_true, decide_eq_true_eq]
  constructor
  · exact fun ⟨hw, hlink⟩ => ⟨proven_of_workflow hw, hlink⟩
  · rintro ⟨hp, hlink⟩
    refine ⟨?_, hlink⟩
    rw [classification_of_proven hp]
    simp [provenClassification, hlink, isWorkflowEvidence]

theorem canPersistCandidate_iff :
    (input.evidenceFor keys tenantId stripeAccountId
      (some (requestId, d)) tuple).canPersistCandidate ↔
      Proven keys tenantId stripeAccountId input requestId d.request tuple ∧
        d.execution.isSome := by
  have hdef : (input.evidenceFor keys tenantId stripeAccountId
      (some (requestId, d)) tuple).canPersistCandidate =
      (d.execution.isSome && tuple &&
        (tuple && input.hasValidProof keys tenantId stripeAccountId requestId d.request) &&
        (isWorkflowEvidence (input.evidenceFor keys tenantId stripeAccountId
          (some (requestId, d)) tuple).classification ||
          decide ((input.evidenceFor keys tenantId stripeAccountId
            (some (requestId, d)) tuple).classification = .proofReplay))) := rfl
  rw [hdef]
  simp only [Bool.and_eq_true, Bool.or_eq_true, decide_eq_true_eq]
  constructor
  · rintro ⟨⟨⟨he, _⟩, _⟩, hc⟩
    refine ⟨?_, he⟩
    by_contra hn
    have hclass := classification_of_not_proven hn
    simp only [List.mem_cons, List.not_mem_nil, or_false] at hclass
    rcases hc with hc | hc <;> rcases hclass with h | h <;> simp [h, isWorkflowEvidence] at hc
  · rintro ⟨hp, he⟩
    refine ⟨⟨⟨he, hp.tuple⟩, hp.tuple, hp.proof⟩, ?_⟩
    rw [classification_of_proven hp]
    unfold provenClassification
    split_ifs <;> simp [isWorkflowEvidence]

theorem alreadyHandled_of_not_linked (keys : WorkerKeys) (tenantId stripeAccountId : String)
    (input : ObserveRefundInput) (requestId : String) (d : RefundRequestDetail) (tuple : Bool)
    (h : (input.evidenceFor keys tenantId stripeAccountId (some (requestId, d))
      tuple).alreadyLinked = false) :
    (input.evidenceFor keys tenantId stripeAccountId (some (requestId, d))
      tuple).alreadyHandled = false := by
  have hdef : (input.evidenceFor keys tenantId stripeAccountId (some (requestId, d))
      tuple).alreadyHandled = ((input.evidenceFor keys tenantId stripeAccountId
      (some (requestId, d)) tuple).alreadyLinked && d.execution.any fun execution =>
        !input.shouldApplyLinkedRefundObservation execution) := rfl
  simp [hdef, h]

theorem correlation_eq :
    (input.evidenceFor keys tenantId stripeAccountId
      (some (requestId, d)) tuple).eventIdempotencyCorrelation =
      input.eventIdempotencyCorrelation d.execution :=
  rfl

-- A request whose payment is the one of the observation.
theorem payment_of_tupleMatches {row : RefundRequest}
    (h : input.tupleMatches paymentKey row = .ok true) :
    row.installationId = input.installationId ∧ row.environment = input.environment ∧
      row.paymentKey = paymentKey ∧ row.amountMinor = input.refund.amountMinor := by
  unfold tupleMatches at h
  split_ifs at h with hp
  · exact hp
  · cases h

end ObserveRefundInput

namespace WorkerStore

open ObserveRefundInput

variable {keys : WorkerKeys} {now : Timestamp} {footprint : Footprint} {s s' : Store}
variable {requestId paymentKey : String} {input : ObserveRefundInput} {d d' : RefundRequestDetail}

theorem find?_putRequest (s : Store) (requestId : String) (d : RefundRequestDetail) :
    (s.putRequest requestId d).requests.find? requestId = some d := by
  simp [Store.putRequest]

-- A transaction on a request of the store commits with what it makes of its rows.
theorem commits_onExistingRequest_of_find {α : Type} {missing : StoreError}
    {m : TriggerEnv → RequestTransaction α} {a : α} (hd : s.requests.find? requestId = some d) :
    (onExistingRequest now requestId missing m).Commits s a s' ↔
      ∃ d', (m (s.triggerEnv now requestId d.request)).Commits d a d' ∧
        s' = s.putRequest requestId d' := by
  rw [commits_onExistingRequest, commits_onRequest]
  simp [hd]

theorem commits_persistCandidate {correlation : EventIdempotencyEvidence}
    {r : RefundCorrelationCandidateResult} (hd : s.requests.find? requestId = some d) :
    (persistCandidate now input paymentKey correlation requestId).Commits s r s' ↔
      ∃ currency d', normalizeCurrency input.refund.currency = .ok currency ∧
        (recordRefundCorrelationCandidate
          (input.candidate paymentKey correlation currency)).Commits d r d' ∧
        s' = s.putRequest requestId d' := by
  simp only [persistCandidate, commits_bind, commits_fromDomain]
  constructor
  · rintro ⟨currency, _, ⟨hc, rfl⟩, h⟩
    obtain ⟨d', hr, rfl⟩ := (commits_onExistingRequest_of_find hd).mp h
    exact ⟨currency, d', hc, hr, rfl⟩
  · rintro ⟨currency, d', hc, hr, rfl⟩
    exact ⟨currency, s, ⟨hc, rfl⟩, (commits_onExistingRequest_of_find hd).mpr ⟨d', hr, rfl⟩⟩

-- The rows after `linkExactCandidate` has linked the refund, and then the alerts for the others.
theorem commits_linkExactCandidate {u : Unit} (hd : s.requests.find? requestId = some d) :
    (linkExactCandidate now input requestId).Commits s u s' ↔
      ∃ d₁ b d₂, (markRefundIdentified (s.triggerEnv now requestId d.request)
          input.identified).Commits d true d₁ ∧
        (markRefundCorrelationCandidateLinked input.refund.refundId .exactLinked
          input.observedAt).Commits d₁ b d₂ ∧
        (alertConflictingCandidates now input.installationId input.refund.refundId
          input.observedAt (listRefundCorrelationCandidates d₂)).Commits
            (s.putRequest requestId d₂) u s' := by
  simp only [linkExactCandidate, commits_bind, commits_onExistingRequest_of_find hd,
    commits_require, commits_get, commits_pure]
  constructor
  · rintro ⟨_, _, ⟨_, ⟨_, d₁, h₁, _, _, ⟨rfl, rfl⟩, b, _, h₂, _, _, ⟨rfl, rfl⟩, rfl, rfl⟩, rfl⟩, h⟩
    exact ⟨_, b, _, h₁, h₂, h⟩
  · rintro ⟨d₁, b, d₂, h₁, h₂, h⟩
    exact ⟨_, _, ⟨d₂, ⟨true, d₁, h₁, (), d₁, ⟨rfl, rfl⟩, b, d₂, h₂, d₂, d₂, ⟨rfl, rfl⟩, rfl, rfl⟩,
      rfl⟩, h⟩

-- The state that a candidate gets when its linked refund is observed again.
def refreshedState (evidence : Evidence) (candidateState : CorrelationCandidateState) :
    LinkedState :=
  if candidateState = .uniqueLinked ∧ evidence.eventIdempotencyCorrelation ≠ .exact then
    .uniqueLinked
  else
    .exactLinked

theorem commits_refreshLinkedRefund {evidence : Evidence} {u : Unit}
    {candidateState : Option CorrelationCandidateState} (hd : s.requests.find? requestId = some d) :
    (refreshLinkedRefund now input evidence candidateState requestId).Commits s u s' ↔
      ∃ state d₁ d₂, candidateState = some state ∧
        (markRefundCorrelationCandidateLinked input.refund.refundId (refreshedState evidence state)
          input.observedAt).Commits d true d₁ ∧
        (evidence.alreadyHandled = true ∧ d₂ = d₁ ∨
          evidence.alreadyHandled = false ∧
            (markRefundIdentified (s.triggerEnv now requestId d.request)
              input.identified).Commits d₁ true d₂) ∧
        s' = s.putRequest requestId d₂ := by
  cases candidateState with
  | none       => simp [refreshLinkedRefund]
  | some state =>
    simp only [refreshLinkedRefund, commits_onExistingRequest_of_find hd, commits_bind,
      commits_require, commits_ite, commits_pure]
    constructor
    · rintro ⟨d₂, ⟨_, d₁, h₁, _, _, ⟨rfl, rfl⟩, h⟩, rfl⟩
      refine ⟨state, _, d₂, rfl, h₁, ?_, rfl⟩
      rcases h with ⟨hh, _, _, h₂, rfl, rfl⟩ | ⟨hh, _, rfl⟩
      · exact .inr ⟨hh, h₂⟩
      · exact .inl ⟨by simpa using hh, rfl⟩
    · rintro ⟨_, d₁, d₂, ⟨rfl⟩, h₁, h, rfl⟩
      refine ⟨d₂, ⟨true, d₁, h₁, (), d₁, ⟨rfl, rfl⟩, ?_⟩, rfl⟩
      rcases h with ⟨hh, rfl⟩ | ⟨hh, h₂⟩
      · exact .inr ⟨by simp [hh], trivial, rfl⟩
      · exact .inl ⟨hh, true, d₂, h₂, rfl, rfl⟩

-- What is left of the classification of a valid refund that cannot be linked yet.
def contestedClassification (evidence : Evidence) (candidateCount : Nat) :
    RefundEvidenceClassification :=
  if evidence.eventIdempotencyCorrelation = .mismatch then .tampered
  else if candidateCount > 1 then .proofReplay
  else evidence.classification

theorem correlateUnlinkedCandidate_eq {evidence : Evidence} {candidateCount : Nat} :
    correlateUnlinkedCandidate now input evidence candidateCount requestId =
      if evidence.eventIdempotencyCorrelation = .exact then
        linkExactCandidate now input requestId >>= fun _ => pure .workflowRefund
      else
        onRequest now requestId markReconciliationRequired >>= fun _ =>
          pure (contestedClassification evidence candidateCount) := by
  unfold correlateUnlinkedCandidate contestedClassification
  have hcount : max 1 candidateCount > 1 ↔ candidateCount > 1 := by omega
  cases hc : evidence.eventIdempotencyCorrelation with
  | exact    => simp [decideRefundCandidate]
  | mismatch => simp [decideRefundCandidate]
  | absent   => by_cases hn : candidateCount > 1 <;> simp [decideRefundCandidate, hcount, hn]

theorem commits_correlateUnlinkedCandidate {evidence : Evidence} {candidateCount : Nat}
    {r : RefundEvidenceClassification} (hd : s.requests.find? requestId = some d) :
    (correlateUnlinkedCandidate now input evidence candidateCount requestId).Commits s r s' ↔
      (evidence.eventIdempotencyCorrelation = .exact ∧ r = .workflowRefund ∧
        (linkExactCandidate now input requestId).Commits s () s') ∨
      (evidence.eventIdempotencyCorrelation ≠ .exact ∧
        r = contestedClassification evidence candidateCount ∧
        ∃ b d', (markReconciliationRequired (s.triggerEnv now requestId d.request)).Commits d b d' ∧
          s' = s.putRequest requestId d') := by
  simp only [correlateUnlinkedCandidate_eq, commits_ite, commits_bind, commits_onRequest,
    commits_pure, hd]
  grind

section Correlate

variable {tenantId stripeAccountId : String} {tuple : Bool} {r : RefundEvidenceClassification}

theorem isUnlinkedCandidate_iff :
    isUnlinkedCandidate
        (input.evidenceFor keys tenantId stripeAccountId (some (requestId, d)) tuple) d ↔
      Proven keys tenantId stripeAccountId input requestId d.request tuple ∧ d.execution.isSome ∧
        d.linkedRefundId = none ∧
        d.request.workflowStatus ∈ [.executing, .reconciliationRequired] := by
  have hlink : d.linkedRefundId = d.execution.bind (·.stripeRefundId) := rfl
  simp only [isUnlinkedCandidate, decide_eq_true_eq]
  cases he : d.execution with
  | none           => simp
  | some execution =>
    rw [he] at hlink
    simp only [Option.any_some, decide_eq_true_eq, Option.isSome_some, true_and]
    constructor
    · rintro ⟨hc, hn, hw⟩
      exact ⟨proven_of_workflow (by rw [hc]; rfl), hlink.trans hn, hw⟩
    · rintro ⟨hp, hn, hw⟩
      rw [classification_of_proven hp, provenClassification_eq_candidate]
      exact ⟨hn, hlink.symm.trans hn, hw⟩

-- An observation leaves a request alone that it does not prove to be its own, or that has not
-- been executed.
theorem commits_correlateRequest_of_not_proven
    (hn : ¬(Proven keys tenantId stripeAccountId input requestId d.request tuple ∧
      d.execution.isSome)) :
    (correlateRequest now input paymentKey
      (input.evidenceFor keys tenantId stripeAccountId (some (requestId, d)) tuple)
      (some (requestId, d))).Commits s r s' ↔
      r = (input.evidenceFor keys tenantId stripeAccountId (some (requestId, d))
        tuple).classification ∧ s' = s := by
  have hcandidate : (input.evidenceFor keys tenantId stripeAccountId (some (requestId, d))
      tuple).canPersistCandidate = false := by
    rw [← Bool.not_eq_true, canPersistCandidate_iff]
    exact hn
  have hunlinked : isUnlinkedCandidate (input.evidenceFor keys tenantId stripeAccountId
      (some (requestId, d)) tuple) d = false := by
    rw [← Bool.not_eq_true, isUnlinkedCandidate_iff]
    exact fun h => hn ⟨h.1, h.2.1⟩
  have hlinked : (input.evidenceFor keys tenantId stripeAccountId (some (requestId, d))
      tuple).alreadyLinked = false := by
    rw [← Bool.not_eq_true, alreadyLinked_iff]
    rintro ⟨hp, hlink⟩
    refine hn ⟨hp, ?_⟩
    cases he : d.execution with
    | none   => simp [RefundRequestDetail.linkedRefundId, he] at hlink
    | some _ => rfl
  simp [correlateRequest, hcandidate, hunlinked, hlinked]

-- An observation that is proven to be of the request is recorded as a candidate. Then the link of
-- the request decides.
theorem commits_correlateRequest_of_proven
    (hp : Proven keys tenantId stripeAccountId input requestId d.request tuple)
    (he : d.execution.isSome) :
    (correlateRequest now input paymentKey
      (input.evidenceFor keys tenantId stripeAccountId (some (requestId, d)) tuple)
      (some (requestId, d))).Commits s r s' ↔
      ∃ result s₁,
        (persistCandidate now input paymentKey (input.eventIdempotencyCorrelation d.execution)
          requestId).Commits s result s₁ ∧
        (d.linkedRefundId = none ∧
            d.request.workflowStatus ∈ [.executing, .reconciliationRequired] ∧
            (correlateUnlinkedCandidate now input
              (input.evidenceFor keys tenantId stripeAccountId (some (requestId, d)) tuple)
              result.candidateCount requestId).Commits s₁ r s' ∨
          d.linkedRefundId = none ∧
            d.request.workflowStatus ∉ [.executing, .reconciliationRequired] ∧
            r = .workflowCandidate ∧ s' = s₁ ∨
          d.linkedRefundId = some input.refund.refundId ∧ r = .workflowRefund ∧
            (refreshLinkedRefund now input
              (input.evidenceFor keys tenantId stripeAccountId (some (requestId, d)) tuple)
              (some result.state) requestId).Commits s₁ () s' ∨
          d.linkedRefundId ≠ none ∧ d.linkedRefundId ≠ some input.refund.refundId ∧
            r = .proofReplay ∧ s' = s₁) := by
  have hcandidate := canPersistCandidate_iff.mpr ⟨hp, he⟩
  have hclass := classification_of_proven hp
  have hlinked : (input.evidenceFor keys tenantId stripeAccountId (some (requestId, d))
      tuple).alreadyLinked ↔ d.linkedRefundId = some input.refund.refundId :=
    alreadyLinked_iff.trans (and_iff_right hp)
  have hunlinked : isUnlinkedCandidate (input.evidenceFor keys tenantId stripeAccountId
      (some (requestId, d)) tuple) d ↔ d.linkedRefundId = none ∧
        d.request.workflowStatus ∈ [.executing, .reconciliationRequired] :=
    isUnlinkedCandidate_iff.trans (by simp only [hp, he, true_and])
  have hhandled := alreadyHandled_of_not_linked keys tenantId stripeAccountId input requestId d tuple
  have hcorrelation : (input.evidenceFor keys tenantId stripeAccountId (some (requestId, d))
      tuple).eventIdempotencyCorrelation = input.eventIdempotencyCorrelation d.execution := rfl
  rw [← hcorrelation]
  clear hcorrelation
  revert hcandidate hclass hlinked hunlinked hhandled
  generalize input.evidenceFor keys tenantId stripeAccountId (some (requestId, d)) tuple = evidence
  intro hcandidate hclass hlinked hunlinked hhandled
  simp only [correlateRequest, hcandidate, if_true, commits_bind, commits_map]
  have hbranch (result : RefundCorrelationCandidateResult) (s₁ : Store) :
      (if isUnlinkedCandidate evidence d ∧ evidence.alreadyHandled = false then
          correlateUnlinkedCandidate now input evidence result.candidateCount requestId
        else do
          if evidence.alreadyLinked then
            refreshLinkedRefund now input evidence (some result.state) requestId
          pure evidence.classification).Commits s₁ r s' ↔
        (d.linkedRefundId = none ∧
            d.request.workflowStatus ∈ [.executing, .reconciliationRequired] ∧
            (correlateUnlinkedCandidate now input evidence result.candidateCount
              requestId).Commits s₁ r s' ∨
          d.linkedRefundId = none ∧
            d.request.workflowStatus ∉ [.executing, .reconciliationRequired] ∧
            r = .workflowCandidate ∧ s' = s₁ ∨
          d.linkedRefundId = some input.refund.refundId ∧ r = .workflowRefund ∧
            (refreshLinkedRefund now input evidence (some result.state) requestId).Commits s₁ () s' ∨
          d.linkedRefundId ≠ none ∧ d.linkedRefundId ≠ some input.refund.refundId ∧
            r = .proofReplay ∧ s' = s₁) := by
    simp only [commits_ite, commits_bind, commits_pure, hunlinked, hlinked]
    by_cases hnone : d.linkedRefundId = none
    · have hfalse : evidence.alreadyLinked = false := by
        rw [← Bool.not_eq_true, hlinked, hnone]
        simp
      simp [hnone, hhandled hfalse, hclass, provenClassification]
    · by_cases hown : d.linkedRefundId = some input.refund.refundId
      · simp [hown, hclass, provenClassification]
        constructor
        · rintro ⟨⟨u, h⟩, hr⟩
          exact ⟨hr, h⟩
        · rintro ⟨hr, h⟩
          exact ⟨⟨_, h⟩, hr⟩
      · simp [hnone, hown, hclass, provenClassification]
  constructor
  · rintro ⟨_, s₁, ⟨result, hr, rfl⟩, h⟩
    exact ⟨result, s₁, hr, (hbranch result s₁).mp h⟩
  · rintro ⟨result, s₁, hr, h⟩
    exact ⟨_, s₁, ⟨result, hr, rfl⟩, (hbranch result s₁).mpr h⟩

end Correlate

section Observe

variable {installation : StripeInstallation} {classification : RefundEvidenceClassification}
variable {u : Unit}

theorem commits_alertObservation {alreadyHandled : Bool} :
    (alertObservation now input paymentKey alreadyHandled classification).Commits s u s' ↔
      (alertClassification classification = none ∨ alreadyHandled = true) ∧ s' = s ∨
      alreadyHandled = false ∧ ∃ alertClass currency r,
        alertClassification classification = some alertClass ∧
        normalizeCurrency input.refund.currency = .ok currency ∧
        (observeExternalRefund now (input.external paymentKey currency alertClass)).Commits
          s r s' := by
  unfold alertObservation
  cases alertClassification classification with
  | none            => simp
  | some alertClass =>
    simp only [commits_ite, commits_bind, commits_fromDomain, commits_pure]
    constructor
    · rintro (⟨hh, currency, _, ⟨hc, rfl⟩, r, s₁, h, _, rfl⟩ | ⟨hh, _, rfl⟩)
      · exact .inr ⟨hh, alertClass, currency, r, rfl, hc, h⟩
      · exact .inl ⟨.inr (by simpa using hh), rfl⟩
    · rintro (⟨⟨⟨⟩⟩ | hh, rfl⟩ | ⟨hh, _, currency, r, ⟨rfl⟩, hc, h⟩)
      · exact .inr ⟨by simp [hh], trivial, rfl⟩
      · exact .inl ⟨hh, currency, s, ⟨hc, rfl⟩, r, s', h, trivial, rfl⟩

-- The installation that an observation is for.
structure Observed (s : Store) (input : ObserveRefundInput) (installation : StripeInstallation) :
    Prop where
  found       : s.installations.find? input.installationId = some installation
  environment : installation.environment = input.environment
  active      : installation.status = .active
  tenant      : s.tenant.status = .active
  notLive     : s.tenant.liveEnabled = false

theorem requireObservedInstallation_eq_ok :
    requireObservedInstallation s input = .ok installation ↔ Observed s input installation := by
  unfold requireObservedInstallation
  split
  case h_1 hn =>
    constructor
    · rintro ⟨⟩
    · exact fun h => by simp [h.found] at hn
  case h_2 row hrow =>
    split_ifs with hcondition
    · constructor
      · rintro ⟨⟩
      · rintro ⟨hf, he, ha, ht, hl⟩
        obtain rfl := Option.some.inj (hrow.symm.trans hf)
        simp [he, ha, ht, hl] at hcondition
    · simp only [not_or, not_not, Bool.not_eq_true] at hcondition
      constructor
      · rintro ⟨rfl⟩
        exact ⟨hrow, hcondition.1, hcondition.2.1, hcondition.2.2.1, hcondition.2.2.2⟩
      · exact fun h => congrArg Except.ok (Option.some.inj (hrow.symm.trans h.found))

-- The request that an observation names, under the identifier of the database.
theorem namedRequest_eq_some :
    namedRequest s input = some (requestId, d) ↔
      ∃ text, input.refund.metadataRequestId = some text ∧ isDatabaseUuid text ∧
        requestId = lowerCase text ∧ s.requests.find? requestId = some d := by
  unfold namedRequest
  cases input.refund.metadataRequestId with
  | none      => simp
  | some text =>
    by_cases hu : isDatabaseUuid text
    · simp only [hu, if_true, Option.map_eq_some_iff, Option.some.injEq, exists_eq_left', true_and,
        Prod.mk.injEq]
      constructor
      · rintro ⟨_, hd, rfl, rfl⟩
        exact ⟨rfl, hd⟩
      · rintro ⟨rfl, hd⟩
        exact ⟨d, hd, rfl, rfl⟩
    · simp [hu]

-- The evidence for a request is computed from the comparison of its payment.
theorem evidence_eq_ok {tenantId stripeAccountId : String} {e : Evidence} :
    input.evidence keys tenantId stripeAccountId paymentKey (some (requestId, d)) = .ok e ↔
      ∃ tuple, input.tupleMatches paymentKey d.request = .ok tuple ∧
        e = input.evidenceFor keys tenantId stripeAccountId (some (requestId, d)) tuple := by
  simp only [evidence]
  cases input.tupleMatches paymentKey d.request with
  | error _   => simp [Except.map]
  | ok tuple  => simp [Except.map, eq_comm]

theorem commits_observeRefundEvidence :
    (observeRefundEvidence keys now input).Commits s u s' ↔
      ∃ installation paymentKey evidence classification s₁, Observed s input installation ∧
        paymentKeyOf input.refund = .ok paymentKey ∧
        input.evidence keys s.tenantId installation.stripeAccountId paymentKey
          (namedRequest s input) = .ok evidence ∧
        (correlateRequest now input paymentKey evidence (namedRequest s input)).Commits
          s classification s₁ ∧
        (alertObservation now input paymentKey evidence.alreadyHandled classification).Commits
          s₁ u s' := by
  simp only [observeRefundEvidence, commits_bind, commits_get, commits_fromExcept,
    requireObservedInstallation_eq_ok]
  constructor
  · rintro ⟨_, _, ⟨rfl, rfl⟩, installation, _, ⟨hi, rfl⟩, paymentKey, _, ⟨hk, rfl⟩, e, _, ⟨he, rfl⟩,
      classification, s₁, hc, ha⟩
    exact ⟨installation, paymentKey, e, classification, s₁, hi, hk, he, hc, ha⟩
  · rintro ⟨installation, paymentKey, e, classification, s₁, hi, hk, he, hc, ha⟩
    exact ⟨s, s, ⟨rfl, rfl⟩, installation, s, ⟨hi, rfl⟩, paymentKey, s, ⟨hk, rfl⟩, e, s, ⟨he, rfl⟩,
      classification, s₁, hc, ha⟩

end Observe

section Changes

theorem protective_of_mem {call : RequestCall} (h : call ∈ protectiveCalls input.observedAt)
    (b : Bool) : ObservationCall input d call b := by
  simp only [protectiveCalls, List.mem_cons, List.not_mem_nil, or_false] at h
  rcases h with rfl | rfl | rfl <;> simp [ObservationCall, protectiveCalls]

theorem execution_of_markLinked {refundId : String} {state : LinkedState} {time : Timestamp}
    {b : Bool} (h : (markRefundCorrelationCandidateLinked refundId state time).Commits d b d') :
    d'.execution = d.execution := by
  have hcall : ((RequestCall.markRefundCorrelationCandidateLinked refundId state time).run
      ⟨"", 0, false, fun _ => false, fun _ => false⟩).Commits d b d' := h
  cases RequestCall.outcome_of_run hcall with
  | refused => rfl
  | moved hm _ => cases hm
  | candidateLinked _ _ => rfl

-- The rows of a request once a candidate of an observation is recorded.
theorem find?_of_persistCandidate {correlation : EventIdempotencyEvidence}
    {result : RefundCorrelationCandidateResult} (hd : s.requests.find? requestId = some d)
    (h : (persistCandidate now input paymentKey correlation requestId).Commits s result s') :
    ∃ candidates, s' = s.putRequest requestId { d with candidates := candidates } := by
  obtain ⟨currency, d', _, hr, rfl⟩ := (commits_persistCandidate hd).mp h
  obtain ⟨row, _, _, _, _, rfl⟩ := commits_recordRefundCorrelationCandidate.mp hr
  exact ⟨_, rfl⟩

theorem change_of_persistCandidate {correlation : EventIdempotencyEvidence}
    {result : RefundCorrelationCandidateResult} (hd : s.requests.find? requestId = some d)
    (htuple : input.tupleMatches paymentKey d.request = .ok true) (he : d.execution.isSome)
    (h : (persistCandidate now input paymentKey correlation requestId).Commits s result s') :
    Change now (fun _ => ObservationCall input) s s' := by
  obtain ⟨currency, d', hcurrency, hr, rfl⟩ := (commits_persistCandidate hd).mp h
  obtain ⟨hi, _, hk, _⟩ := payment_of_tupleMatches htuple
  have hcall : ((RequestCall.recordRefundCorrelationCandidate
      (input.candidate paymentKey correlation currency)).run
        (s.triggerEnv now requestId d.request)).Commits d true d' :=
    commits_bind.mpr ⟨result, d', hr, commits_pure.mpr ⟨rfl, rfl⟩⟩
  exact .request hd (.single (step_of_call hcall
    ⟨he, hi.symm, hk.symm, rfl, rfl, rfl, rfl, hcurrency, rfl, rfl⟩))

theorem changes_of_linkExactCandidate {execution : RefundExecution} {u : Unit}
    (hd : s.requests.find? requestId = some d) (he : d.execution = some execution)
    (hlink : execution.stripeRefundId = none)
    (hexact : input.eventIdempotencyCorrelation d.execution = .exact)
    (h : (linkExactCandidate now input requestId).Commits s u s') :
    ReflTransGen (Change now fun _ => ObservationCall input) s s' := by
  obtain ⟨d₁, b, d₂, h₁, h₂, h₃⟩ := (commits_linkExactCandidate hd).mp h
  have hcall₁ : ((RequestCall.markRefundIdentified input.identified).run
      (s.triggerEnv now requestId d.request)).Commits d true d₁ := h₁
  have hcall₂ : ((RequestCall.markRefundCorrelationCandidateLinked input.refund.refundId .exactLinked
      input.observedAt).run (s.triggerEnv now requestId d.request)).Commits d₁ b d₂ := h₂
  refine .head (.request hd (.head (step_of_call hcall₁ ⟨rfl, rfl, execution, he, .inr ⟨hlink, hexact⟩⟩)
    (.single (step_of_call hcall₂ (.inr ⟨_, d, _, RequestCall.outcome_of_run hcall₁, rfl⟩))))) ?_
  exact within_alertConflictingCandidates (fun _ _ call hcall b => protective_of_mem hcall b) h₃

theorem changes_of_correlateUnlinkedCandidate {execution : RefundExecution} {evidence : Evidence}
    {candidateCount : Nat} {r : RefundEvidenceClassification}
    (hd : s.requests.find? requestId = some d) (he : d.execution = some execution)
    (hlink : execution.stripeRefundId = none)
    (hevidence : evidence.eventIdempotencyCorrelation = input.eventIdempotencyCorrelation d.execution)
    (h : (correlateUnlinkedCandidate now input evidence candidateCount requestId).Commits s r s') :
    ReflTransGen (Change now fun _ => ObservationCall input) s s' := by
  rcases (commits_correlateUnlinkedCandidate hd).mp h with ⟨hexact, _, h⟩ | ⟨_, _, b, d', hm, rfl⟩
  · exact changes_of_linkExactCandidate hd he hlink (hevidence ▸ hexact) h
  · have hcall : (RequestCall.markReconciliationRequired.run
        (s.triggerEnv now requestId d.request)).Commits d b d' := hm
    exact .single (.request hd (.single (step_of_call hcall trivial)))

theorem change_of_refreshLinkedRefund {execution : RefundExecution} {evidence : Evidence}
    {candidateState : Option CorrelationCandidateState} {u : Unit}
    (hd : s.requests.find? requestId = some d) (he : d.execution = some execution)
    (hlink : execution.stripeRefundId = some input.refund.refundId)
    (h : (refreshLinkedRefund now input evidence candidateState requestId).Commits s u s') :
    Change now (fun _ => ObservationCall input) s s' := by
  obtain ⟨state, d₁, d₂, _, h₁, h₂, rfl⟩ := (commits_refreshLinkedRefund hd).mp h
  have hcall₁ : ((RequestCall.markRefundCorrelationCandidateLinked input.refund.refundId
      (refreshedState evidence state) input.observedAt).run
        (s.triggerEnv now requestId d.request)).Commits d true d₁ := h₁
  have hstep₁ : CallStep (s.triggerEnv now requestId d.request) (ObservationCall input) d d₁ :=
    step_of_call hcall₁ (.inl (by simp [RefundRequestDetail.linkedRefundId, he, hlink]))
  rcases h₂ with ⟨_, rfl⟩ | ⟨_, h₂⟩
  · exact .request hd (.single hstep₁)
  · have hcall₂ : ((RequestCall.markRefundIdentified input.identified).run
        (s.triggerEnv now requestId d.request)).Commits d₁ true d₂ := h₂
    have he₁ : d₁.execution = some execution := execution_of_markLinked h₁ ▸ he
    exact .request hd (.head hstep₁ (.single (step_of_call hcall₂
      ⟨rfl, rfl, execution, he₁, .inl hlink⟩)))

theorem changes_of_correlateRequest {e : Evidence} {r : RefundEvidenceClassification}
    {tenantId stripeAccountId : String}
    (he : input.evidence keys tenantId stripeAccountId paymentKey (namedRequest s input) = .ok e)
    (h : (correlateRequest now input paymentKey e (namedRequest s input)).Commits s r s') :
    ReflTransGen (Change now fun _ => ObservationCall input) s s' := by
  cases hn : namedRequest s input with
  | none       =>
    rw [hn] at h
    obtain ⟨_, rfl⟩ := commits_pure.mp h
    exact .refl
  | some named =>
    obtain ⟨requestId, d⟩ := named
    rw [hn] at he h
    obtain ⟨_, _, _, _, hd⟩ := namedRequest_eq_some.mp hn
    obtain ⟨tuple, htuple, rfl⟩ := evidence_eq_ok.mp he
    by_cases hp : Proven keys tenantId stripeAccountId input requestId d.request tuple ∧
        d.execution.isSome
    · obtain ⟨hp, hsome⟩ := hp
      obtain ⟨execution, hexec⟩ := Option.isSome_iff_exists.mp hsome
      have hlink : d.linkedRefundId = execution.stripeRefundId := by
        simp [RefundRequestDetail.linkedRefundId, hexec]
      obtain ⟨result, s₁, hcandidate, h⟩ :=
        (commits_correlateRequest_of_proven hp hsome).mp h
      have hchange := change_of_persistCandidate hd (hp.tuple ▸ htuple) hsome hcandidate
      obtain ⟨candidates, rfl⟩ := find?_of_persistCandidate hd hcandidate
      have hd₁ := find?_putRequest s requestId { d with candidates := candidates }
      refine .head hchange ?_
      rcases h with ⟨hnone, _, h⟩ | ⟨_, _, _, rfl⟩ | ⟨hown, _, h⟩ | ⟨_, _, _, rfl⟩
      · have he₁ : ({ d with candidates := candidates } : RefundRequestDetail).execution =
          some execution := hexec
        exact changes_of_correlateUnlinkedCandidate hd₁ he₁ (hlink ▸ hnone) correlation_eq h
      · exact .refl
      · have he₁ : ({ d with candidates := candidates } : RefundRequestDetail).execution =
          some execution := hexec
        exact .single (change_of_refreshLinkedRefund hd₁ he₁ (hlink ▸ hown) h)
      · exact .refl
    · obtain ⟨_, rfl⟩ := (commits_correlateRequest_of_not_proven hp).mp h
      exact .refl

theorem changes_of_alertObservation {alreadyHandled : Bool} {u : Unit}
    {classification : RefundEvidenceClassification}
    (h : (alertObservation now input paymentKey alreadyHandled classification).Commits s u s') :
    ReflTransGen (Change now fun _ => ObservationCall input) s s' := by
  rcases commits_alertObservation.mp h with ⟨_, rfl⟩ | ⟨_, _, _, _, _, _, h⟩
  · exact .refl
  · exact .single (.alerted (fun _ _ call hcall b => protective_of_mem hcall b) h)

theorem within_observeRefundEvidence :
    Within (Change now fun _ => ObservationCall input) (observeRefundEvidence keys now input) := by
  intro s u s' h
  obtain ⟨installation, paymentKey, e, classification, s₁, _, _, he, hcorrelate, halert⟩ :=
    commits_observeRefundEvidence.mp h
  exact (changes_of_correlateRequest he hcorrelate).trans (changes_of_alertObservation halert)

theorem within_observeRefund :
    Within (Change now fun _ => ObservationCall input) (observeRefund keys now input) := by
  unfold observeRefund
  refine .bind (.require _ _) fun _ => ?_
  split
  case h_1 => exact within_observeRefundEvidence
  case h_2 =>
    refine .bind .get fun s => .bind (.fromExcept _) fun pending => .ite (fun _ => ?_) fun _ => .pure _
    refine .bind within_observeRefundEvidence fun _ => .bind ?_ fun marked => .require _ _
    exact within_of_frame fun _ _ _ => frame_markWebhookReceiptProcessed

end Changes

end WorkerStore

theorem Operation.within_run {keys : WorkerKeys} {now : Timestamp} (op : Operation) :
    Within (Change now op.calls) (op.run keys now) := by
  cases op with
  | createRefundRequest requestId input => exact fun _ _ _ h => .single (.created h)
  | persistApprovalAttestation attestationId row =>
    exact within_of_frame fun _ _ _ => frame_persistApprovalAttestation
  | recordDecision requestId decision time =>
    exact .map _ (within_recordDecision fun _ _ _ _ => ⟨rfl, _, _, rfl⟩)
  | cancelPendingRequest requestId requesterUserId time =>
    have hcall : Within (Change now (Operation.cancelPendingRequest requestId requesterUserId
        time).calls) (onRequest now requestId
          (RequestCall.cancelPendingRequest requesterUserId time).run) :=
      WorkerStore.within_onRequest_call fun _ _ => ⟨rfl, rfl⟩
    exact .map _ hcall
  | expirePendingRequests skipLocked time limit =>
    exact within_expirePendingRequests fun _ _ _ => rfl
  | setApproverEnabled userId enabled =>
    exact .map _ (within_of_frame fun _ _ _ => frame_setApproverEnabled)
  | acknowledgeExternalRefundAlert key userId time =>
    exact .map _ fun _ _ _ h => .single (.acknowledged h)
  | deauthorizeInstallation installationId deauthorizedAt purgeAt =>
    exact .map _ (within_deauthorizeInstallation fun _ _ _ hc _ => hc)
  | provisionWebhookInstallation installationId eventId eventCreatedAt =>
    exact .map _ (within_of_frame fun _ _ _ => frame_provisionWebhookInstallation)
  | insertWebhookReceipt receiptId data =>
    exact .map _ (within_of_frame fun _ _ _ => frame_insertWebhookReceipt)
  | markWebhookReceiptFailed receiptId errorCode =>
    exact .map _ (within_of_frame fun _ _ _ => frame_markWebhookReceiptFailed)
  | processInstallationLifecycle input =>
    exact WorkerStore.within_processInstallationLifecycle fun _ _ _ hc _ => hc
  | loadRefundExecution requestId time =>
    exact .map _ (WorkerStore.within_loadRefundExecution (fun _ _ => ⟨rfl, .inl rfl⟩)
      fun _ _ _ _ => ⟨rfl, .inr ⟨_, _, rfl⟩⟩)
  | persistEffectBoundary requestId idempotencyKey time =>
    exact .map _ (WorkerStore.within_persistEffectBoundary (fun _ _ => ⟨rfl, .inl rfl⟩)
      (fun _ _ => ⟨rfl, .inr (.inl rfl)⟩) (fun _ _ _ => ⟨rfl, .inr (.inr (.inl ⟨_, rfl⟩))⟩)
      fun _ _ _ => ⟨rfl, .inr (.inr (.inr ⟨_, rfl⟩))⟩)
  | recordIdentifiedRefund input =>
    exact WorkerStore.within_recordIdentifiedRefund
      (fun _ _ hid hs => .inl ⟨rfl, .inl ⟨rfl, _, rfl, hid, hs⟩⟩)
      (fun _ _ _ hidentifies => .inl ⟨rfl, .inr (.inl ⟨hidentifies, _, rfl⟩)⟩)
      (fun _ _ _ => .inl ⟨rfl, .inr (.inr ⟨_, rfl⟩)⟩) fun _ _ _ hc _ => .inr hc
  | recordRetryableAttemptFailure input =>
    exact WorkerStore.within_recordRetryableAttemptFailure (fun _ _ => ⟨rfl, rfl, .inl ⟨_, rfl⟩⟩)
      fun _ => ⟨rfl, rfl, .inr rfl⟩
  | recordAmbiguousAttemptFailure input =>
    exact WorkerStore.within_recordAmbiguousAttemptFailure (fun _ _ => ⟨rfl, rfl, .inl ⟨_, rfl⟩⟩)
      fun _ => ⟨rfl, rfl, .inr rfl⟩
  | recordTerminalAttemptWithoutEffect input =>
    exact WorkerStore.within_recordTerminalAttemptWithoutEffect
      (fun _ _ => ⟨rfl, rfl, .inl ⟨_, rfl⟩⟩) (fun _ => ⟨rfl, rfl, .inr (.inl rfl)⟩)
      fun _ => ⟨rfl, rfl, .inr (.inr rfl)⟩
  | recordTerminalWithoutEffect requestId time =>
    exact WorkerStore.within_recordTerminalWithoutEffect fun _ _ => ⟨rfl, rfl⟩
  | recordReconciliationRequired requestId =>
    exact WorkerStore.within_recordReconciliationRequired fun _ _ => ⟨rfl, rfl⟩
  | prepareExecutionRecoveryWork limit =>
    exact .map _ (within_prepareExecutionRecoveryWork fun _ _ _ => rfl)
  | reconcileUnrecoverable item =>
    exact WorkerStore.within_reconcileUnrecoverable fun _ _ => ⟨rfl, rfl⟩
  | observeRefund input => exact WorkerStore.within_observeRefund
  | observeLinkedRefund input =>
    exact WorkerStore.within_observeLinkedRefund fun _ execution _ he hl hid hs =>
      ⟨rfl, rfl, _, rfl, hid, hs, execution, he, hl⟩
  | commitReconciliationCheckpoint input =>
    exact WorkerStore.within_commitReconciliationCheckpoint fun _ _ _ _ hc => hc

end RefundDesk
