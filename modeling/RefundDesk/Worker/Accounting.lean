import RefundDesk.Repositories.Candidates
import RefundDesk.Worker.Reachable

namespace RefundDesk

open Transaction Relation RequestRepository TenantRepository WorkerStore ObserveRefundInput

-- A refund of a request is linked, an alert names it, or it is a candidate of a request that waits
-- for reconciliation and holds its guard, so that a later scan decides about it.
inductive Accounted (s : Store) (installationId requestId refundId : String) : Prop
  | linked {d} :
    s.requests.find? requestId = some d → d.linkedRefundId = some refundId →
    Accounted s installationId requestId refundId
  | alerted :
    (s.alerts.find? (toLex (installationId, refundId))).isSome →
    Accounted s installationId requestId refundId
  | candidate {id d} :
    s.requests.find? id = some d → (d.candidates.find? refundId).isSome →
    d.request.workflowStatus = .reconciliationRequired →
    d.request.paymentGuardReleasedAt = none →
    Accounted s installationId requestId refundId

section Permanence

variable {env : TriggerEnv} {d d' : RefundRequestDetail} {call : RequestCall} {b : Bool}
variable {refundId : String}

-- A link is for good.
theorem linked_of_outcome (ho : Outcome env d call b d')
    (h : d.linkedRefundId = some refundId) : d'.linkedRefundId = some refundId := by
  cases ho with
  | inserted he _ => simp [RefundRequestDetail.linkedRefundId, he] at h
  | begun he | finished he =>
    simpa [RefundRequestDetail.linkedRefundId, he] using h
  | @identified input locked _ _ he hagree _ _ _ hf =>
    have hlocked : locked.stripeRefundId = some refundId := by
      simpa [RefundRequestDetail.linkedRefundId, he] using h
    have hid : input.stripeRefundId = refundId := by
      rcases hagree with hn | hs
      · simp [hlocked] at hn
      · exact Option.some.inj (hs.symm.trans hlocked)
    cases hf with
    | twice _ _ _ _ hd _ _ =>
      subst hd
      exact congrArg some hid
    | _ => exact congrArg some hid
  | decided _ hd _ _ =>
    subst hd
    exact h
  | _ => exact h

-- No call forgets a candidate.
theorem candidate_of_outcome (ho : Outcome env d call b d')
    (h : (d.candidates.find? refundId).isSome) : (d'.candidates.find? refundId).isSome := by
  cases ho with
  | identified _ _ _ _ _ hf =>
    have hsame := candidates_of_followed hf
    exact hsame ▸ h
  | @candidate input row _ _ _ =>
    have hinsert : ((d.candidates.insert input.stripeRefundId (input.merged row)).find?
        refundId).isSome := by
      rw [Table.find?_insert]
      split_ifs
      · rfl
      · exact h
    change ((storedCandidates d input row).find? refundId).isSome
    unfold storedCandidates
    dsimp only
    split_ifs
    · simpa using hinsert
    · exact hinsert
  | candidateLinked _ _ =>
    dsimp only
    rw [Table.find?_insert]
    split_ifs
    · rfl
    · exact h
  | candidatesConflicted => simpa using h
  | decided _ hd _ _ =>
    subst hd
    exact h
  | _ => exact h

-- A request that waits for reconciliation and holds its guard.
def IsWaiting (row : RefundRequest) : Prop :=
  row.workflowStatus = .reconciliationRequired ∧ row.paymentGuardReleasedAt = none

theorem waiting_of_follow {row new : RefundRequest} {input : IdentifiedRefundInput}
    (hf : row.Follow input new) (hp : input.reconciliationResolution = .preserve)
    (hw : IsWaiting row) : IsWaiting new := by
  obtain ⟨hw, hg⟩ := hw
  cases hf with
  | corrected hw' _ _ => simp [hw] at hw'
  | preserved _ _ _ => exact ⟨hw, hg⟩
  | converged _ _ hn => exact (hn ⟨hw, hp⟩).elim

-- An observation leaves a request waiting.
theorem waiting_of_outcome {input : ObserveRefundInput} (hcall : ObservationCall input d call b)
    (ho : Outcome env d call b d') (h : IsWaiting d.request) : IsWaiting d'.request := by
  have stamped {old new : RefundRequest} (hw : IsWaiting new) : IsWaiting (old.stamped env new) := by
    simpa [IsWaiting] using hw
  obtain ⟨hw, hg⟩ := h
  cases ho with
  | moved hm _ => cases hm <;> simp_all [ObservationCall, protectiveCalls]
  | decided _ _ _ _ => simp [ObservationCall, protectiveCalls] at hcall
  | identified _ _ _ _ _ hf =>
    have hp : (input.identified).reconciliationResolution = .preserve := rfl
    rw [← hcall.2.1] at hp
    cases hf with
    | once hf _ => exact stamped (waiting_of_follow hf hp ⟨hw, hg⟩)
    | twice _ _ hpossible _ hd hf _ =>
      subst hd hpossible
      exact stamped (waiting_of_follow hf hp (stamped ⟨hw, hg⟩))
    | _ => exact ⟨hw, hg⟩
  | _ => exact ⟨hw, hg⟩

end Permanence

section Observe

variable {keys : WorkerKeys} {now : Timestamp} {footprint : Footprint} {s s' : Store}
variable {input : ObserveRefundInput} {requestId refundId : String}

theorem alert_of_change {key : String ×ₗ String} (hc : Change now footprint s s')
    (h : (s.alerts.find? key).isSome) : (s'.alerts.find? key).isSome := by
  have hinsert {k : String ×ₗ String} {alert : ExternalRefundAlert} :
      ((s.alerts.insert k alert).find? key).isSome := by
    rw [Table.find?_insert]
    split_ifs
    · rfl
    · exact h
  cases hc with
  | request _ _ => exact h
  | guarded _ hp => exact rest_of_protectRequests hp ▸ h
  | alerted _ ho =>
    obtain ⟨environment, s₁, counts, conflict, -, hi, hp⟩ := steps_of_observeExternalRefund ho
    have hs₁ := requests_of_insertAlert hi
    rw [rest_of_protectRequests hp, hs₁]
    exact hinsert
  | acknowledged ha =>
    rcases alerts_of_acknowledge ha with rfl | ⟨_, _, rfl⟩
    · exact h
    · exact hinsert
  | created ho =>
    obtain ⟨d, _, rfl⟩ := created_of_createRefundRequest ho
    exact h
  | checkpointed _ => exact h
  | frame hf => exact hf.alerts ▸ h

-- What an observation has accounted for stays accounted for.
theorem accounted_of_changes {installationId : String}
    (hrun : ReflTransGen (Change now fun _ => ObservationCall input) s s')
    (h : Accounted s installationId requestId refundId) :
    Accounted s' installationId requestId refundId := by
  refine preserved_of_run (fun s => Accounted s installationId requestId refundId) ?_ hrun h
  intro s₁ s₂ h₁ hc
  cases h₁ with
  | @linked d hd hl =>
    obtain ⟨d', hd', he⟩ := hc.kept requestId d hd
    refine .linked hd' (preserved_of_run (fun d => d.linkedRefundId = some refundId) ?_ he hl)
    exact fun _ _ hl ⟨_, _, _, _, _, _, ho⟩ => linked_of_outcome ho hl
  | alerted ha => exact .alerted (alert_of_change hc ha)
  | @candidate id d hd hcandidate hw hg =>
    obtain ⟨d', hd', he⟩ := hc.kept id d hd
    obtain ⟨hcandidate', hwaiting⟩ := preserved_of_run
      (fun d => (d.candidates.find? refundId).isSome ∧ IsWaiting d.request)
      (fun _ _ ⟨hx, hw⟩ ⟨_, _, _, _, _, hcall, ho⟩ =>
        ⟨candidate_of_outcome ho hx, waiting_of_outcome hcall ho hw⟩) he ⟨hcandidate, hw, hg⟩
    exact .candidate hd' hcandidate' hwaiting.1 hwaiting.2

-- An observation decides about a request that is linked, or that executes or waits for
-- reconciliation with an execution. A refund that names the request in other letters is tampered.
def DecidesAbout (input : ObserveRefundInput) (requestId : String) (d : RefundRequestDetail) :
    Prop :=
  input.refund.metadataRequestId ≠ some requestId ∨ d.linkedRefundId ≠ none ∨
    d.execution.isSome ∧ d.request.workflowStatus ∈ [.executing, .reconciliationRequired]

theorem alert_of_observeExternalRefund {external : ExternalRefundObservationInput}
    {r : ExternalRefundAlert × RequestTransition}
    (h : (observeExternalRefund now external).Commits s r s') :
    (s'.alerts.find? external.alertKey).isSome := by
  obtain ⟨environment, s₁, counts, conflict, -, hi, hp⟩ := steps_of_observeExternalRefund h
  rw [rest_of_protectRequests hp, requests_of_insertAlert hi]
  simp

theorem candidate_of_persistCandidate {paymentKey : String} {d : RefundRequestDetail}
    {correlation : EventIdempotencyEvidence} {result : RefundCorrelationCandidateResult}
    (hd : s.requests.find? requestId = some d)
    (h : (persistCandidate now input paymentKey correlation requestId).Commits s result s') :
    ∃ candidates, s' = s.putRequest requestId { d with candidates := candidates } ∧
      (candidates.find? input.refund.refundId).isSome := by
  obtain ⟨currency, d', _, hr, rfl⟩ := (commits_persistCandidate hd).mp h
  obtain ⟨row, _, _, _, _, rfl⟩ := commits_recordRefundCorrelationCandidate.mp hr
  refine ⟨_, rfl, ?_⟩
  unfold storedCandidates
  dsimp only
  split_ifs <;> simp [ObserveRefundInput.candidate]

-- A request without a link is linked to the refund that is identified.
theorem linked_of_identified {env : TriggerEnv} {d d' : RefundRequestDetail}
    {observation : IdentifiedRefundInput} (hsound : ∀ e, d.execution = some e → e.LinkSound)
    (hlink : d.linkedRefundId = none)
    (h : (markRefundIdentified env observation).Commits d true d') :
    d'.linkedRefundId = some observation.stripeRefundId := by
  have hcall : ((RequestCall.markRefundIdentified observation).run env).Commits d true d' := h
  cases RequestCall.outcome_of_run hcall with
  | moved hm _ => cases hm
  | @unapplied _ locked he _ ha =>
    have hnone : locked.stripeRefundId = none := by
      simpa [RefundRequestDetail.linkedRefundId, he] using hlink
    obtain ⟨hstatus, hevent⟩ := (hsound locked he).unlinked hnone
    simp [shouldApplyRefundObservation, hstatus, hevent, isOlderEvent, isEqualEvent] at ha
  | identified _ _ _ _ _ hf =>
    cases hf with
    | twice _ _ _ _ hd _ _ =>
      subst hd
      rfl
    | _ => rfl

theorem linked_of_linkExactCandidate {d : RefundRequestDetail} {u : Unit}
    (hd : s.requests.find? requestId = some d) (hsound : ∀ e, d.execution = some e → e.LinkSound)
    (hlink : d.linkedRefundId = none) (h : (linkExactCandidate now input requestId).Commits s u s') :
    ∃ d', s'.requests.find? requestId = some d' ∧ d'.linkedRefundId = some input.refund.refundId := by
  obtain ⟨d₁, b, d₂, h₁, h₂, h₃⟩ := (commits_linkExactCandidate hd).mp h
  have hl₂ : d₂.linkedRefundId = some input.refund.refundId := by
    rw [RefundRequestDetail.linkedRefundId, execution_of_markLinked h₂]
    exact linked_of_identified hsound hlink h₁
  have hrun : ReflTransGen (Change now fun _ => ObservationCall input) (s.putRequest requestId d₂) s' :=
    within_alertConflictingCandidates (fun _ _ call hcall b => protective_of_mem hcall b) h₃
  refine preserved_of_run (fun s => ∃ d', s.requests.find? requestId = some d' ∧
    d'.linkedRefundId = some input.refund.refundId) ?_ hrun ⟨d₂, find?_putRequest s requestId d₂, hl₂⟩
  rintro s₁ s₂ ⟨d', hd', hl'⟩ hc
  obtain ⟨d'', hd'', he⟩ := hc.kept requestId d' hd'
  refine ⟨d'', hd'', preserved_of_run (fun d => d.linkedRefundId = some input.refund.refundId)
    ?_ he hl'⟩
  rintro _ _ hl ⟨_, _, _, _, _, _, ho⟩
  exact linked_of_outcome ho hl

-- A request that executes or waits for reconciliation waits after it has been marked.
theorem waiting_of_markReconciliationRequired {env : TriggerEnv} {d d' : RefundRequestDetail}
    {b : Bool} (hcoherent : Coherent d.request d.execution)
    (hw : d.request.workflowStatus ∈ [.executing, .reconciliationRequired])
    (h : (markReconciliationRequired env).Commits d b d') :
    IsWaiting d'.request ∧ d'.candidates = d.candidates := by
  have hguard : d.request.paymentGuardReleasedAt = none := by
    rw [← Option.not_isSome_iff_eq_none, hcoherent.guard]
    rcases (by simpa using hw : _ ∨ _) with hw | hw <;> simp [hw, WorkflowStatus.isTerminal]
  rcases commits_updateRequest.mp h with ⟨hg, _, rfl⟩ | ⟨_, _, _, rfl⟩
  · have hn : d'.request.workflowStatus ≠ .executing := fun he => by simp [he, hguard] at hg
    exact ⟨⟨by simpa [hn] using hw, hguard⟩, rfl⟩
  · exact ⟨by simp [IsWaiting, RefundRequestDetail.replaceRow, hguard], rfl⟩

section Evidence

variable {d : RefundRequestDetail} {tenantId stripeAccountId paymentKey : String} {tuple : Bool}
variable {classification : RefundEvidenceClassification} {s₁ : Store} {u : Unit}

-- A refund that the observation leaves with an alert class gets its alert.
theorem alert_of_alertObservation {alertClass : AlertClassification}
    (hc : alertClassification classification = some alertClass)
    (h : (alertObservation now input paymentKey false classification).Commits s u s') :
    (s'.alerts.find? (toLex (input.installationId, input.refund.refundId))).isSome := by
  rcases commits_alertObservation.mp h with ⟨hn, _⟩ | ⟨_, _, currency, r, _, _, ho⟩
  · simp [hc] at hn
  · exact alert_of_observeExternalRefund ho

-- An observation that decides about the request accounts for its refund.
theorem accounted_of_decides (hsound : RequestSound d) (hd : s.requests.find? requestId = some d)
    (hmetadata : input.refund.metadataRequestId ≠ none)
    (hproof : input.hasValidProof keys tenantId stripeAccountId requestId d.request)
    (hcorrelate : (correlateRequest now input paymentKey
      (input.evidenceFor keys tenantId stripeAccountId (some (requestId, d)) true)
      (some (requestId, d))).Commits s classification s₁)
    (halert : (alertObservation now input paymentKey
      (input.evidenceFor keys tenantId stripeAccountId (some (requestId, d)) true).alreadyHandled
      classification).Commits s₁ u s')
    (hdecides : DecidesAbout input requestId d) :
    Accounted s' input.installationId requestId input.refund.refundId := by
  by_cases hnamed : input.refund.metadataRequestId = some requestId
  · have hp : Proven keys tenantId stripeAccountId input requestId d.request true :=
      ⟨hnamed, hproof, rfl⟩
    have he : d.execution.isSome := by
      rcases hdecides with hn | hlinked | ⟨he, _⟩
      · exact (hn hnamed).elim
      · cases he : d.execution with
        | none   => simp [RefundRequestDetail.linkedRefundId, he] at hlinked
        | some _ => rfl
      · exact he
    obtain ⟨result, s₂, hcandidate, hbranch⟩ :=
      (commits_correlateRequest_of_proven hp he).mp hcorrelate
    obtain ⟨candidates, rfl, hsome⟩ := candidate_of_persistCandidate hd hcandidate
    have hd₂ := find?_putRequest s requestId { d with candidates := candidates }
    have hrun := changes_of_alertObservation halert
    have hcoherent : Coherent ({ d with candidates := candidates } : RefundRequestDetail).request
      ({ d with candidates := candidates } : RefundRequestDetail).execution := hsound.coherent
    rcases hbranch with ⟨hnone, hw, h⟩ | ⟨hnone, hw, _, _⟩ | ⟨hown, _, h⟩ | ⟨hsomeLink, hother, rfl, rfl⟩
    · rcases (commits_correlateUnlinkedCandidate hd₂).mp h with ⟨_, _, h⟩ | ⟨_, _, b, d', hm, rfl⟩
      · obtain ⟨d', hd', hl'⟩ := linked_of_linkExactCandidate hd₂ hsound.link hnone h
        exact accounted_of_changes hrun (.linked hd' hl')
      · obtain ⟨hwaiting, hsame⟩ := waiting_of_markReconciliationRequired hcoherent hw hm
        exact accounted_of_changes hrun (.candidate (find?_putRequest _ requestId d')
          (hsame ▸ hsome) hwaiting.1 hwaiting.2)
    · rcases hdecides with hn | hlinked | ⟨_, hw'⟩
      · exact (hn hnamed).elim
      · exact (hlinked hnone).elim
      · exact (hw hw').elim
    · obtain ⟨execution, hexec⟩ := Option.isSome_iff_exists.mp he
      have hl : execution.stripeRefundId = some input.refund.refundId := by
        simpa [RefundRequestDetail.linkedRefundId, hexec] using hown
      exact accounted_of_changes (.head (change_of_refreshLinkedRefund hd₂ hexec hl h) hrun)
        (.linked hd₂ hown)
    · have hfresh : (input.evidenceFor keys tenantId stripeAccountId (some (requestId, d))
          true).alreadyLinked = false := by
        rw [← Bool.not_eq_true, alreadyLinked_iff]
        exact fun h => hother h.2
      rw [alreadyHandled_of_not_linked _ _ _ _ _ _ _ hfresh] at halert
      exact .alerted (alert_of_alertObservation rfl halert)
  · have hn : ¬Proven keys tenantId stripeAccountId input requestId d.request true :=
      fun hp => hnamed hp.named
    have hproofText : input.refund.metadataProof ≠ none := fun hnone => by
      simp [hasValidProof, hnone] at hproof
    obtain ⟨rfl, rfl⟩ := (commits_correlateRequest_of_not_proven fun h => hn h.1).mp hcorrelate
    have hclass : (input.evidenceFor keys tenantId stripeAccountId (some (requestId, d))
        true).classification = .tampered := by
      rw [classification_eq]
      simp [hmetadata, hproofText, hnamed]
    have hfresh : (input.evidenceFor keys tenantId stripeAccountId (some (requestId, d))
        true).alreadyLinked = false := by
      rw [← Bool.not_eq_true, alreadyLinked_iff]
      exact fun h => hn h.1
    rw [alreadyHandled_of_not_linked _ _ _ _ _ _ _ hfresh, hclass] at halert
    exact .alerted (alert_of_alertObservation rfl halert)

-- An observation that does not decide about the request leaves no trace of its refund but a
-- candidate of a request that does not wait.
theorem accounted_before (hd : s.requests.find? requestId = some d)
    (hproof : input.hasValidProof keys tenantId stripeAccountId requestId d.request)
    (hcorrelate : (correlateRequest now input paymentKey
      (input.evidenceFor keys tenantId stripeAccountId (some (requestId, d)) true)
      (some (requestId, d))).Commits s classification s₁)
    (halert : (alertObservation now input paymentKey
      (input.evidenceFor keys tenantId stripeAccountId (some (requestId, d)) true).alreadyHandled
      classification).Commits s₁ u s')
    (hdecides : ¬DecidesAbout input requestId d)
    (h : Accounted s' input.installationId requestId input.refund.refundId) :
    Accounted s input.installationId requestId input.refund.refundId := by
  simp only [DecidesAbout, not_or, not_not, not_and] at hdecides
  obtain ⟨hnamed, hnone, hw⟩ := hdecides
  have hp : Proven keys tenantId stripeAccountId input requestId d.request true :=
    ⟨hnamed, hproof, rfl⟩
  by_cases he : d.execution.isSome
  · obtain ⟨result, s₂, hcandidate, hbranch⟩ :=
      (commits_correlateRequest_of_proven hp he).mp hcorrelate
    obtain ⟨candidates, rfl, -⟩ := candidate_of_persistCandidate hd hcandidate
    have hlate : classification = .workflowCandidate ∧
        s₁ = s.putRequest requestId { d with candidates := candidates } := by
      rcases hbranch with ⟨_, hw', _⟩ | ⟨_, _, hc, hs⟩ | ⟨hown, _⟩ | ⟨hlinked, _⟩
      · exact (hw he hw').elim
      · exact ⟨hc, hs⟩
      · simp [hnone] at hown
      · exact (hlinked hnone).elim
    obtain ⟨rfl, rfl⟩ := hlate
    obtain rfl : s' = s.putRequest requestId { d with candidates := candidates } := by
      rcases commits_alertObservation.mp halert with ⟨_, h⟩ | ⟨_, _, _, _, hc, _⟩
      · exact h
      · simp [alertClassification] at hc
    have hfind {id : String} {d' : RefundRequestDetail}
        (hd' : (s.putRequest requestId { d with candidates := candidates }).requests.find? id =
          some d') : id = requestId ∧ d' = { d with candidates := candidates } ∨
          s.requests.find? id = some d' := by
      simp only [Store.putRequest, Table.find?_insert] at hd'
      split_ifs at hd' with hid
      · exact .inl ⟨hid, (Option.some.inj hd').symm⟩
      · exact .inr hd'
    cases h with
    | linked hd' hl =>
      rcases hfind hd' with ⟨_, rfl⟩ | hd'
      · have hl : d.linkedRefundId = some input.refund.refundId := hl
        simp [hnone] at hl
      · exact .linked hd' hl
    | alerted ha => exact .alerted ha
    | candidate hd' hcandidate hw' hg =>
      rcases hfind hd' with ⟨_, rfl⟩ | hd'
      · have hw' : d.request.workflowStatus = .reconciliationRequired := hw'
        exact (hw he (by simp [hw'])).elim
      · exact .candidate hd' hcandidate hw' hg
  · obtain ⟨rfl, rfl⟩ := (commits_correlateRequest_of_not_proven fun h => he h.2).mp hcorrelate
    rw [classification_of_proven hp, provenClassification_eq_candidate.mpr hnone] at halert
    obtain rfl : s' = s₁ := by
      rcases commits_alertObservation.mp halert with ⟨_, h⟩ | ⟨_, _, _, _, hc, _⟩
      · exact h
      · simp [alertClassification] at hc
    exact h

end Evidence

-- The receipt of a webhook has been processed before.
def isProcessed (s : Store) (input : ObserveRefundInput) : Bool :=
  match input.source with
  | .webhook receiptId .. =>
    (s.receipts.find? receiptId).any fun receipt => receipt.status = .processed
  | .scan _ => false

theorem pending_of_checkReceipt {receiptId stripeEventId stripeAccountId : String}
    {eventIdempotencyKey : Option String} {eventType : AccountWebhookEventType} {eventCreated : Int}
    {pending : Bool}
    (h : checkReceipt s input receiptId stripeEventId stripeAccountId eventIdempotencyKey eventType
      eventCreated = .ok pending) :
    pending = !(s.receipts.find? receiptId).any fun receipt => receipt.status = .processed := by
  unfold checkReceipt at h
  split at h
  case h_1 => cases h
  case h_2 receipt hr =>
    rw [hr]
    split_ifs at h with hprocessed
    · obtain rfl := Except.ok.inj h
      simp [hprocessed]
    · obtain ⟨_, _, h⟩ := Except.bind_eq_ok.mp h
      dsimp only at h
      split_ifs at h
      obtain rfl := Except.ok.inj h
      simp [hprocessed]

-- A webhook whose receipt has been processed changes nothing. Every other observation is evidence.
theorem evidence_of_observeRefund {u : Unit} (h : (observeRefund keys now input).Commits s u s') :
    isProcessed s input = true ∧ s' = s ∨
    isProcessed s input = false ∧ ∃ s₁, (observeRefundEvidence keys now input).Commits s () s₁ ∧
      s'.requests = s₁.requests ∧ s'.alerts = s₁.alerts := by
  simp only [observeRefund, commits_bind, commits_require] at h
  obtain ⟨_, _, ⟨_, rfl⟩, h⟩ := h
  unfold isProcessed
  split at h
  case h_1 hsource => exact .inr ⟨by simp [hsource], s', h, rfl, rfl⟩
  case h_2 receiptId _ _ _ _ _ hsource =>
    simp only [hsource]
    simp only [commits_bind, commits_get, commits_fromExcept, commits_ite, commits_require,
      commits_pure] at h
    obtain ⟨_, _, ⟨rfl, rfl⟩, pending, _, ⟨hcheck, rfl⟩, h⟩ := h
    have hpending := pending_of_checkReceipt hcheck
    rcases h with ⟨hp, _, s₁, hevidence, _, _, hmark, _, rfl⟩ | ⟨hp, _, rfl⟩
    · have hframe := frame_markWebhookReceiptProcessed hmark
      refine .inr ⟨?_, s₁, hevidence, hframe.requests, hframe.alerts⟩
      simpa [hp] using hpending
    · refine .inl ⟨?_, rfl⟩
      simpa [hp] using hpending

theorem accounted_congr {s₁ s₂ : Store} {installationId : String} (hr : s₂.requests = s₁.requests)
    (ha : s₂.alerts = s₁.alerts) : Accounted s₂ installationId requestId refundId ↔
      Accounted s₁ installationId requestId refundId := by
  constructor
  · rintro (⟨hd, hl⟩ | ha' | ⟨hd, hc, hw, hg⟩)
    · exact .linked (hr ▸ hd) hl
    · exact .alerted (ha ▸ ha')
    · exact .candidate (hr ▸ hd) hc hw hg
  · rintro (⟨hd, hl⟩ | ha' | ⟨hd, hc, hw, hg⟩)
    · exact .linked (hr ▸ hd) hl
    · exact .alerted (ha ▸ ha')
    · exact .candidate (hr ▸ hd) hc hw hg

-- An observation of a valid refund of a request accounts for the refund when it decides about the
-- request, and else only if the refund had been accounted for before.
theorem observeRefund_accounts_iff {admits : Operation → Prop} {installation : StripeInstallation}
    {d : RefundRequestDetail} {paymentKey : String} (hs : Reachable keys admits s)
    (hi : s.installations.find? input.installationId = some installation)
    (hn : namedRequest s input = some (requestId, d))
    (hk : paymentKeyOf input.refund = .ok paymentKey)
    (ht : input.tupleMatches paymentKey d.request = .ok true)
    (hp : input.hasValidProof keys s.tenantId installation.stripeAccountId requestId d.request)
    (h : (observeRefund keys now input).Commits s () s') :
    Accounted s' input.installationId requestId input.refund.refundId ↔
      Accounted s input.installationId requestId input.refund.refundId ∨
        isProcessed s input = false ∧ DecidesAbout input requestId d := by
  rcases evidence_of_observeRefund h with ⟨hprocessed, rfl⟩ | ⟨hprocessed, s₁, hevidence, hr, ha⟩
  · simp [hprocessed]
  · obtain ⟨text, hmetadata, _, _, hd⟩ := namedRequest_eq_some.mp hn
    obtain ⟨installation', paymentKey', e, classification, s₂, hobserved, hk', he, hcorrelate,
      halert⟩ := commits_observeRefundEvidence.mp hevidence
    obtain rfl := Except.ok.inj (hk.symm.trans hk')
    obtain rfl := Option.some.inj (hi.symm.trans hobserved.found)
    rw [hn] at he hcorrelate
    obtain ⟨tuple, htuple, rfl⟩ := evidence_eq_ok.mp he
    obtain rfl := Except.ok.inj (ht.symm.trans htuple)
    rw [accounted_congr hr ha]
    simp only [hprocessed, true_and]
    constructor
    · intro haccounted
      by_cases hdecides : DecidesAbout input requestId d
      · exact .inr hdecides
      · exact .inl (accounted_before hd hp hcorrelate halert hdecides haccounted)
    · rintro (haccounted | hdecides)
      · exact accounted_of_changes (within_observeRefundEvidence hevidence) haccounted
      · exact accounted_of_decides (hs.sound.requests requestId d hd) hd (by simp [hmetadata]) hp
          hcorrelate halert hdecides

end Observe

namespace Pilot

-- The first attempt fails for good.
def failed : List (Timestamp × Operation) :=
  attempted ++ [(6000, .recordTerminalAttemptWithoutEffect {
    requestId := requestId, attemptNumber := 1, errorCode := "card_declined", time := 6000
  })]

-- What an observation of the refund leaves of a store
def unnoticed (s : Store) : Bool :=
  match (observeRefund keys 7000 (scanned refund 7000)).run s, s.installations.find? "i",
      namedRequest s (scanned refund 7000) with
  | .ok (_, s'), some installation, some (id, d) =>
    id = requestId ∧ (scanned refund 7000).tupleMatches "pi_1" d.request = .ok true ∧
    (scanned refund 7000).hasValidProof keys s.tenantId installation.stripeAccountId id
      d.request ∧
    s'.alerts.entries = [] ∧ (s'.requests.entries.all fun e =>
      e.2.linkedRefundId = none ∧ e.2.request.workflowStatus = .failedTerminal)
  | _, _, _ => false

-- The refund of the failed request shows up in a scan, which leaves no trace of it.
theorem late_refund : ∃ s s' installation d, Reachable keys (fun _ => True) s ∧
    s.installations.find? "i" = some installation ∧
    namedRequest s (scanned refund 7000) = some (requestId, d) ∧
    (scanned refund 7000).tupleMatches "pi_1" d.request = .ok true ∧
    (scanned refund 7000).hasValidProof keys s.tenantId installation.stripeAccountId requestId
      d.request ∧
    (observeRefund keys 7000 (scanned refund 7000)).Commits s () s' ∧
    s'.alerts.entries = [] ∧ (s'.requests.entries.all fun e =>
      e.2.linkedRefundId = none ∧ e.2.request.workflowStatus = .failedTerminal) := by
  have hruns : Store.pilot.runs keys failed (fun s => unnoticed s) := by decide +kernel
  obtain ⟨s, hreach, _, hp⟩ := Reachable.of_runs Store.pilot_initial hruns
  unfold unnoticed at hp
  split at hp
  case h_1 s' installation id d hrun hi hn =>
    obtain ⟨rfl, ht, hproof, ha, hr⟩ := of_decide_eq_true hp
    exact ⟨s, s', installation, d, hreach, hi, hn, ht, hproof, hrun, ha, hr⟩
  case h_2 => cases hp

end Pilot

-- A valid refund of a request that has failed without a link ends with neither link nor alert.
theorem observeRefund_drops_late_refund : ∃ s s' installation d,
    Reachable Pilot.keys (fun _ => True) s ∧ s.installations.find? "i" = some installation ∧
    namedRequest s (Pilot.scanned Pilot.refund 7000) = some (Pilot.requestId, d) ∧
    (Pilot.scanned Pilot.refund 7000).tupleMatches "pi_1" d.request = .ok true ∧
    (Pilot.scanned Pilot.refund 7000).hasValidProof Pilot.keys s.tenantId
      installation.stripeAccountId Pilot.requestId d.request ∧
    (observeRefund Pilot.keys 7000 (Pilot.scanned Pilot.refund 7000)).Commits s () s' ∧
    ¬Accounted s' "i" Pilot.requestId "re_1" := by
  obtain ⟨s, s', installation, d, hs, hi, hn, ht, hp, h, ha, hr⟩ := Pilot.late_refund
  refine ⟨s, s', installation, d, hs, hi, hn, ht, hp, h, ?_⟩
  have hrow {id : String} {d : RefundRequestDetail} (hd : s'.requests.find? id = some d) :
      d.linkedRefundId = none ∧ d.request.workflowStatus = .failedTerminal :=
    of_decide_eq_true (List.all_eq_true.mp hr (id, d) (Table.mem_entries_iff.mpr hd))
  rintro (⟨hd, hl⟩ | halert | ⟨hd, _, hw, _⟩)
  · simp [(hrow hd).1] at hl
  · simp [Table.find?, ha] at halert
  · simp [(hrow hd).2] at hw

theorem observeRefund_accounts_iff_late : ∃ s s' d,
    Accounted s' "i" Pilot.requestId "re_1" ↔
      Accounted s "i" Pilot.requestId "re_1" ∨
        isProcessed s (Pilot.scanned Pilot.refund 7000) = false ∧
          DecidesAbout (Pilot.scanned Pilot.refund 7000) Pilot.requestId d := by
  obtain ⟨s, s', installation, d, hs, hi, hn, ht, hp, h, -⟩ := Pilot.late_refund
  exact ⟨s, s', d, observeRefund_accounts_iff hs hi hn rfl ht hp h⟩

end RefundDesk
