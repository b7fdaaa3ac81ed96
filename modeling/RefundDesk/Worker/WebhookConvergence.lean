import Mathlib.Tactic.Tauto
import RefundDesk.Library.RankedEvents
import RefundDesk.Repositories.Monotonicity
import RefundDesk.Worker.ExecutionRuns

namespace RefundDesk

open Transaction Relation RequestRepository TenantRepository WorkerStore

-- A webhook event of a refund, with the status that it reports.
@[ext]
structure RefundEvent where
  createdAt : Timestamp
  status    : StripeRefundStatus
  deriving DecidableEq, Repr

-- What the rows of a request record of its refund and make of it.
structure RefundRow where
  eventCreatedAt : Option Timestamp
  status         : Option StripeRefundStatus
  workflowStatus : WorkflowStatus
  deriving DecidableEq, Repr

-- Of two events of a second a failure is the greatest, then a cancellation.
def finality : Option StripeRefundStatus → Nat
  | some .failed   => 2
  | some .canceled => 1
  | _              => 0

abbrev RefundEventRank := Timestamp ×ₗ Nat

def RefundEvent.rank (e : RefundEvent) : RefundEventRank :=
  toLex (e.createdAt, finality (some e.status))

-- A history of a refund: its status never moves back.
def Forward (events : RefundEvent → Prop) : Prop :=
  ∀ e e', events e → events e' → e.createdAt < e'.createdAt →
    stripeStatusRank (some e.status) ≤ stripeStatusRank (some e'.status)

def Greatest (events : RefundEvent → Prop) (e : RefundEvent) : Prop :=
  events e ∧ ∀ e', events e' → e'.rank ≤ e.rank

-- The greatest events of a history report one status.
def Settled (events : RefundEvent → Prop) : Prop :=
  ∀ e e', Greatest events e → Greatest events e' → e.status = e'.status

namespace RefundRow

def fresh (row : RefundRow) (e : RefundEvent) : Bool :=
  match row.eventCreatedAt with
  | none           => true
  | some createdAt => createdAt < e.createdAt ∨
      createdAt = e.createdAt ∧ finality row.status < finality (some e.status)

def applies (row : RefundRow) (e : RefundEvent) : Bool :=
  row.fresh e && decide (stripeStatusRank row.status ≤ stripeStatusRank (some e.status))

-- The workflow follows the refund of a request that executes or has succeeded.
def followed (status : StripeRefundStatus) : WorkflowStatus → WorkflowStatus
  | .executing =>
    match status with
    | .pending | .requiresAction => .executing
    | .succeeded                 => .succeeded
    | .failed | .canceled        => .failedTerminal
  | .succeeded =>
    if status = .failed ∨ status = .canceled then .failedTerminal else .succeeded
  | workflowStatus => workflowStatus

def apply (row : RefundRow) (e : RefundEvent) : RefundRow where
  eventCreatedAt := some e.createdAt
  status         := some e.status
  workflowStatus := followed e.status row.workflowStatus

def delivery : RankedEvents.Delivery RefundEvent RefundEventRank RefundRow where
  rank := RefundEvent.rank
  applies
  apply

variable {row : RefundRow} {e g : RefundEvent} {events : RefundEvent → Prop}
variable {status status' : StripeRefundStatus}

theorem finality_le (h : stripeStatusRank (some status) ≤ stripeStatusRank (some status')) :
    finality (some status) ≤ finality (some status') := by
  cases status <;> cases status' <;> simp_all [stripeStatusRank, finality]

theorem stripeStatusRank_le (h : finality (some status) < finality (some status')) :
    stripeStatusRank (some status) ≤ stripeStatusRank (some status') := by
  cases status <;> cases status' <;> simp_all [stripeStatusRank, finality]

theorem rank_lt_iff : g.rank < e.rank ↔ g.createdAt < e.createdAt ∨
    g.createdAt = e.createdAt ∧ finality (some g.status) < finality (some e.status) := by
  rw [RefundEvent.rank, RefundEvent.rank, Prod.Lex.toLex_lt_toLex]

theorem followed_followed {w : WorkflowStatus}
    (h : stripeStatusRank (some status) ≤ stripeStatusRank (some status')) :
    followed status' (followed status w) = followed status' w := by
  cases w <;> cases status <;> cases status' <;> simp_all [followed, stripeStatusRank]

theorem applies_iff : row.applies e ↔
    (∀ createdAt ∈ row.eventCreatedAt, createdAt < e.createdAt ∨
      createdAt = e.createdAt ∧ finality row.status < finality (some e.status)) ∧
    stripeStatusRank row.status ≤ stripeStatusRank (some e.status) := by
  cases h : row.eventCreatedAt <;> simp [applies, fresh, h]

-- A later event of a history has no lesser status.
theorem stripeStatusRank_of_rank_lt (hf : Forward events) (hg : events g) (he : events e)
    (h : g.rank < e.rank) :
    stripeStatusRank (some g.status) ≤ stripeStatusRank (some e.status) := by
  rcases rank_lt_iff.mp h with hlt | ⟨-, hlt⟩
  · exact hf g e hg he hlt
  · exact stripeStatusRank_le hlt

-- An event that a row ignores is no greater than one that it applies.
theorem rank_le_of_ignored (hf : Forward events) (hg : events g) (he : events e)
    (hag : row.applies g) (hne : row.applies e = false) : e.rank ≤ g.rank := by
  by_contra hlt
  rw [not_le] at hlt
  obtain ⟨hfresh, hstatus⟩ := applies_iff.mp hag
  have hforward := stripeStatusRank_of_rank_lt hf hg he hlt
  refine absurd (applies_iff.mpr ⟨fun createdAt hc => ?_, hstatus.trans hforward⟩) (by simp [hne])
  rcases hfresh createdAt hc with h | ⟨rfl, h⟩ <;> rcases rank_lt_iff.mp hlt with h' | ⟨h', h''⟩
  · exact .inl (h.trans h')
  · exact .inl (h' ▸ h)
  · exact .inl h'
  · exact .inr ⟨h', h.trans h''⟩

theorem ranked (hf : Forward events) (row : RefundRow) : delivery.Ranked events row where
  applies_iff {g e} hg he _ := by
    change applies (apply row g) e ↔ g.rank < e.rank
    rw [applies_iff, rank_lt_iff]
    simp only [apply, Option.mem_some_iff, forall_eq']
    exact and_iff_left_of_imp fun h => stripeStatusRank_of_rank_lt hf hg he (rank_lt_iff.mpr h)
  apply_apply {g e} hg he _ hlt := by
    change apply (apply row g) e = apply row e
    simp only [apply, followed_followed (stripeStatusRank_of_rank_lt hf hg he hlt)]
  rank_le hg he hag hne := rank_le_of_ignored hf hg he hag hne

-- Of two events of a second that are not final, the row keeps the one that is delivered first.
example : [⟨1, .pending⟩, ⟨1, .succeeded⟩].foldl delivery.deliver ⟨none, none, .executing⟩ ≠
    [⟨1, .succeeded⟩, ⟨1, .pending⟩].foldl delivery.deliver ⟨none, none, .executing⟩ := by
  decide

end RefundRow

-- What the rows of a request record of its refund.
def RefundRequestDetail.refundRow (d : RefundRequestDetail) : RefundRow where
  eventCreatedAt := d.execution.bind (·.lastStripeEventCreatedAt)
  status         := d.execution.bind (·.stripeRefundStatus)
  workflowStatus := d.request.workflowStatus

-- The event that a webhook observation reports.
structure ObserveRefundInput.Reports (input : ObserveRefundInput) (e : RefundEvent) : Prop where
  createdAt : input.stripeEventCreatedAt = some e.createdAt
  status    : input.authoritativeObservedRefundStatus = some e.status

section Freshness

variable {env : TriggerEnv} {input : ObserveRefundInput} {e : RefundEvent}
variable {execution : RefundExecution} {d d' : RefundRequestDetail}

theorem shouldApplyLinked_iff_fresh (hr : input.Reports e) (hd : d.execution = some execution) :
    input.shouldApplyLinkedRefundObservation execution = d.refundRow.fresh e := by
  obtain ⟨hcreated, hstatus⟩ := hr
  unfold ObserveRefundInput.shouldApplyLinkedRefundObservation RefundRow.fresh
  simp only [RefundRequestDetail.refundRow, hd, Option.bind_some, hstatus]
  cases hsource : input.source with
  | scan _                 => simp [ObserveRefundInput.stripeEventCreatedAt, hsource] at hcreated
  | webhook _ _ _ _ _ eventCreated =>
    simp only [ObserveRefundInput.stripeEventCreatedAt, hsource, Option.some.injEq] at hcreated
    cases hc : execution.lastStripeEventCreatedAt with
    | none          => rfl
    | some previous =>
      simp only [hcreated]
      rcases lt_trichotomy previous e.createdAt with hlt | rfl | hlt
      · simp [hlt]
      · cases e.status <;> rcases execution.stripeRefundStatus with _ | _ | _ | _ | _ | _ <;>
          simp [finality]
      · simp [hlt, not_lt_of_gt hlt, ne_of_gt hlt]

-- The two freshness rules together.
theorem applies_iff_shouldApply (hr : input.Reports e) (hd : d.execution = some execution) :
    d.refundRow.applies e ↔ input.shouldApplyLinkedRefundObservation execution ∧
      shouldApplyRefundObservation execution input.identified := by
  rw [shouldApplyLinked_iff_fresh hr hd, RefundRow.applies, Bool.and_eq_true]
  refine and_congr_right fun hfresh => ?_
  have hstatus : input.identified.stripeRefundStatus = some e.status := hr.status
  have hcreated : input.identified.stripeEventCreatedAt = some e.createdAt := hr.createdAt
  unfold RefundRow.fresh at hfresh
  unfold shouldApplyRefundObservation isOlderEvent isEqualEvent
  simp only [RefundRequestDetail.refundRow, hd, Option.bind_some] at hfresh ⊢
  cases hc : execution.lastStripeEventCreatedAt with
  | none          =>
    cases hs : e.status <;> rcases hl : execution.stripeRefundStatus with _ | _ | _ | _ | _ | _ <;>
      simp [hstatus, hs, stripeStatusRank]
  | some previous =>
    simp only [hc, decide_eq_true_eq] at hfresh
    rcases hfresh with hlt | ⟨rfl, hlt⟩
    · cases hs : e.status <;> rcases hl : execution.stripeRefundStatus with _ | _ | _ | _ | _ | _ <;>
        simp [hstatus, hcreated, hs, stripeStatusRank, not_lt_of_gt hlt, ne_of_gt hlt]
    · cases hs : e.status <;> rcases hl : execution.stripeRefundStatus with _ | _ | _ | _ | _ | _ <;>
        simp_all [stripeStatusRank, finality]

end Freshness

section Rows

variable {env : TriggerEnv} {input : ObserveRefundInput} {e : RefundEvent} {b : Bool}
variable {execution : RefundExecution} {d d' : RefundRequestDetail} {row new : RefundRequest}

-- The workflow after the update that follows a webhook observation.
theorem workflowStatus_of_follow (hstatus : input.authoritativeObservedRefundStatus = some e.status)
    (h : row.Follow input.identified new) :
    new.workflowStatus = RefundRow.followed e.status row.workflowStatus := by
  have hi : input.identified.stripeRefundStatus = some e.status := hstatus
  cases h with
  | corrected hw _ hs =>
    rw [hi, Option.some.injEq, Option.some.injEq] at hs
    rw [hw, RefundRow.followed, if_pos hs]
    rfl
  | preserved hw _ _ => rw [RefundRequest.moved, hw]; rfl
  | converged hw _ hp =>
    have hw : row.workflowStatus = .executing := by
      rcases (by simpa using hw : row.workflowStatus = .executing ∨ _) with hw | hw
      · exact hw
      · exact (hp ⟨hw, rfl⟩).elim
    rw [hi, hw]
    cases e.status <;> simp [followStatus, RefundRow.followed, hw]

-- Whatever the call does to the request, its workflow follows the refund.
theorem workflowStatus_of_followed (hc : Coherent d.request (some execution))
    (hstatus : input.authoritativeObservedRefundStatus = some e.status)
    (h : Followed env input.identified execution d true d') :
    d'.request.workflowStatus = RefundRow.followed e.status d.request.workflowStatus := by
  have hi : input.identified.stripeRefundStatus = some e.status := hstatus
  cases h with
  | skipped hw hnot =>
    cases hs : d.request.workflowStatus with
    | succeeded =>
      have hsucceeded : execution.stripeRefundStatus = some .succeeded := (hc.succeeded hs).2
      simp only [hs, hsucceeded, hi, Option.some.injEq, true_and] at hnot
      rw [RefundRow.followed, if_neg hnot]
    | executing | reconciliationRequired => simp [hs] at hw
    | _ => rfl
  | once hfollow _ =>
    change (d.request.stamped env _).workflowStatus = _
    rw [RefundRequest.stamped_workflowStatus, workflowStatus_of_follow hstatus hfollow]
  | twice hw _ hpossible _ hd hfollow _ =>
    change (RefundRequest.stamped env _ _).workflowStatus = _
    rw [RefundRequest.stamped_workflowStatus, workflowStatus_of_follow hstatus hfollow, hd]
    change RefundRow.followed e.status (d.request.stamped env _).workflowStatus = _
    rw [RefundRequest.stamped_workflowStatus, hpossible]
    rfl

theorem refundRow_of_identified (hc : Coherent d.request d.execution)
    (hd : d.execution = some execution)
    (hlink : execution.stripeRefundId = some input.refund.refundId)
    (hr : input.Reports e) (ha : shouldApplyRefundObservation execution input.identified)
    (h : (markRefundIdentified env input.identified).Commits d true d') :
    d'.refundRow = d.refundRow.apply e := by
  rcases commits_markRefundIdentified.mp h with ⟨hnone, -⟩ | ⟨locked, hlocked, h⟩
  · simp [hd] at hnone
  obtain rfl := Option.some.inj (hd.symm.trans hlocked)
  rcases h with ⟨hno, -⟩ | ⟨-, hno, -⟩ | ⟨-, -, -, -, h⟩
  · exact (hno (.inr hlink)).elim
  · simp [ha] at hno
  have hexecution : d'.execution = some (recordObservation input.identified execution) :=
    execution_of_followObservation (d := recorded d input.identified execution) h
  have hw := workflowStatus_of_followed (d := recorded d input.identified execution) (hd ▸ hc)
    hr.status (RequestCall.followed_of_followObservation h)
  have hcreated : input.identified.stripeEventCreatedAt = some e.createdAt := hr.createdAt
  simp only [RefundRequestDetail.refundRow, hexecution, hw, Option.bind_some, recordObservation,
    RefundRow.apply, hcreated, Option.some_or, recorded]
  exact congrArg (RefundRow.mk _ · _) hr.status

end Rows

namespace ObserveRefundInput

-- The observation is of the refund that the request it names is linked to.
def OfLinkedRefund (keys : WorkerKeys) (s : Store) (requestId : String)
    (input : ObserveRefundInput) : Prop :=
  ∃ d installation paymentKey evidence, namedRequest s input = some (requestId, d) ∧
    s.installations.find? input.installationId = some installation ∧
    paymentKeyOf input.refund = .ok paymentKey ∧
    input.evidence keys s.tenantId installation.stripeAccountId paymentKey (some (requestId, d)) =
      .ok evidence ∧ evidence.alreadyLinked

end ObserveRefundInput

section Observe

open ObserveRefundInput

variable {keys : WorkerKeys} {now : Timestamp} {s s' : Store} {requestId : String}
variable {input : ObserveRefundInput} {e : RefundEvent} {d : RefundRequestDetail}

-- The evidence that the request is linked to the refund names both freshness rules.
theorem alreadyHandled_of_linked {tenantId stripeAccountId : String} {tuple : Bool}
    {execution : RefundExecution} (hd : d.execution = some execution)
    (hlinked : (input.evidenceFor keys tenantId stripeAccountId (some (requestId, d))
      tuple).alreadyLinked) :
    (input.evidenceFor keys tenantId stripeAccountId (some (requestId, d)) tuple).alreadyHandled =
      !input.shouldApplyLinkedRefundObservation execution := by
  have hdef : (input.evidenceFor keys tenantId stripeAccountId (some (requestId, d))
      tuple).alreadyHandled = ((input.evidenceFor keys tenantId stripeAccountId
      (some (requestId, d)) tuple).alreadyLinked && d.execution.any fun execution =>
        !input.shouldApplyLinkedRefundObservation execution) := rfl
  rw [hdef, hlinked, hd, Bool.true_and, Option.any_some]

-- The call that records the event, or the event that one of the freshness rules turns down.
theorem refundRow_of_refresh {env : TriggerEnv} {execution : RefundExecution}
    {d₁ d' : RefundRequestDetail}
    (hc : Coherent d.request d.execution) (hd : d.execution = some execution)
    (hlink : execution.stripeRefundId = some input.refund.refundId) (hr : input.Reports e)
    (he : d₁.execution = d.execution) (hq : d₁.request = d.request)
    (h : input.shouldApplyLinkedRefundObservation execution = false ∧ d' = d₁ ∨
      input.shouldApplyLinkedRefundObservation execution = true ∧
        (markRefundIdentified env input.identified).Commits d₁ true d') :
    d'.refundRow = RefundRow.delivery.deliver d.refundRow e := by
  have hrow : d₁.refundRow = d.refundRow := by
    rw [RefundRequestDetail.refundRow, he, hq]
    rfl
  have hiff := applies_iff_shouldApply hr hd
  change _ = if d.refundRow.applies e then d.refundRow.apply e else d.refundRow
  rcases h with ⟨hno, rfl⟩ | ⟨hyes, h⟩
  · rw [if_neg (by simp [hiff, hno]), hrow]
  cases ha : shouldApplyRefundObservation execution input.identified with
  | true  =>
    rw [if_pos (hiff.mpr ⟨hyes, ha⟩), ← hrow]
    exact refundRow_of_identified (by rwa [he, hq]) (he.trans hd) hlink hr ha h
  | false =>
    rw [if_neg (by simp [hiff, ha]), ← hrow]
    rcases commits_markRefundIdentified.mp h with ⟨_, ⟨⟩, _⟩ | ⟨locked, hlocked, h⟩
    obtain rfl := Option.some.inj ((he.trans hd).symm.trans hlocked)
    rcases h with ⟨_, ⟨⟩, _⟩ | ⟨_, _, _, rfl⟩ | ⟨_, hyes', _⟩
    · rfl
    · simp [ha] at hyes'

theorem request_of_markLinked {refundId : String} {state : LinkedState} {time : Timestamp}
    {b : Bool} {d' : RefundRequestDetail}
    (h : (markRefundCorrelationCandidateLinked refundId state time).Commits d b d') :
    d'.request = d.request := by
  have hcall : ((RequestCall.markRefundCorrelationCandidateLinked refundId state time).run
      ⟨"", 0, false, fun _ => false, fun _ => false⟩).Commits d b d' := h
  cases RequestCall.outcome_of_run hcall with
  | refused => rfl
  | moved hm _ => cases hm
  | candidateLinked _ _ => rfl

theorem linkedRefundId_of_refresh {env : TriggerEnv} {d₁ d' : RefundRequestDetail}
    {refundId : String} (hlink : d₁.linkedRefundId = some refundId)
    (h : (markRefundIdentified env input.identified).Commits d₁ true d') :
    d'.linkedRefundId = some refundId := by
  obtain ⟨execution, hd, hlink⟩ := Option.bind_eq_some_iff.mp hlink
  obtain ⟨execution', hd', hadvances⟩ := execution_of_identification ⟨_, _, _, h⟩ hd
  rw [RefundRequestDetail.linkedRefundId, hd']
  exact hadvances.refundId _ hlink

-- An observation of the linked refund delivers its event to the row, and writes nothing else than
-- the rows of the request.
theorem delivered_of_observeRefundEvidence (hown : input.OfLinkedRefund keys s requestId)
    (hd : s.requests.find? requestId = some d) (hc : Coherent d.request d.execution)
    (hr : input.Reports e) (h : (observeRefundEvidence keys now input).Commits s () s') :
    ∃ d', s' = s.putRequest requestId d' ∧ d'.linkedRefundId = d.linkedRefundId ∧
      d'.refundRow = RefundRow.delivery.deliver d.refundRow e := by
  obtain ⟨named, installation, paymentKey, evidence, hnamed, hinstallation, hkey, hevidence,
    hlinked⟩ := hown
  obtain ⟨_, _, _, _, hfind⟩ := namedRequest_eq_some.mp hnamed
  obtain rfl := Option.some.inj (hd.symm.trans hfind)
  obtain ⟨installation', paymentKey', evidence', classification, s₁, hobserved, hkey', hevidence',
    hcorrelate, halert⟩ := commits_observeRefundEvidence.mp h
  obtain rfl := Option.some.inj (hinstallation.symm.trans hobserved.found)
  obtain rfl := Except.ok.inj (hkey.symm.trans hkey')
  rw [hnamed] at hevidence' hcorrelate
  obtain rfl := Except.ok.inj (hevidence.symm.trans hevidence')
  obtain ⟨tuple, _, rfl⟩ := evidence_eq_ok.mp hevidence
  obtain ⟨hproven, hlink⟩ := alreadyLinked_iff.mp hlinked
  obtain ⟨execution, hexecution, hrefund⟩ := Option.bind_eq_some_iff.mp hlink
  obtain ⟨result, s₂, hpersist, hbranch⟩ :=
    (commits_correlateRequest_of_proven hproven (hexecution ▸ rfl)).mp hcorrelate
  obtain ⟨candidates, rfl⟩ := find?_of_persistCandidate hd hpersist
  simp only [hlink, reduceCtorEq, false_and, not_true_eq_false, ne_eq, and_false, or_false,
    false_or, true_and] at hbranch
  obtain ⟨rfl, hrefresh⟩ := hbranch
  obtain ⟨state, d₁, d', _, hmark, hrest, rfl⟩ :=
    (commits_refreshLinkedRefund (find?_putRequest s requestId _)).mp hrefresh
  rcases commits_alertObservation.mp halert with ⟨_, rfl⟩ | ⟨_, _, _, _, hclass, _⟩
  case inr => cases hclass
  have hexecution₁ : d₁.execution = d.execution := (execution_of_markLinked hmark :)
  have hlink₁ : d₁.linkedRefundId = d.linkedRefundId := by
    rw [RefundRequestDetail.linkedRefundId, hexecution₁]
    rfl
  rw [alreadyHandled_of_linked hexecution hlinked] at hrest
  refine ⟨d', by simp [Store.putRequest, Table.insert_insert], ?_, ?_⟩
  · rcases hrest with ⟨_, rfl⟩ | ⟨_, hidentified⟩
    · exact hlink₁
    · exact (linkedRefundId_of_refresh (hlink₁.trans hlink) hidentified).trans hlink.symm
  · have hrequest₁ : d₁.request = d.request := (request_of_markLinked hmark :)
    rw [Bool.not_eq_true', Bool.not_eq_false'] at hrest
    exact refundRow_of_refresh hc hexecution hrefund hr hexecution₁ hrequest₁ hrest

-- What is compared with an observation is the financial snapshot of the request.
theorem tupleMatches_congr {row row' : RefundRequest}
    (h : row'.financialSnapshot = row.financialSnapshot) (paymentKey : String) :
    input.tupleMatches paymentKey row' = input.tupleMatches paymentKey row := by
  simp only [RefundRequest.financialSnapshot, RefundRequest.FinancialSnapshot.mk.injEq] at h
  simp only [tupleMatches, h]

theorem hasValidProof_congr {row row' : RefundRequest}
    (h : row'.financialSnapshot = row.financialSnapshot) (tenantId stripeAccountId : String) :
    input.hasValidProof keys tenantId stripeAccountId requestId row' =
      input.hasValidProof keys tenantId stripeAccountId requestId row := by
  simp only [RefundRequest.financialSnapshot, RefundRequest.FinancialSnapshot.mk.injEq] at h
  simp only [hasValidProof, h]

theorem ObserveRefundInput.OfLinkedRefund.kept (h : input.OfLinkedRefund keys s requestId)
    (hs : s.Kept s') (hlink : ∀ d d', s.requests.find? requestId = some d →
      s'.requests.find? requestId = some d' → d'.linkedRefundId = d.linkedRefundId) :
    input.OfLinkedRefund keys s' requestId := by
  obtain ⟨d, installation, paymentKey, evidence, hnamed, hinstallation, hkey, hevidence,
    hlinked⟩ := h
  obtain ⟨text, htext, huuid, hid, hd⟩ := namedRequest_eq_some.mp hnamed
  obtain ⟨d', hd', hsnapshot⟩ := hs.snapshots requestId d hd
  obtain ⟨tuple, htuple, rfl⟩ := evidence_eq_ok.mp hevidence
  obtain ⟨hproven, hrefund⟩ := alreadyLinked_iff.mp hlinked
  have haccount := hs.grows.accounts input.installationId
  rw [hinstallation] at haccount
  obtain ⟨installation', hinstallation', haccount⟩ := Option.map_eq_some_iff.mp haccount
  refine ⟨d', installation', paymentKey, _, namedRequest_eq_some.mpr ⟨text, htext, huuid, hid, hd'⟩,
    hinstallation', hkey,
    evidence_eq_ok.mpr ⟨tuple, (tupleMatches_congr hsnapshot paymentKey).trans htuple, rfl⟩,
    alreadyLinked_iff.mpr ⟨⟨hproven.named, ?_, hproven.tuple⟩, (hlink d d' hd hd').trans hrefund⟩⟩
  rw [hasValidProof_congr hsnapshot, haccount, hs.grows.tenantId]
  exact hproven.proof

end Observe

-- The installation and the payload of a receipt that is still to be processed.
def Store.awaiting (s : Store) (receiptId : String) :
    Option (String × NormalizedAccountWebhookPayload) :=
  (s.receipts.find? receiptId).bind fun receipt =>
    if receipt.status = .processed then none
    else some (receipt.installationId, receipt.normalizedPayload)

-- The event that a payload reports. A failed refund is failed whatever the payload says.
def refundEvent (payload : NormalizedAccountWebhookPayload) : Option RefundEvent :=
  match payload.subject with
  | .application _ => none
  | .refund refund =>
    let status := if payload.eventType = .refundFailed then some .failed else refund.status
    status.map fun status => { createdAt := stripeSecond payload.eventCreated, status }

namespace ObserveRefundInput

-- The observation is the one that the job of the receipt makes.
structure Delivers (input : ObserveRefundInput) (receiptId : String)
    (awaited : String × NormalizedAccountWebhookPayload) : Prop where
  source         : ∃ stripeEventId stripeAccountId, input.source = .webhook receiptId stripeEventId
    stripeAccountId awaited.2.eventIdempotencyKey awaited.2.eventType awaited.2.eventCreated
  installationId : awaited.1 = input.installationId
  environment    : awaited.2.environment = input.environment
  subject        : awaited.2.subject = .refund input.refund

variable {input : ObserveRefundInput} {receiptId : String} {e : RefundEvent}
variable {awaited : String × NormalizedAccountWebhookPayload}

theorem Delivers.reports (h : input.Delivers receiptId awaited)
    (he : refundEvent awaited.2 = some e) : input.Reports e := by
  obtain ⟨stripeEventId, stripeAccountId, hsource⟩ := h.source
  simp only [refundEvent, h.subject] at he
  obtain ⟨status, hstatus, rfl⟩ := Option.map_eq_some_iff.mp he
  refine ⟨by simp [stripeEventCreatedAt, hsource], ?_⟩
  rw [← hstatus, authoritativeObservedRefundStatus, hsource]
  cases awaited.2.eventType <;> rfl

end ObserveRefundInput

section Receipts

variable {keys : WorkerKeys} {now : Timestamp} {s s' : Store} {input : ObserveRefundInput}
variable {receiptId stripeEventId stripeAccountId : String}
variable {eventIdempotencyKey : Option String} {eventType : AccountWebhookEventType}
variable {eventCreated : Int}

theorem payload_of_rowConsistency {endpoint : StoredWebhookEndpoint} {objectId : String}
    {time : Timestamp} {payload payload' : NormalizedAccountWebhookPayload}
    (h : assertNormalizedAccountWebhookRowConsistency endpoint eventType objectId time payload =
      .ok payload') : payload' = payload := by
  unfold assertNormalizedAccountWebhookRowConsistency at h
  dsimp only at h
  split_ifs at h
  exact (Except.ok.inj h).symm

theorem delivers_of_checkReceipt {pending : Bool}
    (hsource : input.source =
      .webhook receiptId stripeEventId stripeAccountId eventIdempotencyKey eventType eventCreated)
    (h : checkReceipt s input receiptId stripeEventId stripeAccountId eventIdempotencyKey eventType
      eventCreated = .ok pending) :
    pending = false ∧ s.awaiting receiptId = none ∨
      pending = true ∧ ∃ awaited, s.awaiting receiptId = some awaited ∧
        input.Delivers receiptId awaited := by
  unfold checkReceipt at h
  unfold Store.awaiting
  split at h
  case h_1 => cases h
  case h_2 receipt hreceipt =>
    rw [hreceipt, Option.bind_some]
    split_ifs at h ⊢ with hprocessed
    · exact .inl ⟨(Except.ok.inj h).symm, rfl⟩
    · refine .inr ?_
      obtain ⟨payload, hpayload, h⟩ := Except.bind_eq_ok.mp h
      have hsame := payload_of_rowConsistency hpayload
      dsimp only at h
      split_ifs at h with hmismatch
      simp only [ne_eq, not_or, not_not] at hmismatch
      obtain ⟨hinstallation, _, _, _, hexpected⟩ := hmismatch
      rw [hsame] at hexpected
      exact ⟨(Except.ok.inj h).symm, _, rfl, {
        source         := ⟨stripeEventId, stripeAccountId, by simp only [hexpected, hsource]⟩
        installationId := hinstallation
        environment    := by simp only [hexpected]
        subject        := by simp only [hexpected]
      }⟩

theorem awaiting_of_marked {time : Timestamp}
    (h : (markWebhookReceiptProcessed receiptId time).Commits s true s') :
    s'.requests = s.requests ∧ s'.awaiting receiptId = none ∧
      ∀ id, id ≠ receiptId → s'.awaiting id = s.awaiting id := by
  simp only [markWebhookReceiptProcessed, commits_bind, commits_get] at h
  obtain ⟨_, _, ⟨rfl, rfl⟩, h⟩ := h
  split at h
  case h_1 => cases (commits_pure.mp h).1
  case h_2 receipt hreceipt =>
    simp only [commits_ite, commits_bind, commits_set, commits_pure] at h
    rcases h with ⟨_, ⟨⟩, _⟩ | ⟨_, _, _, rfl, _, rfl⟩
    refine ⟨rfl, by simp [Store.awaiting], fun id hne => ?_⟩
    simp only [Store.awaiting, Table.find?_insert_ne hne]

-- The job of a receipt that is processed changes nothing. The one of another receipt observes what
-- the receipt holds, and the receipt is processed then.
theorem cases_of_observeRefund
    (hsource : input.source =
      .webhook receiptId stripeEventId stripeAccountId eventIdempotencyKey eventType eventCreated)
    (h : (observeRefund keys now input).Commits s () s') :
    s.awaiting receiptId = none ∧ s' = s ∨
      ∃ awaited s₁, s.awaiting receiptId = some awaited ∧ input.Delivers receiptId awaited ∧
        (observeRefundEvidence keys now input).Commits s () s₁ ∧ s'.requests = s₁.requests ∧
        s'.awaiting receiptId = none ∧ ∀ id, id ≠ receiptId → s'.awaiting id = s₁.awaiting id := by
  simp only [observeRefund, commits_bind, commits_require] at h
  obtain ⟨_, _, ⟨_, rfl⟩, h⟩ := h
  rw [hsource] at h
  simp only [commits_bind, commits_get, commits_fromExcept] at h
  obtain ⟨_, _, ⟨rfl, rfl⟩, pending, _, ⟨hcheck, rfl⟩, h⟩ := h
  rcases delivers_of_checkReceipt hsource hcheck with
    ⟨rfl, hnone⟩ | ⟨rfl, awaited, hsome, hdelivers⟩
  · simp only [Bool.false_eq_true, if_false, commits_pure] at h
    exact .inl ⟨hnone, h.2⟩
  · simp only [if_true, commits_bind, commits_require] at h
    obtain ⟨_, s₁, hobserve, marked, _, hmark, hmarked, rfl⟩ := h
    rw [hmarked] at hmark
    exact .inr ⟨awaited, s₁, hsome, hdelivers, hobserve, awaiting_of_marked hmark⟩

end Receipts

-- Jobs of the receipts, in any order and any number of times and on any workers, between
-- transactions that leave the request and these receipts alone.
inductive WebhookRun (keys : WorkerKeys) (requestId : String) : Store → List String → Store → Prop
  | done {s} : WebhookRun keys requestId s [] s
  | observed {s s₁ s' now input receiptId stripeEventId stripeAccountId eventIdempotencyKey
      eventType eventCreated receiptIds} :
    input.source =
      .webhook receiptId stripeEventId stripeAccountId eventIdempotencyKey eventType eventCreated →
    (observeRefund keys now input).Commits s () s₁ →
    WebhookRun keys requestId s₁ receiptIds s' →
    WebhookRun keys requestId s (receiptId :: receiptIds) s'
  | other {s s₁ s' now op receiptIds} :
    (Operation.run keys now op).Commits s () s₁ →
    s₁.requests.find? requestId = s.requests.find? requestId →
    (∀ id ∈ receiptIds, s₁.awaiting id = s.awaiting id) →
    WebhookRun keys requestId s₁ receiptIds s' →
    WebhookRun keys requestId s receiptIds s'

namespace Store

def refundEvents (s : Store) (receiptIds : List String) : List RefundEvent :=
  receiptIds.filterMap fun id => (s.awaiting id).bind fun awaited => refundEvent awaited.2

-- The receipt is processed, or its event is one of the refund that the request is linked to.
def AwaitsLinked (keys : WorkerKeys) (s : Store) (requestId receiptId : String) : Prop :=
  ∀ awaited ∈ s.awaiting receiptId, (refundEvent awaited.2).isSome ∧
    ∀ input : ObserveRefundInput, input.Delivers receiptId awaited →
      input.OfLinkedRefund keys s requestId

variable {keys : WorkerKeys} {now : Timestamp} {s s' : Store} {requestId receiptId : String}
variable {op : Operation} {receiptIds : List String} {e : RefundEvent} {d d' : RefundRequestDetail}

theorem mem_refundEvents : e ∈ s.refundEvents receiptIds ↔ ∃ id ∈ receiptIds, ∃ awaited,
    s.awaiting id = some awaited ∧ refundEvent awaited.2 = some e := by
  simp only [refundEvents, List.mem_filterMap, Option.bind_eq_some_iff]

theorem refundEvents_congr (h : ∀ id ∈ receiptIds, s'.awaiting id = s.awaiting id) :
    s'.refundEvents receiptIds = s.refundEvents receiptIds :=
  List.filterMap_congr fun id hid => by rw [h id hid]

theorem AwaitsLinked.kept (h : s.AwaitsLinked keys requestId receiptId)
    (hc : (op.run keys now).Commits s () s') (hd : s.requests.find? requestId = some d)
    (hd' : s'.requests.find? requestId = some d') (hlink : d'.linkedRefundId = d.linkedRefundId)
    (hawaiting : s'.awaiting receiptId = none ∨ s'.awaiting receiptId = s.awaiting receiptId) :
    s'.AwaitsLinked keys requestId receiptId := by
  intro awaited hawaited
  rcases hawaiting with hnone | hsame
  · simp [hnone] at hawaited
  obtain ⟨hevent, hinput⟩ := h awaited (hsame ▸ hawaited)
  refine ⟨hevent, fun input hdelivers => (hinput input hdelivers).kept (Store.kept_of_run hc) ?_⟩
  intro d₁ d₁' hd₁ hd₁'
  obtain rfl := Option.some.inj (hd.symm.trans hd₁)
  obtain rfl := Option.some.inj (hd'.symm.trans hd₁')
  exact hlink

end Store

section Convergence

variable {keys : WorkerKeys} {s s' s₁' : Store} {requestId : String}
variable {receiptIds receiptIds' : List String} {d : RefundRequestDetail}

-- A run delivers the events of its receipts to the row, each of them at least once.
theorem delivered_of_webhookRun (hrun : WebhookRun keys requestId s receiptIds s')
    (hs : StoreSound s) (hd : s.requests.find? requestId = some d)
    (hlinked : ∀ id ∈ receiptIds, s.AwaitsLinked keys requestId id) :
    ∃ d', ∃ es : List RefundEvent, s'.requests.find? requestId = some d' ∧
      (∀ e, e ∈ es ↔ e ∈ s.refundEvents receiptIds) ∧
      d'.refundRow = es.foldl RefundRow.delivery.deliver d.refundRow := by
  induction hrun generalizing d with
  | done => exact ⟨d, [], hd, by simp [Store.mem_refundEvents], rfl⟩
  | @observed s s₁ s' now input receiptId _ _ _ _ _ receiptIds hsource hobserve _ ih =>
    have hrun : ((Operation.observeRefund input).run keys now).Commits s () s₁ := hobserve
    have hstep : OperationStep keys (fun _ => True) s s₁ := ⟨now, _, trivial, hrun⟩
    rcases cases_of_observeRefund hsource hobserve with
      ⟨hnone, rfl⟩ | ⟨awaited, s₂, hsome, hdelivers, hevidence, hrequests, hprocessed, hkept⟩
    · obtain ⟨d', es, hd', hes, hrow⟩ :=
        ih hs hd fun id hid => hlinked id (List.mem_cons_of_mem _ hid)
      refine ⟨d', es, hd', fun e => (hes e).trans ?_, hrow⟩
      simp [Store.mem_refundEvents, hnone]
    · obtain ⟨hevent, hinput⟩ := hlinked receiptId (List.mem_cons_self ..) awaited hsome
      obtain ⟨e, he⟩ := Option.isSome_iff_exists.mp hevent
      obtain ⟨d₁, rfl, hlink, hrow₁⟩ := delivered_of_observeRefundEvidence (hinput input hdelivers)
        hd (hs.requests requestId d hd).coherent (hdelivers.reports he) hevidence
      have hd₁ : s₁.requests.find? requestId = some d₁ := by
        rw [hrequests]
        exact find?_putRequest s requestId d₁
      have hawaiting (id : String) : s₁.awaiting id = none ∨ s₁.awaiting id = s.awaiting id := by
        by_cases hid : id = receiptId
        · exact .inl (hid ▸ hprocessed)
        · exact .inr (hkept id hid)
      obtain ⟨d', es, hd', hes, hrow⟩ := ih (hs.step hstep) hd₁ fun id hid =>
        (hlinked id (List.mem_cons_of_mem _ hid)).kept hrun hd hd₁ hlink (hawaiting id)
      refine ⟨d', e :: es, hd', fun e' => ?_, by rw [hrow, hrow₁, List.foldl_cons]⟩
      rw [List.mem_cons, hes, Store.mem_refundEvents, Store.mem_refundEvents]
      constructor
      · rintro (rfl | ⟨id, hid, awaited', hawaited, he'⟩)
        · exact ⟨receiptId, List.mem_cons_self .., awaited, hsome, he⟩
        · refine ⟨id, List.mem_cons_of_mem _ hid, awaited', ?_, he'⟩
          rcases hawaiting id with hnone | hsame
          · simp [hnone] at hawaited
          · exact hsame ▸ hawaited
      · rintro ⟨id, hid, awaited', hawaited, he'⟩
        by_cases heq : id = receiptId
        · rw [heq, hsome] at hawaited
          obtain rfl := Option.some.inj hawaited
          exact .inl (Option.some.inj (he'.symm.trans he))
        · exact .inr ⟨id, (List.mem_cons.mp hid).resolve_left heq, awaited',
            (hkept id heq).trans hawaited, he'⟩
  | @other s s₁ s' now op receiptIds hc hsame hawaiting _ ih =>
    have hstep : OperationStep keys (fun _ => True) s s₁ := ⟨now, op, trivial, hc⟩
    have hd₁ : s₁.requests.find? requestId = some d := hsame.trans hd
    obtain ⟨d', es, hd', hes, hrow⟩ := ih (hs.step hstep) hd₁ fun id hid =>
      (hlinked id hid).kept hc hd hd₁ rfl (.inr (hawaiting id hid))
    refine ⟨d', es, hd', fun e => (hes e).trans ?_, hrow⟩
    rw [Store.refundEvents_congr hawaiting]

-- The jobs of the same receipts lead to the same row in any order and with any repetitions: the row
-- that ignores all events, or the row as a greatest event leaves it.
theorem webhooks_converge {admits : Operation → Prop} (hs : Reachable keys admits s)
    (hd : s.requests.find? requestId = some d)
    (hlinked : ∀ id ∈ receiptIds, s.AwaitsLinked keys requestId id)
    (hforward : Forward (· ∈ s.refundEvents receiptIds))
    (hsettled : Settled (· ∈ s.refundEvents receiptIds))
    (hsame : ∀ id, id ∈ receiptIds ↔ id ∈ receiptIds')
    (hrun : WebhookRun keys requestId s receiptIds s')
    (hrun' : WebhookRun keys requestId s receiptIds' s₁') :
    ∃ d' d₁', s'.requests.find? requestId = some d' ∧ s₁'.requests.find? requestId = some d₁' ∧
      d'.refundRow = d₁'.refundRow ∧
      ((∀ e ∈ s.refundEvents receiptIds, d.refundRow.applies e = false) ∧
          d'.refundRow = d.refundRow ∨
        ∃ e, Greatest (· ∈ s.refundEvents receiptIds) e ∧ d.refundRow.applies e ∧
          d'.refundRow = d.refundRow.apply e) := by
  obtain ⟨d', es, hd', hes, hrow⟩ := delivered_of_webhookRun hrun hs.sound hd hlinked
  obtain ⟨d₁', es', hd₁', hes', hrow'⟩ := delivered_of_webhookRun hrun' hs.sound hd fun id hid =>
    hlinked id ((hsame id).mpr hid)
  have hevents (e : RefundEvent) : e ∈ es ↔ e ∈ es' := by
    rw [hes, hes', Store.mem_refundEvents, Store.mem_refundEvents]
    simp only [hsame]
  have hranked := RefundRow.ranked hforward d.refundRow
  have hgreatest {g : RefundEvent}
      (hg : RefundRow.delivery.AppliedGreatest es d.refundRow g) :
      Greatest (· ∈ s.refundEvents receiptIds) g :=
    ⟨(hes g).mp hg.mem, fun e he => hg.rank_le e ((hes e).mpr he)⟩
  refine ⟨d', d₁', hd', hd₁', ?_, ?_⟩
  · rw [hrow, hrow']
    refine hranked.converges (fun e he => (hes e).mp he) hevents fun g g' hg hg' => ?_
    have hrank : g.rank = g'.rank := le_antisymm (hg'.rank_le g hg.mem) (hg.rank_le g' hg'.mem)
    have hcreated : g.createdAt = g'.createdAt := congrArg (fun r => (ofLex r).1) hrank
    have hstatus := hsettled g g' (hgreatest hg) (hgreatest hg')
    exact congrArg d.refundRow.apply (RefundEvent.ext hcreated hstatus)
  · rcases hranked.foldl_deliver fun e he => (hes e).mp he with ⟨hnone, hfold⟩ | ⟨g, _, hg, hfold⟩
    · exact .inl ⟨fun e he => hnone e ((hes e).mpr he), hrow.trans hfold⟩
    · exact .inr ⟨g, hgreatest hg, hg.applies, hrow.trans hfold⟩

end Convergence

theorem ObserveRefundInput.OfLinkedRefund.congr {keys : WorkerKeys} {s : Store} {requestId : String}
    {input input' : ObserveRefundInput} (h : input.OfLinkedRefund keys s requestId)
    (hinstallation : input'.installationId = input.installationId)
    (henvironment : input'.environment = input.environment)
    (hrefund : input'.refund = input.refund) : input'.OfLinkedRefund keys s requestId := by
  obtain ⟨d, installation, paymentKey, evidence, hnamed, hfound, hkey, hevidence, hlinked⟩ := h
  obtain ⟨tuple, htuple, rfl⟩ := evidence_eq_ok.mp hevidence
  obtain ⟨hproven, hlink⟩ := alreadyLinked_iff.mp hlinked
  refine ⟨d, installation, paymentKey, _, ?_, hinstallation ▸ hfound, hrefund ▸ hkey,
    evidence_eq_ok.mpr ⟨tuple, ?_, rfl⟩,
    alreadyLinked_iff.mpr ⟨⟨hrefund ▸ hproven.named, ?_, hproven.tuple⟩, hrefund ▸ hlink⟩⟩
  · rw [← hnamed, namedRequest, namedRequest, hrefund]
  · rw [← htuple, tupleMatches, tupleMatches, hinstallation, henvironment, hrefund]
  · rw [hasValidProof, hrefund]
    exact hproven.proof

theorem Store.AwaitsLinked.of_input {keys : WorkerKeys} {s : Store} {requestId receiptId : String}
    {input : ObserveRefundInput} {awaited : String × NormalizedAccountWebhookPayload}
    (hawaited : s.awaiting receiptId = some awaited) (hevent : (refundEvent awaited.2).isSome)
    (hdelivers : input.Delivers receiptId awaited) (h : input.OfLinkedRefund keys s requestId) :
    s.AwaitsLinked keys requestId receiptId := by
  intro awaited' hawaited'
  obtain rfl := Option.some.inj (hawaited.symm.trans hawaited')
  refine ⟨hevent, fun input' hdelivers' => h.congr ?_ ?_ ?_⟩
  · rw [← hdelivers.installationId, hdelivers'.installationId]
  · rw [← hdelivers.environment, hdelivers'.environment]
  · exact WebhookSubject.refund.inj (hdelivers'.subject.symm.trans hdelivers.subject)

namespace Pilot

def identification : RecordIdentifiedRefundInput where
  requestId              := requestId
  attemptNumber          := 1
  idempotencyKey         := idempotencyKey
  refundId               := "re_1"
  refundStatus           := some .pending
  stripeRequestId        := none
  responseMatchesRequest := true
  time                   := 5000

def refundPayload (eventCreated : Int) (status : StripeRefundStatus) :
    NormalizedAccountWebhookPayload where
  environment         := .test
  eventType           := .refundUpdated
  eventCreated        := eventCreated
  eventIdempotencyKey := none
  subject             := .refund { refund with status := some status }

def refundReceipt (eventId : String) (eventCreated : Int) (status : StripeRefundStatus) :
    WebhookReceipt where
  installationId     := "i"
  endpoint           := .accountTest
  stripeEventId      := eventId
  stripeAccountId    := "acct_1"
  eventType          := .refundUpdated
  objectId           := "re_1"
  normalizedPayload  := refundPayload eventCreated status
  stripeCreatedAt    := stripeSecond eventCreated
  status             := .received
  processingAttempts := 0
  processedAt        := none
  lastErrorCode      := none

def refundJob (receiptId eventId : String) (eventCreated : Int) (status : StripeRefundStatus) :
    ObserveRefundInput where
  installationId := "i"
  environment    := .test
  refund         := { refund with status := some status }
  source         := .webhook receiptId eventId "acct_1" none .refundUpdated eventCreated
  observedAt     := 20000

-- A pending refund is linked, and two events of it are received.
def refundReceived : List (Timestamp × Operation) := attempted ++ [
  (5000, .recordIdentifiedRefund identification),
  (12000, .insertWebhookReceipt "a" (refundReceipt "evt_a" 10 .pending)),
  (12000, .insertWebhookReceipt "b" (refundReceipt "evt_b" 11 .succeeded))
]

def firstJob : ObserveRefundInput :=
  refundJob "a" "evt_a" 10 .pending

def secondJob : ObserveRefundInput :=
  refundJob "b" "evt_b" 11 .succeeded

def refundJobs (inputs : List ObserveRefundInput) : List (Timestamp × Operation) :=
  inputs.map fun input => (20000, .observeRefund input)

def isOfLinkedRefund (s : Store) (input : ObserveRefundInput) : Bool :=
  (namedRequest s input).any fun (id, d) =>
    decide (id = requestId) && (s.installations.find? "i").any fun installation =>
      (input.evidence keys s.tenantId installation.stripeAccountId "pi_1"
        (some (id, d))).toOption.any (·.alreadyLinked)

def webhooksConverge (s : Store) : Bool :=
  isOfLinkedRefund s firstJob && isOfLinkedRefund s secondJob &&
    decide (s.awaiting "a" = some ("i", refundPayload 10 .pending)) &&
    decide (s.awaiting "b" = some ("i", refundPayload 11 .succeeded)) &&
    s.runs keys (refundJobs [firstJob, secondJob]) (fun _ => true) &&
    s.runs keys (refundJobs [secondJob, firstJob, secondJob]) (fun _ => true)

theorem ofLinkedRefund_of_check {s : Store} {input : ObserveRefundInput}
    (hinstallation : input.installationId = "i")
    (hkey : ObserveRefundInput.paymentKeyOf input.refund = .ok "pi_1")
    (h : isOfLinkedRefund s input) : input.OfLinkedRefund keys s requestId := by
  obtain ⟨⟨id, d⟩, hnamed, h⟩ := (Option.any_eq_true _ _).mp h
  obtain ⟨hid, h⟩ := Bool.and_eq_true_iff.mp h
  obtain ⟨installation, hfound, h⟩ := (Option.any_eq_true _ _).mp h
  obtain ⟨evidence, hevidence, hlinked⟩ := (Option.any_eq_true _ _).mp h
  rw [of_decide_eq_true hid] at hnamed hevidence
  refine ⟨d, installation, "pi_1", evidence, hnamed, hinstallation ▸ hfound, hkey, ?_, hlinked⟩
  cases he : input.evidence keys s.tenantId installation.stripeAccountId "pi_1"
      (some (requestId, d)) with
  | error _ => simp [he, Except.toOption] at hevidence
  | ok _    => simpa [he, Except.toOption] using hevidence

def refundJobReceipt (input : ObserveRefundInput) : String :=
  match input.source with
  | .webhook receiptId .. => receiptId
  | .scan _               => ""

theorem webhookRun_of_runs {s : Store} {inputs : List ObserveRefundInput}
    (hinputs : ∀ input ∈ inputs, input = firstJob ∨ input = secondJob)
    (h : s.runs keys (refundJobs inputs) fun _ => true) :
    ∃ s', WebhookRun keys requestId s (inputs.map refundJobReceipt) s' := by
  unfold Store.runs at h
  split at h
  case h_1 => cases h
  case h_2 s' hs' =>
    refine ⟨s', ?_⟩
    clear h
    induction inputs generalizing s with
    | nil =>
      obtain rfl := Except.ok.inj hs'
      exact .done
    | cons input inputs ih =>
      obtain ⟨s₁, hc, hs'⟩ := Store.commits_of_after hs'
      have hrest := ih (fun input hinput => hinputs input (List.mem_cons_of_mem _ hinput)) hs'
      rcases hinputs input (List.mem_cons_self ..) with rfl | rfl
      · exact .observed rfl hc hrest
      · exact .observed rfl hc hrest

end Pilot

theorem webhooks_converge_succeeded : ∃ (s s' s₁' : Store) (d : RefundRequestDetail),
    WebhookRun Pilot.keys Pilot.requestId s ["a", "b"] s' ∧
    WebhookRun Pilot.keys Pilot.requestId s ["b", "a", "b"] s₁' ∧
    ∃ d' d₁', s'.requests.find? Pilot.requestId = some d' ∧
      s₁'.requests.find? Pilot.requestId = some d₁' ∧ d'.refundRow = d₁'.refundRow ∧
      ((∀ e ∈ s.refundEvents ["a", "b"], d.refundRow.applies e = false) ∧
          d'.refundRow = d.refundRow ∨
        ∃ e, Greatest (· ∈ s.refundEvents ["a", "b"]) e ∧ d.refundRow.applies e ∧
          d'.refundRow = d.refundRow.apply e) := by
  have hsame (id : String) : id ∈ ["a", "b"] ↔ id ∈ ["b", "a", "b"] := by
    simp only [List.mem_cons, List.not_mem_nil, or_false]
    tauto
  have hruns : Store.pilot.runs Pilot.keys Pilot.refundReceived Pilot.webhooksConverge := by
    decide +kernel
  obtain ⟨s, hs, -, hp⟩ := Reachable.of_runs Store.pilot_initial hruns
  simp only [Pilot.webhooksConverge, Bool.and_eq_true, decide_eq_true_eq] at hp
  obtain ⟨⟨⟨⟨⟨hfirst, hsecond⟩, ha⟩, hb⟩, hforth⟩, hback⟩ := hp
  have hfirst := Pilot.ofLinkedRefund_of_check rfl rfl hfirst
  have hsecond := Pilot.ofLinkedRefund_of_check rfl rfl hsecond
  have ⟨d, _, _, _, hnamed, _⟩ := hfirst
  obtain ⟨_, _, _, _, hd⟩ := namedRequest_eq_some.mp hnamed
  have hevents : s.refundEvents ["a", "b"] = [⟨10000, .pending⟩, ⟨11000, .succeeded⟩] := by
    simp [Store.refundEvents, ha, hb, refundEvent, Pilot.refundPayload, stripeSecond]
  obtain ⟨s', hforth⟩ := Pilot.webhookRun_of_runs (by simp) hforth
  obtain ⟨s₁', hback⟩ := Pilot.webhookRun_of_runs (by simp) hback
  have hlinked : ∀ id ∈ ["a", "b"], s.AwaitsLinked Pilot.keys Pilot.requestId id := by
    simp only [List.forall_mem_cons, List.not_mem_nil, false_implies, implies_true, and_true]
    exact ⟨.of_input ha rfl ⟨⟨_, _, rfl⟩, rfl, rfl, rfl⟩ hfirst,
      .of_input hb rfl ⟨⟨_, _, rfl⟩, rfl, rfl, rfl⟩ hsecond⟩
  have hforward : Forward (· ∈ s.refundEvents ["a", "b"]) := by
    rw [hevents]
    intro e e' he he'
    simp only [List.mem_cons, List.not_mem_nil, or_false] at he he'
    rcases he with rfl | rfl <;> rcases he' with rfl | rfl <;> simp [stripeStatusRank]
  have hsettled : Settled (· ∈ s.refundEvents ["a", "b"]) := by
    rw [hevents]
    have hlast {e : RefundEvent} (he : Greatest (· ∈ [⟨10000, .pending⟩, ⟨11000, .succeeded⟩]) e) :
        e.status = .succeeded := by
      obtain ⟨he, hle⟩ := he
      simp only [List.mem_cons, List.not_mem_nil, or_false] at he
      rcases he with rfl | rfl
      · exact absurd (hle ⟨11000, .succeeded⟩ (by simp)) (by decide)
      · rfl
    exact fun e e' he he' => (hlast he).trans (hlast he').symm
  exact ⟨s, s', s₁', d, hforth, hback,
    webhooks_converge hs hd hlinked hforward hsettled hsame hforth hback⟩

end RefundDesk
