import RefundDesk.Repositories.Runs

namespace RefundDesk

open Transaction Relation RequestRepository TenantRepository

namespace RefundRequestDetail

variable {env : TriggerEnv} {d d' : RefundRequestDetail} {call : RequestCall} {b : Bool}

theorem snapshot_followed {input : IdentifiedRefundInput} {locked : RefundExecution}
    (h : Followed env input locked d b d') :
    d'.request.financialSnapshot = d.request.financialSnapshot := by
  cases h with
  | skipped _ _ | refused _ => rfl
  | once _ ha => simpa [replaceRow] using ha.snapshot
  | twice _ _ _ ha hd _ ha' =>
    subst hd
    have h := ha.snapshot
    have h' := ha'.snapshot
    simp only [replaceRow, RefundRequest.stamped_financialSnapshot] at h' ⊢
    exact h'.trans h

-- No call changes the financial snapshot of a request.
theorem snapshot_outcome (h : Outcome env d call b d') :
    d'.request.financialSnapshot = d.request.financialSnapshot := by
  cases h with
  | moved _ ha => simpa [replaceRow] using ha.snapshot
  | decided _ hd _ ha =>
    subst hd
    simpa [replaceRow] using ha.snapshot
  | identified _ _ _ _ _ hf =>
    have h := snapshot_followed hf
    exact h
  | _ => rfl

-- The protective calls write only the row of the request.
theorem rows_of_protective {time : Timestamp} (hc : call ∈ protectiveCalls time)
    (h : Outcome env d call b d') :
    d'.execution = d.execution ∧ d'.decisions = d.decisions ∧ d'.candidates = d.candidates := by
  simp only [protectiveCalls, List.mem_cons, List.not_mem_nil, or_false] at hc
  rcases hc with rfl | rfl | rfl <;> cases h <;> exact ⟨rfl, rfl, rfl⟩

end RefundRequestDetail

namespace RefundExecution

-- An execution without a refund has no state of a refund.
structure LinkSound (execution : RefundExecution) : Prop where
  unlinked : execution.stripeRefundId = none →
    execution.stripeRefundStatus = none ∧ execution.lastStripeEventCreatedAt = none
  linked   : ∀ refundId, execution.stripeRefundId = some refundId → isRefundId refundId

theorem LinkSound.created {input : EnsureExecutionInput} : input.created.LinkSound where
  unlinked _ := ⟨rfl, rfl⟩
  linked _ h := by simp [EnsureExecutionInput.created] at h

theorem LinkSound.recorded {input : IdentifiedRefundInput} {locked : RefundExecution}
    (h : isRefundId input.stripeRefundId) : (recordObservation input locked).LinkSound where
  unlinked h := by simp [recordObservation] at h
  linked _ h' := by
    obtain rfl := Option.some.inj h'
    exact h

end RefundExecution

namespace RefundCorrelationCandidate

-- A candidate of the request, which the table accepts.
structure OfRequest (refundId : String) (candidate : RefundCorrelationCandidate)
    (row : RefundRequest) : Prop where
  checked      : candidate.check refundId = .ok candidate
  installation : candidate.installationId = row.installationId
  paymentKey   : candidate.paymentKey = row.paymentKey

variable {refundId : String} {candidate : RefundCorrelationCandidate} {row : RefundRequest}

theorem OfRequest.refundId_ok (h : candidate.OfRequest refundId row) : isRefundId refundId := by
  have hc := h.checked
  simp only [check, ite_raise_eq_ok] at hc
  exact Bool.not_eq_false _ ▸ hc.1

theorem check_conflicted (h : candidate.check refundId = .ok candidate) :
    (conflicted candidate).check refundId = .ok (conflicted candidate) := by
  unfold conflicted
  split_ifs with hp
  · simp only [check, ite_raise_eq_ok] at h ⊢
    simp_all
  · exact h

theorem check_linked {state : LinkedState} {time : Timestamp}
    (h : candidate.check refundId = .ok candidate) :
    check refundId { candidate with state := state.toCandidateState, resolvedAt := some time } =
      .ok { candidate with state := state.toCandidateState, resolvedAt := some time } := by
  simp only [check, ite_raise_eq_ok] at h ⊢
  cases state <;> simp_all [LinkedState.toCandidateState]

end RefundCorrelationCandidate

-- What holds of the rows of a request in every state that the application reaches.
structure RequestSound (d : RefundRequestDetail) : Prop where
  coherent   : Coherent d.request d.execution
  scope      : d.request.InScope
  currency   : isCurrency d.request.currency
  link       : ∀ execution, d.execution = some execution → execution.LinkSound
  unclaimed  : d.request.workflowStatus ∈ [.pendingApproval, .approved] → d.execution = none
  started    : d.request.workflowStatus = .executing → d.request.executionStartedAt.isSome
  boundary   : d.request.workflowStatus = .reconciliationRequired → ∃ startedAt safeAfter,
    d.request.executionStartedAt = some startedAt ∧
    d.request.reconciliationSafeAfterAt = some safeAfter ∧ startedAt ≤ safeAfter
  followed   : d.linkedRefundId ≠ none →
    d.request.workflowStatus ∈ [.executing, .reconciliationRequired] →
    d.request.effectState = .identified
  candidates : ∀ refundId candidate, d.candidates.find? refundId = some candidate →
    candidate.OfRequest refundId d.request

-- The calls that keep the rows of a request sound: an identification succeeds, and a candidate is
-- recorded for the payment of the request.
def SoundCall (d : RefundRequestDetail) : RequestCall → Bool → Prop
  | .markRefundIdentified _, changed               => changed = true
  | .recordRefundCorrelationCandidate candidate, _ =>
    candidate.installationId = d.request.installationId ∧ candidate.paymentKey = d.request.paymentKey
  | _, _                                           => True

namespace RequestSound

variable {env : TriggerEnv} {d d' : RefundRequestDetail} {call : RequestCall} {b : Bool}
variable {new : RefundRequest}

theorem boundary_of_accepted (ha : RefundRequest.Accepted env d new)
    (hw : new.workflowStatus = .reconciliationRequired) : ∃ startedAt safeAfter,
      (d.request.stamped env new).executionStartedAt = some startedAt ∧
      (d.request.stamped env new).reconciliationSafeAfterAt = some safeAfter ∧
      startedAt ≤ safeAfter := by
  have hl := ha.lifecycle
  have hw : (d.request.stamped env new).workflowStatus = .reconciliationRequired := by simpa using hw
  unfold RefundRequest.lifecycleCheck at hl
  simp only [hw, WorkflowStatus.isTerminal, Bool.false_eq_true, false_and, if_false] at hl
  split at hl
  case h_1 safeAfter startedAt _ hsafe hstarted =>
    split_ifs at hl with hle
    · exact ⟨startedAt, safeAfter, hstarted, hsafe, hle⟩
    · exact (raise_ne_ok hl).elim
  case h_2 => exact (raise_ne_ok hl).elim
  case h_3 hne _ => exact (hne rfl).elim

theorem inScope_of_snapshot {row : RefundRequest} (h : row.InScope)
    (hs : new.financialSnapshot = row.financialSnapshot) : new.InScope := by
  obtain ⟨he, hk⟩ := h
  have henv : new.environment = row.environment :=
    congrArg RefundRequest.FinancialSnapshot.environment hs
  have hkey : new.paymentKey = row.paymentKey :=
    congrArg RefundRequest.FinancialSnapshot.paymentKey hs
  exact ⟨henv ▸ he, hkey ▸ hk⟩

-- The row of a request is replaced under an execution that may be linked with it.
theorem replaced (h : RequestSound d) {row : RefundRequest} {execution : Option RefundExecution}
    (hs : row.financialSnapshot = d.request.financialSnapshot) (hc : Coherent row execution)
    (hlink : ∀ e, execution = some e → e.LinkSound)
    (hunclaimed : row.workflowStatus ∈ [.pendingApproval, .approved] → execution = none)
    (hstarted : row.workflowStatus = .executing → row.executionStartedAt.isSome)
    (hboundary : row.workflowStatus = .reconciliationRequired → ∃ startedAt safeAfter,
      row.executionStartedAt = some startedAt ∧ row.reconciliationSafeAfterAt = some safeAfter ∧
      startedAt ≤ safeAfter)
    (hfollowed : execution.bind (·.stripeRefundId) ≠ none →
      row.workflowStatus ∈ [.executing, .reconciliationRequired] → row.effectState = .identified)
    {images : List RefundRequest} {decisions : List ApprovalDecision} :
    RequestSound { d with
      request := row, execution := execution, images := images, decisions := decisions } where
  coherent   := hc
  scope      := inScope_of_snapshot h.scope hs
  currency   := by
    have hcurrency : row.currency = d.request.currency :=
      congrArg RefundRequest.FinancialSnapshot.currency hs
    exact hcurrency ▸ h.currency
  link       := hlink
  unclaimed  := hunclaimed
  started    := hstarted
  boundary   := hboundary
  followed   := hfollowed
  candidates refundId candidate hf := by
    have hc := h.candidates refundId candidate hf
    have hi : row.installationId = d.request.installationId :=
      congrArg RefundRequest.FinancialSnapshot.installationId hs
    have hk : row.paymentKey = d.request.paymentKey :=
      congrArg RefundRequest.FinancialSnapshot.paymentKey hs
    exact ⟨hc.checked, hi ▸ hc.installation, hk ▸ hc.paymentKey⟩

theorem move (h : RequestSound d) (hm : d.request.Move call new)
    (ha : RefundRequest.Accepted env d new) :
    RequestSound (d.replaceRow (d.request.stamped env new)) := by
  have hunclaimed := h.unclaimed
  have hstarted := h.started
  have hfollowed := h.followed
  refine h.replaced (by simpa using ha.snapshot) (Coherent.stamped_iff.mpr (h.coherent.move hm))
    h.link ?unclaimed ?started (fun hw => boundary_of_accepted ha (by simpa using hw)) ?followed
  case unclaimed =>
    rw [RefundRequest.stamped_workflowStatus]
    cases hm <;> simp_all [RefundRequest.ended, RefundRequest.moved]
  case started =>
    rw [RefundRequest.stamped_workflowStatus, RefundRequest.stamped_executionStartedAt]
    cases hm <;> simp_all [RefundRequest.ended, RefundRequest.moved]
  case followed =>
    change d.linkedRefundId ≠ none → _
    have hnone : d.execution = none → d.linkedRefundId = none := fun he => by
      simp [RefundRequestDetail.linkedRefundId, he]
    rw [RefundRequest.stamped_workflowStatus, RefundRequest.stamped_effectState]
    clear ha
    cases hm <;> simp_all [RefundRequest.ended, RefundRequest.moved]
    case possible he =>
      by_contra hlinked
      simp [hfollowed hlinked] at he

-- A request that an observation has identified has ended, or its row follows the refund.
theorem shape_of_followed {input : IdentifiedRefundInput} {locked : RefundExecution}
    (h : Followed env input locked d true d') :
    d'.execution = d.execution ∧ d'.candidates = d.candidates ∧ d'.decisions = d.decisions ∧
    (d'.request = d.request ∧ d.request.workflowStatus ∉ [.executing, .reconciliationRequired] ∨
      ∃ d₁ new, d₁.request.workflowStatus = d.request.workflowStatus ∧
        d₁.request.executionStartedAt = d.request.executionStartedAt ∧
        d₁.request.Follow input new ∧ RefundRequest.Accepted env d₁ new ∧
        d'.request = d₁.request.stamped env new) := by
  cases h with
  | skipped hw _ => exact ⟨rfl, rfl, rfl, .inl ⟨rfl, hw⟩⟩
  | once hf ha => exact ⟨rfl, rfl, rfl, .inr ⟨d, _, rfl, rfl, hf, ha, rfl⟩⟩
  | twice _ _ hpossible _ hd hf ha =>
    subst hd hpossible
    exact ⟨rfl, rfl, rfl, .inr ⟨_, _, by simp [RefundRequestDetail.replaceRow, RefundRequest.moved],
      by simp [RefundRequestDetail.replaceRow, RefundRequest.moved], hf, ha, rfl⟩⟩

-- The columns of a row that follows its refund.
theorem columns_of_follow {row : RefundRequest} {input : IdentifiedRefundInput}
    (hf : row.Follow input new) : new.workflowStatus ∉ [.pendingApproval, .approved] ∧
      (new.workflowStatus = .executing → row.workflowStatus = .executing) ∧
      new.executionStartedAt = row.executionStartedAt ∧
      (new.workflowStatus ∈ [.executing, .reconciliationRequired] →
        new.effectState = .identified) := by
  cases hf with
  | corrected hw _ _ => simp [RefundRequest.moved]
  | preserved hw _ _ => simp [RefundRequest.moved, hw]
  | converged hw _ _ =>
    rcases (by simpa using hw : _ ∨ _) with hw | hw <;> unfold followStatus <;> split <;> simp [hw]

theorem followed_row (h : RequestSound d) {input : IdentifiedRefundInput}
    {locked : RefundExecution} (he : d.execution = some locked)
    (ha : shouldApplyRefundObservation locked input = true) (hid : isRefundId input.stripeRefundId)
    (hf : Followed env input locked (recorded d input locked) true d') : RequestSound d' := by
  have hcoherent := h.coherent.followed he ha hf
  have hsnapshot := RefundRequestDetail.snapshot_followed hf
  have hsnapshot : d'.request.financialSnapshot = d.request.financialSnapshot := hsnapshot
  have hunclaimed : d.request.workflowStatus ∉ [.pendingApproval, .approved] := fun hw => by
    simp [h.unclaimed hw] at he
  obtain ⟨hexec, hcandidates, hdecisions, hshape⟩ := shape_of_followed hf
  have hexec : d'.execution = some (recordObservation input locked) := hexec
  have hcandidates : d'.candidates = d.candidates := hcandidates
  have hlink : ∀ e, d'.execution = some e → e.LinkSound := by
    intro e hsome
    obtain rfl := Option.some.inj (hexec.symm.trans hsome)
    exact .recorded hid
  have hd' : d' = { d with
      request := d'.request, execution := d'.execution, images := d'.images
      decisions := d'.decisions } := by
    rw [← hcandidates]
  rw [hd']
  rcases hshape with ⟨hrow, hw⟩ | ⟨d₁, new, hw, hstarted, hfollow, haccepted, hrow⟩
  · have hrow : d'.request = d.request := hrow
    have hw : d.request.workflowStatus ∉ [.executing, .reconciliationRequired] := hw
    refine h.replaced hsnapshot hcoherent hlink ?_ ?_ ?_ ?_
    · rw [hrow]
      exact fun hu => (hunclaimed hu).elim
    · rw [hrow]
      exact h.started
    · rw [hrow]
      exact h.boundary
    · rw [hrow]
      exact fun _ hw' => (hw hw').elim
  · obtain ⟨hu, hx, hs, hi⟩ := columns_of_follow hfollow
    have hrow₁ : d'.request.workflowStatus = new.workflowStatus := by simp [hrow]
    refine h.replaced hsnapshot hcoherent hlink ?_ ?_ ?_ ?_
    · rw [hrow₁]
      exact fun hu' => (hu hu').elim
    · rw [hrow₁, hrow, RefundRequest.stamped_executionStartedAt, hs, hstarted]
      exact fun hn => h.started (hw.symm.trans (hx hn))
    · rw [hrow₁, hrow]
      exact boundary_of_accepted haccepted
    · rw [hrow₁, hrow, RefundRequest.stamped_effectState]
      exact fun _ => hi

theorem created {now : Timestamp} {s : Store} {requestId : String} {input : CreateRefundRequestInput}
    (h : Created now s requestId d input) : RequestSound d := by
  have hscope := (RefundRequest.guardExternalPaymentProtection_eq_ok.mp h.guarded).2.1
  have hchecked := h.checked
  simp only [checkCreatedRequest, ite_raise_eq_ok] at hchecked
  have hcurrency : isCurrency (input.row now).currency := by
    simpa using hchecked.2.2.2.2.2.2.1
  obtain ⟨rfl, -, -⟩ := h
  exact {
    coherent   := by constructor <;> simp [CreateRefundRequestInput.row, WorkflowStatus.isTerminal]
    scope      := hscope
    currency   := hcurrency
    link       := by simp
    unclaimed  := by simp
    started    := by simp [CreateRefundRequestInput.row]
    boundary   := by simp [CreateRefundRequestInput.row]
    followed   := by simp [CreateRefundRequestInput.row]
    candidates := by simp
  }

theorem stored_candidates (h : RequestSound d) {candidates : Table String RefundCorrelationCandidate}
    (hc : ∀ refundId candidate, candidates.find? refundId = some candidate →
      candidate.OfRequest refundId d.request) : RequestSound { d with candidates := candidates } where
  coherent   := h.coherent
  scope      := h.scope
  currency   := h.currency
  link       := h.link
  unclaimed  := h.unclaimed
  started    := h.started
  boundary   := h.boundary
  followed   := h.followed
  candidates := hc

-- The attempts of an execution say nothing about its refund.
theorem attempted (h : RequestSound d) {execution : RefundExecution}
    {attempts : List RefundExecutionAttempt} (he : d.execution = some execution) :
    RequestSound { d with execution := some { execution with attempts := attempts } } := by
  have hlink := h.link execution he
  have hcoherent := h.coherent
  have hfollowed := h.followed
  have hunclaimed := h.unclaimed
  simp only [RefundRequestDetail.linkedRefundId, he] at hcoherent hfollowed hunclaimed
  exact {
    coherent   := ⟨hcoherent.guard, hcoherent.terminal, hcoherent.unstarted, hcoherent.absent,
      hcoherent.succeeded, hcoherent.identified⟩
    scope      := h.scope
    currency   := h.currency
    link       := by
      rintro _ ⟨rfl⟩
      exact ⟨hlink.unlinked, hlink.linked⟩
    unclaimed  := fun hw => by simpa using hunclaimed hw
    started    := h.started
    boundary   := h.boundary
    followed   := hfollowed
    candidates := h.candidates
  }

theorem executed (h : RequestSound d) {input : EnsureExecutionInput}
    (hw : d.request.workflowStatus = .executing)
    (hc : Coherent d.request (some input.created)) :
    RequestSound { d with execution := some input.created } where
  coherent   := hc
  scope      := h.scope
  currency   := h.currency
  link       := by
    rintro _ ⟨rfl⟩
    exact .created
  unclaimed hu := by simp [hw] at hu
  started    := h.started
  boundary   := h.boundary
  followed hl := by simp [RefundRequestDetail.linkedRefundId, EnsureExecutionInput.created] at hl
  candidates := h.candidates

theorem stored_of_recorded (h : RequestSound d) {input : RefundCorrelationCandidateInput}
    {row : RefundCorrelationCandidate} (hi : input.installationId = d.request.installationId)
    (hk : input.paymentKey = d.request.paymentKey) (hagree : input.tupleAgrees row)
    (hcheck : (input.merged row).check input.stripeRefundId = .ok (input.merged row)) :
    RequestSound { d with candidates := storedCandidates d input row } := by
  have hstored : ∀ refundId candidate,
      (d.candidates.insert input.stripeRefundId (input.merged row)).find? refundId =
        some candidate → candidate.OfRequest refundId d.request := by
    intro refundId candidate hf
    rw [Table.find?_insert] at hf
    split_ifs at hf with hid
    · obtain rfl := Option.some.inj hf
      subst hid
      exact ⟨hcheck, hagree.1.trans hi, hagree.2.1.trans hk⟩
    · exact h.candidates refundId candidate hf
  refine h.stored_candidates fun refundId candidate hf => ?_
  unfold storedCandidates at hf
  dsimp only at hf
  split_ifs at hf
  · rw [Table.find?_map] at hf
    obtain ⟨candidate, hc, rfl⟩ := Option.map_eq_some_iff.mp hf
    obtain ⟨hchecked, hinst, hkey⟩ := hstored refundId candidate hc
    refine ⟨RefundCorrelationCandidate.check_conflicted hchecked, ?_, ?_⟩ <;>
      unfold conflicted <;> split_ifs <;> assumption
  · exact hstored refundId candidate hf

theorem outcome (h : RequestSound d) (hcall : SoundCall d call b) (ho : Outcome env d call b d') :
    RequestSound d' := by
  have hcoherent := h.coherent.outcome ho
  cases ho with
  | refused => exact h
  | moved hm ha => exact h.move hm ha
  | noted _ => exact { h with }
  | decided _ hd hm ha =>
    subst hd
    refine move ?_ hm ha
    exact { h with }
  | ensured _ => exact h
  | inserted _ hi =>
    have hw := (insert_eq_ok.mp hi).2.2.2.2.1
    exact h.executed hw hcoherent
  | begun he => exact h.attempted he
  | finished he => exact h.attempted he
  | unapplied _ _ _ => exact h
  | identified he _ ha hid _ hf =>
    obtain rfl : b = true := hcall
    exact h.followed_row he ha hid hf
  | candidate hagree hcheck _ => exact h.stored_of_recorded hcall.1 hcall.2 hagree hcheck
  | @candidateLinked refundId state time row hf _ =>
    refine h.stored_candidates fun id candidate hc => ?_
    rw [Table.find?_insert] at hc
    split_ifs at hc with hid
    · obtain rfl := Option.some.inj hc
      obtain ⟨hchecked, hinst, hkey⟩ := h.candidates refundId row hf
      exact ⟨hid ▸ RefundCorrelationCandidate.check_linked hchecked, hinst, hkey⟩
    · exact h.candidates id candidate hc
  | candidatesConflicted =>
    refine h.stored_candidates fun id candidate hc => ?_
    rw [Table.find?_map] at hc
    obtain ⟨row, hrow, rfl⟩ := Option.map_eq_some_iff.mp hc
    obtain ⟨hchecked, hinst, hkey⟩ := h.candidates id row hrow
    refine ⟨RefundCorrelationCandidate.check_conflicted hchecked, ?_, ?_⟩ <;>
      unfold conflicted <;> split_ifs <;> assumption

end RequestSound
end RefundDesk
