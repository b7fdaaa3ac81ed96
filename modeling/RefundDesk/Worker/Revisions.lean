import RefundDesk.Worker.Attempts
import RefundDesk.Worker.Invariants

namespace RefundDesk

open Transaction Relation RequestRepository TenantRepository WorkerStore

-- The execution of a request that has been attempted without a link or an end.
structure Attempted (d : RefundRequestDetail) (execution : RefundExecution) : Prop where
  stored    : d.execution = some execution
  unlinked  : execution.stripeRefundId = none
  nonempty  : execution.attempts ≠ []
  isOpen    : OpenAttempts execution.attempts

-- The version of a request counts the updates that its states and attempts show. A linked request
-- and one that cannot be executed again are not counted.
inductive RevisionsAccounted (d : RefundRequestDetail) : Prop
  | pending :
    d.request.workflowStatus = .pendingApproval → d.request.effectState = .notStarted →
    d.execution = none → d.request.version = 0 → RevisionsAccounted d
  | approved :
    d.request.workflowStatus = .approved → d.request.effectState = .notStarted →
    d.execution = none → d.request.version = 1 → RevisionsAccounted d
  | claimed :
    d.request.workflowStatus = .executing → d.request.effectState = .notStarted →
    d.execution = none → d.request.version = 2 → RevisionsAccounted d
  | attempting {execution prior latest} :
    d.request.workflowStatus = .executing → d.request.effectState = .possible →
    Attempted d execution → execution.attempts = prior ++ [latest] → latest.state = .started →
    d.request.version = 3 + revisions prior → RevisionsAccounted d
  | uncertain {execution} :
    d.request.workflowStatus = .reconciliationRequired → d.request.effectState = .possible →
    Attempted d execution → d.request.version = revisions execution.attempts →
    RevisionsAccounted d
  | absent {execution} :
    d.request.workflowStatus = .executing → d.request.effectState = .absenceProven →
    Attempted d execution → d.request.version = 2 + revisions execution.attempts →
    RevisionsAccounted d
  | linked :
    d.linkedRefundId ≠ none → RevisionsAccounted d
  | exempt :
    d.request.workflowStatus ∉ [.pendingApproval, .approved, .executing] →
    (d.request.workflowStatus = .reconciliationRequired → d.request.effectState ≠ .possible) →
    RevisionsAccounted d

-- The calls that a transaction makes together with another one that accounts for them.
def RequestCall.IsComposed : RequestCall → Prop
  | .resumeExecutionAfterAbsence _ | .markEffectPossible | .markCertainAbsenceWhileExecuting
  | .ensureExecution _ | .beginExecutionAttempt _ _ | .finishExecutionAttempt _ => True
  | _ => False

namespace RevisionsAccounted

variable {env : TriggerEnv} {d d' : RefundRequestDetail} {call : RequestCall} {b : Bool}
variable {new : RefundRequest}

theorem of_eq (h : RevisionsAccounted d) (hr : d'.request = d.request)
    (he : d'.execution = d.execution) : RevisionsAccounted d' := by
  have hattempted {execution : RefundExecution} (ha : Attempted d execution) :
      Attempted d' execution := { ha with stored := he.trans ha.stored }
  have hlinked : d'.linkedRefundId = d.linkedRefundId := by
    simp [RefundRequestDetail.linkedRefundId, he]
  cases h with
  | pending hw hs hn hv => exact .pending (hr ▸ hw) (hr ▸ hs) (he ▸ hn) (hr ▸ hv)
  | approved hw hs hn hv => exact .approved (hr ▸ hw) (hr ▸ hs) (he ▸ hn) (hr ▸ hv)
  | claimed hw hs hn hv => exact .claimed (hr ▸ hw) (hr ▸ hs) (he ▸ hn) (hr ▸ hv)
  | attempting hw hs ha hsplit hl hv =>
    exact .attempting (hr ▸ hw) (hr ▸ hs) (hattempted ha) hsplit hl (hr ▸ hv)
  | uncertain hw hs ha hv => exact .uncertain (hr ▸ hw) (hr ▸ hs) (hattempted ha) (hr ▸ hv)
  | absent hw hs ha hv => exact .absent (hr ▸ hw) (hr ▸ hs) (hattempted ha) (hr ▸ hv)
  | linked hl => exact .linked (hlinked ▸ hl)
  | exempt hw hs => exact .exempt (hr ▸ hw) (hr ▸ hs)

theorem version_of_pending (h : RevisionsAccounted d)
    (hw : d.request.workflowStatus = .pendingApproval) (hlink : d.linkedRefundId = none) :
    d.request.version = 0 := by
  cases h with
  | pending _ _ _ hv => exact hv
  | linked hl => exact (hl hlink).elim
  | _ => simp_all

-- The compatible version is the one that the request has, and no other.
theorem isCompatible_iff (h : RevisionsAccounted d)
    (hw : d.request.workflowStatus ∈ [.approved, .executing]) (hlink : d.linkedRefundId = none)
    {version : Nat} :
    approvalAttestationRequestVersionIsCompatible { d.request with version } d.execution 0 ↔
      version = d.request.version := by
  unfold approvalAttestationRequestVersionIsCompatible
  cases h with
  | pending hw' => simp [hw'] at hw
  | approved hw' he hn hv =>
    simp only [hw', he, hn, hv]
    grind
  | claimed hw' he hn hv =>
    simp only [hw', he, hn, hv]
    grind
  | @attempting execution prior latest hw' he ha hsplit hs hv =>
    have hlast : execution.attempts.getLast? = some latest := by simp [hsplit]
    have hprior : execution.attempts.dropLast = prior := by simp [hsplit]
    have hcosts : resolvedRevisionCosts prior = some (revisions prior) :=
      resolvedRevisionCosts_of_open fun attempt hm => ha.isOpen.isOpen attempt (by simp [hsplit, hm])
    simp only [hw', he, ha.stored, hlast, ha.unlinked, ha.isOpen.attemptsAreOpen, hprior, hcosts,
      hs, hv]
    simp
    grind
  | uncertain hw' => simp [hw'] at hw
  | @absent execution hw' he ha hv =>
    obtain ⟨latest, hlast⟩ := Option.isSome_iff_exists.mp (List.getLast?_isSome.mpr ha.nonempty)
    have hcosts := resolvedRevisionCosts_of_open ha.isOpen.isOpen
    simp only [hw', he, ha.stored, hlast, ha.unlinked, ha.isOpen.attemptsAreOpen, hcosts, hv]
    simp
    grind
  | linked hl => exact (hl hlink).elim
  | exempt hw' _ => grind

theorem linked_of_followed {input : IdentifiedRefundInput} {locked : RefundExecution}
    (hf : Followed env input locked (recorded d input locked) b d') : d'.linkedRefundId ≠ none := by
  have hexec : d'.execution = some (recordObservation input locked) := execution_of_followed hf
  simp [RefundRequestDetail.linkedRefundId, hexec, recordObservation]

theorem linked_of_outcome (hl : d.linkedRefundId ≠ none) (ho : Outcome env d call b d') :
    d'.linkedRefundId ≠ none := by
  cases ho with
  | decided _ hd _ _ =>
    subst hd
    exact hl
  | inserted he _ => simp [RefundRequestDetail.linkedRefundId, he] at hl
  | begun he | finished he => simpa [RefundRequestDetail.linkedRefundId, he] using hl
  | identified _ _ _ _ _ hf => exact linked_of_followed hf
  | _ => exact hl

-- The row of a request is replaced by an accepted image.
theorem replaced (h : RevisionsAccounted d) (hm : d.request.Move call new)
    (hcall : ¬call.IsComposed) (ha : RefundRequest.Accepted env d new) :
    RevisionsAccounted (d.replaceRow (d.request.stamped env new)) := by
  have hlinked (hl : d.linkedRefundId ≠ none) : RevisionsAccounted
      (d.replaceRow (d.request.stamped env new)) := .linked hl
  have hended (hw : new.workflowStatus ∉
      [.pendingApproval, .approved, .executing, .reconciliationRequired]) : RevisionsAccounted (d.replaceRow (d.request.stamped env new)) := by
    refine .exempt ?_ ?_ <;> simp_all [RefundRequestDetail.replaceRow]
  have hreconciled (hw : d.request.workflowStatus = .executing)
      (hn : new = d.request.moved .reconciliationRequired d.request.effectState) :
      RevisionsAccounted (d.replaceRow (d.request.stamped env new)) := by
    cases h with
    | attempting _ he ha' hsplit hs hv =>
      have hexec : Attempted (d.replaceRow (d.request.stamped env new)) _ := { ha' with }
      refine .uncertain ?_ ?_ hexec ?_ <;>
        simp [RefundRequestDetail.replaceRow, hn, RefundRequest.moved, he, hv, hsplit,
          revisions_of_started hs]
      omega
    | linked hl => exact hlinked hl
    | _ =>
      refine .exempt ?_ ?_ <;> simp_all [RefundRequestDetail.replaceRow, RefundRequest.moved]
  cases hm with
  | approved hw =>
    cases h with
    | pending _ he hn hv =>
      refine .approved ?_ ?_ hn ?_ <;>
        simp [RefundRequestDetail.replaceRow, RefundRequest.moved, he, hv]
    | linked hl => exact hlinked hl
    | _ => simp_all
  | claimed hw he _ =>
    cases h with
    | approved _ _ hn hv =>
      refine .claimed ?_ ?_ hn ?_ <;>
        simp [RefundRequestDetail.replaceRow, RefundRequest.moved, he, hv]
    | linked hl => exact hlinked hl
    | _ => simp_all
  | reconciled hw _ | guarded hw _ _ => exact hreconciled hw rfl
  | absent hw _ =>
    refine .exempt ?_ ?_ <;> simp [RefundRequestDetail.replaceRow, RefundRequest.moved, hw]
  | resumed _ _ | possible _ _ | certainlyAbsent _ _ => exact (hcall trivial).elim
  | _ => exact hended (by simp [RefundRequest.ended])

theorem outcome (h : RevisionsAccounted d) (hcall : ¬call.IsComposed)
    (ho : Outcome env d call b d') : RevisionsAccounted d' := by
  cases ho with
  | moved hm ha => exact h.replaced hm hcall ha
  | @decided _ _ decision _ _ _ _ hd hm ha =>
    subst hd
    have hdecided : RevisionsAccounted { d with decisions := d.decisions ++ [decision] } :=
      h.of_eq rfl rfl
    exact hdecided.replaced hm hcall ha
  | inserted _ _ | begun _ | finished _ => exact (hcall trivial).elim
  | identified _ _ _ _ _ hf => exact .linked (linked_of_followed hf)
  | _ => exact h.of_eq rfl rfl

section Composed

variable {d₁ d₂ : RefundRequestDetail} {time : Timestamp}

-- The request crosses the effect boundary with its next attempt.
theorem crossed (h : RevisionsAccounted d) {input : EnsureExecutionInput}
    {execution : RefundExecution} {u : Unit}
    (he : (ensureExecution env input).Commits d execution d₁)
    (hp : (markEffectPossible env).Commits d₁ true d₂)
    (hb : (beginExecutionAttempt (maximumAttemptNumber execution + 1) time).Commits d₂ u d') :
    RevisionsAccounted d' := by
  simp only [markEffectPossible, commits_updateRequest, Bool.true_eq_false, false_and, and_false,
    false_or, true_and, decide_eq_true_eq] at hp
  obtain ⟨⟨hw, hs⟩, -, rfl⟩ := hp
  obtain ⟨execution', he', -, -, rfl⟩ := commits_beginExecutionAttempt.mp hb
  have hexec : d₁.execution = some execution ∧ d₁.request = d.request ∧
      (d.execution = some execution ∨ d.execution = none ∧ execution.attempts = [] ∧
        execution.stripeRefundId = none) := by
    rcases commits_ensureExecution.mp he with ⟨hsome, rfl⟩ | ⟨hnone, -, rfl, rfl⟩
    · exact ⟨hsome, rfl, .inl hsome⟩
    · exact ⟨rfl, rfl, .inr ⟨hnone, rfl, rfl⟩⟩
  obtain ⟨hstored, hrow, hsource⟩ := hexec
  obtain rfl := Option.some.inj (hstored.symm.trans he')
  have hattempting (hv : d.request.version = 2 + revisions execution.attempts)
      (ha : OpenAttempts execution.attempts) (hl : execution.stripeRefundId = none) :
      RevisionsAccounted { d₁.replaceRow (d₁.request.stamped env { d₁.request with
        effectState := .possible, version := d₁.request.version + 1 }) with
        execution := some { execution with
          attempts := execution.attempts ++ [{
            attemptNumber := maximumAttemptNumber execution + 1, state := .started
            normalizedErrorCode := none, stripeRequestId := none, startedAt := time
            finishedAt := none
          }]
        }
      } := by
    refine .attempting ?_ ?_ ⟨rfl, hl, by simp, ?_⟩ rfl rfl ?_
    · simpa [RefundRequestDetail.replaceRow] using hw
    · simp [RefundRequestDetail.replaceRow]
    · exact ha.append (by simp [ha.maximumAttemptNumber]) rfl
    · simp [RefundRequestDetail.replaceRow, hrow, hv]
      omega
  rw [hrow] at hw hs
  cases h with
  | claimed _ _ hn hv =>
    obtain ⟨-, hnil, hl⟩ := hsource.resolve_left (by simp [hn])
    exact hattempting (by simp [hv, hnil, revisions]) (hnil ▸ .nil) hl
  | absent _ _ ha hv =>
    obtain rfl := Option.some.inj (ha.stored.symm.trans (hsource.resolve_right (by simp [ha.stored])))
    exact hattempting hv ha.isOpen ha.unlinked
  | linked hl =>
    refine .linked ?_
    have hsame := hsource.resolve_right fun hn => by
      simp [RefundRequestDetail.linkedRefundId, hn.1] at hl
    simpa [RefundRequestDetail.linkedRefundId, hsame] using hl
  | _ => simp_all

variable {input : FinishExecutionAttemptInput}

-- A running attempt of the request is finished without an end of the execution.
theorem finished_of_attempted {execution : RefundExecution} (ha : Attempted d execution)
    (hs : input.state.isOpen) (hf : (finishExecutionAttempt input).Commits d true d₁) :
    ∃ execution', Attempted d₁ execution' ∧ d₁.request = d.request ∧
      revisions execution'.attempts + (4 - input.state.revisions) =
        revisions execution.attempts := by
  rcases commits_finishExecutionAttempt.mp hf with ⟨-, ⟨⟩, -⟩ | ⟨execution', he, hcount, rfl⟩
  obtain rfl := Option.some.inj (ha.stored.symm.trans he)
  have hone := of_decide_eq_true hcount.symm
  refine ⟨_, ⟨rfl, ha.unlinked, ?_, ha.isOpen.finished hs⟩, rfl, ?_⟩
  · simpa [finishedAttempts] using ha.nonempty
  · have hrevisions := @revisions_finished execution.attempts input
    rwa [hone, mul_one] at hrevisions

theorem linked_of_finished (hl : d.linkedRefundId ≠ none)
    (hf : (finishExecutionAttempt input).Commits d b d₁) : d₁.linkedRefundId ≠ none := by
  rcases commits_finishExecutionAttempt.mp hf with ⟨-, -, rfl⟩ | ⟨execution, he, -, rfl⟩
  · exact hl
  · simpa [RefundRequestDetail.linkedRefundId, he] using hl

-- A retryable failure proves the absence of its effect.
theorem retried (h : RevisionsAccounted d) (hs : input.state = .retryableFailure)
    (hf : (finishExecutionAttempt input).Commits d true d₁)
    (hm : (markCertainAbsenceWhileExecuting env).Commits d₁ true d') : RevisionsAccounted d' := by
  simp only [markCertainAbsenceWhileExecuting, commits_updateRequest, Bool.true_eq_false, false_and,
    and_false, false_or, true_and, decide_eq_true_eq] at hm
  obtain ⟨⟨hw, he⟩, -, rfl⟩ := hm
  have hrow : d₁.request = d.request := by
    rcases commits_finishExecutionAttempt.mp hf with ⟨-, -, rfl⟩ | ⟨_, -, -, rfl⟩ <;> rfl
  rw [hrow] at hw he
  cases h with
  | attempting _ _ ha hsplit hl hv =>
    obtain ⟨execution', ha', -, hr⟩ := finished_of_attempted ha (by simp [hs]; rfl) hf
    have hexec : Attempted (d₁.replaceRow (d₁.request.stamped env { d₁.request with
      effectState := .absenceProven, version := d₁.request.version + 1 })) execution' := { ha' with }
    refine .absent ?_ ?_ hexec ?_
    · simp [RefundRequestDetail.replaceRow, hrow, hw]
    · simp [RefundRequestDetail.replaceRow]
    · simp only [hs, ExecutionAttemptState.revisions, hsplit, revisions_append,
        revisions_of_started hl] at hr
      simp only [RefundRequestDetail.replaceRow, RefundRequest.stamped_version, hrow, hv]
      omega
  | linked hl =>
    have hl₁ := linked_of_finished hl hf
    exact .linked hl₁
  | _ => simp_all

-- An ambiguous failure leaves the effect to reconciliation.
theorem doubted (h : RevisionsAccounted d) (hs : input.state = .ambiguousFailure)
    (hf : (finishExecutionAttempt input).Commits d true d₁)
    (hm : (markReconciliationRequired env).Commits d₁ true d') : RevisionsAccounted d' := by
  simp only [markReconciliationRequired, commits_updateRequest, Bool.true_eq_false, false_and,
    and_false, false_or, true_and, decide_eq_true_eq] at hm
  obtain ⟨⟨hw, -⟩, -, rfl⟩ := hm
  have hrow : d₁.request = d.request := by
    rcases commits_finishExecutionAttempt.mp hf with ⟨-, -, rfl⟩ | ⟨_, -, -, rfl⟩ <;> rfl
  rw [hrow] at hw
  cases h with
  | attempting _ he ha hsplit hl hv =>
    obtain ⟨execution', ha', -, hr⟩ := finished_of_attempted ha (by simp [hs]; rfl) hf
    have hexec : Attempted (d₁.replaceRow (d₁.request.stamped env { d₁.request with
      workflowStatus := .reconciliationRequired
      version        := d₁.request.version + 1 })) execution' := { ha' with }
    refine .uncertain ?_ ?_ hexec ?_
    · simp [RefundRequestDetail.replaceRow]
    · simp [RefundRequestDetail.replaceRow, hrow, he]
    · simp only [hs, ExecutionAttemptState.revisions, hsplit, revisions_append,
        revisions_of_started hl] at hr
      simp only [RefundRequestDetail.replaceRow, RefundRequest.stamped_version, hrow, hv]
      omega
  | linked hl =>
    have hl₁ := linked_of_finished hl hf
    exact .linked hl₁
  | _ =>
    refine .exempt ?_ ?_ <;> simp_all [RefundRequestDetail.replaceRow]

-- The scan proves the absence of the effect, and the execution resumes.
theorem resumed (h : RevisionsAccounted d) (hm : (markAbsenceProven env).Commits d true d₁)
    (hr : (resumeExecutionAfterAbsence env time).Commits d₁ true d') : RevisionsAccounted d' := by
  simp only [markAbsenceProven, commits_updateRequest, Bool.true_eq_false, false_and,
    and_false, false_or, true_and, decide_eq_true_eq] at hm
  obtain ⟨⟨hw, he⟩, -, rfl⟩ := hm
  simp only [resumeExecutionAfterAbsence, commits_updateRequest, Bool.true_eq_false, false_and,
    and_false, false_or, true_and, decide_eq_true_eq] at hr
  obtain ⟨-, -, rfl⟩ := hr
  cases h with
  | @uncertain execution _ _ ha hv =>
    refine .absent ?_ ?_ (show Attempted _ execution from { ha with }) ?_ <;>
      simp [RefundRequestDetail.replaceRow, hv]
    omega
  | linked hl => exact .linked hl
  | _ => simp_all

end Composed

theorem created {now : Timestamp} {s : Store} {requestId : String} {input : CreateRefundRequestInput}
    (h : Created now s requestId d input) : RevisionsAccounted d := by
  obtain ⟨rfl, -, -⟩ := h
  exact .pending rfl rfl rfl rfl

section Store

variable {α : Type} {keys : WorkerKeys} {now : Timestamp} {s s' : Store} {requestId : String}

-- The calls that are no part of a composed transaction.
def PlainCall : Footprint :=
  fun _ _ call _ => ¬call.IsComposed

theorem keeps_of_change (h : Change now PlainCall s s') : Keeps RevisionsAccounted s s' :=
  h.eachRequest (P := fun _ => RevisionsAccounted) .created fun _ hcall hd ho => hd.outcome hcall ho

theorem within_plain {m : StoreTransaction α} (h : Within (Change now PlainCall) m) :
    Within (Keeps RevisionsAccounted) m :=
  h.mono fun _ _ => keeps_of_change

theorem within_crossEffectBoundary {item : ExecutionWorkItem} {key : String} {time : Timestamp} :
    Within (Keeps RevisionsAccounted) (crossEffectBoundary keys now item key time) := by
  unfold crossEffectBoundary
  refine .bind within_fromDomain fun hash =>
    .bind (within_onRequest_keeps fun env d a d' h hd => ?_) fun attempt => ?_
  · simp only [commits_bind, commits_fromExcept, commits_require, commits_pure] at h
    obtain ⟨_, _, he, _, _, ⟨_, rfl⟩, _, _, ⟨_, rfl⟩, _, _, hp, _, _, ⟨rfl, rfl⟩, _, _, hb, _, rfl⟩ := h
    exact hd.crossed he hp hb
  · cases attempt with
    | none   => exact .throw _
    | some n => exact .pure _

theorem within_persistEffectBoundary {key : String} {time : Timestamp} :
    Within (Keeps RevisionsAccounted) (persistEffectBoundary keys now requestId key time) := by
  have hreconcile (id : String) : Within (Keeps RevisionsAccounted)
      (requireExecutionReconciliation now id) :=
    within_plain (within_requireExecutionReconciliation fun _ _ hcomposed => hcomposed)
  unfold persistEffectBoundary
  refine .bind within_getExecutionWorkItem fun found => ?_
  cases found with
  | none      => exact .pure _
  | some item =>
    refine .ite (fun _ => .pure _) fun _ => .ite (fun _ => .pure _) fun _ =>
      .bind within_lockExecutionAuthorization fun locked => .ite (fun _ => .pure _)
      fun _ => .bind within_fromDomain fun valid =>
      .ite (fun _ => .ite (fun _ => .bind (hreconcile _) fun _ => .pure _) fun _ => .pure _) fun _ => ?_
    split
    case h_1 => exact .pure _
    case h_2 =>
      exact .ite (fun _ => .bind (hreconcile _) fun _ => .pure _) fun _ => .ite (fun _ => .pure _)
        fun _ => within_crossEffectBoundary

theorem within_onExistingRequest_keeps {P : RefundRequestDetail → Prop} {missing : StoreError}
    {m : TriggerEnv → RequestTransaction α}
    (h : ∀ env d a d', (m env).Commits d a d' → P d → P d') :
    Within (Keeps P) (onExistingRequest now requestId missing m) :=
  fun _ _ _ hc => within_onRequest_keeps h (commits_onExistingRequest.mp hc)

theorem within_recordRetryableAttemptFailure {input : AttemptFailureInput} :
    Within (Keeps RevisionsAccounted) (recordRetryableAttemptFailure now input) := by
  refine within_onExistingRequest_keeps fun env d u d' h hd => ?_
  simp only [commits_bind, commits_require] at h
  obtain ⟨_, d₁, hf, _, d₂, hm, ⟨rfl, rfl⟩, rfl⟩ := h
  exact hd.retried rfl hf hm

theorem within_recordAmbiguousAttemptFailure {input : AttemptFailureInput} :
    Within (Keeps RevisionsAccounted) (recordAmbiguousAttemptFailure now input) := by
  refine within_onExistingRequest_keeps fun env d u d' h hd => ?_
  simp only [commits_bind, commits_require] at h
  obtain ⟨_, d₁, hf, _, d₂, hm, ⟨rfl, rfl⟩, rfl⟩ := h
  exact hd.doubted rfl hf hm

theorem within_recordTerminalAttemptWithoutEffect {input : AttemptFailureInput} :
    Within (Keeps RevisionsAccounted) (recordTerminalAttemptWithoutEffect now input) := by
  refine within_onExistingRequest_keeps fun env d u d' h _ => ?_
  simp only [commits_bind, commits_require, markTerminalFailureAfterAbsence,
    commits_updateRequest] at h
  obtain ⟨_, d₁, -, _, d₂, -, _, d₃, hm, ⟨-, -, rfl⟩, rfl⟩ := h
  rcases hm with ⟨-, ⟨⟩, -⟩ | ⟨-, -, -, rfl⟩
  refine .exempt ?_ ?_ <;> simp [RefundRequestDetail.replaceRow]

theorem within_resolveUniqueRefundCandidates {installationId : String} {window : ScanWindow}
    {resolvedAt : Timestamp} :
    Within (Keeps RevisionsAccounted)
      (resolveUniqueRefundCandidates now installationId window resolvedAt) := by
  unfold resolveUniqueRefundCandidates
  refine .bind .get fun s => .bind (.mapM fun requestId _ => ?_) fun outcomes => .pure _
  refine .bind .get fun s => within_onRequest_keeps fun env d r d' h hd => ?_
  simp only [commits_bind, commits_get] at h
  obtain ⟨_, _, ⟨rfl, rfl⟩, h⟩ := h
  have step {call : RequestCall} {b : Bool} {d d' : RefundRequestDetail}
      (h : (call.run env).Commits d b d') (hcall : ¬call.IsComposed) (hd : RevisionsAccounted d) :
      RevisionsAccounted d' :=
    hd.outcome hcall (RequestCall.outcome_of_run h)
  have reconcile {b : Bool} {d d' : RefundRequestDetail}
      (h : (markReconciliationRequired env).Commits d b d') (hd : RevisionsAccounted d) :
      RevisionsAccounted d' := by
    have hcall : (RequestCall.markReconciliationRequired.run env).Commits d b d' := h
    exact step hcall id hd
  cases resolution_of_resolveRequest h with
  | skipped _ => exact hd
  | contested _ _ _ h => exact reconcile h hd
  | absent _ _ _ h₁ h₂ => exact hd.resumed h₁ h₂
  | undecided _ _ _ hd₁ hmark =>
    rcases hd₁ with rfl | rfl
    · exact reconcile hmark hd
    · exact reconcile hmark (hd.of_eq rfl rfl)
  | linked _ _ h₁ h₂ =>
    have hcall₁ : ((RequestCall.markRefundIdentified _).run env).Commits _ true _ := h₁
    have hcall₂ : ((RequestCall.markRefundCorrelationCandidateLinked _ _ _).run env).Commits _ _ d' :=
      h₂
    exact step hcall₂ id (step hcall₁ id hd)

theorem within_commitReconciliationCheckpoint {input : CommitCheckpointInput} :
    Within (Keeps RevisionsAccounted) (commitReconciliationCheckpoint now input) := by
  unfold commitReconciliationCheckpoint
  refine .bind .get fun s => .bind (.require _ _) fun _ => .bind ?_ fun _ => .bind ?_ fun _ =>
    .bind within_resolveUniqueRefundCandidates fun _ => .pure _
  · intro s u s' hc
    obtain ⟨_, _, _, rfl⟩ := commits_beginReconciliationWindow.mp hc
    exact .single id
  · intro s u s' hc
    obtain ⟨_, _, _, _, _, rfl⟩ := commits_completeReconciliationWindow.mp hc
    exact .single id

-- A request that is linked stays so.
theorem linked_of_changes {footprint : Footprint} (hrun : ReflTransGen (Change now footprint) s s')
    (h : ∃ d, s.requests.find? requestId = some d ∧ d.linkedRefundId ≠ none) :
    ∃ d, s'.requests.find? requestId = some d ∧ d.linkedRefundId ≠ none := by
  refine preserved_of_run
    (fun s => ∃ d, s.requests.find? requestId = some d ∧ d.linkedRefundId ≠ none) ?_ hrun h
  rintro s₁ s₂ ⟨d, hd, hl⟩ hchange
  obtain ⟨d', hd', he⟩ := hchange.kept requestId d hd
  refine ⟨d', hd', preserved_of_run (fun d => d.linkedRefundId ≠ none) ?_ he hl⟩
  rintro d₁ d₂ hl ⟨env, -, -, call, b, -, ho⟩
  exact linked_of_outcome hl ho

-- Stripe's answer links the request before its attempt is finished.
theorem keeps_of_recordIdentifiedRefund {input : RecordIdentifiedRefundInput} {u : Unit}
    (hsound : StoreSound s) (h : (recordIdentifiedRefund now input).Commits s u s') :
    Keeps RevisionsAccounted s s' := by
  intro hs
  simp only [recordIdentifiedRefund, commits_bind] at h
  obtain ⟨found, s₀, hfound, h⟩ := h
  obtain rfl := frame_getExecutionWorkItem hfound
  cases found with
  | none      => exact (not_commits_throw h).elim
  | some item =>
    obtain ⟨-, d, hitem⟩ := workItemOf_getExecutionWorkItem hfound
    dsimp only at h
    split at h
    case h_1 => exact (not_commits_throw h).elim
    case h_2 execution he =>
      simp only [commits_bind, commits_require] at h
      obtain ⟨_, s₀, ⟨-, rfl⟩, candidates, s₁, hlink, _, s₂, halerts, finished, s₃, hfinish, -, rfl⟩ := h
      have hlinked : Keeps RevisionsAccounted s₀ s₁ ∧
          ∃ d, s₁.requests.find? input.requestId = some d ∧ d.linkedRefundId ≠ none := by
        rcases commits_onRequest.mp hlink with ⟨hn, -, -⟩ | ⟨d, a, d', hd, hm, -, rfl⟩
        · simp [hitem.found] at hn
        simp only [commits_bind, commits_require, commits_get, commits_pure] at hm
        obtain ⟨_, _, h₁, _, d₁, ⟨rfl, rfl⟩, _, _, h₂, _, d₂, ⟨rfl, rfl⟩, rfl, rfl⟩ := hm
        have hl : d₁.linkedRefundId ≠ none := by
          simp [(hsound.requests _ d hd).linked_of_markRefundIdentified h₁]
        have h₂ : ((RequestCall.markRefundCorrelationCandidateLinked input.refundId .exactLinked
          input.time).run (s₀.triggerEnv now input.requestId d.request)).Commits d₁ _ _ := h₂
        have ho₂ := RequestCall.outcome_of_run h₂
        refine ⟨fun hs id d₃ hd₃ => ?_, _, by simp [Store.putRequest], linked_of_outcome hl ho₂⟩
        simp only [Store.putRequest, Table.find?_insert] at hd₃
        split_ifs at hd₃
        · obtain rfl := Option.some.inj hd₃
          exact .linked (linked_of_outcome hl ho₂)
        · exact hs id d₃ hd₃
      obtain ⟨hkeeps, hlinked⟩ := hlinked
      have hplain : ReflTransGen (Change now PlainCall) s₁ s₂ := by
        refine within_alertConflictingCandidates (fun _ _ call hc _ => ?_) halerts
        simp only [protectiveCalls, List.mem_cons, List.not_mem_nil, or_false] at hc
        rcases hc with rfl | rfl | rfl <;> exact id
      have hs₂ := preserved_of_run
        (fun s => ∀ id d, s.requests.find? id = some d → RevisionsAccounted d)
        (fun _ _ hs hchange => keeps_of_change hchange hs) hplain (hkeeps hs)
      obtain ⟨d₂, hd₂, hl₂⟩ := linked_of_changes hplain hlinked
      rcases commits_onRequest.mp hfinish with ⟨hn, -, -⟩ | ⟨d, a, d', hd, hm, -, rfl⟩
      · simp [hd₂] at hn
      obtain rfl := Option.some.inj (hd₂.symm.trans hd)
      intro id d₃ hd₃
      simp only [Store.putRequest, Table.find?_insert] at hd₃
      split_ifs at hd₃
      · obtain rfl := Option.some.inj hd₃
        exact .linked (linked_of_finished hl₂ hm)
      · exact hs₂ id d₃ hd₃

theorem plain_of_calls {op : Operation} {id : String} {call : RequestCall}
    (hop : ∀ input, op ≠ .commitReconciliationCheckpoint input)
    (hop₁ : ∀ id key time, op ≠ .persistEffectBoundary id key time)
    (hop₂ : ∀ input, op ≠ .recordIdentifiedRefund input)
    (hop₃ : ∀ input, op ≠ .recordRetryableAttemptFailure input)
    (hop₄ : ∀ input, op ≠ .recordAmbiguousAttemptFailure input)
    (hop₅ : ∀ input, op ≠ .recordTerminalAttemptWithoutEffect input)
    (h : op.calls id d call b) : PlainCall id d call b := by
  cases call <;> cases op <;>
    simp_all [Operation.calls, ObservationCall, PlainCall, RequestCall.IsComposed, protectiveCalls]

theorem step {admits : Operation → Prop} (hsound : StoreSound s)
    (h : OperationStep keys admits s s') : Keeps RevisionsAccounted s s' := by
  obtain ⟨now, op, -, hc⟩ := h
  have hkeeps {m : StoreTransaction Unit} (hm : Within (Keeps RevisionsAccounted) m)
      (hc : m.Commits s () s') : Keeps RevisionsAccounted s s' := fun hs =>
    preserved_of_run (fun s => ∀ id d, s.requests.find? id = some d → RevisionsAccounted d)
      (fun _ _ hs hstep => hstep hs) (hm hc) hs
  cases op with
  | persistEffectBoundary id key time => exact hkeeps (.map _ within_persistEffectBoundary) hc
  | recordIdentifiedRefund input => exact keeps_of_recordIdentifiedRefund hsound hc
  | recordRetryableAttemptFailure input => exact hkeeps within_recordRetryableAttemptFailure hc
  | recordAmbiguousAttemptFailure input => exact hkeeps within_recordAmbiguousAttemptFailure hc
  | recordTerminalAttemptWithoutEffect input =>
    exact hkeeps within_recordTerminalAttemptWithoutEffect hc
  | commitReconciliationCheckpoint input => exact hkeeps within_commitReconciliationCheckpoint hc
  | _ =>
    refine hkeeps (.mono (fun _ _ hchange => ?_) (Operation.within_run _)) hc
    refine hchange.eachRequest (P := fun _ => RevisionsAccounted) .created fun _ hcall hd ho =>
      hd.outcome (plain_of_calls ?_ ?_ ?_ ?_ ?_ ?_ hcall) ho <;> simp

end Store
end RevisionsAccounted
end RefundDesk
