import RefundDesk.Repositories.Identification

namespace RefundDesk

open Transaction

namespace RequestRepository

variable {env : TriggerEnv} {d d' : RefundRequestDetail}

-- `updateRequest` leaves the request alone, or stores an accepted image of its row.
theorem commits_updateRequest {guard : RefundRequest → Bool} {data : RefundRequest → RefundRequest}
    {b : Bool} :
    (updateRequest env guard data).Commits d b d' ↔
      guard d.request = false ∧ b = false ∧ d' = d ∨
      guard d.request = true ∧ b = true ∧ RefundRequest.Accepted env d (data d.request) ∧
        d' = d.replaceRow (d.request.stamped env (data d.request)) := by
  simp only [updateRequest, commits_bind, commits_get, exists_and_left, exists_eq_left,
    commits_ite, commits_fromExcept, commits_set, commits_pure, RefundRequest.update_eq_ok, and_assoc]
  grind

-- The refund is the one that the execution is linked to, if it is linked.
def linkAgrees (locked : RefundExecution) (input : IdentifiedRefundInput) : Prop :=
  locked.stripeRefundId = none ∨ locked.stripeRefundId = some input.stripeRefundId

-- The trigger of the table lets every observation pass that the repository applies.
theorem preserves_recordObservation {locked : RefundExecution} {input : IdentifiedRefundInput}
    (hl : linkAgrees locked input) (ha : shouldApplyRefundObservation locked input = true) :
    locked.Preserves (recordObservation input locked) where
  identity := rfl
  link     := by
    rcases hl with hl | hl <;> simp [hl, recordObservation]
  status   := by
    unfold shouldApplyRefundObservation at ha
    simp only [recordObservation]
    intro hs
    rcases (by simpa using hs : _ ∨ _ ∨ _) with hs | hs | hs <;>
      cases hi : input.stripeRefundStatus <;> grind
  event    := by
    unfold shouldApplyRefundObservation at ha
    intro old new ho hn
    simp only [recordObservation, ho] at hn ha
    cases hi : input.stripeEventCreatedAt with
    | none   => simp_all
    | some t =>
      have : t = new := by simpa [hi] using hn
      by_contra hlt
      simp [hi, isOlderEvent, this, not_le.mp hlt] at ha

theorem updateExecution_eq_ok {locked row : RefundExecution} {input : IdentifiedRefundInput}
    (hl : linkAgrees locked input) (ha : shouldApplyRefundObservation locked input = true) :
    locked.update env (recordObservation input locked) = .ok row ↔
      row = recordObservation input locked ∧ isRefundId input.stripeRefundId ∧
      env.refundLinkedElsewhere input.stripeRefundId = false := by
  have hlink : (recordObservation input locked).stripeRefundId = some input.stripeRefundId := rfl
  unfold RefundExecution.update
  rw [RefundExecution.preserveFirstRefundLink_of_preserves (preserves_recordObservation hl ha)]
  exact RefundExecution.linkCheck_eq_ok hlink

-- The branch that `markRefundIdentified` takes after it has recorded the observation.
def followObservation (env : TriggerEnv) (input : IdentifiedRefundInput) (row : RefundRequest)
    (locked : RefundExecution) : RequestTransaction Bool :=
  if row.workflowStatus = .succeeded ∧ locked.stripeRefundStatus = some .succeeded ∧
      (input.stripeRefundStatus = some .failed ∨ input.stripeRefundStatus = some .canceled) then
    correctSucceededRequest env
  else if row.workflowStatus ∉ [.executing, .reconciliationRequired] then
    pure true
  else if row.workflowStatus = .reconciliationRequired ∧
      input.reconciliationResolution = .preserve then
    preserveReconciliation env row
  else
    convergeRequest env input.stripeRefundStatus input.observedAt

def recorded (d : RefundRequestDetail) (input : IdentifiedRefundInput) (locked : RefundExecution) :
    RefundRequestDetail :=
  { d with execution := some (recordObservation input locked) }

theorem commits_markRefundIdentified {input : IdentifiedRefundInput} {b : Bool} :
    (markRefundIdentified env input).Commits d b d' ↔
      (d.execution = none ∧ b = false ∧ d' = d) ∨
      ∃ locked, d.execution = some locked ∧
        ((¬linkAgrees locked input ∧ b = false ∧ d' = d) ∨
        (linkAgrees locked input ∧ shouldApplyRefundObservation locked input = false ∧ b = true ∧
          d' = d) ∨
        (linkAgrees locked input ∧ shouldApplyRefundObservation locked input = true ∧
          isRefundId input.stripeRefundId ∧
          env.refundLinkedElsewhere input.stripeRefundId = false ∧
          (followObservation env input d.request locked).Commits (recorded d input locked) b d')) := by
  simp only [markRefundIdentified, commits_bind, commits_get, exists_and_left, exists_eq_left,
    and_assoc]
  cases hd : d.execution with
  | none        => simp
  | some locked =>
    simp only [reduceCtorEq, false_and, false_or, Option.some.injEq, exists_eq_left']
    have hagree : (locked.stripeRefundId ≠ none ∧
        locked.stripeRefundId ≠ some input.stripeRefundId) ↔ ¬linkAgrees locked input := by
      simp [linkAgrees]
    by_cases hl : linkAgrees locked input
    case neg => simp [hagree, hl]
    case pos =>
      cases ha : shouldApplyRefundObservation locked input with
      | false => simp [hagree, hl]
      | true  =>
        simp only [hagree, hl, not_true_eq_false, if_false, false_and, false_or, true_and,
          Bool.true_eq_false, updateExecution, commits_bind, commits_fromExcept, commits_get,
          commits_set, updateExecution_eq_ok hl ha]
        constructor
        · rintro ⟨_, _, ⟨_, _, ⟨⟨rfl, hid, hfree⟩, rfl⟩, _, _, ⟨rfl, rfl⟩, rfl⟩, h⟩
          exact ⟨hid, hfree, h⟩
        · rintro ⟨hid, hfree, h⟩
          exact ⟨(), _, ⟨_, d, ⟨⟨rfl, hid, hfree⟩, rfl⟩, d, d, ⟨rfl, rfl⟩, rfl⟩, h⟩

theorem insert_eq_ok {request : RefundRequest} {input : EnsureExecutionInput}
    {row : RefundExecution} :
    input.created.insert env request = .ok row ↔
      row = input.created ∧ request.amountMinor = input.amountMinor ∧
      request.currency = input.currency ∧
      input.idempotencyKey = "refunddesk:refund-request:" ++ env.requestId ++ ":v1" ∧
      request.workflowStatus = .executing ∧
      RefundExecution.isIdempotencyKey input.idempotencyKey := by
  simp only [RefundExecution.insert, RefundExecution.linkCheck, EnsureExecutionInput.created,
    ite_raise_eq_ok, if_true, Except.ok.injEq]
  grind

theorem commits_ensureExecution {input : EnsureExecutionInput} {execution : RefundExecution} :
    (ensureExecution env input).Commits d execution d' ↔
      d.execution = some execution ∧ d' = d ∨
      d.execution = none ∧ input.created.insert env d.request = .ok input.created ∧
        execution = input.created ∧ d' = { d with execution := some input.created } := by
  simp only [ensureExecution, commits_bind, commits_get, exists_and_left, exists_eq_left, and_assoc]
  cases he : d.execution with
  | some row => simp [eq_comm]
  | none     =>
    simp only [commits_bind, commits_fromExcept, commits_set, commits_pure, insert_eq_ok]
    grind

theorem commits_beginExecutionAttempt {attemptNumber : Nat} {time : Timestamp} {u : Unit} :
    (beginExecutionAttempt attemptNumber time).Commits d u d' ↔
      ∃ execution, d.execution = some execution ∧ 1 ≤ attemptNumber ∧
        (∀ attempt ∈ execution.attempts, attempt.attemptNumber ≠ attemptNumber) ∧
        d' = { d with
          execution := some { execution with
            attempts := execution.attempts ++ [{
              attemptNumber, state := .started, normalizedErrorCode := none
              stripeRequestId := none, startedAt := time, finishedAt := none
            }]
          }
        } := by
  simp only [beginExecutionAttempt, commits_bind, commits_get, commits_require]
  constructor
  · rintro ⟨_, _, ⟨hn, rfl⟩, _, _, ⟨rfl, rfl⟩, h⟩
    split at h
    case h_1 => exact (not_commits_throw h).elim
    case h_2 execution he =>
      simp only [commits_bind, commits_require, commits_set] at h
      obtain ⟨_, _, ⟨hfresh, rfl⟩, rfl⟩ := h
      exact ⟨execution, he, hn, hfresh, rfl⟩
  · rintro ⟨execution, he, hn, hfresh, rfl⟩
    refine ⟨(), d, ⟨hn, rfl⟩, d, d, ⟨rfl, rfl⟩, ?_⟩
    rw [he]
    simp only [commits_bind, commits_require, commits_set]
    exact ⟨(), d, ⟨hfresh, rfl⟩, trivial⟩

-- The candidates of a request once one of them is recorded: the second one conflicts with the rest.
def storedCandidates (d : RefundRequestDetail) (input : RefundCorrelationCandidateInput)
    (row : RefundCorrelationCandidate) : Table String RefundCorrelationCandidate :=
  let candidates := d.candidates.insert input.stripeRefundId (input.merged row)
  if candidates.entries.length > 1 then candidates.map conflicted else candidates

def storedResult (d : RefundRequestDetail) (input : RefundCorrelationCandidateInput)
    (row : RefundCorrelationCandidate) : RefundCorrelationCandidateResult :=
  let candidateCount := (d.candidates.insert input.stripeRefundId (input.merged row)).entries.length
  {
    candidateCount
    state := if candidateCount > 1 ∧ (input.merged row).state = .pending then .conflict
      else (input.merged row).state
  }

theorem check_eq_ok {refundId : String} {row row' : RefundCorrelationCandidate} :
    row.check refundId = .ok row' ↔ row' = row ∧ row.check refundId = .ok row := by
  simp only [RefundCorrelationCandidate.check, ite_raise_eq_ok, Except.ok.injEq]
  grind

theorem commits_updateCandidate {input : RefundCorrelationCandidateInput}
    {row : RefundCorrelationCandidate} {r : RefundCorrelationCandidateResult} :
    (updateCandidate input row).Commits d r d' ↔
      input.tupleAgrees row ∧
      (input.merged row).check input.stripeRefundId = .ok (input.merged row) ∧
      r = storedResult d input row ∧
      d' = { d with candidates := storedCandidates d input row } := by
  simp only [updateCandidate, conflictPendingCandidates, commits_bind, commits_get, commits_require,
    commits_fromExcept, commits_set, commits_ite, commits_pure, commits_modify]
  constructor
  · rintro ⟨_, _, ⟨hagree, rfl⟩, _, _, ⟨rfl, rfl⟩, _, _, ⟨hcheck, rfl⟩, _, _, rfl, h⟩
    obtain ⟨rfl, hcheck⟩ := check_eq_ok.mp hcheck
    refine ⟨hagree, hcheck, ?_⟩
    rcases h with ⟨hcount, _, _, rfl, rfl, rfl⟩ | ⟨hcount, rfl, rfl⟩ <;>
      simp [storedResult, storedCandidates, hcount]
  · rintro ⟨hagree, hcheck, rfl, rfl⟩
    refine ⟨(), d, ⟨hagree, rfl⟩, d, d, ⟨rfl, rfl⟩, _, d, ⟨hcheck, rfl⟩, (), _, rfl, ?_⟩
    by_cases hcount : (d.candidates.insert input.stripeRefundId (input.merged row)).entries.length > 1
    · exact .inl ⟨hcount, (), _, rfl, by simp [storedResult, storedCandidates, hcount]⟩
    · exact .inr ⟨hcount, by simp [storedResult, storedCandidates, hcount]⟩

theorem commits_recordRefundCorrelationCandidate {input : RefundCorrelationCandidateInput}
    {r : RefundCorrelationCandidateResult} :
    (recordRefundCorrelationCandidate input).Commits d r d' ↔
      ∃ row,
        (d.candidates.find? input.stripeRefundId = some row ∨
          d.candidates.find? input.stripeRefundId = none ∧ row = input.created ∧
            input.created.check input.stripeRefundId = .ok input.created) ∧
        input.tupleAgrees row ∧
        (input.merged row).check input.stripeRefundId = .ok (input.merged row) ∧
        r = storedResult d input row ∧
        d' = { d with candidates := storedCandidates d input row } := by
  simp only [recordRefundCorrelationCandidate, commits_bind, commits_get, exists_and_left,
    exists_eq_left, and_assoc]
  cases hf : d.candidates.find? input.stripeRefundId with
  | some row => simp [commits_updateCandidate]
  | none     =>
    simp only [commits_bind, commits_fromExcept, commits_updateCandidate]
    constructor
    · rintro ⟨_, _, ⟨hcreated, rfl⟩, h⟩
      obtain ⟨rfl, hcreated⟩ := check_eq_ok.mp hcreated
      exact ⟨_, .inr ⟨trivial, rfl, hcreated⟩, h⟩
    · rintro ⟨row, ⟨⟨⟩⟩ | ⟨-, rfl, hcreated⟩, h⟩
      exact ⟨_, d, ⟨hcreated, rfl⟩, h⟩

end RequestRepository
end RefundDesk
