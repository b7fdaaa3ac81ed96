import RefundDesk.Repositories.RequestSpecs

namespace RefundDesk

open Transaction RequestRepository

-- A call of one of the methods that read and write the rows of one request.
inductive RequestCall
  | recordDecision (attestation : Option ApprovalAttestation) (accountId : Option String)
      (decision : ApprovalDecision) (time : Timestamp)
  | cancelPendingRequest (requesterUserId : String) (time : Timestamp)
  | expirePendingRequest (time : Timestamp)
  | claimExecution (tenant : Tenant) (installation : Option StripeInstallation) (time : Timestamp)
  | resumeExecutionAfterAbsence (time : Timestamp)
  | markEffectPossible
  | markReconciliationRequired
  | markAbsenceProven
  | markCertainAbsenceWhileExecuting
  | markTerminalFailureAfterAbsence (time : Timestamp)
  | markStale (time : Timestamp)
  | markFailedWithoutEffect (time : Timestamp)
  | markEffectForReconciliation
  | ensureExecution (input : EnsureExecutionInput)
  | beginExecutionAttempt (attemptNumber : Nat) (time : Timestamp)
  | finishExecutionAttempt (input : FinishExecutionAttemptInput)
  | markRefundIdentified (input : IdentifiedRefundInput)
  | recordRefundCorrelationCandidate (input : RefundCorrelationCandidateInput)
  | markRefundCorrelationCandidateLinked (refundId : String) (state : LinkedState)
      (time : Timestamp)
  | conflictPendingCandidates

namespace RequestCall

-- The transaction of a call, with whether it changed the row that it was made for.
def run (env : TriggerEnv) : RequestCall → RequestTransaction Bool
  | recordDecision attestation accountId decision time => do
    let _ ← RequestRepository.recordDecision env attestation accountId decision time
    pure true
  | cancelPendingRequest requesterUserId time =>
    RequestRepository.cancelPendingRequest env requesterUserId time
  | expirePendingRequest time => RequestRepository.expirePendingRequest env time
  | claimExecution tenant installation time =>
    RequestRepository.claimExecution env tenant installation time
  | resumeExecutionAfterAbsence time => RequestRepository.resumeExecutionAfterAbsence env time
  | markEffectPossible => RequestRepository.markEffectPossible env
  | markReconciliationRequired => RequestRepository.markReconciliationRequired env
  | markAbsenceProven => RequestRepository.markAbsenceProven env
  | markCertainAbsenceWhileExecuting => RequestRepository.markCertainAbsenceWhileExecuting env
  | markTerminalFailureAfterAbsence time =>
    RequestRepository.markTerminalFailureAfterAbsence env time
  | markStale time => RequestRepository.markStale env time
  | markFailedWithoutEffect time => RequestRepository.markFailedWithoutEffect env time
  | markEffectForReconciliation => RequestRepository.markEffectForReconciliation env
  | ensureExecution input => do
    let _ ← RequestRepository.ensureExecution env input
    pure true
  | beginExecutionAttempt attemptNumber time => do
    RequestRepository.beginExecutionAttempt attemptNumber time
    pure true
  | finishExecutionAttempt input => RequestRepository.finishExecutionAttempt input
  | markRefundIdentified input => RequestRepository.markRefundIdentified env input
  | recordRefundCorrelationCandidate input => do
    let _ ← RequestRepository.recordRefundCorrelationCandidate input
    pure true
  | markRefundCorrelationCandidateLinked refundId state time =>
    RequestRepository.markRefundCorrelationCandidateLinked refundId state time
  | conflictPendingCandidates => do
    RequestRepository.conflictPendingCandidates
    pure true

end RequestCall

namespace RefundRequest

-- The row of a request that ends: it gets its terminal timestamp and releases its guard.
def ended (row : RefundRequest) (status : WorkflowStatus) (effect : EffectState)
    (time : Timestamp) : RefundRequest :=
  { row with
    workflowStatus         := status
    effectState            := effect
    terminalAt             := some time
    paymentGuardReleasedAt := some time
    version                := row.version + 1
  }

def moved (row : RefundRequest) (status : WorkflowStatus) (effect : EffectState) :
    RefundRequest :=
  { row with workflowStatus := status, effectState := effect, version := row.version + 1 }

-- What a call can make of the row of a request, before the triggers see it.
inductive Move (row : RefundRequest) : RequestCall → RefundRequest → Prop
  | rejected {attestation accountId decision time} :
    row.workflowStatus = .pendingApproval → row.effectState = .notStarted →
    Move row (.recordDecision attestation accountId decision time)
      (row.ended .rejected row.effectState time)
  | approved {attestation accountId decision time} :
    row.workflowStatus = .pendingApproval →
    Move row (.recordDecision attestation accountId decision time)
      { row.moved .approved row.effectState with approvedAt := some time }
  | canceled {user time} :
    row.workflowStatus = .pendingApproval → row.effectState = .notStarted →
    Move row (.cancelPendingRequest user time) (row.ended .canceled row.effectState time)
  | expired {time} :
    row.workflowStatus = .pendingApproval → row.effectState = .notStarted →
    Move row (.expirePendingRequest time) (row.ended .expired row.effectState time)
  | claimed {tenant installation time} :
    row.workflowStatus = .approved → row.effectState = .notStarted →
    row.paymentGuardReleasedAt = none →
    Move row (.claimExecution tenant installation time)
      { row.moved .executing row.effectState with executionStartedAt := some time }
  | resumed {time} :
    row.workflowStatus = .reconciliationRequired → row.effectState = .absenceProven →
    Move row (.resumeExecutionAfterAbsence time)
      { row.moved .executing row.effectState with executionStartedAt := some time }
  | possible :
    row.workflowStatus = .executing → row.effectState ∈ [.notStarted, .absenceProven] →
    Move row .markEffectPossible (row.moved row.workflowStatus .possible)
  | reconciled :
    row.workflowStatus = .executing → row.paymentGuardReleasedAt = none →
    Move row .markReconciliationRequired (row.moved .reconciliationRequired row.effectState)
  | absent :
    row.workflowStatus = .reconciliationRequired → row.effectState = .possible →
    Move row .markAbsenceProven (row.moved row.workflowStatus .absenceProven)
  | certainlyAbsent :
    row.workflowStatus = .executing → row.effectState = .possible →
    Move row .markCertainAbsenceWhileExecuting (row.moved row.workflowStatus .absenceProven)
  | failed {time} :
    row.workflowStatus = .executing → row.effectState ∈ [.notStarted, .absenceProven] →
    Move row (.markTerminalFailureAfterAbsence time)
      (row.ended .failedTerminal .absenceProven time)
  | stale {time} :
    row.workflowStatus ∈ [.pendingApproval, .approved] → row.effectState = .notStarted →
    row.paymentGuardReleasedAt = none →
    Move row (.markStale time) (row.ended .stale .absenceProven time)
  | failedWithoutEffect {time} :
    row.workflowStatus = .executing → row.effectState ∈ [.notStarted, .absenceProven] →
    row.paymentGuardReleasedAt = none →
    Move row (.markFailedWithoutEffect time) (row.ended .failedTerminal .absenceProven time)
  | guarded :
    row.workflowStatus = .executing → row.effectState ∈ [.possible, .identified] →
    row.paymentGuardReleasedAt = none →
    Move row .markEffectForReconciliation (row.moved .reconciliationRequired row.effectState)

-- What an observation of the linked refund can make of the row of a request.
inductive Follow (row : RefundRequest) (input : IdentifiedRefundInput) : RefundRequest → Prop
  | corrected :
    row.workflowStatus = .succeeded → row.effectState = .identified →
    input.stripeRefundStatus = some .failed ∨ input.stripeRefundStatus = some .canceled →
    Follow row input (row.moved .failedTerminal .absenceProven)
  | preserved :
    row.workflowStatus = .reconciliationRequired → row.effectState ∈ [.possible, .identified] →
    input.reconciliationResolution = .preserve →
    Follow row input (row.moved row.workflowStatus .identified)
  | converged :
    row.workflowStatus ∈ [.executing, .reconciliationRequired] →
    row.effectState ∈ [.possible, .identified] →
    ¬(row.workflowStatus = .reconciliationRequired ∧
      input.reconciliationResolution = .preserve) →
    Follow row input (followStatus input.stripeRefundStatus input.observedAt row)

end RefundRequest

-- What the rest of `markRefundIdentified` does once it has recorded the observation.
inductive Followed (env : TriggerEnv) (input : IdentifiedRefundInput) (locked : RefundExecution)
    (d : RefundRequestDetail) : Bool → RefundRequestDetail → Prop
  | skipped :
    d.request.workflowStatus ∉ [.executing, .reconciliationRequired] →
    ¬(d.request.workflowStatus = .succeeded ∧ locked.stripeRefundStatus = some .succeeded ∧
      (input.stripeRefundStatus = some .failed ∨ input.stripeRefundStatus = some .canceled)) →
    Followed env input locked d true d
  | refused :
    (d.request.workflowStatus = .succeeded → d.request.effectState ≠ .identified) →
    Followed env input locked d false d
  | once {new} :
    d.request.Follow input new → RefundRequest.Accepted env d new →
    Followed env input locked d true (d.replaceRow (d.request.stamped env new))
  | twice {possible d₁ new} :
    d.request.workflowStatus = .reconciliationRequired →
    d.request.effectState ∈ [.notStarted, .absenceProven] →
    possible = d.request.moved d.request.workflowStatus .possible →
    RefundRequest.Accepted env d possible →
    d₁ = d.replaceRow (d.request.stamped env possible) →
    d₁.request.Follow input new → RefundRequest.Accepted env d₁ new →
    Followed env input locked d true (d₁.replaceRow (d₁.request.stamped env new))

-- What a call can do to the rows of a request.
inductive Outcome (env : TriggerEnv) (d : RefundRequestDetail) :
    RequestCall → Bool → RefundRequestDetail → Prop
  | refused {call} : Outcome env d call false d
  | moved {call new} :
    d.request.Move call new → RefundRequest.Accepted env d new →
    Outcome env d call true (d.replaceRow (d.request.stamped env new))
  | noted {attestation accountId decision time} :
    env.approverEnabled decision.approverUserId →
    Outcome env d (.recordDecision attestation accountId decision time) true
      { d with decisions := d.decisions ++ [decision] }
  | decided {attestation accountId decision time d₁ new} :
    env.approverEnabled decision.approverUserId →
    d₁ = { d with decisions := d.decisions ++ [decision] } →
    d.request.Move (.recordDecision attestation accountId decision time) new →
    RefundRequest.Accepted env d₁ new →
    Outcome env d (.recordDecision attestation accountId decision time) true
      (d₁.replaceRow (d.request.stamped env new))
  | ensured {input execution} :
    d.execution = some execution → Outcome env d (.ensureExecution input) true d
  | inserted {input} :
    d.execution = none → RefundExecution.insert env d.request input.created = .ok input.created →
    Outcome env d (.ensureExecution input) true { d with execution := some input.created }
  | begun {attemptNumber time execution attempts} :
    d.execution = some execution →
    Outcome env d (.beginExecutionAttempt attemptNumber time) true
      { d with execution := some { execution with attempts := attempts } }
  | finished {input b execution attempts} :
    d.execution = some execution →
    Outcome env d (.finishExecutionAttempt input) b
      { d with execution := some { execution with attempts := attempts } }
  | unapplied {input locked} :
    d.execution = some locked → linkAgrees locked input →
    shouldApplyRefundObservation locked input = false →
    Outcome env d (.markRefundIdentified input) true d
  | identified {input locked b d'} :
    d.execution = some locked → linkAgrees locked input →
    shouldApplyRefundObservation locked input = true → isRefundId input.stripeRefundId →
    env.refundLinkedElsewhere input.stripeRefundId = false →
    Followed env input locked (recorded d input locked) b d' →
    Outcome env d (.markRefundIdentified input) b d'
  | candidate {input row} :
    input.tupleAgrees row →
    (input.merged row).check input.stripeRefundId = .ok (input.merged row) →
    (d.candidates.find? input.stripeRefundId = some row ∨
      d.candidates.find? input.stripeRefundId = none ∧ row = input.created) →
    Outcome env d (.recordRefundCorrelationCandidate input) true
      { d with candidates := storedCandidates d input row }
  | candidateLinked {refundId state time row} :
    d.candidates.find? refundId = some row → row.state ∈ state.sourceStates →
    Outcome env d (.markRefundCorrelationCandidateLinked refundId state time) true { d with
      candidates := d.candidates.insert refundId { row with
        state := state.toCandidateState, resolvedAt := some time
      }
    }
  | candidatesConflicted :
    Outcome env d .conflictPendingCandidates true
      { d with candidates := d.candidates.map conflicted }

-- The request is linked to the refund, or has just been identified with it.
def Identifies (d : RefundRequestDetail) (refundId : String) : Prop :=
  d.linkedRefundId = some refundId ∨ ∃ env d₀ input,
    Outcome env d₀ (.markRefundIdentified input) true d ∧ input.stripeRefundId = refundId

namespace RequestCall

variable {env : TriggerEnv} {d d' : RefundRequestDetail} {b : Bool}

theorem outcome_of_updateRequest {call : RequestCall} {guard : RefundRequest → Prop}
    [DecidablePred guard] {data : RefundRequest → RefundRequest}
    (h : (updateRequest env (fun row => guard row) data).Commits d b d')
    (hmove : guard d.request → d.request.Move call (data d.request)) : Outcome env d call b d' := by
  rcases commits_updateRequest.mp h with ⟨_, rfl, rfl⟩ | ⟨hg, rfl, ha, rfl⟩
  · exact .refused
  · exact .moved (hmove (of_decide_eq_true hg)) ha

theorem approverEnabled_of_validateDecision {attestation : Option ApprovalAttestation}
    {accountId : Option String} {row : RefundRequest} {decision : ApprovalDecision} {u : Unit}
    (h : validateDecision env attestation accountId row decision = .ok u) :
    env.approverEnabled decision.approverUserId := by
  unfold validateDecision at h
  split_ifs at h <;> simp_all

-- The row is updated under the decision that has just been stored.
theorem outcome_of_recordDecision {attestation : Option ApprovalAttestation}
    {accountId : Option String} {decision : ApprovalDecision} {time : Timestamp}
    {r : DecisionResult}
    (h : (RequestRepository.recordDecision env attestation accountId decision time).Commits d r d') :
    Outcome env d (.recordDecision attestation accountId decision time) true d' := by
  simp only [RequestRepository.recordDecision, commits_bind, commits_get, commits_set, commits_ite,
    commits_require, commits_fromExcept, commits_updateRequest, commits_pure] at h
  obtain ⟨_, _, ⟨rfl, rfl⟩, _, _, ⟨hv, rfl⟩, _, _, ⟨_, rfl⟩, _, _, rfl, h⟩ := h
  have henabled := approverEnabled_of_validateDecision hv
  rcases h with ⟨_, _, _, hr, _, rfl⟩ | ⟨_, _, _, ha, _, rfl⟩
  · rcases hr with ⟨_, _, rfl⟩ | ⟨hg, _, ha, rfl⟩
    · exact .noted henabled
    · have hg := of_decide_eq_true hg
      exact .decided henabled rfl (.rejected hg.1 hg.2) ha
  · rcases ha with ⟨_, _, rfl⟩ | ⟨hg, _, ha, rfl⟩
    · exact .noted henabled
    · exact .decided henabled rfl (.approved (of_decide_eq_true hg)) ha

theorem followed_of_updateRequest {input : IdentifiedRefundInput} {locked : RefundExecution}
    {guard : RefundRequest → Prop} [DecidablePred guard] {data : RefundRequest → RefundRequest}
    (h : (updateRequest env (fun row => guard row) data).Commits d b d')
    (hw : d.request.workflowStatus = .succeeded → guard d.request ∨ d.request.effectState ≠ .identified)
    (hfollow : guard d.request → d.request.Follow input (data d.request)) :
    Followed env input locked d b d' := by
  rcases commits_updateRequest.mp h with ⟨hg, rfl, rfl⟩ | ⟨hg, rfl, ha, rfl⟩
  · exact .refused fun hs => (hw hs).resolve_left (of_decide_eq_false hg)
  · exact .once (hfollow (of_decide_eq_true hg)) ha

theorem followed_of_preserve {input : IdentifiedRefundInput} {locked : RefundExecution}
    (hw : d.request.workflowStatus = .reconciliationRequired)
    (hp : input.reconciliationResolution = .preserve)
    (h : (preserveReconciliation env d.request).Commits d b d') :
    Followed env input locked d b d' := by
  simp only [preserveReconciliation, commits_bind, commits_ite, commits_pure] at h
  rcases h with ⟨he, _, _, h₁, h₂⟩ | ⟨-, _, _, ⟨rfl, rfl⟩, ⟨⟨⟩, -⟩ | ⟨-, h₂⟩⟩
  · rcases commits_updateRequest.mp h₁ with ⟨_, rfl, rfl⟩ | ⟨hg, rfl, ha, rfl⟩
    · obtain ⟨-, rfl, rfl⟩ | ⟨hne, -⟩ := h₂
      · exact .refused fun hs => by simp [hw] at hs
      · exact absurd rfl hne
    · obtain ⟨⟨⟩, -⟩ | ⟨-, h₂⟩ := h₂
      have hguard := (of_decide_eq_true hg).2.2
      rcases commits_updateRequest.mp h₂ with ⟨hg₂, -⟩ | ⟨hg₂, rfl, ha₂, rfl⟩
      · simp [RefundRequestDetail.replaceRow, hw, hguard] at hg₂
      · have hg₂ := of_decide_eq_true hg₂
        exact .twice hw (by simpa using he) rfl ha rfl (.preserved hg₂.1 hg₂.2.1 hp) ha₂
  · exact followed_of_updateRequest h₂ (by simp [hw]) fun hg => .preserved hg.1 hg.2.1 hp

theorem followed_of_followObservation {input : IdentifiedRefundInput} {locked : RefundExecution}
    (h : (followObservation env input d.request locked).Commits d b d') :
    Followed env input locked d b d' := by
  unfold followObservation at h
  split_ifs at h with hcorrect hw hp
  · simp only [correctSucceededRequest] at h
    exact followed_of_updateRequest h (by grind) fun hg => .corrected hg.1 hg.2 hcorrect.2.2
  · exact followed_of_preserve hp.1 hp.2 h
  · simp only [convergeRequest] at h
    exact followed_of_updateRequest h (by grind) fun hg => .converged hg.1 hg.2 hp
  · obtain ⟨rfl, rfl⟩ := commits_pure.mp h
    exact .skipped hw hcorrect

theorem outcome_of_run {call : RequestCall} (h : (call.run env).Commits d b d') :
    Outcome env d call b d' := by
  cases call with
  | recordDecision attestation accountId decision time =>
    simp only [run, commits_bind, commits_pure] at h
    obtain ⟨_, _, h, rfl, rfl⟩ := h
    exact outcome_of_recordDecision h
  | cancelPendingRequest user time =>
    simp only [run, RequestRepository.cancelPendingRequest] at h
    exact outcome_of_updateRequest h fun hg => .canceled hg.2.1 hg.2.2
  | expirePendingRequest time =>
    simp only [run, RequestRepository.expirePendingRequest] at h
    exact outcome_of_updateRequest h fun hg => .expired hg.1 hg.2
  | claimExecution tenant installation time =>
    simp only [run, RequestRepository.claimExecution] at h
    exact outcome_of_updateRequest h fun hg => .claimed hg.1 hg.2.1 hg.2.2.1
  | resumeExecutionAfterAbsence time =>
    simp only [run, RequestRepository.resumeExecutionAfterAbsence] at h
    exact outcome_of_updateRequest h fun hg => .resumed hg.1 hg.2
  | markEffectPossible =>
    simp only [run, RequestRepository.markEffectPossible] at h
    exact outcome_of_updateRequest h fun hg => .possible hg.1 hg.2
  | markReconciliationRequired =>
    simp only [run, RequestRepository.markReconciliationRequired] at h
    exact outcome_of_updateRequest h fun hg => .reconciled hg.1 hg.2
  | markAbsenceProven =>
    simp only [run, RequestRepository.markAbsenceProven] at h
    exact outcome_of_updateRequest h fun hg => .absent hg.1 hg.2
  | markCertainAbsenceWhileExecuting =>
    simp only [run, RequestRepository.markCertainAbsenceWhileExecuting] at h
    exact outcome_of_updateRequest h fun hg => .certainlyAbsent hg.1 hg.2
  | markTerminalFailureAfterAbsence time =>
    simp only [run, RequestRepository.markTerminalFailureAfterAbsence] at h
    exact outcome_of_updateRequest h fun hg => .failed hg.1 hg.2
  | markStale time =>
    simp only [run, RequestRepository.markStale] at h
    exact outcome_of_updateRequest h fun hg => .stale hg.1 hg.2.1 hg.2.2
  | markFailedWithoutEffect time =>
    simp only [run, RequestRepository.markFailedWithoutEffect] at h
    exact outcome_of_updateRequest h fun hg => .failedWithoutEffect hg.1 hg.2.1 hg.2.2
  | markEffectForReconciliation =>
    simp only [run, RequestRepository.markEffectForReconciliation] at h
    exact outcome_of_updateRequest h fun hg => .guarded hg.1 hg.2.1 hg.2.2
  | ensureExecution input =>
    simp only [run, commits_bind, commits_pure] at h
    obtain ⟨execution, _, h, rfl, rfl⟩ := h
    rcases commits_ensureExecution.mp h with ⟨he, rfl⟩ | ⟨he, hi, -, rfl⟩
    · exact .ensured he
    · exact .inserted he hi
  | beginExecutionAttempt attemptNumber time =>
    simp only [run, commits_bind, commits_pure] at h
    obtain ⟨_, _, h, rfl, rfl⟩ := h
    obtain ⟨execution, he, -, -, rfl⟩ := commits_beginExecutionAttempt.mp h
    exact .begun he
  | finishExecutionAttempt input =>
    simp only [run, RequestRepository.finishExecutionAttempt, commits_bind, commits_get] at h
    obtain ⟨_, _, ⟨rfl, rfl⟩, h⟩ := h
    split at h
    case h_1 =>
      obtain ⟨rfl, rfl⟩ := commits_pure.mp h
      exact .refused
    case h_2 execution he =>
      simp only [commits_bind, commits_set, commits_pure] at h
      obtain ⟨_, _, rfl, rfl, rfl⟩ := h
      exact .finished he
  | markRefundIdentified input =>
    rcases commits_markRefundIdentified.mp h with ⟨-, rfl, rfl⟩ | ⟨locked, he, h⟩
    · exact .refused
    · rcases h with ⟨-, rfl, rfl⟩ | ⟨hl, ha, rfl, rfl⟩ | ⟨hl, ha, hid, hfree, h⟩
      · exact .refused
      · exact .unapplied he hl ha
      · exact .identified he hl ha hid hfree (followed_of_followObservation h)
  | recordRefundCorrelationCandidate input =>
    simp only [run, commits_bind, commits_pure] at h
    obtain ⟨_, _, h, rfl, rfl⟩ := h
    obtain ⟨row, hrow, hagree, hcheck, -, rfl⟩ := commits_recordRefundCorrelationCandidate.mp h
    exact .candidate hagree hcheck (hrow.imp id fun h => ⟨h.1, h.2.1⟩)
  | markRefundCorrelationCandidateLinked refundId state time =>
    simp only [run, RequestRepository.markRefundCorrelationCandidateLinked, commits_bind,
      commits_get] at h
    obtain ⟨_, _, ⟨rfl, rfl⟩, h⟩ := h
    split at h
    case h_1 =>
      obtain ⟨rfl, rfl⟩ := commits_pure.mp h
      exact .refused
    case h_2 row he =>
      simp only [commits_ite, commits_bind, commits_set, commits_pure] at h
      rcases h with ⟨hstate, _, _, rfl, rfl, rfl⟩ | ⟨-, rfl, rfl⟩
      · exact .candidateLinked he hstate
      · exact .refused
  | conflictPendingCandidates =>
    simp only [run, RequestRepository.conflictPendingCandidates, commits_bind, commits_modify,
      commits_pure] at h
    obtain ⟨_, _, rfl, rfl, rfl⟩ := h
    exact .candidatesConflicted

end RequestCall
end RefundDesk
