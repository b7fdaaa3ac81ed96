import Mathlib.Algebra.Order.Ring.Int
import Mathlib.Data.List.Induction
import Mathlib.Data.List.Nodup
import Mathlib.Tactic.SplitIfs
import RefundDesk.Domain.Workflow

namespace RefundDesk

inductive ApprovalDecisionKind
  | approve
  | reject
  deriving DecidableEq, Repr

namespace ApprovalWorkflow

structure Decision where
  approverId : String
  decision   : ApprovalDecisionKind
  decidedAt  : Timestamp
  deriving DecidableEq, Repr

end ApprovalWorkflow

-- The fields of `RefundWorkflow` that a decision reads and writes, with the ones before.
structure ApprovalWorkflow extends RefundWorkflow where
  requesterId       : String
  requiredApprovals : Int
  expiresAt         : Timestamp
  decisions         : List ApprovalWorkflow.Decision
  deriving DecidableEq, Repr

-- `RecordDecisionInput` without the workflow
structure DecisionCall where
  approverId             : String
  decision               : ApprovalDecisionKind
  decidedAt              : Timestamp
  rejectionJustification : Option String
  deriving DecidableEq, Repr

namespace ApprovalWorkflow

def validateRequiredApprovals (requiredApprovals : Int) : Except DomainError Unit :=
  if 9007199254740991 < requiredApprovals ∨ requiredApprovals < 1 then
    .error ⟨.invalidQuorum, "At least one human approval is required"⟩
  else
    .ok ()

def approvals (decisions : List Decision) : Nat :=
  decisions.countP (·.decision = .approve)

def decisionOf (call : DecisionCall) : Decision :=
  ⟨call.approverId, call.decision, call.decidedAt⟩

def decisionTarget (requiredApprovals : Int) (call : DecisionCall) (decisions : List Decision) :
    WorkflowStatus :=
  if call.decision = .reject then .rejected
  else if requiredApprovals ≤ approvals decisions then .approved
  else .pendingApproval

def recordDecision (workflow : ApprovalWorkflow) (call : DecisionCall) :
    Except DomainError ApprovalWorkflow :=
  if workflow.status ≠ .pendingApproval then
    .error ⟨.invalidWorkflowTransition, "Only a pending request can receive a decision"⟩
  else if workflow.expiresAt ≤ call.decidedAt then
    .error ⟨.requestExpired, "The request has expired"⟩
  else if workflow.requesterId = call.approverId then
    .error ⟨.selfApproval, "The requester cannot approve their own request"⟩
  else if workflow.decisions.any (·.approverId = call.approverId) then
    .error ⟨.duplicateDecision, "An approver can decide a request only once"⟩
  else if call.decision = .reject ∧
      call.rejectionJustification.all (fun justification => codeUnits (trim justification) < 10) then
    .error ⟨.rejectionJustificationRequired,
      "A rejection justification of at least 10 characters is required"⟩
  else do
    let decisions := workflow.decisions ++ [decisionOf call]
    let target := decisionTarget workflow.requiredApprovals call decisions
    let status ← transitionWorkflowStatus workflow.status target {
      effectState := workflow.effectState
    }
    pure { workflow with decisions, status }

-- The caller keeps the workflow of a call that throws.
def afterCall (workflow : ApprovalWorkflow) (call : DecisionCall) : ApprovalWorkflow :=
  match workflow.recordDecision call with
  | .ok workflow' => workflow'
  | .error _      => workflow

def afterCalls (workflow : ApprovalWorkflow) (calls : List DecisionCall) : ApprovalWorkflow :=
  calls.foldl afterCall workflow

section Votes

variable (workflow : ApprovalWorkflow)

-- A decision in time of someone other than the requester, with a reason if it is a rejection.
structure Admissible (call : DecisionCall) : Prop where
  inTime    : call.decidedAt < workflow.expiresAt
  distinct  : call.approverId ≠ workflow.requesterId
  justified : call.decision = .reject →
    ∃ justification ∈ call.rejectionJustification, 10 ≤ codeUnits (trim justification)

instance (call : DecisionCall) : Decidable (workflow.Admissible call) :=
  decidable_of_iff (call.decidedAt < workflow.expiresAt ∧ call.approverId ≠ workflow.requesterId ∧
      (call.decision = .reject → ∃ justification ∈ call.rejectionJustification,
        10 ≤ codeUnits (trim justification)))
    ⟨fun h => ⟨h.1, h.2.1, h.2.2⟩, fun h => ⟨h.1, h.2, h.3⟩⟩

-- The first admissible call of an approver is a vote.
def Counts (votes : List DecisionCall) (call : DecisionCall) : Prop :=
  workflow.Admissible call ∧ ∀ vote ∈ votes, vote.approverId ≠ call.approverId

instance (votes : List DecisionCall) (call : DecisionCall) :
    Decidable (workflow.Counts votes call) :=
  inferInstanceAs (Decidable (_ ∧ _))

def votes (calls : List DecisionCall) : List DecisionCall :=
  calls.foldl (fun votes call => if workflow.Counts votes call then votes ++ [call] else votes) []

-- The votes decide nothing yet.
def Undecided (votes : List DecisionCall) : Prop :=
  (∀ vote ∈ votes, vote.decision = .approve) ∧ votes.length < workflow.requiredApprovals

end Votes

section Steps

variable {workflow workflow' : ApprovalWorkflow} {call : DecisionCall}

-- The workflow after a decision on a pending request.
def decided (workflow : ApprovalWorkflow) (call : DecisionCall) : ApprovalWorkflow :=
  let decisions := workflow.decisions ++ [decisionOf call]
  { workflow with decisions, status := decisionTarget workflow.requiredApprovals call decisions }

theorem transition_decisionTarget {requiredApprovals : Int} {decisions : List Decision}
    {effectState : EffectState} :
    transitionWorkflowStatus .pendingApproval (decisionTarget requiredApprovals call decisions)
      { effectState := effectState } = .ok (decisionTarget requiredApprovals call decisions) := by
  unfold decisionTarget
  split_ifs <;> rfl

-- A decision is recorded exactly if the request is pending and the call is admissible and the first
-- one of its approver.
theorem recordDecision_eq_ok : workflow.recordDecision call = .ok workflow' ↔
    workflow.status = .pendingApproval ∧ workflow.Admissible call ∧
      (∀ decision ∈ workflow.decisions, decision.approverId ≠ call.approverId) ∧
      workflow' = workflow.decided call := by
  have hreason : (call.decision = .reject ∧ call.rejectionJustification.all
        fun justification => codeUnits (trim justification) < 10) ↔
      ¬(call.decision = .reject → ∃ justification ∈ call.rejectionJustification,
        10 ≤ codeUnits (trim justification)) := by
    cases call.rejectionJustification <;> simp
  constructor
  · intro h
    unfold recordDecision at h
    split_ifs at h with hstatus htime hself hagain hjustified
    rw [not_not] at hstatus
    rw [hreason, not_not] at hjustified
    dsimp only at h
    rw [hstatus, transition_decisionTarget] at h
    refine ⟨hstatus, ⟨not_le.mp htime, Ne.symm hself, hjustified⟩, by simpa using hagain, ?_⟩
    exact (Except.ok.inj h).symm
  · rintro ⟨hstatus, hadmissible, hfirst, rfl⟩
    unfold recordDecision
    rw [if_neg (not_not.mpr hstatus), if_neg (not_le.mpr hadmissible.inTime),
      if_neg (Ne.symm hadmissible.distinct), if_neg (by simpa using hfirst),
      if_neg (hreason.not.mpr (not_not.mpr hadmissible.justified))]
    dsimp only
    rw [hstatus, transition_decisionTarget]
    rfl

theorem afterCall_of_not_pending (h : workflow.status ≠ .pendingApproval) :
    workflow.afterCall call = workflow := by
  unfold afterCall
  split
  case h_1 workflow' hok => exact absurd (recordDecision_eq_ok.mp hok).1 h
  case h_2 => rfl

end Steps

section Runs

variable {workflow w : ApprovalWorkflow} {vs calls : List DecisionCall} {call : DecisionCall}

theorem votes_concat : workflow.votes (calls ++ [call]) =
    if workflow.Counts (workflow.votes calls) call then workflow.votes calls ++ [call]
    else workflow.votes calls := by
  rw [votes, List.foldl_append]
  rfl

theorem afterCalls_concat :
    workflow.afterCalls (calls ++ [call]) = (workflow.afterCalls calls).afterCall call := by
  simp [afterCalls, List.foldl_append]

-- What is recorded of the votes on a request.
structure Tallied (workflow : ApprovalWorkflow) (vs : List DecisionCall) (w : ApprovalWorkflow) :
    Prop where
  kept      : w = { workflow with decisions := w.decisions, status := w.status }
  pending   : w.status = .pendingApproval ↔ workflow.Undecided vs
  decisions : workflow.Undecided vs → w.decisions = vs.map decisionOf
  distinct  : (w.decisions.map (·.approverId)).Nodup
  others    : ∀ decision ∈ w.decisions, decision.approverId ≠ workflow.requesterId

theorem Tallied.admissible_iff (h : Tallied workflow vs w) :
    w.Admissible call ↔ workflow.Admissible call := by
  rw [h.kept]
  exact ⟨fun h => ⟨h.1, h.2, h.3⟩, fun h => ⟨h.1, h.2, h.3⟩⟩

theorem Tallied.requiredApprovals (h : Tallied workflow vs w) :
    w.requiredApprovals = workflow.requiredApprovals := by
  rw [h.kept]

-- A vote on an undecided request is recorded.
theorem Tallied.afterCall_of_counts (h : Tallied workflow vs w) (hopen : workflow.Undecided vs)
    (hcounts : workflow.Counts vs call) : w.afterCall call = w.decided call := by
  have hok : w.recordDecision call = .ok (w.decided call) := by
    rw [recordDecision_eq_ok]
    refine ⟨h.pending.mpr hopen, h.admissible_iff.mpr hcounts.1, ?_, rfl⟩
    rw [h.decisions hopen]
    rintro decision hdecision
    obtain ⟨vote, hvote, rfl⟩ := List.mem_map.mp hdecision
    exact hcounts.2 vote hvote
  rw [afterCall, hok]

-- Any other call throws.
theorem Tallied.throws (h : Tallied workflow vs w)
    (hnot : ¬(workflow.Undecided vs ∧ workflow.Counts vs call)) :
    ∃ e, w.recordDecision call = .error e := by
  cases hcall : w.recordDecision call with
  | error e      => exact ⟨e, rfl⟩
  | ok workflow' =>
    obtain ⟨hpending, hadmissible, hfirst, -⟩ := recordDecision_eq_ok.mp hcall
    have hopen := h.pending.mp hpending
    refine absurd ⟨hopen, h.admissible_iff.mp hadmissible, fun vote hvote => ?_⟩ hnot
    refine hfirst (decisionOf vote) ?_
    rw [h.decisions hopen]
    exact List.mem_map_of_mem hvote

theorem Tallied.afterCall_of_not (h : Tallied workflow vs w)
    (hnot : ¬(workflow.Undecided vs ∧ workflow.Counts vs call)) : w.afterCall call = w := by
  obtain ⟨e, he⟩ := h.throws hnot
  rw [afterCall, he]

-- The votes of an undecided request are approvals.
theorem approvals_of_undecided (hopen : workflow.Undecided vs) (happrove : call.decision = .approve) :
    approvals (vs.map decisionOf ++ [decisionOf call]) = vs.length + 1 := by
  have hall : approvals (vs.map decisionOf) = vs.length := by
    rw [approvals, List.countP_map, List.countP_eq_length]
    intro vote hvote
    exact decide_eq_true (hopen.1 vote hvote)
  rw [approvals, List.countP_append, ← approvals, hall]
  simp [decisionOf, happrove]

theorem Tallied.status_decided (h : Tallied workflow vs w) (hopen : workflow.Undecided vs) :
    (w.decided call).status =
      if call.decision = .reject then .rejected
      else if workflow.requiredApprovals ≤ (vs.length + 1 : Nat) then .approved
      else .pendingApproval := by
  simp only [decided, decisionTarget, h.decisions hopen, h.requiredApprovals]
  cases hdecision : call.decision with
  | reject  => rfl
  | approve => rw [approvals_of_undecided hopen hdecision]

theorem Tallied.step (h : Tallied workflow vs w) :
    Tallied workflow (if workflow.Counts vs call then vs ++ [call] else vs) (w.afterCall call) := by
  by_cases hopen : workflow.Undecided vs
  case neg =>
    rw [h.afterCall_of_not fun hboth => hopen hboth.1]
    have hclosed : ¬workflow.Undecided (if workflow.Counts vs call then vs ++ [call] else vs) := by
      rintro ⟨happrove, hlength⟩
      split_ifs at happrove hlength
      · rw [List.length_append] at hlength
        exact hopen ⟨fun vote hvote => happrove vote (List.mem_append_left _ hvote), by omega⟩
      · exact hopen ⟨happrove, hlength⟩
    exact ⟨h.kept, iff_of_false (h.pending.not.mpr hopen) hclosed, fun ho => absurd ho hclosed,
      h.distinct, h.others⟩
  case pos =>
    by_cases hcounts : workflow.Counts vs call
    case neg =>
      rw [h.afterCall_of_not fun hboth => hcounts hboth.2, if_neg hcounts]
      exact h
    case pos =>
      rw [h.afterCall_of_counts hopen hcounts, if_pos hcounts]
      have hdecisions : (w.decided call).decisions = (vs ++ [call]).map decisionOf := by
        simp [decided, h.decisions hopen]
      refine ⟨?_, ?_, fun _ => hdecisions, ?_, ?_⟩
      · rw [h.kept]
        rfl
      · rw [h.status_decided hopen, Undecided, List.length_append, List.length_singleton]
        cases hdecision : call.decision with
        | reject  => simp [hdecision]
        | approve =>
          have happrove : ∀ vote ∈ vs ++ [call], vote.decision = .approve := by
            intro vote hvote
            rcases List.mem_append.mp hvote with hvote | hvote
            · exact hopen.1 vote hvote
            · rwa [List.mem_singleton.mp hvote]
          rw [if_neg (by decide)]
          by_cases hquorum : workflow.requiredApprovals ≤ (vs.length + 1 : Nat)
          · rw [if_pos hquorum]
            exact iff_of_false (by decide) fun hboth => absurd hboth.2 (not_lt.mpr hquorum)
          · rw [if_neg hquorum]
            exact iff_of_true rfl ⟨happrove, not_le.mp hquorum⟩
      · have hdistinct := h.distinct
        rw [h.decisions hopen] at hdistinct
        rw [hdecisions, List.map_append, List.map_append]
        refine List.Nodup.append hdistinct (List.nodup_singleton _) ?_
        rintro id hid hcall
        obtain ⟨decision, hdecision, rfl⟩ := List.mem_map.mp hid
        obtain ⟨vote, hvote, rfl⟩ := List.mem_map.mp hdecision
        exact hcounts.2 vote hvote (List.mem_singleton.mp hcall)
      · intro decision hdecision
        rw [hdecisions] at hdecision
        obtain ⟨vote, hvote, rfl⟩ := List.mem_map.mp hdecision
        rcases List.mem_append.mp hvote with hvote | hvote
        · refine h.others _ ?_
          rw [h.decisions hopen]
          exact List.mem_map_of_mem hvote
        · rw [List.mem_singleton.mp hvote]
          exact hcounts.1.distinct

theorem validateRequiredApprovals_eq_ok {n : Int} :
    validateRequiredApprovals n = .ok () ↔ 1 ≤ n ∧ n ≤ 9007199254740991 := by
  unfold validateRequiredApprovals
  split_ifs with h
  · simp only [false_iff]
    omega
  · simp only [true_iff]
    omega

theorem tallied_afterCalls (hstatus : workflow.status = .pendingApproval)
    (hdecisions : workflow.decisions = []) (hquorum : 1 ≤ workflow.requiredApprovals)
    (calls : List DecisionCall) :
    Tallied workflow (workflow.votes calls) (workflow.afterCalls calls) := by
  induction calls using List.reverseRecOn with
  | nil =>
    refine ⟨rfl, iff_of_true hstatus ⟨by simp [votes], ?_⟩, fun _ => hdecisions, ?_, ?_⟩
    · exact Int.lt_of_lt_of_le Int.zero_lt_one hquorum
    · simp [afterCalls, hdecisions]
    · simp [afterCalls, hdecisions]
  | append_singleton calls call ih =>
    rw [votes_concat, afterCalls_concat]
    exact ih.step

-- The quorum of a new request: it is approved by the call that adds the last approval that it
-- needs, and rejected by the first rejection before.
theorem approval_quorum (hstatus : workflow.status = .pendingApproval)
    (hdecisions : workflow.decisions = [])
    (hquorum : validateRequiredApprovals workflow.requiredApprovals = .ok ())
    (calls : List DecisionCall) (call : DecisionCall) :
    let before := workflow.afterCalls calls
    let after := workflow.afterCalls (calls ++ [call])
    let votes := workflow.votes calls
    (before.status ≠ .approved ∧ after.status = .approved ↔
      call.decision = .approve ∧ workflow.Counts votes call ∧
        (∀ vote ∈ votes, vote.decision = .approve) ∧
        votes.length + 1 = workflow.requiredApprovals) ∧
    (before.status ≠ .rejected ∧ after.status = .rejected ↔
      call.decision = .reject ∧ workflow.Counts votes call ∧
        (∀ vote ∈ votes, vote.decision = .approve) ∧
        votes.length < workflow.requiredApprovals) ∧
    (after.decisions.map (·.approverId)).Nodup ∧
    (∀ decision ∈ after.decisions, decision.approverId ≠ workflow.requesterId) ∧
    ∀ e, before.recordDecision call = .error e → after = before := by
  intro before after votes
  have hquorum := (validateRequiredApprovals_eq_ok.mp hquorum).1
  have hbefore : Tallied workflow votes before := tallied_afterCalls hstatus hdecisions hquorum calls
  have hafter : Tallied workflow (workflow.votes (calls ++ [call])) after :=
    tallied_afterCalls hstatus hdecisions hquorum (calls ++ [call])
  have hstep : after = before.afterCall call := afterCalls_concat
  refine ⟨?_, ?_, hafter.distinct, hafter.others, fun e he => by rw [hstep, afterCall, he]⟩
  · constructor
    · rintro ⟨hnot, happroved⟩
      by_cases hboth : workflow.Undecided votes ∧ workflow.Counts votes call
      · obtain ⟨hopen, hcounts⟩ := hboth
        rw [hstep, hbefore.afterCall_of_counts hopen hcounts, hbefore.status_decided hopen]
          at happroved
        split_ifs at happroved with hreject hreached
        have hlength := hopen.2
        refine ⟨?_, hcounts, hopen.1, by omega⟩
        cases hdecision : call.decision with
        | approve => rfl
        | reject  => exact absurd hdecision hreject
      · rw [hstep, hbefore.afterCall_of_not hboth] at happroved
        exact absurd happroved hnot
    · rintro ⟨happrove, hcounts, hall, hlength⟩
      have hopen : workflow.Undecided votes := ⟨hall, by omega⟩
      have hpending := hbefore.pending.mpr hopen
      refine ⟨by rw [hpending]; decide, ?_⟩
      rw [hstep, hbefore.afterCall_of_counts hopen hcounts, hbefore.status_decided hopen,
        if_neg (by rw [happrove]; decide), if_pos (by omega)]
  · constructor
    · rintro ⟨hnot, hrejected⟩
      by_cases hboth : workflow.Undecided votes ∧ workflow.Counts votes call
      · obtain ⟨hopen, hcounts⟩ := hboth
        rw [hstep, hbefore.afterCall_of_counts hopen hcounts, hbefore.status_decided hopen]
          at hrejected
        split_ifs at hrejected with hreject
        exact ⟨hreject, hcounts, hopen.1, hopen.2⟩
      · rw [hstep, hbefore.afterCall_of_not hboth] at hrejected
        exact absurd hrejected hnot
    · rintro ⟨hreject, hcounts, hopen⟩
      have hpending := hbefore.pending.mpr hopen
      refine ⟨by rw [hpending]; decide, ?_⟩
      rw [hstep, hbefore.afterCall_of_counts hopen hcounts, hbefore.status_decided hopen,
        if_pos hreject]

end Runs

-- A request that needs two approvals
def pendingWorkflow : ApprovalWorkflow where
  status             := .pendingApproval
  effectState        := .notStarted
  stripeRefundId     := none
  stripeRefundStatus := none
  requesterId        := "requester"
  requiredApprovals  := 2
  expiresAt          := 10
  decisions          := []

theorem approval_quorum_of_two :
    (pendingWorkflow.afterCalls [⟨"a", .approve, 1, none⟩, ⟨"requester", .approve, 2, none⟩,
      ⟨"a", .approve, 3, none⟩, ⟨"b", .approve, 4, none⟩]).status = .approved :=
  ((approval_quorum (rfl : pendingWorkflow.status = _) rfl rfl
    [⟨"a", .approve, 1, none⟩, ⟨"requester", .approve, 2, none⟩, ⟨"a", .approve, 3, none⟩]
    ⟨"b", .approve, 4, none⟩).1.mpr (by decide)).2

end ApprovalWorkflow
end RefundDesk
