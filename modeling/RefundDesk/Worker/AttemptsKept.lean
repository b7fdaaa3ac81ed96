import RefundDesk.Repositories.Candidates
import RefundDesk.Worker.Attempts
import RefundDesk.Worker.ObservationSpecs

namespace RefundDesk

open Transaction Relation RequestRepository TenantRepository WorkerStore

namespace RefundRequestDetail

def attemptNumbers (d : RefundRequestDetail) : List Nat :=
  (d.execution.elim [] (·.attempts)).map (·.attemptNumber)

-- The rows of a request keep their execution, with its key and the numbers of its attempts.
structure KeepsAttempts (d d' : RefundRequestDetail) : Prop where
  key      : ∀ execution, d.execution = some execution →
    d'.execution.map (·.idempotencyKey) = some execution.idempotencyKey
  attempts : d.attemptNumbers ⊆ d'.attemptNumbers

namespace KeepsAttempts

variable {env : TriggerEnv} {d d' d₁ : RefundRequestDetail} {call : RequestCall} {b : Bool}

theorem of_eq (h : d'.execution = d.execution) : d.KeepsAttempts d' where
  key _ he := by rw [h, he]; rfl
  attempts := by rw [attemptNumbers, attemptNumbers, h]; exact List.Subset.refl _

theorem trans (h : d.KeepsAttempts d₁) (h' : d₁.KeepsAttempts d') : d.KeepsAttempts d' where
  key execution he := by
    obtain ⟨execution₁, he₁, hkey⟩ := Option.map_eq_some_iff.mp (h.key execution he)
    exact hkey ▸ h'.key execution₁ he₁
  attempts := List.Subset.trans h.attempts h'.attempts

theorem of_run {step : RefundRequestDetail → RefundRequestDetail → Prop}
    (hstep : ∀ ⦃d d'⦄, step d d' → d.KeepsAttempts d') (h : ReflTransGen step d d') :
    d.KeepsAttempts d' :=
  preserved_of_run (d.KeepsAttempts ·) (fun _ _ hd hs => hd.trans (hstep hs)) h (of_eq rfl)

theorem of_execution {execution execution' : RefundExecution} (he : d.execution = some execution)
    (he' : d'.execution = some execution')
    (hkey : execution'.idempotencyKey = execution.idempotencyKey)
    (hattempts : execution.attempts.map (·.attemptNumber) ⊆
      execution'.attempts.map (·.attemptNumber)) : d.KeepsAttempts d' where
  key _ h  := by
    obtain rfl := Option.some.inj (he.symm.trans h)
    rw [he', ← hkey]
    rfl
  attempts := by simpa [attemptNumbers, he, he'] using hattempts

theorem begun {attemptNumber : Nat} {time : Timestamp} {u : Unit}
    (h : (beginExecutionAttempt attemptNumber time).Commits d u d') : d.KeepsAttempts d' := by
  obtain ⟨execution, he, -, -, rfl⟩ := commits_beginExecutionAttempt.mp h
  exact of_execution he rfl rfl (by simp)

theorem finished {input : FinishExecutionAttemptInput}
    (h : (finishExecutionAttempt input).Commits d b d') : d.KeepsAttempts d' := by
  rcases commits_finishExecutionAttempt.mp h with ⟨-, -, rfl⟩ | ⟨execution, he, -, rfl⟩
  · exact of_eq rfl
  · refine of_execution he rfl rfl fun n hn => ?_
    obtain ⟨attempt, hattempt, rfl⟩ := List.mem_map.mp hn
    refine List.mem_map.mpr ⟨_, List.mem_map.mpr ⟨attempt, hattempt, rfl⟩, ?_⟩
    split_ifs <;> rfl

theorem ensured {input : EnsureExecutionInput} {execution : RefundExecution}
    (h : (ensureExecution env input).Commits d execution d') : d.KeepsAttempts d' := by
  rcases commits_ensureExecution.mp h with ⟨-, rfl⟩ | ⟨hnone, -, -, rfl⟩
  · exact of_eq rfl
  · exact ⟨by simp [hnone], by simp [attemptNumbers, hnone]⟩

end KeepsAttempts

end RefundRequestDetail

-- The calls that begin or finish an attempt.
def RequestCall.TouchesAttempts : RequestCall → Prop
  | .beginExecutionAttempt _ _ | .finishExecutionAttempt _ => True
  | _                                                      => False

namespace RefundRequestDetail.KeepsAttempts

variable {env : TriggerEnv} {d d' : RefundRequestDetail} {call : RequestCall} {b : Bool}

theorem outcome (hcall : ¬call.TouchesAttempts) (ho : Outcome env d call b d') :
    d.KeepsAttempts d' := by
  cases ho with
  | inserted hnone _ => exact ⟨by simp [hnone], by simp [attemptNumbers, hnone]⟩
  | begun _ => exact (hcall trivial).elim
  | finished _ => exact (hcall trivial).elim
  | identified he _ _ _ _ hf =>
    exact of_execution he (execution_of_followed hf) rfl (List.Subset.refl _)
  | decided _ hd _ _ =>
    subst hd
    exact of_eq rfl
  | _ => exact of_eq rfl

theorem of_call (hcall : ¬call.TouchesAttempts) (h : (call.run env).Commits d b d') :
    d.KeepsAttempts d' :=
  outcome hcall (RequestCall.outcome_of_run h)

end RefundRequestDetail.KeepsAttempts

section Store

open RefundRequestDetail

variable {α : Type} {keys : WorkerKeys} {now : Timestamp} {s s' s₁ : Store} {requestId : String}

-- Every request is kept, with its attempts.
def Store.KeepsAttempts (s s' : Store) : Prop :=
  ∀ id d, s.requests.find? id = some d →
    ∃ d', s'.requests.find? id = some d' ∧ d.KeepsAttempts d'

namespace Store.KeepsAttempts

theorem refl (s : Store) : s.KeepsAttempts s :=
  fun _ d hd => ⟨d, hd, .of_eq rfl⟩

theorem trans (h : s.KeepsAttempts s₁) (h' : s₁.KeepsAttempts s') : s.KeepsAttempts s' := by
  intro id d hd
  obtain ⟨d₁, hd₁, hkeeps⟩ := h id d hd
  obtain ⟨d', hd', hkeeps'⟩ := h' id d₁ hd₁
  exact ⟨d', hd', hkeeps.trans hkeeps'⟩

theorem of_within {m : StoreTransaction α} {a : α} (hm : Within Store.KeepsAttempts m)
    (h : m.Commits s a s') : s.KeepsAttempts s' :=
  preserved_of_run (s.KeepsAttempts ·) (fun _ _ hs hstep => hs.trans hstep) (hm h) (refl s)

theorem of_change {footprint : Footprint}
    (hf : ∀ {id d call b}, footprint id d call b → ¬call.TouchesAttempts)
    (h : Change now footprint s s') : s.KeepsAttempts s' := by
  intro id d hd
  obtain ⟨d', hd', he⟩ := h.kept id d hd
  refine ⟨d', hd', .of_run ?_ he⟩
  rintro d₁ d₂ ⟨env, -, -, call, b, hcall, ho⟩
  exact .outcome (hf hcall) ho

theorem within_change {footprint : Footprint} {m : StoreTransaction α}
    (hf : ∀ {id d call b}, footprint id d call b → ¬call.TouchesAttempts)
    (h : Within (Change now footprint) m) : Within Store.KeepsAttempts m :=
  h.mono fun _ _ => of_change hf

def Untouching : Footprint :=
  fun _ _ call _ => ¬call.TouchesAttempts

theorem within_untouching {m : StoreTransaction α} (h : Within (Change now Untouching) m) :
    Within Store.KeepsAttempts m :=
  within_change id h

theorem within_onRequest {m : TriggerEnv → RequestTransaction α}
    (h : ∀ env, Within RefundRequestDetail.KeepsAttempts (m env)) :
    Within Store.KeepsAttempts (onRequest now requestId m) := by
  intro s r s' hc
  rcases commits_onRequest.mp hc with ⟨-, -, rfl⟩ | ⟨d, a, d', hd, hm, -, rfl⟩
  · exact .refl
  · refine .single fun id d₁ hd₁ => ?_
    have hkeeps : d.KeepsAttempts d' := .of_run (fun _ _ h => h) (h _ hm)
    simp only [Store.putRequest, Table.find?_insert]
    split_ifs with hid
    · subst hid
      obtain rfl := Option.some.inj (hd.symm.trans hd₁)
      exact ⟨d', rfl, hkeeps⟩
    · exact ⟨d₁, hd₁, .of_eq rfl⟩

theorem within_onExistingRequest {missing : StoreError} {m : TriggerEnv → RequestTransaction α}
    (h : ∀ env, Within RefundRequestDetail.KeepsAttempts (m env)) :
    Within Store.KeepsAttempts (onExistingRequest now requestId missing m) :=
  fun _ _ _ hc => within_onRequest h (commits_onExistingRequest.mp hc)

theorem within_requestCall {env : TriggerEnv} {call : RequestCall} (hcall : ¬call.TouchesAttempts) :
    Within RefundRequestDetail.KeepsAttempts (call.run env) :=
  fun _ _ _ h => .single (.of_call hcall h)

theorem within_finish {input : AttemptFailureInput} {state : ExecutionAttemptState} :
    Within RefundRequestDetail.KeepsAttempts (input.finish state) :=
  fun _ _ _ h => .single (.finished h)

theorem within_crossEffectBoundary {item : ExecutionWorkItem} {key : String} {time : Timestamp} :
    Within Store.KeepsAttempts (crossEffectBoundary keys now item key time) := by
  have hensure (env : TriggerEnv) (input : EnsureExecutionInput) :
      Within RefundRequestDetail.KeepsAttempts (ensureExecution env input) :=
    fun _ _ _ h => .single (.ensured h)
  have hmark (env : TriggerEnv) :
      Within RefundRequestDetail.KeepsAttempts (RequestCall.markEffectPossible.run env) :=
    within_requestCall id
  have hbegin (attemptNumber : Nat) :
      Within RefundRequestDetail.KeepsAttempts (beginExecutionAttempt attemptNumber time) :=
    fun _ _ _ h => .single (.begun h)
  unfold crossEffectBoundary
  refine .bind within_fromDomain fun hash => .bind (within_onRequest fun env => ?_) fun attempt => ?_
  · exact .bind (hensure env _) fun execution => .bind (.fromExcept _) fun agree =>
      .bind (.require _ _) fun _ => .bind (hmark env) fun marked => .bind (.require _ _) fun _ =>
      .bind (hbegin _) fun _ => .pure _
  · cases attempt with
    | none   => exact .throw _
    | some n => exact .pure _

theorem within_persistEffectBoundary {key : String} {time : Timestamp} :
    Within Store.KeepsAttempts (persistEffectBoundary keys now requestId key time) := by
  have hreconcile (id : String) :
      Within Store.KeepsAttempts (requireExecutionReconciliation now id) :=
    within_untouching (within_requireExecutionReconciliation fun _ _ htouches => htouches)
  unfold persistEffectBoundary
  refine .bind within_getExecutionWorkItem fun found => ?_
  cases found with
  | none      => exact .pure _
  | some item =>
    refine .ite (fun _ => .pure _) fun _ => .ite (fun _ => .pure _) fun _ =>
      .bind within_lockExecutionAuthorization fun locked => .ite (fun _ => .pure _)
      fun _ => .bind within_fromDomain fun valid =>
      .ite (fun _ => .ite (fun _ => .bind (hreconcile _) fun _ => .pure _) fun _ => .pure _) fun _ => ?_
    split
    case h_1 => exact .pure _
    case h_2 =>
      exact .ite (fun _ => .bind (hreconcile _) fun _ => .pure _) fun _ => .ite (fun _ => .pure _)
        fun _ => within_crossEffectBoundary

theorem within_recordIdentifiedRefund {input : RecordIdentifiedRefundInput} :
    Within Store.KeepsAttempts (recordIdentifiedRefund now input) := by
  have hidentify (env : TriggerEnv) (observation : IdentifiedRefundInput) :
      Within RefundRequestDetail.KeepsAttempts
        ((RequestCall.markRefundIdentified observation).run env) :=
    within_requestCall id
  have hlink (env : TriggerEnv) : Within RefundRequestDetail.KeepsAttempts
      ((RequestCall.markRefundCorrelationCandidateLinked input.refundId .exactLinked
        input.time).run env) :=
    within_requestCall id
  unfold recordIdentifiedRefund
  refine .bind within_getExecutionWorkItem fun found => ?_
  cases found with
  | none      => exact .throw _
  | some item =>
    dsimp only
    split
    case h_1 => exact .throw _
    case h_2 =>
      refine .bind (.require _ _) fun _ => .bind (within_onRequest fun env => ?_) fun candidates =>
        .bind (within_untouching (within_alertConflictingCandidates fun _ _ call hc _ => ?_)) fun _ =>
        .bind (within_onRequest fun env => ?_) fun finished => .require _ _
      · exact .bind (hidentify env _) fun _ => .bind (.require _ _) fun _ =>
          .bind (hlink env) fun _ => .bind .get fun _ => .pure _
      · simp only [protectiveCalls, List.mem_cons, List.not_mem_nil, or_false] at hc
        rcases hc with rfl | rfl | rfl <;> exact id
      · exact fun _ _ _ h => .single (.finished h)

theorem of_calls {op : Operation} {id : String} {d : RefundRequestDetail} {call : RequestCall}
    {b : Bool} (hop₁ : ∀ id key time, op ≠ .persistEffectBoundary id key time)
    (hop₂ : ∀ input, op ≠ .recordIdentifiedRefund input)
    (hop₃ : ∀ input, op ≠ .recordRetryableAttemptFailure input)
    (hop₄ : ∀ input, op ≠ .recordAmbiguousAttemptFailure input)
    (hop₅ : ∀ input, op ≠ .recordTerminalAttemptWithoutEffect input)
    (h : op.calls id d call b) : ¬call.TouchesAttempts := by
  cases call <;> cases op <;>
    simp_all [Operation.calls, ObservationCall, ResolutionCall, RequestCall.TouchesAttempts,
      protectiveCalls]

theorem of_run {op : Operation} {u : Unit} (h : (op.run keys now).Commits s u s') :
    s.KeepsAttempts s' := by
  have hcall (call : RequestCall) (hcall : ¬call.TouchesAttempts) (env : TriggerEnv) :
      Within RefundRequestDetail.KeepsAttempts (call.run env) :=
    within_requestCall hcall
  cases op with
  | persistEffectBoundary id key time =>
    exact of_within (.map _ within_persistEffectBoundary) h
  | recordIdentifiedRefund input => exact of_within within_recordIdentifiedRefund h
  | recordRetryableAttemptFailure input =>
    refine of_within (within_onExistingRequest fun env => .bind within_finish fun _ => ?_) h
    exact .bind (hcall .markCertainAbsenceWhileExecuting id env) fun _ => .require _ _
  | recordAmbiguousAttemptFailure input =>
    refine of_within (within_onExistingRequest fun env => .bind within_finish fun _ => ?_) h
    exact .bind (hcall .markReconciliationRequired id env) fun _ => .require _ _
  | recordTerminalAttemptWithoutEffect input =>
    refine of_within (within_onExistingRequest fun env => .bind within_finish fun _ => ?_) h
    exact .bind (hcall .markCertainAbsenceWhileExecuting id env) fun _ =>
      .bind (hcall (.markTerminalFailureAfterAbsence input.time) id env) fun _ => .require _ _
  | _ =>
    refine of_within (within_change (of_calls ?_ ?_ ?_ ?_ ?_) (Operation.within_run _)) h <;> simp

end Store.KeepsAttempts

-- The request crosses the effect boundary with a new attempt: it is executed, has no refund, and
-- its effect has not been started or is proved to be absent.
structure Crosses (s s' : Store) (requestId key : String) (attemptNumber : Nat)
    (d d' : RefundRequestDetail) : Prop where
  found     : s.requests.find? requestId = some d
  found'    : s'.requests.find? requestId = some d'
  executing : d.request.workflowStatus = .executing
  guarded   : d.request.paymentGuardReleasedAt = none
  unlinked  : d.linkedRefundId = none
  effect    : d.request.effectState ∈ [.notStarted, .absenceProven]
  possible  : d'.request.workflowStatus = .executing ∧ d'.request.effectState = .possible
  key       : d'.execution.map (·.idempotencyKey) = some key
  fresh     : attemptNumber ∉ d.attemptNumbers
  begun     : attemptNumber ∈ d'.attemptNumbers

variable {item : ExecutionWorkItem} {key : String} {time : Timestamp} {n : Nat} {k : String}

theorem crosses_of_crossEffectBoundary {d : RefundRequestDetail} (hd : WorkItemOf s item.id item d)
    (hguarded : item.request.paymentGuardReleasedAt = none)
    (hunlinked : item.execution.bind (·.stripeRefundId) = none)
    (h : (crossEffectBoundary keys now item key time).Commits s (.execute n k) s') :
    k = key ∧ ∃ d d', Crosses s s' item.id key n d d' := by
  simp only [crossEffectBoundary, commits_bind, commits_fromDomain] at h
  obtain ⟨_, _, ⟨-, rfl⟩, number, s₁, hcross, h⟩ := h
  cases number with
  | none        => exact (not_commits_throw h).elim
  | some number =>
    obtain ⟨hdecision, rfl⟩ := commits_pure.mp h
    obtain ⟨rfl, rfl⟩ := EffectBoundaryDecision.execute.inj hdecision
    rcases commits_onRequest.mp hcross with ⟨hn, -, -⟩ | ⟨d₀, a, d', hd₀, hm, ha, rfl⟩
    · simp [hd.found] at hn
    obtain rfl := Option.some.inj (hd.found.symm.trans hd₀)
    obtain rfl := Option.some.inj ha
    simp only [commits_bind, commits_fromExcept, commits_require, commits_pure] at hm
    obtain ⟨execution, _, hensure, _, _, ⟨-, rfl⟩, _, d₁, ⟨⟨hkey, -⟩, rfl⟩, _, _, hmark, _, _,
      ⟨rfl, rfl⟩, _, _, hbegin, rfl, rfl⟩ := hm
    simp only [markEffectPossible, commits_updateRequest, Bool.true_eq_false, false_and, and_false,
      false_or, true_and, decide_eq_true_eq] at hmark
    obtain ⟨⟨hexecuting, heffect⟩, -, rfl⟩ := hmark
    obtain ⟨stored, hstored, -, hfresh, hbegun⟩ := commits_beginExecutionAttempt.mp hbegin
    have hrow : d₁.request = d.request := by
      rcases commits_ensureExecution.mp hensure with ⟨-, rfl⟩ | ⟨-, -, -, rfl⟩ <;> rfl
    have hensured : d₁.execution = some stored := hstored
    have hsame : execution = stored := by
      rcases commits_ensureExecution.mp hensure with ⟨hsome, rfl⟩ | ⟨-, -, rfl, rfl⟩
      · exact Option.some.inj (hsome.symm.trans hensured)
      · exact Option.some.inj hensured
    subst hsame
    rw [hrow] at hexecuting heffect
    have hlink : d.linkedRefundId = item.execution.bind (·.stripeRefundId) := by
      rw [hd.execution, RefundRequestDetail.linkedRefundId]
    refine ⟨rfl, d, d', {
      found     := hd.found
      found'    := by simp [Store.putRequest]
      executing := hexecuting
      guarded   := hd.request ▸ hguarded
      unlinked  := hlink.trans hunlinked
      effect    := heffect
      possible  := by simp [hbegun, RefundRequestDetail.replaceRow, hrow, hexecuting]
      key       := by simp [hbegun, hkey]
      fresh     := fun hn => ?_
      begun     := by simp [hbegun, attemptNumbers]
    }⟩
    obtain ⟨attempt, hattempt, hnumber⟩ :=
      List.mem_map.mp ((KeepsAttempts.ensured hensure).attempts hn)
    rw [hensured] at hattempt
    exact hfresh attempt hattempt hnumber

theorem crosses_of_persistEffectBoundary
    (h : (persistEffectBoundary keys now requestId key time).Commits s (.execute n k) s') :
    k = key ∧ ∃ d d', Crosses s s' requestId key n d d' := by
  simp only [persistEffectBoundary, commits_bind] at h
  obtain ⟨found, _, hread, h⟩ := h
  obtain rfl := frame_getExecutionWorkItem hread
  cases found with
  | none => cases (commits_pure.mp h).1
  | some item =>
    obtain ⟨-, d, hitem⟩ := workItemOf_getExecutionWorkItem hread
    obtain rfl := hitem.id
    simp only [commits_ite, commits_bind, commits_pure, lockExecutionAuthorization, commits_get,
      commits_fromDomain] at h
    obtain ⟨-, h⟩ | ⟨-, ⟨-, h, -⟩ | ⟨hcontext, _, _, ⟨_, _, ⟨rfl, rfl⟩, -, rfl⟩, ⟨-, h, -⟩ | ⟨-, valid, _,
      ⟨-, rfl⟩, ⟨-, h⟩ | ⟨-, h⟩⟩⟩⟩ := h
    · split_ifs at h <;> cases h.1
    · cases h
    · cases h
    · rcases h with ⟨-, _, _, -, h, -⟩ | ⟨-, h, -⟩ <;> cases h
    · split at h
      case h_1 => cases (commits_pure.mp h).1
      case h_2 hunlinked =>
        simp only [commits_ite, commits_bind, commits_pure] at h
        obtain ⟨-, _, _, -, h, -⟩ | ⟨-, ⟨-, h, -⟩ | ⟨-, h⟩⟩ := h
        · cases h
        · cases h
        · exact crosses_of_crossEffectBoundary hitem (not_not.mp (not_or.mp hcontext).2) hunlinked h

end Store
end RefundDesk
