import RefundDesk.Repositories.Protection

namespace RefundDesk

open Transaction Relation RequestRepository TenantRepository

namespace RefundRequest

-- The row of a request that executes or waits for reconciliation.
structure OpenRow (row : RefundRequest) : Prop where
  status   : row.workflowStatus = .executing ∨ row.workflowStatus = .reconciliationRequired
  scope    : row.InScope
  terminal : row.terminalAt = none
  guard    : row.paymentGuardReleasedAt = none
  started  : ∃ startedAt, row.executionStartedAt = some startedAt
  boundary : row.workflowStatus = .reconciliationRequired → ∃ startedAt safeAfter,
    row.executionStartedAt = some startedAt ∧ row.reconciliationSafeAfterAt = some safeAfter ∧
    startedAt ≤ safeAfter

-- What a row must keep to replace the row of an open request.
structure Continues (new row : RefundRequest) : Prop where
  snapshot : new.financialSnapshot = row.financialSnapshot
  version  : new.version = row.version + 1
  boundary : new.reconciliationSafeAfterAt = row.reconciliationSafeAfterAt
  started  : new.workflowStatus = .reconciliationRequired →
    new.executionStartedAt = row.executionStartedAt
  status   : new.workflowStatus ∈ [.executing, .reconciliationRequired, .succeeded, .failedTerminal]
  terminal : new.workflowStatus.isTerminal → new.terminalAt ≠ none

variable {env : TriggerEnv} {d : RefundRequestDetail} {new : RefundRequest}

theorem OpenRow.accepted (h : d.request.OpenRow) (hc : new.Continues d.request)
    (hunprotected : new.workflowStatus = .executing → env.paymentProtected = false)
    (heffect : d.request.validateEffectTransition (d.execution.bind (·.stripeRefundStatus)) new =
      .ok new)
    (hguard : d.request.validateGuardRelease (d.execution.bind (·.stripeRefundStatus)) new = .ok new)
    (hworkflow : d.request.validateWorkflowTransition (d.execution.bind (·.stripeRefundStatus)) new =
      .ok new) : Accepted env d new where
  scope       := RequestSound.inScope_of_snapshot h.scope hc.snapshot
  unprotected hw := hunprotected (by
    have hs := hc.status
    simp only [List.mem_cons, List.not_mem_nil, or_false] at hw hs
    rcases hw with hw | hw | hw <;> simp_all)
  snapshot    := hc.snapshot
  version     := hc.version
  terminal hn := (hn h.terminal).elim
  boundary    := .inr hc.boundary
  decision    := by
    have hne : d.request.workflowStatus ≠ .pendingApproval := by
      rcases h.status with hw | hw <;> simp [hw]
    simp [validateDurableDecisionTransition, hne]
  effect      := heffect
  guard       := hguard
  workflow    := hworkflow
  lifecycle   := by
    obtain ⟨startedAt, hstarted⟩ := h.started
    by_cases hn : new.workflowStatus = .reconciliationRequired
    · have hs := (hc.started hn).trans hstarted
      rcases h.status with hw | hw
      · simp [stamped, hn, hw, lifecycleCheck, WorkflowStatus.isTerminal, hs, greatest]
      · obtain ⟨startedAt', safeAfter, hs', hsafe, hle⟩ := h.boundary hw
        have hsafe' := hc.boundary.trans hsafe
        obtain rfl := Option.some.inj (hs'.symm.trans hstarted)
        rw [stamped_of_eq (hn.trans hw.symm)]
        simp [lifecycleCheck, hn, WorkflowStatus.isTerminal, hs, hsafe', hle]
    · rw [stamped_of_ne hn]
      have hterminal := hc.terminal
      unfold lifecycleCheck
      rw [if_neg fun h => hterminal h.1 h.2]
      split <;> simp_all

end RefundRequest

namespace RequestSound

variable {d : RefundRequestDetail}

theorem openRow (h : RequestSound d)
    (hw : d.request.workflowStatus ∈ [.executing, .reconciliationRequired]) :
    d.request.OpenRow := by
  have hw : d.request.workflowStatus = .executing ∨
      d.request.workflowStatus = .reconciliationRequired := by simpa using hw
  have hopen : d.request.workflowStatus.isTerminal = false := by
    rcases hw with hw | hw <;> simp [hw, WorkflowStatus.isTerminal]
  refine ⟨hw, h.scope, ?_, ?_, ?_, h.boundary⟩
  · rw [← Option.not_isSome_iff_eq_none, h.coherent.terminal, hopen]
    simp
  · rw [← Option.not_isSome_iff_eq_none, h.coherent.guard, hopen]
    simp
  · rcases hw with hw | hw
    · exact Option.isSome_iff_exists.mp (h.started hw)
    · obtain ⟨startedAt, _, hs, _⟩ := h.boundary hw
      exact ⟨startedAt, hs⟩

end RequestSound

namespace RefundRequest

variable {env : TriggerEnv} {d : RefundRequestDetail}

-- The database accepts the row that follows the status of the linked refund.
theorem OpenRow.accepted_follow (h : d.request.OpenRow) {status : Option StripeRefundStatus}
    {time : Timestamp} (hstatus : d.execution.bind (·.stripeRefundStatus) = status)
    (heffect : d.request.effectState ∈ [.possible, .identified])
    (hunprotected : d.request.workflowStatus = .executing → env.paymentProtected = false) :
    Accepted env d (followStatus status time d.request) := by
  have hguard := h.guard
  have heffect : d.request.effectState = .possible ∨ d.request.effectState = .identified := by
    simpa using heffect
  subst hstatus
  cases hs : d.execution.bind (·.stripeRefundStatus) with
  | none        =>
    refine h.accepted ⟨rfl, rfl, rfl, fun _ => rfl, by simp [followStatus],
      by simp [followStatus, WorkflowStatus.isTerminal]⟩ (by simp [followStatus]) ?_ ?_ ?_
    · rcases heffect with he | he <;> simp [validateEffectTransition, followStatus, he]
    · simp [validateGuardRelease, followStatus, hguard]
    · rcases h.status with hw | hw <;> simp [validateWorkflowTransition, followStatus, hw]
  | some status =>
    cases status with
    | pending | requiresAction =>
      refine h.accepted ⟨rfl, rfl, rfl, fun _ => rfl, ?_, ?_⟩ hunprotected ?_ ?_ ?_
      · rcases h.status with hw | hw <;> simp [followStatus, hw]
      · rcases h.status with hw | hw <;> simp [followStatus, hw, WorkflowStatus.isTerminal]
      · rcases heffect with he | he <;> simp [validateEffectTransition, followStatus, he]
      · simp [validateGuardRelease, followStatus, hguard]
      · simp [validateWorkflowTransition, followStatus]
    | succeeded =>
      refine h.accepted ⟨rfl, rfl, rfl, by simp [followStatus], by simp [followStatus],
        by simp [followStatus]⟩ (by simp [followStatus]) ?_ ?_ ?_
      · rcases heffect with he | he <;> simp [validateEffectTransition, followStatus, he]
      · simp [validateGuardRelease, followStatus, hguard, hs, Truth.holds_equal]
      · rcases h.status with hw | hw <;> simp [validateWorkflowTransition, followStatus, hw, hs,
          Truth.holds_distinct]
    | failed | canceled =>
      refine h.accepted ⟨rfl, rfl, rfl, by simp [followStatus], by simp [followStatus],
        by simp [followStatus]⟩ (by simp [followStatus]) ?_ ?_ ?_
      · rcases heffect with he | he <;> simp [validateEffectTransition, followStatus, he, hs,
          Truth.holds_not_member]
      · simp [validateGuardRelease, followStatus, hguard]
      · rcases h.status with hw | hw <;> simp [validateWorkflowTransition, followStatus, hw]

end RefundRequest

namespace RequestSound

variable {env : TriggerEnv} {d : RefundRequestDetail} {locked : RefundExecution}
variable {input : IdentifiedRefundInput}

-- A success that the failure of its refund takes back.
theorem accepted_corrected (h : RequestSound d) (hw : d.request.workflowStatus = .succeeded)
    (hstatus : input.stripeRefundStatus = some .failed ∨
      input.stripeRefundStatus = some .canceled) :
    RefundRequest.Accepted env (recorded d input locked)
      (d.request.moved .failedTerminal .absenceProven) := by
  have hterminal : d.request.terminalAt.isSome := h.coherent.terminal.mpr (by simp [hw,
    WorkflowStatus.isTerminal])
  have he := (h.coherent.succeeded hw).1
  have hrow : (recorded d input locked).request = d.request := rfl
  have hbind : (recorded d input locked).execution.bind (·.stripeRefundStatus) =
      input.stripeRefundStatus := rfl
  exact {
    scope       := ⟨h.scope.environment, h.scope.paymentKey⟩
    unprotected := by simp [RefundRequest.moved]
    snapshot    := rfl
    version     := rfl
    terminal    := fun _ => rfl
    boundary    := .inr rfl
    decision    := by simp [RefundRequest.validateDurableDecisionTransition, hrow, hw]
    effect      := by
      rw [hbind]
      rcases hstatus with hs | hs <;> simp [RefundRequest.validateEffectTransition, hrow, he,
        RefundRequest.moved, hs, Truth.holds_not_member]
    guard       := by
      have hguard := h.coherent.guard.mpr (by simp [hw, WorkflowStatus.isTerminal])
      simp [RefundRequest.validateGuardRelease, hrow, RefundRequest.moved,
        Option.isSome_iff_ne_none.mp hguard]
    workflow    := by
      rw [hbind]
      rcases hstatus with hs | hs <;> simp [RefundRequest.validateWorkflowTransition, hrow, hw, he,
        RefundRequest.moved, hs, Truth.holds_not_member]
    lifecycle   := by
      rw [RefundRequest.stamped_of_ne (by simp [RefundRequest.moved])]
      simp [RefundRequest.lifecycleCheck, RefundRequest.moved,
        Option.isSome_iff_ne_none.mp hterminal]
  }

-- The effect of a request that waits for reconciliation with or without a refund.
theorem accepted_effect {d : RefundRequestDetail} (h : d.request.OpenRow)
    (hw : d.request.workflowStatus = .reconciliationRequired) {effect : EffectState}
    (heffect : d.request.effectState ∈ [.notStarted, .absenceProven] ∧ effect = .possible ∨
      d.request.effectState ∈ [.possible, .identified] ∧ effect = .identified ∨
      d.request.effectState = .possible ∧ effect = .absenceProven) :
    RefundRequest.Accepted env d (d.request.moved d.request.workflowStatus effect) := by
  have hguard := h.guard
  refine h.accepted ⟨rfl, rfl, rfl, fun _ => rfl, by simp [RefundRequest.moved, hw],
    by simp [RefundRequest.moved, hw, WorkflowStatus.isTerminal]⟩
    (by simp [RefundRequest.moved, hw]) ?_ ?_ ?_
  · rcases heffect with ⟨he, rfl⟩ | ⟨he, rfl⟩ | ⟨he, rfl⟩
    · rcases (by simpa using he : _ ∨ _) with he | he <;>
        simp [RefundRequest.validateEffectTransition, RefundRequest.moved, he]
    · rcases (by simpa using he : _ ∨ _) with he | he <;>
        simp [RefundRequest.validateEffectTransition, RefundRequest.moved, he]
    · simp [RefundRequest.validateEffectTransition, RefundRequest.moved, he]
  · simp [RefundRequest.validateGuardRelease, RefundRequest.moved, hguard]
  · simp [RefundRequest.validateWorkflowTransition, RefundRequest.moved]

-- A request resumes once its effect is proven absent, unless its payment is protected.
theorem accepted_resumed {d : RefundRequestDetail} (h : d.request.OpenRow) {time : Timestamp}
    (hw : d.request.workflowStatus = .reconciliationRequired)
    (he : d.request.effectState = .absenceProven) (hunprotected : env.paymentProtected = false) :
    RefundRequest.Accepted env d
      { d.request.moved .executing d.request.effectState with executionStartedAt := some time } := by
  have hguard := h.guard
  refine h.accepted ⟨rfl, rfl, rfl, by simp [RefundRequest.moved], by simp [RefundRequest.moved],
    by simp [RefundRequest.moved, WorkflowStatus.isTerminal]⟩ (fun _ => hunprotected) ?_ ?_ ?_
  · simp [RefundRequest.validateEffectTransition, RefundRequest.moved]
  · simp [RefundRequest.validateGuardRelease, RefundRequest.moved, hguard]
  · simp [RefundRequest.validateWorkflowTransition, RefundRequest.moved, hw, he]

theorem commits_markReconciliationRequired (h : RequestSound d) :
    ∃ b d', (markReconciliationRequired env).Commits d b d' := by
  by_cases hg : d.request.workflowStatus = .executing ∧ d.request.paymentGuardReleasedAt = none
  · exact ⟨true, _, commits_updateRequest.mpr
      (.inr ⟨by simpa using hg, rfl, h.accepted_reconciled hg.1 hg.2, rfl⟩)⟩
  · exact ⟨false, d, commits_updateRequest.mpr (.inl ⟨by simpa using hg, rfl, rfl⟩)⟩

-- The absence of an effect is recorded, and the request executes again.
theorem commits_absence (h : RequestSound d) {time : Timestamp}
    (hw : d.request.workflowStatus = .reconciliationRequired)
    (he : d.request.effectState = .possible) (hunprotected : env.paymentProtected = false) :
    ∃ d₁ d₂, (markAbsenceProven env).Commits d true d₁ ∧
      (resumeExecutionAfterAbsence env time).Commits d₁ true d₂ := by
  have hopen := h.openRow (by simp [hw])
  have haccepted : RefundRequest.Accepted env d
      (d.request.moved d.request.workflowStatus .absenceProven) :=
    accepted_effect hopen hw (.inr (.inr ⟨he, rfl⟩))
  have hrow : d.request.stamped env (d.request.moved d.request.workflowStatus .absenceProven) =
      d.request.moved d.request.workflowStatus .absenceProven := RefundRequest.stamped_of_eq rfl
  have h₁ : (markAbsenceProven env).Commits d true
      (d.replaceRow (d.request.moved d.request.workflowStatus .absenceProven)) :=
    commits_updateRequest.mpr (.inr ⟨by simp [hw, he], rfl, haccepted, by rw [← hrow]; rfl⟩)
  have hopen₁ : (d.replaceRow
      (d.request.moved d.request.workflowStatus .absenceProven)).request.OpenRow :=
    ⟨.inr hw, ⟨hopen.scope.environment, hopen.scope.paymentKey⟩, hopen.terminal, hopen.guard, hopen.started, hopen.boundary⟩
  exact ⟨_, _, h₁, commits_updateRequest.mpr (.inr ⟨by
    simp [RefundRequestDetail.replaceRow, RefundRequest.moved, hw], rfl,
    accepted_resumed hopen₁ hw rfl hunprotected, rfl⟩)⟩

-- An open row under an execution that has recorded an observation.
theorem openRow_recorded (h : d.request.OpenRow) : (recorded d input locked).request.OpenRow :=
  h

-- A request that waits for reconciliation records the refund and keeps its guard.
theorem commits_preserveReconciliation {d : RefundRequestDetail} (h : d.request.OpenRow)
    (hw : d.request.workflowStatus = .reconciliationRequired) :
    ∃ d', (preserveReconciliation env d.request).Commits d true d' := by
  have hguard := h.guard
  have last {d₁ : RefundRequestDetail} (h₁ : d₁.request.OpenRow)
      (hw₁ : d₁.request.workflowStatus = .reconciliationRequired)
      (he₁ : d₁.request.effectState ∈ [.possible, .identified]) :
      ∃ d', (updateRequest env
        (fun row => row.workflowStatus = .reconciliationRequired ∧
          row.effectState ∈ [.possible, .identified] ∧ row.paymentGuardReleasedAt = none)
        fun row => { row with effectState := .identified, version := row.version + 1 }).Commits
          d₁ true d' := by
    have haccepted : RefundRequest.Accepted env d₁ (d₁.request.moved d₁.request.workflowStatus
        .identified) := accepted_effect h₁ hw₁ (.inr (.inl ⟨he₁, rfl⟩))
    exact ⟨_, commits_updateRequest.mpr (.inr ⟨decide_eq_true ⟨hw₁, he₁, h₁.guard⟩, rfl, haccepted,
      rfl⟩)⟩
  simp only [preserveReconciliation, commits_bind, commits_ite, commits_pure]
  by_cases he : d.request.effectState = .notStarted ∨ d.request.effectState = .absenceProven
  · have haccepted : RefundRequest.Accepted env d (d.request.moved d.request.workflowStatus
        .possible) := accepted_effect h hw (.inl ⟨by simpa using he, rfl⟩)
    have hrow : d.request.stamped env (d.request.moved d.request.workflowStatus .possible) =
        d.request.moved d.request.workflowStatus .possible := RefundRequest.stamped_of_eq rfl
    have hopen₁ : (d.replaceRow (d.request.moved d.request.workflowStatus .possible)).request.OpenRow :=
      ⟨.inr hw, ⟨h.scope.environment, h.scope.paymentKey⟩, h.terminal, h.guard, h.started, h.boundary⟩
    obtain ⟨d', hlast⟩ := last hopen₁ hw (by simp [RefundRequestDetail.replaceRow, RefundRequest.moved])
    refine ⟨d', .inl ⟨he, true, _, commits_updateRequest.mpr (.inr ⟨decide_eq_true ⟨hw, rfl, hguard⟩,
      rfl, haccepted, ?_⟩), .inr ⟨by simp, hlast⟩⟩⟩
    rw [← hrow]
    rfl
  · have he' : d.request.effectState ∈ [.possible, .identified] := by
      cases hc : d.request.effectState <;> simp [hc] at he ⊢
    obtain ⟨d', hlast⟩ := last h hw he'
    exact ⟨d', .inr ⟨he, true, d, ⟨rfl, rfl⟩, .inr ⟨by simp, hlast⟩⟩⟩

-- The cases in which the row of an open request does not follow its refund: it has no effect yet.
def IsBlocked (row : RefundRequest) (resolution : ReconciliationResolution) : Prop :=
  (row.workflowStatus = .executing ∨
    row.workflowStatus = .reconciliationRequired ∧ resolution = .resolve) ∧
  row.effectState ∈ [.notStarted, .absenceProven]

-- A refund that no other request is linked to is identified, unless the request is blocked.
theorem commits_followObservation (h : RequestSound d) (locked : RefundExecution)
    (hblocked : ¬IsBlocked d.request input.reconciliationResolution)
    (hunprotected : d.request.workflowStatus = .executing → env.paymentProtected = false) :
    ∃ d', (followObservation env input d.request locked).Commits (recorded d input locked) true d' := by
  unfold followObservation
  split_ifs with hcorrect hw hp
  · have he := (h.coherent.succeeded hcorrect.1).1
    have haccepted : RefundRequest.Accepted env (recorded d input locked)
        (d.request.moved .failedTerminal .absenceProven) :=
      h.accepted_corrected hcorrect.1 hcorrect.2.2
    exact ⟨_, commits_updateRequest.mpr (.inr ⟨decide_eq_true ⟨hcorrect.1, he⟩, rfl, haccepted, rfl⟩)⟩
  · exact commits_preserveReconciliation
      (openRow_recorded (h.openRow (by simp [hp.1]))) hp.1
  · have hw : d.request.workflowStatus ∈ [.executing, .reconciliationRequired] := by
      simpa using hw
    have heffect : d.request.effectState ∈ [.possible, .identified] := by
      have hresolve : d.request.workflowStatus = .executing ∨
          d.request.workflowStatus = .reconciliationRequired ∧
            input.reconciliationResolution = .resolve := by
        rcases (by simpa using hw : _ ∨ _) with hw | hw
        · exact .inl hw
        · refine .inr ⟨hw, ?_⟩
          cases hr : input.reconciliationResolution with
          | preserve => exact (hp ⟨hw, hr⟩).elim
          | resolve  => rfl
      by_contra hn
      refine hblocked ⟨hresolve, ?_⟩
      cases hc : d.request.effectState <;> simp [hc] at hn ⊢
    have hopen : (recorded d input locked).request.OpenRow := openRow_recorded (h.openRow hw)
    have haccepted : RefundRequest.Accepted env (recorded d input locked)
        (followStatus input.stripeRefundStatus input.observedAt d.request) :=
      hopen.accepted_follow rfl heffect hunprotected
    exact ⟨_, commits_updateRequest.mpr (.inr ⟨decide_eq_true ⟨hw, heffect⟩, rfl, haccepted, rfl⟩)⟩
  · exact ⟨_, commits_pure.mpr ⟨rfl, rfl⟩⟩

theorem commits_identified (h : RequestSound d) (he : d.execution = some locked)
    (hagree : linkAgrees locked input) (hid : isRefundId input.stripeRefundId)
    (hfree : env.refundLinkedElsewhere input.stripeRefundId = false)
    (hblocked : ¬IsBlocked d.request input.reconciliationResolution)
    (hunprotected : d.request.workflowStatus = .executing → env.paymentProtected = false) :
    ∃ d', (markRefundIdentified env input).Commits d true d' := by
  simp only [commits_markRefundIdentified]
  cases ha : shouldApplyRefundObservation locked input with
  | false => exact ⟨d, .inr ⟨locked, he, .inr (.inl ⟨hagree, ha, trivial, rfl⟩)⟩⟩
  | true  =>
    obtain ⟨d', hd'⟩ := h.commits_followObservation locked hblocked hunprotected
    exact ⟨d', .inr ⟨locked, he, .inr (.inr ⟨hagree, ha, hid, hfree, hd'⟩)⟩⟩

end RequestSound

end RefundDesk
