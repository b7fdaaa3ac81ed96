import RefundDesk.Repositories.Soundness

namespace RefundDesk

open Transaction Relation RequestRepository TenantRepository

namespace RequestSound

variable {env : TriggerEnv} {d : RefundRequestDetail} {status : WorkflowStatus} {time : Timestamp}

-- A request without an effect can always end as stale or as failed.
theorem accepted_ended (h : RequestSound d)
    (hstatus : d.request.workflowStatus ∈ [.pendingApproval, .approved] ∧ status = .stale ∨
      d.request.workflowStatus = .executing ∧ status = .failedTerminal)
    (heffect : d.request.effectState ∈ [.notStarted, .absenceProven])
    (hguard : d.request.paymentGuardReleasedAt = none) :
    RefundRequest.Accepted env d (d.request.ended status .absenceProven time) := by
  have hterminal := h.coherent.terminal
  have hnew : status = .stale ∨ status = .failedTerminal := by tauto
  have hnone : d.request.terminalAt = none := by
    rw [← Option.not_isSome_iff_eq_none, hterminal]
    rcases hstatus with ⟨hw, _⟩ | ⟨hw, _⟩
    · rcases (by simpa using hw : _ ∨ _) with hw | hw <;> simp [hw, WorkflowStatus.isTerminal]
    · simp [hw, WorkflowStatus.isTerminal]
  have hw : d.request.workflowStatus ≠ .reconciliationRequired ∧
      d.request.workflowStatus ≠ .succeeded := by
    rcases hstatus with ⟨hw, _⟩ | ⟨hw, _⟩
    · rcases (by simpa using hw : _ ∨ _) with hw | hw <;> simp [hw]
    · simp [hw]
  have heffect : d.request.effectState = .notStarted ∨ d.request.effectState = .absenceProven := by
    simpa using heffect
  exact {
    scope       := ⟨h.scope.environment, h.scope.paymentKey⟩
    unprotected := by rcases hnew with rfl | rfl <;> simp [RefundRequest.ended]
    snapshot    := rfl
    version     := rfl
    terminal    := fun hn => (hn hnone).elim
    boundary    := .inr rfl
    decision    := by
      unfold RefundRequest.validateDurableDecisionTransition
      rcases hnew with rfl | rfl <;> simp [RefundRequest.ended]
    effect      := by
      unfold RefundRequest.validateEffectTransition
      rcases heffect with he | he <;> simp [RefundRequest.ended, he]
    guard       := by
      unfold RefundRequest.validateGuardRelease
      rcases hnew with rfl | rfl <;> simp [RefundRequest.ended, hguard]
    workflow    := by
      unfold RefundRequest.validateWorkflowTransition
      rcases hstatus with ⟨hw, rfl⟩ | ⟨hw, rfl⟩
      · rcases (by simpa using hw : _ ∨ _) with hw | hw <;> simp [RefundRequest.ended, hw]
      · simp [RefundRequest.ended, hw]
    lifecycle   := by
      rw [RefundRequest.stamped_of_ne (by rcases hnew with rfl | rfl <;> simp [RefundRequest.ended])]
      unfold RefundRequest.lifecycleCheck
      rcases hnew with rfl | rfl <;> simp [RefundRequest.ended]
  }

-- A request that executes can always be sent to reconciliation.
theorem accepted_reconciled (h : RequestSound d) (hw : d.request.workflowStatus = .executing)
    (hguard : d.request.paymentGuardReleasedAt = none) :
    RefundRequest.Accepted env d
      (d.request.moved .reconciliationRequired d.request.effectState) := by
  obtain ⟨startedAt, hstarted⟩ := Option.isSome_iff_exists.mp (h.started hw)
  exact {
    scope       := ⟨h.scope.environment, h.scope.paymentKey⟩
    unprotected := by simp [RefundRequest.moved]
    snapshot    := rfl
    version     := rfl
    terminal    := fun _ => rfl
    boundary    := .inl ⟨rfl, by simp [hw]⟩
    decision    := by simp [RefundRequest.validateDurableDecisionTransition, hw]
    effect      := by simp [RefundRequest.validateEffectTransition, RefundRequest.moved]
    guard       := by simp [RefundRequest.validateGuardRelease, RefundRequest.moved, hguard]
    workflow    := by simp [RefundRequest.validateWorkflowTransition, RefundRequest.moved, hw]
    lifecycle   := by
      simp [RefundRequest.stamped, RefundRequest.moved, hw, RefundRequest.lifecycleCheck,
        WorkflowStatus.isTerminal, hstarted, RefundRequest.greatest]
  }

end RequestSound

-- The rows of a request after the protective updates.
def RefundRequestDetail.protected (now time : Timestamp) (d : RefundRequestDetail) :
    RefundRequestDetail :=
  if isUnstarted d.request then
    d.replaceRow (d.request.ended .stale .absenceProven time)
  else if isExecutingWithoutEffect d.request then
    d.replaceRow (d.request.ended .failedTerminal .absenceProven time)
  else if isExecutingWithEffect d.request then
    d.replaceRow { d.request.moved .reconciliationRequired d.request.effectState with
      reconciliationSafeAfterAt := some (RefundRequest.greatest now d.request.executionStartedAt)
    }
  else
    d

section Protect

variable {now time : Timestamp} {scope : RefundRequest → Bool} {s s' : Store}
variable {conflict : StoreError} {counts : Nat × Nat × Nat} {requestId : String}
variable {d d' : RefundRequestDetail}

section Update

variable {guard : RefundRequest → Bool} {data : RefundRequest → RefundRequest} {n : Nat}

theorem updatedBy_updateRequest :
    UpdatedBy now scope (fun env => updateRequest env guard data) s requestId d d' ↔
      (scope d.request && guard d.request) = false ∧ d' = d ∨
      (scope d.request && guard d.request) = true ∧
        RefundRequest.Accepted (s.triggerEnv now requestId d.request) d (data d.request) ∧
        d' = d.replaceRow (d.request.stamped (s.triggerEnv now requestId d.request)
          (data d.request)) := by
  simp only [UpdatedBy, commits_updateRequest]
  cases scope d.request <;> cases guard d.request <;> simp

-- `updateMany` commits when the database accepts the update of every row, and it counts them.
theorem commits_updateMany_of_accepted
    (h : ∀ requestId d, s.requests.find? requestId = some d → scope d.request → guard d.request →
      RefundRequest.Accepted (s.triggerEnv now requestId d.request) d (data d.request)) :
    ∃ s', (updateMany now scope fun env => updateRequest env guard data).Commits s
      (countRequests s fun row => scope row && guard row) s' := by
  have hrow : ∀ requestId d, s.requests.find? requestId = some d →
      ∃ d', UpdatedBy now scope (fun env => updateRequest env guard data) s requestId d d' := by
    intro requestId d hd
    simp only [updatedBy_updateRequest]
    cases hg : scope d.request && guard d.request with
    | false => exact ⟨d, .inl ⟨rfl, rfl⟩⟩
    | true  =>
      obtain ⟨hs, hg⟩ := Bool.and_eq_true_iff.mp hg
      exact ⟨_, .inr ⟨rfl, h requestId d hd hs hg, rfl⟩⟩
  obtain ⟨requests, htraverse⟩ := Table.traverse_ok.mpr fun requestId d hd => by
    obtain ⟨d', hd'⟩ := hrow requestId d hd
    exact ⟨d', updateMany_row_eq_ok.mpr hd'⟩
  refine ⟨{ s with requests }, ?_⟩
  simp only [updateMany, commits_bind, commits_get, commits_fromExcept, commits_set, commits_pure]
  refine ⟨s, s, ⟨rfl, rfl⟩, requests, s, ⟨htraverse, rfl⟩, (), _, rfl, ?_, rfl⟩
  refine Table.count_congr fun requestId d hd => ?_
  cases hs : scope d.request with
  | false => simp [hs]
  | true  =>
    cases hg : guard d.request with
    | false =>
      have hrun : (updateRequest (s.triggerEnv now requestId d.request) guard data).Commits d false d :=
        commits_updateRequest.mpr (.inl ⟨hg, rfl, rfl⟩)
      have hrun : (updateRequest (s.triggerEnv now requestId d.request) guard data).run d =
        .ok (false, d) := hrun
      simp [hs, hg, hrun]
    | true  =>
      have hrun : (updateRequest (s.triggerEnv now requestId d.request) guard data).Commits d true _ :=
        commits_updateRequest.mpr (.inr ⟨hg, rfl, h requestId d hd hs hg, rfl⟩)
      have hrun : (updateRequest (s.triggerEnv now requestId d.request) guard data).run d =
        .ok (true, _) := hrun
      simp [hs, hg, hrun]

end Update

theorem run_markStale : (RequestCall.markStale time).run = fun env =>
    updateRequest env isUnstarted fun row => row.ended .stale .absenceProven time :=
  rfl

theorem run_markFailedWithoutEffect : (RequestCall.markFailedWithoutEffect time).run = fun env =>
    updateRequest env isExecutingWithoutEffect fun row =>
      row.ended .failedTerminal .absenceProven time :=
  rfl

theorem run_markEffectForReconciliation : RequestCall.markEffectForReconciliation.run = fun env =>
    updateRequest env isExecutingWithEffect fun row =>
      row.moved .reconciliationRequired row.effectState :=
  rfl

theorem isUnstarted_iff {row : RefundRequest} :
    isUnstarted row ↔ row.workflowStatus ∈ [.pendingApproval, .approved] ∧
      row.effectState = .notStarted ∧ row.paymentGuardReleasedAt = none :=
  decide_eq_true_iff

theorem isExecutingWithoutEffect_iff {row : RefundRequest} :
    isExecutingWithoutEffect row ↔ row.workflowStatus = .executing ∧
      row.effectState ∈ [.notStarted, .absenceProven] ∧ row.paymentGuardReleasedAt = none :=
  decide_eq_true_iff

theorem isExecutingWithEffect_iff {row : RefundRequest} :
    isExecutingWithEffect row ↔ row.workflowStatus = .executing ∧
      row.effectState ∈ [.possible, .identified] ∧ row.paymentGuardReleasedAt = none :=
  decide_eq_true_iff

-- A row that one protective update has changed is left alone by the others.
theorem not_executing_of_ne (row : RefundRequest) (h : row.workflowStatus ≠ .executing) :
    isExecutingWithoutEffect row = false ∧ isExecutingWithEffect row = false := by
  simp [isExecutingWithoutEffect, isExecutingWithEffect, h]

theorem updatedBy_markStale
    (h : UpdatedBy now scope (RequestCall.markStale time).run s requestId d d') :
    d' = if scope d.request && isUnstarted d.request then
      d.replaceRow (d.request.ended .stale .absenceProven time) else d := by
  rw [run_markStale, updatedBy_updateRequest] at h
  rcases h with ⟨hg, rfl⟩ | ⟨hg, _, rfl⟩
  · simp [hg]
  · rw [if_pos hg, RefundRequest.stamped_of_ne (by simp [RefundRequest.ended])]

theorem updatedBy_markFailedWithoutEffect
    (h : UpdatedBy now scope (RequestCall.markFailedWithoutEffect time).run s requestId d d') :
    d' = if scope d.request && isExecutingWithoutEffect d.request then
      d.replaceRow (d.request.ended .failedTerminal .absenceProven time) else d := by
  rw [run_markFailedWithoutEffect, updatedBy_updateRequest] at h
  rcases h with ⟨hg, rfl⟩ | ⟨hg, _, rfl⟩
  · simp [hg]
  · rw [if_pos hg, RefundRequest.stamped_of_ne (by simp [RefundRequest.ended])]

theorem updatedBy_markEffectForReconciliation
    (h : UpdatedBy now scope RequestCall.markEffectForReconciliation.run s requestId d d') :
    d' = if scope d.request && isExecutingWithEffect d.request then
      d.replaceRow { d.request.moved .reconciliationRequired d.request.effectState with
        reconciliationSafeAfterAt := some (RefundRequest.greatest now d.request.executionStartedAt)
      } else d := by
  rw [run_markEffectForReconciliation, updatedBy_updateRequest] at h
  rcases h with ⟨hg, rfl⟩ | ⟨hg, _, rfl⟩
  · simp [hg]
  · have hw := (isExecutingWithEffect_iff.mp (Bool.and_eq_true_iff.mp hg).2).1
    rw [if_pos hg]
    simp [RefundRequest.stamped, RefundRequest.moved, hw, Store.triggerEnv]

-- What the three updates make of the rows of a request, one after the other.
theorem protected_of_updates {s₁ s₂ : Store}
    {d₁ d₂ : RefundRequestDetail}
    (h₁ : UpdatedBy now scope (RequestCall.markStale time).run s requestId d d₁)
    (h₂ : UpdatedBy now scope (RequestCall.markFailedWithoutEffect time).run s₁ requestId d₁ d₂)
    (h₃ : UpdatedBy now scope RequestCall.markEffectForReconciliation.run s₂ requestId d₂ d') :
    d' = if scope d.request then d.protected now time else d := by
  have h₁ := updatedBy_markStale h₁
  have h₂ := updatedBy_markFailedWithoutEffect h₂
  have h₃ := updatedBy_markEffectForReconciliation h₃
  cases hs : scope d.request with
  | false =>
    obtain rfl : d₁ = d := by simpa [hs] using h₁
    obtain rfl : d₂ = d₁ := by simpa [hs] using h₂
    simpa [hs] using h₃
  | true  =>
    unfold RefundRequestDetail.protected
    cases hu : isUnstarted d.request with
    | true  =>
      obtain rfl : d₁ = d.replaceRow (d.request.ended .stale .absenceProven time) := by
        simpa [hs, hu] using h₁
      obtain ⟨hn₁, hn₂⟩ := not_executing_of_ne (d.replaceRow
        (d.request.ended .stale .absenceProven time)).request nofun
      obtain rfl : d₂ = d.replaceRow (d.request.ended .stale .absenceProven time) := by
        simpa [hn₁] using h₂
      simpa [hn₂] using h₃
    | false =>
      obtain rfl : d₁ = d := by simpa [hu] using h₁
      cases he : isExecutingWithoutEffect d₁.request with
      | true  =>
        obtain rfl : d₂ = d₁.replaceRow (d₁.request.ended .failedTerminal .absenceProven time) := by
          simpa [hs, he] using h₂
        obtain ⟨-, hn₂⟩ := not_executing_of_ne (d₁.replaceRow
          (d₁.request.ended .failedTerminal .absenceProven time)).request nofun
        simpa [hn₂] using h₃
      | false =>
        obtain rfl : d₂ = d₁ := by simpa [he] using h₂
        simpa [hs] using h₃

theorem find?_of_protectRequests
    (h : (protectRequests now scope time conflict).Commits s counts s') (requestId : String) :
    s'.requests.find? requestId = (s.requests.find? requestId).map fun d =>
      if scope d.request then d.protected now time else d := by
  obtain ⟨s₁, s₂, h₁, h₂, h₃⟩ := updates_of_protectRequests h
  cases hd : s.requests.find? requestId with
  | none   => exact keys_of_protectRequests h hd
  | some d =>
    obtain ⟨d₁, hd₁, hu₁⟩ := kept_of_updateMany h₁ hd
    obtain ⟨d₂, hd₂, hu₂⟩ := kept_of_updateMany h₂ hd₁
    obtain ⟨d₃, hd₃, hu₃⟩ := kept_of_updateMany h₃ hd₂
    rw [hd₃, protected_of_updates hu₁ hu₂ hu₃]
    rfl

-- The protective updates leave everything but the requests alone.
theorem rest_of_protectRequests
    (h : (protectRequests now scope time conflict).Commits s counts s') :
    s' = { s with requests := s'.requests } := by
  obtain ⟨s₁, s₂, h₁, h₂, h₃⟩ := updates_of_protectRequests h
  rw [(traverse_of_updateMany h₃).2, (traverse_of_updateMany h₂).2, (traverse_of_updateMany h₁).2]

theorem count_of_updateMany {m : TriggerEnv → RequestTransaction Bool} {n : Nat}
    (h : (updateMany now scope m).Commits s n s') (p : RefundRequest → Bool)
    (hp : ∀ requestId d d', UpdatedBy now scope m s requestId d d' → p d'.request = p d.request) :
    countRequests s' p = countRequests s p :=
  Table.count_of_traverse (traverse_of_updateMany h).1 fun requestId d d' _ hd' =>
    (hp requestId d d' (updateMany_row_eq_ok.mp hd')).symm

theorem sound_of_updateMany {call : RequestCall} {n : Nat}
    (h : (updateMany now scope call.run).Commits s n s') (hcall : ∀ d b, SoundCall d call b)
    (hs : ∀ requestId d, s.requests.find? requestId = some d → RequestSound d) :
    ∀ requestId d, s'.requests.find? requestId = some d → RequestSound d := by
  intro requestId d' hd'
  obtain ⟨d, hd, hu⟩ := (find?_of_updateMany h requestId d').mp hd'
  rcases hu with ⟨_, rfl⟩ | ⟨_, b, hc⟩
  · exact hs requestId _ hd
  · exact (hs requestId d hd).outcome (hcall d b) (RequestCall.outcome_of_run hc)

-- The protective updates of sound requests always commit.
theorem commits_protectRequests
    (hs : ∀ requestId d, s.requests.find? requestId = some d → RequestSound d) :
    ∃ counts s', (protectRequests now scope time conflict).Commits s counts s' := by
  obtain ⟨s₁, h₁⟩ : ∃ s₁, (updateMany now scope (RequestCall.markStale time).run).Commits s
      (countRequests s fun row => scope row && isUnstarted row) s₁ := by
    rw [run_markStale]
    refine commits_updateMany_of_accepted fun id d hd _ hg => ?_
    obtain ⟨hw, he, hguard⟩ := isUnstarted_iff.mp hg
    exact (hs id d hd).accepted_ended (.inl ⟨hw, rfl⟩) (by simp [he]) hguard
  have hs₁ := sound_of_updateMany h₁ (fun _ _ => trivial) hs
  obtain ⟨s₂, h₂⟩ : ∃ s₂, (updateMany now scope (RequestCall.markFailedWithoutEffect time).run).Commits
      s₁ (countRequests s₁ fun row => scope row && isExecutingWithoutEffect row) s₂ := by
    rw [run_markFailedWithoutEffect]
    refine commits_updateMany_of_accepted fun id d hd _ hg => ?_
    obtain ⟨hw, he, hguard⟩ := isExecutingWithoutEffect_iff.mp hg
    exact (hs₁ id d hd).accepted_ended (.inr ⟨hw, rfl⟩) he hguard
  have hs₂ := sound_of_updateMany h₂ (fun _ _ => trivial) hs₁
  obtain ⟨s₃, h₃⟩ : ∃ s₃, (updateMany now scope RequestCall.markEffectForReconciliation.run).Commits
      s₂ (countRequests s₂ fun row => scope row && isExecutingWithEffect row) s₃ := by
    rw [run_markEffectForReconciliation]
    refine commits_updateMany_of_accepted fun id d hd _ hg => ?_
    obtain ⟨hw, _, hguard⟩ := isExecutingWithEffect_iff.mp hg
    exact (hs₂ id d hd).accepted_reconciled hw hguard
  have hunstarted {row : RefundRequest} (h : isUnstarted row = true) : row.workflowStatus ≠ .executing := by
    intro hw
    simpa [hw] using (isUnstarted_iff.mp h).1
  have hcount₁ (guard : RefundRequest → Bool)
      (hguard : ∀ row, row.workflowStatus ≠ .executing → guard row = false) :
      countRequests s₁ (fun row => scope row && guard row) =
        countRequests s (fun row => scope row && guard row) := by
    refine count_of_updateMany h₁ _ fun id d d' hu => ?_
    rw [updatedBy_markStale hu]
    split_ifs with hg
    · rw [hguard _ (hunstarted (Bool.and_eq_true_iff.mp hg).2),
        hguard (d.replaceRow (d.request.ended .stale .absenceProven time)).request nofun]
      simp
    · rfl
  have hcount₂ : countRequests s₂ (fun row => scope row && isExecutingWithEffect row) =
      countRequests s₁ (fun row => scope row && isExecutingWithEffect row) := by
    refine count_of_updateMany h₂ _ fun id d d' hu => ?_
    rw [updatedBy_markFailedWithoutEffect hu]
    split_ifs with hg
    · have heffect := (isExecutingWithoutEffect_iff.mp (Bool.and_eq_true_iff.mp hg).2).2.1
      have hwithout : isExecutingWithEffect d.request = false := by
        rcases (by simpa using heffect : _ ∨ _) with he | he <;> simp [isExecutingWithEffect, he]
      rw [hwithout, (not_executing_of_ne (d.replaceRow
        (d.request.ended .failedTerminal .absenceProven time)).request nofun).2]
      simp
    · rfl
  rw [hcount₁ _ fun row hw => (not_executing_of_ne row hw).1] at h₂
  rw [hcount₂, hcount₁ _ fun row hw => (not_executing_of_ne row hw).2] at h₃
  have h₁ : (updateMany now scope fun env => markStale env time).Commits s _ s₁ := h₁
  have h₂ : (updateMany now scope fun env => markFailedWithoutEffect env time).Commits s₁ _ s₂ := h₂
  have h₃ : (updateMany now scope markEffectForReconciliation).Commits s₂ _ s₃ := h₃
  refine ⟨(countRequests s fun row => scope row && isUnstarted row,
    countRequests s fun row => scope row && isExecutingWithoutEffect row,
    countRequests s fun row => scope row && isExecutingWithEffect row), s₃, ?_⟩
  simp only [protectRequests, commits_bind, commits_get, commits_require, commits_pure]
  refine ⟨s, s, ⟨rfl, rfl⟩, _, s₁, h₁, _, s₂, h₂, _, s₃, h₃, (), s₃, ⟨?_, rfl⟩, rfl, rfl⟩
  exact ⟨rfl, rfl, rfl⟩

end Protect
end RefundDesk
