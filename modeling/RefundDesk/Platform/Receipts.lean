import RefundDesk.Platform.Service

namespace RefundDesk

open Transaction PilotRepository

-- The receipts that are stored stay.
def PilotStore.Extends (s s' : PilotStore) : Prop :=
  ∀ ⦃nonce receipt⦄, s.receipt? nonce = some receipt → s'.receipt? nonce = some receipt

-- The mutation was performed on the rows that it saw.
def AppliedMutation.Performed (options : PilotPrismaRepositoryOptions) (a : AppliedMutation) :
    Prop :=
  ∃ draw context,
    (PilotPrismaRepository.performMutation options draw context a.metadata a.mutation).Commits
      a.before a.response a.after

-- What a transaction on the receipt of a mutation does when it answers with a response.
inductive Serves (options : PilotPrismaRepositoryOptions) (metadata : PilotMutationMetadata)
    (s : PilotStore) (response : PilotStoredResponse) : PilotStore → Prop
  | replayed {receipt} :
    s.receipt? metadata.requestNonce = some receipt → receipt.matches metadata →
    receipt.response = response → Serves options metadata s response s
  | stored {s'} :
    s.receipt? metadata.requestNonce = none →
    s'.receipt? metadata.requestNonce = some (metadata.receipt response) → s.Extends s' →
    s'.applied = s.applied → Serves options metadata s response s'
  | performed {s' a} :
    s.receipt? metadata.requestNonce = none →
    s'.receipt? metadata.requestNonce = some (metadata.receipt response) → s.Extends s' →
    a.metadata = metadata → a.response = response → a.Performed options →
    s'.applied = a :: s.applied → Serves options metadata s response s'

namespace PilotPrismaRepository

variable {options : PilotPrismaRepositoryOptions} {draw : Draw} {context : PilotTenantContext}
variable {metadata : PilotMutationMetadata} {mutation : PilotMutation} {s s' : PilotStore}
variable {response : PilotStoredResponse} {failure : PilotFailure}

section Operations

variable {α : Type} {returns : α → Prop}

-- What an operation on the rows can fail with: the conflict of a nonce is none of it.
abbrev Unconflicted (failure : PilotFailure) : Prop :=
  failure ≠ idempotencyConflict

theorem unconflicted_error {code : PilotErrorCode} {status : Nat} {message : String}
    (h : code ≠ .idempotencyConflict) : Unconflicted (.error code status message) :=
  fun heq => h (congrArg PilotApiError.code (PilotFailure.api.inj heq))

theorem ends_onStore {m : StoreTransaction α} : Ends (fun _ => True) Unconflicted (onStore m) := by
  refine .onField .unknown fun e _ => ?_
  unfold PilotFailure.ofStore
  split <;> simp [Unconflicted, idempotencyConflict, PilotFailure.error]

theorem ends_fail {code : PilotErrorCode} {status : Nat} {message : String}
    (h : code ≠ .idempotencyConflict) : Ends returns Unconflicted (fail code status message) :=
  .throw (unconflicted_error h)

theorem ends_refuse {p : Prop} [Decidable p] {code : PilotErrorCode} {status : Nat}
    {message : String} (h : code ≠ .idempotencyConflict) :
    Ends (fun _ => True) Unconflicted
      (require p (.error code status message) : PilotTransaction Unit) :=
  .require (unconflicted_error h)

theorem ends_appendAuditEvent {event : AuditEvent} :
    Ends (fun _ => True) Unconflicted (appendAuditEvent event) :=
  .bind (.require (by decide)) fun _ _ => .modify _

theorem ends_view {g : PilotRows → α} :
    Ends (fun _ => True) Unconflicted (do return g (← get) : PilotTransaction α) :=
  .bind .get fun _ _ => .pure trivial

theorem ends_settingsOf :
    Ends (fun _ => True) Unconflicted (settingsOf options context) := by
  have hget : Ends (fun _ => True) Unconflicted
      (PilotRepository.getSettings options.collation context.installationId) :=
    .bind ends_view fun _ _ => .bind ends_view fun _ _ => .bind ends_view fun _ _ => .pure trivial
  refine .bind hget fun settings _ => ?_
  cases settings with
  | none   => exact ends_fail (by decide)
  | some _ => exact .pure trivial

theorem ends_currentApprover :
    Ends (fun _ => True) Unconflicted (currentApprover context) := by
  refine .bind .get fun rows _ => ?_
  cases rows.store.users.find? context.actor.id with
  | none      => exact ends_fail (by decide)
  | some user => exact .bind (ends_refuse (by decide)) fun _ _ => .pure trivial

abbrev Responds (m : PilotTransaction PilotStoredResponse) : Prop :=
  Ends (·.status = 200) Unconflicted m

theorem responds_synchronizeContext : Responds (synchronizeContext options context) :=
  .bind ends_settingsOf fun _ _ => .pure rfl

theorem responds_createRefundRequest {amountMinor : Int} {currency justification : String}
    {payment : PilotPayment} {reason : RefundReason} :
    Responds (createRefundRequest options draw context metadata amountMinor currency justification
      payment reason) := by
  refine .bind ends_view fun policy _ => .bind ends_view fun _ _ => .bind ends_view fun _ _ => ?_
  cases policy with
  | none        => exact ends_fail (by decide)
  | some policy =>
    refine .bind (ends_refuse (by decide)) fun _ _ => .bind (ends_refuse (by decide)) fun _ _ => ?_
    refine .bind (ends_refuse (by decide)) fun _ _ => .bind ends_onStore fun _ _ => ?_
    exact .bind (.modify _) fun _ _ => .bind ends_appendAuditEvent fun _ _ => .pure rfl

theorem responds_decideRefundRequest {decision : PilotDecision} {requestId : String}
    {resource : PilotPaymentResource} :
    Responds (decideRefundRequest options draw context metadata decision requestId resource) := by
  refine .bind .get fun rows _ => ?_
  cases rows.store.requests.find? requestId with
  | none        => exact ends_fail (by decide)
  | some detail =>
    refine .bind ends_currentApprover fun _ _ => .bind (ends_refuse (by decide)) fun _ _ => ?_
    refine .bind (ends_refuse (by decide)) fun _ _ => .bind (ends_refuse (by decide)) fun _ _ => ?_
    refine .bind ends_onStore fun _ _ => .bind (.modify _) fun _ _ => ?_
    refine .bind (ends_refuse (by decide)) fun _ _ => ?_
    exact .bind ends_appendAuditEvent fun _ _ => .pure rfl

theorem responds_cancelRefundRequest {requestId : String} {resource : PilotPaymentResource} :
    Responds (cancelRefundRequest draw context metadata requestId resource) := by
  refine .bind .get fun rows _ => ?_
  cases rows.store.requests.find? requestId with
  | none        => exact ends_fail (by decide)
  | some detail =>
    refine .bind (ends_refuse (by decide)) fun _ _ => .bind ends_onStore fun _ _ => ?_
    refine .bind (ends_refuse (by decide)) fun _ _ => ?_
    exact .bind ends_appendAuditEvent fun _ _ => .pure rfl

theorem responds_acknowledgeAlert {alertId : String} :
    Responds (acknowledgeAlert draw context metadata alertId) := by
  refine .bind ends_currentApprover fun _ _ => .bind .get fun rows _ => ?_
  cases rows.alertIds.find? alertId with
  | none     => exact .throw (unconflicted_error (by decide))
  | some key =>
    refine .bind ends_onStore fun _ _ => .bind (ends_refuse (by decide)) fun _ _ => ?_
    exact .bind ends_appendAuditEvent fun _ _ => .pure rfl

theorem responds_updateSettings {approverUserIds : List String} {onboardingCompleted : Bool} :
    Responds (updateSettings options draw context metadata approverUserIds onboardingCompleted) := by
  refine .bind .get fun rows _ => .bind (ends_refuse (by decide)) fun _ _ => ?_
  have hpolicy : Ends (fun _ => True) Unconflicted
      (createApprovalPolicy context.actor.stripeUserId) :=
    .bind (.require (by decide)) fun _ _ => .modify _
  have hcompleted : Ends (fun _ => True) Unconflicted
      (completeOnboarding context.installationId draw.now) :=
    .bind .get fun _ _ => .ite (fun _ => .bind (.set _) fun _ _ => .pure trivial)
      fun _ => .pure trivial
  refine .bind (.modify _) fun _ _ => .bind hpolicy fun _ _ => ?_
  refine .bind (.ite (fun _ => hcompleted) fun _ => .pure trivial) fun _ _ => ?_
  refine .bind (ends_refuse (by decide)) fun _ _ => .bind ends_appendAuditEvent fun _ _ => ?_
  exact .bind ends_settingsOf fun _ _ => .pure rfl

theorem responds_createAuditExport :
    Responds (createAuditExport options draw context metadata) :=
  .bind ends_appendAuditEvent fun _ _ => .pure rfl

theorem responds_performMutation :
    Responds (performMutation options draw context metadata mutation) := by
  cases mutation with
  | contextSync                        => exact responds_synchronizeContext
  | refundRequestCreate _ _ _ _ _ _    => exact responds_createRefundRequest
  | refundRequestDecide _ _ _          => exact responds_decideRefundRequest
  | refundRequestCancel _ _            => exact responds_cancelRefundRequest
  | externalAlertAcknowledge _         => exact responds_acknowledgeAlert
  | settingsUpdate _ _                 => exact responds_updateSettings
  | auditExport                        => exact responds_createAuditExport

end Operations
section Transactions

variable {body : PilotStoreTransaction PilotStoredResponse} {receipt : PilotMutationReceipt}

theorem commits_findMutationReceipt {nonce : String} {r : Option PilotMutationReceipt} :
    (findMutationReceipt nonce).Commits s r s' ↔
      isDatabaseUuid nonce ∧ r = s.receipt? nonce ∧ s' = s := by
  simp [findMutationReceipt, and_comm]

theorem aborts_findMutationReceipt {nonce : String}
    (h : (findMutationReceipt nonce).Aborts s failure) : failure = .unexpected := by
  have hends : Ends (fun _ => True) (· = .unexpected) (findMutationReceipt nonce) :=
    .bind (.require rfl) fun _ _ => .bind .get fun _ _ => .pure trivial
  exact hends.aborts h

theorem assertReceiptMatches_eq_ok {u : Unit} :
    assertReceiptMatches receipt metadata = .ok u ↔ receipt.matches metadata := by
  unfold assertReceiptMatches
  split_ifs with h <;> simp [h]

theorem assertReceiptMatches_eq_error :
    assertReceiptMatches receipt metadata = .error failure ↔
      receipt.matches metadata = false ∧ failure = idempotencyConflict := by
  unfold assertReceiptMatches
  split_ifs with h <;> simp [h, eq_comm]

-- Either the stored receipt answers, or there is none and the body runs.
theorem commits_underReceipt
    (h : (underReceipt context metadata body).Commits s response s') :
    (∃ receipt, s.receipt? metadata.requestNonce = some receipt ∧ receipt.matches metadata ∧
      receipt.response = response ∧ s' = s) ∨
    s.receipt? metadata.requestNonce = none ∧ body.Commits s response s' := by
  obtain ⟨_, _, hfind, h⟩ := commits_bind.mp h
  obtain ⟨_, hr, hs⟩ := commits_findMutationReceipt.mp hfind
  rw [hr, hs] at h
  cases hreceipt : s.receipt? metadata.requestNonce with
  | some receipt =>
    simp only [hreceipt, commits_bind, commits_fromExcept, commits_pure] at h
    obtain ⟨_, _, ⟨hmatch, rfl⟩, rfl, rfl⟩ := h
    exact .inl ⟨receipt, rfl, assertReceiptMatches_eq_ok.mp hmatch, rfl, rfl⟩
  | none =>
    simp only [hreceipt, commits_bind, commits_fromExcept] at h
    obtain ⟨_, _, hinstallation, _, _, ⟨_, hs₂⟩, h⟩ := h
    obtain ⟨rows, hrows, hs₁⟩ := commits_onField.mp hinstallation
    simp only [getInstallationContext, commits_bind, commits_get, commits_pure] at hrows
    obtain ⟨_, _, ⟨_, hrows₁⟩, _, hrows⟩ := hrows
    rw [hs₂, hs₁, hrows, hrows₁] at h
    exact .inr ⟨rfl, h⟩

theorem aborts_underReceipt (hreceipt : s.receipt? metadata.requestNonce = some receipt)
    (h : (underReceipt context metadata body).Aborts s failure) :
    failure = idempotencyConflict ∨ failure = .unexpected := by
  rcases aborts_bind.mp h with hfind | ⟨_, _, hfind, h⟩
  · exact .inr (aborts_findMutationReceipt hfind)
  · obtain ⟨_, hr, hs⟩ := commits_findMutationReceipt.mp hfind
    rw [hr, hs] at h
    simp only [hreceipt, aborts_bind, aborts_fromExcept, assertReceiptMatches_eq_error] at h
    rcases h with ⟨_, rfl⟩ | ⟨_, s₁, _, hpure⟩
    · exact .inl rfl
    · exact (not_aborts_of_commits (commits_pure.mpr ⟨rfl, rfl⟩) hpure).elim

theorem ends_assertCurrentInstallation {installation : Option InstallationContext} :
    Ends (fun _ => True) Unconflicted
      (fromExcept (assertCurrentInstallation installation context) : PilotStoreTransaction Unit) where
  commits _ _ _ _ := trivial
  aborts s e he := by
    have herror := aborts_fromExcept.mp he
    unfold assertCurrentInstallation at herror
    split at herror
    · exact Except.error.inj herror ▸ unconflicted_error (by decide)
    · split_ifs at herror
      · exact Except.error.inj herror ▸ unconflicted_error (by decide)
      · exact Except.error.inj herror ▸ unconflicted_error (by decide)

-- The conflict of a nonce only comes from a stored receipt of another mutation.
theorem refused_of_aborts (hbody : Ends (fun _ => True) Unconflicted body)
    (h : (underReceipt context metadata body).Aborts s idempotencyConflict) :
    ∃ receipt, s.receipt? metadata.requestNonce = some receipt ∧
      receipt.matches metadata = false := by
  rcases aborts_bind.mp h with ha | ⟨_, _, hc, ha⟩
  · cases aborts_findMutationReceipt ha
  obtain ⟨_, hr, hs⟩ := commits_findMutationReceipt.mp hc
  rw [hr, hs] at ha
  cases hreceipt : s.receipt? metadata.requestNonce with
  | some receipt =>
    simp only [hreceipt, aborts_bind, aborts_fromExcept, assertReceiptMatches_eq_error] at ha
    rcases ha with ⟨hmatch, _⟩ | ⟨_, s₁, _, hpure⟩
    · exact ⟨receipt, rfl, hmatch⟩
    · exact (not_aborts_of_commits (commits_pure.mpr ⟨rfl, rfl⟩) hpure).elim
  | none =>
    rw [hreceipt] at ha
    have hrest : Ends (fun _ => True) Unconflicted (do
        let installation ← onRows (getInstallationContext context.installationId)
        fromExcept (assertCurrentInstallation installation context)
        body) :=
      .bind (.onField ends_view fun _ h => h) fun _ _ =>
        .bind ends_assertCurrentInstallation fun _ _ => hbody
    exact (hrest.aborts ha rfl).elim

theorem ends_createMutationReceipt :
    Ends (fun _ => True) Unconflicted (createMutationReceipt draw metadata response) :=
  .bind (.require (by decide)) fun _ _ => .bind .get fun _ _ =>
    .bind (.require (by decide)) fun _ _ => .set _

theorem commits_createMutationReceipt {u : Unit}
    (h : (createMutationReceipt draw metadata response).Commits s u s') :
    s.receipt? metadata.requestNonce = none ∧
      s'.receipt? metadata.requestNonce = some (metadata.receipt response) ∧ s.Extends s' ∧
      s'.applied = s.applied := by
  simp only [createMutationReceipt, commits_bind, commits_require, commits_get, commits_set] at h
  obtain ⟨_, _, ⟨_, rfl⟩, _, _, ⟨rfl, rfl⟩, _, _, ⟨hnone, rfl⟩, rfl⟩ := h
  refine ⟨hnone, by simp [PilotStore.receipt?], fun nonce receipt hreceipt => ?_, rfl⟩
  have hne : nonceKey nonce ≠ nonceKey metadata.requestNonce := fun heq => by
    simp [PilotStore.receipt?, ← heq] at hnone hreceipt
    simp [hnone] at hreceipt
  simpa [PilotStore.receipt?, Table.find?_insert_ne hne] using hreceipt

theorem serves_of_mutate
    (h : (mutate options draw context metadata mutation).Commits s response s') :
    Serves options metadata s response s' := by
  rcases commits_underReceipt h with ⟨receipt, hreceipt, hmatch, hresponse, rfl⟩ | ⟨hnone, h⟩
  · exact .replayed hreceipt hmatch hresponse
  simp only [commits_bind, commits_get, commits_modify] at h
  obtain ⟨_, _, ⟨rfl, rfl⟩, result, _, hmutation, _, _, rfl, h⟩ := h
  obtain ⟨rows, hperform, rfl⟩ := commits_onField.mp hmutation
  -- The response of an operation has the status 200, so its receipt is always stored.
  have hstatus : result.status < 500 := by
    rw [responds_performMutation.commits hperform]
    decide
  simp only [if_pos hstatus, commits_bind, commits_pure] at h
  obtain ⟨_, _, hcreate, rfl, rfl⟩ := h
  obtain ⟨_, hsome, hextends, happlied⟩ := commits_createMutationReceipt hcreate
  exact .performed hnone hsome hextends rfl rfl ⟨draw, context, hperform⟩ happlied

theorem serves_of_storeReceipt {stored : PilotStoredResponse}
    (h : (storeReceipt draw context metadata stored).Commits s response s') :
    Serves options metadata s response s' := by
  rcases commits_underReceipt h with ⟨receipt, hreceipt, hmatch, hresponse, rfl⟩ | ⟨hnone, h⟩
  · exact .replayed hreceipt hmatch hresponse
  simp only [commits_bind, commits_pure] at h
  obtain ⟨_, _, hcreate, rfl, rfl⟩ := h
  obtain ⟨_, hsome, hextends, happlied⟩ := commits_createMutationReceipt hcreate
  exact .stored hnone hsome hextends happlied

theorem refused_of_mutate
    (h : (mutate options draw context metadata mutation).Aborts s idempotencyConflict) :
    ∃ receipt, s.receipt? metadata.requestNonce = some receipt ∧
      receipt.matches metadata = false := by
  refine refused_of_aborts (.bind .get fun _ _ => ?_) h
  refine .bind (.onField responds_performMutation fun _ h => h) fun _ _ => ?_
  refine .bind (.modify _) fun _ _ => .ite (fun _ => ?_) fun _ => .pure trivial
  exact .bind ends_createMutationReceipt fun _ _ => .pure trivial

theorem refused_of_storeReceipt
    (h : (storeReceipt draw context metadata response).Aborts s idempotencyConflict) :
    ∃ receipt, s.receipt? metadata.requestNonce = some receipt ∧
      receipt.matches metadata = false :=
  refused_of_aborts (.bind ends_createMutationReceipt fun _ _ => .pure trivial) h

end Transactions

end PilotPrismaRepository
end RefundDesk
