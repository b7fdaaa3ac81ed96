import RefundDesk.Repositories.Reconciliation
import RefundDesk.Repositories.Lifecycle

namespace RefundDesk

open Transaction Relation RequestRepository TenantRepository

-- Which calls a transaction may make, by the request, its rows before the call, and the result.
abbrev Footprint := String → RefundRequestDetail → RequestCall → Bool → Prop

-- The effect of an allowed call.
def CallStep (env : TriggerEnv) (allowed : RefundRequestDetail → RequestCall → Bool → Prop)
    (d d' : RefundRequestDetail) : Prop :=
  ∃ call b, allowed d call b ∧ Outcome env d call b d'

-- The calls that protect a request against an external refund or a deauthorization.
def protectiveCalls (time : Timestamp) : List RequestCall :=
  [.markStale time, .markFailedWithoutEffect time, .markEffectForReconciliation]

-- The attestations have different nonces.
def Store.NoncesUnique (s : Store) : Prop :=
  ∀ id id' row row', s.attestations.find? id = some row → s.attestations.find? id' = some row' →
    row.requestNonce = row'.requestNonce → id = id'

-- A change of the store that leaves the requests, the alerts and the checkpoints alone.
structure Frame (s s' : Store) : Prop where
  tenantId      : s'.tenantId = s.tenantId
  requests      : s'.requests = s.requests
  alerts        : s'.alerts = s.alerts
  checkpoints   : s'.checkpoints = s.checkpoints
  installations : ∀ id, (s'.installations.find? id).map (·.environment) =
    (s.installations.find? id).map (·.environment)
  users         : ∀ id, (s.users.find? id).isSome → (s'.users.find? id).isSome
  accounts      : ∀ id, (s'.installations.find? id).map (·.stripeAccountId) =
    (s.installations.find? id).map (·.stripeAccountId)
  identities    : ∀ id, (s'.users.find? id).map (·.stripeUserId) =
    (s.users.find? id).map (·.stripeUserId)
  attestations  : ∀ id row, s.attestations.find? id = some row →
    s'.attestations.find? id = some row
  nonces        : s.NoncesUnique → s'.NoncesUnique

-- What a transaction does to a store, one method at a time. Only the transaction that ends a scan,
-- which is the one that may resume an execution, moves a checkpoint.
inductive Change (now : Timestamp) (footprint : Footprint) : Store → Store → Prop
  | request {s requestId d d'} :
    s.requests.find? requestId = some d →
    ReflTransGen (CallStep (s.triggerEnv now requestId d.request) (footprint requestId)) d d' →
    Change now footprint s (s.putRequest requestId d')
  | guarded {s counts s' scope time conflict} :
    (∀ id d, ∀ call ∈ protectiveCalls time, ∀ b, footprint id d call b) →
    (protectRequests now scope time conflict).Commits s counts s' → Change now footprint s s'
  | alerted {s r s' input} :
    (∀ id d, ∀ call ∈ protectiveCalls input.observedAt, ∀ b, footprint id d call b) →
    (observeExternalRefund now input).Commits s r s' → Change now footprint s s'
  | acknowledged {s b s' key userId time} :
    (acknowledgeExternalRefundAlert key userId time).Commits s b s' → Change now footprint s s'
  | created {s s' requestId input u} :
    (createRefundRequest now requestId input).Commits s u s' → Change now footprint s s'
  | checkpointed {s checkpoints time} :
    (∀ id d, footprint id d (.resumeExecutionAfterAbsence time) true) →
    Change now footprint s { s with checkpoints }
  | frame {s s'} : Frame s s' → Change now footprint s s'

-- How the rows of a request can develop by allowed calls, whatever the rest of the store is then.
def Evolves (now : Timestamp) (footprint : Footprint) (requestId : String) :
    RefundRequestDetail → RefundRequestDetail → Prop :=
  ReflTransGen fun d d' => ∃ env : TriggerEnv, env.requestId = requestId ∧ env.now = now ∧
    CallStep env (footprint requestId) d d'

-- Every request of the first store is in the second one, with rows that have developed.
def Kept (now : Timestamp) (footprint : Footprint) (s s' : Store) : Prop :=
  ∀ requestId d, s.requests.find? requestId = some d →
    ∃ d', s'.requests.find? requestId = some d' ∧ Evolves now footprint requestId d d'

-- The rows of a request when it is created.
structure Created (now : Timestamp) (s : Store) (requestId : String) (d : RefundRequestDetail)
    (input : CreateRefundRequestInput) : Prop where
  rows    : d = {
    request := input.row now, decisions := [], execution := none, candidates := .empty, images := []
  }
  guarded : (input.row now).guardExternalPaymentProtection
    (s.triggerEnv now requestId (input.row now)) = .ok (input.row now)
  checked : checkCreatedRequest s requestId (input.row now) = .ok (input.row now)

-- A request that only the second store has was created.
def Fresh (now : Timestamp) (s s' : Store) : Prop :=
  ∀ requestId d, s.requests.find? requestId = none → s'.requests.find? requestId = some d →
    ∃ input, Created now s requestId d input

section UpdateMany

variable {now : Timestamp} {scope : RefundRequest → Bool} {m : TriggerEnv → RequestTransaction Bool}
variable {s s' : Store} {n : Nat}

-- What `updateMany` does to the row of a request.
def UpdatedBy (now : Timestamp) (scope : RefundRequest → Bool)
    (m : TriggerEnv → RequestTransaction Bool) (s : Store) (requestId : String)
    (d d' : RefundRequestDetail) : Prop :=
  scope d.request = false ∧ d' = d ∨
  scope d.request = true ∧ ∃ b, (m (s.triggerEnv now requestId d.request)).Commits d b d'

theorem updateMany_row_eq_ok {requestId : String} {d d' : RefundRequestDetail} :
    (if scope d.request then
        ((m (s.triggerEnv now requestId d.request)).run d).map (·.2)
      else .ok d : Except StoreError RefundRequestDetail) = .ok d' ↔
      UpdatedBy now scope m s requestId d d' := by
  unfold UpdatedBy Commits
  cases hs : scope d.request with
  | false => simp [eq_comm]
  | true  =>
    cases hr : (m (s.triggerEnv now requestId d.request)).run d with
    | error e => simp [Except.map]
    | ok r    => simp [Except.map, Prod.ext_iff]

theorem traverse_of_updateMany (h : (updateMany now scope m).Commits s n s') :
    (s.requests.traverse fun requestId d =>
      if scope d.request then
        ((m (s.triggerEnv now requestId d.request)).run d).map (·.2)
      else .ok d) = .ok s'.requests ∧ s' = { s with requests := s'.requests } := by
  simp only [updateMany, commits_bind, commits_get, commits_fromExcept, commits_set,
    commits_pure] at h
  obtain ⟨_, _, ⟨rfl, rfl⟩, requests', _, ⟨ht, rfl⟩, _, _, rfl, rfl, rfl⟩ := h
  exact ⟨ht, rfl⟩

theorem find?_of_updateMany (h : (updateMany now scope m).Commits s n s') (requestId : String)
    (d' : RefundRequestDetail) :
    s'.requests.find? requestId = some d' ↔
      ∃ d, s.requests.find? requestId = some d ∧ UpdatedBy now scope m s requestId d d' := by
  rw [Table.find?_of_traverse (traverse_of_updateMany h).1]
  simp only [updateMany_row_eq_ok]

theorem kept_of_updateMany (h : (updateMany now scope m).Commits s n s') {requestId : String}
    {d : RefundRequestDetail} (hd : s.requests.find? requestId = some d) :
    ∃ d', s'.requests.find? requestId = some d' ∧ UpdatedBy now scope m s requestId d d' := by
  obtain ⟨d', hd'⟩ := Table.traverse_ok.mp ⟨_, (traverse_of_updateMany h).1⟩ requestId d hd
  have hu := updateMany_row_eq_ok.mp hd'
  exact ⟨d', (find?_of_updateMany h requestId d').mpr ⟨d, hd, hu⟩, hu⟩

end UpdateMany

section Kept

variable {now : Timestamp} {footprint : Footprint} {s s' s₁ s₂ : Store}

theorem Kept.refl (s : Store) : Kept now footprint s s :=
  fun _ d hd => ⟨d, hd, .refl⟩

theorem Kept.trans (h₁ : Kept now footprint s s₁) (h₂ : Kept now footprint s₁ s₂) :
    Kept now footprint s s₂ := by
  intro requestId d hd
  obtain ⟨d₁, hd₁, he₁⟩ := h₁ requestId d hd
  obtain ⟨d₂, hd₂, he₂⟩ := h₂ requestId d₁ hd₁
  exact ⟨d₂, hd₂, he₁.trans he₂⟩

theorem Kept.of_requests_eq (h : s'.requests = s.requests) : Kept now footprint s s' :=
  fun _ d hd => ⟨d, h ▸ hd, .refl⟩

theorem kept_of_updateMany_call {call : RequestCall} {scope : RefundRequest → Bool}
    {n : Nat} (hf : ∀ id d b, footprint id d call b)
    (h : (updateMany now scope call.run).Commits s n s') : Kept now footprint s s' := by
  intro requestId d hd
  obtain ⟨d', hd', hu⟩ := kept_of_updateMany h hd
  refine ⟨d', hd', ?_⟩
  rcases hu with ⟨_, rfl⟩ | ⟨_, b, hc⟩
  · exact .refl
  · exact .single ⟨_, rfl, rfl, call, b, hf _ _ _, RequestCall.outcome_of_run hc⟩

theorem keys_of_updateMany {m : TriggerEnv → RequestTransaction Bool}
    {scope : RefundRequest → Bool} {n : Nat} (h : (updateMany now scope m).Commits s n s')
    {requestId : String} (hd : s.requests.find? requestId = none) :
    s'.requests.find? requestId = none := by
  refine Option.eq_none_iff_forall_ne_some.mpr fun d' hd' => ?_
  obtain ⟨d, hsome, _⟩ := (find?_of_updateMany h requestId d').mp hd'
  simp [hd] at hsome

-- The three updates that `protectRequests` makes.
theorem updates_of_protectRequests {scope : RefundRequest → Bool} {time : Timestamp}
    {conflict : StoreError} {counts : Nat × Nat × Nat}
    (h : (protectRequests now scope time conflict).Commits s counts s') :
    ∃ s₁ s₂, (updateMany now scope (RequestCall.markStale time).run).Commits s counts.1 s₁ ∧
      (updateMany now scope (RequestCall.markFailedWithoutEffect time).run).Commits s₁ counts.2.1 s₂ ∧
      (updateMany now scope RequestCall.markEffectForReconciliation.run).Commits s₂ counts.2.2 s' := by
  simp only [protectRequests, commits_bind, commits_get, commits_require, commits_pure] at h
  obtain ⟨_, _, ⟨rfl, rfl⟩, stale, s₁, h₁, terminal, s₂, h₂, reconciliation, s₃, h₃, _, _, ⟨_, rfl⟩,
    rfl, rfl⟩ := h
  exact ⟨s₁, s₂, h₁, h₂, h₃⟩

theorem kept_of_protectRequests {scope : RefundRequest → Bool} {time : Timestamp}
    {conflict : StoreError} {counts : Nat × Nat × Nat}
    (hf : ∀ id d, ∀ call ∈ protectiveCalls time, ∀ b, footprint id d call b)
    (h : (protectRequests now scope time conflict).Commits s counts s') :
    Kept now footprint s s' := by
  obtain ⟨s₁, s₂, h₁, h₂, h₃⟩ := updates_of_protectRequests h
  refine (kept_of_updateMany_call ?_ h₁).trans <| (kept_of_updateMany_call ?_ h₂).trans <|
    kept_of_updateMany_call ?_ h₃ <;>
  exact fun id d => hf id d _ (by simp [protectiveCalls])

theorem keys_of_protectRequests {scope : RefundRequest → Bool} {time : Timestamp}
    {conflict : StoreError} {counts : Nat × Nat × Nat}
    (h : (protectRequests now scope time conflict).Commits s counts s') {requestId : String}
    (hd : s.requests.find? requestId = none) : s'.requests.find? requestId = none := by
  obtain ⟨s₁, s₂, h₁, h₂, h₃⟩ := updates_of_protectRequests h
  exact keys_of_updateMany h₃ (keys_of_updateMany h₂ (keys_of_updateMany h₁ hd))

-- `observeExternalRefund` writes the alert, then it protects the requests of the payment.
theorem steps_of_observeExternalRefund {input : ExternalRefundObservationInput}
    {r : ExternalRefundAlert × RequestTransition}
    (h : (observeExternalRefund now input).Commits s r s') :
    ∃ environment s₁ counts conflict, pilotEnvironment s input.installationId = .ok environment ∧
      (insertAlert input environment).Commits s r.1 s₁ ∧
      (protectRequests now (input.scope environment) input.observedAt conflict).Commits
        s₁ counts s' := by
  simp only [observeExternalRefund, commits_bind, commits_get, commits_require, commits_fromExcept,
    commits_pure] at h
  obtain ⟨_, _, ⟨_, rfl⟩, _, _, ⟨rfl, rfl⟩, environment, _, ⟨he, rfl⟩, _, _, ⟨_, rfl⟩, alert, s₁, ha,
    counts, s₂, hp, rfl, rfl⟩ := h
  exact ⟨environment, s₁, counts, _, he, ha, hp⟩

theorem requests_of_insertAlert {input : ExternalRefundObservationInput}
    {environment : StripeEnvironment} {alert : ExternalRefundAlert}
    (h : (insertAlert input environment).Commits s alert s') :
    s' = { s with alerts := s.alerts.insert input.alertKey alert } := by
  simp only [insertAlert, commits_bind, commits_get, commits_require, commits_fromExcept,
    commits_set, commits_pure] at h
  obtain ⟨_, _, ⟨rfl, rfl⟩, created, _, ⟨_, rfl⟩, _, _, rfl, _, _, ⟨_, rfl⟩, rfl, rfl⟩ := h
  rfl

theorem kept_of_putRequest {requestId : String} {d d' : RefundRequestDetail}
    (hd : s.requests.find? requestId = some d) (he : Evolves now footprint requestId d d') :
    Kept now footprint s (s.putRequest requestId d') := by
  intro id d₁ hd₁
  by_cases hid : id = requestId
  · subst hid
    obtain rfl := Option.some.inj (hd.symm.trans hd₁)
    exact ⟨d', by simp [Store.putRequest], he⟩
  · exact ⟨d₁, by simp [Store.putRequest, Table.find?_insert_ne hid, hd₁], .refl⟩

theorem evolves_of_run {env : TriggerEnv} {requestId : String} {d d' : RefundRequestDetail}
    (hid : env.requestId = requestId) (hnow : env.now = now)
    (h : ReflTransGen (CallStep env (footprint requestId)) d d') :
    Evolves now footprint requestId d d' :=
  ReflTransGen.mono (fun _ _ hc => ⟨env, hid, hnow, hc⟩) _ _ h

theorem checkCreatedRequest_eq_ok {requestId : String} {row row' : RefundRequest} :
    checkCreatedRequest s requestId row = .ok row' ↔
      row' = row ∧ checkCreatedRequest s requestId row = .ok row := by
  simp only [checkCreatedRequest, ite_raise_eq_ok, Except.ok.injEq]
  grind

theorem created_of_createRefundRequest {requestId : String} {input : CreateRefundRequestInput}
    {u : Unit} (h : (createRefundRequest now requestId input).Commits s u s') :
    ∃ d, Created now s requestId d input ∧ s' = s.putRequest requestId d := by
  simp only [createRefundRequest, commits_bind, commits_get, commits_require, commits_fromExcept,
    commits_set] at h
  obtain ⟨_, _, ⟨rfl, rfl⟩, row, _, ⟨hg, rfl⟩, _, _, ⟨_, rfl⟩, row', _, ⟨hc, rfl⟩, rfl⟩ := h
  obtain ⟨rfl, -⟩ := RefundRequest.guardExternalPaymentProtection_eq_ok.mp hg
  obtain ⟨rfl, hc⟩ := checkCreatedRequest_eq_ok.mp hc
  exact ⟨_, ⟨rfl, hg, hc⟩, rfl⟩

theorem Created.absent {requestId : String} {d : RefundRequestDetail}
    {input : CreateRefundRequestInput} (h : Created now s requestId d input) :
    s.requests.find? requestId = none := by
  have hc := h.checked
  simp only [checkCreatedRequest, ite_raise_eq_ok] at hc
  exact Option.not_isSome_iff_eq_none.mp hc.2.1

theorem alerts_of_acknowledge {key : String ×ₗ String} {userId : String} {time : Timestamp}
    {b : Bool} (h : (acknowledgeExternalRefundAlert key userId time).Commits s b s') :
    s' = s ∨ ∃ alert, s.alerts.find? key = some alert ∧ s' = { s with
      alerts := s.alerts.insert key { alert with
        status               := .acknowledged
        acknowledgedAt       := some time
        acknowledgedByUserId := some userId
      }
    } := by
  simp only [acknowledgeExternalRefundAlert, commits_bind, commits_get] at h
  obtain ⟨_, _, ⟨rfl, rfl⟩, h⟩ := h
  split at h
  case h_1 =>
    obtain ⟨_, rfl⟩ := commits_pure.mp h
    exact .inl rfl
  case h_2 alert ha =>
    simp only [commits_ite, commits_bind, commits_set, commits_pure] at h
    rcases h with ⟨_, _, _, rfl, _, rfl⟩ | ⟨_, _, rfl⟩
    · exact .inr ⟨alert, ha, rfl⟩
    · exact .inl rfl

theorem Change.kept (h : Change now footprint s s') : Kept now footprint s s' := by
  cases h with
  | request hd hrun => exact kept_of_putRequest hd (evolves_of_run rfl rfl hrun)
  | guarded hf h => exact kept_of_protectRequests hf h
  | alerted hf h =>
    obtain ⟨environment, s₁, counts, conflict, -, ha, hp⟩ := steps_of_observeExternalRefund h
    refine Kept.trans (.of_requests_eq ?_) (kept_of_protectRequests hf hp)
    rw [requests_of_insertAlert ha]
  | acknowledged h =>
    rcases alerts_of_acknowledge h with rfl | ⟨_, _, rfl⟩
    · exact .refl _
    · exact .of_requests_eq rfl
  | @created _ requestId _ _ h =>
    obtain ⟨d, hc, rfl⟩ := created_of_createRefundRequest h
    intro id d₁ hd₁
    have hid : id ≠ requestId := by
      rintro rfl
      simp [hc.absent] at hd₁
    exact ⟨d₁, by simp [Store.putRequest, Table.find?_insert_ne hid, hd₁], .refl⟩
  | checkpointed _ => exact .of_requests_eq rfl
  | frame h => exact .of_requests_eq h.requests

theorem Change.fresh (h : Change now footprint s s') : Fresh now s s' := by
  intro id d hn hd
  cases h with
  | @request requestId _ _ hd₁ _ =>
    have hid : id ≠ requestId := by
      rintro rfl
      simp [hn] at hd₁
    simp [Store.putRequest, Table.find?_insert_ne hid, hn] at hd
  | guarded _ h => simp [keys_of_protectRequests h hn] at hd
  | alerted _ h =>
    obtain ⟨environment, s₁, counts, conflict, -, ha, hp⟩ := steps_of_observeExternalRefund h
    have hn₁ : s₁.requests.find? id = none := by rw [requests_of_insertAlert ha]; exact hn
    simp [keys_of_protectRequests hp hn₁] at hd
  | acknowledged h =>
    rcases alerts_of_acknowledge h with rfl | ⟨_, _, rfl⟩ <;> simp [hn] at hd
  | created h =>
    obtain ⟨d₁, hc, rfl⟩ := created_of_createRefundRequest h
    simp only [Store.putRequest, Table.find?_insert, hn] at hd
    split_ifs at hd with hid
    · obtain rfl := Option.some.inj hd
      exact ⟨_, hid ▸ hc⟩
  | checkpointed _ => simp [hn] at hd
  | frame h => simp [h.requests, hn] at hd

-- A property of the rows of a request that creation establishes and every allowed call preserves.
theorem Change.eachRequest {P : String → RefundRequestDetail → Prop}
    (hcreated : ∀ {s requestId d input}, Created now s requestId d input → P requestId d)
    (hcall : ∀ {env : TriggerEnv} {d call b d'}, env.now = now →
      footprint env.requestId d call b → P env.requestId d → Outcome env d call b d' →
      P env.requestId d')
    (h : Change now footprint s s') (hs : ∀ id d, s.requests.find? id = some d → P id d) :
    ∀ id d, s'.requests.find? id = some d → P id d := by
  intro id d' hd'
  cases hd : s.requests.find? id with
  | none   =>
    obtain ⟨input, hc⟩ := h.fresh id d' hd hd'
    exact hcreated hc
  | some d =>
    obtain ⟨d₁, hd₁, he⟩ := h.kept id d hd
    obtain rfl := Option.some.inj (hd₁.symm.trans hd')
    refine preserved_of_run (P id) ?_ he (hs id d hd)
    rintro d d' hp ⟨env, rfl, hnow, call, b, hf, ho⟩
    exact hcall hnow hf hp ho

end Kept
end RefundDesk
