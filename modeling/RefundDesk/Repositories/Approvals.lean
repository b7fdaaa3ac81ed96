import RefundDesk.Repositories.StoreSoundness

namespace RefundDesk

open Transaction Relation RequestRepository TenantRepository

-- What a change never takes back: the attestations, and the Stripe accounts and users behind the
-- installations and the users.
structure Grows (s s' : Store) : Prop where
  attestations : ∀ id row, s.attestations.find? id = some row → s'.attestations.find? id = some row
  accounts     : ∀ id, (s'.installations.find? id).map (·.stripeAccountId) =
    (s.installations.find? id).map (·.stripeAccountId)
  identities   : ∀ id, (s'.users.find? id).map (·.stripeUserId) =
    (s.users.find? id).map (·.stripeUserId)
  tenantId     : s'.tenantId = s.tenantId
  nonces       : s.NoncesUnique → s'.NoncesUnique

section Grows

variable {now : Timestamp} {footprint : Footprint} {s s' s₁ s₂ : Store}

theorem Grows.of_eq (ha : s'.attestations = s.attestations)
    (hi : s'.installations = s.installations) (hu : s'.users = s.users)
    (ht : s'.tenantId = s.tenantId) : Grows s s' :=
  ⟨fun _ _ h => by rwa [ha], fun _ => by rw [hi], fun _ => by rw [hu], ht,
    fun h => by rwa [Store.NoncesUnique, ha]⟩

theorem Grows.refl (s : Store) : Grows s s :=
  .of_eq rfl rfl rfl rfl

theorem Grows.trans (h : Grows s s₁) (h' : Grows s₁ s₂) : Grows s s₂ where
  attestations id row hf := h'.attestations id row (h.attestations id row hf)
  accounts id            := (h'.accounts id).trans (h.accounts id)
  identities id          := (h'.identities id).trans (h.identities id)
  tenantId               := h'.tenantId.trans h.tenantId
  nonces hunique         := h'.nonces (h.nonces hunique)

theorem grows_of_updateMany {scope : RefundRequest → Bool}
    {m : TriggerEnv → RequestTransaction Bool} {n : Nat}
    (h : (updateMany now scope m).Commits s n s') : Grows s s' := by
  obtain ⟨-, hs'⟩ := traverse_of_updateMany h
  rw [hs']
  exact .of_eq rfl rfl rfl rfl

theorem grows_of_protectRequests {scope : RefundRequest → Bool} {time : Timestamp}
    {conflict : StoreError} {counts : Nat × Nat × Nat}
    (h : (protectRequests now scope time conflict).Commits s counts s') : Grows s s' := by
  obtain ⟨s₁, s₂, h₁, h₂, h₃⟩ := updates_of_protectRequests h
  exact (grows_of_updateMany h₁).trans ((grows_of_updateMany h₂).trans (grows_of_updateMany h₃))

theorem Change.grows (h : Change now footprint s s') : Grows s s' := by
  cases h with
  | request _ _ => exact .of_eq rfl rfl rfl rfl
  | guarded _ h => exact grows_of_protectRequests h
  | alerted _ h =>
    obtain ⟨environment, s₁, counts, conflict, -, hi, hp⟩ := steps_of_observeExternalRefund h
    have hinsert : Grows s s₁ := by
      rw [requests_of_insertAlert hi]
      exact .of_eq rfl rfl rfl rfl
    exact hinsert.trans (grows_of_protectRequests hp)
  | acknowledged h =>
    rcases alerts_of_acknowledge h with rfl | ⟨_, _, rfl⟩
    · exact .refl _
    · exact .of_eq rfl rfl rfl rfl
  | created h =>
    obtain ⟨d, -, rfl⟩ := created_of_createRefundRequest h
    exact .of_eq rfl rfl rfl rfl
  | checkpointed _ => exact .of_eq rfl rfl rfl rfl
  | frame h => exact ⟨h.attestations, h.accounts, h.identities, h.tenantId, h.nonces⟩

end Grows

-- The attestation that an approve decision of a request has consumed.
structure DecisionEvidence (s : Store) (id : String) (row : RefundRequest)
    (decision : ApprovalDecision) (attestationId : String) (attestation : ApprovalAttestation) : Prop where
  referenced   : decision.approvalAttestationId = some attestationId
  stored       : s.attestations.find? attestationId = some attestation
  requestId    : attestation.requestId = id
  approver     : attestation.approverUserId = decision.approverUserId
  distinct     : decision.approverUserId ≠ row.requesterUserId
  installation : attestation.installationId = row.installationId
  account      : (s.installations.find? row.installationId).map (·.stripeAccountId) =
    some attestation.stripeAccountId
  environment  : attestation.environment = row.environment
  version      : attestation.requestVersion = 0
  verified     : row.createdAt ≤ attestation.verifiedAt ∧ attestation.verifiedAt ≤ decision.decidedAt
  consumed     : decision.decidedAt < attestation.consumeBefore ∧
    attestation.consumeBefore ≤ row.expiresAt
  resource     : attestation.resourceType = .paymentIntent ∧
      row.paymentIntentId = some attestation.resourceId ∨
    attestation.resourceType = .charge ∧ row.chargeId = some attestation.resourceId

-- The statuses of a request that has been approved.
def WorkflowStatus.isApproved : WorkflowStatus → Bool
  | approved | executing | reconciliationRequired | succeeded | failedTerminal => true
  | pendingApproval | rejected | canceled | expired | stale                    => false

-- A request is decided once. An approval consumes its evidence, and a rejection consumes none.
structure DecisionsSound (s : Store) (id : String) (d : RefundRequestDetail) : Prop where
  undecided : d.request.workflowStatus = .pendingApproval → d.decisions = []
  single    : d.decisions.length ≤ 1
  approved  : d.request.workflowStatus.isApproved → ∃ decision, d.decisions = [decision] ∧
    decision.decision = .approve
  evidence  : ∀ decision ∈ d.decisions, decision.decision = .approve →
    ∃ attestationId attestation, DecisionEvidence s id d.request decision attestationId attestation
  rejected  : ∀ decision ∈ d.decisions, decision.decision = .reject →
    decision.approvalAttestationId = none

section Decisions

variable {now : Timestamp} {footprint : Footprint} {s s' : Store} {env : TriggerEnv} {id : String}
variable {d d' : RefundRequestDetail} {call : RequestCall} {b : Bool} {row row' : RefundRequest}
variable {decision : ApprovalDecision} {attestationId : String} {attestation : ApprovalAttestation}

theorem DecisionEvidence.grows (h : DecisionEvidence s id row decision attestationId attestation)
    (hs : Grows s s') (hrow : row'.financialSnapshot = row.financialSnapshot) :
    DecisionEvidence s' id row' decision attestationId attestation := by
  simp only [RefundRequest.financialSnapshot, RefundRequest.FinancialSnapshot.mk.injEq] at hrow
  obtain ⟨hinstallation, henv, -, hintent, hcharge, -, -, -, hrequester, -, -, hcreated, hexpires⟩ := hrow
  exact {
    referenced   := h.referenced
    stored       := hs.attestations _ _ h.stored
    requestId    := h.requestId
    approver     := h.approver
    distinct     := hrequester ▸ h.distinct
    installation := hinstallation ▸ h.installation
    account      := (hs.accounts _).trans (hinstallation ▸ h.account)
    environment  := henv ▸ h.environment
    version      := h.version
    verified     := hcreated ▸ h.verified
    consumed     := hexpires ▸ h.consumed
    resource     := by rw [hintent, hcharge]; exact h.resource
  }

theorem DecisionsSound.grows (h : DecisionsSound s id d) (hs : Grows s s') :
    DecisionsSound s' id d where
  undecided := h.undecided
  single    := h.single
  approved  := h.approved
  rejected  := h.rejected
  evidence decision hm ha := by
    obtain ⟨attestationId, attestation, he⟩ := h.evidence decision hm ha
    exact ⟨attestationId, attestation, he.grows hs rfl⟩

-- The row and the decisions develop without a new decision.
theorem DecisionsSound.of_decisions (h : DecisionsSound s id d) (hd : d'.decisions = d.decisions)
    (hrow : d'.request.financialSnapshot = d.request.financialSnapshot)
    (hp : d'.request.workflowStatus = .pendingApproval →
      d.request.workflowStatus = .pendingApproval)
    (ha : d'.request.workflowStatus.isApproved → d.request.workflowStatus.isApproved) :
    DecisionsSound s id d' where
  undecided hw := hd ▸ h.undecided (hp hw)
  single       := hd ▸ h.single
  approved hw  := hd ▸ h.approved (ha hw)
  rejected     := hd ▸ h.rejected
  evidence decision hm happroved := by
    obtain ⟨attestationId, attestation, he⟩ := h.evidence decision (hd ▸ hm) happroved
    exact ⟨attestationId, attestation, he.grows (.refl s) hrow⟩

-- A row goes back to no earlier stage of its approval.
def KeepsStage (row row' : RefundRequest) : Prop :=
  (row'.workflowStatus = .pendingApproval → row.workflowStatus = .pendingApproval) ∧
  (row'.workflowStatus.isApproved → row.workflowStatus.isApproved)

theorem keepsStage_of_follow {input : IdentifiedRefundInput} {new : RefundRequest}
    (h : row.Follow input new) : KeepsStage row new := by
  cases h with
  | corrected hw _ _ | preserved hw _ _ =>
    constructor <;> simp [RefundRequest.moved, hw, WorkflowStatus.isApproved]
  | converged hw _ _ =>
    have happroved : row.workflowStatus.isApproved := by
      rcases (by simpa using hw : _ ∨ _) with hw | hw <;> simp [hw, WorkflowStatus.isApproved]
    refine ⟨fun hp => ?_, fun _ => happroved⟩
    rcases (by simpa using hw : _ ∨ _) with hw | hw <;> unfold followStatus at hp <;>
      split at hp <;> simp_all

theorem keepsStage_of_move {new : RefundRequest}
    (hcall : ∀ attestation accountId decision time,
      call ≠ .recordDecision attestation accountId decision time)
    (h : row.Move call new) : KeepsStage row new := by
  cases h with
  | rejected | approved => exact (hcall _ _ _ _ rfl).elim
  | _ => constructor <;> simp_all [RefundRequest.moved, RefundRequest.ended, WorkflowStatus.isApproved]

theorem keepsStage_of_outcome
    (hcall : ∀ attestation accountId decision time,
      call ≠ .recordDecision attestation accountId decision time)
    (ho : Outcome env d call b d') : KeepsStage d.request d'.request := by
  have stamped {row old new : RefundRequest} (h : KeepsStage row new) :
      KeepsStage row (old.stamped env new) := by simpa [KeepsStage] using h
  cases ho with
  | moved hm _ => exact stamped (keepsStage_of_move hcall hm)
  | noted | decided => exact (hcall _ _ _ _ rfl).elim
  | identified _ _ _ _ _ hf =>
    cases hf with
    | once hf _ => exact stamped (keepsStage_of_follow hf)
    | twice hw _ hpossible _ hd hf _ =>
      subst hd hpossible
      have hstage := keepsStage_of_follow hf
      refine stamped ⟨fun hp => ?_, fun _ => ?_⟩
      · have hpending := hstage.1 hp
        simp only [RefundRequestDetail.replaceRow, RefundRequest.moved,
          RefundRequest.stamped_workflowStatus] at hpending
        exact hpending
      · have hw : d.request.workflowStatus = .reconciliationRequired := hw
        simp [hw, WorkflowStatus.isApproved]
    | _ => exact ⟨id, id⟩
  | _ => exact ⟨id, id⟩

theorem decisions_kept
    (hcall : ∀ attestation accountId decision time,
      call ≠ .recordDecision attestation accountId decision time)
    (ho : Outcome env d call b d') : d'.decisions = d.decisions := by
  cases ho with
  | noted | decided => exact (hcall _ _ _ _ rfl).elim
  | identified _ _ _ _ _ hf =>
    have hsame := decisions_of_followed hf
    exact hsame
  | _ => rfl

theorem DecisionsSound.outcome (h : DecisionsSound s id d)
    (hcall : ∀ attestation accountId decision time,
      call ≠ .recordDecision attestation accountId decision time)
    (ho : Outcome env d call b d') : DecisionsSound s id d' := by
  obtain ⟨hp, ha⟩ := keepsStage_of_outcome hcall ho
  exact h.of_decisions (decisions_kept hcall ho) (RefundRequestDetail.snapshot_outcome ho) hp ha

-- Decisions are only added.
theorem decisions_isPrefix (ho : Outcome env d call b d') : d.decisions <+: d'.decisions := by
  cases ho with
  | noted _ => exact List.prefix_append _ _
  | decided _ hd₁ _ _ =>
    subst hd₁
    exact List.prefix_append _ _
  | identified _ _ _ _ _ hf => rw [decisions_of_followed hf]; exact List.prefix_rfl
  | _ => exact List.prefix_rfl

theorem Change.decisions_kept (hc : Change now footprint s s')
    (hd : s.requests.find? id = some d) :
    ∃ d', s'.requests.find? id = some d' ∧ d.decisions <+: d'.decisions ∧
      d'.request.financialSnapshot = d.request.financialSnapshot := by
  obtain ⟨d', hd', he⟩ := hc.kept id d hd
  refine ⟨d', hd', ?_⟩
  refine preserved_of_run
    (fun d' => d.decisions <+: d'.decisions ∧
      d'.request.financialSnapshot = d.request.financialSnapshot) ?_ he ⟨List.prefix_rfl, rfl⟩
  rintro d₁ d₂ ⟨hkept, hsnapshot⟩ ⟨env, -, -, call, b, -, ho⟩
  exact ⟨hkept.trans (decisions_isPrefix ho),
    (RefundRequestDetail.snapshot_outcome ho).trans hsnapshot⟩

theorem DecisionsSound.created {s₀ : Store} {input : CreateRefundRequestInput}
    (h : Created now s₀ id d input) : DecisionsSound s id d := by
  obtain ⟨rfl, -, -⟩ := h
  constructor <;> simp [CreateRefundRequestInput.row, WorkflowStatus.isApproved]

-- What the trigger has checked when it accepts a decision.
theorem validateDecision_eq_ok {attestation : Option ApprovalAttestation} {accountId : Option String}
    {u : Unit} :
    validateDecision env attestation accountId row decision = .ok u ↔
      decision.approverUserId ≠ row.requesterUserId ∧
      env.approverEnabled decision.approverUserId = true ∧
      row.workflowStatus = .pendingApproval ∧ env.now < row.expiresAt ∧
      row.createdAt ≤ decision.decidedAt ∧ decision.decidedAt < row.expiresAt ∧
      decision.decidedAt ≤ env.now ∧
      (decision.decision = .reject ∧ decision.approvalAttestationId = none ∨
        decision.decision = .approve ∧ decision.approvalAttestationId ≠ none ∧
        ∃ evidence, attestation = some evidence ∧ evidence.requestId = env.requestId ∧
          evidence.approverUserId = decision.approverUserId ∧
          evidence.installationId = row.installationId ∧
          some evidence.stripeAccountId = accountId ∧ evidence.environment = row.environment ∧
          evidence.requestVersion = row.version ∧ row.createdAt ≤ evidence.verifiedAt ∧
          evidence.verifiedAt ≤ decision.decidedAt ∧
          decision.decidedAt < evidence.consumeBefore ∧ evidence.consumeBefore ≤ row.expiresAt ∧
          (evidence.resourceType = .paymentIntent ∧
              row.paymentIntentId = some evidence.resourceId ∨
            evidence.resourceType = .charge ∧ row.chargeId = some evidence.resourceId)) := by
  unfold validateDecision
  cases hkind : decision.decision <;> cases attestation <;>
    simp only [ite_raise_eq_ok, raise_ne_ok, reduceCtorEq, if_true, if_false] <;> grind

-- A decision ends the wait of its request, which has none before.
theorem DecisionsSound.decided (h : DecisionsSound s id d)
    (hwaiting : d.request.workflowStatus = .pendingApproval →
      d.request.effectState = .notStarted ∧ d.request.version = 0)
    {time : Timestamp} {r : DecisionResult} (henv : env.requestId = id)
    (hc : (RequestRepository.recordDecision env
      (decision.approvalAttestationId.bind s.attestations.find?)
      ((s.installations.find? d.request.installationId).map (·.stripeAccountId))
      decision time).Commits d r d') :
    DecisionsSound s id d' := by
  simp only [RequestRepository.recordDecision, commits_bind, commits_get, commits_set, commits_ite,
    commits_require, commits_fromExcept, commits_updateRequest, commits_pure] at hc
  obtain ⟨_, _, ⟨rfl, rfl⟩, _, _, ⟨hv, rfl⟩, _, d₀, ⟨_, rfl⟩, _, _, rfl, hc⟩ := hc
  obtain ⟨hdistinct, -, hpending, -, -, -, -, hkind⟩ := validateDecision_eq_ok.mp hv
  obtain ⟨hstarted, hversion⟩ := hwaiting hpending
  have hnone := h.undecided hpending
  rcases hkind with ⟨hreject, hunreferenced⟩ | ⟨happrove, -, evidence, hevidence, hid, happrover, hinstallation,
    haccount, henvironment, hrequestVersion, hcreated, hverified, hconsumed, hexpires, hresource⟩
  · obtain ⟨-, _, _, hr, -, rfl⟩ | ⟨hne, -⟩ := hc
    case inr => exact (hne hreject).elim
    rcases hr with ⟨hg, -⟩ | ⟨-, -, ha, rfl⟩
    · simp [hpending, hstarted] at hg
    constructor <;>
      simp [RefundRequestDetail.replaceRow, hnone, hreject, hunreferenced,
        WorkflowStatus.isApproved]
  · obtain ⟨hreject, -⟩ | ⟨-, _, _, hr, -, rfl⟩ := hc
    case inl => simp [happrove] at hreject
    rcases hr with ⟨hg, -⟩ | ⟨-, -, ha, rfl⟩
    · simp [hpending] at hg
    obtain ⟨attestationId, hreferenced, hstored⟩ := Option.bind_eq_some_iff.mp hevidence
    have hsound : DecisionEvidence s id d₀.request decision attestationId evidence := {
      referenced   := hreferenced
      stored       := hstored
      requestId    := hid.trans henv
      approver     := happrover
      distinct     := hdistinct
      installation := hinstallation
      account      := haccount.symm
      environment  := henvironment
      version      := hrequestVersion.trans hversion
      verified     := ⟨hcreated, hverified⟩
      consumed     := ⟨hconsumed, hexpires⟩
      resource     := hresource
    }
    constructor
    case undecided => simp [RefundRequestDetail.replaceRow]
    case single => simp [RefundRequestDetail.replaceRow, hnone]
    case approved => simp [RefundRequestDetail.replaceRow, hnone, happrove]
    case rejected => simp [RefundRequestDetail.replaceRow, hnone, happrove]
    case evidence =>
      intro decision' hm _
      obtain rfl : decision' = decision := by
        simpa [RefundRequestDetail.replaceRow, hnone] using hm
      exact ⟨attestationId, evidence, hsound.grows (.refl s) (by simp [RefundRequestDetail.replaceRow]; rfl)⟩

theorem DecisionsSound.change (hc : Change now footprint s s')
    (hf : ∀ id d call b, footprint id d call b → ∀ attestation accountId decision time,
      call ≠ .recordDecision attestation accountId decision time)
    (h : ∀ id d, s.requests.find? id = some d → DecisionsSound s id d) :
    ∀ id d, s'.requests.find? id = some d → DecisionsSound s' id d :=
  hc.eachRequest (P := DecisionsSound s') .created
    (fun _ hcall hd ho => hd.outcome (hf _ _ _ _ hcall) ho) fun id d hd => (h id d hd).grows hc.grows

theorem DecisionsSound.recordDecision {requestId : String} {time : Timestamp}
    {r : Option DecisionResult}
    (hwaiting : ∀ id d, s.requests.find? id = some d →
      d.request.workflowStatus = .pendingApproval →
      d.request.effectState = .notStarted ∧ d.request.version = 0)
    (hc : (TenantRepository.recordDecision now requestId decision time).Commits s r s')
    (h : ∀ id d, s.requests.find? id = some d → DecisionsSound s id d) :
    ∀ id d, s'.requests.find? id = some d → DecisionsSound s' id d := by
  simp only [TenantRepository.recordDecision, commits_bind, commits_get] at hc
  obtain ⟨_, _, ⟨rfl, rfl⟩, hc⟩ := hc
  rcases commits_onRequest.mp hc with ⟨-, -, rfl⟩ | ⟨d₀, a, d', hd₀, hm, -, rfl⟩
  · exact h
  simp only [commits_bind, commits_get] at hm
  obtain ⟨_, _, ⟨rfl, rfl⟩, hm⟩ := hm
  intro id d hd
  simp only [Store.putRequest, Table.find?_insert] at hd
  split_ifs at hd with hid
  · obtain rfl := Option.some.inj hd
    subst hid
    have hdecided := (h _ _ hd₀).decided (hwaiting _ _ hd₀) rfl hm
    exact hdecided.grows (.of_eq rfl rfl rfl rfl)
  · exact (h id d hd).grows (.of_eq rfl rfl rfl rfl)

end Decisions
end RefundDesk
