import RefundDesk.Repositories.Protection

namespace RefundDesk

open Transaction Relation RequestRepository TenantRepository

namespace RefundRequestDetail

variable {now time : Timestamp} {d : RefundRequestDetail}

-- The statuses of a request that an unresolved external refund of its payment rules out.
def unprotectedStatuses : List WorkflowStatus :=
  [.pendingApproval, .approved, .executing]

theorem protected_rows :
    (d.protected now time).execution = d.execution ∧ (d.protected now time).decisions = d.decisions ∧
      (d.protected now time).candidates = d.candidates ∧
      (d.protected now time).request.financialSnapshot = d.request.financialSnapshot := by
  unfold RefundRequestDetail.protected
  split_ifs <;> exact ⟨rfl, rfl, rfl, rfl⟩

@[simp]
theorem protected_execution : (d.protected now time).execution = d.execution :=
  protected_rows.1

@[simp]
theorem protected_linkedRefundId : (d.protected now time).linkedRefundId = d.linkedRefundId := by
  simp [linkedRefundId]

-- A request that the protective updates leave open was closed to them before.
theorem eq_of_protected_open
    (h : (d.protected now time).request.workflowStatus ∈ unprotectedStatuses) :
    d.protected now time = d := by
  unfold RefundRequestDetail.protected at h ⊢
  split_ifs at h ⊢ <;> simp_all [unprotectedStatuses, replaceRow, RefundRequest.ended,
    RefundRequest.moved]

-- No protected request can still be executed.
theorem settled_of_protected (h : RequestSound d) :
    (d.protected now time).request.workflowStatus ∉ unprotectedStatuses := by
  intro hopen
  have hsame := eq_of_protected_open hopen
  rw [hsame] at hopen
  have hw : d.request.workflowStatus = .pendingApproval ∨ d.request.workflowStatus = .approved ∨
      d.request.workflowStatus = .executing := by simpa [unprotectedStatuses] using hopen
  have hguard : d.request.paymentGuardReleasedAt = none := by
    rw [← Option.not_isSome_iff_eq_none, h.coherent.guard]
    rcases hw with hw | hw | hw <;> simp [hw, WorkflowStatus.isTerminal]
  have hchange : isUnstarted d.request ∨ isExecutingWithoutEffect d.request ∨
      isExecutingWithEffect d.request := by
    rw [isUnstarted_iff, isExecutingWithoutEffect_iff, isExecutingWithEffect_iff]
    rcases hw with hw | hw | hw
    · exact .inl ⟨by simp [hw], h.coherent.unstarted (by simp [hw]), hguard⟩
    · exact .inl ⟨by simp [hw], h.coherent.unstarted (by simp [hw]), hguard⟩
    · cases he : d.request.effectState <;> simp [hw, hguard]
  have hversion : (d.protected now time).request.version = d.request.version + 1 := by
    unfold RefundRequestDetail.protected
    split_ifs <;> first | rfl | simp_all
  rw [hsame] at hversion
  omega

end RefundRequestDetail

namespace Store

variable {s : Store} {requestId refundId : String} {row : RefundRequest}

theorem refundLinkedElsewhere_eq_false :
    s.refundLinkedElsewhere requestId refundId = false ↔
      ∀ id d, s.requests.find? id = some d → d.linkedRefundId = some refundId → id = requestId := by
  simp only [refundLinkedElsewhere, List.any_eq_false, Bool.and_eq_true, decide_eq_true_eq,
    Bool.decide_and, RefundRequestDetail.linkedRefundId]
  constructor
  · intro h id d hd hlink
    by_contra hne
    obtain ⟨execution, he, hl⟩ := Option.bind_eq_some_iff.mp hlink
    exact h (id, d) (Table.mem_entries_iff.mpr hd) ⟨hne, by simp [he, hl]⟩
  · rintro h ⟨id, d⟩ hmem ⟨hne, hany⟩
    refine hne (h id d (Table.mem_entries_iff.mp hmem) ?_)
    cases he : d.execution with
    | none           => simp [he] at hany
    | some execution => simpa [he] using hany

theorem hasPaymentProtection_iff :
    s.hasPaymentProtection row ↔ ∃ key alert, s.alerts.find? key = some alert ∧
      (ofLex key).1 = row.installationId ∧ alert.environment = row.environment ∧
      alert.paymentKey = row.paymentKey ∧ alert.reconciledAt = none := by
  simp only [hasPaymentProtection, hasUnresolvedAlert, List.any_eq_true, decide_eq_true_eq]
  constructor
  · rintro ⟨⟨key, alert⟩, hmem, h⟩
    exact ⟨key, alert, Table.mem_entries_iff.mp hmem, h⟩
  · rintro ⟨key, alert, hf, h⟩
    exact ⟨(key, alert), Table.mem_entries_iff.mpr hf, h⟩

theorem hasPaymentProtection_congr {row' : RefundRequest}
    (h : row'.financialSnapshot = row.financialSnapshot) :
    s.hasPaymentProtection row' = s.hasPaymentProtection row := by
  have hi : row'.installationId = row.installationId :=
    congrArg RefundRequest.FinancialSnapshot.installationId h
  have he : row'.environment = row.environment :=
    congrArg RefundRequest.FinancialSnapshot.environment h
  have hk : row'.paymentKey = row.paymentKey :=
    congrArg RefundRequest.FinancialSnapshot.paymentKey h
  simp [hasPaymentProtection, hi, he, hk]

end Store

-- What a request references is in the store.
structure References (s : Store) (d : RefundRequestDetail) : Prop where
  installation : (s.installations.find? d.request.installationId).map (·.environment) =
    some d.request.environment
  requester    : (s.users.find? d.request.requesterUserId).isSome
  approvers    : ∀ decision ∈ d.decisions, (s.users.find? decision.approverUserId).isSome

theorem References.transfer {s s' : Store} {d d' : RefundRequestDetail} (h : References s d)
    (hi : ∀ id, (s'.installations.find? id).map (·.environment) =
      (s.installations.find? id).map (·.environment))
    (hu : ∀ id, (s.users.find? id).isSome → (s'.users.find? id).isSome)
    (hs : d'.request.financialSnapshot = d.request.financialSnapshot)
    (hdecisions : d'.decisions = d.decisions) : References s' d' := by
  have hinstallation : d'.request.installationId = d.request.installationId :=
    congrArg RefundRequest.FinancialSnapshot.installationId hs
  have henvironment : d'.request.environment = d.request.environment :=
    congrArg RefundRequest.FinancialSnapshot.environment hs
  have hrequester : d'.request.requesterUserId = d.request.requesterUserId :=
    congrArg RefundRequest.FinancialSnapshot.requesterUserId hs
  refine ⟨?_, ?_, ?_⟩
  · rw [hinstallation, henvironment, hi]
    exact h.installation
  · exact hrequester ▸ hu _ h.requester
  · exact fun decision hd => hu _ (h.approvers decision (hdecisions ▸ hd))

-- What holds of every store that the application reaches.
structure StoreSound (s : Store) : Prop where
  requests   : ∀ id d, s.requests.find? id = some d → RequestSound d
  links      : ∀ id id' d d' refundId, s.requests.find? id = some d →
    s.requests.find? id' = some d' → d.linkedRefundId = some refundId →
    d'.linkedRefundId = some refundId → id = id'
  protection : ∀ id d, s.requests.find? id = some d →
    d.request.workflowStatus ∈ RefundRequestDetail.unprotectedStatuses →
    s.hasPaymentProtection d.request = false
  references : ∀ id d, s.requests.find? id = some d → References s d
  alerts     : ∀ key alert, s.alerts.find? key = some alert →
    alert.check (ofLex key).2 = .ok alert

section Calls

variable {env : TriggerEnv} {d d' : RefundRequestDetail} {call : RequestCall} {b : Bool}

-- An open row has been stored when no external refund protected its payment.
theorem unprotected_of_outcome (ho : Outcome env d call b d')
    (h : d.request.workflowStatus ∈ RefundRequestDetail.unprotectedStatuses →
      env.paymentProtected = false)
    (hw : d'.request.workflowStatus ∈ RefundRequestDetail.unprotectedStatuses) :
    env.paymentProtected = false := by
  have accepted {d₁ : RefundRequestDetail} {old new : RefundRequest}
      (ha : RefundRequest.Accepted env d₁ new)
      (hw : (old.stamped env new).workflowStatus ∈ RefundRequestDetail.unprotectedStatuses) :
      env.paymentProtected = false :=
    ha.unprotected (by rwa [RefundRequest.stamped_workflowStatus] at hw)
  cases ho with
  | moved _ ha => exact accepted ha hw
  | decided _ hd _ ha => exact accepted ha hw
  | identified _ _ _ _ _ hf =>
    cases hf with
    | once _ ha => exact accepted ha hw
    | twice _ _ _ _ _ _ ha => exact accepted ha hw
    | _ => exact h hw
  | _ => exact h hw

-- A call makes a new link only to a refund that no other request is linked to.
theorem link_of_outcome (ho : Outcome env d call b d') : d'.linkedRefundId = d.linkedRefundId ∨
    ∃ refundId, d'.linkedRefundId = some refundId ∧ env.refundLinkedElsewhere refundId = false := by
  cases ho with
  | @inserted input he _ =>
    refine .inl ?_
    simp [RefundRequestDetail.linkedRefundId, he, EnsureExecutionInput.created]
  | begun he | finished he => exact .inl (by simp [RefundRequestDetail.linkedRefundId, he])
  | @identified input locked _ _ he _ _ _ hfree hf =>
    refine .inr ⟨input.stripeRefundId, ?_, hfree⟩
    cases hf with
    | twice _ _ _ _ hd _ _ =>
      subst hd
      rfl
    | _ => rfl
  | decided _ hd _ _ =>
    subst hd
    exact .inl rfl
  | _ => exact .inl rfl

theorem decisions_of_followed {input : IdentifiedRefundInput} {locked : RefundExecution}
    (hf : Followed env input locked d b d') : d'.decisions = d.decisions := by
  cases hf with
  | twice _ _ _ _ hd _ _ =>
    subst hd
    rfl
  | _ => rfl

-- Every decision of a request is by an approver that the tenant has enabled.
theorem decisions_of_outcome (ho : Outcome env d call b d') :
    ∀ decision ∈ d'.decisions, decision ∈ d.decisions ∨
      env.approverEnabled decision.approverUserId := by
  cases ho with
  | @noted _ _ new _ henabled | @decided _ _ new _ _ _ henabled hd _ _ =>
    intro decision hmem
    have hmem : decision ∈ d.decisions ++ [new] := by
      first | exact hmem | (subst hd; exact hmem)
    rcases List.mem_append.mp hmem with hmem | hmem
    · exact .inl hmem
    · obtain rfl := List.mem_singleton.mp hmem
      exact .inr henabled
  | identified _ _ _ _ _ hf =>
    have hsame := decisions_of_followed hf
    intro decision hmem
    exact .inl (hsame ▸ hmem)
  | _ => exact fun _ hmem => .inl hmem

end Calls

section Changes

variable {now : Timestamp} {footprint : Footprint} {s s' : Store} {requestId : String}
variable {d d' : RefundRequestDetail}

theorem StoreSound.of_requests {s : Store} (h : StoreSound s) {s' : Store}
    (hr : s'.requests = s.requests)
    (hp : ∀ row, s.hasPaymentProtection row = false → s'.hasPaymentProtection row = false)
    (hi : ∀ id, (s'.installations.find? id).map (·.environment) =
      (s.installations.find? id).map (·.environment))
    (hu : ∀ id, (s.users.find? id).isSome → (s'.users.find? id).isSome)
    (ha : ∀ key alert, s'.alerts.find? key = some alert → alert.check (ofLex key).2 = .ok alert) :
    StoreSound s' where
  requests id d hd := h.requests id d (hr ▸ hd)
  links id id' d d' refundId hd hd' := h.links id id' d d' refundId (hr ▸ hd) (hr ▸ hd')
  protection id d hd hw := hp _ (h.protection id d (hr ▸ hd) hw)
  references id d hd := (h.references id d (hr ▸ hd)).transfer hi hu rfl rfl
  alerts := ha

theorem StoreSound.frame (h : StoreSound s) (hf : Frame s s') : StoreSound s' :=
  h.of_requests hf.requests (fun row => by
    simp only [Store.hasPaymentProtection, Store.hasUnresolvedAlert, hf.alerts]; exact id)
    hf.installations hf.users (fun key alert ha => h.alerts key alert (hf.alerts ▸ ha))

-- The rows of one request are stored.
theorem StoreSound.put (h : StoreSound s) (hsound : RequestSound d')
    (hprotection : d'.request.workflowStatus ∈ RefundRequestDetail.unprotectedStatuses →
      s.hasPaymentProtection d'.request = false)
    (hlink : ∀ refundId, d'.linkedRefundId = some refundId → ∀ id d₁,
      s.requests.find? id = some d₁ → d₁.linkedRefundId = some refundId → id = requestId)
    (hreferences : References s d') : StoreSound (s.putRequest requestId d') := by
  have hfind : ∀ id d₁, (s.putRequest requestId d').requests.find? id = some d₁ →
      id = requestId ∧ d₁ = d' ∨ id ≠ requestId ∧ s.requests.find? id = some d₁ := by
    intro id d₁ hd₁
    simp only [Store.putRequest, Table.find?_insert] at hd₁
    split_ifs at hd₁ with hid
    · exact .inl ⟨hid, (Option.some.inj hd₁).symm⟩
    · exact .inr ⟨hid, hd₁⟩
  refine ⟨?requests, ?links, ?protection, ?references, h.alerts⟩
  case requests =>
    intro id d₁ hd₁
    rcases hfind id d₁ hd₁ with ⟨_, rfl⟩ | ⟨_, hd₁⟩
    · exact hsound
    · exact h.requests id d₁ hd₁
  case links =>
    intro id id' d₁ d₂ refundId hd₁ hd₂ hl₁ hl₂
    rcases hfind id d₁ hd₁ with ⟨hid₁, rfl⟩ | ⟨_, hf₁⟩ <;>
      rcases hfind id' d₂ hd₂ with ⟨hid₂, rfl⟩ | ⟨_, hf₂⟩
    · exact hid₁.trans hid₂.symm
    · exact hid₁.trans (hlink refundId hl₁ id' d₂ hf₂ hl₂).symm
    · exact (hlink refundId hl₂ id d₁ hf₁ hl₁).trans hid₂.symm
    · exact h.links id id' d₁ d₂ refundId hf₁ hf₂ hl₁ hl₂
  case protection =>
    intro id d₁ hd₁ hw
    rcases hfind id d₁ hd₁ with ⟨_, rfl⟩ | ⟨_, hd₁⟩
    · exact hprotection hw
    · exact h.protection id d₁ hd₁ hw
  case references =>
    intro id d₁ hd₁
    have hsame {d : RefundRequestDetail} (hr : References s d) :
        References (s.putRequest requestId d') d :=
      hr.transfer (fun _ => rfl) (fun _ hu => hu) rfl rfl
    rcases hfind id d₁ hd₁ with ⟨_, rfl⟩ | ⟨_, hd₁⟩
    · exact hsame hreferences
    · exact hsame (h.references id d₁ hd₁)

-- The rows of one request develop while the rest of the store stays.
theorem StoreSound.request (h : StoreSound s) (hd : s.requests.find? requestId = some d)
    (hsound : RequestSound d')
    (hrun : ReflTransGen (CallStep (s.triggerEnv now requestId d.request) (footprint requestId)) d d') :
    StoreSound (s.putRequest requestId d') := by
  have hsnapshot : d'.request.financialSnapshot = d.request.financialSnapshot :=
    preserved_of_run (fun d' => d'.request.financialSnapshot = d.request.financialSnapshot)
      (fun _ _ hs ⟨_, _, _, ho⟩ => (RefundRequestDetail.snapshot_outcome ho).trans hs) hrun rfl
  have hopen : d'.request.workflowStatus ∈ RefundRequestDetail.unprotectedStatuses →
      s.hasPaymentProtection d.request = false :=
    preserved_of_run (fun d' => d'.request.workflowStatus ∈ RefundRequestDetail.unprotectedStatuses →
        s.hasPaymentProtection d.request = false)
      (fun _ _ hs ⟨_, _, _, ho⟩ => unprotected_of_outcome ho hs) hrun (h.protection requestId d hd)
  have hlink : ∀ refundId, d'.linkedRefundId = some refundId → ∀ id d₁,
      s.requests.find? id = some d₁ → d₁.linkedRefundId = some refundId → id = requestId := by
    refine preserved_of_run (fun d' => ∀ refundId, d'.linkedRefundId = some refundId → ∀ id d₁,
      s.requests.find? id = some d₁ → d₁.linkedRefundId = some refundId → id = requestId) ?_ hrun ?_
    · rintro d₁ d₂ hs ⟨_, _, _, ho⟩ refundId hl
      rcases link_of_outcome ho with hsame | ⟨_, hl', hfree⟩
      · exact hs refundId (hsame ▸ hl)
      · obtain rfl := Option.some.inj (hl'.symm.trans hl)
        exact Store.refundLinkedElsewhere_eq_false.mp hfree
    · exact fun refundId hl id d₁ hd₁ hl₁ => h.links id requestId d₁ d refundId hd₁ hd hl₁ hl
  have happrovers : ∀ decision ∈ d'.decisions, (s.users.find? decision.approverUserId).isSome := by
    refine preserved_of_run (fun d' => ∀ decision ∈ d'.decisions,
      (s.users.find? decision.approverUserId).isSome) ?_ hrun (h.references requestId d hd).approvers
    rintro d₁ d₂ hs ⟨_, _, _, ho⟩ decision hmem
    rcases decisions_of_outcome ho decision hmem with hmem | henabled
    · exact hs decision hmem
    · cases hu : s.users.find? decision.approverUserId with
      | none   => simp [Store.triggerEnv, hu] at henabled
      | some _ => rfl
  have hreferences : References s d' := by
    have hr := h.references requestId d hd
    have hr' : References s { d with request := d'.request } :=
      hr.transfer (fun _ => rfl) (fun _ hu => hu) hsnapshot rfl
    exact ⟨hr'.installation, hr'.requester, happrovers⟩
  exact h.put hsound (fun hw => (Store.hasPaymentProtection_congr hsnapshot).trans (hopen hw)) hlink
    hreferences

-- The protective updates keep a sound store sound when they reach the payments that the change of
-- the alerts protects.
theorem StoreSound.guarded (h : StoreSound s) {scope : RefundRequest → Bool} {time : Timestamp}
    {conflict : StoreError} {counts : Nat × Nat × Nat}
    {alerts : Table (String ×ₗ String) ExternalRefundAlert}
    (halerts : ∀ key alert, alerts.find? key = some alert → alert.check (ofLex key).2 = .ok alert)
    (hscope : ∀ row, scope row = false → s.hasPaymentProtection row = false →
      Store.hasPaymentProtection { s with alerts := alerts } row = false)
    (hp : (protectRequests now scope time conflict).Commits { s with alerts := alerts } counts s') :
    StoreSound s' := by
  have hfind : ∀ id d', s'.requests.find? id = some d' → ∃ d, s.requests.find? id = some d ∧
      d' = if scope d.request then d.protected now time else d := by
    intro id d' hd'
    rw [find?_of_protectRequests hp id] at hd'
    obtain ⟨d, hd, rfl⟩ := Option.map_eq_some_iff.mp hd'
    exact ⟨d, hd, rfl⟩
  have hlink : ∀ d : RefundRequestDetail, (if scope d.request then d.protected now time else d).linkedRefundId =
      d.linkedRefundId := by
    intro d
    split_ifs <;> simp
  rw [rest_of_protectRequests hp] at hfind ⊢
  refine ⟨?requests, ?links, ?protection, ?references, halerts⟩
  case requests =>
    intro id d' hd'
    obtain ⟨s₁, s₂, h₁, h₂, h₃⟩ := updates_of_protectRequests hp
    have hs₁ := sound_of_updateMany h₁ (fun _ _ => trivial) h.requests
    have hs₂ := sound_of_updateMany h₂ (fun _ _ => trivial) hs₁
    exact sound_of_updateMany h₃ (fun _ _ => trivial) hs₂ id d' hd'
  case links =>
    intro id id' d₁ d₂ refundId hd₁ hd₂ hl₁ hl₂
    obtain ⟨d₁, hf₁, rfl⟩ := hfind id d₁ hd₁
    obtain ⟨d₂, hf₂, rfl⟩ := hfind id' d₂ hd₂
    rw [hlink] at hl₁ hl₂
    exact h.links id id' d₁ d₂ refundId hf₁ hf₂ hl₁ hl₂
  case protection =>
    intro id d' hd' hw
    obtain ⟨d, hd, rfl⟩ := hfind id d' hd'
    split_ifs at hw ⊢ with hs
    · exact (RefundRequestDetail.settled_of_protected (h.requests id d hd) hw).elim
    · exact hscope d.request (by simpa using hs) (h.protection id d hd hw)
  case references =>
    intro id d' hd'
    obtain ⟨d, hd, rfl⟩ := hfind id d' hd'
    have ⟨_, hdecisions, _, hsnapshot⟩ := @RefundRequestDetail.protected_rows now time d
    split_ifs
    · exact (h.references id d hd).transfer (fun _ => rfl) (fun _ hu => hu) hsnapshot hdecisions
    · exact (h.references id d hd).transfer (fun _ => rfl) (fun _ hu => hu) rfl rfl

theorem checked_of_insertAlert (h : StoreSound s) {input : ExternalRefundObservationInput}
    {environment : StripeEnvironment} {alert : ExternalRefundAlert}
    (hi : (insertAlert input environment).Commits s alert s') :
    s' = { s with alerts := s.alerts.insert input.alertKey alert } ∧
      alert.check input.stripeRefundId = .ok alert ∧
      alert.environment = environment ∧ alert.paymentKey = input.paymentKey := by
  have hs' := requests_of_insertAlert hi
  simp only [insertAlert, commits_bind, commits_get, commits_require, commits_fromExcept,
    commits_set, commits_pure] at hi
  obtain ⟨_, _, ⟨rfl, rfl⟩, created, s₁, ⟨hc, hs₁⟩, _, _, rfl, _, _, ⟨hagree, rfl⟩, rfl, -⟩ := hi
  subst hs₁
  refine ⟨hs', ?_, hagree.1, hagree.2.2.1⟩
  cases hf : s₁.alerts.find? input.alertKey with
  | none        =>
    simp only [ExternalRefundAlert.check, ite_raise_eq_ok, Except.ok.injEq] at hc ⊢
    simp only [Option.getD_none]
    grind
  | some stored => exact h.alerts input.alertKey stored hf

-- A new alert protects only the requests of its payment.
theorem protection_of_insert {input : ExternalRefundObservationInput}
    {environment : StripeEnvironment} {alert : ExternalRefundAlert} {row : RefundRequest}
    (he : alert.environment = environment) (hk : alert.paymentKey = input.paymentKey)
    (hscope : input.scope environment row = false) (hp : s.hasPaymentProtection row = false) :
    Store.hasPaymentProtection { s with alerts := s.alerts.insert input.alertKey alert } row =
      false := by
  rw [← Bool.not_eq_true, Store.hasPaymentProtection_iff] at hp ⊢
  rintro ⟨key, stored, hf, hi, henv, hkey, hr⟩
  rw [Table.find?_insert] at hf
  split_ifs at hf with hsame
  · obtain rfl := Option.some.inj hf
    subst hsame
    have hscope' : ¬(row.installationId = input.installationId ∧ row.environment = environment ∧
        row.paymentKey = input.paymentKey) := of_decide_eq_false hscope
    exact hscope' ⟨hi.symm, henv.symm.trans he, hkey.symm.trans hk⟩
  · exact hp ⟨key, stored, hf, hi, henv, hkey, hr⟩

theorem Change.sound (hc : Change now footprint s s')
    (hf : ∀ id d call b, footprint id d call b → SoundCall d call b) (h : StoreSound s) :
    StoreSound s' := by
  cases hc with
  | @request requestId d d' hd hrun =>
    refine h.request hd ?_ hrun
    exact preserved_of_run RequestSound
      (fun _ _ hs ⟨call, b, hcall, ho⟩ => hs.outcome (hf _ _ call b hcall) ho) hrun
      (h.requests requestId d hd)
  | guarded _ hp => exact h.guarded h.alerts (fun _ _ hp => hp) hp
  | @alerted r _ input _ ho =>
    obtain ⟨environment, s₁, counts, conflict, -, hi, hp⟩ := steps_of_observeExternalRefund ho
    obtain ⟨rfl, hchecked, he, hk⟩ := checked_of_insertAlert h hi
    refine h.guarded (fun key alert ha => ?_)
      (fun row hscope => protection_of_insert he hk hscope) hp
    rw [Table.find?_insert] at ha
    split_ifs at ha with hkey
    · obtain rfl := Option.some.inj ha
      subst hkey
      exact hchecked
    · exact h.alerts key alert ha
  | acknowledged ha =>
    rcases alerts_of_acknowledge ha with rfl | ⟨alert, hf', rfl⟩
    · exact h
    · refine h.of_requests rfl (fun row hp => ?_) (fun _ => rfl) (fun _ hu => hu) fun key stored hs => ?_
      · rw [← Bool.not_eq_true, Store.hasPaymentProtection_iff] at hp ⊢
        rintro ⟨key, stored, hs, hi, henv, hkey, hr⟩
        rw [Table.find?_insert] at hs
        split_ifs at hs with hsame
        · obtain rfl := Option.some.inj hs
          subst hsame
          exact hp ⟨_, alert, hf', hi, henv, hkey, hr⟩
        · exact hp ⟨key, stored, hs, hi, henv, hkey, hr⟩
      · rw [Table.find?_insert] at hs
        split_ifs at hs with hsame
        · obtain rfl := Option.some.inj hs
          subst hsame
          have hchecked := h.alerts _ alert hf'
          simp only [ExternalRefundAlert.check, ite_raise_eq_ok] at hchecked ⊢
          simpa using hchecked
        · exact h.alerts key stored hs
  | @created _ requestId input _ ho =>
    obtain ⟨d, hcreated, rfl⟩ := created_of_createRefundRequest ho
    have hsound := RequestSound.created hcreated
    have hunprotected := (RefundRequest.guardExternalPaymentProtection_eq_ok.mp hcreated.guarded).2.2
    have hchecked := hcreated.checked
    simp only [checkCreatedRequest, ite_raise_eq_ok] at hchecked
    obtain ⟨rfl, -, -⟩ := hcreated
    refine h.put hsound (fun _ => hunprotected ?_) (fun _ hl => ?_) ⟨?_, ?_, ?_⟩
    · simp [CreateRefundRequestInput.row]
    · simp [RefundRequestDetail.linkedRefundId] at hl
    · simpa using hchecked.2.2.2.2.2.2.2.2.2.2.1
    · simpa [Option.isSome_iff_ne_none] using hchecked.2.2.2.2.2.2.2.2.2.2.2.1
    · simp
  | checkpointed _ => exact h.of_requests rfl (fun _ h => h) (fun _ => rfl) (fun _ h => h) h.alerts
  | frame hframe => exact h.frame hframe

end Changes
end RefundDesk
