import RefundDesk.Platform.Receipts
import RefundDesk.Repositories.Changes

namespace RefundDesk

open Transaction PilotRepository PilotPrismaRepository

-- What the mutation needs of the rows that its transaction finds: that the user may do it now, and
-- that what it is done to is still there to be changed.
def Permitted (context : PilotTenantContext) (rows : PilotRows) : PilotMutation → Prop
  | .contextSync | .auditExport => True
  | .refundRequestCreate _ _ _ payment _ _ =>
    (∃ policy ∈ rows.policies, policy.active ∧ policy.requiredApprovals = 1) ∧
    (∃ id user, rows.store.users.find? id = some user ∧ user.approverEnabled ∧
      id ≠ context.actor.id) ∧
    ∀ id d, rows.store.requests.find? id = some d → d.request.environment = context.environment →
      d.request.paymentKey = payment.paymentKey → d.request.paymentGuardReleasedAt ≠ none
  | .refundRequestDecide _ requestId resource =>
    (rows.store.users.find? context.actor.id).any (·.approverEnabled) ∧
    ∃ d, rows.store.requests.find? requestId = some d ∧
      d.request.requesterUserId ≠ context.actor.id ∧ d.request.workflowStatus = .pendingApproval ∧
      requestMatchesMutationResource d.request resource
  | .refundRequestCancel requestId resource =>
    ∃ d, rows.store.requests.find? requestId = some d ∧
      d.request.requesterUserId = context.actor.id ∧ d.request.workflowStatus = .pendingApproval ∧
      requestMatchesMutationResource d.request resource
  | .externalAlertAcknowledge alertId =>
    (rows.store.users.find? context.actor.id).any (·.approverEnabled) ∧
    ∃ key alert, rows.alertIds.find? alertId = some key ∧ rows.store.alerts.find? key = some alert ∧
      alert.status = .opened
  | .settingsUpdate approverUserIds _ =>
    rows.store.users.count (fun _ user => user.stripeUserId ∈ approverUserIds) =
      approverUserIds.length

-- What the mutation makes of the users.
def PilotMutation.enable (users : Table String TenantUser) : PilotMutation → Table String TenantUser
  | .settingsUpdate approverUserIds _ => users.map fun user =>
    { user with approverEnabled := user.stripeUserId ∈ approverUserIds }
  | _                                 => users

-- The action that the audit event of a mutation names. The one of a rejection is what the template
-- of the source makes of `reject`.
def PilotMutation.auditAction : PilotMutation → Option String
  | .contextSync                         => none
  | .refundRequestCreate _ _ _ _ _ _     => some "refund_request.created"
  | .refundRequestDecide .approve _ _    => some "refund_request.approved"
  | .refundRequestDecide (.reject _) _ _ => some "refund_request.rejectd"
  | .refundRequestCancel _ _             => some "refund_request.canceled"
  | .externalAlertAcknowledge _          => some "external_refund_alert.acknowledged"
  | .settingsUpdate _ _                  => some "settings.updated"
  | .auditExport                         => some "audit.export_prepared"

namespace AppliedMutation

-- What the mutation has been done to.
def Concerns (a : AppliedMutation) (entityType entityId : String) : Prop :=
  match a.mutation with
  | .contextSync                       => False
  | .refundRequestCreate _ _ _ _ _ _   => entityType = "refund_request" ∧
    ("request_id", .string entityId) ∈ a.response.body
  | .refundRequestDecide _ requestId _ => entityType = "refund_request" ∧ entityId = requestId
  | .refundRequestCancel requestId _   => entityType = "refund_request" ∧ entityId = requestId
  | .externalAlertAcknowledge alertId  =>
    entityType = "external_refund_alert" ∧ entityId = alertId
  | .settingsUpdate _ _ | .auditExport => entityType = "stripe_installation" ∧
    (a.before.store.installations.find? entityId).isSome

def IsAudited (a : AppliedMutation) : Bool :=
  a.mutation.auditAction.isSome

end AppliedMutation

-- The event says who has done the mutation, under which roles and nonce, and to what.
structure AuditEvent.Records (event : AuditEvent) (a : AppliedMutation) : Prop where
  actorType : event.actorType = .stripeUser
  actorId   : event.actorId = some a.metadata.actorId
  roles     : event.assertedStripeRoles = a.metadata.assertedStripeRoles
  action    : a.mutation.auditAction = some event.action
  nonce     : event.correlationRequestId = a.metadata.requestNonce
  entity    : a.Concerns event.entityType event.entityId

-- What the transaction of a mutation has found, and what it leaves in the users and the audit trail.
structure AppliedMutation.Effects (a : AppliedMutation) (context : PilotTenantContext) : Prop where
  permitted : Permitted context a.before a.mutation
  users     : a.after.store.users = a.mutation.enable a.before.store.users
  events    : ∃ events, a.after.auditEvents = a.before.auditEvents ++ events ∧
    List.Forall₂ AuditEvent.Records events ([a].filter (·.IsAudited))

-- The context is of the user of the mutation, and of an installation of the tenant.
structure AppliedMutation.ActsIn (a : AppliedMutation) (context : PilotTenantContext) : Prop where
  user      : context.actor.stripeUserId = a.metadata.actorId
  actor     : (a.before.store.users.find? context.actor.id).map (·.stripeUserId) =
    some a.metadata.actorId
  installed : (a.before.store.installations.find? context.installationId).isSome

section Effects

variable {options : PilotPrismaRepositoryOptions} {draw : Draw} {context : PilotTenantContext}
variable {metadata : PilotMutationMetadata} {response : PilotStoredResponse}
variable {rows rows' : PilotRows} {α : Type}

@[simp]
theorem commits_onStore {m : StoreTransaction α} {a : α} : (onStore m).Commits rows a rows' ↔
    ∃ store, m.Commits rows.store a store ∧ rows' = { rows with store } :=
  commits_onField

@[simp]
theorem commits_appendAuditEvent {event : AuditEvent} {u : Unit} :
    (appendAuditEvent event).Commits rows u rows' ↔
      isDatabaseUuid event.correlationRequestId ∧
        rows' = { rows with auditEvents := rows.auditEvents ++ [event] } := by
  simp [appendAuditEvent]

@[simp]
theorem not_commits_fail {code : PilotErrorCode} {status : Nat} {message : String} {a : α} :
    ¬(fail code status message : PilotTransaction α).Commits rows a rows' :=
  not_commits_throw

theorem commits_currentApprover {user : TenantUser} :
    (currentApprover context).Commits rows user rows' ↔
      rows.store.users.find? context.actor.id = some user ∧ user.approverEnabled ∧ rows' = rows := by
  simp only [currentApprover, commits_bind, commits_get, exists_and_left, exists_eq_left, and_assoc]
  cases rows.store.users.find? context.actor.id with
  | none      => simp
  | some user' =>
    simp only [commits_bind, commits_require, commits_pure, Option.some.injEq]
    constructor
    · rintro ⟨_, _, ⟨henabled, rfl⟩, rfl, rfl⟩
      exact ⟨rfl, henabled, rfl⟩
    · rintro ⟨rfl, henabled, rfl⟩
      exact ⟨(), _, ⟨henabled, rfl⟩, rfl, rfl⟩

theorem users_of_onRequest {now : Timestamp} {requestId : String}
    {m : TriggerEnv → RequestTransaction α} {s s' : Store} {r : Option α}
    (h : (TenantRepository.onRequest now requestId m).Commits s r s') : s'.users = s.users := by
  rcases commits_onPart.mp h with ⟨_, _, rfl⟩ | ⟨_, _, _, _, _, _, rfl⟩
  · rfl
  · rfl

theorem users_of_recordDecision {now time : Timestamp} {requestId : String}
    {decision : ApprovalDecision} {s s' : Store} {r : Option RequestRepository.DecisionResult}
    (h : (TenantRepository.recordDecision now requestId decision time).Commits s r s') :
    s'.users = s.users := by
  simp only [TenantRepository.recordDecision, commits_bind, commits_get] at h
  obtain ⟨_, _, ⟨rfl, rfl⟩, h⟩ := h
  exact users_of_onRequest h

theorem users_of_acknowledge {key : String ×ₗ String} {userId : String} {time : Timestamp}
    {s s' : Store} {b : Bool}
    (h : (TenantRepository.acknowledgeExternalRefundAlert key userId time).Commits s b s') :
    s'.users = s.users := by
  rcases alerts_of_acknowledge h with rfl | ⟨_, _, rfl⟩
  · rfl
  · rfl

theorem pending_of_cancel {now time : Timestamp} {requestId userId : String} {s s' : Store}
    {d : RefundRequestDetail} (hd : s.requests.find? requestId = some d)
    (h : (TenantRepository.onRequest now requestId fun env =>
      RequestRepository.cancelPendingRequest env userId time).Commits s (some true) s') :
    d.request.workflowStatus = .pendingApproval := by
  rcases commits_onPart.mp h with ⟨_, hr, _⟩ | ⟨d', _, _, hd', hc, hr, _⟩
  · cases hr
  · obtain rfl := Option.some.inj (hd.symm.trans hd')
    obtain rfl := Option.some.inj hr
    simp only [commits_bind, commits_get] at hc
    obtain ⟨_, _, ⟨rfl, rfl⟩, hc⟩ := hc
    rcases RequestRepository.commits_updateRequest.mp hc with ⟨-, hno, -⟩ | ⟨hguard, -⟩
    · cases hno
    · exact (of_decide_eq_true hguard).2.1

theorem opened_of_acknowledge {key : String ×ₗ String} {userId : String} {time : Timestamp}
    {s s' : Store}
    (h : (TenantRepository.acknowledgeExternalRefundAlert key userId time).Commits s true s') :
    ∃ alert, s.alerts.find? key = some alert ∧ alert.status = .opened := by
  simp only [TenantRepository.acknowledgeExternalRefundAlert, commits_bind, commits_get] at h
  obtain ⟨_, _, ⟨rfl, rfl⟩, h⟩ := h
  split at h
  case h_1 => cases (commits_pure.mp h).1
  case h_2 alert halert =>
    rcases commits_ite.mp h with ⟨hopened, -⟩ | ⟨-, h⟩
    · exact ⟨alert, halert, hopened⟩
    · cases (commits_pure.mp h).1

theorem rows_of_completion {onboardingCompleted completed : Bool}
    (h : (if onboardingCompleted then completeOnboarding context.installationId draw.now
      else pure true : PilotTransaction Bool).Commits rows completed rows') :
    rows'.store = rows.store ∧ rows'.auditEvents = rows.auditEvents := by
  rcases commits_ite.mp h with ⟨-, h⟩ | ⟨-, h⟩
  · simp only [completeOnboarding, commits_bind, commits_get, commits_ite, commits_set,
      commits_pure] at h
    obtain ⟨_, _, ⟨rfl, rfl⟩, ⟨_, _, _, rfl, _, rfl⟩ | ⟨_, _, rfl⟩⟩ := h
    · exact ⟨rfl, rfl⟩
    · exact ⟨rfl, rfl⟩
  · rw [(commits_pure.mp h).2]
    exact ⟨rfl, rfl⟩

-- One event is appended, and it records the mutation.
theorem events_of_append {a : AppliedMutation} {event : AuditEvent} (h : event.Records a)
    (hevents : a.after.auditEvents = a.before.auditEvents ++ [event]) :
    ∃ events, a.after.auditEvents = a.before.auditEvents ++ events ∧
      List.Forall₂ AuditEvent.Records events ([a].filter (·.IsAudited)) := by
  have haudited : a.IsAudited = true := by simp [AppliedMutation.IsAudited, h.action]
  refine ⟨[event], hevents, ?_⟩
  rw [List.filter_cons_of_pos haudited]
  exact .cons h .nil

theorem records_auditEvent {a : AppliedMutation} {stripeUserId action entityType entityId : String}
    {payload : List (String × CanonicalJsonValue)} (huser : stripeUserId = a.metadata.actorId)
    (haction : a.mutation.auditAction = some action) (hentity : a.Concerns entityType entityId) :
    (auditEvent draw stripeUserId a.metadata action entityType entityId payload).Records a where
  actorType := rfl
  actorId   := congrArg some huser
  roles     := rfl
  action    := haction
  nonce     := rfl
  entity    := hentity

theorem commits_read {g : PilotRows → α} {x : α} :
    (do return g (← get) : PilotTransaction α).Commits rows x rows' ↔ x = g rows ∧ rows' = rows := by
  simp [and_comm]

theorem rows_of_settingsOf {settings : SettingsSnapshot}
    (h : (settingsOf options context).Commits rows settings rows') : rows' = rows := by
  simp only [settingsOf, PilotRepository.getSettings, getInstallationContext,
    getActiveApprovalPolicy, listApprovers, commits_bind, commits_get, commits_pure] at h
  obtain ⟨_, _, ⟨_, _, ⟨_, _, ⟨_, rfl⟩, _, rfl⟩, _, _, ⟨_, _, ⟨_, rfl⟩, _, rfl⟩, _, _,
    ⟨_, _, ⟨_, rfl⟩, _, rfl⟩, _, rfl⟩, h⟩ := h
  split at h
  case h_1 => exact (not_commits_fail h).elim
  case h_2 => exact (commits_pure.mp h).2

section Mutations

variable {a : AppliedMutation}

theorem effects_of_synchronizeContext (hmutation : a.mutation = .contextSync)
    (h : (synchronizeContext options context).Commits a.before a.response a.after) :
    a.Effects context := by
  obtain ⟨_, _, hsettings, h⟩ := commits_bind.mp h
  have hafter : a.after = a.before :=
    (commits_pure.mp h).2.trans (rows_of_settingsOf hsettings)
  refine ⟨by rw [hmutation]; trivial, by rw [hmutation, hafter]; rfl, [], ?_, ?_⟩
  · rw [hafter, List.append_nil]
  · simp [AppliedMutation.IsAudited, hmutation, PilotMutation.auditAction]

theorem effects_of_createRefundRequest {amountMinor : Int} {currency justification : String}
    {payment : PilotPayment} {reason : RefundReason} {resource : PilotPaymentResource}
    (hmutation : a.mutation =
      .refundRequestCreate amountMinor currency justification payment reason resource)
    (hacts : a.ActsIn context)
    (h : (createRefundRequest options draw context a.metadata amountMinor currency justification
      payment reason).Commits a.before a.response a.after) : a.Effects context := by
  obtain ⟨_, _, hpolicy, h⟩ := commits_bind.mp h
  obtain ⟨rfl, rfl⟩ := commits_read.mp hpolicy
  obtain ⟨_, _, hactive, h⟩ := commits_bind.mp h
  obtain ⟨rfl, rfl⟩ := commits_read.mp hactive
  obtain ⟨_, _, happrovers, h⟩ := commits_bind.mp h
  obtain ⟨rfl, rfl⟩ := commits_read.mp happrovers
  split at h
  case h_1 => exact (not_commits_fail h).elim
  case h_2 policy hfound =>
    simp only [commits_bind, commits_require, commits_onStore, commits_modify,
      commits_appendAuditEvent, commits_pure] at h
    obtain ⟨_, _, ⟨hpilot, rfl⟩, _, _, ⟨hcount, rfl⟩, _, _, ⟨hnone, rfl⟩, _, _, ⟨store, hc, rfl⟩, _, _,
      rfl, _, _, ⟨_, rfl⟩, hresponse, hafter⟩ := h
    obtain ⟨d, -, rfl⟩ := created_of_createRefundRequest hc
    refine ⟨?permitted, ?users, ?events⟩
    case permitted =>
      rw [hmutation]
      refine ⟨⟨policy, List.mem_of_find?_eq_some hfound, ?_, hpilot.1⟩, ?_, ?_⟩
      · exact List.find?_some (p := fun policy : ApprovalPolicy => policy.active) hfound
      · obtain ⟨⟨id, user⟩, hentry, huser⟩ := List.countP_pos_iff.mp hcount
        obtain ⟨henabled, hother⟩ := (Bool.and_eq_true _ _).mp huser
        exact ⟨id, user, Table.mem_entries_iff.mp hentry, henabled, of_decide_eq_true hother⟩
      · intro id d hd henvironment hkey hreleased
        have hno := List.find?_eq_none.mp (Option.isNone_iff_eq_none.mp hnone) (id, d)
          (Table.mem_entries_iff.mpr hd)
        exact hno (decide_eq_true ⟨henvironment, hkey, hreleased⟩)
    case users => rw [hmutation, hafter]; rfl
    case events =>
      refine events_of_append (records_auditEvent hacts.user (by rw [hmutation]; rfl) ?_)
        (congrArg (·.auditEvents) hafter)
      unfold AppliedMutation.Concerns
      rw [hmutation, hresponse]
      exact ⟨rfl, List.mem_cons_self⟩

theorem effects_of_decideRefundRequest {decision : PilotDecision} {requestId : String}
    {resource : PilotPaymentResource}
    (hmutation : a.mutation = .refundRequestDecide decision requestId resource)
    (hacts : a.ActsIn context)
    (h : (decideRefundRequest options draw context a.metadata decision requestId resource).Commits
      a.before a.response a.after) : a.Effects context := by
  obtain ⟨_, _, hget, h⟩ := commits_bind.mp h
  obtain ⟨rfl, rfl⟩ := commits_get.mp hget
  split at h
  case h_1 => exact (not_commits_fail h).elim
  case h_2 d hd =>
    simp only [commits_bind, commits_currentApprover, commits_require, commits_onStore,
      commits_modify, commits_appendAuditEvent, commits_pure] at h
    obtain ⟨user, _, ⟨huser, henabled, rfl⟩, _, _, ⟨hother, rfl⟩, _, _, ⟨⟨hpending, hmatches⟩, rfl⟩,
      _, _, ⟨_, rfl⟩, result, _, ⟨store, hc, rfl⟩, _, _, rfl, _, _, ⟨hbecame, rfl⟩, _, _, ⟨_, rfl⟩,
      hresponse, hafter⟩ := h
    have hactor : user.stripeUserId = a.metadata.actorId := by simpa [huser] using hacts.actor
    refine ⟨?permitted, ?users, ?events⟩
    case permitted =>
      rw [hmutation]
      exact ⟨Option.any_eq_true _ _ |>.mpr ⟨user, huser, henabled⟩, d, hd, hother, hpending, hmatches⟩
    case users =>
      rw [hmutation, hafter]
      exact users_of_recordDecision hc
    case events =>
      refine events_of_append (records_auditEvent hactor ?_ ?_) (congrArg (·.auditEvents) hafter)
      · rw [hmutation]
        cases decision <;> rfl
      · unfold AppliedMutation.Concerns
        rw [hmutation]
        exact ⟨rfl, rfl⟩

theorem effects_of_cancelRefundRequest {requestId : String} {resource : PilotPaymentResource}
    (hmutation : a.mutation = .refundRequestCancel requestId resource) (hacts : a.ActsIn context)
    (h : (cancelRefundRequest draw context a.metadata requestId resource).Commits
      a.before a.response a.after) : a.Effects context := by
  obtain ⟨_, _, hget, h⟩ := commits_bind.mp h
  obtain ⟨rfl, rfl⟩ := commits_get.mp hget
  split at h
  case h_1 => exact (not_commits_fail h).elim
  case h_2 d hd =>
    simp only [commits_bind, commits_require, commits_onStore, commits_appendAuditEvent,
      commits_pure] at h
    obtain ⟨_, _, ⟨⟨hown, hmatches⟩, rfl⟩, canceled, _, ⟨store, hc, rfl⟩, _, _, ⟨hcanceled, rfl⟩, _, _,
      ⟨_, rfl⟩, hresponse, hafter⟩ := h
    subst hcanceled
    refine ⟨?permitted, ?users, ?events⟩
    case permitted =>
      rw [hmutation]
      exact ⟨d, hd, hown, pending_of_cancel hd hc, hmatches⟩
    case users =>
      rw [hmutation, hafter]
      exact users_of_onRequest hc
    case events =>
      refine events_of_append (records_auditEvent hacts.user (by rw [hmutation]; rfl) ?_)
        (congrArg (·.auditEvents) hafter)
      unfold AppliedMutation.Concerns
      rw [hmutation]
      exact ⟨rfl, rfl⟩

theorem effects_of_acknowledgeAlert {alertId : String}
    (hmutation : a.mutation = .externalAlertAcknowledge alertId) (hacts : a.ActsIn context)
    (h : (acknowledgeAlert draw context a.metadata alertId).Commits a.before a.response a.after) :
    a.Effects context := by
  obtain ⟨user, _, happrover, h⟩ := commits_bind.mp h
  obtain ⟨huser, henabled, rfl⟩ := commits_currentApprover.mp happrover
  obtain ⟨_, _, hget, h⟩ := commits_bind.mp h
  obtain ⟨rfl, rfl⟩ := commits_get.mp hget
  split at h
  case h_1 => exact (not_commits_throw h).elim
  case h_2 key hkey =>
    simp only [commits_bind, commits_require, commits_onStore, commits_appendAuditEvent,
      commits_pure] at h
    obtain ⟨acknowledged, _, ⟨store, hc, rfl⟩, _, _, ⟨hacknowledged, rfl⟩, _, _, ⟨_, rfl⟩, hresponse,
      hafter⟩ := h
    subst hacknowledged
    have hactor : user.stripeUserId = a.metadata.actorId := by simpa [huser] using hacts.actor
    refine ⟨?permitted, ?users, ?events⟩
    case permitted =>
      obtain ⟨alert, halert, hopened⟩ := opened_of_acknowledge hc
      rw [hmutation]
      exact ⟨Option.any_eq_true _ _ |>.mpr ⟨user, huser, henabled⟩, key, alert, hkey, halert, hopened⟩
    case users =>
      rw [hmutation, hafter]
      exact users_of_acknowledge hc
    case events =>
      refine events_of_append (records_auditEvent hactor (by rw [hmutation]; rfl) ?_)
        (congrArg (·.auditEvents) hafter)
      unfold AppliedMutation.Concerns
      rw [hmutation]
      exact ⟨rfl, rfl⟩

theorem effects_of_updateSettings {approverUserIds : List String} {onboardingCompleted : Bool}
    (hmutation : a.mutation = .settingsUpdate approverUserIds onboardingCompleted)
    (hacts : a.ActsIn context)
    (h : (updateSettings options draw context a.metadata approverUserIds
      onboardingCompleted).Commits a.before a.response a.after) : a.Effects context := by
  obtain ⟨_, _, hget, h⟩ := commits_bind.mp h
  obtain ⟨rfl, rfl⟩ := commits_get.mp hget
  simp only [commits_bind, commits_require, commits_modify, commits_appendAuditEvent,
      commits_pure, createApprovalPolicy] at h
  obtain ⟨_, _, ⟨hcount, rfl⟩, _, _, rfl, _, _, ⟨_, _, ⟨_, rfl⟩, rfl⟩, _, _, hcompletion, _, _,
    ⟨_, rfl⟩, _, _, ⟨_, rfl⟩, _, _, hsettings, hresponse, hafter⟩ := h
  obtain ⟨hstore, hevents⟩ := rows_of_completion hcompletion
  obtain rfl := rows_of_settingsOf hsettings
  refine ⟨by rw [hmutation]; exact hcount, ?users, ?events⟩
  case users =>
    rw [hmutation, hafter]
    exact congrArg (·.users) hstore
  case events =>
    have hlast := (congrArg PilotRows.auditEvents hafter).trans (congrArg (· ++ _) hevents)
    refine events_of_append (records_auditEvent hacts.user (by rw [hmutation]; rfl) ?_) hlast
    unfold AppliedMutation.Concerns
    rw [hmutation]
    exact ⟨rfl, hacts.installed⟩

theorem effects_of_createAuditExport (hmutation : a.mutation = .auditExport)
    (hacts : a.ActsIn context)
    (h : (createAuditExport options draw context a.metadata).Commits a.before a.response a.after) :
    a.Effects context := by
  obtain ⟨_, _, hevent, h⟩ := commits_bind.mp h
  obtain ⟨-, rfl⟩ := commits_appendAuditEvent.mp hevent
  obtain ⟨-, hafter⟩ := commits_pure.mp h
  refine ⟨by rw [hmutation]; trivial, by rw [hmutation, hafter]; rfl, ?_⟩
  refine events_of_append (records_auditEvent hacts.user (by rw [hmutation]; rfl) ?_)
    (congrArg (·.auditEvents) hafter)
  unfold AppliedMutation.Concerns
  rw [hmutation]
  exact ⟨rfl, hacts.installed⟩

theorem effects_of_performMutation (hacts : a.ActsIn context)
    (h : (performMutation options draw context a.metadata a.mutation).Commits a.before a.response
      a.after) : a.Effects context := by
  cases hmutation : a.mutation with
  | contextSync =>
    rw [hmutation] at h
    exact effects_of_synchronizeContext hmutation h
  | refundRequestCreate _ _ _ _ _ _ =>
    rw [hmutation] at h
    exact effects_of_createRefundRequest hmutation hacts h
  | refundRequestDecide _ _ _ =>
    rw [hmutation] at h
    exact effects_of_decideRefundRequest hmutation hacts h
  | refundRequestCancel _ _ =>
    rw [hmutation] at h
    exact effects_of_cancelRefundRequest hmutation hacts h
  | externalAlertAcknowledge _ =>
    rw [hmutation] at h
    exact effects_of_acknowledgeAlert hmutation hacts h
  | settingsUpdate _ _ =>
    rw [hmutation] at h
    exact effects_of_updateSettings hmutation hacts h
  | auditExport =>
    rw [hmutation] at h
    exact effects_of_createAuditExport hmutation hacts h

end Mutations
end Effects
end RefundDesk
