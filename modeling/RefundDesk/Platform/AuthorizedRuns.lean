import RefundDesk.Platform.MutationAuthority
import RefundDesk.Platform.MutationEffects

namespace RefundDesk

open Transaction Script Relation PilotRepository PilotPrismaRepository

-- The installation of the context is active, and still that of its account.
def PilotRows.Serves (rows : PilotRows) (context : PilotTenantContext) : Prop :=
  rows.store.tenant.status = .active ∧
    ∃ installation, rows.store.installations.find? context.installationId = some installation ∧
      installation.stripeAccountId = context.stripeAccountId ∧
      installation.environment = context.environment ∧ installation.status = .active

-- The users stay, or a user that is no approver is added with a Stripe id of its own.
inductive Observes (users : Table String TenantUser) : Table String TenantUser → Prop
  | same : Observes users users
  | added {id stripeUserId} :
    users.find? id = none → (∀ id' user, users.find? id' = some user →
      user.stripeUserId ≠ stripeUserId) →
    Observes users (users.insert id { stripeUserId, approverEnabled := false })

-- What an answered call does to the mutations, the users and the audit trail.
inductive PilotStore.Moves (options : PilotPrismaRepositoryOptions) (s s' : PilotStore)
    (c : PilotCall) : Prop
  | observed :
    s'.applied = s.applied → s'.rows.auditEvents = s.rows.auditEvents →
    Observes s.rows.store.users s'.rows.store.users → Moves options s s' c
  | performed {context draw a} :
    c = .mutate context a.metadata a.mutation → a.before = s.rows → a.after = s'.rows →
    s.rows.Serves context →
    (performMutation options draw context a.metadata a.mutation).Commits a.before a.response
      a.after →
    s'.applied = a :: s.applied → Moves options s s' c

section Moves

variable {options : PilotPrismaRepositoryOptions} {service : PilotService} {draw : Draw}
variable {inputs : Nat → PilotDispatchRequest} {context : PilotTenantContext}
variable {metadata : PilotMutationMetadata} {mutation : PilotMutation}
variable {s s' : PilotStore} {response : PilotStoredResponse}

theorem assertCurrentInstallation_eq_ok {rows : PilotRows} {u : Unit}
    (h : assertCurrentInstallation ((rows.store.installations.find? context.installationId).map
      fun installation => {
        installation
        tenant                := rows.store.tenant
        onboardingCompletedAt := rows.onboarding.find? context.installationId
      }) context = .ok u) : rows.Serves context := by
  cases hfound : rows.store.installations.find? context.installationId with
  | none =>
    rw [hfound] at h
    cases h
  | some installation =>
    rw [hfound] at h
    simp only [Option.map_some, assertCurrentInstallation] at h
    split_ifs at h with hbinding hactive
    obtain ⟨haccount, henvironment⟩ := not_or.mp hbinding
    obtain ⟨hinstallation, htenant⟩ := not_or.mp hactive
    exact ⟨not_not.mp htenant, installation, hfound, not_not.mp haccount,
      not_not.mp henvironment, not_not.mp hinstallation⟩

-- Unless there is a receipt, the body runs in an active installation.
theorem serves_of_underReceipt {body : PilotStoreTransaction PilotStoredResponse}
    (h : (underReceipt context metadata body).Commits s response s') :
    s' = s ∨ s.rows.Serves context ∧ body.Commits s response s' := by
  obtain ⟨receipt, s₁, hfind, h⟩ := commits_bind.mp h
  obtain ⟨-, -, rfl⟩ := commits_findMutationReceipt.mp hfind
  cases receipt with
  | some receipt =>
    simp only [commits_bind, commits_fromExcept, commits_pure] at h
    obtain ⟨_, _, ⟨_, rfl⟩, _, rfl⟩ := h
    exact .inl rfl
  | none =>
    simp only [commits_bind, commits_fromExcept] at h
    obtain ⟨installation, s₂, hinstallation, _, s₃, ⟨hassert, hs₃⟩, h⟩ := h
    obtain ⟨rows, hrows, hs₂⟩ := commits_onField.mp hinstallation
    simp only [getInstallationContext, commits_bind, commits_get, commits_pure] at hrows
    obtain ⟨_, _, ⟨rfl, rfl⟩, rfl, rfl⟩ := hrows
    rw [hs₃, hs₂] at h
    exact .inr ⟨assertCurrentInstallation_eq_ok hassert, h⟩

theorem rows_of_createMutationReceipt {u : Unit}
    (h : (createMutationReceipt draw metadata response).Commits s u s') :
    s'.rows = s.rows ∧ s'.applied = s.applied := by
  simp only [createMutationReceipt, commits_bind, commits_require, commits_get, commits_set] at h
  obtain ⟨_, _, ⟨_, rfl⟩, _, _, ⟨rfl, rfl⟩, _, _, ⟨_, rfl⟩, rfl⟩ := h
  exact ⟨rfl, rfl⟩

theorem moves_of_mutate (h : (mutate options draw context metadata mutation).Commits s response s') :
    s.Moves options s' (.mutate context metadata mutation) := by
  rcases serves_of_underReceipt h with rfl | ⟨hserves, h⟩
  · exact .observed rfl rfl .same
  simp only [commits_bind, commits_get, commits_modify] at h
  obtain ⟨_, s, ⟨rfl, rfl⟩, result, _, hmutation, _, _, rfl, h⟩ := h
  obtain ⟨rows, hperform, rfl⟩ := commits_onField.mp hmutation
  have hreceipt : result = response ∧ s'.rows = rows ∧ s'.applied =
      { metadata, mutation, response := result, before := s.rows, after := rows } :: s.applied := by
    split_ifs at h
    · obtain ⟨_, _, hcreate, h⟩ := commits_bind.mp h
      obtain ⟨rfl, rfl⟩ := commits_pure.mp h
      obtain ⟨hrows, happlied⟩ := rows_of_createMutationReceipt hcreate
      exact ⟨rfl, hrows, happlied⟩
    · obtain ⟨rfl, rfl⟩ := commits_pure.mp h
      exact ⟨rfl, rfl, rfl⟩
  obtain ⟨rfl, hrows, happlied⟩ := hreceipt
  exact .performed rfl rfl hrows.symm hserves hperform happlied

theorem moves_of_storeReceipt {stored : PilotStoredResponse}
    (h : (storeReceipt draw context metadata stored).Commits s response s') (c : PilotCall) :
    s.Moves options s' c := by
  rcases serves_of_underReceipt h with rfl | ⟨-, h⟩
  · exact .observed rfl rfl .same
  · obtain ⟨_, _, hcreate, h⟩ := commits_bind.mp h
    obtain ⟨-, rfl⟩ := commits_pure.mp h
    obtain ⟨hrows, happlied⟩ := rows_of_createMutationReceipt hcreate
    exact .observed happlied (by rw [hrows]) (hrows ▸ .same)

theorem moves_of_provisionInstallation {accountId : String} {environment : StripeEnvironment}
    {r : Option String} (h : (provisionInstallation accountId environment).Commits s r s')
    (c : PilotCall) : s.Moves options s' c := by
  simp only [provisionInstallation, commits_bind, commits_require, commits_get] at h
  obtain ⟨_, _, ⟨_, rfl⟩, _, _, ⟨rfl, rfl⟩, h⟩ := h
  split at h
  · obtain ⟨_, rfl⟩ := commits_pure.mp h
    exact .observed rfl rfl .same
  · simp only [commits_ite, commits_bind, commits_set, commits_pure] at h
    rcases h with ⟨_, _, rfl⟩ | ⟨_, _, _, rfl, _, rfl⟩
    · exact .observed rfl rfl .same
    · exact .observed rfl rfl .same

theorem observes_of_observeTenantUser {id : String} {input : ObserveTenantUserInput}
    {rows rows' : PilotRows} {actor : PilotActor}
    (h : (observeTenantUser id input).Commits rows actor rows') :
    rows'.auditEvents = rows.auditEvents ∧ Observes rows.store.users rows'.store.users ∧
      (rows'.store.users.find? actor.id).map (·.stripeUserId) = some input.stripeUserId := by
  simp only [observeTenantUser, commits_bind, commits_get] at h
  obtain ⟨_, _, ⟨rfl, rfl⟩, h⟩ := h
  split at h
  case h_1 userId user hfound =>
    simp only [commits_bind, commits_set, commits_pure] at h
    obtain ⟨_, _, rfl, rfl, rfl⟩ := h
    have huser := Table.mem_entries_iff.mp (List.mem_of_find?_eq_some hfound)
    have hstripe := List.find?_some hfound
    exact ⟨rfl, .same, by simpa [huser] using hstripe⟩
  case h_2 hnone =>
    simp only [commits_bind, commits_require, commits_set, commits_pure] at h
    obtain ⟨_, _, ⟨_, rfl⟩, _, _, ⟨hfresh, rfl⟩, _, _, rfl, rfl, rfl⟩ := h
    refine ⟨rfl, .added (Option.isNone_iff_eq_none.mp hfresh) fun id' user huser hsame => ?_, ?_⟩
    · have hno := List.find?_eq_none.mp hnone (id', user) (Table.mem_entries_iff.mpr huser)
      exact hno (decide_eq_true hsame)
    · simp

theorem observes_of_observeContext {identity : PilotSignedIdentity} {displayName : Option String}
    {installationId : String} {r : Option PilotTenantContext}
    (h : (observeContext draw identity displayName installationId).Commits s r s') :
    s'.applied = s.applied ∧ s'.rows.auditEvents = s.rows.auditEvents ∧
      Observes s.rows.store.users s'.rows.store.users ∧ ∀ context, r = some context →
        (s'.rows.store.users.find? context.actor.id).map (·.stripeUserId) =
          some identity.userId := by
  obtain ⟨rows, hrows, rfl⟩ := commits_onField.mp h
  simp only [getInstallationContext, commits_bind, commits_get, commits_pure] at hrows
  obtain ⟨_, _, ⟨_, _, ⟨rfl, rfl⟩, rfl, rfl⟩, actor, _, hobserve, _, _, ⟨rfl, rfl⟩, rfl, rfl⟩ := hrows
  obtain ⟨haudit, husers, hactor⟩ := observes_of_observeTenantUser hobserve
  refine ⟨rfl, haudit, husers, fun context hcontext => ?_⟩
  obtain ⟨_, -, rfl⟩ := Option.map_eq_some_iff.mp hcontext
  exact hactor

theorem moves_of_answers {i : Nat} {c : PilotCall} {r : c.Reply}
    (h : (dispatchSurroundings options service inputs).answers i s c r s') :
    s.Moves options s' c := by
  have hrefl (c : PilotCall) : s.Moves options s c := .observed rfl rfl .same
  cases c with
  | findMutationReceipt nonce =>
    obtain rfl : s' = s := Transacts.keeps (P := (· = s)) h rfl
      fun _ _ hc => (commits_findMutationReceipt.mp hc).2.2
    exact hrefl _
  | mutate context metadata mutation =>
    obtain ⟨draw, h⟩ := h
    exact Transacts.keeps h (hrefl _) fun _ _ hc => moves_of_mutate hc
  | storeReceipt context metadata response =>
    obtain ⟨draw, h⟩ := h
    exact Transacts.keeps h (hrefl _) fun _ _ hc => moves_of_storeReceipt hc _
  | resolveInstallation accountId environment =>
    obtain rfl : s' = s := Transacts.keeps (P := (· = s)) h rfl
      fun _ _ hc => eq_of_resolveInstallation hc
    exact hrefl _
  | provisionInstallation accountId environment =>
    exact Transacts.keeps h (hrefl _) fun _ _ hc => moves_of_provisionInstallation hc _
  | observeContext identity displayName installationId =>
    obtain ⟨draw, h⟩ := h
    have hcommits (r : Option PilotTenantContext) (s' : PilotStore)
        (hc : (observeContext draw identity displayName installationId).Commits s r s') :
        s.Moves options s' (.observeContext identity displayName installationId) := by
      obtain ⟨happlied, haudit, husers, -⟩ := observes_of_observeContext hc
      exact .observed happlied haudit husers
    exact Transacts.keeps h (hrefl _) hcommits
  | _ =>
    obtain rfl : s' = s := h
    exact hrefl _

theorem actor_of_answers {i : Nat} {identity : PilotSignedIdentity} {displayName : Option String}
    {installationId : String}
    (h : (dispatchSurroundings options service inputs).answers i s
      (.observeContext identity displayName installationId) (.ok (some context)) s') :
    (s'.rows.store.users.find? context.actor.id).map (·.stripeUserId) = some identity.userId := by
  obtain ⟨draw, h⟩ := h
  cases h with
  | committed hc =>
    obtain ⟨-, -, -, hactor⟩ := observes_of_observeContext hc
    exact hactor context rfl

end Moves
def mutationActions : List String := [
  "refund_request.created",
  "refund_request.approved",
  "refund_request.rejectd",
  "refund_request.canceled",
  "external_refund_alert.acknowledged",
  "settings.updated",
  "audit.export_prepared"
]

-- The part of the audit trail that is about mutations.
def PilotRows.mutationEvents (rows : PilotRows) : List AuditEvent :=
  rows.auditEvents.filter fun event => mutationActions.contains event.action

-- Other programs leave the users and the mutations alone, and write audit events of other actions.
structure PilotStore.Disturbed (s s' : PilotStore) : Prop where
  receipts : s'.receipts = s.receipts
  applied  : s'.applied = s.applied
  users    : s'.rows.store.users = s.rows.store.users
  events   : s'.rows.mutationEvents = s.rows.mutationEvents

def mutationSurroundings (options : PilotPrismaRepositoryOptions) (service : PilotService)
    (inputs : Nat → PilotDispatchRequest) :
    Surroundings PilotStore PilotFailure PilotCall.Reply PilotStoredResponse :=
  { dispatchSurroundings options service inputs with disturbs := PilotStore.Disturbed }

-- The mutation has been asked for by the dispatch of a signed user, who at its commit is still the
-- user of the active installation, and may do it.
structure Authorized (service : PilotService) (input : PilotDispatchRequest)
    (t : List (Event PilotCall.Reply)) (context : PilotTenantContext) (a : AppliedMutation) :
    Prop where
  metadata  : a.metadata = input.metadata
  worksIn   : WorksIn service input t context
  asks      : Asks input context t a.mutation
  serves    : a.before.Serves context
  actor     : (a.before.store.users.find? context.actor.id).map (·.stripeUserId) =
    some input.identity.userId
  permitted : Permitted context a.before a.mutation

-- The users that have been observed are there, the mutations are authorized, and the audit trail has
-- grown by their events.
structure MutationsSound (service : PilotService) (inputs : Nat → PilotDispatchRequest)
    (y₀ y : Dispatches) : Prop where
  actors     : ∀ i identity displayName installationId context,
    Told (Concurrent.eventsOf y.events i)
      (.observeContext identity displayName installationId) (some context) →
    (y.state.rows.store.users.find? context.actor.id).map (·.stripeUserId) = some identity.userId
  authorized : ∀ a ∈ y.state.applied, ∃ i context,
    Authorized service (inputs i) (Concurrent.eventsOf y.events i) context a
  trail      : ∃ events, y.state.rows.mutationEvents = y₀.state.rows.mutationEvents ++ events ∧
    List.Forall₂ AuditEvent.Records events (y.state.applied.reverse.filter (·.IsAudited))

-- What an answer does to the store, with what the dispatch has seen to.
inductive Dispatches.Moves (service : PilotService) (inputs : Nat → PilotDispatchRequest)
    (y : Dispatches) (s' : PilotStore) : Prop
  | observed :
    s'.applied = y.state.applied → s'.rows.auditEvents = y.state.rows.auditEvents →
    Observes y.state.rows.store.users s'.rows.store.users → Dispatches.Moves service inputs y s'
  | performed {i context a} :
    Authorized service (inputs i) (Concurrent.eventsOf y.events i) context a →
    a.before = y.state.rows → a.after = s'.rows → a.Effects context →
    s'.applied = a :: y.state.applied → Dispatches.Moves service inputs y s'

section Runs

variable {options : PilotPrismaRepositoryOptions} {service : PilotService}
variable {inputs : Nat → PilotDispatchRequest} {y₀ y y' : Dispatches} {s' : PilotStore}

abbrev AuthorityMeets (service : PilotService) (inputs : Nat → PilotDispatchRequest)
    (y : Dispatches) : Prop :=
  y.Meets (fun i => authorityContract service (inputs i)) fun _ _ _ => True

theorem MutationsSound.moves (h : MutationsSound service inputs y₀ y)
    (hmeets : AuthorityMeets service inputs y) {i : Nat} {c : PilotCall} {r : c.Reply}
    {next : c.Reply → PilotScript PilotStoredResponse} (hi : y.scripts i = some (.ask c next))
    (ha : (dispatchSurroundings options service inputs).answers i y.state c r s') :
    y.Moves service inputs s' := by
  cases moves_of_answers ha with
  | observed happlied haudit husers => exact .observed happlied haudit husers
  | @performed context draw a hc hbefore hafter hserves hperform happlied =>
    subst hc
    obtain ⟨hmetadata, hworks, hasks⟩ := hmeets.guarantee hi
    obtain ⟨displayName, installationId, htold⟩ := hworks.observed
    have hactor := h.actors i _ displayName installationId context htold
    obtain ⟨-, installation, hinstalled, -⟩ := id hserves
    have hacts : a.ActsIn context := {
      user      := by rw [hworks.user, hmetadata]; rfl
      actor     := by rw [hbefore, hactor, hmetadata]; rfl
      installed := by rw [hbefore, hinstalled]; rfl
    }
    have heffects := effects_of_performMutation hacts hperform
    refine .performed ⟨hmetadata, hworks, hasks, ?_, ?_, heffects.permitted⟩ hbefore hafter heffects
      happlied
    · exact hbefore ▸ hserves
    · exact hbefore ▸ hactor

theorem action_mem_of_records {event : AuditEvent} {a : AppliedMutation} (h : event.Records a) :
    mutationActions.contains event.action := by
  have haction := h.action
  cases hmutation : a.mutation with
  | refundRequestDecide decision _ _ =>
    cases decision with
    | approve  => rw [hmutation] at haction; rw [← Option.some.inj haction]; decide
    | reject _ => rw [hmutation] at haction; rw [← Option.some.inj haction]; decide
  | contextSync => rw [hmutation] at haction; cases haction
  | _           => rw [hmutation] at haction; rw [← Option.some.inj haction]; decide

theorem filter_of_records {events : List AuditEvent} {as : List AppliedMutation}
    (h : List.Forall₂ AuditEvent.Records events as) :
    events.filter (fun event => mutationActions.contains event.action) = events := by
  induction h with
  | nil => rfl
  | cons hhead _ ih =>
    exact (List.filter_cons_of_pos (p := fun event : AuditEvent => mutationActions.contains event.action)
      (action_mem_of_records hhead)).trans (congrArg _ ih)

-- A committed mutation adds its event to the trail, and no other.
theorem AppliedMutation.Effects.trail {a : AppliedMutation} {context : PilotTenantContext}
    (h : a.Effects context) : ∃ events, a.after.mutationEvents = a.before.mutationEvents ++ events ∧
      List.Forall₂ AuditEvent.Records events ([a].filter (·.IsAudited)) := by
  obtain ⟨events, hevents, hrecords⟩ := h.events
  refine ⟨events, ?_, hrecords⟩
  rw [PilotRows.mutationEvents, hevents, List.filter_append, filter_of_records hrecords]
  rfl

theorem identity_of_observes {users users' : Table String TenantUser} (h : Observes users users')
    {id stripeUserId : String} (hid : (users.find? id).map (·.stripeUserId) = some stripeUserId) :
    (users'.find? id).map (·.stripeUserId) = some stripeUserId := by
  cases h with
  | same => exact hid
  | @added id' _ hfresh hnone =>
    have hne : id ≠ id' := by
      rintro rfl
      rw [hfresh] at hid
      cases hid
    rwa [Table.find?_insert_ne hne]

theorem identity_enable {users : Table String TenantUser} {mutation : PilotMutation} {id : String} :
    ((mutation.enable users).find? id).map (·.stripeUserId) =
      (users.find? id).map (·.stripeUserId) := by
  cases mutation with
  | settingsUpdate _ _ =>
    rw [PilotMutation.enable, Table.find?_map, Option.map_map]
    rfl
  | _ => rfl

theorem Dispatches.Moves.identity (h : y.Moves service inputs s') {id stripeUserId : String}
    (hid : (y.state.rows.store.users.find? id).map (·.stripeUserId) = some stripeUserId) :
    (s'.rows.store.users.find? id).map (·.stripeUserId) = some stripeUserId := by
  cases h with
  | observed _ _ husers => exact identity_of_observes husers hid
  | performed _ hbefore hafter heffects _ =>
    rw [← hafter, heffects.users, identity_enable, hbefore, hid]

theorem Authorized.mono {input : PilotDispatchRequest} {t t' : List (Event PilotCall.Reply)}
    {context : PilotTenantContext} {a : AppliedMutation} (h : Authorized service input t context a)
    (ht : t ⊆ t') : Authorized service input t' context a :=
  { h with worksIn := h.worksIn.mono ht, asks := h.asks.mono ht }

theorem eventsOf_subset {events : List (Nat × Event PilotCall.Reply)}
    {e : Nat × Event PilotCall.Reply} {i : Nat} :
    Concurrent.eventsOf events i ⊆ Concurrent.eventsOf (events ++ [e]) i := fun _ he =>
  Concurrent.mem_eventsOf.mpr (List.mem_append_left _ (Concurrent.mem_eventsOf.mp he))

theorem MutationsSound.answered (h : MutationsSound service inputs y₀ y)
    {i : Nat} {c : PilotCall} {r : c.Reply}
    {scripts : Nat → Option (PilotScript PilotStoredResponse)}
    (ha : (dispatchSurroundings options service inputs).answers i y.state c r s')
    (hmoves : y.Moves service inputs s') :
    MutationsSound service inputs y₀ ⟨s', scripts, y.events ++ [(i, ⟨c, r⟩)]⟩ where
  actors j identity displayName installationId context htold := by
    rcases List.mem_append.mp (Concurrent.mem_eventsOf.mp htold) with htold | htold
    · exact hmoves.identity (h.actors j identity displayName installationId context
        (Concurrent.mem_eventsOf.mpr htold))
    · obtain ⟨-, hevent⟩ := Prod.mk.inj (List.mem_singleton.mp htold)
      cases hevent
      exact actor_of_answers ha
  authorized a hmem := by
    have hkept : ∀ b ∈ y.state.applied, ∃ j context, Authorized service (inputs j)
        (Concurrent.eventsOf (y.events ++ [(i, ⟨c, r⟩)]) j) context b := by
      intro b hb
      obtain ⟨j, context, hauthorized⟩ := h.authorized b hb
      exact ⟨j, context, hauthorized.mono eventsOf_subset⟩
    cases hmoves with
    | observed happlied _ _ => exact hkept a (happlied ▸ hmem)
    | @performed j context b hauthorized _ _ _ happlied =>
      rcases List.mem_cons.mp (happlied ▸ hmem) with rfl | hmem
      · exact ⟨j, context, hauthorized.mono eventsOf_subset⟩
      · exact hkept a hmem
  trail := by
    obtain ⟨events, htrail, hrecords⟩ := h.trail
    cases hmoves with
    | observed happlied haudit _ =>
      refine ⟨events, ?_, happlied ▸ hrecords⟩
      rw [← htrail, PilotRows.mutationEvents, haudit]
      rfl
    | @performed j context b _ hbefore hafter heffects happlied =>
      obtain ⟨added, hadded, hrecord⟩ := heffects.trail
      refine ⟨events ++ added, ?_, ?_⟩
      · rw [← hafter, hadded, hbefore, htrail, List.append_assoc]
      · rw [happlied, List.reverse_cons, List.filter_append]
        exact List.rel_append hrecords hrecord

theorem MutationsSound.step (hmeets : AuthorityMeets service inputs y)
    (h : MutationsSound service inputs y₀ y)
    (hstep : Concurrent.Step (mutationSurroundings options service inputs) y y') :
    MutationsSound service inputs y₀ y' := by
  cases hstep with
  | started _ _    => exact { h with }
  | answered hi ha => exact h.answered ha (h.moves hmeets hi ha)
  | disturbed hd   =>
    refine ⟨fun i identity displayName installationId context htold => ?_, fun a ha => ?_, ?_⟩
    · rw [hd.users]
      exact h.actors i identity displayName installationId context htold
    · exact h.authorized a (hd.applied ▸ ha)
    · rw [hd.events, hd.applied]
      exact h.trail

-- What the answers and the other programs preserve holds after a run.
theorem MutationsSound.of_run {P : PilotStore → Prop} (hidle : y.Idle)
    (happlied : y.state.applied = []) (hP : P y.state)
    (hmoves : ∀ (y : Dispatches) s', y.Moves service inputs s' → P y.state → P s')
    (hdisturbed : ∀ (s s' : PilotStore), s.Disturbed s' → P s → P s')
    (hrun : ReflTransGen (Concurrent.Step (mutationSurroundings options service inputs)) y y') :
    MutationsSound service inputs y y' ∧ P y'.state := by
  have hstarts : ∀ i script, (mutationSurroundings options service inputs).starts i script →
      script.Meets (authorityContract service (inputs i)) (fun _ _ => True) [] := by
    rintro i script rfl
    exact dispatch_leads.mono fun _ _ _ => trivial
  have hempty : MutationsSound service inputs y y := by
    refine ⟨?_, by simp [happlied], [], (List.append_nil _).symm, by simp [happlied]⟩
    simp [Told, hidle.2, Concurrent.eventsOf]
  refine (Concurrent.meets_of_run (fun y' => MutationsSound service inputs y y' ∧ P y'.state) hstarts
    (fun _ _ _ _ _ _ _ => trivial) (fun y₁ y₂ hmeets h hstep => ⟨h.1.step hmeets hstep, ?_⟩)
    hidle ⟨hempty, hP⟩ hrun).2
  cases hstep with
  | started _ _    => exact h.2
  | answered hi ha => exact hmoves y₁ _ (h.1.moves hmeets hi ha) h.2
  | disturbed hd   => exact hdisturbed _ _ hd h.2

-- However dispatches interleave, and whatever other programs change in between: every mutation that
-- has committed was asked for by a dispatch of its user, who was still permitted to make it when it
-- committed.
theorem mutations_authorized (hidle : y.Idle) (happlied : y.state.applied = [])
    (hrun : ReflTransGen (Concurrent.Step (mutationSurroundings options service inputs)) y y') :
    ∀ a ∈ y'.state.applied, ∃ i context,
      Authorized service (inputs i) (Concurrent.eventsOf y'.events i) context a :=
  (MutationsSound.of_run hidle happlied trivial (fun _ _ _ _ => trivial) (fun _ _ _ _ => trivial)
    hrun).1.authorized

end Runs

section Approvers

-- No two users have the same Stripe id.
def StripeIdsUnique (users : Table String TenantUser) : Prop :=
  ∀ id id' user user', users.find? id = some user → users.find? id' = some user' →
    user.stripeUserId = user'.stripeUserId → id = id'

def AppliedMutation.approvers? (a : AppliedMutation) : Option (List String) :=
  match a.mutation with
  | .settingsUpdate approverUserIds _ => some approverUserIds
  | _                                 => none

-- The users that the last update of the settings has listed.
def PilotStore.approvers? (s : PilotStore) : Option (List String) :=
  s.applied.findSome? (·.approvers?)

-- The listed users are there, and they are the approvers.
structure Enabled (users : Table String TenantUser) (approverUserIds : List String) : Prop where
  present : ∀ stripeUserId ∈ approverUserIds,
    ∃ id user, users.find? id = some user ∧ user.stripeUserId = stripeUserId
  exact   : ∀ id user, users.find? id = some user →
    (user.approverEnabled ↔ user.stripeUserId ∈ approverUserIds)

-- The approvers are those of the last update of the settings, or the initial ones.
structure ApproversSound (users₀ : Table String TenantUser) (s : PilotStore) : Prop where
  unique  : StripeIdsUnique s.rows.store.users
  stays   : ∀ id, s.rows.store.users.find? id = none → users₀.find? id = none
  initial : s.approvers? = none → ∀ id user, s.rows.store.users.find? id = some user →
    (user.approverEnabled ↔ (users₀.find? id).any (·.approverEnabled))
  listed  : ∀ approverUserIds, s.approvers? = some approverUserIds →
    Enabled s.rows.store.users approverUserIds

variable {options : PilotPrismaRepositoryOptions} {service : PilotService}
variable {inputs : Nat → PilotDispatchRequest} {y₀ y y' : Dispatches} {s s' : PilotStore}
variable {users users₀ : Table String TenantUser} {approverUserIds : List String}

theorem stripeIds_nodup (hunique : StripeIdsUnique users) :
    (users.entries.map (·.2.stripeUserId)).Nodup := by
  have hentries : users.entries.Nodup :=
    users.sorted.imp fun hlt heq => ne_of_lt hlt (congrArg Prod.fst heq)
  refine hentries.map_on fun e he e' he' hsame => ?_
  have he := Table.mem_entries_iff.mp he
  have he' := Table.mem_entries_iff.mp he'
  have hid := hunique e.1 e'.1 e.2 e'.2 he he' hsame
  exact Prod.ext hid (Option.some.inj (he.symm.trans (hid ▸ he')))

theorem subset_of_countP {ids stripeUserIds : List String}
    (hnodup : stripeUserIds.Nodup) (hcount : stripeUserIds.countP (· ∈ ids) = ids.length) :
    ids ⊆ stripeUserIds := by
  have hsubperm : (stripeUserIds.filter (· ∈ ids)).Subperm ids :=
    (hnodup.filter _).subperm fun id hid => of_decide_eq_true (List.mem_filter.mp hid).2
  have hlength : ids.length ≤ (stripeUserIds.filter (· ∈ ids)).length := by
    rw [← List.countP_eq_length_filter, hcount]
  intro id hid
  exact (List.mem_filter.mp ((hsubperm.perm_of_length_le hlength).mem_iff.mpr hid)).1

-- As many users are listed as there are ids, so every id is that of a user.
theorem enabled_of_count {onboardingCompleted : Bool} (hunique : StripeIdsUnique users)
    (hcount : users.count (fun _ user => user.stripeUserId ∈ approverUserIds) =
      approverUserIds.length) :
    Enabled ((PilotMutation.settingsUpdate approverUserIds onboardingCompleted).enable users)
      approverUserIds where
  present stripeUserId hlisted := by
    rw [Table.count] at hcount
    have hmem := subset_of_countP (stripeIds_nodup hunique)
      ((List.countP_map ..).trans hcount) hlisted
    obtain ⟨⟨id, user⟩, hentry, hsame⟩ := List.mem_map.mp hmem
    refine ⟨id, { user with approverEnabled := user.stripeUserId ∈ approverUserIds }, ?_, hsame⟩
    rw [PilotMutation.enable, Table.find?_map, Table.mem_entries_iff.mp hentry]
    rfl
  exact id user hfound := by
    rw [PilotMutation.enable, Table.find?_map] at hfound
    obtain ⟨user', -, rfl⟩ := Option.map_eq_some_iff.mp hfound
    exact decide_eq_true_iff

theorem found_of_enable {mutation : PilotMutation} {id : String} {user : TenantUser}
    (h : (mutation.enable users).find? id = some user) :
    ∃ user', users.find? id = some user' ∧ user'.stripeUserId = user.stripeUserId := by
  have hidentity : ((mutation.enable users).find? id).map (·.stripeUserId) =
    some user.stripeUserId := congrArg (Option.map _) h
  rw [identity_enable] at hidentity
  exact Option.map_eq_some_iff.mp hidentity

theorem StripeIdsUnique.enable (hunique : StripeIdsUnique users) (mutation : PilotMutation) :
    StripeIdsUnique (mutation.enable users) := by
  intro id id' user user' hfound hfound' hsame
  obtain ⟨old, hold, hid⟩ := found_of_enable hfound
  obtain ⟨old', hold', hid'⟩ := found_of_enable hfound'
  exact hunique id id' old old' hold hold' (hid.trans (hsame.trans hid'.symm))

theorem StripeIdsUnique.insert {id stripeUserId : String} (hunique : StripeIdsUnique users)
    (hnone : ∀ id' user, users.find? id' = some user → user.stripeUserId ≠ stripeUserId) :
    StripeIdsUnique (users.insert id { stripeUserId, approverEnabled := false }) := by
  intro id₁ id₂ user₁ user₂ h₁ h₂ hsame
  rw [Table.find?_insert] at h₁ h₂
  split_ifs at h₁ h₂ with hid₁ hid₂ hid₂
  · exact hid₁.trans hid₂.symm
  · obtain rfl := Option.some.inj h₁
    exact (hnone id₂ user₂ h₂ hsame.symm).elim
  · obtain rfl := Option.some.inj h₂
    exact (hnone id₁ user₁ h₁ hsame).elim
  · exact hunique id₁ id₂ user₁ user₂ h₁ h₂ hsame

-- A user that is added is no approver, and has not been listed.
theorem ApproversSound.observed (h : ApproversSound users₀ s) (happlied : s'.applied = s.applied)
    (husers : Observes s.rows.store.users s'.rows.store.users) : ApproversSound users₀ s' := by
  have hsame : s'.approvers? = s.approvers? := congrArg (List.findSome? _) happlied
  generalize hnew : s'.rows.store.users = users' at husers
  cases husers with
  | same =>
    refine ⟨hnew ▸ h.unique, hnew ▸ h.stays, hsame ▸ hnew ▸ h.initial, hsame ▸ hnew ▸ h.listed⟩
  | @added id stripeUserId hfresh hnone =>
    refine ⟨?unique, fun id' hid' => ?stays, fun hnever id' user hfound => ?initial,
      fun approverUserIds hlisted => ?listed⟩
    case unique => exact hnew ▸ h.unique.insert hnone
    case stays =>
      rw [hnew, Table.find?_insert] at hid'
      split_ifs at hid'
      exact h.stays id' hid'
    case initial =>
      rw [hnew, Table.find?_insert] at hfound
      split_ifs at hfound with hid
      · obtain rfl := Option.some.inj hfound
        simp [hid, h.stays id hfresh]
      · exact h.initial (hsame ▸ hnever) id' user hfound
    case listed =>
      have henabled := h.listed approverUserIds (hsame ▸ hlisted)
      refine ⟨fun stripeUserId' hmem => ?_, fun id' user hfound => ?_⟩
      · obtain ⟨id', user, hfound, hstripe⟩ := henabled.present stripeUserId' hmem
        have hne : id' ≠ id := by
          rintro rfl
          rw [hfresh] at hfound
          cases hfound
        exact ⟨id', user, by rw [hnew, Table.find?_insert_ne hne, hfound], hstripe⟩
      · rw [hnew, Table.find?_insert] at hfound
        split_ifs at hfound with hid
        · obtain rfl := Option.some.inj hfound
          refine iff_of_false Bool.false_ne_true fun hmem => ?_
          obtain ⟨id'', user, hfound, hstripe⟩ := henabled.present stripeUserId hmem
          exact hnone id'' user hfound hstripe
        · exact henabled.exact id' user hfound

-- An update of the settings makes the listed users the approvers, and no other mutation changes them.
theorem ApproversSound.performed {context : PilotTenantContext} {a : AppliedMutation}
    (h : ApproversSound users₀ s) (hbefore : a.before = s.rows) (hafter : a.after = s'.rows)
    (heffects : a.Effects context) (happlied : s'.applied = a :: s.applied) :
    ApproversSound users₀ s' := by
  have husers : s'.rows.store.users = a.mutation.enable s.rows.store.users := by
    rw [← hafter, heffects.users, hbefore]
  have hunique : StripeIdsUnique s'.rows.store.users := husers ▸ h.unique.enable a.mutation
  have hstays : ∀ id, s'.rows.store.users.find? id = none → users₀.find? id = none := by
    intro id hnone
    cases hold : s.rows.store.users.find? id with
    | none      => exact h.stays id hold
    | some user =>
      have hkept : (s'.rows.store.users.find? id).map (·.stripeUserId) =
          some user.stripeUserId := by
        rw [husers, identity_enable, hold]
        rfl
      rw [hnone] at hkept
      cases hkept
  have hpermitted := heffects.permitted
  cases hmutation : a.mutation with
  | settingsUpdate approverUserIds onboardingCompleted =>
    have hlast : s'.approvers? = some approverUserIds := by
      rw [PilotStore.approvers?, happlied, List.findSome?_cons, AppliedMutation.approvers?, hmutation]
    rw [hmutation, hbefore] at hpermitted
    rw [hmutation] at husers
    refine ⟨hunique, hstays, fun hnever => by simp [hlast] at hnever, fun listed hlisted => ?_⟩
    obtain rfl := Option.some.inj (hlast.symm.trans hlisted)
    exact husers ▸ enabled_of_count h.unique hpermitted
  | _ =>
    have hsame : s'.approvers? = s.approvers? := by
      rw [PilotStore.approvers?, happlied, List.findSome?_cons, AppliedMutation.approvers?, hmutation]
      rfl
    rw [hmutation] at husers
    exact ⟨hunique, hstays, hsame ▸ husers ▸ h.initial, hsame ▸ husers ▸ h.listed⟩

theorem ApproversSound.moves (h : ApproversSound users₀ y.state)
    (hmoves : y.Moves service inputs s') : ApproversSound users₀ s' := by
  cases hmoves with
  | observed happlied _ husers => exact h.observed happlied husers
  | performed _ hbefore hafter heffects happlied =>
    exact h.performed hbefore hafter heffects happlied

theorem ApproversSound.disturbed (h : ApproversSound users₀ s) (hs : s.Disturbed s') :
    ApproversSound users₀ s' := by
  have hsame : s'.approvers? = s.approvers? := congrArg (List.findSome? _) hs.applied
  exact ⟨hs.users ▸ h.unique, hs.users ▸ h.stays, hsame ▸ hs.users ▸ h.initial,
    hsame ▸ hs.users ▸ h.listed⟩

theorem ApproversSound.start (happlied : s.applied = [])
    (hunique : StripeIdsUnique s.rows.store.users) : ApproversSound s.rows.store.users s where
  unique  := hunique
  stays   := fun _ h => h
  initial := fun _ id user hfound => by simp [hfound]
  listed  := fun _ h => by simp [PilotStore.approvers?, happlied] at h

-- Nobody becomes an approver or stops being one but by an update of the settings that a signed
-- administrator has asked for: the approvers are the users that the last one lists, all of them known,
-- and without any they are those of the start.
theorem approvers_set_by_administrators (hidle : y.Idle) (happlied : y.state.applied = [])
    (hunique : StripeIdsUnique y.state.rows.store.users)
    (hrun : ReflTransGen (Concurrent.Step (mutationSurroundings options service inputs)) y y') :
    (y'.state.approvers? = none → ∀ id user, y'.state.rows.store.users.find? id = some user →
      (user.approverEnabled ↔ (y.state.rows.store.users.find? id).any (·.approverEnabled))) ∧
    ∀ approverUserIds, y'.state.approvers? = some approverUserIds →
      Enabled y'.state.rows.store.users approverUserIds ∧
      ∃ i listed onboardingCompleted, (inputs i).identity.isAdministrator ∧
        (inputs i).command = .settingsUpdate listed onboardingCompleted ∧ listed ≠ [] ∧
        approverUserIds = listed.eraseDups := by
  obtain ⟨hsound, happrovers⟩ := MutationsSound.of_run hidle happlied
    (ApproversSound.start happlied hunique) (fun _ _ hmoves h => h.moves hmoves)
    (fun _ _ hd h => h.disturbed hd) hrun
  refine ⟨happrovers.initial, fun approverUserIds hlast => ⟨happrovers.listed _ hlast, ?_⟩⟩
  obtain ⟨a, ha, hlisted⟩ := List.exists_of_findSome?_eq_some hlast
  obtain ⟨i, context, hauthorized⟩ := hsound.authorized a ha
  have hasks := hauthorized.asks
  unfold AppliedMutation.approvers? at hlisted
  split at hlisted
  case h_1 approverUserIds' onboardingCompleted hmutation =>
    obtain rfl := Option.some.inj hlisted
    rw [hmutation] at hasks
    cases hasks with
    | settingsUpdate hcommand hadministrator hsome =>
      exact ⟨i, _, onboardingCompleted, hadministrator, hcommand, hsome, rfl⟩
  case h_2 => cases hlisted

end Approvers
namespace Pilot

-- An administrator makes herself the only approver.
def updatingSettings : PilotDispatchRequest :=
  { synchronizing with
    command  := .settingsUpdate ["usr_1", "usr_1"] false
    identity := { synchronizing.identity with
      roles         := [{ id := none, type := .builtIn, name := "Administrator" }]
      rolesAsserted := true
    }
  }

def aroundUpdate : Surroundings PilotStore PilotFailure PilotCall.Reply PilotStoredResponse :=
  mutationSurroundings platform service fun _ => updatingSettings

def observedAdministrator : PilotStore :=
  (observeContext (drawn 1) updatingSettings.identity none "i").after unserved

def updatedSettings : PilotStore :=
  (mutate platform (drawn 2) syncingContext updatingSettings.metadata
    (.settingsUpdate ["usr_1"] false)).after observedAdministrator

theorem update_run : ∃ y : Dispatches, ReflTransGen (Concurrent.Step aroundUpdate) waiting y ∧
    y.state = updatedSettings := by
  have hresolve : aroundUpdate.answers 0 unserved (.resolveInstallation "acct_1" .test)
      (.ok (some "i")) unserved := by
    have hc : (resolveInstallation "acct_1" .test).Commits unserved (some "i")
      ((resolveInstallation "acct_1" .test).after unserved) := commits_after (by decide +kernel)
    exact eq_of_resolveInstallation hc ▸ .committed hc
  have hobserve : aroundUpdate.answers 0 unserved
      (.observeContext updatingSettings.identity none "i") (.ok (some syncingContext))
      observedAdministrator :=
    ⟨drawn 1, .committed (commits_after (by decide +kernel))⟩
  have hfind : aroundUpdate.answers 0 observedAdministrator
      (.findMutationReceipt updatingSettings.requestNonce) (.ok none) observedAdministrator :=
    .committed (commits_findMutationReceipt.mpr ⟨by decide +kernel, by rfl, rfl⟩)
  have hmutate : ∃ response, aroundUpdate.answers 0 observedAdministrator
      (.mutate syncingContext updatingSettings.metadata (.settingsUpdate ["usr_1"] false))
      (.ok response) updatedSettings := by
    obtain ⟨response, hresponse⟩ := Option.isSome_iff_exists.mp (show
      (((mutate platform (drawn 2) syncingContext updatingSettings.metadata
        (.settingsUpdate ["usr_1"] false)).run observedAdministrator).toOption.map (·.1)).isSome by
      decide +kernel)
    exact ⟨response, drawn 2, .committed (commits_after hresponse)⟩
  obtain ⟨response, hmutate⟩ := hmutate
  have hstarts : aroundUpdate.starts 0 (service.dispatch updatingSettings) := rfl
  obtain ⟨y₁, h₁, hs, hp, -, -⟩ := Concurrent.Step.start (y := waiting) rfl hstarts
  obtain ⟨y₂, h₂, hs, hp, -, -⟩ := Concurrent.Step.answer hs hp hresolve
  obtain ⟨y₃, h₃, hs, hp, -, -⟩ := Concurrent.Step.answer hs hp hobserve
  obtain ⟨y₄, h₄, hs, hp, -, -⟩ := Concurrent.Step.answer hs hp hfind
  obtain ⟨y₅, h₅, hs, -, -, -⟩ := Concurrent.Step.answer hs hp hmutate
  exact ⟨y₅, (ReflTransGen.single h₁).tail h₂ |>.tail h₃ |>.tail h₄ |>.tail h₅, hs⟩

theorem mutations_authorized_update : ∃ y : Dispatches, y.state.applied.length = 1 ∧
    ∀ a ∈ y.state.applied, ∃ i context,
      Authorized service updatingSettings (Concurrent.eventsOf y.events i) context a := by
  obtain ⟨y, hrun, hs⟩ := update_run
  have hlength : updatedSettings.applied.length = 1 := by decide +kernel
  exact ⟨y, hs ▸ hlength, mutations_authorized ⟨fun _ => rfl, rfl⟩ rfl hrun⟩

-- She was no approver, and the one that was is none any more.
theorem approvers_set_by_administrators_update : ∃ y : Dispatches,
    y.state.approvers? = some ["usr_1"] ∧ Enabled y.state.rows.store.users ["usr_1"] ∧
    (waiting.state.rows.store.users.find? "approver").any (·.approverEnabled) := by
  obtain ⟨y, hrun, hs⟩ := update_run
  have hunique : StripeIdsUnique unserved.rows.store.users := by
    have hentries : ∀ e ∈ Store.pilot.users.entries, ∀ e' ∈ Store.pilot.users.entries,
        e.2.stripeUserId = e'.2.stripeUserId → e.1 = e'.1 := by decide +kernel
    exact fun id id' user user' h h' hsame =>
      hentries (id, user) (Table.mem_entries_iff.mpr h) (id', user') (Table.mem_entries_iff.mpr h')
        hsame
  have happrovers : updatedSettings.approvers? = some ["usr_1"] := by decide +kernel
  rw [← hs] at happrovers
  have hset := approvers_set_by_administrators ⟨fun _ => rfl, rfl⟩ rfl hunique hrun
  exact ⟨y, happrovers, (hset.2 _ happrovers).1, by decide +kernel⟩

end Pilot
end RefundDesk
