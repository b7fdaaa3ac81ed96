import RefundDesk.Library.LatestWins
import RefundDesk.Platform.AccountWebhook
import RefundDesk.Repositories.Protection
import RefundDesk.Worker.Observation

namespace RefundDesk

open Transaction TenantRepository LatestWins

inductive LifecycleEventType
  | authorized
  | deauthorized
  deriving DecidableEq, Repr

def LifecycleEventType.webhook : LifecycleEventType → AccountWebhookEventType
  | authorized   => .accountApplicationAuthorized
  | deauthorized => .accountApplicationDeauthorized

structure LifecycleEvent where
  id      : String
  type    : LifecycleEventType
  created : Int
  deriving DecidableEq, Repr

-- The time of the event, and of two events of a second the deauthorization is the greater one.
abbrev LifecycleRank := Timestamp ×ₗ Bool

def LifecycleEvent.rank (e : LifecycleEvent) : LifecycleRank :=
  toLex (stripeSecond e.created, e.type = .deauthorized)

def LifecycleEvent.event (e : LifecycleEvent) : Event String LifecycleRank where
  id   := e.id
  rank := e.rank

-- What a lifecycle event sets in the rows of the installation and the tenant.
structure LifecycleState where
  status          : InstallationStatus
  deauthorizedAt  : Option Timestamp
  tenantStatus    : TenantStatus
  pendingDeleteAt : Option Timestamp
  deriving DecidableEq, Repr

def lifecycleState (rank : LifecycleRank) : LifecycleState :=
  let (time, deauthorized) := ofLex rank
  if deauthorized then {
    status          := .deauthorized
    deauthorizedAt  := some time
    tenantStatus    := .pendingDeletion
    pendingDeleteAt := some (time + AccountWebhook.tenantPurgeDelayMilliseconds)
  } else {
    status          := .active
    deauthorizedAt  := none
    tenantStatus    := .active
    pendingDeleteAt := none
  }

-- `stripe_installations_lifecycle_watermark_check`
def StripeInstallation.WatermarkCheck (installation : StripeInstallation) : Prop :=
  installation.lastLifecycleEventId = none ∧ installation.lastLifecycleEventType = none ∧
    installation.lastLifecycleEventCreatedAt = none ∨
  ∃ id createdAt, ∃ type : LifecycleEventType, installation.lastLifecycleEventId = some id ∧
    installation.lastLifecycleEventType = some type.webhook ∧
    installation.lastLifecycleEventCreatedAt = some createdAt

def StripeInstallation.recordedEvent (installation : StripeInstallation) :
    Option (Event String LifecycleRank) := do
  let id ← installation.lastLifecycleEventId
  let createdAt ← installation.lastLifecycleEventCreatedAt
  let type ← installation.lastLifecycleEventType
  pure { id, rank := toLex (createdAt, type = .accountApplicationDeauthorized) }

def Store.lifecycle (s : Store) (installation : StripeInstallation) :
    Register String LifecycleRank LifecycleState where
  recorded := installation.recordedEvent
  value    := {
    status          := installation.status
    deauthorizedAt  := installation.deauthorizedAt
    tenantStatus    := s.tenant.status
    pendingDeleteAt := s.tenant.pendingDeleteAt
  }

-- What the rows of the installation and the tenant record.
def Store.Records (s : Store) (installationId : String) (environment : StripeEnvironment)
    (r : Register String LifecycleRank LifecycleState) : Prop :=
  ∃ installation, s.installations.find? installationId = some installation ∧
    installation.WatermarkCheck ∧ installation.environment = environment ∧
    s.lifecycle installation = r

section Effects

variable {now : Timestamp} {s s' : Store} {installationId : String}
  {installation : StripeInstallation} {environment : StripeEnvironment} {e : LifecycleEvent}
  {r : Register String LifecycleRank LifecycleState} {b : Bool}

theorem recorded_cases (h : installation.WatermarkCheck) :
    installation.lastLifecycleEventCreatedAt = none ∧ installation.recordedEvent = none ∨
    ∃ id time, ∃ type : LifecycleEventType,
      installation.lastLifecycleEventId = some id ∧
      installation.lastLifecycleEventType = some type.webhook ∧
      installation.lastLifecycleEventCreatedAt = some time ∧
      installation.recordedEvent = some ⟨id, toLex (time, type = .deauthorized)⟩ := by
  rcases h with ⟨hid, htype, htime⟩ | ⟨id, time, type, hid, htype, htime⟩
  · exact .inl ⟨htime, by simp [StripeInstallation.recordedEvent, hid]⟩
  · refine .inr ⟨id, time, type, hid, htype, htime, ?_⟩
    cases type <;>
      simp [StripeInstallation.recordedEvent, hid, htype, htime, LifecycleEventType.webhook]

theorem rank_lt_iff {time : Timestamp} {type : LifecycleEventType} :
    (toLex (time, decide (type = .deauthorized)) : LifecycleRank) < e.rank ↔
      time < stripeSecond e.created ∨
        time = stripeSecond e.created ∧ type = .authorized ∧ e.type = .deauthorized := by
  unfold LifecycleEvent.rank
  rw [Prod.Lex.toLex_lt_toLex]
  cases type <;> cases e.type <;> simp

-- With the ids of distinct events distinct, the database compares the events by their ids.
theorem supersedes_iff (hcheck : installation.WatermarkCheck)
    (hid : ∀ recorded ∈ installation.recordedEvent, recorded.id = e.id → recorded = e.event) :
    (s.lifecycle installation).Supersedes e.event ↔
      ∀ time ∈ installation.lastLifecycleEventCreatedAt,
        time < stripeSecond e.created ∨ time = stripeSecond e.created ∧
          (installation.lastLifecycleEventId = some e.id ∨
            installation.lastLifecycleEventType = some .accountApplicationAuthorized ∧
              e.type = .deauthorized) := by
  rcases recorded_cases hcheck with
    ⟨htime, hnone⟩ | ⟨id, time, type, hsome, htype, htime, hrecorded⟩
  · simp [Store.lifecycle, Register.Supersedes, hnone, htime]
  have hsame : id = e.id → toLex (time, decide (type = .deauthorized)) = e.rank := fun heq =>
    congrArg (·.rank) (hid _ hrecorded heq)
  have hsecond : id = e.id → time = stripeSecond e.created := fun heq =>
    congrArg (fun rank => (ofLex rank).1) (hsame heq)
  have heq : (⟨id, toLex (time, decide (type = .deauthorized))⟩ : Event String LifecycleRank) =
      e.event ↔ time = stripeSecond e.created ∧ id = e.id := by
    constructor
    · intro h
      have heq : id = e.id := congrArg (·.id) h
      exact ⟨hsecond heq, heq⟩
    · rintro ⟨-, heq⟩
      simp [LifecycleEvent.event, heq, ← hsame heq]
  have htypeIff : type.webhook = .accountApplicationAuthorized ↔ type = .authorized := by
    cases type <;> simp [LifecycleEventType.webhook]
  simp only [Register.Supersedes, Store.lifecycle, hrecorded, htime, hsome, htype, Option.mem_def,
    Option.some.injEq, forall_eq', heq, htypeIff]
  simp only [LifecycleEvent.event, rank_lt_iff]
  tauto

theorem Store.Records.unchanged (h : s.Records installationId environment r)
    (htenant : s'.tenant = s.tenant) (hinstallations : s'.installations = s.installations) :
    s'.Records installationId environment r := by
  obtain ⟨installation, hfind, hcheck, henvironment, hrecords⟩ := h
  refine ⟨installation, hinstallations ▸ hfind, hcheck, henvironment, ?_⟩
  rw [← hrecords]
  simp only [Store.lifecycle, htenant]

-- The row of the installation and the tenant as an event sets them.
theorem Store.Records.applied (hsupersedes : r.Supersedes e.event)
    (hfind : s'.installations.find? installationId = some { installation with
      status                      := (lifecycleState e.rank).status
      deauthorizedAt              := (lifecycleState e.rank).deauthorizedAt
      lastLifecycleEventId        := some e.id
      lastLifecycleEventType      := some e.type.webhook
      lastLifecycleEventCreatedAt := some (stripeSecond e.created)
    })
    (hstatus : s'.tenant.status = (lifecycleState e.rank).tenantStatus)
    (hpending : s'.tenant.pendingDeleteAt = (lifecycleState e.rank).pendingDeleteAt)
    (henvironment : installation.environment = environment) :
    s'.Records installationId environment (r.deliver lifecycleState e.event) := by
  refine ⟨_, hfind, .inr ⟨e.id, _, e.type, rfl, rfl, rfl⟩, henvironment, ?_⟩
  rw [Register.deliver, if_pos hsupersedes]
  simp only [Store.lifecycle, hstatus, hpending]
  cases htype : e.type <;>
    simp [StripeInstallation.recordedEvent, LifecycleEvent.event, LifecycleEvent.rank, htype,
      LifecycleEventType.webhook]

theorem Store.Records.provisioned (h : s.Records installationId environment r)
    (hid : ∀ recorded ∈ r.recorded, recorded.id = e.id → recorded = e.event)
    (htype : e.type = .authorized)
    (hc : (provisionWebhookInstallation installationId e.id (stripeSecond e.created)).Commits
      s b s') :
    s'.Records installationId environment (r.deliver lifecycleState e.event) := by
  obtain ⟨installation, hfind, hcheck, henvironment, hrecords⟩ := h
  have hiff := supersedes_iff (s := s) hcheck (hrecords ▸ hid)
  rw [hrecords] at hiff
  simp only [provisionWebhookInstallation, commits_bind, commits_get] at hc
  obtain ⟨_, _, ⟨rfl, rfl⟩, hc⟩ := hc
  rw [hfind] at hc
  simp only [commits_ite, commits_bind, commits_set, commits_pure] at hc
  rcases hc with ⟨happly, _, _, rfl, _, rfl⟩ | ⟨happly, _, rfl⟩
  · have hsupersedes : r.Supersedes e.event := by
      rw [hiff]
      intro time htime
      rw [Option.mem_def.mp htime] at happly
      simp only [decide_eq_true_eq] at happly
      tauto
    refine .applied hsupersedes ?_ ?_ ?_ henvironment <;>
      simp [lifecycleState, LifecycleEvent.rank, htype, LifecycleEventType.webhook]
  · have hnot : ¬r.Supersedes e.event := by
      intro hsupersedes
      have htimes := hiff.mp hsupersedes
      cases htime : installation.lastLifecycleEventCreatedAt with
      | none      => simp [htime] at happly
      | some time =>
        simp only [htime, decide_eq_true_eq] at happly
        have := htimes time (by simp [htime])
        simp only [htype] at this
        grind
    rw [Register.deliver, if_neg hnot]
    exact ⟨installation, hfind, hcheck, henvironment, hrecords⟩

theorem Store.Records.deauthorized {input : WebhookDeauthorizationInput}
    (h : s.Records installationId environment r) (hlive : environment ≠ .live)
    (hid : ∀ recorded ∈ r.recorded, recorded.id = e.id → recorded = e.event)
    (htype : e.type = .deauthorized) (hinstallation : input.installationId = installationId)
    (hevent : input.stripeEventId = e.id)
    (hcreated : input.stripeEventCreatedAt = stripeSecond e.created)
    (hpurge : input.purgeAt =
      stripeSecond e.created + AccountWebhook.tenantPurgeDelayMilliseconds)
    (hc : (applyWebhookDeauthorization now input).Commits s b s') :
    s'.Records installationId environment (r.deliver lifecycleState e.event) := by
  obtain ⟨installation, hfind, hcheck, henvironment, hrecords⟩ := h
  have hiff := supersedes_iff (s := s) hcheck (hrecords ▸ hid)
  rw [hrecords] at hiff
  have happlies : r.Supersedes e.event ↔ shouldApplyDeauthorization installation input = true := by
    rw [hiff, shouldApplyDeauthorization, hevent, hcreated]
    cases htime : installation.lastLifecycleEventCreatedAt with
    | none      => simp
    | some time => simp [htype]
  simp only [applyWebhookDeauthorization, commits_bind, commits_get, commits_require] at hc
  obtain ⟨_, _, ⟨_, rfl⟩, _, _, ⟨rfl, rfl⟩, hc⟩ := hc
  rw [hinstallation, hfind] at hc
  simp only [commits_ite, commits_bind, commits_set, commits_modify, commits_pure] at hc
  rcases hc with ⟨henv, _⟩ |
    ⟨_, ⟨hnot, _, rfl⟩ | ⟨happly, _, _, rfl, _, s₂, hsettle, _, _, rfl, _, rfl⟩⟩
  · exact absurd (henvironment.symm.trans henv) hlive
  · rw [Register.deliver, if_neg (by simp [happlies, hnot])]
    exact ⟨installation, hfind, hcheck, henvironment, hrecords⟩
  · have hsupersedes : r.Supersedes e.event := happlies.mpr (by simpa using happly)
    simp only [settleRequestsForDeauthorization, commits_bind, commits_pure] at hsettle
    obtain ⟨_, _, hprotect, _, rfl⟩ := hsettle
    have hrest := rest_of_protectRequests hprotect
    refine .applied hsupersedes ?_ ?_ ?_ henvironment
    · simp only [congrArg Store.installations hrest, Table.find?_insert_self]
      simp [lifecycleState, LifecycleEvent.rank, htype, LifecycleEventType.webhook, hevent,
        hcreated]
    · simp [lifecycleState, LifecycleEvent.rank, htype]
    · simp [lifecycleState, LifecycleEvent.rank, htype, hpurge]

theorem unchanged_of_insertWebhookReceipt {receiptId : String} {data : WebhookReceipt}
    (hc : (insertWebhookReceipt receiptId data).Commits s b s') :
    s'.tenant = s.tenant ∧ s'.installations = s.installations := by
  simp only [insertWebhookReceipt, commits_bind, commits_get, commits_fromExcept, commits_ite,
    commits_require, commits_set, commits_pure] at hc
  obtain ⟨_, _, ⟨_, rfl⟩, _, _, ⟨rfl, rfl⟩, hc⟩ := hc
  rcases hc with ⟨_, _, rfl⟩ | ⟨_, _, _, ⟨_, rfl⟩, _, _, rfl, _, rfl⟩ <;> exact ⟨rfl, rfl⟩

theorem unchanged_of_markWebhookReceiptProcessed {receiptId : String} {processedAt : Timestamp}
    (hc : (markWebhookReceiptProcessed receiptId processedAt).Commits s b s') :
    s'.tenant = s.tenant ∧ s'.installations = s.installations := by
  simp only [markWebhookReceiptProcessed, commits_bind, commits_get] at hc
  obtain ⟨_, _, ⟨rfl, rfl⟩, hc⟩ := hc
  split at hc
  case h_1 =>
    obtain ⟨_, rfl⟩ := commits_pure.mp hc
    exact ⟨rfl, rfl⟩
  case h_2 receipt _ =>
    simp only [commits_ite, commits_bind, commits_set, commits_pure] at hc
    rcases hc with ⟨_, _, rfl⟩ | ⟨_, _, _, rfl, _, rfl⟩ <;> exact ⟨rfl, rfl⟩

end Effects

namespace LifecycleEvent

open AccountWebhook

variable {now : Timestamp} {s s' : Store} {installationId receiptId : String}
  {environment : StripeEnvironment} {e : LifecycleEvent} {inserted : Bool}
  {r : Register String LifecycleRank LifecycleState} {resolved : ResolvedWebhookInstallation}

-- The inputs that the webhook endpoint and the job of a receipt build from an event.
structure Resolving (e : LifecycleEvent) (input : ResolveInput) : Prop where
  eventType : input.eventType = e.type.webhook
  eventId   : input.stripeEventId = e.id
  createdAt : input.stripeEventCreatedAt = stripeSecond e.created

structure Inserting (installationId : String) (e : LifecycleEvent) (input : InsertInput) :
    Prop where
  installationId : input.installationId = installationId
  eventType      : input.payload.eventType = e.type.webhook
  eventId        : input.stripeEventId = e.id
  eventCreated   : input.payload.eventCreated = e.created

structure Processing (installationId : String) (e : LifecycleEvent)
    (input : WorkerStore.InstallationLifecycleInput) : Prop where
  installationId : input.installationId = installationId
  eventType      : input.eventType = e.type.webhook
  eventId        : input.stripeEventId = e.id
  eventCreated   : input.eventCreated = e.created
  purgeDelay     : input.purgeDelay = tenantPurgeDelayMilliseconds

theorem mem_of_installationOf {accountId id : String} {installation : StripeInstallation}
    (h : installationOf s accountId environment = some (id, installation)) :
    s.installations.find? id = some installation ∧ installation.environment = environment := by
  have hmem := List.mem_of_find?_eq_some h
  have hp := List.find?_some h
  simp only [decide_eq_true_eq] at hp
  exact ⟨Table.mem_entries_iff.mp hmem, hp.2⟩

-- An event that is resolved belongs to an installation that is not live.
theorem resolve_cases {input : ResolveInput} (hr : Resolving e input)
    (hc : (resolve input).Commits s (some resolved) s') :
    (∃ installation, s.installations.find? resolved.installationId = some installation ∧
      installation.environment ≠ .live) ∧
    (e.type = .authorized ∧ (∃ b, (provisionWebhookInstallation resolved.installationId e.id
      (stripeSecond e.created)).Commits s b s') ∨ e.type = .deauthorized ∧ s' = s) := by
  simp only [resolve, commits_bind, commits_get] at hc
  obtain ⟨_, _, ⟨rfl, rfl⟩, hc⟩ := hc
  rw [hr.eventType] at hc
  cases htype : e.type with
  | authorized =>
    simp only [htype, LifecycleEventType.webhook, commits_bind, commits_require] at hc
    obtain ⟨_, _, ⟨hlive, rfl⟩, _, _, ⟨_, rfl⟩, hc⟩ := hc
    split at hc
    case h_1 => exact (not_commits_throw hc).elim
    case h_2 id installation hfound =>
      simp only [commits_bind, commits_pure, Option.some.injEq] at hc
      obtain ⟨b, _, hprovision, rfl, rfl⟩ := hc
      rw [hr.eventId, hr.createdAt] at hprovision
      obtain ⟨hfind, henv⟩ := mem_of_installationOf hfound
      exact ⟨⟨installation, hfind, henv ▸ hlive⟩, .inl ⟨rfl, b, hprovision⟩⟩
  | deauthorized =>
    simp only [htype, LifecycleEventType.webhook, commits_pure] at hc
    obtain ⟨hfound, rfl⟩ := hc
    obtain ⟨⟨id, installation⟩, hfilter, rfl⟩ := Option.map_eq_some_iff.mp hfound.symm
    obtain ⟨hfound, hlive⟩ := Option.filter_eq_some_iff.mp hfilter
    obtain ⟨hfind, henv⟩ := mem_of_installationOf hfound
    exact ⟨⟨installation, hfind, by simpa [henv] using hlive⟩, .inr ⟨rfl, rfl⟩⟩

theorem records_of_insert {input : InsertInput} (hi : Inserting installationId e input)
    (h : s.Records installationId environment r) (hlive : environment ≠ .live)
    (hid : ∀ recorded ∈ r.recorded, recorded.id = e.id → recorded = e.event)
    (hc : (AccountWebhook.insert now receiptId input).Commits s inserted s') :
    e.type = .authorized ∧ s'.Records installationId environment r ∨
      s'.Records installationId environment (r.deliver lifecycleState e.event) := by
  simp only [AccountWebhook.insert, commits_bind, commits_get, commits_require] at hc
  obtain ⟨_, _, ⟨rfl, rfl⟩, _, _, ⟨_, rfl⟩, hc⟩ := hc
  rw [hi.eventType, hi.eventCreated] at hc
  cases htype : e.type with
  | authorized =>
    simp only [htype, LifecycleEventType.webhook, reduceCtorEq, if_false] at hc
    obtain ⟨htenant, hinstallations⟩ := unchanged_of_insertWebhookReceipt hc
    exact .inl ⟨rfl, h.unchanged htenant hinstallations⟩
  | deauthorized =>
    simp only [htype, LifecycleEventType.webhook, if_true, commits_bind] at hc
    obtain ⟨_, s₁, hdeauthorize, hc⟩ := hc
    obtain ⟨htenant, hinstallations⟩ := unchanged_of_insertWebhookReceipt hc
    have h₁ : s₁.Records installationId environment (r.deliver lifecycleState e.event) :=
      h.deauthorized hlive hid htype hi.installationId hi.eventId rfl rfl hdeauthorize
    exact .inr (h₁.unchanged htenant hinstallations)

theorem records_of_processInstallationLifecycle {input : WorkerStore.InstallationLifecycleInput}
    (hp : Processing installationId e input) (h : s.Records installationId environment r)
    (hlive : environment ≠ .live)
    (hid : ∀ recorded ∈ r.recorded, recorded.id = e.id → recorded = e.event)
    (hc : (WorkerStore.processInstallationLifecycle now input).Commits s () s') :
    s'.Records installationId environment r ∨
      s'.Records installationId environment (r.deliver lifecycleState e.event) := by
  have marked {s₁ : Store} {b : Bool}
      (hc : (markWebhookReceiptProcessed input.receiptId input.processedAt).Commits s₁ b s')
      {r : Register String LifecycleRank LifecycleState}
      (h : s₁.Records installationId environment r) : s'.Records installationId environment r :=
    have ⟨htenant, hinstallations⟩ := unchanged_of_markWebhookReceiptProcessed hc
    h.unchanged htenant hinstallations
  simp only [WorkerStore.processInstallationLifecycle, commits_bind, commits_get,
    commits_fromExcept] at hc
  obtain ⟨_, _, ⟨rfl, rfl⟩, pending, _, ⟨_, rfl⟩, hc⟩ := hc
  cases pending with
  | false =>
    simp only [Bool.false_eq_true, if_false, commits_pure] at hc
    exact .inl (hc.2 ▸ h)
  | true =>
    simp only [if_true, commits_bind, commits_require, commits_ite] at hc
    obtain ⟨_, _, ⟨_, rfl⟩, ⟨htype, _, s₁, hdeauthorize, hc⟩ | ⟨_, hc⟩⟩ := hc
    · obtain ⟨_, _, hmark, _, rfl⟩ := hc
      have htype : e.type = .deauthorized := by
        cases ht : e.type with
        | deauthorized => rfl
        | authorized   => simp [hp.eventType, ht, LifecycleEventType.webhook] at htype
      have hcreated := congrArg stripeSecond hp.eventCreated
      exact .inr (marked hmark (h.deauthorized hlive hid htype hp.installationId hp.eventId hcreated
        (by rw [hcreated, hp.purgeDelay]) hdeauthorize))
    · obtain ⟨_, _, hmark, _, rfl⟩ := hc
      exact .inl (marked hmark h)

end LifecycleEvent

-- The events that were resolved, and those of them whose receipt was stored after that.
structure LifecycleProgress where
  resolved : List LifecycleEvent
  received : List LifecycleEvent

-- Deliveries of the events to an installation and jobs of their receipts, in any order and any
-- number of times, between steps that change neither the installations nor the tenant.
inductive LifecycleRun (installationId : String) (events : List LifecycleEvent) (s₀ : Store) :
    LifecycleProgress → Store → Prop
  | start : LifecycleRun installationId events s₀ ⟨[], []⟩ s₀
  | resolved {progress s s' e input resolved} :
    LifecycleRun installationId events s₀ progress s → e ∈ events → e.Resolving input →
    (AccountWebhook.resolve input).Commits s (some resolved) s' →
    resolved.installationId = installationId →
    LifecycleRun installationId events s₀ { progress with resolved := e :: progress.resolved } s'
  | inserted {progress s s' e input now receiptId inserted} :
    LifecycleRun installationId events s₀ progress s → e ∈ progress.resolved →
    e.Inserting installationId input →
    (AccountWebhook.insert now receiptId input).Commits s inserted s' →
    LifecycleRun installationId events s₀ { progress with received := e :: progress.received } s'
  | processed {progress s s' e input now} :
    LifecycleRun installationId events s₀ progress s → e ∈ progress.received →
    e.Processing installationId input →
    (WorkerStore.processInstallationLifecycle now input).Commits s () s' →
    LifecycleRun installationId events s₀ progress s'
  | other {progress s s'} :
    LifecycleRun installationId events s₀ progress s → s'.tenant = s.tenant →
    s'.installations = s.installations → LifecycleRun installationId events s₀ progress s'

namespace LifecycleRun

variable {installationId : String} {events : List LifecycleEvent} {s₀ s : Store}
  {progress : LifecycleProgress} {environment : StripeEnvironment} {e : LifecycleEvent}
  {r₀ : Register String LifecycleRank LifecycleState}

-- The register is that of some deliveries of the events, among them every event that was received.
structure Recorded (events : List LifecycleEvent) (installationId : String)
    (environment : StripeEnvironment) (r₀ : Register String LifecycleRank LifecycleState)
    (progress : LifecycleProgress) (s : Store) (delivered : List LifecycleEvent) : Prop where
  subset   : ∀ e ∈ delivered, e ∈ events
  resolved : ∀ e ∈ progress.resolved, e ∈ events ∧ environment ≠ .live ∧
    (e.type = .authorized → e ∈ delivered)
  received : ∀ e ∈ progress.received, e ∈ progress.resolved ∧ e ∈ delivered
  records  : s.Records installationId environment
    ((delivered.map (·.event)).foldl (Register.deliver lifecycleState) r₀)

namespace Recorded

variable {delivered : List LifecycleEvent} {s' : Store}

-- The id of a recorded event belongs to no other event.
def Identified (events : List LifecycleEvent)
    (r : Register String LifecycleRank LifecycleState) : Prop :=
  ∀ recorded ∈ r.recorded, ∀ e ∈ events, recorded.id = e.id → recorded = e.event

theorem identified (hids : ∀ e ∈ events, ∀ e' ∈ events, e.id = e'.id → e = e')
    (hr₀ : Identified events r₀) (hdelivered : ∀ e ∈ delivered, e ∈ events) :
    Identified events ((delivered.map (·.event)).foldl (Register.deliver lifecycleState) r₀) := by
  intro recorded hrecorded e he hid
  rcases Register.recorded_foldl hrecorded with h | h
  · exact hr₀ recorded h e he hid
  · obtain ⟨e', he', rfl⟩ := List.mem_map.mp h
    rw [hids e' (hdelivered e' he') e he hid]

theorem deliver (h : Recorded events installationId environment r₀ progress s delivered)
    (he : e ∈ events) (hrecords : s'.Records installationId environment
      (((delivered.map (·.event)).foldl (Register.deliver lifecycleState) r₀).deliver
        lifecycleState e.event)) :
    Recorded events installationId environment r₀ progress s' (delivered ++ [e]) where
  subset e' he' := by
    rcases List.mem_append.mp he' with he' | he'
    · exact h.subset e' he'
    · exact List.mem_singleton.mp he' ▸ he
  resolved e' he' :=
    have ⟨hevent, hlive, hdelivered⟩ := h.resolved e' he'
    ⟨hevent, hlive, fun htype => List.mem_append_left _ (hdelivered htype)⟩
  received e' he' :=
    have ⟨hresolved, hdelivered⟩ := h.received e' he'
    ⟨hresolved, List.mem_append_left _ hdelivered⟩
  records := by
    rw [List.map_append, List.foldl_append]
    exact hrecords

theorem keep (h : Recorded events installationId environment r₀ progress s delivered)
    (hrecords : s'.Records installationId environment
      ((delivered.map (·.event)).foldl (Register.deliver lifecycleState) r₀)) :
    Recorded events installationId environment r₀ progress s' delivered :=
  { h with records := hrecords }

theorem resolve (h : Recorded events installationId environment r₀ progress s delivered)
    (he : e ∈ events) (hlive : environment ≠ .live) (htype : e.type = .authorized → e ∈ delivered) :
    Recorded events installationId environment r₀
      { progress with resolved := e :: progress.resolved } s delivered :=
  { h with
    resolved := fun e' he' => by
      rcases List.mem_cons.mp he' with rfl | he'
      · exact ⟨he, hlive, htype⟩
      · exact h.resolved e' he'
    received := fun e' he' =>
      have ⟨hresolved, hdelivered⟩ := h.received e' he'
      ⟨List.mem_cons_of_mem _ hresolved, hdelivered⟩
  }

theorem receive (h : Recorded events installationId environment r₀ progress s delivered)
    (he : e ∈ progress.resolved) (hdelivered : e ∈ delivered) :
    Recorded events installationId environment r₀
      { progress with received := e :: progress.received } s delivered :=
  { h with
    received := fun e' he' => by
      rcases List.mem_cons.mp he' with rfl | he'
      · exact ⟨he, hdelivered⟩
      · exact h.received e' he'
  }

end Recorded

-- What one step records, for every kind of step.
theorem recorded (hids : ∀ e ∈ events, ∀ e' ∈ events, e.id = e'.id → e = e')
    (hr₀ : Recorded.Identified events r₀) (h₀ : s₀.Records installationId environment r₀)
    (h : LifecycleRun installationId events s₀ progress s) :
    ∃ delivered, Recorded events installationId environment r₀ progress s delivered := by
  induction h with
  | start => exact ⟨[], nofun, nofun, nofun, h₀⟩
  | resolved hrun he hr hc hinstallation ih =>
    obtain ⟨delivered, ih⟩ := ih
    subst hinstallation
    obtain ⟨⟨installation, hfind, hlive⟩, hcases⟩ := LifecycleEvent.resolve_cases hr hc
    obtain ⟨_, hfind', -, henvironment, -⟩ := ih.records
    obtain rfl := Option.some.inj (hfind.symm.trans hfind')
    rw [henvironment] at hlive
    rcases hcases with ⟨htype, _, hprovision⟩ | ⟨htype, rfl⟩
    · have hid := Recorded.identified hids hr₀ ih.subset
      have hrecords := ih.records.provisioned (fun g hg => hid g hg _ he) htype hprovision
      exact ⟨_, (ih.deliver he hrecords).resolve he hlive fun _ => by simp⟩
    · exact ⟨delivered, ih.resolve he hlive fun h => by simp [htype] at h⟩
  | inserted hrun he hi hc ih =>
    obtain ⟨delivered, ih⟩ := ih
    obtain ⟨hevent, hlive, hauthorized⟩ := ih.resolved _ he
    have hid := Recorded.identified hids hr₀ ih.subset
    rcases LifecycleEvent.records_of_insert hi ih.records hlive (fun g hg => hid g hg _ hevent) hc
      with ⟨htype, hrecords⟩ | hrecords
    · exact ⟨delivered, (ih.keep hrecords).receive he (hauthorized htype)⟩
    · exact ⟨_, (ih.deliver hevent hrecords).receive he (by simp)⟩
  | processed hrun he hp hc ih =>
    obtain ⟨delivered, ih⟩ := ih
    obtain ⟨hevent, hlive, -⟩ := ih.resolved _ (ih.received _ he).1
    have hid := Recorded.identified hids hr₀ ih.subset
    rcases LifecycleEvent.records_of_processInstallationLifecycle hp ih.records hlive
      (fun g hg => hid g hg _ hevent) hc with hrecords | hrecords
    · exact ⟨delivered, ih.keep hrecords⟩
    · exact ⟨_, ih.deliver hevent hrecords⟩
  | other hrun htenant hinstallations ih =>
    obtain ⟨delivered, ih⟩ := ih
    exact ⟨delivered, ih.keep (ih.records.unchanged htenant hinstallations)⟩

end LifecycleRun

-- What the rows of an installation and its tenant say about the lifecycle.
structure ObservedLifecycle where
  status                      : InstallationStatus
  deauthorizedAt              : Option Timestamp
  lastLifecycleEventType      : Option AccountWebhookEventType
  lastLifecycleEventCreatedAt : Option Timestamp
  tenantStatus                : TenantStatus
  pendingDeleteAt             : Option Timestamp
  deriving DecidableEq, Repr

def Store.observedLifecycle (s : Store) (installation : StripeInstallation) :
    ObservedLifecycle where
  status                      := installation.status
  deauthorizedAt              := installation.deauthorizedAt
  lastLifecycleEventType      := installation.lastLifecycleEventType
  lastLifecycleEventCreatedAt := installation.lastLifecycleEventCreatedAt
  tenantStatus                := s.tenant.status
  pendingDeleteAt             := s.tenant.pendingDeleteAt

def LifecycleEvent.observedLifecycle (e : LifecycleEvent) : ObservedLifecycle :=
  let createdAt := stripeSecond e.created
  match e.type with
  | .authorized => {
    status                      := .active
    deauthorizedAt              := none
    lastLifecycleEventType      := some .accountApplicationAuthorized
    lastLifecycleEventCreatedAt := some createdAt
    tenantStatus                := .active
    pendingDeleteAt             := none
  }
  | .deauthorized => {
    status                      := .deauthorized
    deauthorizedAt              := some createdAt
    lastLifecycleEventType      := some .accountApplicationDeauthorized
    lastLifecycleEventCreatedAt := some createdAt
    tenantStatus                := .pendingDeletion
    pendingDeleteAt             :=
      some (createdAt + AccountWebhook.tenantPurgeDelayMilliseconds)
  }

section Observed

variable {s s' : Store} {installation installation' : StripeInstallation} {e : LifecycleEvent}

def LifecycleRank.eventType (rank : LifecycleRank) : AccountWebhookEventType :=
  if (ofLex rank).2 then .accountApplicationDeauthorized else .accountApplicationAuthorized

theorem last_of_recorded (h : installation.WatermarkCheck) :
    installation.lastLifecycleEventType =
        installation.recordedEvent.map (fun recorded => LifecycleRank.eventType recorded.rank) ∧
      installation.lastLifecycleEventCreatedAt =
        installation.recordedEvent.map fun recorded => (ofLex recorded.rank).1 := by
  rcases h with ⟨hid, htype, htime⟩ | ⟨id, time, type, hid, htype, htime⟩
  · simp [StripeInstallation.recordedEvent, hid, htype, htime]
  · cases type <;>
      simp [StripeInstallation.recordedEvent, hid, htype, htime, LifecycleEventType.webhook,
        LifecycleRank.eventType]

-- The register says everything that is observed.
theorem observedLifecycle_congr (hcheck : installation.WatermarkCheck)
    (hcheck' : installation'.WatermarkCheck)
    (h : s'.lifecycle installation' = s.lifecycle installation) :
    s'.observedLifecycle installation' = s.observedLifecycle installation := by
  have hrecorded : installation'.recordedEvent = installation.recordedEvent :=
    congrArg (·.recorded) h
  have hvalue : (s'.lifecycle installation').value = (s.lifecycle installation).value :=
    congrArg (·.value) h
  obtain ⟨htype, htime⟩ := last_of_recorded hcheck
  obtain ⟨htype', htime'⟩ := last_of_recorded hcheck'
  simp only [Store.lifecycle, LifecycleState.mk.injEq] at hvalue
  obtain ⟨hstatus, hdeauthorized, htenant, hpending⟩ := hvalue
  simp only [Store.observedLifecycle, hstatus, hdeauthorized, htenant, hpending, htype', htime',
    hrecorded, htype, htime]

theorem observedLifecycle_of_rank (hcheck : installation.WatermarkCheck)
    {recorded : Event String LifecycleRank} (hrank : recorded.rank = e.rank)
    (h : s.lifecycle installation = ⟨some recorded, lifecycleState recorded.rank⟩) :
    s.observedLifecycle installation = e.observedLifecycle := by
  have hrecorded : installation.recordedEvent = some recorded := congrArg (·.recorded) h
  have hvalue : (s.lifecycle installation).value = lifecycleState recorded.rank :=
    congrArg (·.value) h
  obtain ⟨htype, htime⟩ := last_of_recorded hcheck
  simp only [hrecorded, Option.map_some, hrank] at htype htime
  simp only [Store.lifecycle, hrank] at hvalue
  cases ht : e.type <;>
    simp_all [Store.observedLifecycle, LifecycleEvent.observedLifecycle, lifecycleState,
      LifecycleEvent.rank, LifecycleRank.eventType]

end Observed

namespace Pilot

def authorization : LifecycleEvent where
  id      := "evt_1"
  type    := .authorized
  created := 50

def deauthorization : LifecycleEvent where
  id      := "evt_2"
  type    := .deauthorized
  created := 50

def resolving (e : LifecycleEvent) : AccountWebhook.ResolveInput where
  stripeAccountId      := "acct_1"
  environment          := .test
  eventType            := e.type.webhook
  stripeEventId        := e.id
  stripeEventCreatedAt := stripeSecond e.created

def inserting (e : LifecycleEvent) : AccountWebhook.InsertInput where
  installationId  := "i"
  endpoint        := .accountTest
  stripeEventId   := e.id
  stripeAccountId := "acct_1"
  payload         := {
    environment         := .test
    eventType           := e.type.webhook
    eventCreated        := e.created
    eventIdempotencyKey := none
    subject             := .application "ca_1"
  }
  objectId        := "ca_1"

def processing (e : LifecycleEvent) : WorkerStore.InstallationLifecycleInput where
  installationId      := "i"
  environment         := .test
  receiptId           := e.id
  stripeEventId       := e.id
  stripeAccountId     := "acct_1"
  eventType           := e.type.webhook
  eventCreated        := e.created
  eventIdempotencyKey := none
  applicationId       := "ca_1"
  processedAt         := 90000
  purgeDelay          := AccountWebhook.tenantPurgeDelayMilliseconds

-- The steps of a delivery on a store.
def resolvedStore (e : LifecycleEvent) (s : Store) : Store :=
  (AccountWebhook.resolve (resolving e)).after s

def insertedStore (e : LifecycleEvent) (s : Store) : Store :=
  (AccountWebhook.insert 80000 e.id (inserting e)).after s

def processedStore (e : LifecycleEvent) (s : Store) : Store :=
  (WorkerStore.processInstallationLifecycle 90000 (processing e)).after s

theorem resolving_resolving (e : LifecycleEvent) : e.Resolving (resolving e) :=
  ⟨rfl, rfl, rfl⟩

theorem inserting_inserting (e : LifecycleEvent) : e.Inserting "i" (inserting e) :=
  ⟨rfl, rfl, rfl, rfl⟩

theorem processing_processing (e : LifecycleEvent) : e.Processing "i" (processing e) :=
  ⟨rfl, rfl, rfl, rfl, rfl⟩

-- The store after both events are delivered, the deauthorization first.
def deliveredStore : Store :=
  processedStore deauthorization <| insertedStore authorization <| resolvedStore authorization <|
    insertedStore deauthorization <| resolvedStore deauthorization Store.pilot

theorem delivered_run : LifecycleRun "i" [authorization, deauthorization] Store.pilot
    ⟨[authorization, deauthorization], [authorization, deauthorization]⟩ deliveredStore := by
  have resolved₁ : (AccountWebhook.resolve (resolving deauthorization)).Commits Store.pilot
      (some ⟨"i", false⟩) (resolvedStore deauthorization Store.pilot) :=
    commits_after (by decide +kernel)
  have inserted₁ : (AccountWebhook.insert 80000 "evt_2" (inserting deauthorization)).Commits
      (resolvedStore deauthorization Store.pilot) true
      (insertedStore deauthorization <| resolvedStore deauthorization Store.pilot) :=
    commits_after (by decide +kernel)
  have resolved₂ : (AccountWebhook.resolve (resolving authorization)).Commits
      (insertedStore deauthorization <| resolvedStore deauthorization Store.pilot)
      (some ⟨"i", false⟩)
      (resolvedStore authorization <| insertedStore deauthorization <|
        resolvedStore deauthorization Store.pilot) :=
    commits_after (by decide +kernel)
  have inserted₂ : (AccountWebhook.insert 80000 "evt_1" (inserting authorization)).Commits
      (resolvedStore authorization <| insertedStore deauthorization <|
        resolvedStore deauthorization Store.pilot) true
      (insertedStore authorization <| resolvedStore authorization <|
        insertedStore deauthorization <| resolvedStore deauthorization Store.pilot) :=
    commits_after (by decide +kernel)
  have processed : (WorkerStore.processInstallationLifecycle 90000
      (processing deauthorization)).Commits
      (insertedStore authorization <| resolvedStore authorization <|
        insertedStore deauthorization <| resolvedStore deauthorization Store.pilot) ()
      deliveredStore :=
    commits_after (by decide +kernel)
  have run₁ : LifecycleRun "i" [authorization, deauthorization] Store.pilot
      ⟨[deauthorization], [deauthorization]⟩ _ :=
    (LifecycleRun.start.resolved (by decide) (resolving_resolving _) resolved₁ rfl).inserted
      (by simp) (inserting_inserting _) inserted₁
  have run₂ := (run₁.resolved (by decide) (resolving_resolving _) resolved₂ rfl).inserted (by simp)
    (inserting_inserting _) inserted₂
  exact run₂.processed (by simp) (processing_processing _) processed

-- An account that deauthorized the application after the authorization.
def deauthorizedStore : Store :=
  { Store.pilot with
    installations := Table.empty.insert "i" {
      stripeAccountId             := "acct_1"
      environment                 := .test
      status                      := .deauthorized
      installedAt                 := 0
      deauthorizedAt              := some (stripeSecond 60)
      lastLifecycleEventId        := some "evt_0"
      lastLifecycleEventType      := some .accountApplicationDeauthorized
      lastLifecycleEventCreatedAt := some (stripeSecond 60)
    }
    tenant        := {
      status          := .pendingDeletion
      liveEnabled     := false
      pendingDeleteAt := some (stripeSecond 60 + AccountWebhook.tenantPurgeDelayMilliseconds)
    }
  }

-- The authorization is delivered late.
def reauthorizedStore : Store :=
  insertedStore authorization <| resolvedStore authorization deauthorizedStore

theorem reauthorized_run : LifecycleRun "i" [authorization] deauthorizedStore
    ⟨[authorization], [authorization]⟩ reauthorizedStore := by
  have resolved : (AccountWebhook.resolve (resolving authorization)).Commits deauthorizedStore
      (some ⟨"i", false⟩) (resolvedStore authorization deauthorizedStore) :=
    commits_after (by decide +kernel)
  have inserted : (AccountWebhook.insert 80000 "evt_1" (inserting authorization)).Commits
      (resolvedStore authorization deauthorizedStore) true reauthorizedStore :=
    commits_after (by decide +kernel)
  exact (LifecycleRun.start.resolved (by simp) (resolving_resolving _) resolved rfl).inserted
    (by simp) (inserting_inserting _) inserted

end Pilot

-- Deliveries of the same events end in the same lifecycle: that of the greatest event when an event
-- is newer than the one that was recorded before, and the lifecycle from before otherwise.
theorem lifecycle_converges {installationId : String} {events : List LifecycleEvent} {s₀ s : Store}
    {progress : LifecycleProgress} {installation : StripeInstallation}
    (hfind : s₀.installations.find? installationId = some installation)
    (hcheck : installation.WatermarkCheck)
    (hids : ∀ e ∈ events, ∀ e' ∈ events, e.id = e'.id → e = e')
    (hrecorded : ∀ recorded ∈ installation.recordedEvent, ∀ e ∈ events, recorded.id = e.id →
      recorded = e.event)
    (hrun : LifecycleRun installationId events s₀ progress s)
    (hreceived : ∀ e ∈ events, e ∈ progress.received) :
    ∃ installation', s.installations.find? installationId = some installation' ∧
      if ∃ e ∈ events, ∀ recorded ∈ installation.recordedEvent,
          recorded.rank < e.rank ∨ recorded = e.event then
        ∃ e ∈ events, (∀ e' ∈ events, e'.rank ≤ e.rank) ∧
          s.observedLifecycle installation' = e.observedLifecycle
      else
        s.observedLifecycle installation' = s₀.observedLifecycle installation := by
  have h₀ : s₀.Records installationId installation.environment (s₀.lifecycle installation) :=
    ⟨installation, hfind, hcheck, rfl, rfl⟩
  have hidentified : LifecycleRun.Recorded.Identified events (s₀.lifecycle installation) :=
    hrecorded
  obtain ⟨delivered, hdelivered⟩ := LifecycleRun.recorded hids hidentified h₀ hrun
  obtain ⟨installation', hfind', hcheck', -, hrecords⟩ := hdelivered.records
  have hmem (e : LifecycleEvent) : e ∈ delivered ↔ e ∈ events :=
    ⟨hdelivered.subset e, fun he => (hdelivered.received e (hreceived e he)).2⟩
  refine ⟨installation', hfind', ?_⟩
  split
  case isTrue h =>
    obtain ⟨e, he, hsupersedes⟩ := h
    have hgreatest : Register.SetByGreatest lifecycleState (delivered.map (·.event))
        ((delivered.map (·.event)).foldl (Register.deliver lifecycleState)
          (s₀.lifecycle installation)) :=
      Register.setByGreatest_of_supersedes lifecycleState
        ⟨e.event, List.mem_map_of_mem ((hmem e).mpr he), hsupersedes⟩
    obtain ⟨g, hg, hlast, hvalue, hmax⟩ := hgreatest
    obtain ⟨greatest, hgreatest, rfl⟩ := List.mem_map.mp hg
    refine ⟨greatest, (hmem _).mp hgreatest, fun e' he' => ?_, ?_⟩
    · exact hmax e'.event (List.mem_map_of_mem ((hmem e').mpr he'))
    · rw [← hrecords] at hlast hvalue
      have hlifecycle : s.lifecycle installation' =
          ⟨some greatest.event, lifecycleState greatest.event.rank⟩ := by
        rw [← hlast, ← hvalue]
      exact observedLifecycle_of_rank hcheck' rfl hlifecycle
  case isFalse h =>
    rw [Register.foldl_of_not_supersedes] at hrecords
    · exact observedLifecycle_congr hcheck hcheck' hrecords
    · intro g hg hsupersedes
      obtain ⟨e, he, rfl⟩ := List.mem_map.mp hg
      exact h ⟨e, (hmem e).mp he, hsupersedes⟩

theorem lifecycle_converges_delivered :
    ∃ installation', Pilot.deliveredStore.installations.find? "i" = some installation' ∧
      Pilot.deliveredStore.observedLifecycle installation' =
        Pilot.deauthorization.observedLifecycle := by
  obtain ⟨installation', hfind, h⟩ := lifecycle_converges
    (Table.find?_insert_self .. : Store.pilot.installations.find? "i" = some _)
    (.inl ⟨rfl, rfl, rfl⟩) (by decide) (by simp [StripeInstallation.recordedEvent])
    Pilot.delivered_run (by simp)
  rw [if_pos ⟨Pilot.deauthorization, by simp, by simp [StripeInstallation.recordedEvent]⟩] at h
  obtain ⟨e, he, hmax, hobserved⟩ := h
  refine ⟨installation', hfind, ?_⟩
  rcases List.mem_pair.mp he with rfl | rfl
  · exact absurd (hmax Pilot.deauthorization (by simp)) (by decide)
  · exact hobserved

-- A late authorization does not end the deauthorization that the account delivered before.
theorem lifecycle_converges_counterexample :
    ¬∀ (installationId : String) (events : List LifecycleEvent) (s₀ s : Store)
      (progress : LifecycleProgress) (installation : StripeInstallation),
      s₀.installations.find? installationId = some installation → installation.WatermarkCheck →
      (∀ e ∈ events, ∀ e' ∈ events, e.id = e'.id → e = e') →
      (∀ recorded ∈ installation.recordedEvent, ∀ e ∈ events, recorded.id = e.id →
        recorded = e.event) →
      LifecycleRun installationId events s₀ progress s →
      (∀ e ∈ events, e ∈ progress.received) →
      ∀ e ∈ events, (∀ e' ∈ events, e'.rank ≤ e.rank) →
        ∃ installation', s.installations.find? installationId = some installation' ∧
          s.observedLifecycle installation' = e.observedLifecycle := by
  intro h
  obtain ⟨installation', hfind, hobserved⟩ := h "i" [Pilot.authorization] Pilot.deauthorizedStore
    Pilot.reauthorizedStore _ _ (Table.find?_insert_self ..)
    (.inr ⟨"evt_0", stripeSecond 60, .deauthorized, rfl, rfl, rfl⟩) (by simp) (by decide +kernel)
    Pilot.reauthorized_run (by simp) Pilot.authorization (by simp) (by simp)
  have hstatus : (Pilot.reauthorizedStore.installations.find? "i").map (·.status) =
      some .deauthorized := by decide +kernel
  rw [hfind] at hstatus
  have := congrArg (·.status) hobserved
  simp_all [Store.observedLifecycle, LifecycleEvent.observedLifecycle, Pilot.authorization]

end RefundDesk
