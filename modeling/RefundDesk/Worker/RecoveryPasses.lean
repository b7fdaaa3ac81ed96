import RefundDesk.Worker.RecoverySpecs

namespace RefundDesk

open Transaction Transactions TenantRepository WorkerStore

structure RecoveryItem where
  tenantId  : String
  requestId : String
  outcome   : RecoveryOutcome
  deriving DecidableEq, Repr

def RecoveryItem.job (item : RecoveryItem) : ExecuteRefundJob where
  tenantId  := item.tenantId
  requestId := item.requestId

def recoveryItem (tenantId : String) (e : String × RefundRequestDetail) : RecoveryItem where
  tenantId  := tenantId
  requestId := e.1
  outcome   := recoveryOutcome e

def TenantStores.recoveryItems (tenants : TenantStores) (tenantId : String) : List RecoveryItem :=
  (((tenants.stores.find? tenantId).map recoveryQueue).getD []).map (recoveryItem tenantId)

-- The listing of the executions. The handler takes the jobs that it processes off the list, and the
-- listing itself the requests that it sends to reconciliation.
def executionListing (processes : ExecuteRefundJob → Bool) : BoundedListing RecoveryItem where
  cap         := 100
  leaves item := item.outcome = .diverted ∨ item.outcome = .enqueued ∧ processes item.job
  counts item := item.outcome = .enqueued

section Listing

variable {now : Timestamp} {tenants tenants' : TenantStores} {tenantId : String} {s : Store}
  {ids : List String} {found : List ApprovedRefundExecution} {limit : Nat}

-- What a listing takes off the list before anything of it is handled
def unhandledListing : BoundedListing RecoveryItem :=
  executionListing fun _ => false

theorem recoveryItems_eq (hs : tenants.stores.find? tenantId = some s) :
    tenants.recoveryItems tenantId = (recoveryQueue s).map (recoveryItem tenantId) := by
  rw [TenantStores.recoveryItems, hs, Option.map_some, Option.getD_some]

theorem recoveryItems_nodup : ((tenants.recoveryItems tenantId).map (·.job)).Nodup := by
  cases hs : tenants.stores.find? tenantId with
  | none   => simp [TenantStores.recoveryItems, hs]
  | some s =>
    have hnodup := recoveryQueue_nodup s
    rw [recoveryItems_eq hs, List.map_map]
    refine List.Nodup.of_map ExecuteRefundJob.requestId ?_
    rwa [List.map_map]

theorem tenantId_of_mem {item : RecoveryItem} (h : item ∈ tenants.recoveryItems tenantId) :
    item.tenantId = tenantId := by
  obtain ⟨e, -, rfl⟩ := List.mem_map.mp h
  rfl

theorem recoveryItems_of_divertedIn (hs : tenants.stores.find? tenantId = some s)
    (h : DivertedIn tenants tenantId s (divertedIds ((recoveryQueue s).take (min limit 100)))
      tenants') : tenants'.recoveryItems tenantId =
        unhandledListing.remaining limit (tenants.recoveryItems tenantId) := by
  obtain ⟨s', rfl, hdiverted⟩ := h
  rw [recoveryItems_eq (find?_of_diverted hs hdiverted), hdiverted.recoveryQueue_eq,
    BoundedListing.remaining_eq_filter recoveryItems_nodup, recoveryItems_eq hs, List.filter_map]
  congr 1
  refine List.filter_congr fun e _ => ?_
  have hiff : e.1 ∈ divertedIds ((recoveryQueue s).take (min limit 100)) ↔
      (recoveryItem tenantId e).job ∈ ((unhandledListing.listed limit
        ((recoveryQueue s).map (recoveryItem tenantId))).filter unhandledListing.leaves).map (·.job) := by
    rw [BoundedListing.listed, ← List.map_take, mem_divertedIds]
    constructor
    · rintro ⟨e', hmem, houtcome, hid⟩
      refine List.mem_map.mpr ⟨recoveryItem tenantId e', List.mem_filter.mpr ⟨?_, ?_⟩, ?_⟩
      · exact List.mem_map_of_mem hmem
      · simp [unhandledListing, executionListing, recoveryItem, houtcome]
      · rw [RecoveryItem.job, RecoveryItem.job, recoveryItem, recoveryItem, hid]
    · intro hmem
      obtain ⟨item, hitem, hjob⟩ := List.mem_map.mp hmem
      obtain ⟨hlisted, hleaves⟩ := List.mem_filter.mp hitem
      obtain ⟨e', hmem', rfl⟩ := List.mem_map.mp hlisted
      refine ⟨e', hmem', ?_, congrArg ExecuteRefundJob.requestId hjob⟩
      simpa [unhandledListing, executionListing, recoveryItem] using hleaves
  simp [hiff]

theorem mem_activeTenantIds : tenantId ∈ tenants.activeTenantIds ↔
    ∃ s, tenants.stores.find? tenantId = some s ∧ s.tenant.status = .active := by
  simp [TenantStores.activeTenantIds, ← Table.mem_entries_iff]

theorem activeTenantIds_sorted : tenants.activeTenantIds.Pairwise (· < ·) :=
  List.pairwise_map.mpr (tenants.stores.sorted.filter _)

theorem activeTenantIds_congr
    (h : ∀ id, id ∈ tenants'.activeTenantIds ↔ id ∈ tenants.activeTenantIds) :
    tenants'.activeTenantIds = tenants.activeTenantIds := by
  refine List.Perm.eq_of_pairwise ?_ activeTenantIds_sorted activeTenantIds_sorted ?_
  · exact fun a b _ _ hab hba => absurd hab (lt_asymm hba)
  · exact (List.perm_ext_iff_of_nodup (activeTenantIds_sorted.imp ne_of_lt)
      (activeTenantIds_sorted.imp ne_of_lt)).mpr h

-- What a listing of some tenants returns and what it leaves
structure ListedTenants (tenants : TenantStores) (limit : Nat) (ids : List String)
    (found : List ApprovedRefundExecution) (tenants' : TenantStores) : Prop where
  jobs     : found.map executeRefundJob =
    ((unhandledListing.windows limit (ids.map tenants.recoveryItems)).flatten.filter
      unhandledListing.counts).map (·.job)
  accepted : ∀ candidate ∈ found, isRejectedCandidate candidate = false
  items    : ids.map tenants'.recoveryItems =
    unhandledListing.pass limit (ids.map tenants.recoveryItems)
  others   : ∀ id ∉ ids, tenants'.stores.find? id = tenants.stores.find? id
  active   : tenants'.activeTenantIds = tenants.activeTenantIds

theorem recoveryItems_congr (h : tenants'.stores.find? tenantId = tenants.stores.find? tenantId) :
    tenants'.recoveryItems tenantId = tenants.recoveryItems tenantId := by
  rw [TenantStores.recoveryItems, h, TenantStores.recoveryItems]

-- A turn with a tenant changes nothing of the other tenants, and the tenant stays as active as it
-- was.
theorem active_of_divertedIn {requestIds : List String}
    (hs : tenants.stores.find? tenantId = some s)
    (h : DivertedIn tenants tenantId s requestIds tenants') :
    tenants'.activeTenantIds = tenants.activeTenantIds := by
  obtain ⟨s', rfl, hdiverted⟩ := h
  refine activeTenantIds_congr fun id => ?_
  rw [mem_activeTenantIds, mem_activeTenantIds, TenantStores.find?_put]
  by_cases hid : id = tenantId
  · simp [hid, hs, hdiverted.tenant]
  · simp [hid]

theorem jobs_of_candidatesOf (hs : tenants.stores.find? tenantId = some s)
    (h : CandidatesOf tenantId ((recoveryQueue s).take (min limit 100)) found) :
    found.map executeRefundJob =
      ((unhandledListing.listed limit (tenants.recoveryItems tenantId)).filter
        unhandledListing.counts).map (·.job) := by
  rw [h.jobs, recoveryItems_eq hs, BoundedListing.listed, ← List.map_take, List.filter_map,
    List.map_map]
  rfl

theorem listTurn_eq_ok {r : Option (List ExecutionWorkItem)} {tenants₁ : TenantStores}
    (hprepare : TenantStores.withTenantTransaction tenantId
      (prepareExecutionRecoveryWork now (min limit 100)) tenants = (.ok r, tenants₁))
    (hwork : listWork now tenantId (r.getD []) tenants₁ = (.ok found, tenants')) :
    ListedTenants tenants limit [tenantId] found tenants' := by
  cases hs : tenants.stores.find? tenantId with
  | none   =>
    have hitems : tenants.recoveryItems tenantId = [] := by
      rw [TenantStores.recoveryItems, hs]
      rfl
    rcases TenantStores.withTenantTransaction_eq_ok.mp hprepare with
      ⟨-, rfl, rfl⟩ | ⟨_, _, _, hsome, -⟩
    · obtain ⟨rfl, rfl⟩ := done_eq_ok.mp hwork
      refine ⟨?_, List.forall_mem_nil _, ?_, fun _ _ => rfl, rfl⟩
      · rw [List.map_singleton, hitems]
        simp [BoundedListing.windows, BoundedListing.listed]
      · rw [List.map_singleton, hitems]
        simp [BoundedListing.pass, BoundedListing.remaining, BoundedListing.listed]
    · rw [hs] at hsome
      cases hsome
  | some s =>
    obtain ⟨hdiverted, hcandidates⟩ := listTenant_eq_ok hs hprepare hwork
    have hjobs := jobs_of_candidatesOf hs hcandidates
    have hitems := recoveryItems_of_divertedIn hs hdiverted
    refine ⟨?_, hcandidates.accepted, ?_, ?_, active_of_divertedIn hs hdiverted⟩
    · rw [List.map_singleton, BoundedListing.windows, BoundedListing.windows,
        List.flatten_singleton, hjobs]
    · rw [List.map_singleton, List.map_singleton, BoundedListing.pass, BoundedListing.pass, hitems]
    · intro id hid
      obtain ⟨s', rfl, -⟩ := hdiverted
      rw [TenantStores.find?_put, if_neg (by simpa using hid)]

theorem ListedTenants.cons {first rest : List ApprovedRefundExecution} {tenants₁ : TenantStores}
    (hnot : tenantId ∉ ids) (hfirst : ListedTenants tenants limit [tenantId] first tenants₁)
    (hrest : ListedTenants tenants₁ (limit - first.length) ids rest tenants') :
    ListedTenants tenants limit (tenantId :: ids) (first ++ rest) tenants' := by
  have hjobs := hfirst.jobs
  have hitems := hfirst.items
  rw [List.map_singleton, BoundedListing.windows, BoundedListing.windows,
    List.flatten_singleton] at hjobs
  rw [List.map_singleton, List.map_singleton, BoundedListing.pass, BoundedListing.pass,
    List.singleton_inj] at hitems
  have hlength : limit - first.length =
      unhandledListing.left limit (tenants.recoveryItems tenantId) := by
    rw [BoundedListing.left, ← List.length_map executeRefundJob, hjobs, List.length_map]
  have hothers : ids.map tenants₁.recoveryItems = ids.map tenants.recoveryItems := by
    refine List.map_congr_left fun id hid => recoveryItems_congr (hfirst.others id ?_)
    rw [List.mem_singleton]
    exact fun heq => hnot (heq ▸ hid)
  have hjobsRest := hrest.jobs
  have hitemsRest := hrest.items
  rw [hlength, hothers] at hjobsRest hitemsRest
  refine ⟨?_, ?_, ?_, ?_, hrest.active.trans hfirst.active⟩
  · rw [List.map_append, hjobs, hjobsRest, List.map_cons, BoundedListing.windows,
      List.flatten_cons, List.filter_append, List.map_append]
  · intro candidate hmem
    exact (List.mem_append.mp hmem).elim (hfirst.accepted candidate) (hrest.accepted candidate)
  · have hsame : tenants'.recoveryItems tenantId = tenants₁.recoveryItems tenantId :=
      recoveryItems_congr (hrest.others tenantId hnot)
    rw [List.map_cons, hsame, hitems, hitemsRest, List.map_cons, BoundedListing.pass]
  · intro id hid
    rw [List.mem_cons, not_or] at hid
    rw [hrest.others id hid.2, hfirst.others id (by simpa using hid.1)]

theorem listTenants_eq_ok (hnodup : ids.Nodup)
    (h : listTenants now limit ids tenants = (.ok found, tenants')) :
    ListedTenants tenants limit ids found tenants' := by
  induction ids generalizing tenants limit found with
  | nil =>
    obtain ⟨rfl, rfl⟩ := done_eq_ok.mp h
    exact ⟨rfl, List.forall_mem_nil _, rfl, fun _ _ => rfl, rfl⟩
  | cons tenantId ids ih =>
    rw [listTenants] at h
    split_ifs at h with hzero
    · obtain ⟨rfl, rfl⟩ := done_eq_ok.mp h
      refine ⟨?_, List.forall_mem_nil _, ?_, fun _ _ => rfl, rfl⟩
      · rw [hzero, BoundedListing.flatten_windows_zero]
        rfl
      · rw [hzero, BoundedListing.pass_zero]
    · obtain ⟨work, tenants₁, hprepare, h⟩ := andThen_eq_ok.mp h
      obtain ⟨first, tenants₂, hwork, h⟩ := andThen_eq_ok.mp h
      obtain ⟨rest, tenants₃, hrest, hdone⟩ := andThen_eq_ok.mp h
      obtain ⟨rfl, rfl⟩ := done_eq_ok.mp hdone
      rw [List.nodup_cons] at hnodup
      exact .cons hnodup.1 (listTurn_eq_ok hprepare hwork) (ih hnodup.2 hrest)

end Listing

section Executions

variable {now : Timestamp} {tenants tenants₁ tenants' : TenantStores} {tenantId : String}
  {ids : List String} {limit : Nat} {jobs : List ExecuteRefundJob}
  {processes : ExecuteRefundJob → Bool}

-- The requests that the recovery looks at, tenant by tenant
def TenantStores.recoveryGroups (tenants : TenantStores) : List (List RecoveryItem) :=
  tenants.activeTenantIds.map tenants.recoveryItems

-- A pass: the listing puts jobs into the queue, and of the requests that are left those leave that
-- the handler processes. Nothing else changes that the recovery looks at.
structure ExecutionPass (processes : ExecuteRefundJob → Bool) (now : Timestamp)
    (tenants : TenantStores) (jobs : List ExecuteRefundJob) (tenants' : TenantStores) : Prop where
  handled : ∃ tenants₁, handleApprovedExecutionRecoveryJob now tenants = (.ok jobs, tenants₁) ∧
    tenants'.activeTenantIds = tenants₁.activeTenantIds ∧
    ∀ tenantId ∈ tenants₁.activeTenantIds, tenants'.recoveryItems tenantId =
      (tenants₁.recoveryItems tenantId).filter fun item => ¬(item.job ∈ jobs ∧ processes item.job)

theorem remaining_of_handled {group : List RecoveryItem} (hnodup : (group.map (·.job)).Nodup)
    (hjobs : ∀ item ∈ group, item.job ∈ jobs ↔
      ∃ other ∈ unhandledListing.listed limit group, other.outcome = .enqueued ∧
        other.job = item.job) :
    (unhandledListing.remaining limit group).filter
        (fun item => ¬(item.job ∈ jobs ∧ processes item.job)) =
      (executionListing processes).remaining limit group := by
  rw [BoundedListing.remaining_eq_filter hnodup, BoundedListing.remaining_eq_filter hnodup,
    List.filter_filter]
  refine List.filter_congr fun item hitem => ?_
  have hiff : (¬(item.job ∈ jobs ∧ processes item.job)) ∧
      item.job ∉ ((unhandledListing.listed limit group).filter unhandledListing.leaves).map (·.job) ↔
      item.job ∉ ((unhandledListing.listed limit group).filter
        (executionListing processes).leaves).map (·.job) := by
    simp only [hjobs item hitem, List.mem_map, List.mem_filter, unhandledListing, executionListing,
      decide_eq_true_eq, Bool.false_eq_true, and_false, or_false, not_and, not_exists]
    constructor
    · rintro ⟨henqueued, hdiverted⟩ other ⟨hmem, houtcome⟩ heq
      rcases houtcome with houtcome | ⟨houtcome, hprocesses⟩
      · exact hdiverted other ⟨hmem, houtcome⟩ heq
      · exact henqueued ⟨other, hmem, houtcome, heq⟩ (heq ▸ hprocesses)
    · intro hnone
      constructor
      · rintro ⟨other, hmem, houtcome, heq⟩ hprocesses
        exact hnone other ⟨hmem, .inr ⟨houtcome, heq ▸ hprocesses⟩⟩ heq
      · exact fun other hother heq => hnone other ⟨hother.1, .inl hother.2⟩ heq
  have hlisted : (executionListing processes).listed limit group =
    unhandledListing.listed limit group := rfl
  rw [hlisted]
  simp only [← Bool.decide_and]
  exact decide_eq_decide.mpr (by simpa using hiff)

-- Of the jobs of a pass those of a tenant are the ones that are listed at its turn.
theorem pass_of_handled {items₁ items' : String → List RecoveryItem} (hnodup : ids.Nodup)
    (hlisted : ids.map items₁ = unhandledListing.pass limit (ids.map tenants.recoveryItems))
    (hitems : ∀ tenantId ∈ ids, items' tenantId =
      (items₁ tenantId).filter fun item => ¬(item.job ∈ jobs ∧ processes item.job))
    (hjobs : ∀ job : ExecuteRefundJob, job.tenantId ∈ ids → (job ∈ jobs ↔
      ∃ item ∈ (unhandledListing.windows limit (ids.map tenants.recoveryItems)).flatten,
        item.outcome = .enqueued ∧ item.job = job)) :
    ids.map items' = (executionListing processes).pass limit (ids.map tenants.recoveryItems) := by
  induction ids generalizing limit with
  | nil               => rfl
  | cons tenantId ids ih =>
    rw [List.map_cons, List.map_cons, BoundedListing.pass, List.cons.injEq] at hlisted
    rw [List.nodup_cons] at hnodup
    have hwindows : (unhandledListing.windows limit ((tenantId :: ids).map tenants.recoveryItems)) =
        unhandledListing.listed limit (tenants.recoveryItems tenantId) :: unhandledListing.windows
          (unhandledListing.left limit (tenants.recoveryItems tenantId))
          (ids.map tenants.recoveryItems) := by
      rw [List.map_cons, BoundedListing.windows]
    have hother {item : RecoveryItem} (hmem : item ∈ (unhandledListing.windows
        (unhandledListing.left limit (tenants.recoveryItems tenantId))
          (ids.map tenants.recoveryItems)).flatten) : item.tenantId ∈ ids := by
      obtain ⟨group, hgroup, hitem⟩ := List.mem_flatten.mp (BoundedListing.mem_of_mem_windows hmem)
      obtain ⟨id, hid, rfl⟩ := List.mem_map.mp hgroup
      rwa [tenantId_of_mem hitem]
    have hhead : items' tenantId =
        (executionListing processes).remaining limit (tenants.recoveryItems tenantId) := by
      rw [hitems tenantId (List.mem_cons_self ..), hlisted.1]
      refine remaining_of_handled recoveryItems_nodup fun item hitem => ?_
      have htenant := tenantId_of_mem hitem
      rw [hjobs item.job (htenant ▸ List.mem_cons_self ..), hwindows]
      constructor
      · rintro ⟨other, hmem, houtcome, heq⟩
        rcases List.mem_append.mp hmem with hmem | hmem
        · exact ⟨other, hmem, houtcome, heq⟩
        · have hid := hother hmem
          rw [show other.tenantId = item.tenantId from congrArg (·.tenantId) heq, htenant] at hid
          exact absurd hid hnodup.1
      · rintro ⟨other, hmem, hother⟩
        exact ⟨other, List.mem_append_left _ hmem, hother⟩
    have htail := ih hnodup.2 hlisted.2
      (fun id hid => hitems id (List.mem_cons_of_mem _ hid)) (fun job hid => by
        rw [hjobs job (List.mem_cons_of_mem _ hid), hwindows]
        constructor
        · rintro ⟨other, hmem, houtcome, heq⟩
          rcases List.mem_append.mp hmem with hmem | hmem
          · have htenant := tenantId_of_mem (List.mem_of_mem_take hmem)
            rw [← heq, show other.job.tenantId = tenantId from htenant] at hid
            exact absurd hid hnodup.1
          · exact ⟨other, hmem, houtcome, heq⟩
        · rintro ⟨other, hmem, hother⟩
          exact ⟨other, List.mem_append_right _ hmem, hother⟩)
    rw [List.map_cons, List.map_cons, BoundedListing.pass, hhead, htail]
    rfl

-- What a pass puts into the queue and what it leaves
theorem groups_of_executionPass (h : ExecutionPass processes now tenants jobs tenants') :
    (∀ job, job ∈ jobs ↔ ∃ item ∈ ((executionListing processes).windows recoveryBatchSize
      tenants.recoveryGroups).flatten, item.outcome = .enqueued ∧ item.job = job) ∧
    tenants'.recoveryGroups =
      (executionListing processes).pass recoveryBatchSize tenants.recoveryGroups := by
  obtain ⟨tenants₁, hhandle, hactive, hitems⟩ := h.handled
  obtain ⟨found, tenants₂, hlist, hdone⟩ := andThen_eq_ok.mp hhandle
  obtain ⟨rfl, rfl⟩ := done_eq_ok.mp hdone
  rw [listApprovedRefundExecutions, if_pos (by decide)] at hlist
  have hnodup : tenants.activeTenantIds.Nodup := activeTenantIds_sorted.imp ne_of_lt
  have hlisted := listTenants_eq_ok hnodup hlist
  have haccepted : found.filter (fun candidate => ¬isRejectedCandidate candidate) = found :=
    List.filter_eq_self.mpr fun candidate hmem => by simp [hlisted.accepted candidate hmem]
  rw [haccepted, hlisted.jobs] at hitems ⊢
  have hwindows : (executionListing processes).windows recoveryBatchSize tenants.recoveryGroups =
      unhandledListing.windows recoveryBatchSize tenants.recoveryGroups := by
    refine BoundedListing.windows_congr ?_ ?_ _ _
    · rfl
    · rfl
  have hjobs (job : ExecuteRefundJob) : job ∈
      ((unhandledListing.windows recoveryBatchSize tenants.recoveryGroups).flatten.filter
        unhandledListing.counts).map (·.job) ↔
      ∃ item ∈ (unhandledListing.windows recoveryBatchSize tenants.recoveryGroups).flatten,
        item.outcome = .enqueued ∧ item.job = job := by
    simp only [List.mem_map, List.mem_filter, unhandledListing, executionListing,
      decide_eq_true_eq, and_assoc]
  refine ⟨fun job => ?_, ?_⟩
  · rw [hwindows]
    exact hjobs job
  · rw [TenantStores.recoveryGroups, hactive, hlisted.active]
    refine pass_of_handled hnodup hlisted.items (fun id hid => hitems id ?_) fun job _ => hjobs job
    rwa [hlisted.active]

-- From the state every request that the handler can process is put into the queue after at most as
-- many passes as there are requests that passes take off the list.
def ExecutionsNotStarved (processes : ExecuteRefundJob → Bool) (tenants : TenantStores) : Prop :=
  ∀ (now : Nat → Timestamp) (run : Nat → TenantStores) (jobs : Nat → List ExecuteRefundJob)
    (passes : Nat), run 0 = tenants →
    passes = ((executionListing processes).leaving tenants.recoveryGroups).length →
    (∀ k < passes, ExecutionPass processes (now k) (run k) (jobs k) (run (k + 1))) →
    ∀ item ∈ tenants.recoveryGroups.flatten, item.outcome = .enqueued → processes item.job →
      ∃ k < passes, item.job ∈ jobs k

theorem executionsNotStarved_of_reaches
    (h : (executionListing processes).Reaches recoveryBatchSize tenants.recoveryGroups) :
    ExecutionsNotStarved processes tenants := by
  rintro now run jobs passes rfl hpasses hrun item hitem houtcome hprocesses
  have hgroups : ∀ k ≤ passes, (run k).recoveryGroups =
      ((executionListing processes).pass recoveryBatchSize)^[k] (run 0).recoveryGroups := by
    intro k hk
    induction k with
    | zero      => rfl
    | succ k ih =>
      rw [(groups_of_executionPass (hrun k hk)).2, ih (Nat.le_of_succ_le hk),
        Function.iterate_succ_apply']
  have hleaves : (executionListing processes).leaves item := by
    simp [executionListing, houtcome, hprocesses]
  obtain ⟨k, hk, hlisted⟩ := BoundedListing.listed_of_reaches h
    (List.mem_filter.mpr ⟨hitem, hleaves⟩)
  rw [← hpasses] at hk
  refine ⟨k, hk, (groups_of_executionPass (hrun k hk)).1 _ |>.mpr ⟨item, ?_, houtcome, rfl⟩⟩
  rwa [hgroups k (Nat.le_of_lt hk)]

end Executions

section Receipts

variable {tenants tenants' : TenantStores} {jobs : List ProcessWebhookJob}
  {processes : String × String → Bool}

def WorkerStore.ProcessWebhookJob.receipt (job : ProcessWebhookJob) : String × String :=
  (job.tenantId, job.receiptId)

-- The receipts that can be recovered, under their tenants, in the order in which they came in
def TenantStores.recoveryReceipts (tenants : TenantStores) : List (String × String) :=
  (recoverableReceipts tenants).map fun e => (e.1, e.2.1)

def receiptListing (processes : String × String → Bool) : BoundedListing (String × String) where
  cap    := recoveryBatchSize
  leaves := processes
  counts := fun _ => true

-- A pass: the listing puts jobs into the queue, and the receipts leave that the handler processes.
structure WebhookPass (processes : String × String → Bool) (tenants : TenantStores)
    (jobs : List ProcessWebhookJob) (tenants' : TenantStores) : Prop where
  listed : handleWebhookRecoveryJob tenants = .ok jobs
  left   : tenants'.recoveryReceipts = tenants.recoveryReceipts.filter fun receipt =>
    ¬(receipt ∈ jobs.map (·.receipt) ∧ processes receipt)

theorem receipt_of_processWebhookJob {e : String × String × WebhookReceipt}
    {job : ProcessWebhookJob} (h : processWebhookJob e = .ok job) : job.receipt = (e.1, e.2.1) := by
  unfold processWebhookJob at h
  dsimp only at h
  split_ifs at h
  obtain ⟨payload, -, hjob⟩ := Except.bind_eq_ok.mp h
  rw [← Except.ok.inj hjob]
  rfl

theorem receipts_of_mapM {listed : List (String × String × WebhookReceipt)}
    (h : listed.mapM processWebhookJob = .ok jobs) :
    jobs.map (·.receipt) = listed.map fun e => (e.1, e.2.1) := by
  induction listed generalizing jobs with
  | nil =>
    rw [List.mapM_nil] at h
    rw [← Except.ok.inj h]
    rfl
  | cons e listed ih =>
    rw [List.mapM_cons] at h
    obtain ⟨job, hjob, h⟩ := Except.bind_eq_ok.mp h
    obtain ⟨rest, hrest, h⟩ := Except.bind_eq_ok.mp h
    rw [← Except.ok.inj h, List.map_cons, List.map_cons, ih hrest,
      receipt_of_processWebhookJob hjob]

theorem recoveryReceipts_nodup : tenants.recoveryReceipts.Nodup := by
  refine ((List.perm_insertionSort _ _).map _).nodup_iff.mpr ?_
  rw [List.map_flatMap, List.nodup_flatMap]
  constructor
  · intro e _
    have hkeys : ((e.2.receipts.entries.filter fun receipt =>
        isRecoverableReceipt e.2 receipt.2).map (·.1)).Nodup :=
      e.2.receipts.keys_nodup.sublist (List.filter_sublist.map _)
    refine List.Nodup.of_map (fun receipt : String × String => receipt.2) ?_
    rwa [List.map_map, List.map_map]
  · refine tenants.stores.sorted.imp fun hlt => ?_
    refine List.disjoint_left.mpr fun receipt hleft hright => ?_
    simp only [List.map_map, List.mem_map] at hleft hright
    obtain ⟨_, -, rfl⟩ := hleft
    obtain ⟨_, -, heq⟩ := hright
    exact absurd (congrArg (·.1) heq) (ne_of_gt hlt)

theorem receipts_of_handleWebhookRecoveryJob (h : handleWebhookRecoveryJob tenants = .ok jobs) :
    jobs.map (·.receipt) = tenants.recoveryReceipts.take recoveryBatchSize := by
  have hlist : listRecoverableWebhookJobs recoveryBatchSize tenants = .ok jobs := by
    unfold handleWebhookRecoveryJob at h
    cases hlist : listRecoverableWebhookJobs recoveryBatchSize tenants with
    | error e => rw [hlist] at h; cases h
    | ok jobs => rw [hlist] at h; exact h
  rw [listRecoverableWebhookJobs, if_pos (by decide)] at hlist
  rw [receipts_of_mapM hlist, TenantStores.recoveryReceipts, List.map_take]

theorem receipts_of_webhookPass (h : WebhookPass processes tenants jobs tenants') :
    jobs.map (·.receipt) = tenants.recoveryReceipts.take recoveryBatchSize ∧
    [tenants'.recoveryReceipts] =
      (receiptListing processes).pass recoveryBatchSize [tenants.recoveryReceipts] := by
  have hjobs := receipts_of_handleWebhookRecoveryJob h.listed
  have hnodup : (tenants.recoveryReceipts.map id).Nodup := by
    rw [List.map_id]
    exact recoveryReceipts_nodup
  refine ⟨hjobs, ?_⟩
  rw [BoundedListing.pass, BoundedListing.pass, BoundedListing.remaining_eq_filter hnodup, h.left,
    hjobs]
  congr 1
  refine List.filter_congr fun receipt _ => ?_
  simp [BoundedListing.listed, receiptListing]

-- From the state every receipt that the handler can process is put into the queue after at most as
-- many passes as there are such receipts.
def WebhooksNotStarved (processes : String × String → Bool) (tenants : TenantStores) : Prop :=
  ∀ (run : Nat → TenantStores) (jobs : Nat → List ProcessWebhookJob) (passes : Nat),
    run 0 = tenants → passes = (tenants.recoveryReceipts.filter processes).length →
    (∀ k < passes, WebhookPass processes (run k) (jobs k) (run (k + 1))) →
    ∀ receipt ∈ tenants.recoveryReceipts, processes receipt →
      ∃ k < passes, receipt ∈ (jobs k).map (·.receipt)

-- Before each receipt that the handler can process there are fewer that it refuses than a listing
-- holds.
def WebhooksReached (processes : String × String → Bool) (tenants : TenantStores) : Prop :=
  ∀ before receipt after, tenants.recoveryReceipts = before ++ receipt :: after →
    processes receipt → (before.filter fun other => !processes other).length < recoveryBatchSize

theorem receipts_of_run {run : Nat → TenantStores} {jobs : Nat → List ProcessWebhookJob}
    {passes : Nat} (hrun : ∀ k < passes, WebhookPass processes (run k) (jobs k) (run (k + 1))) :
    ∀ k ≤ passes, [(run k).recoveryReceipts] =
      ((receiptListing processes).pass recoveryBatchSize)^[k] [(run 0).recoveryReceipts] := by
  intro k hk
  induction k with
  | zero      => rfl
  | succ k ih =>
    rw [(receipts_of_webhookPass (hrun k hk)).2, ih (Nat.le_of_succ_le hk),
      Function.iterate_succ_apply']

theorem webhooksNotStarved_of_reached (h : WebhooksReached processes tenants) :
    WebhooksNotStarved processes tenants := by
  rintro run jobs passes rfl hpasses hrun receipt hreceipt hprocesses
  have hreaches : (receiptListing processes).Reaches recoveryBatchSize
      [(run 0).recoveryReceipts] := by
    refine ⟨fun before receipt after heq hleaves => ?_, trivial⟩
    change (before.filter fun other => !processes other).length <
      min recoveryBatchSize recoveryBatchSize
    rw [Nat.min_self]
    exact h before receipt after heq hleaves
  have hitem : receipt ∈ (receiptListing processes).leaving [(run 0).recoveryReceipts] := by
    rw [BoundedListing.leaving, List.flatten_singleton]
    exact List.mem_filter.mpr ⟨hreceipt, hprocesses⟩
  obtain ⟨k, hk, hlisted⟩ := BoundedListing.listed_of_reaches hreaches hitem
  rw [BoundedListing.leaving, List.flatten_singleton] at hk
  have hk' : k < passes := hpasses ▸ hk
  refine ⟨k, hk', ?_⟩
  rw [(receipts_of_webhookPass (hrun k hk')).1]
  rw [← receipts_of_run hrun k (Nat.le_of_lt hk'), BoundedListing.windows, BoundedListing.windows,
    List.flatten_singleton] at hlisted
  simpa [BoundedListing.listed, receiptListing] using hlisted

end Receipts

end RefundDesk
