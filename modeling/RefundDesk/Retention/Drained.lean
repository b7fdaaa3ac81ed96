import Mathlib
import RefundDesk.Retention.Queue

namespace RefundDesk.Retention

section Progress

variable {server : RetentionServer} {config : RetentionConfig} {db : TenantDatabase}
  {session session' : RetentionSession} {start : Timestamp} {ids more : List String}
  {items : List DuePurge} {k m skipped : Nat}

-- The identifiers of the first tenants of the queue
def firstQueued (start : Timestamp) (db : TenantDatabase) (k : Nat) : List String :=
  ((purgeQueue start db).take k).map (·.id)

-- The first tenants of the queue have been purged, and others only when the queue is done.
structure Progress (db : TenantDatabase) (start : Timestamp) (k : Nat) (more : List String)
    (session : RetentionSession) : Prop where
  tracks : Tracks db (firstQueued start db k ++ more) session.database
  queued : more = [] ∨ (purgeQueue start db).length ≤ k

theorem notMem_firstQueued {i : Nat} {tenant : TenantRow} (hdb : db.Consistent)
    (htenant : (purgeQueue start db)[i]? = some tenant) (hi : k ≤ i) :
    tenant.id ∉ firstQueued start db k := by
  have hnodup : ((purgeQueue start db).map (·.id)).Nodup := purgeQueue_nodup hdb
  rw [← List.take_append_drop k (purgeQueue start db), List.map_append, List.nodup_append] at hnodup
  intro hmem
  refine hnodup.2.2 tenant.id hmem tenant.id (List.mem_map_of_mem ?_) rfl
  rw [List.mem_iff_getElem?]
  exact ⟨i - k, by rwa [List.getElem?_drop, Nat.add_sub_cancel' hi]⟩

theorem filter_queued (hdb : db.Consistent)
    (hqueued : more = [] ∨ (purgeQueue start db).length ≤ k) :
    (purgeQueue start db).filter (·.id ∉ firstQueued start db k ++ more) =
      (purgeQueue start db).drop k := by
  have hfirst : ((purgeQueue start db).take k).filter
      (·.id ∉ firstQueued start db k ++ more) = [] := by
    refine List.filter_eq_nil_iff.mpr fun tenant hmem => ?_
    have hid : tenant.id ∈ firstQueued start db k := List.mem_map_of_mem hmem
    simp [hid]
  have hrest : ((purgeQueue start db).drop k).filter (·.id ∉ firstQueued start db k ++ more) =
      (purgeQueue start db).drop k := by
    refine List.filter_eq_self.mpr fun tenant hmem => ?_
    rcases hqueued with rfl | hlength
    · obtain ⟨i, hi⟩ := List.mem_iff_getElem?.mp hmem
      rw [List.getElem?_drop] at hi
      have hid := notMem_firstQueued hdb hi (Nat.le_add_right k i)
      simpa using hid
    · rw [List.drop_eq_nil_of_le hlength] at hmem
      cases hmem
  have hsplit := congrArg (List.filter (·.id ∉ firstQueued start db k ++ more))
    (List.take_append_drop k (purgeQueue start db))
  rw [List.filter_append, hfirst, hrest, List.nil_append] at hsplit
  exact hsplit.symm

-- Each batch lists what is left of the queue, and others only behind it.
theorem listed_eq (hdb : db.Consistent) (hclock : ∀ n, start ≤ server.clock n)
    (h : Progress db start k more session) {limit : Nat} :
    ∃ rest, listed server limit session = ((purgeQueue start db).drop k).take limit ++ rest ∧
      (limit ≤ ((purgeQueue start db).drop k).length → rest = []) := by
  obtain ⟨rest, hsplit⟩ := dueTenants_split hdb h.tracks (hclock session.statements)
  rw [filter_queued hdb h.queued] at hsplit
  refine ⟨rest.take (limit - ((purgeQueue start db).drop k).length), ?_, ?_⟩
  · rw [listed, hsplit, List.take_append]
  · intro hle
    rw [Nat.sub_eq_zero_of_le hle, List.take_zero]

theorem tracks_batch (hdb : db.Consistent) (htracks : Tracks db ids session.database)
    (h : (retentionWorker server config).batch items session = (.ok skipped, session')) :
    ∃ more, Tracks db (ids ++ more) session'.database := by
  have hend : ∃ more, Tracks db (ids ++ more)
      ((retentionWorker server config).batch items session).2.database := by
    refine BatchDrain.batch_invariant
      (fun s : RetentionSession => ∃ more, Tracks db (ids ++ more) s.database) ?_
      ⟨[], by rwa [List.append_nil]⟩
    rintro item - s ⟨more, hs⟩
    cases hhandle : (retentionWorker server config).handle item s with
    | mk r s' =>
      cases handleCandidate_cases hhandle with
      | purged _ _ _ hpurge =>
        rcases tracks_of_commits hdb hs hpurge with hsame | hpurged
        · exact ⟨more, hsame⟩
        · exact ⟨more ++ [item.tenantId], by rwa [← List.append_assoc]⟩
      | skipped _ _ hdatabase => exact ⟨more, hdatabase ▸ hs⟩
      | failed hdatabase      => exact ⟨more, hdatabase ▸ hs⟩
  rwa [h] at hend

-- What a batch does to the queue, and to others only when it reaches the end of the queue
theorem batch_progress (hdb : db.Consistent) (hclock : ∀ n, start ≤ server.clock n)
    (h : Progress db start k more session)
    (hbatch : (retentionWorker server config).Batch config.batchSize session items skipped session') :
    ∃ first done more', first ≤ skipped ∧
      Tracks db (firstQueued start db k ++ more ++ done ++ more') session'.database ∧
      QueueBatch db (firstQueued start db k)
        (((purgeQueue start db).drop k).take config.batchSize) first done ∧
      (config.batchSize ≤ ((purgeQueue start db).drop k).length →
        items.length = config.batchSize ∧ first = skipped ∧ more' = []) := by
  obtain ⟨session₁, hlist, hitems⟩ := hbatch.handled
  obtain ⟨hlisted, hdatabase, -, -⟩ := listCandidates_cases config.bounds hlist
  obtain rfl := Except.ok.inj hlisted
  obtain ⟨rest, hsplit, hrest⟩ : ∃ rest, listed server config.batchSize session = _ ++ rest ∧ _ :=
    listed_eq hdb hclock h
  have htracks : Tracks db (firstQueued start db k ++ more) session₁.database :=
    hdatabase ▸ h.tracks
  rw [hsplit, List.map_append] at hitems ⊢
  obtain ⟨first, session₂, last, hfirst, hlast, rfl⟩ := BatchDrain.batch_append_eq_ok.mp hitems
  have hmem {tenant : TenantRow}
      (htenant : tenant ∈ ((purgeQueue start db).drop k).take config.batchSize) :
      tenant ∈ purgeQueue start db ∧ tenant.id ∉ firstQueued start db k ++ more := by
    have hdrop := List.mem_of_mem_take htenant
    rw [← filter_queued hdb h.queued, List.mem_filter] at hdrop
    exact ⟨hdrop.1, of_decide_eq_true hdrop.2⟩
  have hnodup : ((((purgeQueue start db).drop k).take config.batchSize).map (·.id)).Nodup :=
    (purgeQueue_nodup hdb).sublist
      (((List.take_sublist _ _).trans (List.drop_sublist _ _)).map _)
  have hcandidate : ∀ tenant ∈ ((purgeQueue start db).drop k).take config.batchSize,
      (candidateOf server session tenant).tenantId = tenant.id ∧
        (candidateOf server session tenant).blockerReason = none := by
    intro tenant htenant
    obtain ⟨hqueued, hid⟩ := hmem htenant
    refine ⟨rfl, ?_⟩
    have hblocker : blockerReason session.database tenant = blockerReason db tenant :=
      blockerReason_congr (h.tracks.rowsOf hid) rfl
    exact hblocker.trans (mem_purgeQueue.mp hqueued).2.2
  obtain ⟨done, hdone, hqueue⟩ :=
    batch_queue hdb hclock (fun _ => hmem) hnodup hcandidate htracks hfirst
  obtain ⟨more', hmore', hnone⟩ : ∃ more',
      Tracks db (firstQueued start db k ++ more ++ done ++ more') session'.database ∧
        (rest = [] → last = 0 ∧ more' = []) := by
    by_cases hempty : rest = []
    · rw [hempty] at hlast
      obtain ⟨hskipped, rfl⟩ := Prod.mk.inj hlast
      exact ⟨[], by rwa [List.append_nil], fun _ => ⟨(Except.ok.inj hskipped).symm, rfl⟩⟩
    · obtain ⟨more', hmore'⟩ := tracks_batch hdb hdone hlast
      exact ⟨more', hmore', fun h => absurd h hempty⟩
  refine ⟨first, done, more', Nat.le_add_right .., hmore', ?_, ?_⟩
  · rcases h.queued with rfl | hlength
    · rwa [List.append_nil] at hqueue
    · rw [List.drop_eq_nil_of_le hlength, List.take_nil] at hqueue ⊢
      refine ⟨hqueue.allowed, hqueue.within, fun hnone => ⟨(hqueue.all hnone).1, ?_⟩, ?_⟩
      · intro before tenant after heq
        cases before <;> cases heq
      · intro hpos
        obtain ⟨before, tenant, after, heq, -⟩ := hqueue.first hpos
        cases before <;> cases heq
  · intro hfull
    obtain ⟨hlast, hmore⟩ := hnone (hrest hfull)
    refine ⟨?_, by rw [hlast, Nat.add_zero], hmore⟩
    rw [hrest hfull, List.map_nil, List.append_nil, List.length_map, List.length_take,
      Nat.min_eq_left hfull]

theorem firstQueued_add {n : Nat} : firstQueued start db (k + n) =
    firstQueued start db k ++ (((purgeQueue start db).drop k).take n).map (·.id) := by
  rw [firstQueued, firstQueued, List.take_add, List.map_append]

-- A tenant of the queue stands in its batch behind those that come before it.
theorem split_batch {i n : Nat} {tenant : TenantRow} (hi : k ≤ i) (hlt : i < k + n)
    (htenant : (purgeQueue start db)[i]? = some tenant) :
    ∃ before after, ((purgeQueue start db).drop k).take n = before ++ tenant :: after ∧
      firstQueued start db k ++ before.map (·.id) = firstQueued start db i := by
  have hget : (((purgeQueue start db).drop k).take n)[i - k]? = some tenant := by
    rw [List.getElem?_take_of_lt (by omega), List.getElem?_drop, Nat.add_sub_cancel' hi, htenant]
  obtain ⟨hlength, hget⟩ := List.getElem?_eq_some_iff.mp hget
  refine ⟨(((purgeQueue start db).drop k).take n).take (i - k),
    (((purgeQueue start db).drop k).take n).drop (i - k + 1), ?_, ?_⟩
  · have hdrop := List.drop_eq_getElem_cons hlength
    rw [hget] at hdrop
    rw [← hdrop, List.take_append_drop]
  · rw [List.take_take, Nat.min_eq_left (by omega), ← firstQueued_add, Nat.add_sub_cancel' hi]

theorem queued_of_split {n : Nat} {tenant : TenantRow} {before after : List TenantRow}
    (h : ((purgeQueue start db).drop k).take n = before ++ tenant :: after) :
    before.length < n ∧ (purgeQueue start db)[k + before.length]? = some tenant ∧
      firstQueued start db k ++ before.map (·.id) = firstQueued start db (k + before.length) := by
  have hlength : before.length < n := by
    have hle := List.length_take_le n ((purgeQueue start db).drop k)
    rw [h, List.length_append, List.length_cons] at hle
    omega
  have hget : (((purgeQueue start db).drop k).take n)[before.length]? = some tenant := by
    rw [h, List.getElem?_append_right (Nat.le_refl _), Nat.sub_self, List.getElem?_cons_zero]
  have hbefore : ((purgeQueue start db).drop k).take before.length = before := by
    have htake := congrArg (List.take before.length) h
    rwa [List.take_take, Nat.min_eq_left (Nat.le_of_lt hlength), List.take_left'] at htake
    rfl
  refine ⟨hlength, ?_, ?_⟩
  · rwa [List.getElem?_take_of_lt hlength, List.getElem?_drop] at hget
  · rw [firstQueued_add, hbefore]

-- The full batches purge the tenants of the queue one after the other.
theorem fullBatches_progress (hdb : db.Consistent) (hclock : ∀ n, start ≤ server.clock n)
    (hfull : (retentionWorker server config).FullBatches config.batchSize m session session')
    (h : Progress db start k more session) :
    (∃ more', Progress db start (k + m * config.batchSize) more' session') ∧
      ∀ i tenant, k ≤ i → i < k + m * config.batchSize → (purgeQueue start db)[i]? = some tenant →
        ¬Refused (clearedAll db (firstQueued start db i)) tenant.id := by
  induction hfull generalizing k more with
  | none s =>
    rw [Nat.zero_mul, Nat.add_zero]
    exact ⟨⟨more, h⟩, fun i tenant hi hlt => absurd hi (Nat.not_le.mpr hlt)⟩
  | @more n items s₁ s₂ s₃ hbatch hlong hrest ih =>
    obtain ⟨first, done, more', hle, htracks, hqueue, hinside⟩ :=
      batch_progress hdb hclock h hbatch
    obtain ⟨hdone, hfree⟩ := hqueue.all (by omega)
    have hnext : ∃ more'', Progress db start (k + config.batchSize) more'' s₂ := by
      rcases h.queued with rfl | hlength
      · rw [List.append_nil, hdone, ← firstQueued_add] at htracks
        refine ⟨more', htracks, ?_⟩
        by_cases hfits : config.batchSize ≤ ((purgeQueue start db).drop k).length
        · exact .inl (hinside hfits).2.2
        · rw [List.length_drop] at hfits
          exact .inr (by omega)
      · have hnone : ((purgeQueue start db).drop k).take config.batchSize = [] := by
          rw [List.drop_eq_nil_of_le hlength, List.take_nil]
        have hsame : firstQueued start db (k + config.batchSize) = firstQueued start db k := by
          rw [firstQueued_add, hnone, List.map_nil, List.append_nil]
        rw [hdone, hnone, List.map_nil, List.append_nil, List.append_assoc] at htracks
        exact ⟨more ++ more', hsame ▸ htracks, .inr (by omega)⟩
    obtain ⟨more'', hnext⟩ := hnext
    obtain ⟨hprogress, hunrefused⟩ := ih hnext
    have hbatches : k + (n + 1) * config.batchSize =
        k + config.batchSize + n * config.batchSize := by
      rw [Nat.succ_mul]
      omega
    rw [hbatches]
    refine ⟨hprogress, fun i tenant hi hlt htenant => ?_⟩
    by_cases hlater : k + config.batchSize ≤ i
    · exact hunrefused i tenant hlater hlt htenant
    · obtain ⟨before, after, hsplit, hbefore⟩ :=
        split_batch hi (Nat.not_le.mp hlater) htenant
      have hfree := hfree before tenant after hsplit
      rwa [hbefore] at hfree

end Progress

section Run

variable (server : RetentionServer) (config : RetentionConfig) (db : TenantDatabase)

-- The function accepts the tenant when the run starts.
def Purgeable (tenantId : String) : Prop :=
  ∃ certificates db',
    (sessionPurge server config tenantId { database := db }).Commits db certificates db'

-- All tenants that the function accepts have been purged.
def Drained (after : TenantDatabase) : Prop :=
  ∀ tenant ∈ db.tenants, Purgeable server config db tenant.id → after.rowsOf tenant.id = .empty

-- No tenant that the function accepts is listed behind the batch of one that it refuses, when those
-- that are listed before have been purged.
def NoneBehindRefused : Prop :=
  ∀ i j refused tenant, (purgeQueue (server.clock 0) db)[i]? = some refused →
    (purgeQueue (server.clock 0) db)[j]? = some tenant →
    Refused (clearedAll db (firstQueued (server.clock 0) db i)) refused.id →
    (i / config.batchSize + 1) * config.batchSize ≤ j → ¬Purgeable server config db tenant.id

variable {server : RetentionServer} {config : RetentionConfig} {db : TenantDatabase}
  {after : RetentionSession} {report : RetentionReport}

theorem queued_of_purgeable {tenant : TenantRow} (hdb : db.Consistent) (htenant : tenant ∈ db.tenants)
    (h : Purgeable server config db tenant.id) :
    tenant ∈ purgeQueue (server.clock 0) db ∧ JobsAllow db tenant.id := by
  obtain ⟨certificates, db', hc⟩ := h
  have haccepts := accepts_of_commits hdb htenant hc
  exact ⟨mem_purgeQueue.mpr ⟨htenant, haccepts.due, haccepts.unblocked⟩, haccepts.jobs⟩

theorem rowsOf_ne_empty {tenant : TenantRow} (htenant : tenant ∈ db.tenants) :
    db.rowsOf tenant.id ≠ .empty := by
  intro hempty
  have hrows : db.tenants.filter (·.id = tenant.id) = [] :=
    congrArg TenantDatabase.tenants hempty
  exact List.filter_eq_nil_iff.mp hrows tenant htenant (decide_eq_true rfl)

theorem drain_of_run (h : runRetentionPurge server config db = (.ok report, after)) :
    (retentionWorker server config).drain config.batchSize maximumBatchesPerRun
      { database := db } = (.ok true, after) := by
  unfold runRetentionPurge at h
  split at h
  case h_1 => cases h
  case h_2 =>
    split_ifs at h
    case pos => cases h
    case neg =>
      dsimp only at h
      split at h
      case h_1               => cases h
      case h_2               => cases h
      case h_3 after' hdrain => rw [hdrain, (Prod.mk.inj h).2]

theorem session_of_run : (runRetentionPurge server config db).2 = { database := db } ∨
    (runRetentionPurge server config db).2 = ((retentionWorker server config).drain config.batchSize
      maximumBatchesPerRun { database := db }).2 := by
  unfold runRetentionPurge
  split
  case h_1 => exact .inl rfl
  case h_2 =>
    split_ifs
    case pos => exact .inl rfl
    case neg =>
      dsimp only
      split
      case h_1 e after hdrain => exact .inr (congrArg Prod.snd hdrain).symm
      case h_2 after hdrain   => exact .inr (congrArg Prod.snd hdrain).symm
      case h_3 after hdrain   => exact .inr (congrArg Prod.snd hdrain).symm

-- A run that reports success has drained exactly if the batch with the first tenant that is refused
-- leaves none behind that would have been accepted.
theorem drained_iff (hdb : db.Consistent) (hclock : Monotone server.clock)
    (h : runRetentionPurge server config db = (.ok report, after)) :
    Drained server config db after.database ↔ NoneBehindRefused server config db := by
  have hclock : ∀ n, server.clock 0 ≤ server.clock n := fun n => hclock (Nat.zero_le n)
  obtain ⟨m, -, session, items, skipped, hfull, hlast, hstop⟩ :=
    BatchDrain.drain_eq_true config.bounds.1 (drain_of_run h)
  have hstart : Progress db (server.clock 0) 0 [] { database := db } := ⟨.refl, .inl rfl⟩
  obtain ⟨⟨more, hprogress⟩, hfree⟩ := fullBatches_progress hdb hclock hfull hstart
  rw [Nat.zero_add] at hprogress hfree
  obtain ⟨first, done, more', hle, htracks, hqueue, hinside⟩ :=
    batch_progress hdb hclock hprogress hlast
  constructor
  · intro hdrained i j refused tenant hi hj hrefused hbehind hpurgeable
    have hlate : m ≤ i / config.batchSize := by
      rw [Nat.le_div_iff_mul_le config.bounds.1]
      by_contra hlt
      exact hfree i refused (Nat.zero_le i) (Nat.not_le.mp hlt) hi hrefused
    have hbehind : m * config.batchSize + config.batchSize ≤ j := by
      rw [← Nat.succ_mul]
      exact le_trans (Nat.mul_le_mul_right _ (Nat.succ_le_succ hlate)) hbehind
    have hlength : j < (purgeQueue (server.clock 0) db).length :=
      (List.getElem?_eq_some_iff.mp hj).1
    obtain rfl : more' = [] := (hinside (by rw [List.length_drop]; omega)).2.2
    obtain rfl : more = [] := hprogress.queued.resolve_right (by omega)
    have htenant : tenant ∈ db.tenants := (mem_purgeQueue.mp (List.mem_of_getElem? hj)).1
    have hkept : tenant.id ∉ firstQueued (server.clock 0) db (m * config.batchSize) ++ [] ++
        done ++ [] := by
      have hnot := notMem_firstQueued hdb hj hbehind
      rw [firstQueued_add, List.mem_append, not_or] at hnot
      simp only [List.append_nil, List.mem_append, not_or]
      exact ⟨hnot.1, fun hmem => hnot.2 (hqueue.within _ hmem)⟩
    have hrows := hdrained tenant htenant hpurgeable
    rw [htracks.rowsOf hkept] at hrows
    exact rowsOf_ne_empty htenant hrows
  · intro hnone tenant htenant hpurgeable
    obtain ⟨hqueued, hallowed⟩ := queued_of_purgeable hdb htenant hpurgeable
    obtain ⟨j, hj⟩ := List.mem_iff_getElem?.mp hqueued
    refine htracks.rowsOf_of_mem ?_
    simp only [List.mem_append]
    by_cases hearly : j < m * config.batchSize
    · refine .inl (.inl (.inl (List.mem_map_of_mem ?_)))
      exact List.mem_of_getElem? ((List.getElem?_take_of_lt hearly).trans hj)
    by_cases hlisted : j < m * config.batchSize + config.batchSize
    · obtain ⟨before, behind, hsplit, -⟩ := split_batch (Nat.not_lt.mp hearly) hlisted hj
      refine .inl (.inr (hqueue.allowed tenant ?_ hallowed))
      rw [hsplit]
      exact List.mem_append_right _ (List.mem_cons_self ..)
    · exfalso
      have hlength : j < (purgeQueue (server.clock 0) db).length :=
        (List.getElem?_eq_some_iff.mp hj).1
      obtain ⟨hitems, rfl, -⟩ := hinside (by rw [List.length_drop]; omega)
      have hpos : 0 < first := hstop.resolve_left (by omega)
      obtain ⟨before, refused, behind, hsplit, hrefused⟩ := hqueue.first hpos
      obtain ⟨hshort, hi, hbefore⟩ := queued_of_split hsplit
      rw [hbefore] at hrefused
      have hbatch : (m * config.batchSize + before.length) / config.batchSize = m := by
        rw [Nat.mul_comm, Nat.mul_add_div config.bounds.1, Nat.div_eq_of_lt hshort, Nat.add_zero]
      refine hnone _ j refused tenant hi hj hrefused ?_ hpurgeable
      rw [hbatch, Nat.succ_mul]
      exact Nat.not_lt.mp hlisted

-- A run leaves the tenants alone that it skips, and it has drained exactly if none that is accepted
-- comes behind the batch of one that is refused.
theorem retention_drained (hdb : db.Consistent) (hclock : Monotone server.clock) :
    (∀ tenantId ∈ (runRetentionPurge server config db).2.skipped,
      (runRetentionPurge server config db).2.database.rowsOf tenantId = db.rowsOf tenantId) ∧
    ∀ report after, runRetentionPurge server config db = (.ok report, after) →
      (Drained server config db after.database ↔ NoneBehindRefused server config db) := by
  refine ⟨?_, fun report after h => drained_iff hdb hclock h⟩
  intro tenantId hid
  rcases session_of_run with hsession | hsession
  · rw [hsession] at hid
    cases hid
  · rw [hsession] at hid ⊢
    exact drain_skipped hdb .refl rfl tenantId hid

end Run

end RefundDesk.Retention

namespace RefundDesk.Pilot

open Retention

def refusedTenant : String := "00000000-0000-4000-8000-00000000000a"

def acceptedTenant : String := "00000000-0000-4000-8000-00000000000b"

-- A job that is running
def activeJob (tenantId : String) : PgbossJob where
  id                  := "j"
  name                := "refunddesk_refund_execute"
  data                := .object [("tenant_id", .string tenantId)]
  state               := "active"
  blocking            := false
  pendingDependencies := 0
  sourceName          := none
  sourceId            := none

-- Two tenants that are due, the first of which has a job that is running
def hidden : TenantDatabase :=
  retained [dueTenant refusedTenant 3, dueTenant acceptedTenant 3]
    [uninstalled refusedTenant 1, uninstalled acceptedTenant 1] [activeJob refusedTenant]

def endingDigest (tenantId : String) : Sha256Digest :=
  ⟨((tenantId.toList.drop 4 ++ List.replicate 32 '0').take 32).map fun c =>
    Base64Url.octet c.toNat, by simp⟩

def retentionConfig : RetentionConfig where
  batchSize       := 1
  bounds          := by decide
  pseudonymDigest := endingDigest

def retentionServer : RetentionServer where
  authority       := .ok ()
  lockFree        := true
  clock         _ := 5
  certificateId _ := "c"

theorem hidden_consistent : hidden.Consistent :=
  retained_consistent (by decide) (by decide)

theorem hidden_returns : ∃ report after,
    runRetentionPurge retentionServer retentionConfig hidden = (.ok report, after) := by
  have hok : (runRetentionPurge retentionServer retentionConfig hidden).1.isOk := by
    decide +kernel
  cases hrun : runRetentionPurge retentionServer retentionConfig hidden with
  | mk r after =>
    rw [hrun] at hok
    cases r with
    | error e   => cases hok
    | ok report => exact ⟨report, after, rfl⟩

theorem hidden_purgeable : Purgeable retentionServer retentionConfig hidden acceptedTenant := by
  have hpgboss : hidden.pgboss = some ⟨[37], [activeJob refusedTenant], []⟩ := rfl
  have hclear : JobsClear hidden acceptedTenant ⟨[37], [activeJob refusedTenant], []⟩ :=
    jobsClear_of_unmatched rfl (by decide)
  have htenant : dueTenant acceptedTenant 3 ∈ hidden.tenants := by decide
  have hcertifiable : ∀ uninstalledAt ∈ hidden.uninstalledAt acceptedTenant,
      Certifiable hidden (tenantPurgePseudonym retentionConfig acceptedTenant) uninstalledAt 5 := by
    intro uninstalledAt h
    obtain rfl := Option.some.inj h
    exact ⟨by decide, fun _ hrow => nomatch hrow⟩
  have haccepts : Accepts 5 (tenantPurgePseudonym retentionConfig acceptedTenant) hidden
      (dueTenant acceptedTenant 3) :=
    ⟨isTenantPseudonym_tenantPurgePseudonym, ⟨_, hpgboss, hclear⟩, by decide, by decide,
      hcertifiable⟩
  obtain ⟨certificate, hc, -⟩ := commits_purge hidden_consistent htenant haccepts
  exact ⟨_, _, hc⟩

theorem hidden_refused : Retention.Refused (clearedAll hidden []) refusedTenant := by
  refine ⟨⟨[37], [activeJob refusedTenant], []⟩, rfl, rfl, fun hclear => ?_⟩
  have hmatched : activeJob refusedTenant ∈
      matchedJobs hidden ⟨[37], [activeJob refusedTenant], []⟩ refusedTenant :=
    List.mem_filter.mpr ⟨List.mem_singleton.mpr rfl, by decide⟩
  exact (hclear.jobs _ hmatched).1 rfl

theorem hidden_behind : ¬NoneBehindRefused retentionServer retentionConfig hidden := by
  intro hnone
  have hqueue : purgeQueue 5 hidden = [dueTenant refusedTenant 3, dueTenant acceptedTenant 3] := by
    decide +kernel
  have hfirst : (purgeQueue 5 hidden)[0]? = some (dueTenant refusedTenant 3) := by rw [hqueue]; rfl
  have hsecond : (purgeQueue 5 hidden)[1]? = some (dueTenant acceptedTenant 3) := by
    rw [hqueue]
    rfl
  exact hnone 0 1 _ _ hfirst hsecond hidden_refused (by decide) hidden_purgeable

end RefundDesk.Pilot

namespace RefundDesk.Retention

theorem retention_drained_hidden : ∃ report after,
    runRetentionPurge Pilot.retentionServer Pilot.retentionConfig Pilot.hidden =
      (.ok report, after) ∧
    (Drained Pilot.retentionServer Pilot.retentionConfig Pilot.hidden after.database ↔
      NoneBehindRefused Pilot.retentionServer Pilot.retentionConfig Pilot.hidden) := by
  obtain ⟨report, after, hrun⟩ := Pilot.hidden_returns
  have hdrained := (retention_drained Pilot.hidden_consistent monotone_const).2 report after hrun
  exact ⟨report, after, hrun, hdrained⟩

-- The tenant with the job that is running is listed first, in a batch of its own.
theorem retention_drained_counterexample :
    ¬∀ (server : RetentionServer) (config : RetentionConfig) (db : TenantDatabase)
      (report : RetentionReport) (after : RetentionSession), db.Consistent → Monotone server.clock →
      runRetentionPurge server config db = (.ok report, after) →
      Drained server config db after.database := by
  intro h
  obtain ⟨report, after, hrun⟩ := Pilot.hidden_returns
  have hdrained := h _ _ _ report after Pilot.hidden_consistent monotone_const hrun
  exact Pilot.hidden_behind ((drained_iff Pilot.hidden_consistent monotone_const hrun).mp hdrained)

end RefundDesk.Retention
