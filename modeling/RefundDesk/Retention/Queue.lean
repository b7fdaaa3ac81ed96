import RefundDesk.Library.Listing
import RefundDesk.Retention.DrainRuns

namespace RefundDesk.Retention

section Queue

variable {db db' : TenantDatabase} {ids : List String} {start now : Timestamp}
  {tenant left right : TenantRow}

-- The tenants that are due and not blocked, in the order in which they are listed
def purgeQueue (now : Timestamp) (db : TenantDatabase) : List TenantRow :=
  (dueTenants now db).filter fun tenant => blockerReason db tenant = none

def dueKey (tenant : TenantRow) : Timestamp ×ₗ String :=
  toLex (tenant.pendingDeleteAt.getD 0, tenant.id)

theorem mem_purgeQueue : tenant ∈ purgeQueue now db ↔
    tenant ∈ db.tenants ∧ isDue now tenant ∧ blockerReason db tenant = none := by
  rw [purgeQueue, List.mem_filter, mem_dueTenants, decide_eq_true_eq, and_assoc]

theorem isDue_mono (hnow : start ≤ now) (h : isDue start tenant) : isDue now tenant := by
  simp only [isDue, decide_eq_true_eq, Option.any_eq_true] at h ⊢
  obtain ⟨hstatus, time, htime, hle⟩ := h
  exact ⟨hstatus, time, htime, le_trans hle hnow⟩

theorem dueTenants_sorted :
    (dueTenants now db).Pairwise fun left right => listingKey db left ≤ listingKey db right := by
  have htotal : Std.Total fun left right => listingKey db left ≤ listingKey db right :=
    ⟨fun left right => le_total (listingKey db left) (listingKey db right)⟩
  have htrans : IsTrans TenantRow fun left right => listingKey db left ≤ listingKey db right :=
    ⟨fun _ _ _ => le_trans⟩
  exact List.pairwise_insertionSort _ _

theorem dueKey_of_listingKey (hleft : blockerReason db left = none)
    (hright : blockerReason db right = none) (h : listingKey db left ≤ listingKey db right) :
    dueKey left ≤ dueKey right := by
  simpa [listingKey, hleft, hright, Prod.Lex.toLex_le_toLex, dueKey] using h

theorem purgeQueue_sorted :
    (purgeQueue now db).Pairwise fun left right => dueKey left ≤ dueKey right := by
  refine List.Pairwise.imp_of_mem ?_ (dueTenants_sorted.sublist List.filter_sublist)
  intro left right hleft hright h
  exact dueKey_of_listingKey (mem_purgeQueue.mp hleft).2.2 (mem_purgeQueue.mp hright).2.2 h

theorem purgeQueue_nodup (hdb : db.Consistent) : ((purgeQueue now db).map (·.id)).Nodup := by
  have hdue : ((dueTenants now db).map (·.id)).Nodup := by
    refine ((List.perm_insertionSort _ _).map _).nodup_iff.mpr ?_
    exact hdb.tenants.sublist (List.filter_sublist.map _)
  exact hdue.sublist (List.filter_sublist.map _)

def isQueued (start : Timestamp) (db : TenantDatabase) (tenant : TenantRow) : Bool :=
  isDue start tenant ∧ blockerReason db tenant = none

-- A tenant that is due later, or blocked, is not listed before one of the queue.
theorem not_listed_before (hleft : left ∈ dueTenants now db) (hright : isQueued start db right)
    (hnot : isQueued start db left = false) : ¬listingKey db left ≤ listingKey db right := by
  intro hle
  simp only [isQueued, decide_eq_true_eq, decide_eq_false_iff_not] at hright hnot
  by_cases hunblocked : blockerReason db left = none
  · have hkey := dueKey_of_listingKey hunblocked hright.2 hle
    have hdue := (mem_dueTenants.mp hleft).2
    refine hnot ⟨?_, hunblocked⟩
    simp only [isDue, decide_eq_true_eq, Option.any_eq_true] at hright hdue ⊢
    obtain ⟨⟨-, due, hright, hdueRight⟩, -⟩ := hright
    obtain ⟨hstatus, time, htime, -⟩ := hdue
    have htimes : time ≤ due := by
      simp only [dueKey, htime, hright, Option.getD_some, Prod.Lex.toLex_le_toLex] at hkey
      rcases hkey with hlt | heq
      · exact le_of_lt hlt
      · exact le_of_eq heq.1
    exact ⟨hstatus, time, htime, le_trans htimes hdueRight⟩
  · have hsome : (blockerReason db left).isSome := Option.isSome_iff_ne_none.mpr hunblocked
    have hlt : true < false := by
      simpa [listingKey, hsome, hright.2, Prod.Lex.toLex_le_toLex] using hle
    exact absurd hlt (by decide)

-- What is left of the queue after some purges
theorem filter_isQueued (hdb : db.Consistent) (h : Tracks db ids db') (hnow : start ≤ now) :
    (dueTenants now db').filter (isQueued start db') =
      (purgeQueue start db).filter (·.id ∉ ids) := by
  have hsortedLeft : ((dueTenants now db').filter (isQueued start db')).Pairwise
      fun left right => dueKey left ≤ dueKey right := by
    refine List.Pairwise.imp_of_mem ?_ (dueTenants_sorted.sublist List.filter_sublist)
    intro left right hleft hright hle
    have hunblocked {tenant : TenantRow}
        (hmem : tenant ∈ (dueTenants now db').filter (isQueued start db')) :
        blockerReason db' tenant = none :=
      (of_decide_eq_true (List.mem_filter.mp hmem).2).2
    exact dueKey_of_listingKey (hunblocked hleft) (hunblocked hright) hle
  have hsortedRight : ((purgeQueue start db).filter (·.id ∉ ids)).Pairwise
      fun left right => dueKey left ≤ dueKey right :=
    purgeQueue_sorted.sublist List.filter_sublist
  have hperm : ((dueTenants now db').filter (isQueued start db')).Perm
      ((purgeQueue start db).filter (·.id ∉ ids)) := by
    have hleft : ((dueTenants now db').filter (isQueued start db')).Perm
        ((db'.tenants.filter (isDue now)).filter (isQueued start db')) :=
      (List.perm_insertionSort _ _).filter _
    have hright : ((purgeQueue start db).filter (·.id ∉ ids)).Perm
        (((db.tenants.filter (isDue start)).filter fun tenant =>
          blockerReason db tenant = none).filter (·.id ∉ ids)) :=
      ((List.perm_insertionSort _ _).filter _).filter _
    refine hleft.trans (List.Perm.trans (.of_eq ?_) hright.symm)
    rw [h.tenants]
    simp only [List.filter_filter]
    refine List.filter_congr fun tenant _ => ?_
    by_cases hid : tenant.id ∈ ids
    · simp [hid]
    · have hblocker : blockerReason db' tenant = blockerReason db tenant :=
        blockerReason_congr (h.rowsOf hid) rfl
      have hmono : isDue start tenant = true → isDue now tenant = true := isDue_mono hnow
      simp only [isQueued, hblocker, hid, not_false_eq_true, decide_true, Bool.and_true,
        Bool.true_and]
      by_cases hstart : isDue start tenant <;> simp [hstart, hmono]
  refine hperm.eq_of_pairwise ?_ hsortedLeft hsortedRight
  intro left right hleft hright hle hge
  have hkey : dueKey left = dueKey right := le_antisymm hle hge
  have hid : left.id = right.id := congrArg (fun key => (ofLex key).2) hkey
  have hmemLeft : left ∈ db.tenants := by
    have hmem := (mem_dueTenants.mp (List.mem_filter.mp hleft).1).1
    rw [h.tenants] at hmem
    exact (List.mem_filter.mp hmem).1
  have hmemRight : right ∈ db.tenants := (mem_purgeQueue.mp (List.mem_filter.mp hright).1).1
  exact List.inj_on_of_nodup_map hdb.tenants hmemLeft hmemRight hid

-- What is listed first, later on and after some purges: the tenants of the queue that are left.
theorem dueTenants_split (hdb : db.Consistent) (h : Tracks db ids db') (hnow : start ≤ now) :
    ∃ rest, dueTenants now db' = (purgeQueue start db).filter (·.id ∉ ids) ++ rest := by
  have hsplit : (dueTenants now db').filter (isQueued start db') ++ _ = dueTenants now db' :=
    filter_append_filter_of_pairwise dueTenants_sorted
      fun left hleft right _ => not_listed_before hleft
  rw [filter_isQueued hdb h hnow] at hsplit
  exact ⟨_, hsplit.symm⟩

end Queue

section Batches

variable {server : RetentionServer} {config : RetentionConfig} {db : TenantDatabase}
  {session session' : RetentionSession} {start : Timestamp} {ids : List String}
  {tenant : TenantRow} {tenants : List TenantRow} {candidate : TenantRow → DuePurge} {skipped : Nat}

def JobsAllow (db : TenantDatabase) (tenantId : String) : Prop :=
  ∃ pgboss, db.pgboss = some pgboss ∧ JobsClear db tenantId pgboss

theorem mem_tenants_of_tracks (h : Tracks db ids session.database) (hmem : tenant ∈ db.tenants)
    (hid : tenant.id ∉ ids) : tenant ∈ session.database.tenants := by
  rw [h.tenants, List.mem_filter]
  exact ⟨hmem, decide_eq_true hid⟩

-- What becomes of a tenant of the queue at its turn
theorem handled_queued {done : Bool} (hdb : db.Consistent)
    (hclock : ∀ n, start ≤ server.clock n) (htracks : Tracks db ids session.database)
    (hqueued : tenant ∈ purgeQueue start db) (hid : tenant.id ∉ ids)
    (hcandidate : (candidate tenant).tenantId = tenant.id ∧ (candidate tenant).blockerReason = none)
    (h : Handled server config (candidate tenant) session (.ok done) session') :
    (done = true ∧ Tracks db (ids ++ [tenant.id]) session'.database ∧
      ¬Refused (clearedAll db ids) tenant.id) ∨
    (done = false ∧ Tracks db ids session'.database ∧ Refused (clearedAll db ids) tenant.id ∧
      ¬JobsAllow db tenant.id) := by
  have hqueued := mem_purgeQueue.mp hqueued
  have hpresent := mem_tenants_of_tracks htracks hqueued.1 hid
  have hconsistent := htracks.consistent hdb
  generalize hr : Except.ok done = r at h
  cases h with
  | purged hnot hunseen hunblocked hpurge hseen hskipped =>
    have hdone : done = true := by
      cases done with
      | true  => rfl
      | false => exact absurd hr.symm hnot
    rw [hcandidate.1] at hpurge
    have haccepts := accepts_of_commits hconsistent hpresent hpurge
    obtain ⟨certificate, hcommits, -⟩ := commits_purge hconsistent hpresent haccepts
    have hpurged := (hpurge.deterministic hcommits).2
    refine .inl ⟨hdone, ?_, ?_⟩
    · rw [hpurged]
      exact htracks.purged
    · rw [← htracks.refused_iff]
      rintro ⟨pgboss, hpgboss, -, hunclear⟩
      obtain ⟨pgboss', hpgboss', hclear⟩ := haccepts.jobs
      rw [hpgboss, Option.some.injEq] at hpgboss'
      exact hunclear (hpgboss' ▸ hclear)
  | skipped hunseen hwhy hdatabase hseen hskipped =>
    obtain ⟨message, haborts⟩ := hwhy.resolve_left fun hne => hne hcandidate.2
    rw [hcandidate.1] at haborts
    have hunblocked : blockerReason session.database tenant = none := by
      rw [blockerReason_congr (htracks.rowsOf hid) rfl]
      exact hqueued.2.2
    have hrefused := refused_of_aborts hconsistent hpresent
      (isDue_mono (hclock session.statements) hqueued.2.1) hunblocked haborts
    rw [htracks.refused_iff] at hrefused
    refine .inr ⟨Except.ok.inj hr, hdatabase ▸ htracks, hrefused, ?_⟩
    rintro ⟨pgboss, hpgboss, hclear⟩
    exact not_refused_clearedAll hid hpgboss hclear hrefused
  | failed => cases hr

-- A batch of tenants of the queue. Of those that it purges the jobs allowed it at the start, and if
-- it skips one, it is the jobs that refuse the first one that it skips.
structure QueueBatch (db : TenantDatabase) (ids : List String) (tenants : List TenantRow)
    (skipped : Nat) (done : List String) : Prop where
  allowed : ∀ tenant ∈ tenants, JobsAllow db tenant.id → tenant.id ∈ done
  within  : ∀ id ∈ done, id ∈ tenants.map (·.id)
  all     : skipped = 0 → done = tenants.map (·.id) ∧ ∀ before tenant after,
    tenants = before ++ tenant :: after →
    ¬Refused (clearedAll db (ids ++ before.map (·.id))) tenant.id
  first   : 0 < skipped → ∃ before tenant after, tenants = before ++ tenant :: after ∧
    Refused (clearedAll db (ids ++ before.map (·.id))) tenant.id

theorem batch_queue (hdb : db.Consistent) (hclock : ∀ n, start ≤ server.clock n)
    (hqueued : ∀ tenant ∈ tenants, tenant ∈ purgeQueue start db ∧ tenant.id ∉ ids)
    (hnodup : (tenants.map (·.id)).Nodup)
    (hcandidate : ∀ tenant ∈ tenants, (candidate tenant).tenantId = tenant.id ∧
      (candidate tenant).blockerReason = none)
    (htracks : Tracks db ids session.database)
    (h : (retentionWorker server config).batch (tenants.map candidate) session =
      (.ok skipped, session')) :
    ∃ done, Tracks db (ids ++ done) session'.database ∧ QueueBatch db ids tenants skipped done := by
  induction tenants generalizing session ids skipped with
  | nil =>
    obtain ⟨hskipped, rfl⟩ := Prod.mk.inj h
    obtain rfl := Except.ok.inj hskipped
    refine ⟨[], by rwa [List.append_nil], ?_, ?_, ?_, ?_⟩
    · exact fun _ hmem => nomatch hmem
    · exact fun _ hmem => nomatch hmem
    · exact fun _ => ⟨rfl, fun before _ _ heq => by cases before <;> cases heq⟩
    · exact fun hpos => absurd hpos (lt_irrefl 0)
  | cons tenant tenants ih =>
    rw [List.map_cons, BatchDrain.batch_cons_eq_ok] at h
    obtain ⟨done, session₁, rest, hhandle, hbatch, rfl⟩ := h
    have hhead := hqueued tenant (List.mem_cons_self ..)
    have hnotMem : tenant.id ∉ tenants.map (·.id) := (List.nodup_cons.mp hnodup).1
    have htail : ∀ other ∈ tenants, other ∈ purgeQueue start db ∧ other.id ∉ ids :=
      fun other hmem => hqueued other (List.mem_cons_of_mem _ hmem)
    have htailCandidate := fun other hmem => hcandidate other (List.mem_cons_of_mem tenant hmem)
    rcases handled_queued hdb hclock htracks hhead.1 hhead.2
      (hcandidate tenant (List.mem_cons_self ..)) (handleCandidate_cases hhandle) with
      ⟨rfl, hpurged, hnot⟩ | ⟨rfl, hsame, hrefused, hunallowed⟩
    · have hqueuedTail : ∀ other ∈ tenants,
          other ∈ purgeQueue start db ∧ other.id ∉ ids ++ [tenant.id] := by
        intro other hmem
        refine ⟨(htail other hmem).1, ?_⟩
        rw [List.mem_append, List.mem_singleton, not_or]
        exact ⟨(htail other hmem).2, fun heq => hnotMem (heq ▸ List.mem_map_of_mem hmem)⟩
      obtain ⟨done, htracksTail, hrest⟩ :=
        ih hqueuedTail (List.nodup_cons.mp hnodup).2 htailCandidate hpurged hbatch
      rw [List.append_assoc, List.singleton_append] at htracksTail
      refine ⟨tenant.id :: done, htracksTail, ?_, ?_, ?_, ?_⟩
      · intro other hmem hallowed
        rcases List.mem_cons.mp hmem with rfl | hmem
        · exact List.mem_cons_self ..
        · exact List.mem_cons_of_mem _ (hrest.allowed other hmem hallowed)
      · intro id hmem
        rcases List.mem_cons.mp hmem with rfl | hmem
        · exact List.mem_cons_self ..
        · exact List.mem_cons_of_mem _ (hrest.within id hmem)
      · intro hnone
        obtain ⟨hdone, hfree⟩ := hrest.all hnone
        refine ⟨by rw [hdone, List.map_cons], ?_⟩
        intro before other after heq
        cases before with
        | nil =>
          obtain ⟨rfl, -⟩ := List.cons.inj heq
          rwa [List.map_nil, List.append_nil]
        | cons first before =>
          obtain ⟨rfl, hafter⟩ := List.cons.inj heq
          have hfree := hfree before other after hafter
          rwa [List.append_assoc, List.singleton_append] at hfree
      · intro hpos
        obtain ⟨before, other, after, heq, hrefused⟩ := hrest.first hpos
        refine ⟨tenant :: before, other, after, by rw [heq, List.cons_append], ?_⟩
        rwa [List.append_assoc, List.singleton_append] at hrefused
    · obtain ⟨done, htracksTail, hrest⟩ :=
        ih htail (List.nodup_cons.mp hnodup).2 htailCandidate hsame hbatch
      refine ⟨done, htracksTail, ?_, ?_, ?_, ?_⟩
      · intro other hmem hallowed
        rcases List.mem_cons.mp hmem with rfl | hmem
        · exact absurd hallowed hunallowed
        · exact hrest.allowed other hmem hallowed
      · exact fun id hmem => List.mem_cons_of_mem _ (hrest.within id hmem)
      · intro hnone
        simp at hnone
      · exact fun _ => ⟨[], tenant, tenants, rfl, by rwa [List.map_nil, List.append_nil]⟩

end Batches

end RefundDesk.Retention
