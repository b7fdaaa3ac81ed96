import RefundDesk.Retention.Drain
import RefundDesk.Retention.Locality

namespace RefundDesk.Retention

open Transaction

section Refusals

variable {db : TenantDatabase} {tenant : TenantRow} {now : Timestamp}
  {certificateId tenantId pseudonym message : String} {config : RetentionConfig}

theorem isTenantPseudonym_tenantPurgePseudonym :
    isTenantPseudonym (tenantPurgePseudonym config tenantId) := by
  have hlength := Base64Url.length_encode (config.pseudonymDigest tenantId).val
  rw [(config.pseudonymDigest tenantId).property] at hlength
  have htext : (tenantPurgePseudonym config tenantId).toList =
      'v' :: '1' :: '.' :: (Base64Url.encode (config.pseudonymDigest tenantId).val).toList := by
    rw [tenantPurgePseudonym, String.toList_append]
    rfl
  unfold isTenantPseudonym
  rw [htext]
  simp only [hlength, Bool.and_eq_true, List.all_eq_true, decide_eq_true_eq]
  exact ⟨trivial, fun c hc => Base64Url.isEncodedChar_of_mem_encode hc⟩

theorem insertPurgeCertificate_ends {row : PurgeCertificate} :
    Ends (fun _ => True) (fun e => databaseErrorCode e ≠ some "55000")
      (insertPurgeCertificate row) := by
  have htrigger : Ends (fun _ => True) (fun e => databaseErrorCode e ≠ some "55000")
      (includeAttestationPurgeCount row) :=
    .of_commits fun session => by
      obtain ⟨_, _, session', hc, -⟩ := commits_includeAttestationPurgeCount row session
      exact ⟨_, session', hc, trivial⟩
  unfold insertPurgeCertificate
  refine .bind htrigger fun _ _ => .bind .get fun _ _ => .bind (.require ?_) fun _ _ =>
    .bind (.require ?_) fun _ _ => .bind (.require ?_) fun _ _ => .bind (.set _) fun _ _ =>
    .pure trivial
  all_goals simp [databaseErrorCode]

-- A tenant that can be purged is not refused while its rows are deleted.
theorem purgeTenant_aborts {session : PurgeSession} {uninstalledAt : Timestamp} {e : StoreError}
    (hpseudonym : isTenantPseudonym pseudonym)
    (htenants : (session.database.tenants.map (·.id)).Nodup)
    (hattests : ∀ row ∈ session.database.approvalAttestations,
      ∃ request ∈ session.database.refundRequests, attests row request)
    (htenant : tenant ∈ session.database.tenants)
    (hpurgeable : assertPurgeable session.database now tenant = .ok uninstalledAt)
    (ha : (purgeTenant now certificateId tenant.id pseudonym).Aborts session e) :
    databaseErrorCode e ≠ some "55000" := by
  unfold purgeTenant at ha
  have ha := ((aborts_require_bind.mp ha).resolve_left fun h => h.1 hpseudonym).2
  rw [aborts_get_bind] at ha
  dsimp only at ha
  rw [find?_tenant htenants htenant] at ha
  dsimp only at ha
  rw [(commits_fromExcept.mpr ⟨hpurgeable, rfl⟩).aborts_bind,
    aborts_set_bind] at ha
  obtain ⟨counts, hdelete⟩ : ∃ counts, (deleteTenantRows tenant.id).Commits
      { session with purgeTenantId := some tenant.id } counts _ :=
    commits_deleteTenantRows htenants hattests htenant rfl
  rw [hdelete.aborts_bind] at ha
  rcases aborts_bind.mp ha with hinsert | ⟨_, _, -, hafter⟩
  · exact insertPurgeCertificate_ends.aborts hinsert
  · rw [aborts_modify_bind] at hafter
    exact (not_aborts_pure hafter).elim

theorem refused_of_deletePgbossJobs {session : PurgeSession}
    (ha : (deletePgbossJobs tenantId).Aborts session (.database "55000" message)) :
    Refused session.database tenantId := by
  unfold deletePgbossJobs at ha
  rw [aborts_get_bind] at ha
  dsimp only at ha
  split at ha
  case h_1 => exact absurd (aborts_throw.mp ha) (by simp)
  case h_2 pgboss hpgboss =>
    simp only [aborts_require_bind] at ha
    rcases ha with ⟨-, hcode⟩ | ⟨hversions, ⟨hjobs, -⟩ | ⟨-, ⟨-, hcode⟩ | ⟨-, ha⟩⟩⟩
    · exact absurd hcode (by simp)
    · exact ⟨pgboss, hpgboss, hversions, fun hclear => hjobs ⟨hclear.jobs, hclear.dependencies⟩⟩
    · exact absurd hcode (by simp)
    · rw [aborts_set_bind] at ha
      exact (not_aborts_pure ha).elim

-- Of the tenants that are due and not blocked, those are refused of which the jobs cannot be
-- deleted.
theorem refused_of_aborts (hconsistent : db.Consistent) (htenant : tenant ∈ db.tenants)
    (hdue : isDue now tenant) (hunblocked : blockerReason db tenant = none)
    (ha : (purge now certificateId tenant.id (tenantPurgePseudonym config tenant.id)).Aborts db
      (.database "55000" message)) : Refused db tenant.id := by
  obtain ⟨hheld, ⟨uninstalledAt, huninstalled⟩, henvironment, hsettled⟩ :=
    blockerReason_eq_none.mp hunblocked
  have hpresent : ¬(db.tenants.any (·.id = tenant.id)) = false := by
    rw [Bool.not_eq_false, List.any_eq_true]
    exact ⟨tenant, htenant, decide_eq_true rfl⟩
  obtain ⟨e, ha, rfl⟩ := aborts_onField.mp ha
  unfold purgeTestSandboxTenant at ha
  have ha := ((aborts_require_bind.mp ha).resolve_left fun h =>
    h.1 isTenantPseudonym_tenantPurgePseudonym).2
  rw [aborts_get_bind] at ha
  dsimp only at ha
  rw [if_neg hpresent] at ha
  have ha := (aborts_require_bind.mp ha).resolve_left fun h =>
    h.1 ⟨huninstalled.installed, henvironment⟩
  rcases aborts_bind.mp ha.2 with ha | ⟨_, _, hc, ha⟩
  · exact refused_of_deletePgbossJobs ha
  exfalso
  obtain ⟨pgboss, hpgboss, -, -, rfl⟩ := commits_deletePgbossJobs.mp hc
  obtain ⟨_, hdelete, -, rfl⟩ : ∃ after, (externalRefundAlerts.delete tenant.id).Commits
      { database := { db with pgboss := some (remainingJobs db tenant.id pgboss) },
        purgeTenantId := some tenant.id }
      (db.externalRefundAlerts.filter (·.tenantId = tenant.id)).length after ∧
      after.purgeTenantId = some tenant.id ∧
      after = externalRefundAlerts.deleted tenant.id
        { database := { db with pgboss := some (remainingJobs db tenant.id pgboss) },
          purgeTenantId := some tenant.id } := commits_delete rfl fun row _ => rfl
  have hpurgeable : assertPurgeable (prepared db tenant.id pgboss) now tenant =
      .ok uninstalledAt :=
    assertPurgeable_prepared.mpr ⟨hdue, hheld, huninstalled, hsettled⟩
  rw [aborts_get_bind, aborts_modify_bind,
    hdelete.aborts_bind, aborts_modify_bind] at ha
  rcases aborts_bind.mp ha with hpurge | ⟨_, _, -, hafter⟩
  · exact purgeTenant_aborts isTenantPseudonym_tenantPurgePseudonym hconsistent.tenants
      hconsistent.attestations htenant hpurgeable hpurge rfl
  · rw [aborts_modify_bind] at hafter
    exact not_aborts_pure hafter

end Refusals

-- The database after the purges of some tenants, whatever their certificates are
structure Tracks (db : TenantDatabase) (ids : List String) (db' : TenantDatabase) : Prop where
  eq : { clearedAll db ids with purgeCertificates := db'.purgeCertificates } = db'

namespace Tracks

variable {db db' : TenantDatabase} {ids : List String} {tenantId : String}

protected theorem refl : Tracks db [] db :=
  ⟨rfl⟩

theorem purged {certificate : PurgeCertificate} (h : Tracks db ids db') :
    Tracks db (ids ++ [tenantId]) (purged db' tenantId certificate) where
  eq := by
    rw [← h.eq, clearedAll_append]
    rfl

theorem tenants (h : Tracks db ids db') : db'.tenants = db.tenants.filter (·.id ∉ ids) := by
  rw [← h.eq]
  exact tenants_clearedAll

theorem rowsOf (h : Tracks db ids db') (hid : tenantId ∉ ids) :
    db'.rowsOf tenantId = db.rowsOf tenantId := by
  rw [← h.eq]
  exact rowsOf_clearedAll hid

theorem rowsOf_of_mem (h : Tracks db ids db') (hid : tenantId ∈ ids) :
    db'.rowsOf tenantId = .empty := by
  rw [← h.eq]
  exact rowsOf_clearedAll_of_mem hid

theorem consistent (h : Tracks db ids db') (hdb : db.Consistent) : db'.Consistent := by
  have hcleared : (clearedAll db ids).Consistent := Consistent.clearedAll hdb
  rw [← h.eq]
  exact ⟨hcleared.tenants, hcleared.attestations, hcleared.owners⟩

theorem refused_iff (h : Tracks db ids db') :
    Refused db' tenantId ↔ Refused (clearedAll db ids) tenantId := by
  rw [← h.eq]
  constructor
  · rintro ⟨pgboss, hpgboss, hversions, hunclear⟩
    exact ⟨pgboss, hpgboss, hversions, fun hclear =>
      hunclear ⟨hclear.versions, hclear.jobs, hclear.dependencies⟩⟩
  · rintro ⟨pgboss, hpgboss, hversions, hunclear⟩
    exact ⟨pgboss, hpgboss, hversions, fun hclear =>
      hunclear ⟨hclear.versions, hclear.jobs, hclear.dependencies⟩⟩

end Tracks

section Steps

variable {server : RetentionServer} {config : RetentionConfig} {candidate : DuePurge}
  {session session' : RetentionSession} {r : Except StoreError Bool}

-- The purge of a candidate in a session
def sessionPurge (server : RetentionServer) (config : RetentionConfig) (tenantId : String)
    (session : RetentionSession) : Transaction StoreError TenantDatabase (List PurgeCertificate) :=
  purge (server.clock session.statements) (server.certificateId session.statements) tenantId
    (tenantPurgePseudonym config tenantId)

-- What can become of a candidate
inductive Handled (server : RetentionServer) (config : RetentionConfig) (candidate : DuePurge)
    (session : RetentionSession) : Except StoreError Bool → RetentionSession → Prop
  | purged {r : Except StoreError Bool} {session' : RetentionSession}
      {certificates : List PurgeCertificate} (hr : r ≠ .ok false)
      (hunseen : candidate.tenantId ∉ session.seen) (hunblocked : candidate.blockerReason = none)
      (hpurge : (sessionPurge server config candidate.tenantId session).Commits session.database
        certificates session'.database)
      (hseen : session'.seen = candidate.tenantId :: session.seen)
      (hskipped : session'.skipped = session.skipped) :
      Handled server config candidate session r session'
  | skipped {session' : RetentionSession} (hunseen : candidate.tenantId ∉ session.seen)
      (hwhy : candidate.blockerReason ≠ none ∨ ∃ message,
        (sessionPurge server config candidate.tenantId session).Aborts session.database
          (.database "55000" message))
      (hdatabase : session'.database = session.database)
      (hseen : session'.seen = candidate.tenantId :: session.seen)
      (hskipped : session'.skipped = candidate.tenantId :: session.skipped) :
      Handled server config candidate session (.ok false) session'
  | failed {e : StoreError} {session' : RetentionSession}
      (hdatabase : session'.database = session.database)
      (hseen : ∀ id ∈ session.seen, id ∈ session'.seen)
      (hskipped : session'.skipped = session.skipped) :
      Handled server config candidate session (.error e) session'

theorem handleCandidate_cases (h : handleCandidate server config candidate session = (r, session')) :
    Handled server config candidate session r session' := by
  unfold handleCandidate at h
  split_ifs at h with hinvalid
  case pos =>
    obtain ⟨rfl, rfl⟩ := Prod.mk.inj h
    exact .failed rfl (fun _ hid => hid) rfl
  have hunseen : candidate.tenantId ∉ session.seen := fun hmem => hinvalid (.inl hmem)
  dsimp only at h
  split at h
  case h_1 reason hreason =>
    obtain ⟨rfl, rfl⟩ := Prod.mk.inj h
    exact .skipped hunseen (.inl (by simp [hreason])) rfl rfl rfl
  case h_2 hunblocked =>
    unfold purgeCandidate at h
    dsimp only at h
    split at h
    case h_1 certificates database hpurge =>
      split_ifs at h
      · obtain ⟨rfl, rfl⟩ := Prod.mk.inj h
        exact .purged (by simp) hunseen hunblocked hpurge rfl rfl
      · obtain ⟨rfl, rfl⟩ := Prod.mk.inj h
        exact .purged (by simp) hunseen hunblocked hpurge rfl rfl
    case h_2 e hpurge =>
      split_ifs at h with hcode
      · obtain ⟨rfl, rfl⟩ := Prod.mk.inj h
        cases e with
        | database code message =>
          obtain rfl : code = "55000" := by simpa [databaseErrorCode] using hcode
          exact .skipped hunseen (.inr ⟨message, hpurge⟩) rfl rfl rfl
        | _ => cases hcode
      · obtain ⟨rfl, rfl⟩ := Prod.mk.inj h
        exact .failed rfl (fun _ hid => List.mem_cons_of_mem _ hid) rfl

variable {db db' : TenantDatabase} {ids : List String} {certificates : List PurgeCertificate}
  {items : List DuePurge} {limit skipped : Nat}

theorem tracks_of_commits (hdb : db.Consistent) (h : Tracks db ids session.database)
    (hc : (sessionPurge server config candidate.tenantId session).Commits session.database
      certificates db') : Tracks db ids db' ∨ Tracks db (ids ++ [candidate.tenantId]) db' := by
  by_cases hpresent : ∃ tenant ∈ session.database.tenants, tenant.id = candidate.tenantId
  · obtain ⟨tenant, htenant, hid⟩ := hpresent
    rw [← hid] at hc ⊢
    have haccepts := accepts_of_commits (h.consistent hdb) htenant hc
    obtain ⟨certificate, hpurge, -⟩ := commits_purge (h.consistent hdb) htenant haccepts
    rw [(hc.deterministic hpurge).2]
    exact .inr h.purged
  · have habsent : ∀ tenant ∈ session.database.tenants, tenant.id ≠ candidate.tenantId :=
      fun tenant htenant hid => hpresent ⟨tenant, htenant, hid⟩
    rw [purge_of_absent habsent hc]
    exact .inl h

-- The tenants that are skipped, and those of the batch that have not been seen yet, are untouched.
structure Untouched (db : TenantDatabase) (batch : List String) (ids : List String)
    (session : RetentionSession) : Prop where
  tracks  : Tracks db ids session.database
  skipped : ∀ id ∈ session.skipped, id ∈ session.seen ∧ id ∉ ids
  unseen  : ∀ id ∈ batch, id ∉ session.seen → id ∉ ids

theorem untouched_handled {batch : List String} (hdb : db.Consistent)
    (hmem : candidate.tenantId ∈ batch) (hs : ∃ ids, Untouched db batch ids session)
    (h : Handled server config candidate session r session') :
    ∃ ids, Untouched db batch ids session' := by
  obtain ⟨ids, hs⟩ := hs
  cases h with
  | purged hr hunseen hunblocked hpurge hseen hskipped =>
    rcases tracks_of_commits hdb hs.tracks hpurge with htracks | htracks
    · refine ⟨ids, htracks, ?_, ?_⟩
      · intro id hid
        rw [hskipped] at hid
        rw [hseen]
        exact ⟨List.mem_cons_of_mem _ (hs.skipped id hid).1, (hs.skipped id hid).2⟩
      · intro id hid hnot
        rw [hseen, List.mem_cons, not_or] at hnot
        exact hs.unseen id hid hnot.2
    · refine ⟨_, htracks, ?_, ?_⟩
      · intro id hid
        rw [hskipped] at hid
        have hold := hs.skipped id hid
        rw [hseen, List.mem_append, List.mem_singleton, not_or]
        exact ⟨List.mem_cons_of_mem _ hold.1, hold.2, fun heq => hunseen (heq ▸ hold.1)⟩
      · intro id hid hnot
        rw [hseen, List.mem_cons, not_or] at hnot
        rw [List.mem_append, List.mem_singleton, not_or]
        exact ⟨hs.unseen id hid hnot.2, hnot.1⟩
  | skipped hunseen hwhy hdatabase hseen hskipped =>
    refine ⟨ids, hdatabase ▸ hs.tracks, ?_, ?_⟩
    · intro id hid
      rw [hskipped] at hid
      rw [hseen]
      rcases List.mem_cons.mp hid with rfl | hid
      · exact ⟨List.mem_cons_self .., hs.unseen _ hmem hunseen⟩
      · exact ⟨List.mem_cons_of_mem _ (hs.skipped id hid).1, (hs.skipped id hid).2⟩
    · intro id hid hnot
      rw [hseen, List.mem_cons, not_or] at hnot
      exact hs.unseen id hid hnot.2
  | failed hdatabase hseen hskipped =>
    refine ⟨ids, hdatabase ▸ hs.tracks, ?_, ?_⟩
    · intro id hid
      rw [hskipped] at hid
      exact ⟨hseen id (hs.skipped id hid).1, (hs.skipped id hid).2⟩
    · exact fun id hid hnot => hs.unseen id hid fun hseen' => hnot (hseen id hseen')

-- The batch counts the tenants that it skips.
theorem length_skipped (h : (retentionWorker server config).batch items session =
    (.ok skipped, session')) : session'.skipped.length = session.skipped.length + skipped := by
  induction items generalizing session skipped with
  | nil =>
    obtain ⟨hskipped, rfl⟩ := Prod.mk.inj h
    rw [← Except.ok.inj hskipped, Nat.add_zero]
  | cons candidate items ih =>
    obtain ⟨done, session₁, rest, hhandle, hbatch, rfl⟩ := BatchDrain.batch_cons_eq_ok.mp h
    rw [ih hbatch]
    have hcases := handleCandidate_cases hhandle
    generalize hr : Except.ok done = r at hcases
    cases hcases with
    | purged hnot _ _ _ _ hskipped =>
      have hdone : done = true := by
        cases done with
        | true  => rfl
        | false => exact absurd hr.symm hnot
      rw [hskipped, hdone, if_pos rfl]
    | skipped _ _ _ _ hskipped =>
      obtain rfl := Except.ok.inj hr
      rw [hskipped, List.length_cons]
      simp only [Bool.false_eq_true, if_false]
      omega
    | failed => cases hr

-- The tenants that a session lists
def listed (server : RetentionServer) (limit : Nat) (session : RetentionSession) : List TenantRow :=
  (dueTenants (server.clock session.statements) session.database).take limit

def candidateOf (server : RetentionServer) (session : RetentionSession) (tenant : TenantRow) :
    DuePurge :=
  duePurge (server.clock session.statements) session.database tenant

theorem listCandidates_cases {r : Except StoreError (List DuePurge)} {session₁ : RetentionSession}
    (hlimit : 1 ≤ limit ∧ limit ≤ 100) (h : listCandidates server limit session = (r, session₁)) :
    r = .ok ((listed server limit session).map (candidateOf server session)) ∧
      session₁.database = session.database ∧ session₁.seen = [] ∧
      session₁.skipped = session.skipped := by
  have hlist : (listDueTenantPurges (server.clock session.statements) limit).Commits
      session.database ((listed server limit session).map (candidateOf server session))
      session.database := by
    have hbounds : 1 ≤ (limit : Int) ∧ (limit : Int) ≤ 100 := by omega
    have hcommits : (listDueTenantPurges (server.clock session.statements) limit).Commits
        session.database _ session.database := commits_listDueTenantPurges hbounds
    rwa [Int.toNat_natCast] at hcommits
  unfold listCandidates at h
  rw [show _ = _ from hlist] at h
  obtain ⟨rfl, rfl⟩ := Prod.mk.inj h
  exact ⟨rfl, rfl, rfl, rfl⟩

theorem tenantId_candidateOf {tenant : TenantRow} :
    (candidateOf server session tenant).tenantId = tenant.id :=
  rfl

theorem mem_tenants_of_listed {tenant : TenantRow} (h : tenant ∈ listed server limit session) :
    tenant ∈ session.database.tenants :=
  (mem_dueTenants.mp (List.mem_of_mem_take h)).1

-- A tenant that is skipped keeps its rows to the end of the run.
theorem drain_skipped (hdb : db.Consistent) (hs : Tracks db [] session.database)
    (hskipped : session.skipped = []) {batches : Nat} (tenantId : String)
    (hid : tenantId ∈ ((retentionWorker server config).drain config.batchSize batches
      session).2.skipped) :
    ((retentionWorker server config).drain config.batchSize batches
      session).2.database.rowsOf tenantId = db.rowsOf tenantId := by
  let inv (s : RetentionSession) : Prop := (∃ ids, Tracks db ids s.database) ∧ s.skipped = []
  let post (s : RetentionSession) : Prop :=
    ∃ ids, Tracks db ids s.database ∧ ∀ id ∈ s.skipped, id ∉ ids
  suffices hpost : post ((retentionWorker server config).drain config.batchSize batches session).2 by
    obtain ⟨ids, htracks, hnot⟩ := hpost
    exact htracks.rowsOf (hnot tenantId hid)
  have hnone (s : RetentionSession) (ids : List String) (htracks : Tracks db ids s.database)
      (hempty : s.skipped = []) : post s :=
    ⟨ids, htracks, fun id hmem => by rw [hempty] at hmem; cases hmem⟩
  apply BatchDrain.drain_rule inv post
  case hstop =>
    rintro s ⟨⟨ids, htracks⟩, hempty⟩
    exact hnone s ids htracks hempty
  case hlist =>
    rintro s r s₁ ⟨⟨ids, htracks⟩, hempty⟩ hlist
    obtain ⟨-, hdatabase, -, hsame⟩ := listCandidates_cases config.bounds hlist
    exact hnone s₁ ids (hdatabase ▸ htracks) (hsame.trans hempty)
  case hbatch =>
    rintro s items s₁ r s₂ ⟨⟨ids, htracks⟩, hempty⟩ hlist hbatch
    obtain ⟨hitems, hdatabase, hseen, hsame⟩ := listCandidates_cases config.bounds hlist
    obtain rfl := Except.ok.inj hitems
    have hstart : ∃ ids, Untouched db ((listed server config.batchSize s).map (·.id)) ids s₁ := by
      refine ⟨ids, hdatabase ▸ htracks, ?_, ?_⟩
      · intro id hmem
        rw [hsame, hempty] at hmem
        cases hmem
      · intro id hmem _
        obtain ⟨tenant, htenant, rfl⟩ := List.mem_map.mp hmem
        have hpresent := mem_tenants_of_listed htenant
        rw [htracks.tenants] at hpresent
        exact of_decide_eq_true (List.mem_filter.mp hpresent).2
    have hend : ∃ ids, Untouched db ((listed server config.batchSize s).map (·.id)) ids
        ((retentionWorker server config).batch
          ((listed server config.batchSize s).map (candidateOf server s)) s₁).2 := by
      refine BatchDrain.batch_invariant (fun s' => ∃ ids, Untouched db _ ids s') ?_ hstart
      intro item hitem s' hs'
      obtain ⟨tenant, htenant, rfl⟩ := List.mem_map.mp hitem
      have hmem : tenant.id ∈ (listed server config.batchSize s).map (·.id) :=
        List.mem_map_of_mem htenant
      exact untouched_handled hdb hmem hs' (handleCandidate_cases rfl)
    rw [hbatch] at hend
    obtain ⟨ids', hend⟩ := hend
    refine ⟨⟨ids', hend.tracks, fun id hmem => (hend.skipped id hmem).2⟩, ?_⟩
    rintro rfl
    have hlength := length_skipped hbatch
    rw [hsame, hempty] at hlength
    exact ⟨⟨ids', hend.tracks⟩, List.eq_nil_of_length_eq_zero hlength⟩
  case hs => exact ⟨⟨[], hs⟩, hskipped⟩

end Steps

end RefundDesk.Retention
