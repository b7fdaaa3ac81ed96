import RefundDesk.Retention.PurgeSpecs

namespace RefundDesk.Retention

open Transaction

section Agreement

variable {db db' : TenantDatabase} {tenant : TenantRow} {now : Timestamp}
  {certificateId tenantId pseudonym : String} {certificates : List PurgeCertificate}

-- The database when the tenant is purged: its jobs and its alerts have been deleted before.
def prepared (db : TenantDatabase) (tenantId : String) (pgboss : PgbossSchema) :
    TenantDatabase :=
  { db with
    pgboss               := some (remainingJobs db tenantId pgboss)
    externalRefundAlerts := db.externalRefundAlerts.filter (·.tenantId ≠ tenantId)
  }

theorem assertPurgeable_prepared {pgboss : PgbossSchema} {uninstalledAt : Timestamp} :
    assertPurgeable (prepared db tenant.id pgboss) now tenant = .ok uninstalledAt ↔
      isDue now tenant ∧ tenant.legalHoldAt = none ∧ Uninstalled db tenant uninstalledAt ∧
        Settled db tenant.id := by
  have halerts : ((prepared db tenant.id pgboss).externalRefundAlerts.any fun alert =>
      alert.tenantId = tenant.id ∧ alert.classification ∈ [.external, .tampered, .proofReplay] ∧
        alert.reconciledAt = none) = false :=
    any_filter_ne fun alert h => by
      simp only [decide_eq_true_eq] at h
      exact h.1
  rw [assertPurgeable_eq_ok, halerts]
  constructor
  · rintro ⟨hdue, hheld, ⟨h₁, h₂, h₃, h₄⟩, ⟨h₅, h₆, h₇, h₈, h₉⟩, -⟩
    exact ⟨hdue, hheld, ⟨h₁, h₂, h₃, h₄⟩, ⟨h₅, h₆, h₇, h₈, h₉⟩⟩
  · rintro ⟨hdue, hheld, ⟨h₁, h₂, h₃, h₄⟩, ⟨h₅, h₆, h₇, h₈, h₉⟩⟩
    exact ⟨hdue, hheld, ⟨h₁, h₂, h₃, h₄⟩, ⟨h₅, h₆, h₇, h₈, h₉⟩, Bool.false_ne_true⟩

theorem without_prepared {pgboss : PgbossSchema} :
    (prepared db tenantId pgboss).without tenantId =
      { db.without tenantId with pgboss := some (remainingJobs db tenantId pgboss) } := by
  simp [prepared, TenantDatabase.without, List.filter_filter]

-- The session in which `purgeTenant` runs.
def preparedSession (db : TenantDatabase) (tenantId : String) (pgboss : PgbossSchema) :
    PurgeSession where
  database                 := prepared db tenantId pgboss
  purgeTenantId            := some tenantId
  purgedExternalAlertCount :=
    some (db.externalRefundAlerts.filter (·.tenantId = tenantId)).length
  purgedQueuedJobCount     := some (matchedJobs db pgboss tenantId).length

theorem commits_purgeTestSandboxTenant {session' : PurgeSession} (htenant : tenant ∈ db.tenants) :
    (purgeTestSandboxTenant now certificateId tenant.id pseudonym).Commits { database := db }
        certificates session' ↔
      isTenantPseudonym pseudonym ∧ db.installationsOf tenant.id ≠ [] ∧
      (∀ row ∈ db.installationsOf tenant.id, row.environment ∈ [.test, .sandbox]) ∧
      ∃ pgboss, db.pgboss = some pgboss ∧ JobsClear db tenant.id pgboss ∧
        ∃ after, (purgeTenant now certificateId tenant.id pseudonym).Commits
            (preparedSession db tenant.id pgboss) certificates after ∧
          session' = { after with purgeTenantId := none } := by
  have hpresent : ¬(db.tenants.any (·.id = tenant.id)) = false := by
    rw [Bool.not_eq_false, List.any_eq_true]
    exact ⟨tenant, htenant, decide_eq_true rfl⟩
  have hdelete (pgboss : PgbossSchema) : ∃ after, (externalRefundAlerts.delete tenant.id).Commits
      { database      := { db with pgboss := some (remainingJobs db tenant.id pgboss) },
        purgeTenantId := some tenant.id }
      (db.externalRefundAlerts.filter (·.tenantId = tenant.id)).length after ∧
      after.purgeTenantId = some tenant.id ∧
      after = externalRefundAlerts.deleted tenant.id
        { database      := { db with pgboss := some (remainingJobs db tenant.id pgboss) },
          purgeTenantId := some tenant.id } :=
    commits_delete rfl fun row _ => rfl
  unfold purgeTestSandboxTenant
  simp only [commits_bind, commits_require, commits_get]
  constructor
  · rintro ⟨_, _, ⟨hpseudonym, rfl⟩, _, _, ⟨rfl, rfl⟩, hc⟩
    rw [if_neg hpresent] at hc
    simp only [commits_bind, commits_require, commits_get, commits_modify, commits_pure,
      commits_deletePgbossJobs] at hc
    obtain ⟨_, _, ⟨⟨hinstalled, henvironment⟩, rfl⟩, _, _, ⟨pgboss, hpgboss, hclear, rfl, rfl⟩,
      _, _, ⟨rfl, rfl⟩, _, _, rfl, _, _, halerts, _, _, rfl, _, _, hc, _, _, rfl, rfl, rfl⟩ := hc
    obtain ⟨_, hdelete, -, rfl⟩ := hdelete pgboss
    obtain ⟨rfl, rfl⟩ := halerts.deterministic hdelete
    exact ⟨hpseudonym, hinstalled, henvironment, pgboss, hpgboss, hclear, _, hc, rfl⟩
  · rintro ⟨hpseudonym, hinstalled, henvironment, pgboss, hpgboss, hclear, after, hc, rfl⟩
    obtain ⟨_, hdelete, -, rfl⟩ := hdelete pgboss
    refine ⟨(), _, ⟨hpseudonym, rfl⟩, _, _, ⟨rfl, rfl⟩, ?_⟩
    rw [if_neg hpresent]
    simp only [commits_bind, commits_require, commits_get, commits_modify, commits_pure,
      commits_deletePgbossJobs]
    exact ⟨(), _, ⟨⟨hinstalled, henvironment⟩, rfl⟩, _, _, ⟨pgboss, hpgboss, hclear, rfl, rfl⟩,
      _, _, ⟨rfl, rfl⟩, (), _, rfl, _, _, hdelete, (), _, rfl, _, _, hc, (), _, rfl, rfl, rfl⟩

-- The purge of a tenant that it accepts.
theorem commits_purge (hconsistent : db.Consistent) (htenant : tenant ∈ db.tenants)
    (haccepts : Accepts now pseudonym db tenant) :
    ∃ certificate, (purge now certificateId tenant.id pseudonym).Commits db [certificate]
        (purged db tenant.id certificate) ∧ certificate.tenantPseudonym = pseudonym := by
  obtain ⟨pgboss, hpgboss, hclear⟩ := haccepts.jobs
  obtain ⟨hheld, ⟨uninstalledAt, huninstalled⟩, henvironment, hsettled⟩ :=
    blockerReason_eq_none.mp haccepts.unblocked
  have hpurgeable : assertPurgeable (prepared db tenant.id pgboss) now tenant =
      .ok uninstalledAt :=
    assertPurgeable_prepared.mpr ⟨haccepts.due, hheld, huninstalled, hsettled⟩
  have hcertifiable : Certifiable (prepared db tenant.id pgboss) pseudonym uninstalledAt now :=
    haccepts.certifiable uninstalledAt huninstalled.latest
  obtain ⟨certificate, after, hc, hname, hdatabase⟩ : ∃ certificate after,
      (purgeTenant now certificateId tenant.id pseudonym).Commits
        (preparedSession db tenant.id pgboss) [certificate] after ∧ _ :=
    commits_purgeTenant haccepts.valid hconsistent.tenants hconsistent.attestations htenant
      hpurgeable hcertifiable
  refine ⟨certificate, ?_, hname⟩
  rw [purge, commits_onField]
  refine ⟨{ after with purgeTenantId := none }, (commits_purgeTestSandboxTenant htenant).mpr
    ⟨haccepts.valid, huninstalled.installed, henvironment, pgboss, hpgboss, hclear, after, hc,
      rfl⟩, ?_⟩
  rw [hdatabase]
  simp only [preparedSession, without_prepared, purged, hpgboss, Option.map_some]
  rfl

theorem accepts_of_commits (hconsistent : db.Consistent) (htenant : tenant ∈ db.tenants)
    (hc : (purge now certificateId tenant.id pseudonym).Commits db certificates db') :
    Accepts now pseudonym db tenant := by
  obtain ⟨session', hc, -⟩ := commits_onField.mp hc
  obtain ⟨hpseudonym, -, henvironment, pgboss, hpgboss, hclear, after, hc, -⟩ :=
    (commits_purgeTestSandboxTenant htenant).mp hc
  obtain ⟨-, uninstalledAt, hpurgeable, hcertifiable⟩ :=
    purgeable_of_commits hconsistent.tenants hconsistent.attestations htenant hc
  obtain ⟨hdue, hheld, huninstalled, hsettled⟩ := assertPurgeable_prepared.mp hpurgeable
  refine ⟨hpseudonym, ⟨pgboss, hpgboss, hclear⟩, hdue, ?_, ?_⟩
  · exact blockerReason_eq_none.mpr ⟨hheld, ⟨uninstalledAt, huninstalled⟩, henvironment, hsettled⟩
  · intro time htime
    obtain rfl := Option.some.inj (huninstalled.latest.symm.trans htime)
    exact hcertifiable

-- The purge of a tenant that is not there any more returns its certificate.
theorem purge_of_absent (htenant : ∀ tenant ∈ db.tenants, tenant.id ≠ tenantId)
    (hc : (purge now certificateId tenantId pseudonym).Commits db certificates db') :
    db' = db := by
  have habsent : (db.tenants.any (·.id = tenantId)) = false := by
    simpa using htenant
  have hfind : db.tenants.find? (·.id = tenantId) = none := by
    simpa using htenant
  obtain ⟨session', hpurge, rfl⟩ := commits_onField.mp hc
  simp only [purgeTestSandboxTenant, commits_bind, commits_require, commits_get] at hpurge
  obtain ⟨_, _, ⟨-, rfl⟩, _, _, ⟨rfl, rfl⟩, hpurge⟩ := hpurge
  rw [if_pos habsent] at hpurge
  simp only [purgeTenant, commits_bind, commits_require, commits_get] at hpurge
  obtain ⟨_, _, ⟨-, rfl⟩, _, _, ⟨rfl, rfl⟩, hpurge⟩ := hpurge
  rw [hfind] at hpurge
  dsimp only at hpurge
  split at hpurge
  · exact (not_commits_throw hpurge).elim
  · obtain ⟨-, rfl⟩ := commits_pure.mp hpurge
    rfl

theorem rowsOf_purged {certificate : PurgeCertificate} {other : String} :
    (purged db tenantId certificate).rowsOf other = (db.without tenantId).rowsOf other :=
  rfl

-- A purge removes every row of its tenant, and no row of another.
theorem rowsOf_of_commits (hconsistent : db.Consistent)
    (hc : (purge now certificateId tenantId pseudonym).Commits db certificates db') :
    db'.rowsOf tenantId = .empty ∧ ∀ other ≠ tenantId, db'.rowsOf other = db.rowsOf other := by
  by_cases h : ∃ tenant ∈ db.tenants, tenant.id = tenantId
  · obtain ⟨tenant, htenant, rfl⟩ := h
    obtain ⟨certificate, hpurge, -⟩ :=
      commits_purge hconsistent htenant (accepts_of_commits hconsistent htenant hc)
    obtain ⟨-, rfl⟩ := hc.deterministic hpurge
    refine ⟨?_, fun other hother => ?_⟩
    · rw [rowsOf_purged, TenantDatabase.rowsOf_without]
    · rw [rowsOf_purged, TenantDatabase.rowsOf_without_of_ne hother]
  · have habsent : ∀ tenant ∈ db.tenants, tenant.id ≠ tenantId :=
      fun tenant htenant hid => h ⟨tenant, htenant, hid⟩
    obtain rfl := purge_of_absent habsent hc
    exact ⟨hconsistent.owners tenantId habsent, fun _ _ => rfl⟩

end Agreement

section Listing

variable {db db' : TenantDatabase} {tenant : TenantRow} {now : Timestamp} {limit : Int}
  {certificateId tenantId pseudonym : String} {pgboss : PgbossSchema}

theorem mem_dueTenants : tenant ∈ dueTenants now db ↔ tenant ∈ db.tenants ∧ isDue now tenant := by
  rw [dueTenants, List.mem_insertionSort, List.mem_filter]

theorem commits_listDueTenantPurges (hlimit : 1 ≤ limit ∧ limit ≤ 100) :
    (listDueTenantPurges now limit).Commits db
      (((dueTenants now db).take limit.toNat).map (duePurge now db)) db := by
  simp only [listDueTenantPurges, commits_bind, commits_require, commits_get, commits_pure]
  exact ⟨(), _, ⟨hlimit, rfl⟩, _, _, ⟨rfl, rfl⟩, rfl, rfl⟩

-- A tenant is listed without a blocker if it comes among the first ones.
theorem mem_listed (hnodup : (db.tenants.map (·.id)).Nodup) (htenant : tenant ∈ db.tenants) :
    (∃ overdue, ⟨tenant.id, none, overdue⟩ ∈
        ((dueTenants now db).take limit.toNat).map (duePurge now db)) ↔
      tenant ∈ (dueTenants now db).take limit.toNat ∧ blockerReason db tenant = none := by
  constructor
  · rintro ⟨overdue, hmem⟩
    obtain ⟨listed, hlisted, heq⟩ := List.mem_map.mp hmem
    have hdue := mem_dueTenants.mp (List.mem_of_mem_take hlisted)
    have hid : listed.id = tenant.id := congrArg DuePurge.tenantId heq
    obtain rfl : listed = tenant := List.inj_on_of_nodup_map hnodup hdue.1 htenant hid
    exact ⟨hlisted, congrArg DuePurge.blockerReason heq⟩
  · rintro ⟨hlisted, hunblocked⟩
    refine ⟨overdueSeconds now tenant, List.mem_map.mpr ⟨tenant, hlisted, ?_⟩⟩
    rw [duePurge, hunblocked]

-- Without jobs of the tenant nothing of pg-boss stands in the way of its purge.
theorem jobsClear_of_unmatched (hversions : pgboss.versions = [37])
    (hjobs : ∀ job ∈ pgboss.jobs, isMatched db tenantId job = false) :
    JobsClear db tenantId pgboss := by
  have hmatched : matchedJobs db pgboss tenantId = [] :=
    List.filter_eq_nil_iff.mpr fun job hjob => by simp [hjobs job hjob]
  refine ⟨hversions, ?_, ?_⟩
  · rw [hmatched]
    simp
  · rw [hmatched]
    simp [isDependent]

-- The listing reports a tenant without a blocker, and its certificate can be inserted, exactly if
-- the purge completes and the tenant is among the first ones that are due.
theorem purge_agreement (hconsistent : db.Consistent) (hpseudonym : isTenantPseudonym pseudonym)
    (hlimit : 1 ≤ limit ∧ limit ≤ 100) (hpgboss : db.pgboss = some pgboss)
    (hversions : pgboss.versions = [37])
    (hjobs : ∀ job ∈ pgboss.jobs, isMatched db tenantId job = false) :
    ∃ page, (listDueTenantPurges now limit).Commits db page db ∧
      (∀ tenant ∈ db.tenants, tenant.id = tenantId →
        ((∃ overdue, ⟨tenantId, none, overdue⟩ ∈ page) ∧
            (∀ uninstalledAt ∈ db.uninstalledAt tenantId,
              Certifiable db pseudonym uninstalledAt now) ↔
          (∃ certificates db', (purge now certificateId tenantId pseudonym).Commits db
              certificates db') ∧ tenant ∈ (dueTenants now db).take limit.toNat)) ∧
      ∀ certificates db',
        (purge now certificateId tenantId pseudonym).Commits db certificates db' →
        db'.rowsOf tenantId = .empty ∧ ∀ other ≠ tenantId, db'.rowsOf other = db.rowsOf other := by
  refine ⟨_, commits_listDueTenantPurges hlimit, ?_,
    fun certificates db' hc => rowsOf_of_commits hconsistent hc⟩
  rintro tenant htenant rfl
  rw [mem_listed hconsistent.tenants htenant]
  constructor
  · rintro ⟨⟨hlisted, hunblocked⟩, hcertifiable⟩
    have hdue := (mem_dueTenants.mp (List.mem_of_mem_take hlisted)).2
    obtain ⟨certificate, hc, -⟩ := commits_purge hconsistent htenant
      ⟨hpseudonym, ⟨pgboss, hpgboss, jobsClear_of_unmatched hversions hjobs⟩, hdue, hunblocked,
        hcertifiable⟩
    exact ⟨⟨_, _, hc⟩, hlisted⟩
  · rintro ⟨⟨certificates, db', hc⟩, hlisted⟩
    have haccepts := accepts_of_commits hconsistent htenant hc
    exact ⟨⟨hlisted, haccepts.unblocked⟩, haccepts.certifiable⟩

end Listing

end RefundDesk.Retention

namespace RefundDesk.Pilot

open Retention

-- A tenant that is due at the given time, with an account that has uninstalled the application.
def dueTenant (id : String) (pendingDeleteAt : Timestamp) : TenantRow where
  id
  status          := .pendingDeletion
  liveEnabled     := false
  pendingDeleteAt := some pendingDeleteAt
  legalHoldAt     := none

def uninstalled (tenantId : String) (deauthorizedAt : Timestamp) : InstallationRow where
  id              := tenantId ++ "-installation"
  tenantId
  stripeAccountId := "acct_" ++ tenantId
  environment     := .test
  status          := .deauthorized
  deauthorizedAt  := some deauthorizedAt

def retained (tenants : List TenantRow) (installations : List InstallationRow)
    (jobs : List PgbossJob) : TenantDatabase :=
  { TenantDatabase.empty with
    tenants
    stripeInstallations := installations
    pgboss              := some { versions := [37], jobs, dependencies := [] }
  }

def pseudonym : String :=
  "v1.AAAAAAAAAAAAAAAAAAAAAAAAAAAAAAAAAAAAAAAAAAA"

theorem retained_consistent {tenants : List TenantRow} {installations : List InstallationRow}
    {jobs : List PgbossJob} (htenants : (tenants.map (·.id)).Nodup)
    (howners : ∀ row ∈ installations, ∃ tenant ∈ tenants, tenant.id = row.tenantId) :
    (retained tenants installations jobs).Consistent where
  tenants      := htenants
  attestations := by simp [retained, TenantDatabase.empty]
  owners       := by
    intro tenantId habsent
    have hnone : tenants.filter (·.id = tenantId) = [] := by
      simpa [List.filter_eq_nil_iff, retained] using habsent
    have hinstallations : installations.filter (·.tenantId = tenantId) = [] := by
      rw [List.filter_eq_nil_iff]
      intro row hrow
      obtain ⟨tenant, htenant, hid⟩ := howners row hrow
      simpa [← hid] using habsent tenant htenant
    simp [TenantDatabase.rowsOf, retained, TenantDatabase.empty, hnone, hinstallations]

end RefundDesk.Pilot

namespace RefundDesk.Retention

theorem purge_agreement_due :
    ∃ certificates db', (purge 5 "c" "t" Pilot.pseudonym).Commits
        (Pilot.retained [Pilot.dueTenant "t" 3] [Pilot.uninstalled "t" 1] []) certificates db' ∧
      db'.rowsOf "t" = .empty := by
  obtain ⟨page, hpage, hagree, hrows⟩ :
      ∃ page, (listDueTenantPurges 5 100).Commits _ page _ ∧ _ := purge_agreement
    (Pilot.retained_consistent (by decide) (by decide) :
      (Pilot.retained [Pilot.dueTenant "t" 3] [Pilot.uninstalled "t" 1] []).Consistent)
    (by decide +kernel : isTenantPseudonym Pilot.pseudonym)
    (by decide : (1 : Int) ≤ 100 ∧ (100 : Int) ≤ 100) rfl rfl (by simp)
  obtain ⟨rfl, -⟩ := hpage.deterministic (commits_listDueTenantPurges (by decide))
  have hcertifiable (uninstalledAt : Timestamp)
      (h : uninstalledAt ∈ (Pilot.retained [Pilot.dueTenant "t" 3] [Pilot.uninstalled "t" 1]
        []).uninstalledAt "t") :
      Certifiable (Pilot.retained [Pilot.dueTenant "t" 3] [Pilot.uninstalled "t" 1] [])
        Pilot.pseudonym uninstalledAt 5 := by
    obtain rfl := Option.some.inj h
    exact ⟨by decide, fun _ hrow => nomatch hrow⟩
  obtain ⟨⟨certificates, db', hc⟩, -⟩ := (hagree (Pilot.dueTenant "t" 3) (.head _) rfl).mp
    ⟨⟨0, .head _⟩, hcertifiable⟩
  exact ⟨certificates, db', hc, (hrows certificates db' hc).1⟩

-- The listing does not compare the time of the deauthorization with the clock.
theorem purge_agreement_counterexample :
    ¬∀ (db : TenantDatabase) (pgboss : PgbossSchema) (tenant : TenantRow) (now : Timestamp)
      (limit : Int) (certificateId pseudonym : String) (page : List DuePurge),
      db.Consistent → isTenantPseudonym pseudonym → tenant ∈ db.tenants → isDue now tenant →
      db.pgboss = some pgboss → pgboss.versions = [37] →
      (∀ job ∈ pgboss.jobs, isMatched db tenant.id job = false) →
      (listDueTenantPurges now limit).Commits db page db →
      ((∃ overdue, ⟨tenant.id, none, overdue⟩ ∈ page) ↔
        ∃ certificates db',
          (purge now certificateId tenant.id pseudonym).Commits db certificates db') := by
  intro h
  have hconsistent :
      (Pilot.retained [Pilot.dueTenant "t" 3] [Pilot.uninstalled "t" 9] []).Consistent :=
    Pilot.retained_consistent (by decide) (by decide)
  obtain ⟨certificates, db', hc⟩ := (h _ _ (Pilot.dueTenant "t" 3) 5 100 "c" Pilot.pseudonym
    [⟨"t", none, 0⟩] hconsistent (by decide +kernel) (.head _) (by decide) rfl rfl (by simp)
    (commits_listDueTenantPurges (by decide))).mp ⟨0, by simp [Pilot.dueTenant]⟩
  have haccepts := accepts_of_commits hconsistent (.head _) hc
  exact absurd (haccepts.certifiable 9 (by decide)).1 (by decide)

end RefundDesk.Retention
