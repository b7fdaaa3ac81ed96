import RefundDesk.Retention.Agreement

namespace RefundDesk.Retention

section Locality

variable {db db' : TenantDatabase} {tenant : TenantRow} {tenantId : String}

-- What is said of the rows of an owner is said of them alone.
theorem any_owned {ρ : Type} {rows : List ρ} {owner : ρ → String} {p : ρ → Prop}
    [DecidablePred p] :
    (rows.any fun row => owner row = tenantId ∧ p row) =
      (rows.filter fun row => owner row = tenantId).any fun row => p row := by
  simp [List.any_filter]

section Rows

variable (h : db'.rowsOf tenantId = db.rowsOf tenantId)

include h

theorem requests_congr : db'.refundRequests.filter (·.tenantId = tenantId) =
    db.refundRequests.filter (·.tenantId = tenantId) :=
  congrArg TenantDatabase.refundRequests h

theorem installations_congr : db'.installationsOf tenantId = db.installationsOf tenantId :=
  congrArg TenantDatabase.stripeInstallations h

theorem receipts_congr : db'.webhookReceipts.filter (·.tenantId = tenantId) =
    db.webhookReceipts.filter (·.tenantId = tenantId) :=
  congrArg TenantDatabase.webhookReceipts h

-- Nothing that blocks the purge of a tenant is outside its rows.
theorem blockerReason_congr (hid : tenant.id = tenantId) :
    blockerReason db' tenant = blockerReason db tenant := by
  have hattempts := congrArg TenantDatabase.refundExecutionAttempts h
  have hcandidates := congrArg TenantDatabase.refundCorrelationCandidates h
  have hcheckpoints := congrArg TenantDatabase.reconciliationCheckpoints h
  simp only [TenantDatabase.rowsOf] at hattempts hcandidates hcheckpoints
  rw [← hid] at h hattempts hcandidates hcheckpoints
  have huninstalled : db'.uninstalledAt tenant.id = db.uninstalledAt tenant.id := by
    rw [TenantDatabase.uninstalledAt, TenantDatabase.uninstalledAt, installations_congr h]
  have hfinancial : db'.hasFinancialState tenant.id = db.hasFinancialState tenant.id := by
    rw [TenantDatabase.hasFinancialState, TenantDatabase.hasFinancialState, any_owned, any_owned,
      requests_congr h]
  have hattempt : db'.hasStartedAttempt tenant.id = db.hasStartedAttempt tenant.id := by
    rw [TenantDatabase.hasStartedAttempt, TenantDatabase.hasStartedAttempt, any_owned, any_owned,
      hattempts]
  have hcandidate : db'.hasOpenCandidate tenant.id = db.hasOpenCandidate tenant.id := by
    rw [TenantDatabase.hasOpenCandidate, TenantDatabase.hasOpenCandidate, any_owned, any_owned,
      hcandidates]
  have hevent : db'.hasUnprocessedRefundEvent tenant.id =
      db.hasUnprocessedRefundEvent tenant.id := by
    rw [TenantDatabase.hasUnprocessedRefundEvent, TenantDatabase.hasUnprocessedRefundEvent,
      any_owned, any_owned, receipts_congr h]
  have hpage : db'.hasPageInProgress tenant.id = db.hasPageInProgress tenant.id := by
    rw [TenantDatabase.hasPageInProgress, TenantDatabase.hasPageInProgress, any_owned, any_owned,
      hcheckpoints]
  unfold blockerReason
  rw [installations_congr h, huninstalled, hfinancial, hattempt, hcandidate, hevent, hpage]

-- Whether a job belongs to a tenant, and whether it can be deleted with it, is told from the rows
-- of the tenant.
theorem job_congr (job : PgbossJob) : isMatched db' tenantId job = isMatched db tenantId job ∧
    isUnsafe db' tenantId job = isUnsafe db tenantId job := by
  have hinstallations := installations_congr h
  simp only [TenantDatabase.installationsOf] at hinstallations
  have hrequest : hasRequest db' tenantId job = hasRequest db tenantId job := by
    rw [hasRequest, hasRequest, any_owned, any_owned, requests_congr h]
  have hinstallation : hasInstallation db' tenantId job = hasInstallation db tenantId job := by
    rw [hasInstallation, hasInstallation, any_owned, any_owned, hinstallations]
  have hreceipt : hasReceipt db' tenantId job = hasReceipt db tenantId job := by
    rw [hasReceipt, hasReceipt, any_owned, any_owned, receipts_congr h]
  have hboth : hasInstallationReceipt db' tenantId job =
      hasInstallationReceipt db tenantId job := by
    rw [hasInstallationReceipt, hasInstallationReceipt, any_owned, any_owned, receipts_congr h]
  constructor
  · rw [isMatched, isMatched, hrequest, hinstallation, hreceipt]
  · rw [isUnsafe, isUnsafe, isExecuteJob, isExecuteJob, isWebhookJob, isWebhookJob, hrequest,
      hinstallation, hboth]

end Rows

-- The function refuses the tenant for its jobs.
def Refused (db : TenantDatabase) (tenantId : String) : Prop :=
  ∃ pgboss, db.pgboss = some pgboss ∧ pgboss.versions = [37] ∧ ¬JobsClear db tenantId pgboss

-- The jobs of a tenant stay clear when jobs of others go.
theorem JobsClear.mono {pgboss : PgbossSchema} {jobs : List PgbossJob}
    (hclear : JobsClear db tenantId pgboss) (h : db'.rowsOf tenantId = db.rowsOf tenantId)
    (hjobs : ∀ job ∈ jobs, job ∈ pgboss.jobs) :
    JobsClear db' tenantId { pgboss with jobs := jobs } := by
  have hmatched : ∀ job ∈ matchedJobs db' { pgboss with jobs := jobs } tenantId,
      job ∈ matchedJobs db pgboss tenantId := by
    intro job hjob
    have hmem := List.mem_filter.mp hjob
    rw [(job_congr h job).1] at hmem
    exact List.mem_filter.mpr ⟨hjobs job hmem.1, hmem.2⟩
  refine ⟨hclear.versions, ?_, ?_⟩
  · intro job hjob
    rw [(job_congr h job).2]
    exact hclear.jobs job (hmatched job hjob)
  · intro dependency hdependency
    have hfree := hclear.dependencies dependency hdependency
    simp only [isDependent, List.any_eq_false] at hfree ⊢
    exact fun job hjob => hfree job (hmatched job hjob)

end Locality

section Cleared

variable {db : TenantDatabase} {tenant : TenantRow} {tenantId other : String} {ids : List String}

-- The database without the rows and the jobs of a tenant.
def cleared (db : TenantDatabase) (tenantId : String) : TenantDatabase :=
  { db.without tenantId with pgboss := db.pgboss.map (remainingJobs db tenantId) }

def clearedAll (db : TenantDatabase) (ids : List String) : TenantDatabase :=
  ids.foldl cleared db

theorem clearedAll_append {ids' : List String} :
    clearedAll db (ids ++ ids') = clearedAll (clearedAll db ids) ids' :=
  List.foldl_append ..

theorem tenants_clearedAll :
    (clearedAll db ids).tenants = db.tenants.filter (·.id ∉ ids) := by
  induction ids generalizing db with
  | nil           => simp [clearedAll]
  | cons id ids ih =>
    rw [show clearedAll db (id :: ids) = clearedAll (cleared db id) ids from rfl, ih]
    simp only [cleared, TenantDatabase.without, List.filter_filter, List.mem_cons, not_or,
      Bool.decide_and]
    exact List.filter_congr fun tenant _ => Bool.and_comm _ _

theorem rowsOf_clearedAll (h : tenantId ∉ ids) :
    (clearedAll db ids).rowsOf tenantId = db.rowsOf tenantId := by
  induction ids generalizing db with
  | nil           => rfl
  | cons id ids ih =>
    rw [List.mem_cons, not_or] at h
    rw [show clearedAll db (id :: ids) = clearedAll (cleared db id) ids from rfl, ih h.2]
    exact TenantDatabase.rowsOf_without_of_ne h.1

theorem rowsOf_clearedAll_of_mem (h : tenantId ∈ ids) :
    (clearedAll db ids).rowsOf tenantId = .empty := by
  induction ids generalizing db with
  | nil           => cases h
  | cons id ids ih =>
    rw [show clearedAll db (id :: ids) = clearedAll (cleared db id) ids from rfl]
    by_cases hmem : tenantId ∈ ids
    · exact ih hmem
    · rw [rowsOf_clearedAll hmem]
      obtain rfl : tenantId = id := (List.mem_cons.mp h).resolve_right hmem
      exact TenantDatabase.rowsOf_without

-- Of the jobs some are left.
theorem pgboss_clearedAll {pgboss : PgbossSchema} (h : db.pgboss = some pgboss) :
    ∃ jobs, (clearedAll db ids).pgboss = some { pgboss with jobs := jobs } ∧
      ∀ job ∈ jobs, job ∈ pgboss.jobs := by
  induction ids generalizing db pgboss with
  | nil           => exact ⟨pgboss.jobs, h, fun _ hjob => hjob⟩
  | cons id ids ih =>
    have hcleared : (cleared db id).pgboss = some (remainingJobs db id pgboss) := by
      rw [cleared, h]
      rfl
    obtain ⟨jobs, hjobs, hsub⟩ := ih hcleared
    exact ⟨jobs, hjobs, fun job hjob => (List.mem_filter.mp (hsub job hjob)).1⟩

-- A tenant that is accepted is not refused when others have been purged.
theorem not_refused_clearedAll {pgboss : PgbossSchema} (hid : tenantId ∉ ids)
    (h : db.pgboss = some pgboss) (hclear : JobsClear db tenantId pgboss) :
    ¬Refused (clearedAll db ids) tenantId := by
  rintro ⟨pgboss', h', -, hunclear⟩
  obtain ⟨jobs, hjobs, hsub⟩ : ∃ jobs, (clearedAll db ids).pgboss = _ ∧ _ := pgboss_clearedAll h
  obtain rfl := Option.some.inj (h'.symm.trans hjobs)
  exact hunclear (hclear.mono (rowsOf_clearedAll hid) hsub)

theorem Consistent.cleared (h : db.Consistent) : (cleared db tenantId).Consistent where
  tenants      := (h.tenants.sublist (List.filter_sublist.map _))
  attestations := by
    intro row hrow
    have hkept := List.mem_filter.mp hrow
    obtain ⟨request, hrequest, hattests⟩ := h.attestations row hkept.1
    refine ⟨request, List.mem_filter.mpr ⟨hrequest, ?_⟩, hattests⟩
    have htenant : row.tenantId = request.tenantId := (of_decide_eq_true hattests).2.1
    rw [← htenant]
    exact hkept.2
  owners       := by
    intro id habsent
    by_cases hid : id = tenantId
    · rw [hid]
      exact TenantDatabase.rowsOf_without
    · refine (TenantDatabase.rowsOf_without_of_ne hid).trans (h.owners id ?_)
      intro tenant htenant heq
      refine habsent tenant (List.mem_filter.mpr ⟨htenant, ?_⟩) heq
      simpa [heq] using hid

theorem Consistent.clearedAll (h : db.Consistent) : (clearedAll db ids).Consistent := by
  induction ids generalizing db with
  | nil           => exact h
  | cons id ids ih => exact ih (Consistent.cleared h)

end Cleared

end RefundDesk.Retention
