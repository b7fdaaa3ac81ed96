import RefundDesk.Retention.Purge

namespace RefundDesk

open Transaction

namespace TenantDatabase

def empty : TenantDatabase where
  tenants                     := []
  stripeInstallations         := []
  tenantUsers                 := []
  approvalPolicies            := []
  refundRequests              := []
  approvalAttestations        := []
  approvalDecisions           := []
  refundExecutions            := []
  refundExecutionAttempts     := []
  refundCorrelationCandidates := []
  webhookReceipts             := []
  externalRefundAlerts        := []
  auditEvents                 := []
  apiMutationReceipts         := []
  reconciliationCheckpoints   := []
  purgeCertificates           := []
  pgboss                      := none

-- The rows of one tenant.
def rowsOf (db : TenantDatabase) (tenantId : String) : TenantDatabase where
  tenants                     := db.tenants.filter (·.id = tenantId)
  stripeInstallations         := db.stripeInstallations.filter (·.tenantId = tenantId)
  tenantUsers                 := db.tenantUsers.filter (·.tenantId = tenantId)
  approvalPolicies            := db.approvalPolicies.filter (·.tenantId = tenantId)
  refundRequests              := db.refundRequests.filter (·.tenantId = tenantId)
  approvalAttestations        := db.approvalAttestations.filter (·.tenantId = tenantId)
  approvalDecisions           := db.approvalDecisions.filter (·.tenantId = tenantId)
  refundExecutions            := db.refundExecutions.filter (·.tenantId = tenantId)
  refundExecutionAttempts     := db.refundExecutionAttempts.filter (·.tenantId = tenantId)
  refundCorrelationCandidates := db.refundCorrelationCandidates.filter (·.tenantId = tenantId)
  webhookReceipts             := db.webhookReceipts.filter (·.tenantId = tenantId)
  externalRefundAlerts        := db.externalRefundAlerts.filter (·.tenantId = tenantId)
  auditEvents                 := db.auditEvents.filter (·.tenantId = tenantId)
  apiMutationReceipts         := db.apiMutationReceipts.filter (·.tenantId = tenantId)
  reconciliationCheckpoints   := db.reconciliationCheckpoints.filter (·.tenantId = tenantId)
  purgeCertificates           := []
  pgboss                      := none

section Rows

variable {db : TenantDatabase} {tenantId other : String}

@[simp]
theorem rowsOf_without : (db.without tenantId).rowsOf tenantId = empty := by
  simp [rowsOf, without, empty, List.filter_filter]

theorem rowsOf_without_of_ne (h : other ≠ tenantId) :
    (db.without tenantId).rowsOf other = db.rowsOf other := by
  have both (id : String) : (decide (id = other) && decide (id ≠ tenantId)) = decide (id = other) := by
    by_cases hid : id = other <;> simp [hid, h]
  simp only [rowsOf, without, List.filter_filter, both]

end Rows

-- What the keys of the tables promise.
structure Consistent (db : TenantDatabase) : Prop where
  tenants      : (db.tenants.map (·.id)).Nodup
  attestations : ∀ row ∈ db.approvalAttestations,
    ∃ request ∈ db.refundRequests, Retention.attests row request
  owners       : ∀ tenantId, (∀ tenant ∈ db.tenants, tenant.id ≠ tenantId) →
    db.rowsOf tenantId = empty

end TenantDatabase

namespace Retention

section Deletion

variable {ρ : Type} {table : OwnedTable ρ} {session session' : PurgeSession} {tenantId : String}
  {n : Nat}

-- The session after the rows of a tenant are deleted from a table.
def OwnedTable.deleted (table : OwnedTable ρ) (tenantId : String) (session : PurgeSession) :
    PurgeSession :=
  { session with
    database := table.withRows session.database
      ((table.rows session.database).filter (table.tenantId · ≠ tenantId))
  }

theorem deleted_apiMutationReceipts :
    apiMutationReceipts.deleted tenantId session = { session with
      database := { session.database with
        apiMutationReceipts :=
          session.database.apiMutationReceipts.filter (·.tenantId ≠ tenantId)
      }
    } :=
  rfl

theorem deleted_webhookReceipts :
    webhookReceipts.deleted tenantId session = { session with
      database := { session.database with
        webhookReceipts :=
          session.database.webhookReceipts.filter (·.tenantId ≠ tenantId)
      }
    } :=
  rfl

theorem deleted_reconciliationCheckpoints :
    reconciliationCheckpoints.deleted tenantId session = { session with
      database := { session.database with
        reconciliationCheckpoints :=
          session.database.reconciliationCheckpoints.filter (·.tenantId ≠ tenantId)
      }
    } :=
  rfl

theorem deleted_refundCorrelationCandidates :
    refundCorrelationCandidates.deleted tenantId session = { session with
      database := { session.database with
        refundCorrelationCandidates :=
          session.database.refundCorrelationCandidates.filter (·.tenantId ≠ tenantId)
      }
    } :=
  rfl

theorem deleted_externalRefundAlerts :
    externalRefundAlerts.deleted tenantId session = { session with
      database := { session.database with
        externalRefundAlerts :=
          session.database.externalRefundAlerts.filter (·.tenantId ≠ tenantId)
      }
    } :=
  rfl

theorem deleted_refundExecutionAttempts :
    refundExecutionAttempts.deleted tenantId session = { session with
      database := { session.database with
        refundExecutionAttempts :=
          session.database.refundExecutionAttempts.filter (·.tenantId ≠ tenantId)
      }
    } :=
  rfl

theorem deleted_refundExecutions :
    refundExecutions.deleted tenantId session = { session with
      database := { session.database with
        refundExecutions :=
          session.database.refundExecutions.filter (·.tenantId ≠ tenantId)
      }
    } :=
  rfl

theorem deleted_approvalDecisions :
    approvalDecisions.deleted tenantId session = { session with
      database := { session.database with
        approvalDecisions :=
          session.database.approvalDecisions.filter (·.tenantId ≠ tenantId)
      }
    } :=
  rfl

theorem deleted_auditEvents :
    auditEvents.deleted tenantId session = { session with
      database := { session.database with
        auditEvents :=
          session.database.auditEvents.filter (·.tenantId ≠ tenantId)
      }
    } :=
  rfl

theorem deleted_approvalPolicies :
    approvalPolicies.deleted tenantId session = { session with
      database := { session.database with
        approvalPolicies :=
          session.database.approvalPolicies.filter (·.tenantId ≠ tenantId)
      }
    } :=
  rfl

theorem deleted_tenantUsers :
    tenantUsers.deleted tenantId session = { session with
      database := { session.database with
        tenantUsers :=
          session.database.tenantUsers.filter (·.tenantId ≠ tenantId)
      }
    } :=
  rfl

theorem deleted_stripeInstallations :
    stripeInstallations.deleted tenantId session = { session with
      database := { session.database with
        stripeInstallations :=
          session.database.stripeInstallations.filter (·.tenantId ≠ tenantId)
      }
    } :=
  rfl

-- A tenant that has none of the rows that it would take with it.
theorem deleted_tenants
    (hinstallations : ∀ row ∈ session.database.stripeInstallations, row.tenantId ≠ tenantId)
    (husers : ∀ row ∈ session.database.tenantUsers, row.tenantId ≠ tenantId)
    (hpolicies : ∀ row ∈ session.database.approvalPolicies, row.tenantId ≠ tenantId) :
    tenants.deleted tenantId session = { session with
      database := { session.database with
        tenants := session.database.tenants.filter (·.id ≠ tenantId)
      }
    } := by
  have hkept {id : String} (hid : id ≠ tenantId) :
      decide (session.database.tenants.any (·.id = id) ∧
        (session.database.tenants.filter (·.id ≠ tenantId)).all (·.id ≠ id)) = false := by
    rw [decide_eq_false_iff_not]
    rintro ⟨hany, hall⟩
    obtain ⟨tenant, htenant, heq⟩ := List.any_eq_true.mp hany
    have heq : tenant.id = id := of_decide_eq_true heq
    have hmem : tenant ∈ session.database.tenants.filter (·.id ≠ tenantId) :=
      List.mem_filter.mpr ⟨htenant, decide_eq_true (heq ▸ hid)⟩
    exact of_decide_eq_true (List.all_eq_true.mp hall tenant hmem) heq
  simp only [OwnedTable.deleted, tenants]
  congr 2
  · exact List.filter_eq_self.mpr fun row hrow => decide_eq_true (hkept (hinstallations row hrow))
  · exact List.filter_eq_self.mpr fun row hrow => decide_eq_true (hkept (husers row hrow))
  · exact List.filter_eq_self.mpr fun row hrow => decide_eq_true (hkept (hpolicies row hrow))

-- The rows of a tenant are deleted once no row refers to them.
theorem commits_delete (hpurge : session.purgeTenantId = some tenantId)
    (hfree : ∀ row, table.tenantId row = tenantId →
      table.isReferenced session.database row = false) :
    ∃ session', (table.delete tenantId).Commits session
        ((table.rows session.database).filter (table.tenantId · = tenantId)).length session' ∧
      session'.purgeTenantId = some tenantId ∧ session' = table.deleted tenantId session := by
  refine ⟨_, ?_, ?_, rfl⟩
  · simp only [OwnedTable.delete, commits_bind, commits_get, commits_require, commits_set,
      commits_pure]
    refine ⟨_, _, ⟨rfl, rfl⟩, (), _, ⟨fun _ => .inr hpurge, rfl⟩, (), _, ⟨fun row hrow => ?_, rfl⟩,
      (), _, rfl, rfl, rfl⟩
    exact hfree row (by simpa using (List.mem_filter.mp hrow).2)
  · exact hpurge

theorem any_filter_ne {α : Type} {rows : List α} {owner : α → String} {p : α → Bool}
    (h : ∀ row, p row → owner row = tenantId) :
    (rows.filter (owner · ≠ tenantId)).any p = false := by
  rw [List.any_eq_false]
  intro row hrow hp
  have howner := (List.mem_filter.mp hrow).2
  simp [h row hp] at howner

-- The session after the requests of a tenant are deleted with their attestations.
def requestsDeleted (tenantId : String) (session : PurgeSession) : PurgeSession :=
  { session with
    database := { session.database with
      refundRequests       := session.database.refundRequests.filter (·.tenantId ≠ tenantId)
      approvalAttestations :=
        session.database.approvalAttestations.filter (·.tenantId ≠ tenantId)
    }
    purgedApprovalAttestationCount :=
      some (session.database.approvalAttestations.filter (·.tenantId = tenantId)).length
  }

theorem commits_deleteRefundRequests (hpurge : session.purgeTenantId = some tenantId)
    (hattestations : ∀ row ∈ session.database.approvalAttestations,
      ∃ request ∈ session.database.refundRequests, attests row request)
    (hdecisions : ∀ row ∈ session.database.approvalDecisions, row.tenantId ≠ tenantId)
    (hfree : ∀ row, refundRequests.tenantId row = tenantId →
      refundRequests.isReferenced session.database row = false) :
    ∃ count session', (deleteRefundRequests tenantId).Commits session count session' ∧
      session'.purgeTenantId = some tenantId ∧ session' = requestsDeleted tenantId session := by
  have howner {row : AttestationRow} {request : RequestRow} (h : attests row request) :
      row.tenantId = request.tenantId := by
    simp only [attests, decide_eq_true_eq] at h
    exact h.2.1
  have hcascaded : ∀ row ∈ session.database.approvalAttestations,
      (session.database.refundRequests.filter (·.tenantId = tenantId)).any (attests row) =
        decide (row.tenantId = tenantId) := by
    intro row hrow
    obtain ⟨request, hrequest, hattests⟩ := hattestations row hrow
    rw [Bool.eq_iff_iff, List.any_eq_true, decide_eq_true_eq]
    constructor
    · rintro ⟨request', hrequest', hattests'⟩
      rw [howner hattests']
      simpa using (List.mem_filter.mp hrequest').2
    · intro htenant
      refine ⟨request, List.mem_filter.mpr ⟨hrequest, ?_⟩, hattests⟩
      simpa [howner hattests] using htenant
  have hpartition : session.database.approvalAttestations.partition (fun row =>
      (session.database.refundRequests.filter (·.tenantId = tenantId)).any (attests row)) =
      (session.database.approvalAttestations.filter (·.tenantId = tenantId),
        session.database.approvalAttestations.filter (·.tenantId ≠ tenantId)) := by
    rw [List.partition_eq_filter_filter]
    congr 1 <;> refine List.filter_congr fun row hrow => ?_
    · exact hcascaded row hrow
    · rw [Function.comp_apply, hcascaded row hrow, decide_not]
  obtain ⟨session₁, hdelete, hpurge₁, hsession₁⟩ := commits_delete hpurge hfree
  refine ⟨(session.database.refundRequests.filter (·.tenantId = tenantId)).length,
    requestsDeleted tenantId session, ?_, hpurge, rfl⟩
  simp only [deleteRefundRequests, commits_bind, commits_get]
  refine ⟨_, _, ⟨rfl, rfl⟩, _, _, hdelete, _, _, ⟨rfl, rfl⟩, ?_⟩
  simp only [commits_require, commits_modify, commits_pure]
  subst hsession₁
  simp only [OwnedTable.deleted, refundRequests, hpartition]
  refine ⟨(), _, ⟨.inr hpurge, rfl⟩, (), _, ⟨fun row hrow => ?_, rfl⟩, (), _, rfl, rfl, ?_⟩
  · have htenant : row.tenantId = tenantId := by simpa using (List.mem_filter.mp hrow).2
    simp only [isDecided, List.any_eq_false, decide_eq_true_eq]
    intro decision hdecision h
    exact hdecisions decision hdecision (h.2.1.trans htenant)
  · simp only [requestsDeleted, hpurge, Option.isSome_some, if_true]
    congr 2

theorem length_filter_id {db : TenantDatabase} {tenant : TenantRow}
    (hnodup : (db.tenants.map (·.id)).Nodup) (h : tenant ∈ db.tenants) :
    (db.tenants.filter (·.id = tenant.id)).length = 1 := by
  have hcount := List.count_eq_one_of_mem hnodup (List.mem_map_of_mem h)
  rw [List.count, List.countP_map, List.countP_eq_length_filter] at hcount
  rw [← hcount]
  congr 1

-- All the rows of a tenant are deleted, in an order in which no row refers to a deleted one.
theorem commits_deleteTenantRows {tenant : TenantRow}
    (htenants : (session.database.tenants.map (·.id)).Nodup)
    (hattests : ∀ row ∈ session.database.approvalAttestations,
      ∃ request ∈ session.database.refundRequests, attests row request)
    (htenant : tenant ∈ session.database.tenants)
    (hpurge : session.purgeTenantId = some tenant.id) :
    ∃ counts, (deleteTenantRows tenant.id).Commits session counts { session with
      database := session.database.without tenant.id
      purgedApprovalAttestationCount := some
        (session.database.approvalAttestations.filter (·.tenantId = tenant.id)).length
    } := by
  obtain ⟨s₁, h₁, hp₁, hs₁⟩ := commits_delete hpurge fun row _ =>
    (rfl : apiMutationReceipts.isReferenced _ row = false)
  rw [deleted_apiMutationReceipts] at hs₁
  obtain ⟨s₂, h₂, hp₂, hs₂⟩ := commits_delete hp₁ fun row _ =>
    (rfl : webhookReceipts.isReferenced _ row = false)
  rw [deleted_webhookReceipts] at hs₂
  obtain ⟨s₃, h₃, hp₃, hs₃⟩ := commits_delete hp₂ fun row _ =>
    (rfl : reconciliationCheckpoints.isReferenced _ row = false)
  rw [deleted_reconciliationCheckpoints] at hs₃
  obtain ⟨s₄, h₄, hp₄, hs₄⟩ := commits_delete hp₃ fun row _ =>
    (rfl : refundCorrelationCandidates.isReferenced _ row = false)
  rw [deleted_refundCorrelationCandidates] at hs₄
  obtain ⟨s₅, h₅, hp₅, hs₅⟩ := commits_delete hp₄ fun row _ =>
    (rfl : externalRefundAlerts.isReferenced _ row = false)
  rw [deleted_externalRefundAlerts] at hs₅
  obtain ⟨s₆, h₆, hp₆, hs₆⟩ := commits_delete hp₅ fun row _ =>
    (rfl : refundExecutionAttempts.isReferenced _ row = false)
  rw [deleted_refundExecutionAttempts] at hs₆
  have hfree₇ : ∀ row, refundExecutions.tenantId row = tenant.id →
      refundExecutions.isReferenced s₆.database row = false := by
    intro row hrow
    simp only [refundExecutions, hs₆] at hrow ⊢
    exact any_filter_ne fun attempt h => (of_decide_eq_true h).2.trans hrow
  obtain ⟨s₇, h₇, hp₇, hs₇⟩ := commits_delete hp₆ hfree₇
  rw [deleted_refundExecutions] at hs₇
  obtain ⟨s₈, h₈, hp₈, hs₈⟩ := commits_delete hp₇ fun row _ =>
    (rfl : approvalDecisions.isReferenced _ row = false)
  rw [deleted_approvalDecisions] at hs₈
  obtain ⟨s₉, h₉, hp₉, hs₉⟩ := commits_delete hp₈ fun row _ =>
    (rfl : auditEvents.isReferenced _ row = false)
  rw [deleted_auditEvents] at hs₉
  have hfree₁₀ : ∀ row, refundRequests.tenantId row = tenant.id →
      refundRequests.isReferenced s₉.database row = false := by
    intro row hrow
    simp only [refundRequests, hs₉, hs₈, hs₇, hs₆, hs₅, hs₄, Bool.or_eq_false_iff] at hrow ⊢
    refine ⟨⟨⟨?_, ?_⟩, ?_⟩, ?_⟩ <;>
      exact any_filter_ne fun child h => (of_decide_eq_true h).2.trans hrow
  have hattestations : ∀ row ∈ s₉.database.approvalAttestations,
      ∃ request ∈ s₉.database.refundRequests, attests row request := by
    simp only [hs₉, hs₈, hs₇, hs₆, hs₅, hs₄, hs₃, hs₂, hs₁]
    exact hattests
  have hdecisions : ∀ row ∈ s₉.database.approvalDecisions, row.tenantId ≠ tenant.id := by
    intro row hrow
    simp only [hs₉, hs₈] at hrow
    simpa using (List.mem_filter.mp hrow).2
  obtain ⟨count, s₁₀, h₁₀, hp₁₀, hs₁₀⟩ :=
    commits_deleteRefundRequests hp₉ hattestations hdecisions hfree₁₀
  rw [requestsDeleted] at hs₁₀
  obtain ⟨s₁₁, h₁₁, hp₁₁, hs₁₁⟩ := commits_delete hp₁₀ fun row _ =>
    (rfl : approvalPolicies.isReferenced _ row = false)
  rw [deleted_approvalPolicies] at hs₁₁
  have hfree₁₂ : ∀ row, tenantUsers.tenantId row = tenant.id →
      tenantUsers.isReferenced s₁₁.database row = false := by
    intro row hrow
    simp only [tenantUsers, hs₁₁, hs₁₀, hs₉, hs₈, hs₇, hs₆, hs₅, Bool.or_eq_false_iff] at hrow ⊢
    refine ⟨⟨⟨?_, ?_⟩, ?_⟩, ?_⟩ <;>
      exact any_filter_ne fun child h => (of_decide_eq_true h).2.trans hrow
  obtain ⟨s₁₂, h₁₂, hp₁₂, hs₁₂⟩ := commits_delete hp₁₁ hfree₁₂
  rw [deleted_tenantUsers] at hs₁₂
  have hfree₁₃ : ∀ row, stripeInstallations.tenantId row = tenant.id →
      stripeInstallations.isReferenced s₁₂.database row = false := by
    intro row hrow
    simp only [stripeInstallations, hs₁₂, hs₁₁, hs₁₀, hs₉, hs₈, hs₇, hs₆, hs₅, hs₄, hs₃, hs₂,
      Bool.or_eq_false_iff] at hrow ⊢
    refine ⟨⟨⟨⟨⟨?_, ?_⟩, ?_⟩, ?_⟩, ?_⟩, ?_⟩ <;> refine any_filter_ne fun child h => ?_ <;>
      have h := of_decide_eq_true h
    · exact h.2.1.trans hrow
    · exact h.2.trans hrow
    · exact h.2.trans hrow
    · exact h.2.1.trans hrow
    · exact h.2.trans hrow
    · exact h.2.1.trans hrow
  obtain ⟨s₁₃, h₁₃, hp₁₃, hs₁₃⟩ := commits_delete hp₁₂ hfree₁₃
  rw [deleted_stripeInstallations] at hs₁₃
  have hfree₁₄ : ∀ row, tenants.tenantId row = tenant.id →
      tenants.isReferenced s₁₃.database row = false := by
    intro row hrow
    simp only [tenants, hs₁₃, hs₁₂, hs₁₁, hs₁₀, hs₉, hs₈, hs₇, hs₆, hs₅, hs₄, hs₃, hs₂, hs₁,
      Bool.or_eq_false_iff] at hrow ⊢
    refine ⟨⟨⟨⟨⟨⟨⟨⟨⟨⟨?_, ?_⟩, ?_⟩, ?_⟩, ?_⟩, ?_⟩, ?_⟩, ?_⟩, ?_⟩, ?_⟩, ?_⟩ <;>
      exact any_filter_ne fun child h => (of_decide_eq_true h).trans hrow
  obtain ⟨s₁₄, h₁₄, hp₁₄, hs₁₄⟩ := commits_delete hp₁₃ hfree₁₄
  have hinstallations : ∀ row ∈ s₁₃.database.stripeInstallations, row.tenantId ≠ tenant.id := by
    intro row hrow
    rw [hs₁₃] at hrow
    exact of_decide_eq_true (List.mem_filter.mp hrow).2
  have husers : ∀ row ∈ s₁₃.database.tenantUsers, row.tenantId ≠ tenant.id := by
    intro row hrow
    rw [hs₁₃, hs₁₂] at hrow
    exact of_decide_eq_true (List.mem_filter.mp hrow).2
  have hpolicies : ∀ row ∈ s₁₃.database.approvalPolicies, row.tenantId ≠ tenant.id := by
    intro row hrow
    rw [hs₁₃, hs₁₂, hs₁₁] at hrow
    exact of_decide_eq_true (List.mem_filter.mp hrow).2
  rw [deleted_tenants hinstallations husers hpolicies] at hs₁₄
  have hrows : s₁₃.database.tenants = session.database.tenants := by
    simp only [hs₁₃, hs₁₂, hs₁₁, hs₁₀, hs₉, hs₈, hs₇, hs₆, hs₅, hs₄, hs₃, hs₂, hs₁]
  simp only [deleteTenantRows, commits_bind, commits_require, commits_pure]
  refine ⟨_, _, s₁, h₁, _, s₂, h₂, _, s₃, h₃, _, s₄, h₄, _, s₅, h₅, _, s₆, h₆, _, s₇, h₇, _, s₈,
    h₈, _, s₉, h₉, _, s₁₀, h₁₀, _, s₁₁, h₁₁, _, s₁₂, h₁₂, _, s₁₃, h₁₃, _, s₁₄, h₁₄, (), s₁₄,
    ⟨?_, rfl⟩, rfl, ?_⟩
  · have hlength := length_filter_id htenants htenant
    rw [← hrows] at hlength
    exact hlength
  · simp only [hs₁₄, hs₁₃, hs₁₂, hs₁₁, hs₁₀, hs₉, hs₈, hs₇, hs₆, hs₅, hs₄, hs₃, hs₂, hs₁,
      TenantDatabase.without]

end Deletion

section Guards

variable {db : TenantDatabase} {tenant : TenantRow} {now uninstalledAt : Timestamp}

-- Nothing of the tenant is in use.
structure Settled (db : TenantDatabase) (tenantId : String) : Prop where
  financialState : db.hasFinancialState tenantId = false
  attempts       : db.hasStartedAttempt tenantId = false
  candidates     : db.hasOpenCandidate tenantId = false
  refundEvents   : db.hasUnprocessedRefundEvent tenantId = false
  checkpoints    : db.hasPageInProgress tenantId = false

-- The account has uninstalled the application, and the deadline follows from it.
structure Uninstalled (db : TenantDatabase) (tenant : TenantRow) (uninstalledAt : Timestamp) :
    Prop where
  installed    : db.installationsOf tenant.id ≠ []
  deauthorized : ∀ row ∈ db.installationsOf tenant.id, row.isDeauthorized
  latest       : db.uninstalledAt tenant.id = some uninstalledAt
  deadline     : ∀ pendingDeleteAt ∈ tenant.pendingDeleteAt,
    pendingDeleteAt ≤ uninstalledAt + microsecondsOfDays 30

theorem uninstalledAt_isSome (hinstalled : db.installationsOf tenant.id ≠ [])
    (hdeauthorized : ∀ row ∈ db.installationsOf tenant.id, row.isDeauthorized) :
    ∃ uninstalledAt, db.uninstalledAt tenant.id = some uninstalledAt := by
  obtain ⟨row, hrow⟩ := List.exists_mem_of_ne_nil _ hinstalled
  have hdeauthorizedAt := hdeauthorized row hrow
  simp only [InstallationRow.isDeauthorized, decide_eq_true_eq] at hdeauthorizedAt
  obtain ⟨time, htime⟩ := Option.ne_none_iff_exists'.mp hdeauthorizedAt.2
  have hmem : time ∈ (db.installationsOf tenant.id).filterMap (·.deauthorizedAt) :=
    List.mem_filterMap.mpr ⟨row, hrow, htime⟩
  rw [TenantDatabase.uninstalledAt, ← Option.isSome_iff_exists, List.isSome_max?_iff]
  exact List.ne_nil_of_mem hmem

theorem settled_iff {tenantId : String} : Settled db tenantId ↔
    ¬(db.hasFinancialState tenantId ∨ db.hasStartedAttempt tenantId ∨
      db.hasOpenCandidate tenantId ∨ db.hasUnprocessedRefundEvent tenantId ∨
      db.hasPageInProgress tenantId) := by
  constructor
  · rintro ⟨h₁, h₂, h₃, h₄, h₅⟩
    simp [h₁, h₂, h₃, h₄, h₅]
  · intro h
    simp only [not_or, Bool.not_eq_true] at h
    exact ⟨h.1, h.2.1, h.2.2.1, h.2.2.2.1, h.2.2.2.2⟩

theorem deadline_iff : (∀ pendingDeleteAt ∈ tenant.pendingDeleteAt,
      pendingDeleteAt ≤ uninstalledAt + microsecondsOfDays 30) ↔
    ¬tenant.pendingDeleteAt.any (uninstalledAt + microsecondsOfDays 30 < ·) := by
  cases tenant.pendingDeleteAt <;> simp

theorem deauthorized_iff : (∀ row ∈ db.installationsOf tenant.id, row.isDeauthorized) ↔
    ¬(db.installationsOf tenant.id).any (·.isDeauthorized = false) := by
  simp

theorem assertPurgeable_eq_ok : assertPurgeable db now tenant = .ok uninstalledAt ↔
    isDue now tenant ∧ tenant.legalHoldAt = none ∧ Uninstalled db tenant uninstalledAt ∧
      Settled db tenant.id ∧ ¬db.externalRefundAlerts.any fun alert => alert.tenantId = tenant.id ∧
        alert.classification ∈ [.external, .tampered, .proofReplay] ∧
        alert.reconciledAt = none := by
  rw [settled_iff]
  constructor
  · intro h
    unfold assertPurgeable at h
    split_ifs at h with hdue hheld hstate hsettled
    · split at h
      · cases h
      · split_ifs at h
    · split at h
      case h_1 => cases h
      case h_2 time hlatest =>
        split_ifs at h with hdeadline
        obtain rfl := Except.ok.inj h
        rw [not_or] at hstate
        have huninstalled : Uninstalled db tenant time :=
          ⟨hstate.1, deauthorized_iff.mpr hstate.2, hlatest, deadline_iff.mpr hdeadline⟩
        refine ⟨by simpa using hdue, by simpa using hheld, huninstalled, ?_, ?_⟩ <;> tauto
  · rintro ⟨hdue, hheld, huninstalled, hsettled, halerts⟩
    unfold assertPurgeable
    have hstate : ¬(db.installationsOf tenant.id = [] ∨
        (db.installationsOf tenant.id).any (·.isDeauthorized = false)) :=
      not_or.mpr ⟨huninstalled.installed, deauthorized_iff.mp huninstalled.deauthorized⟩
    rw [if_neg (by simp [hdue]), if_neg (by simp [hheld]), if_neg hstate, huninstalled.latest]
    dsimp only
    rw [if_neg (deadline_iff.mp huninstalled.deadline), if_neg (by tauto)]

theorem blockerReason_eq_none : blockerReason db tenant = none ↔
    tenant.legalHoldAt = none ∧ (∃ uninstalledAt, Uninstalled db tenant uninstalledAt) ∧
      (∀ row ∈ db.installationsOf tenant.id, row.environment ∈ [.test, .sandbox]) ∧
      Settled db tenant.id := by
  constructor
  · intro h
    unfold blockerReason at h
    split_ifs at h with hheld hmissing hstate hdeadline h₁ h₂ h₃ h₄ h₅
    have hrows : ∀ row ∈ db.installationsOf tenant.id,
        row.environment ∈ [.test, .sandbox] ∧ row.isDeauthorized := by
      intro row hrow
      by_contra hnot
      refine hstate (List.any_eq_true.mpr ⟨row, hrow, ?_⟩)
      rw [decide_eq_true_eq]
      rw [not_and_or] at hnot
      simpa using hnot
    obtain ⟨uninstalledAt, hlatest⟩ :=
      uninstalledAt_isSome hmissing fun row hrow => (hrows row hrow).2
    rw [hlatest, Option.any_some] at hdeadline
    refine ⟨by simpa using hheld, ⟨uninstalledAt, hmissing, fun row hrow => (hrows row hrow).2,
      hlatest, deadline_iff.mpr hdeadline⟩, fun row hrow => (hrows row hrow).1, ?_⟩
    exact ⟨by simpa using h₁, by simpa using h₂, by simpa using h₃, by simpa using h₄,
      by simpa using h₅⟩
  · rintro ⟨hheld, ⟨uninstalledAt, huninstalled⟩, henvironment, hsettled⟩
    have hstate : ¬(db.installationsOf tenant.id).any fun row =>
        row.environment ∉ [.test, .sandbox] ∨ row.isDeauthorized = false := by
      simp only [List.any_eq_true, decide_eq_true_eq]
      rintro ⟨row, hrow, h | h⟩
      · exact h (henvironment row hrow)
      · simp [huninstalled.deauthorized row hrow] at h
    unfold blockerReason
    rw [if_neg (by simp [hheld]), if_neg huninstalled.installed, if_neg hstate,
      huninstalled.latest, Option.any_some, if_neg (deadline_iff.mp huninstalled.deadline),
      if_neg (by simp [hsettled.financialState]), if_neg (by simp [hsettled.attempts]),
      if_neg (by simp [hsettled.candidates]), if_neg (by simp [hsettled.refundEvents]),
      if_neg (by simp [hsettled.checkpoints])]

end Guards

section Purge

variable {db db' : TenantDatabase} {tenant : TenantRow} {now : Timestamp}
  {certificateId pseudonym : String} {session session' : PurgeSession} {pgboss : PgbossSchema}
  {certificates : List PurgeCertificate}

-- The jobs of the tenant can be deleted.
structure JobsClear (db : TenantDatabase) (tenantId : String) (pgboss : PgbossSchema) : Prop where
  versions     : pgboss.versions = [37]
  jobs         : ∀ job ∈ matchedJobs db pgboss tenantId,
    job.state ≠ "active" ∧ isUnsafe db tenantId job = false
  dependencies : ∀ dependency ∈ pgboss.dependencies,
    isDependent (matchedJobs db pgboss tenantId) dependency = false

def remainingJobs (db : TenantDatabase) (tenantId : String) (pgboss : PgbossSchema) :
    PgbossSchema :=
  { pgboss with jobs := pgboss.jobs.filter fun job => isMatched db tenantId job = false }

theorem commits_deletePgbossJobs {tenantId : String} {count : Nat} :
    (deletePgbossJobs tenantId).Commits session count session' ↔
      ∃ pgboss, session.database.pgboss = some pgboss ∧
        JobsClear session.database tenantId pgboss ∧
        count = (matchedJobs session.database pgboss tenantId).length ∧
        session' = { session with
          database := { session.database with
            pgboss := some (remainingJobs session.database tenantId pgboss)
          }
        } := by
  have hlength (pgboss : PgbossSchema) :
      (remainingJobs session.database tenantId pgboss).jobs.length +
        (matchedJobs session.database pgboss tenantId).length = pgboss.jobs.length := by
    rw [List.length_eq_length_filter_add (l := pgboss.jobs) (isMatched session.database tenantId)]
    simp [remainingJobs, matchedJobs, Nat.add_comm]
  constructor
  · intro h
    simp only [deletePgbossJobs, commits_bind, commits_get] at h
    obtain ⟨_, _, ⟨rfl, rfl⟩, h⟩ := h
    split at h
    case h_1 => exact (not_commits_throw h).elim
    case h_2 pgboss hpgboss =>
      simp only [commits_bind, commits_require, commits_set, commits_pure] at h
      obtain ⟨_, _, ⟨hversions, rfl⟩, _, _, ⟨hclear, rfl⟩, _, _, ⟨_, rfl⟩, _, _, rfl, hcount, rfl⟩ := h
      exact ⟨pgboss, hpgboss, ⟨hversions, hclear.1, hclear.2⟩, hcount, rfl⟩
  · rintro ⟨pgboss, hpgboss, hclear, rfl, rfl⟩
    simp only [deletePgbossJobs, commits_bind, commits_get]
    refine ⟨_, _, ⟨rfl, rfl⟩, ?_⟩
    rw [hpgboss]
    simp only [commits_bind, commits_require, commits_set, commits_pure]
    refine ⟨(), _, ⟨hclear.versions, rfl⟩, (), _, ⟨⟨hclear.jobs, hclear.dependencies⟩, rfl⟩,
      (), _, ⟨⟨hlength pgboss, fun job hjob => ?_⟩, rfl⟩, (), _, rfl, trivial, rfl⟩
    simpa using (List.mem_filter.mp hjob).2

-- The certificate can be inserted.
def Certifiable (db : TenantDatabase) (pseudonym : String) (uninstalledAt now : Timestamp) : Prop :=
  uninstalledAt ≤ now ∧ ∀ row ∈ db.purgeCertificates, row.tenantPseudonym ≠ pseudonym

-- The trigger leaves everything but the counts and the version of a certificate as it is.
theorem commits_includeAttestationPurgeCount (row : PurgeCertificate) (session : PurgeSession) :
    ∃ counts version session', (includeAttestationPurgeCount row).Commits session
        { row with deletedCounts := counts, processVersion := version } session' ∧
      session'.database = session.database := by
  have hcounted (attestations : Nat) : ∃ counts version,
      session.countedCertificate attestations row =
        { row with deletedCounts := counts, processVersion := version } := by
    unfold PurgeSession.countedCertificate
    dsimp only
    split <;> exact ⟨_, _, rfl⟩
  obtain ⟨counts, version, hcounted⟩ :=
    hcounted (session.purgedApprovalAttestationCount.getD 0)
  simp only [includeAttestationPurgeCount, commits_bind, commits_get, commits_ite, commits_set,
    commits_pure]
  by_cases h : row.processVersion = "db-purge-v1" ∧ session.purgedApprovalAttestationCount.isSome
  · exact ⟨counts, version, _, ⟨_, _, ⟨rfl, rfl⟩, .inl ⟨h, (), _, rfl, hcounted.symm, rfl⟩⟩, rfl⟩
  · exact ⟨row.deletedCounts, row.processVersion, session, ⟨_, _, ⟨rfl, rfl⟩, .inr ⟨h, rfl, rfl⟩⟩, rfl⟩

theorem commits_insertPurgeCertificate {row : PurgeCertificate}
    (hexpiry : row.purgeCompletedAt < row.expiresAt)
    (h : Certifiable session.database row.tenantPseudonym row.uninstalledAt row.purgeCompletedAt) :
    ∃ certificate session', (insertPurgeCertificate row).Commits session certificate session' ∧
      certificate.tenantPseudonym = row.tenantPseudonym ∧
      session'.database = { session.database with
        purgeCertificates := certificate :: session.database.purgeCertificates
      } := by
  obtain ⟨counts, version, session₁, htrigger, hdatabase⟩ :=
    commits_includeAttestationPurgeCount row session
  let certificate := { row with deletedCounts := counts, processVersion := version }
  refine ⟨certificate, { session₁ with
    database := { session₁.database with
      purgeCertificates := certificate :: session₁.database.purgeCertificates
    } }, ?_, rfl, by rw [hdatabase]⟩
  simp only [insertPurgeCertificate, commits_bind, commits_get, commits_require, commits_set,
    commits_pure]
  refine ⟨_, _, htrigger, _, _, ⟨rfl, rfl⟩, (), _, ⟨h.1, rfl⟩, (), _, ⟨hexpiry, rfl⟩, (), _,
    ⟨?_, rfl⟩, (), _, rfl, rfl, rfl⟩
  rw [hdatabase]
  exact List.all_eq_true.mpr fun c hc => decide_eq_true (h.2 c hc)

theorem certifiable_of_commits {row certificate : PurgeCertificate}
    (hc : (insertPurgeCertificate row).Commits session certificate session') :
    Certifiable session.database row.tenantPseudonym row.uninstalledAt row.purgeCompletedAt := by
  obtain ⟨counts, version, session₁, htrigger, hdatabase⟩ :=
    commits_includeAttestationPurgeCount row session
  simp only [insertPurgeCertificate, commits_bind, commits_get, commits_require] at hc
  obtain ⟨_, _, htrigger', _, _, ⟨rfl, rfl⟩, _, _, ⟨huninstall, rfl⟩, _, _, ⟨_, rfl⟩, _, _,
    ⟨hunique, rfl⟩, _⟩ := hc
  obtain ⟨rfl, rfl⟩ := htrigger.deterministic htrigger'
  rw [hdatabase] at hunique
  exact ⟨huninstall, fun c hc => of_decide_eq_true (List.all_eq_true.mp hunique c hc)⟩

-- What the purge of a tenant of the database depends on.
structure Accepts (now : Timestamp) (pseudonym : String) (db : TenantDatabase)
    (tenant : TenantRow) : Prop where
  valid       : isTenantPseudonym pseudonym
  jobs        : ∃ pgboss, db.pgboss = some pgboss ∧ JobsClear db tenant.id pgboss
  due         : isDue now tenant
  unblocked   : blockerReason db tenant = none
  certifiable : ∀ uninstalledAt ∈ db.uninstalledAt tenant.id,
    Certifiable db pseudonym uninstalledAt now

-- The database after the purge of a tenant.
def purged (db : TenantDatabase) (tenantId : String) (certificate : PurgeCertificate) :
    TenantDatabase :=
  { db.without tenantId with
    purgeCertificates := certificate :: db.purgeCertificates
    pgboss            := db.pgboss.map (remainingJobs db tenantId)
  }

theorem find?_tenant (hnodup : (db.tenants.map (·.id)).Nodup) (htenant : tenant ∈ db.tenants) :
    db.tenants.find? (·.id = tenant.id) = some tenant := by
  obtain ⟨found, hfound⟩ : ∃ found, db.tenants.find? (·.id = tenant.id) = some found :=
    Option.isSome_iff_exists.mp (List.find?_isSome.mpr ⟨tenant, htenant, by simp⟩)
  have hid : found.id = tenant.id := by simpa using List.find?_some hfound
  have heq : found = tenant :=
    List.inj_on_of_nodup_map hnodup (List.mem_of_find?_eq_some hfound) htenant hid
  rw [hfound, heq]

-- `refunddesk_purge_tenant` on a tenant of the database.
theorem commits_purgeTenant {uninstalledAt : Timestamp} (hpseudonym : isTenantPseudonym pseudonym)
    (htenants : (session.database.tenants.map (·.id)).Nodup)
    (hattests : ∀ row ∈ session.database.approvalAttestations,
      ∃ request ∈ session.database.refundRequests, attests row request)
    (htenant : tenant ∈ session.database.tenants)
    (hpurgeable : assertPurgeable session.database now tenant = .ok uninstalledAt)
    (hcertifiable : Certifiable session.database pseudonym uninstalledAt now) :
    ∃ certificate session', (purgeTenant now certificateId tenant.id pseudonym).Commits session
        [certificate] session' ∧ certificate.tenantPseudonym = pseudonym ∧
      session'.database = { session.database.without tenant.id with
        purgeCertificates := certificate :: session.database.purgeCertificates
      } := by
  let session₁ : PurgeSession := { session with purgeTenantId := some tenant.id }
  let session₂ : PurgeSession := { session₁ with
    database                       := session.database.without tenant.id
    purgedApprovalAttestationCount :=
      some (session.database.approvalAttestations.filter (·.tenantId = tenant.id)).length
  }
  obtain ⟨counts, hdelete⟩ :
      ∃ counts, (deleteTenantRows tenant.id).Commits session₁ counts session₂ :=
    commits_deleteTenantRows htenants hattests htenant rfl
  let row : PurgeCertificate := {
    id               := certificateId
    tenantPseudonym  := pseudonym
    uninstalledAt    := uninstalledAt
    purgeCompletedAt := now
    expiresAt        := now + microsecondsOfDays 365
    policyVersion    := "pilot-v1"
    processVersion   := "db-purge-v1"
    deletedCounts    := counts
    result           := "completed"
  }
  have hexpiry : row.purgeCompletedAt < row.expiresAt :=
    Int.lt_add_of_pos_right now (by decide)
  have hcertifiable₂ : Certifiable session₂.database row.tenantPseudonym row.uninstalledAt
      row.purgeCompletedAt := hcertifiable
  obtain ⟨certificate, session₃, hinsert, hname, hdatabase⟩ :=
    commits_insertPurgeCertificate hexpiry hcertifiable₂
  refine ⟨certificate, { session₃ with purgeTenantId := session.purgeTenantId }, ?_, hname,
    hdatabase⟩
  simp only [purgeTenant, commits_bind, commits_require, commits_get]
  refine ⟨(), _, ⟨hpseudonym, rfl⟩, _, _, ⟨rfl, rfl⟩, ?_⟩
  rw [find?_tenant htenants htenant]
  simp only [commits_bind, commits_fromExcept, commits_set, commits_modify, commits_pure]
  exact ⟨_, _, ⟨hpurgeable, rfl⟩, (), _, rfl, _, _, hdelete, _, _, hinsert, (), _, rfl, rfl, rfl⟩

theorem purgeable_of_commits
    (htenants : (session.database.tenants.map (·.id)).Nodup)
    (hattests : ∀ row ∈ session.database.approvalAttestations,
      ∃ request ∈ session.database.refundRequests, attests row request)
    (htenant : tenant ∈ session.database.tenants)
    (hc : (purgeTenant now certificateId tenant.id pseudonym).Commits session certificates
      session') :
    isTenantPseudonym pseudonym ∧ ∃ uninstalledAt,
      assertPurgeable session.database now tenant = .ok uninstalledAt ∧
      Certifiable session.database pseudonym uninstalledAt now := by
  obtain ⟨counts', hdelete'⟩ : ∃ counts, (deleteTenantRows tenant.id).Commits
      { session with purgeTenantId := some tenant.id } counts _ :=
    commits_deleteTenantRows htenants hattests htenant rfl
  simp only [purgeTenant, commits_bind, commits_require, commits_get] at hc
  obtain ⟨_, _, ⟨hpseudonym, rfl⟩, _, _, ⟨rfl, rfl⟩, hc⟩ := hc
  rw [find?_tenant htenants htenant] at hc
  simp only [commits_bind, commits_fromExcept, commits_set] at hc
  obtain ⟨uninstalledAt, _, ⟨hpurgeable, rfl⟩, _, _, rfl, counts, _, hdelete, _, _, hinsert, -⟩ := hc
  obtain ⟨rfl, rfl⟩ := hdelete.deterministic hdelete'
  exact ⟨hpseudonym, uninstalledAt, hpurgeable, certifiable_of_commits hinsert⟩

end Purge

end Retention
end RefundDesk
