import RefundDesk.Library.BoundedListing
import RefundDesk.Repositories.RequestSpecs
import RefundDesk.Repositories.Runs
import RefundDesk.Worker.Footprints
import RefundDesk.Worker.Recovery

namespace RefundDesk

open Transaction Transactions TenantRepository RequestRepository WorkerStore

-- What becomes of a request that the recovery looks at: it is put into the queue of the executions,
-- it goes to reconciliation, or it stays where it is.
inductive RecoveryOutcome
  | enqueued
  | diverted
  | skipped
  deriving DecidableEq, Repr

def isAmbiguous (row : RefundRequest) : Bool :=
  row.workflowStatus = .executing ∧ row.effectState = .possible

def recoveryOutcome (e : String × RefundRequestDetail) : RecoveryOutcome :=
  if isAmbiguous e.2.request then
    .diverted
  else
    match refundIdempotencyKey e.1 with
    | .error _                   => .skipped
    | .ok expectedIdempotencyKey =>
      if executionCannotBeRecovered e.2.request e.2.execution expectedIdempotencyKey then
        if e.2.request.workflowStatus = .executing then .diverted else .skipped
      else
        .enqueued

-- The requests of a tenant that the recovery looks at, in the order in which it lists them
def recoveryQueue (s : Store) : List (String × RefundRequestDetail) :=
  (s.requests.entries.filter fun e => isRecoverable s e.2.request).insertionSort
    fun left right => left.2.request.createdAt ≤ right.2.request.createdAt

-- The requests went to reconciliation, and nothing else changed that the recovery looks at.
structure Diverted (s : Store) (ids : List String) (s' : Store) : Prop where
  tenantId      : s'.tenantId = s.tenantId
  tenant        : s'.tenant = s.tenant
  installations : s'.installations = s.installations
  others        : ∀ id ∉ ids, s'.requests.find? id = s.requests.find? id
  diverted      : ∀ id ∈ ids, ∀ d, s'.requests.find? id = some d →
    d.request.workflowStatus = .reconciliationRequired

namespace Diverted

variable {s s' s'' : Store} {ids ids' : List String}

protected theorem refl : Diverted s [] s where
  tenantId      := rfl
  tenant        := rfl
  installations := rfl
  others _ _    := rfl
  diverted _ h  := nomatch h

theorem trans (h : Diverted s ids s') (h' : Diverted s' ids' s'') :
    Diverted s (ids ++ ids') s'' where
  tenantId      := h'.tenantId.trans h.tenantId
  tenant        := h'.tenant.trans h.tenant
  installations := h'.installations.trans h.installations
  others id hid := by
    rw [List.mem_append, not_or] at hid
    rw [h'.others id hid.2, h.others id hid.1]
  diverted id hid d hd := by
    by_cases hlater : id ∈ ids'
    · exact h'.diverted id hlater d hd
    · have hearlier := (List.mem_append.mp hid).resolve_right hlater
      rw [h'.others id hlater] at hd
      exact h.diverted id hearlier d hd

theorem congr (h : Diverted s ids s') (hids : ∀ id, id ∈ ids ↔ id ∈ ids') : Diverted s ids' s' where
  tenantId         := h.tenantId
  tenant           := h.tenant
  installations    := h.installations
  others id hid    := h.others id (by rwa [hids])
  diverted id hid  := h.diverted id (by rwa [hids])

theorem isRecoverable_eq (h : Diverted s ids s') (row : RefundRequest) :
    isRecoverable s' row = isRecoverable s row := by
  simp only [isRecoverable, h.tenant, h.installations]

-- What is left of the queue
theorem recoveryQueue_eq (h : Diverted s ids s') :
    recoveryQueue s' = (recoveryQueue s).filter (·.1 ∉ ids) := by
  have htotal : Std.Total fun left right : String × RefundRequestDetail =>
      left.2.request.createdAt ≤ right.2.request.createdAt :=
    ⟨fun left right => le_total left.2.request.createdAt right.2.request.createdAt⟩
  have htrans : IsTrans (String × RefundRequestDetail) fun left right =>
      left.2.request.createdAt ≤ right.2.request.createdAt :=
    ⟨fun _ _ _ => le_trans⟩
  have hentries : (s'.requests.entries.filter fun e => isRecoverable s' e.2.request) =
      (s.requests.entries.filter fun e => isRecoverable s e.2.request).filter (·.1 ∉ ids) := by
    refine List.Perm.eq_of_pairwise ?_
      (s'.requests.sorted.filter _) ((s.requests.sorted.filter _).filter _) ?_
    · exact fun a b _ _ hab hba => absurd hab (lt_asymm hba)
    · have hnodup (t : Table String RefundRequestDetail) : t.entries.Nodup :=
        t.sorted.imp fun {a b} hlt (heq : a = b) => lt_irrefl a.1 (heq ▸ hlt)
      refine (List.perm_ext_iff_of_nodup ((hnodup _).filter _)
        (((hnodup _).filter _).filter _)).mpr fun e => ?_
      obtain ⟨id, d⟩ := e
      simp only [List.mem_filter, Table.mem_entries_iff, h.isRecoverable_eq, decide_eq_true_eq]
      by_cases hid : id ∈ ids
      · have hnot : s'.requests.find? id = some d → ¬isRecoverable s d.request = true := by
          intro hd hrecoverable
          have hstatus := h.diverted id hid d hd
          simp [isRecoverable, hstatus] at hrecoverable
        constructor
        · exact fun hleft => absurd hleft.2 (hnot hleft.1)
        · exact fun hright => absurd hid hright.2
      · simp [hid, h.others id hid]
  rw [recoveryQueue, hentries, recoveryQueue, filter_insertionSort]

end Diverted

section Transactions

variable {now : Timestamp} {s s' : Store} {requestId : String} {d : RefundRequestDetail}

theorem recoveryQueue_nodup (s : Store) : ((recoveryQueue s).map (·.1)).Nodup := by
  refine ((List.perm_insertionSort _ _).map _).nodup_iff.mpr ?_
  exact s.requests.keys_nodup.sublist (List.filter_sublist.map _)

theorem mem_recoveryQueue {e : String × RefundRequestDetail} (h : e ∈ recoveryQueue s) :
    s.requests.find? e.1 = some e.2 ∧ isRecoverable s e.2.request := by
  have hmem := List.mem_filter.mp ((List.mem_insertionSort _).mp h)
  exact ⟨Table.mem_entries_iff.mp hmem.1, hmem.2⟩

theorem diverted_markReconciliationRequired {r : Option Bool}
    (hd : s.requests.find? requestId = some d) (hstatus : d.request.workflowStatus = .executing)
    (hguard : d.request.paymentGuardReleasedAt = none)
    (h : (onRequest now requestId markReconciliationRequired).Commits s r s') :
    r = some true ∧ Diverted s [requestId] s' := by
  rcases commits_onRequest.mp h with ⟨hnone, -, -⟩ | ⟨d₁, b, d', hd₁, hcommits, rfl, rfl⟩
  · rw [hnone] at hd
    cases hd
  obtain rfl := Option.some.inj (hd₁.symm.trans hd)
  rcases commits_updateRequest.mp hcommits with ⟨hnot, -, -⟩ | ⟨-, rfl, -, rfl⟩
  · simp [hstatus, hguard] at hnot
  refine ⟨rfl, rfl, rfl, rfl, ?_, ?_⟩
  · intro id hid
    exact Table.find?_insert_ne (by simpa using hid)
  · intro id hid d' hd'
    rw [List.mem_singleton] at hid
    rw [hid, Store.putRequest, Table.find?_insert_self] at hd'
    obtain rfl := Option.some.inj hd'
    simp [RefundRequestDetail.replaceRow]

theorem diverted_requireExecutionReconciliation {u : Unit}
    (hd : s.requests.find? requestId = some d) (hstatus : d.request.workflowStatus = .executing)
    (hguard : d.request.paymentGuardReleasedAt = none)
    (h : (requireExecutionReconciliation now requestId).Commits s u s') :
    Diverted s [requestId] s' := by
  rw [requireExecutionReconciliation, commits_bind] at h
  obtain ⟨r, s₁, hmark, hrest⟩ := h
  obtain ⟨rfl, hdiverted⟩ := diverted_markReconciliationRequired hd hstatus hguard hmark
  simp only [ne_eq, not_true_eq_false, ↓reduceIte, commits_pure] at hrest
  rwa [hrest.2]

theorem guard_of_isRecoverable {row : RefundRequest} (h : isRecoverable s row) :
    row.paymentGuardReleasedAt = none := by
  simp only [isRecoverable, decide_eq_true_eq] at h
  exact h.2.1

-- The requests whose effect may have happened are marked one after another.
theorem diverted_forM {listed : List (String × RefundRequestDetail)} {u : PUnit}
    (hfound : ∀ e ∈ listed, s.requests.find? e.1 = some e.2 ∧
      e.2.request.workflowStatus = .executing ∧ e.2.request.paymentGuardReleasedAt = none)
    (hnodup : (listed.map (·.1)).Nodup)
    (h : (listed.forM fun e => do
      let _ ← onRequest now e.1 markReconciliationRequired).Commits s u s') :
    Diverted s (listed.map (·.1)) s' := by
  induction listed generalizing s with
  | nil =>
    obtain ⟨-, rfl⟩ := commits_pure.mp h
    exact .refl
  | cons e listed ih =>
    obtain ⟨_, s₁, hhead, htail⟩ := commits_bind.mp h
    simp only [commits_bind, commits_pure] at hhead
    obtain ⟨r, _, hmark, _, rfl⟩ := hhead
    obtain ⟨hd, hstatus, hguard⟩ := hfound e (List.mem_cons_self ..)
    have hdiverted := (diverted_markReconciliationRequired hd hstatus hguard hmark).2
    rw [List.map_cons, List.nodup_cons] at hnodup
    have hrest : ∀ other ∈ listed, s₁.requests.find? other.1 = some other.2 ∧
        other.2.request.workflowStatus = .executing ∧
          other.2.request.paymentGuardReleasedAt = none := by
      intro other hother
      have hne : other.1 ≠ e.1 := fun heq => hnodup.1 (heq ▸ List.mem_map_of_mem hother)
      rw [hdiverted.others other.1 (by simpa using hne)]
      exact hfound other (List.mem_cons_of_mem _ hother)
    exact hdiverted.trans (ih hrest hnodup.2 htail)

-- An item is read from the store as it was when the requests of its tenant were prepared.
structure Prepared (s₀ : Store) (e : String × RefundRequestDetail) (item : ExecutionWorkItem) :
    Prop where
  item        : WorkItemOf s₀ e.1 item e.2
  recoverable : isRecoverable s₀ e.2.request
  known       : isAmbiguous e.2.request = false

theorem prepared_of_mapM {listed : List (String × RefundRequestDetail)}
    {work : List ExecutionWorkItem} {disappeared : StoreError}
    (hfound : ∀ e ∈ listed, s.requests.find? e.1 = some e.2 ∧ isRecoverable s e.2.request ∧
      isAmbiguous e.2.request = false)
    (h : (listed.mapM fun (e : String × RefundRequestDetail) => do
      match ← getExecutionWorkItem e.1 with
      | none      => throw disappeared
      | some item => pure item).Commits s work s') :
    s' = s ∧ List.Forall₂ (Prepared s) listed work := by
  induction listed generalizing work with
  | nil =>
    rw [List.mapM_nil, commits_pure] at h
    obtain ⟨rfl, rfl⟩ := h
    exact ⟨rfl, .nil⟩
  | cons e listed ih =>
    rw [List.mapM_cons] at h
    simp only [commits_bind, commits_pure] at h
    obtain ⟨item, s₁, ⟨found, s₂, hget, hitem⟩, items, s₃, hrest, rfl, rfl⟩ := h
    cases found with
    | none       => exact (not_commits_throw hitem).elim
    | some found =>
      obtain ⟨rfl, rfl⟩ := commits_pure.mp hitem
      obtain ⟨rfl, d, hd⟩ := workItemOf_getExecutionWorkItem hget
      obtain ⟨hsame, hrecoverable, hknown⟩ := hfound e (List.mem_cons_self ..)
      obtain rfl := Option.some.inj (hd.found.symm.trans hsame)
      obtain ⟨rfl, hitems⟩ := ih (fun other hmem => hfound other (List.mem_cons_of_mem _ hmem)) hrest
      exact ⟨rfl, .cons ⟨hd, hrecoverable, hknown⟩ hitems⟩

-- What the preparation leaves and returns: of the first requests of the queue those whose effect may
-- have happened have gone to reconciliation, and the other ones are returned.
theorem commits_prepareExecutionRecoveryWork {limit : Nat} {work : List ExecutionWorkItem}
    (h : (prepareExecutionRecoveryWork now limit).Commits s work s') :
    Diverted s ((((recoveryQueue s).take limit).filter fun e => isAmbiguous e.2.request).map (·.1))
        s' ∧
      (∀ e ∈ ((recoveryQueue s).take limit).filter fun e => ¬isAmbiguous e.2.request,
        s'.requests.find? e.1 = some e.2) ∧
      List.Forall₂ (Prepared s')
        (((recoveryQueue s).take limit).filter fun e => ¬isAmbiguous e.2.request) work := by
  have hnodup : (((recoveryQueue s).take limit).map (·.1)).Nodup :=
    (recoveryQueue_nodup s).sublist ((List.take_sublist ..).map _)
  have hlisted : ∀ e ∈ (recoveryQueue s).take limit,
      s.requests.find? e.1 = some e.2 ∧ isRecoverable s e.2.request :=
    fun e he => mem_recoveryQueue (List.mem_of_mem_take he)
  unfold prepareExecutionRecoveryWork at h
  simp only [commits_bind, commits_require, commits_get] at h
  obtain ⟨_, s₀, ⟨-, hs₀⟩, read, s₂, ⟨hread, hs₂⟩, _, s₁, hmark, hwork⟩ := h
  obtain rfl := hs₀.symm
  obtain rfl := hs₂.symm
  obtain rfl := hread.symm
  have hdiverted : Diverted s ((((recoveryQueue s).take limit).filter fun e =>
      isAmbiguous e.2.request).map (·.1)) s₁ := by
    refine diverted_forM ?_ (hnodup.sublist (List.filter_sublist.map _)) hmark
    intro e he
    obtain ⟨hmem, hambiguous⟩ := List.mem_filter.mp he
    simp only [isAmbiguous, decide_eq_true_eq] at hambiguous
    exact ⟨(hlisted e hmem).1, hambiguous.1, guard_of_isRecoverable (hlisted e hmem).2⟩
  have hfound : ∀ e ∈ ((recoveryQueue s).take limit).filter fun e => ¬isAmbiguous e.2.request,
      s₁.requests.find? e.1 = some e.2 ∧ isRecoverable s₁ e.2.request ∧
        isAmbiguous e.2.request = false := by
    intro e he
    obtain ⟨hmem, hnot⟩ := List.mem_filter.mp he
    have hknown : isAmbiguous e.2.request = false := by simpa using hnot
    rw [hdiverted.isRecoverable_eq, hdiverted.others e.1, (hlisted e hmem).1]
    · exact ⟨rfl, (hlisted e hmem).2, hknown⟩
    · intro hid
      obtain ⟨other, hother, heq⟩ := List.mem_map.mp hid
      obtain ⟨hmem', hambiguous⟩ := List.mem_filter.mp hother
      obtain rfl := List.inj_on_of_nodup_map hnodup hmem' hmem heq
      rw [hknown] at hambiguous
      cases hambiguous
  obtain ⟨rfl, hitems⟩ := prepared_of_mapM hfound hwork
  exact ⟨hdiverted, fun e he => (hfound e he).1, hitems⟩

end Transactions

namespace TenantStores

variable {α : Type} {tenants tenants' : TenantStores} {tenantId : String} {s s' : Store}

theorem ext_iff' : tenants = tenants' ↔
    tenants.stores = tenants'.stores ∧ tenants.receivedAt = tenants'.receivedAt := by
  cases tenants
  cases tenants'
  simp

theorem find?_put {id : String} : (tenants.put tenantId s).stores.find? id =
    if id = tenantId then some { s with tenantId } else tenants.stores.find? id := by
  rw [put, Table.find?_insert]

theorem tenantId_of_find? (h : tenants.stores.find? tenantId = some s) : s.tenantId = tenantId :=
  tenants.keyed _ (Table.mem_entries_iff.mpr h)

theorem put_find? (h : tenants.stores.find? tenantId = some s) : tenants.put tenantId s = tenants := by
  have hstore : { s with tenantId } = s := by
    rw [← tenantId_of_find? h]
  refine ext_iff'.mpr ⟨?_, rfl⟩
  change tenants.stores.insert tenantId { s with tenantId } = tenants.stores
  rw [hstore, Table.insert_find? h]

theorem put_put {s' : Store} :
    (tenants.put tenantId s).put tenantId s' = tenants.put tenantId s' :=
  ext_iff'.mpr ⟨Table.insert_insert .., rfl⟩

theorem withTenantTransaction_eq_ok {m : StoreTransaction α} {r : Option α} :
    withTenantTransaction tenantId m tenants = (.ok r, tenants') ↔
      (tenants.stores.find? tenantId = none ∧ r = none ∧ tenants' = tenants) ∨
      ∃ s a s', tenants.stores.find? tenantId = some s ∧ m.Commits s a s' ∧ r = some a ∧
        tenants' = tenants.put tenantId s' := by
  unfold withTenantTransaction
  cases hfind : tenants.stores.find? tenantId with
  | none   => simp [eq_comm]
  | some s =>
    simp only [reduceCtorEq, false_and, false_or, Option.some.injEq, exists_and_left,
      exists_eq_left']
    rcases commits_or_aborts m s with ⟨a, s₁, hcommits⟩ | ⟨e, haborts⟩
    · rw [show m.run s = .ok (a, s₁) from hcommits]
      constructor
      · intro h
        obtain ⟨hr, rfl⟩ := Prod.mk.inj h
        exact ⟨a, s₁, hcommits, (Except.ok.inj hr).symm, rfl⟩
      · rintro ⟨a', s', hcommits', rfl, rfl⟩
        obtain ⟨rfl, rfl⟩ := hcommits.deterministic hcommits'
        rfl
    · rw [show m.run s = .error e from haborts]
      constructor
      · intro h
        cases (Prod.mk.inj h).1
      · rintro ⟨a', s', hcommits', -⟩
        exact absurd haborts (not_aborts_of_commits hcommits')

end TenantStores

section Listing

variable {now : Timestamp} {tenants tenants' : TenantStores} {tenantId : String} {s s₀ : Store}
  {e : String × RefundRequestDetail} {item : ExecutionWorkItem}
  {listed : List (String × RefundRequestDetail)} {work : List ExecutionWorkItem}
  {found : List ApprovedRefundExecution}

-- The candidates of a tenant for the requests, none of which the handler rejects
structure CandidatesOf (tenantId : String) (listed : List (String × RefundRequestDetail))
    (found : List ApprovedRefundExecution) : Prop where
  jobs     : found.map executeRefundJob =
    (listed.filter fun e => recoveryOutcome e = .enqueued).map fun e => ⟨tenantId, e.1⟩
  accepted : ∀ candidate ∈ found, isRejectedCandidate candidate = false

-- Of the tenants one has changed, of which the requests went to reconciliation.
def DivertedIn (tenants : TenantStores) (tenantId : String) (s : Store) (ids : List String)
    (tenants' : TenantStores) : Prop :=
  ∃ s', tenants' = tenants.put tenantId s' ∧ Diverted s ids s'

def divertedIds (listed : List (String × RefundRequestDetail)) : List String :=
  (listed.filter fun e => recoveryOutcome e = .diverted).map (·.1)

theorem find?_of_diverted {ids : List String} {s' : Store}
    (hs : tenants.stores.find? tenantId = some s) (h : Diverted s ids s') :
    (tenants.put tenantId s').stores.find? tenantId = some s' := by
  have hid : s'.tenantId = tenantId := h.tenantId.trans (TenantStores.tenantId_of_find? hs)
  rw [TenantStores.find?_put, if_pos rfl, ← hid]

theorem DivertedIn.trans {ids ids' : List String} {s' : Store} {tenants'' : TenantStores}
    (h : Diverted s ids s')
    (h' : DivertedIn (tenants.put tenantId s') tenantId s' ids' tenants'') :
    DivertedIn tenants tenantId s (ids ++ ids') tenants'' := by
  obtain ⟨s'', rfl, hdiverted⟩ := h'
  exact ⟨s'', TenantStores.put_put, h.trans hdiverted⟩

theorem CandidatesOf.append {found' : List ApprovedRefundExecution}
    {listed' : List (String × RefundRequestDetail)} (h : CandidatesOf tenantId listed found)
    (h' : CandidatesOf tenantId listed' found') :
    CandidatesOf tenantId (listed ++ listed') (found ++ found') where
  jobs               := by
    rw [List.map_append, h.jobs, h'.jobs, List.filter_append, List.map_append]
  accepted candidate := by
    rw [List.mem_append]
    exact fun hmem => hmem.elim (h.accepted candidate) (h'.accepted candidate)

theorem not_isRejectedCandidate (hitem : WorkItemOf s e.1 item e.2)
    (hrecoverable : isRecoverable s e.2.request) :
    isRejectedCandidate (approvedRefundExecution item) = false := by
  simp only [isRecoverable, decide_eq_true_eq] at hrecoverable
  obtain ⟨hpilot, -, hactive, hlive, hinstallation, -⟩ := hrecoverable
  rw [hitem.installation, Option.any_some, decide_eq_true_eq] at hinstallation
  have henvironment : e.2.request.environment ≠ .live := by
    intro heq
    rw [heq] at hpilot
    cases hpilot
  simp [isRejectedCandidate, approvedRefundExecution, hitem.tenant, hitem.request, hactive, hlive,
    hinstallation.1, henvironment]

theorem listPrepared_eq_ok (hs : tenants.stores.find? tenantId = some s)
    (hprepared : Prepared s₀ e item) (hid : s₀.tenantId = tenantId)
    (hfound : s.requests.find? e.1 = some e.2)
    (h : listPrepared now tenantId item tenants = (.ok found, tenants')) :
    DivertedIn tenants tenantId s (divertedIds [e]) tenants' ∧ CandidatesOf tenantId [e] found := by
  obtain ⟨hitem, hrecoverable, hnot⟩ := hprepared
  unfold listPrepared at h
  rw [hitem.id, hitem.request, hitem.execution] at h
  cases hkey : refundIdempotencyKey e.1 with
  | error _ =>
    rw [hkey] at h
    cases (Prod.mk.inj h).1
  | ok expectedIdempotencyKey =>
    rw [hkey] at h
    dsimp only at h
    split_ifs at h with hcannot hexecuting
    · obtain ⟨r, tenants₁, htransaction, hdone⟩ := andThen_eq_ok.mp h
      obtain ⟨rfl, rfl⟩ := done_eq_ok.mp hdone
      have houtcome : recoveryOutcome e = .diverted := by
        simp [recoveryOutcome, hnot, hkey, hcannot, hexecuting]
      rcases TenantStores.withTenantTransaction_eq_ok.mp htransaction with
        ⟨hnone, -, -⟩ | ⟨s₁, u, s', hs₁, hcommits, -, rfl⟩
      · rw [hnone] at hs
        cases hs
      obtain rfl := Option.some.inj (hs₁.symm.trans hs)
      have hdiverted := diverted_requireExecutionReconciliation hfound hexecuting
        (guard_of_isRecoverable hrecoverable) hcommits
      refine ⟨⟨s', rfl, by simpa [divertedIds, houtcome] using hdiverted⟩, ?_, ?_⟩
      · simp [houtcome]
      · exact fun _ hmem => nomatch hmem
    · obtain ⟨rfl, rfl⟩ := done_eq_ok.mp h
      have houtcome : recoveryOutcome e = .skipped := by
        simp [recoveryOutcome, hnot, hkey, hcannot, hexecuting]
      refine ⟨⟨s, (TenantStores.put_find? hs).symm, ?_⟩, ?_, ?_⟩
      · simpa [divertedIds, houtcome] using Diverted.refl
      · simp [houtcome]
      · exact fun _ hmem => nomatch hmem
    · obtain ⟨rfl, rfl⟩ := done_eq_ok.mp h
      have houtcome : recoveryOutcome e = .enqueued := by
        simp [recoveryOutcome, hnot, hkey, hcannot]
      refine ⟨⟨s, (TenantStores.put_find? hs).symm, ?_⟩, ?_, ?_⟩
      · simpa [divertedIds, houtcome] using Diverted.refl
      · simp [houtcome, executeRefundJob, approvedRefundExecution, hitem.id, hitem.tenantId, hid]
      · intro candidate hmem
        rw [List.mem_singleton.mp hmem]
        exact not_isRejectedCandidate hitem hrecoverable

theorem listWork_eq_ok (hs : tenants.stores.find? tenantId = some s) (hid : s₀.tenantId = tenantId)
    (hprepared : List.Forall₂ (Prepared s₀) listed work)
    (hfound : ∀ e ∈ listed, s.requests.find? e.1 = some e.2) (hnodup : (listed.map (·.1)).Nodup)
    (h : listWork now tenantId work tenants = (.ok found, tenants')) :
    DivertedIn tenants tenantId s (divertedIds listed) tenants' ∧
      CandidatesOf tenantId listed found := by
  induction hprepared generalizing tenants s found with
  | nil =>
    obtain ⟨rfl, rfl⟩ := done_eq_ok.mp h
    exact ⟨⟨s, (TenantStores.put_find? hs).symm, .refl⟩, rfl, fun _ hmem => nomatch hmem⟩
  | @cons e item listed work hhead hrest ih =>
    rw [listWork] at h
    obtain ⟨first, tenants₁, hfirst, h⟩ := andThen_eq_ok.mp h
    obtain ⟨rest, tenants₂, hwork, hdone⟩ := andThen_eq_ok.mp h
    obtain ⟨rfl, rfl⟩ := done_eq_ok.mp hdone
    rw [List.map_cons, List.nodup_cons] at hnodup
    obtain ⟨⟨s₁, rfl, hdiverted⟩, hcandidates⟩ :=
      listPrepared_eq_ok hs hhead hid (hfound e (List.mem_cons_self ..)) hfirst
    have hs₁ := find?_of_diverted hs hdiverted
    have hfound₁ : ∀ other ∈ listed, s₁.requests.find? other.1 = some other.2 := by
      intro other hother
      have hne : other.1 ≠ e.1 := fun heq => hnodup.1 (heq ▸ List.mem_map_of_mem hother)
      rw [hdiverted.others other.1 ?_]
      · exact hfound other (List.mem_cons_of_mem _ hother)
      · intro hmem
        obtain ⟨e', he', heq⟩ := List.mem_map.mp hmem
        rw [List.mem_singleton.mp (List.mem_filter.mp he').1] at heq
        exact hne heq.symm
    obtain ⟨hdivertedRest, hcandidatesRest⟩ := ih hs₁ hfound₁ hnodup.2 hwork
    have hids : divertedIds (e :: listed) = divertedIds [e] ++ divertedIds listed := by
      rw [divertedIds, divertedIds, divertedIds, ← List.map_append, ← List.filter_append,
        List.singleton_append]
    rw [hids]
    exact ⟨.trans hdiverted hdivertedRest, hcandidates.append hcandidatesRest⟩

theorem outcome_of_isAmbiguous (h : isAmbiguous e.2.request) : recoveryOutcome e = .diverted := by
  rw [recoveryOutcome, if_pos h]

theorem mem_divertedIds {id : String} :
    id ∈ divertedIds listed ↔ ∃ e ∈ listed, recoveryOutcome e = .diverted ∧ e.1 = id := by
  simp only [divertedIds, List.mem_map, List.mem_filter, decide_eq_true_eq, and_assoc]

-- The turn of a tenant: its requests are prepared, and the ones that are returned are listed.
theorem listTenant_eq_ok {limit : Nat} {r : Option (List ExecutionWorkItem)}
    {tenants₁ : TenantStores} (hs : tenants.stores.find? tenantId = some s)
    (hprepare : TenantStores.withTenantTransaction tenantId (prepareExecutionRecoveryWork now limit)
      tenants = (.ok r, tenants₁))
    (hwork : listWork now tenantId (r.getD []) tenants₁ = (.ok found, tenants')) :
    DivertedIn tenants tenantId s (divertedIds ((recoveryQueue s).take limit)) tenants' ∧
      CandidatesOf tenantId ((recoveryQueue s).take limit) found := by
  rcases TenantStores.withTenantTransaction_eq_ok.mp hprepare with
    ⟨hnone, -, -⟩ | ⟨s', work, s₁, hs', hcommits, rfl, rfl⟩
  · rw [hnone] at hs
    cases hs
  obtain rfl := Option.some.inj (hs.symm.trans hs')
  obtain ⟨hdiverted, hfound, hprepared⟩ := commits_prepareExecutionRecoveryWork hcommits
  have hs₁ := find?_of_diverted hs hdiverted
  have hnodup : (((recoveryQueue s).take limit).map (·.1)).Nodup :=
    (recoveryQueue_nodup s).sublist ((List.take_sublist ..).map _)
  obtain ⟨hrest, hcandidates⟩ := listWork_eq_ok hs₁ (TenantStores.tenantId_of_find? hs₁) hprepared
    hfound (hnodup.sublist (List.filter_sublist.map _)) hwork
  obtain ⟨s₂, rfl, htotal⟩ := DivertedIn.trans hdiverted hrest
  refine ⟨⟨s₂, rfl, htotal.congr fun id => ?_⟩, ?_, hcandidates.accepted⟩
  · simp only [List.mem_append, List.mem_map, mem_divertedIds, List.mem_filter]
    constructor
    · rintro (⟨e, ⟨hmem, hambiguous⟩, rfl⟩ | ⟨e, ⟨hmem, -⟩, houtcome, rfl⟩)
      · exact ⟨e, hmem, outcome_of_isAmbiguous hambiguous, rfl⟩
      · exact ⟨e, hmem, houtcome, rfl⟩
    · rintro ⟨e, hmem, houtcome, rfl⟩
      by_cases hambiguous : isAmbiguous e.2.request
      · exact .inl ⟨e, ⟨hmem, hambiguous⟩, rfl⟩
      · exact .inr ⟨e, ⟨hmem, by simpa using hambiguous⟩, houtcome, rfl⟩
  · rw [hcandidates.jobs, List.filter_filter]
    congr 1
    refine List.filter_congr fun e _ => ?_
    by_cases hambiguous : isAmbiguous e.2.request
    · simp [outcome_of_isAmbiguous hambiguous]
    · simp [hambiguous]

end Listing

end RefundDesk
