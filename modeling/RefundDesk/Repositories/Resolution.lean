import RefundDesk.Repositories.Reconciliation
import RefundDesk.Repositories.RequestSpecs

namespace RefundDesk

open Transaction RequestRepository

namespace TenantRepository

variable {env : TriggerEnv} {window : ScanWindow} {conflict : Bool} {resolvedAt : Timestamp}
variable {d d' : RefundRequestDetail} {r : CandidateResolution} {refundId : String}
variable {candidate : RefundCorrelationCandidate}

-- The scan decides about a request whose execution it covers and that has no link yet.
structure Decides (window : ScanWindow) (d : RefundRequestDetail) : Prop where
  unlinked : ∃ execution, d.execution = some execution ∧ execution.stripeRefundId = none
  covered  : scanCoversExecution window d.request

-- The only candidate of the request, which the scan can link.
structure Linkable (d : RefundRequestDetail) (refundId : String)
    (candidate : RefundCorrelationCandidate) : Prop where
  unique : d.candidates.entries = [(refundId, candidate)]
  event  : candidate.eventIdempotencyCorrelation = .absent
  seen   : candidate.lastSeenScanWindowEnd ≠ none
  state  : candidate.state ≠ .conflict

-- The observation that a scan makes of a candidate that it links.
def uniqueObservation (conflict : Bool) (resolvedAt : Timestamp) (refundId : String)
    (candidate : RefundCorrelationCandidate) : IdentifiedRefundInput where
  stripeRefundId           := refundId
  stripeRefundStatus       := candidate.stripeRefundStatus
  reconciliationResolution := if conflict then .preserve else .resolve
  stripeRequestId          := none
  stripeEventId            := candidate.stripeEventId
  stripeEventCreatedAt     := candidate.stripeEventId.map fun _ =>
    candidate.stripeEventCreatedAt.getD candidate.stripeCreatedAt
  observedAt               := resolvedAt

-- The ways in which a completed scan can leave a request that it visits.
inductive Resolution (env : TriggerEnv) (window : ScanWindow) (conflict : Bool)
    (resolvedAt : Timestamp) (d : RefundRequestDetail) :
    CandidateResolution → RefundRequestDetail → Prop
  | skipped :
    ¬Decides window d → Resolution env window conflict resolvedAt d .skipped d
  | contested {b d'} :
    Decides window d → d.candidates.entries = [] → conflict = true →
    (markReconciliationRequired env).Commits d b d' →
    Resolution env window conflict resolvedAt d .conflict d'
  | absent {d₁ d'} :
    Decides window d → d.candidates.entries = [] → conflict = false →
    (markAbsenceProven env).Commits d true d₁ →
    (resumeExecutionAfterAbsence env resolvedAt).Commits d₁ true d' →
    Resolution env window conflict resolvedAt d .resolved d'
  | undecided {r d₁ b d'} :
    Decides window d → d.candidates.entries ≠ [] → (∀ id row, ¬Linkable d id row) →
    d₁ = d ∨ d₁ = { d with candidates := d.candidates.map conflicted } →
    (markReconciliationRequired env).Commits d₁ b d' →
    Resolution env window conflict resolvedAt d r d'
  | linked {refundId candidate d₁ b d'} :
    Decides window d → Linkable d refundId candidate →
    (markRefundIdentified env
      (uniqueObservation conflict resolvedAt refundId candidate)).Commits d true d₁ →
    (markRefundCorrelationCandidateLinked refundId .uniqueLinked resolvedAt).Commits d₁ b d' →
    Resolution env window conflict resolvedAt d (if conflict then .conflict else .resolved) d'

theorem list_perm (d : RefundRequestDetail) :
    (listRefundCorrelationCandidates d).Perm d.candidates.entries :=
  List.perm_insertionSort _ _

-- The candidate that the scan looks at is the one it can link, if there is one.
theorem linkable_of_decision {rest : List (String × RefundCorrelationCandidate)}
    (hlist : listRefundCorrelationCandidates d = (refundId, candidate) :: rest)
    (hdecision : decideRefundCandidate {
      linkedRefundId           := none
      candidateRefundId        := refundId
      eventIdempotencyEvidence := candidate.eventIdempotencyCorrelation
      candidateCount           := max 1 (listRefundCorrelationCandidates d).length
      completeScan             := true
      scanCoversExecution      := true
    } = .linkUnique)
    (hseen : candidate.lastSeenScanWindowEnd ≠ none) (hstate : candidate.state ≠ .conflict) :
    Linkable d refundId candidate := by
  have hcases : candidate.eventIdempotencyCorrelation = .absent ∧ rest = [] := by
    cases hc : candidate.eventIdempotencyCorrelation <;>
      simp [decideRefundCandidate, hc, hlist] at hdecision ⊢
    exact hdecision
  obtain ⟨hevent, rfl⟩ := hcases
  refine ⟨?_, hevent, hseen, hstate⟩
  exact List.perm_singleton.mp (hlist ▸ (list_perm d).symm)

theorem not_linkable_of_decision {rest : List (String × RefundCorrelationCandidate)}
    (hlist : listRefundCorrelationCandidates d = (refundId, candidate) :: rest)
    (h : decideRefundCandidate {
        linkedRefundId           := none
        candidateRefundId        := refundId
        eventIdempotencyEvidence := candidate.eventIdempotencyCorrelation
        candidateCount           := max 1 (listRefundCorrelationCandidates d).length
        completeScan             := true
        scanCoversExecution      := true
      } ≠ .linkUnique ∨ candidate.lastSeenScanWindowEnd = none ∨ candidate.state = .conflict)
    (id : String) (row : RefundCorrelationCandidate) : ¬Linkable d id row := by
  rintro ⟨hunique, hevent, hseen, hstate⟩
  have hperm := list_perm d
  rw [hunique, hlist] at hperm
  obtain ⟨⟨rfl, rfl⟩, rfl⟩ : (refundId = id ∧ candidate = row) ∧ rest = [] := by
    simpa using List.perm_singleton.mp hperm
  rcases h with h | h | h
  · exact h (by simp [decideRefundCandidate, hevent, hlist])
  · exact hseen h
  · exact hstate h

theorem resolution_of_resolveWithoutCandidate (hd : Decides window d)
    (hempty : d.candidates.entries = [])
    (h : (resolveWithoutCandidate conflict resolvedAt env).Commits d r d') :
    Resolution env window conflict resolvedAt d r d' := by
  simp only [resolveWithoutCandidate, commits_ite, commits_bind, commits_require, commits_pure] at h
  rcases h with ⟨hconflict, _, _, h, rfl, rfl⟩ | ⟨hconflict, _, d₁, h₁, _, _, ⟨rfl, rfl⟩, _, _, h₂,
    _, _, ⟨rfl, rfl⟩, rfl, rfl⟩
  · exact .contested hd hempty hconflict h
  · exact .absent hd hempty (by simpa using hconflict) h₁ h₂

theorem resolution_of_linkUniqueCandidate (hd : Decides window d)
    (hl : Linkable d refundId candidate)
    (h : (linkUniqueCandidate conflict resolvedAt refundId candidate env).Commits d r d') :
    Resolution env window conflict resolvedAt d r d' := by
  simp only [linkUniqueCandidate, commits_bind, commits_require, commits_pure] at h
  obtain ⟨_, d₁, h₁, _, _, ⟨rfl, rfl⟩, _, _, h₂, rfl, rfl⟩ := h
  exact .linked hd hl h₁ h₂

theorem resolution_of_resolveRequest
    (h : (resolveRequest window conflict resolvedAt env).Commits d r d') :
    Resolution env window conflict resolvedAt d r d' := by
  simp only [resolveRequest, commits_bind, commits_get, exists_and_left, exists_eq_left,
    and_assoc] at h
  split at h
  case h_1 he =>
    obtain ⟨rfl, rfl⟩ := commits_pure.mp h
    exact .skipped fun hd => by
      obtain ⟨_, hsome, _⟩ := hd.unlinked
      simp [he] at hsome
  case h_2 execution he =>
    rcases commits_ite.mp h with ⟨hlink, h⟩ | ⟨hlink, h⟩
    · obtain ⟨rfl, rfl⟩ := commits_pure.mp h
      exact .skipped fun hd => by
        obtain ⟨_, hsome, hnone⟩ := hd.unlinked
        obtain rfl := Option.some.inj (he.symm.trans hsome)
        exact hlink hnone
    rcases commits_ite.mp h with ⟨hcover, h⟩ | ⟨hcover, h⟩
    · obtain ⟨rfl, rfl⟩ := commits_pure.mp h
      exact .skipped fun hd => by simp [hd.covered] at hcover
    have hdecides : Decides window d := {
      unlinked := ⟨execution, he, not_not.mp hlink⟩
      covered  := by simpa using hcover
    }
    split at h
    case h_1 hlist =>
      have hempty : d.candidates.entries = [] := (hlist ▸ list_perm d).nil_eq.symm
      exact resolution_of_resolveWithoutCandidate hdecides hempty h
    case h_2 refundId candidate rest hlist =>
      have hne : d.candidates.entries ≠ [] := fun hempty => by
        have hperm := list_perm d
        simp [hlist, hempty] at hperm
      rcases commits_ite.mp h with ⟨hdecision, h⟩ | ⟨_, h⟩
      · simp only [conflictPendingCandidates, commits_bind, commits_modify, commits_pure] at h
        obtain ⟨_, _, rfl, _, _, h, rfl, rfl⟩ := h
        have hnone := not_linkable_of_decision hlist (.inl (by simp [hdecision]))
        exact .undecided hdecides hne hnone (.inr rfl) h
      rcases commits_ite.mp h with ⟨hwait, h⟩ | ⟨hlink, h⟩
      · simp only [commits_bind, commits_pure] at h
        obtain ⟨_, _, h, rfl, rfl⟩ := h
        exact .undecided hdecides hne (not_linkable_of_decision hlist hwait) (.inl rfl) h
      · rw [not_or, not_or, not_not] at hlink
        exact resolution_of_linkUniqueCandidate hdecides
          (linkable_of_decision hlist hlink.1 hlink.2.1 hlink.2.2) h

end TenantRepository
end RefundDesk
