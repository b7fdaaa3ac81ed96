import RefundDesk.Repositories.Calls

namespace RefundDesk

open Transaction RequestRepository

-- What the columns of a request and its execution say about each other.
structure Coherent (row : RefundRequest) (execution : Option RefundExecution) : Prop where
  guard      : row.paymentGuardReleasedAt.isSome ↔ row.workflowStatus.isTerminal
  terminal   : row.terminalAt.isSome ↔ row.workflowStatus.isTerminal
  unstarted  :
    row.workflowStatus ∈ [.pendingApproval, .approved, .rejected, .canceled, .expired] →
    row.effectState = .notStarted
  absent     : row.workflowStatus ∈ [.stale, .failedTerminal] → row.effectState = .absenceProven
  succeeded  : row.workflowStatus = .succeeded → row.effectState = .identified ∧
    execution.bind (·.stripeRefundStatus) = some .succeeded
  identified : row.effectState = .identified → (execution.bind (·.stripeRefundId)).isSome

namespace Coherent

variable {env : TriggerEnv} {row new : RefundRequest} {execution : Option RefundExecution}

@[simp]
theorem stamped_iff : Coherent (row.stamped env new) execution ↔ Coherent new execution := by
  constructor <;> rintro ⟨_, _, _, _, _, _⟩ <;> constructor <;> simp_all

theorem move {call : RequestCall} (h : Coherent row execution) (hm : row.Move call new) :
    Coherent new execution := by
  obtain ⟨hg, ht, hu, ha, hs, hi⟩ := h
  cases hm <;> constructor <;>
    simp_all [RefundRequest.ended, RefundRequest.moved, WorkflowStatus.isTerminal]

theorem relink {execution' : RefundExecution} (h : Coherent row execution)
    (hlink : execution'.stripeRefundId.isSome)
    (hs : row.workflowStatus = .succeeded → execution'.stripeRefundStatus = some .succeeded) :
    Coherent row (some execution') where
  guard        := h.guard
  terminal     := h.terminal
  unstarted    := h.unstarted
  absent       := h.absent
  succeeded hw := ⟨(h.succeeded hw).1, hs hw⟩
  identified _ := hlink

theorem follow {input : IdentifiedRefundInput} {execution' : RefundExecution}
    (h : Coherent row execution) (hf : row.Follow input new)
    (hlink : execution'.stripeRefundId.isSome)
    (hstatus : execution'.stripeRefundStatus = input.stripeRefundStatus) :
    Coherent new (some execution') := by
  obtain ⟨hg, ht, hu, ha, hs, -⟩ := h
  cases hf with
  | corrected hw he hi =>
    constructor <;> simp_all [RefundRequest.moved, WorkflowStatus.isTerminal]
  | preserved hw he hp =>
    constructor <;> simp_all [RefundRequest.moved, WorkflowStatus.isTerminal]
  | converged hw he hp =>
    have hw : row.workflowStatus = .executing ∨ row.workflowStatus = .reconciliationRequired := by
      simpa using hw
    unfold followStatus
    split <;> rcases hw with hw | hw <;> constructor <;> simp_all [WorkflowStatus.isTerminal]

theorem possible (h : Coherent row execution) (hw : row.workflowStatus = .reconciliationRequired) :
    Coherent (row.moved row.workflowStatus .possible) execution := by
  obtain ⟨hg, ht, -, -, -, -⟩ := h
  constructor <;> simp_all [RefundRequest.moved, WorkflowStatus.isTerminal]

-- An applied status that leaves a success alone is a success.
theorem applied_status {input : IdentifiedRefundInput} {locked : RefundExecution}
    (ha : shouldApplyRefundObservation locked input = true)
    (hs : locked.stripeRefundStatus = some .succeeded)
    (hi : ¬(input.stripeRefundStatus = some .failed ∨ input.stripeRefundStatus = some .canceled)) :
    input.stripeRefundStatus = some .succeeded := by
  unfold shouldApplyRefundObservation at ha
  grind

theorem followed {d d' : RefundRequestDetail} {b : Bool} {input : IdentifiedRefundInput}
    {locked : RefundExecution} (h : Coherent d.request d.execution) (he : d.execution = some locked)
    (ha : shouldApplyRefundObservation locked input = true)
    (hf : Followed env input locked (recorded d input locked) b d') :
    Coherent d'.request d'.execution := by
  have hlink : (recordObservation input locked).stripeRefundId.isSome := rfl
  cases hf with
  | skipped hw hc =>
    refine h.relink hlink fun hs => ?_
    have hlocked := (h.succeeded hs).2
    rw [he] at hlocked
    exact applied_status ha hlocked fun hi => hc ⟨hs, hlocked, hi⟩
  | refused hw => exact h.relink hlink fun hs => (hw hs (h.succeeded hs).1).elim
  | once hf _ => exact stamped_iff.mpr (h.follow hf hlink rfl)
  | twice hw he hpossible _ hd hf _ =>
    subst hd hpossible
    exact stamped_iff.mpr (Coherent.follow (stamped_iff.mpr (h.possible hw)) hf hlink rfl)

theorem outcome {call : RequestCall} {d d' : RefundRequestDetail} {b : Bool}
    (h : Coherent d.request d.execution) (ho : Outcome env d call b d') :
    Coherent d'.request d'.execution := by
  cases ho with
  | refused => exact h
  | moved hm _ => exact stamped_iff.mpr (h.move hm)
  | noted _ => exact h
  | decided _ hd hm _ =>
    subst hd
    exact stamped_iff.mpr (h.move hm)
  | ensured _ => exact h
  | inserted hn hi =>
    rw [hn] at h
    have he : d.request.effectState ≠ .identified := fun he => by simpa using h.identified he
    exact { h with
      succeeded  := fun hs => (he (h.succeeded hs).1).elim
      identified := fun hi => (he hi).elim
    }
  | begun he | finished he =>
    rw [he] at h
    exact { h with }
  | unapplied _ _ _ => exact h
  | identified he _ ha _ _ hf => exact h.followed he ha hf
  | candidate _ _ _ => exact h
  | candidateLinked _ _ => exact h
  | candidatesConflicted => exact h

end Coherent

namespace RefundRequest

-- An image of the row that an UPDATE puts in the place of another one.
structure Succeeds (new old : RefundRequest) : Prop where
  version  : new.version = old.version + 1
  terminal : old.terminalAt ≠ none → new.terminalAt = old.terminalAt
  guard    : old.paymentGuardReleasedAt ≠ none →
    new.paymentGuardReleasedAt = old.paymentGuardReleasedAt
  snapshot : new.financialSnapshot = old.financialSnapshot

theorem Accepted.succeeds {env : TriggerEnv} {d : RefundRequestDetail} {new : RefundRequest}
    (h : Accepted env d new) : (d.request.stamped env new).Succeeds d.request where
  version    := by simpa using h.version
  terminal   := by simpa using h.terminal
  guard hold := by
    have hg := h.guard
    unfold validateGuardRelease at hg
    simpa [hold] using hg
  snapshot   := by simpa using h.snapshot

end RefundRequest

namespace RefundRequestDetail

variable {env : TriggerEnv} {d d' : RefundRequestDetail}

-- All the images of the row, the present one first.
def history (d : RefundRequestDetail) : List RefundRequest :=
  d.request :: d.images

-- Every image replaced the one before it in an UPDATE.
def Chronicled (d : RefundRequestDetail) : Prop :=
  d.history.IsChain RefundRequest.Succeeds

-- The images of the row that `d` has are the earlier ones of `d'`.
def Extends (d' d : RefundRequestDetail) : Prop :=
  d.history <:+ d'.history ∧ (d.Chronicled → d'.Chronicled)

theorem Extends.refl (d : RefundRequestDetail) : d.Extends d :=
  ⟨List.suffix_rfl, id⟩

theorem Extends.trans {d₁ d₂ d₃ : RefundRequestDetail} (h₂ : d₃.Extends d₂) (h₁ : d₂.Extends d₁) :
    d₃.Extends d₁ :=
  ⟨h₁.1.trans h₂.1, h₂.2 ∘ h₁.2⟩

theorem extends_replaceRow {new : RefundRequest} (h : RefundRequest.Accepted env d new) :
    (d.replaceRow (d.request.stamped env new)).Extends d :=
  ⟨List.suffix_cons _ _, fun hd => List.isChain_cons_cons.mpr ⟨h.succeeds, hd⟩⟩

theorem extends_followed {input : IdentifiedRefundInput} {locked : RefundExecution} {b : Bool}
    (h : Followed env input locked d b d') : d'.Extends d := by
  cases h with
  | skipped _ _        => exact .refl d
  | refused _          => exact .refl d
  | once _ ha          => exact extends_replaceRow ha
  | twice _ _ _ ha hd _ ha' =>
    subst hd
    exact (extends_replaceRow ha').trans (extends_replaceRow ha)

theorem extends_outcome {call : RequestCall} {b : Bool} (h : Outcome env d call b d') :
    d'.Extends d := by
  cases h with
  | moved _ ha => exact extends_replaceRow ha
  | decided _ hd _ ha =>
    subst hd
    have hx := extends_replaceRow ha
    exact hx
  | identified _ _ _ _ _ hf =>
    have hx := extends_followed hf
    exact hx
  | _ => exact .refl d

-- The first terminal timestamp and the first release of the guard stay in all later images.
theorem frozen_of_extends (h : d.history <:+ d'.history) (hd : d'.Chronicled) :
    (d.request.terminalAt ≠ none → d'.request.terminalAt = d.request.terminalAt) ∧
    (d.request.paymentGuardReleasedAt ≠ none →
      d'.request.paymentGuardReleasedAt = d.request.paymentGuardReleasedAt) := by
  obtain ⟨rows, hrows⟩ := h
  have frozen : ∀ (rows : List RefundRequest) (row : RefundRequest) (images : List RefundRequest),
      rows ++ d.history = row :: images → (row :: images).IsChain RefundRequest.Succeeds →
      (d.request.terminalAt ≠ none → row.terminalAt = d.request.terminalAt) ∧
      (d.request.paymentGuardReleasedAt ≠ none →
        row.paymentGuardReleasedAt = d.request.paymentGuardReleasedAt) := by
    intro rows
    induction rows with
    | nil =>
      intro row images heq _
      obtain ⟨rfl, -⟩ := List.cons_eq_cons.mp heq
      exact ⟨fun _ => rfl, fun _ => rfl⟩
    | cons row' rows ih =>
      intro row images heq hchain
      obtain ⟨rfl, hrest⟩ := List.cons_eq_cons.mp heq
      cases images with
      | nil                => simp [history] at hrest
      | cons older images  =>
        obtain ⟨hs, hchain⟩ := List.isChain_cons_cons.mp hchain
        obtain ⟨ht, hg⟩ := ih older images hrest hchain
        refine ⟨fun hn => ?_, fun hn => ?_⟩
        · exact (hs.terminal (ht hn ▸ hn)).trans (ht hn)
        · exact (hs.guard (hg hn ▸ hn)).trans (hg hn)
  exact frozen rows d'.request d'.images hrows hd

end RefundRequestDetail
end RefundDesk
