import RefundDesk.Repositories.Candidates
import RefundDesk.Worker.Reachable

namespace RefundDesk

open Transaction Relation RequestRepository TenantRepository

section Invariants

variable {keys : WorkerKeys} {admits : Operation → Prop} {s s' : Store} {id : String}
variable {d : RefundRequestDetail}

-- Every INSERT and every UPDATE of a request takes the lock of its payment before it looks at the
-- alerts of the payment, and an observation takes it before it writes one, so that the transactions
-- of a payment are serial. No request of a payment with an unresolved external refund is active.
theorem payment_protected {key : String ×ₗ String} {alert : ExternalRefundAlert}
    (h : Reachable keys admits s) (hd : s.requests.find? id = some d)
    (ha : s.alerts.find? key = some alert) (hopen : alert.reconciledAt = none)
    (hscope : (ofLex key).1 = d.request.installationId ∧
      alert.environment = d.request.environment ∧ alert.paymentKey = d.request.paymentKey) :
    d.request.workflowStatus ∉ [.pendingApproval, .approved, .executing] := by
  intro hactive
  have hprotected : s.hasPaymentProtection d.request :=
    Store.hasPaymentProtection_iff.mpr ⟨key, alert, ha, hscope.1, hscope.2.1, hscope.2.2, hopen⟩
  have hunprotected := h.sound.protection id d hd hactive
  simp [hprotected] at hunprotected

-- A candidate is marked as linked only when its request is linked to the refund.
theorem Operation.identifies {op : Operation} {refundId : String} {state : LinkedState}
    {time : Timestamp} {b : Bool}
    (h : op.calls id d (.markRefundCorrelationCandidateLinked refundId state time) b) :
    Identifies d refundId := by
  cases op <;> simp_all [Operation.calls, ObservationCall, ResolutionCall, protectiveCalls]

-- The rows of a request in a sound store, with candidates that follow the link.
structure LinksSound (d : RefundRequestDetail) : Prop where
  request    : RequestSound d
  candidates : CandidatesSound d

theorem LinksSound.created {now : Timestamp} {requestId : String} {input : CreateRefundRequestInput}
    (h : Created now s requestId d input) : LinksSound d := by
  refine ⟨.created h, ?_⟩
  obtain ⟨rfl, -, -⟩ := h
  constructor <;> simp

theorem LinksSound.step (h : ∀ id d, s.requests.find? id = some d → LinksSound d)
    (hstep : OperationStep keys admits s s') :
    ∀ id d, s'.requests.find? id = some d → LinksSound d := by
  obtain ⟨now, op, -, hc⟩ := hstep
  refine preserved_of_run (fun s => ∀ id d, s.requests.find? id = some d → LinksSound d)
    (fun _ _ hs hchange => ?_) (op.within_run hc) h
  refine hchange.eachRequest (P := fun _ => LinksSound) (fun hc => .created hc) ?_ hs
  intro env d call b d' _ hcall hd ho
  refine ⟨hd.request.outcome (Operation.soundCall hcall) ho, hd.candidates.outcome hd.request ?_ ho⟩
  rintro refundId state time rfl
  exact Operation.identifies hcall

theorem Reachable.linksSound (h : Reachable keys admits s) (hd : s.requests.find? id = some d) :
    LinksSound d := by
  obtain ⟨s₀, h₀, hrun⟩ := h
  exact preserved_of_run (fun s => ∀ id d, s.requests.find? id = some d → LinksSound d)
    (fun _ _ hs hstep => LinksSound.step hs hstep) hrun (by simp [h₀.requests]) id d hd

theorem candidatesKept_of_evolves {now : Timestamp} {footprint : Footprint}
    {d' : RefundRequestDetail} (h : Evolves now footprint id d d') : CandidatesKept d d' := by
  induction h with
  | refl => exact .of_eq rfl
  | tail _ hstep ih =>
    obtain ⟨env, -, -, call, b, -, ho⟩ := hstep
    exact ih.trans (candidatesKept_of_outcome ho)

theorem candidatesKept_of_run (hrun : ReflTransGen (OperationStep keys admits) s s')
    (hd : s.requests.find? id = some d) :
    ∃ d', s'.requests.find? id = some d' ∧ CandidatesKept d d' := by
  refine preserved_of_run (fun s' => ∃ d', s'.requests.find? id = some d' ∧ CandidatesKept d d') ?_
    hrun ⟨d, hd, .of_eq rfl⟩
  rintro s₁ s₂ hs ⟨now, op, -, hc⟩
  refine preserved_of_run (fun s' => ∃ d', s'.requests.find? id = some d' ∧ CandidatesKept d d')
    (fun _ _ hs hchange => ?_) (op.within_run hc) hs
  obtain ⟨d₁, hd₁, hk₁⟩ := hs
  obtain ⟨d₂, hd₂, hevolves⟩ := hchange.kept id d₁ hd₁
  exact ⟨d₂, hd₂, hk₁.trans (candidatesKept_of_evolves hevolves)⟩

-- A linked candidate is the refund that its request is linked to, so there is one at most; of two
-- candidates none is pending; and whatever runs later, a link stays one and an exact one exact.
theorem link_integrity (h : Reachable keys admits s)
    (hrun : ReflTransGen (OperationStep keys admits) s s') (hd : s.requests.find? id = some d) :
    CandidatesSound d ∧
      (∀ refundId candidate refundId' candidate', d.candidates.find? refundId = some candidate →
        d.candidates.find? refundId' = some candidate' → candidate.state.isLinked →
        candidate'.state.isLinked → refundId = refundId') ∧
      ∃ d', s'.requests.find? id = some d' ∧ CandidatesKept d d' := by
  have hsound := (h.linksSound hd).candidates
  refine ⟨hsound, ?_, candidatesKept_of_run hrun hd⟩
  intro refundId candidate refundId' candidate' hf hf' hs hs'
  have hl  := hsound.linked refundId candidate hf hs
  have hl' := hsound.linked refundId' candidate' hf' hs'
  exact Option.some.inj (hl.symm.trans hl')

end Invariants

namespace Pilot

-- A refund that was not made by the application.
def externalRefund : RefundObservation :=
  { refund with refundId := "re_2", metadataRequestId := none, metadataProof := none }

-- The store has the request and the alert of the refund, for the same payment.
def isAlerted (s : Store) : Bool :=
  match s.requests.find? requestId, s.alerts.find? (toLex ("i", "re_2")) with
  | some d, some alert =>
    alert.reconciledAt = none ∧ d.request.installationId = "i" ∧
      alert.environment = d.request.environment ∧ alert.paymentKey = d.request.paymentKey
  | _, _ => false

theorem alerted_of_runs : ∃ s d alert, Reachable keys (fun _ => True) s ∧
    s.requests.find? requestId = some d ∧
    s.alerts.find? (toLex ("i", "re_2")) = some alert ∧ alert.reconciledAt = none ∧
    "i" = d.request.installationId ∧ alert.environment = d.request.environment ∧
    alert.paymentKey = d.request.paymentKey := by
  have hruns : Store.pilot.runs keys
      (attempted ++ [(9000, .observeRefund (scanned externalRefund 9000))]) isAlerted := by
    decide +kernel
  obtain ⟨s, hreach, -, hs⟩ := Reachable.of_runs Store.pilot_initial hruns
  unfold isAlerted at hs
  split at hs
  case h_1 d alert hd ha =>
    obtain ⟨hopen, hi, he, hk⟩ := of_decide_eq_true hs
    exact ⟨s, d, alert, hreach, hd, ha, hopen, hi.symm, he, hk⟩
  case h_2 => simp at hs

end Pilot

theorem payment_protected_alerted : ∃ s d, Reachable Pilot.keys (fun _ => True) s ∧
    s.requests.find? Pilot.requestId = some d ∧
    d.request.workflowStatus ∉ [.pendingApproval, .approved, .executing] := by
  obtain ⟨s, d, alert, hreach, hd, ha, hopen, hscope⟩ := Pilot.alerted_of_runs
  exact ⟨s, d, hreach, hd, payment_protected hreach hd ha hopen hscope⟩

namespace Pilot

-- The scan has linked its unique candidate to the request.
def isUniquelyLinked (s : Store) : Bool :=
  (s.requests.find? requestId).any fun d =>
    (d.candidates.find? "re_1").any fun candidate => candidate.state = .uniqueLinked

def uniquelyLinked : List (Timestamp × Operation) :=
  attempted ++ [
    (5000, .recordReconciliationRequired requestId),
    (9000, .observeRefund (scanned refund 9000)),
    (9500, .commitReconciliationCheckpoint {
      installationId    := "i"
      previousWindowEnd := none
      window            := { start := 0, stop := 9000 }
      completedAt       := 9500
    })
  ]

theorem uniquelyLinked_of_runs : ∃ s d candidate, Reachable keys (fun _ => True) s ∧
    s.requests.find? requestId = some d ∧ d.candidates.find? "re_1" = some candidate ∧
    candidate.state = .uniqueLinked := by
  have hruns : Store.pilot.runs keys uniquelyLinked isUniquelyLinked := by decide +kernel
  obtain ⟨s, hreach, -, hs⟩ := Reachable.of_runs Store.pilot_initial hruns
  obtain ⟨d, hd, hs⟩ := (Option.any_eq_true _ _).mp hs
  obtain ⟨candidate, hc, hs⟩ := (Option.any_eq_true _ _).mp hs
  exact ⟨s, d, candidate, hreach, hd, hc, of_decide_eq_true hs⟩

end Pilot

theorem link_integrity_unique : ∃ (s : Store) (d : RefundRequestDetail)
    (candidate : RefundCorrelationCandidate), s.requests.find? Pilot.requestId = some d ∧
    d.candidates.find? "re_1" = some candidate ∧ candidate.state = .uniqueLinked ∧
    d.linkedRefundId = some "re_1" := by
  obtain ⟨s, d, candidate, hreach, hd, hc, hs⟩ := Pilot.uniquelyLinked_of_runs
  obtain ⟨hsound, -, -⟩ := link_integrity hreach .refl hd
  exact ⟨s, d, candidate, hd, hc, hs, hsound.linked "re_1" candidate hc (by simp [hs,
    CorrelationCandidateState.isLinked])⟩

end RefundDesk
