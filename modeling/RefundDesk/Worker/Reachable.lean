import RefundDesk.Repositories.StoreSoundness
import RefundDesk.Worker.ObservationSpecs

namespace RefundDesk

open Transaction Relation RequestRepository TenantRepository

theorem Operation.soundCall {op : Operation} {id : String} {d : RefundRequestDetail}
    {call : RequestCall} {b : Bool} (h : op.calls id d call b) : SoundCall d call b := by
  cases call with
  | markRefundIdentified input =>
    cases op <;> simp_all [Operation.calls, ObservationCall, ResolutionCall, SoundCall, protectiveCalls]
  | recordRefundCorrelationCandidate input =>
    cases op <;> simp_all [Operation.calls, ObservationCall, ResolutionCall, SoundCall, protectiveCalls]
  | _ => trivial

-- A tenant before its first request.
structure Store.Initial (s : Store) : Prop where
  requests    : s.requests = .empty
  alerts      : s.alerts = .empty
  receipts    : s.receipts = .empty
  checkpoints : s.checkpoints = .empty

section Reachable

variable {keys : WorkerKeys} {admits : Operation → Prop} {s s' : Store}

-- A committed transaction of the application, at any time of the database clock.
def OperationStep (keys : WorkerKeys) (admits : Operation → Prop) (s s' : Store) : Prop :=
  ∃ now op, admits op ∧ (Operation.run keys now op).Commits s () s'

-- The stores that the admitted transactions reach, in any order and at any times.
def Reachable (keys : WorkerKeys) (admits : Operation → Prop) (s : Store) : Prop :=
  ∃ s₀ : Store, s₀.Initial ∧ ReflTransGen (OperationStep keys admits) s₀ s

theorem Store.Initial.sound (h : s.Initial) : StoreSound s := by
  constructor <;> simp [h.requests, h.alerts]

theorem StoreSound.step (h : StoreSound s) (hstep : OperationStep keys admits s s') :
    StoreSound s' := by
  obtain ⟨now, op, _, hc⟩ := hstep
  exact preserved_of_run StoreSound
    (fun _ _ hs hchange => hchange.sound (fun _ _ _ _ => Operation.soundCall) hs)
    (op.within_run hc) h

theorem Reachable.sound (h : Reachable keys admits s) : StoreSound s := by
  obtain ⟨s₀, h₀, hrun⟩ := h
  exact preserved_of_run StoreSound (fun _ _ hs hstep => hs.step hstep) hrun h₀.sound

theorem Reachable.step (h : Reachable keys admits s) {now : Timestamp} {op : Operation}
    (hop : admits op) (hc : (op.run keys now).Commits s () s') : Reachable keys admits s' := by
  obtain ⟨s₀, h₀, hrun⟩ := h
  exact ⟨s₀, h₀, hrun.tail ⟨now, op, hop, hc⟩⟩

-- The store after a list of transactions, each at its time of the database clock.
def Store.after (keys : WorkerKeys) (s : Store) : List (Timestamp × Operation) →
    Except StoreError Store
  | []               => .ok s
  | (now, op) :: ops =>
    match (op.run keys now).run s with
    | .error e    => .error e
    | .ok (_, s') => s'.after keys ops

theorem Store.commits_of_after {now : Timestamp} {op : Operation}
    {ops : List (Timestamp × Operation)} (h : s.after keys ((now, op) :: ops) = .ok s') :
    ∃ s₁, (op.run keys now).Commits s () s₁ ∧ s₁.after keys ops = .ok s' := by
  unfold Store.after at h
  split at h
  case h_1 => cases h
  case h_2 u s₁ hrun => exact ⟨s₁, hrun, h⟩

theorem Reachable.after {ops : List (Timestamp × Operation)} (h : Reachable keys admits s)
    (hops : ∀ op ∈ ops, admits op.2) (hs : s.after keys ops = .ok s') :
    Reachable keys admits s' := by
  induction ops generalizing s with
  | nil =>
    obtain rfl := Except.ok.inj hs
    exact h
  | cons op ops ih =>
    obtain ⟨now, op⟩ := op
    obtain ⟨s₁, hc, hafter⟩ := Store.commits_of_after hs
    exact ih (h.step (hops (now, op) (by simp)) hc) (fun op hop => hops op (by simp [hop])) hafter

-- A property of the store that the transactions lead to.
def Store.runs (keys : WorkerKeys) (s : Store) (ops : List (Timestamp × Operation))
    (p : Store → Bool) : Bool :=
  match s.after keys ops with
  | .error _ => false
  | .ok s'   => p s'

theorem Reachable.of_runs {ops : List (Timestamp × Operation)} {p : Store → Bool}
    (h : s.Initial) (hruns : s.runs keys ops p) :
    ∃ s', Reachable keys (fun _ => True) s' ∧ s.after keys ops = .ok s' ∧ p s' := by
  unfold Store.runs at hruns
  split at hruns
  case h_1 => cases hruns
  case h_2 s' hs' =>
    have hreach : Reachable keys (fun _ => True) s := ⟨s, h, .refl⟩
    exact ⟨s', hreach.after (fun _ _ => trivial) hs', hs', hruns⟩

end Reachable

theorem Store.pilot_initial : Store.pilot.Initial :=
  ⟨rfl, rfl, rfl, rfl⟩

namespace Pilot

-- A keyring that accepts one proof and one signature.
def keys : WorkerKeys where
  hashFields _                      := "hash"
  verifyRefundProof payload proof   := payload.requestId = requestId ∧ proof = "proof"
  verifyApprovalAttestation _ _ mac := mac = "mac"

def idempotencyKey : String :=
  "refunddesk:refund-request:" ++ requestId ++ ":v1"

def attestation : ApprovalAttestation where
  installationId            := "i"
  requestId                 := requestId
  approverUserId            := "approver"
  requestNonce              := "nonce"
  stripeAccountId           := "acct_1"
  environment               := .test
  resourceType              := .paymentIntent
  resourceId                := "pi_1"
  requestVersion            := 0
  signedEnvelopeHash        := "envelope"
  authorizationSnapshotHash := "hash"
  verifiedAt                := 2000
  consumeBefore             := 50000
  hmacKeyVersion            := "v1"
  hmac                      := "mac"

def approval : ApprovalDecision where
  approverUserId        := "approver"
  decision              := .approve
  approvalAttestationId := some "a"
  decidedAt             := 2000

-- The transactions after which the first attempt of the request may call Stripe.
def attempted : List (Timestamp × Operation) := [
  (1000, .createRefundRequest requestId input),
  (2000, .persistApprovalAttestation "a" attestation),
  (2000, .recordDecision requestId approval 2000),
  (3000, .loadRefundExecution requestId 3000),
  (4000, .persistEffectBoundary requestId idempotencyKey 4000)
]

-- The refund that the attempt makes.
def refund : RefundObservation where
  refundId          := "re_1"
  paymentIntentId   := "pi_1"
  chargeId          := "ch_1"
  amountMinor       := 500
  currency          := "eur"
  status            := some .succeeded
  created           := 5
  metadataRequestId := requestId
  metadataProof     := "proof"

-- What a scan observes of a refund.
def scanned (refund : RefundObservation) (time : Timestamp) : ObserveRefundInput where
  installationId := "i"
  environment    := .test
  refund         := refund
  source         := .scan time
  observedAt     := time

end Pilot
end RefundDesk
