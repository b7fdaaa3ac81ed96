import RefundDesk.Domain.ProofTokens
import RefundDesk.Repositories.Approvals
import RefundDesk.Worker.AttemptsKept
import RefundDesk.Worker.ExecutionJob
import RefundDesk.Worker.ExecutionSpecs
import RefundDesk.Worker.Reachable

namespace RefundDesk

open Transaction Script Relation RequestRepository TenantRepository WorkerStore

-- The jobs that are started, each with the keys of its worker.
structure ExecutionJobs where
  keys     : Nat → WorkerKeys
  proofs   : Nat → RefundProofKeyring
  requests : Nat → String

variable (jobs : ExecutionJobs)

-- What happens around the jobs on the rows of a tenant: any transaction of the application, with the
-- keys of any worker. Stripe and the clock may answer anything.
def executionSurroundings : Surroundings Store ExecutionFailure ExecutionCall.Reply Unit where
  starts i script := script = handleRefundExecutionJob (jobs.proofs i) (jobs.requests i)
  answers i s call :=
    match call with
    | .loadRefundExecution requestId => fun r s' =>
      ∃ now time, (loadRefundExecution (jobs.keys i) now requestId time).Answers s r s'
    | .persistEffectBoundary requestId key time => fun r s' =>
      ∃ now, (persistEffectBoundary (jobs.keys i) now requestId key time).Answers s r s'
    | .record outcome => fun r s' => ∃ now, (outcome.run (jobs.keys i) now).Answers s r s'
    | .retrievePayment _ _ _ _ | .sendRefund _ | .receiveRefund _ | .now => fun _ s' => s' = s
  disturbs s s' := ∃ keys, OperationStep keys (fun _ => True) s s'

abbrev Executions := Concurrent Store ExecutionFailure ExecutionCall.Reply Unit

-- The job has been given the record.
def Loads (record : RefundExecutionRecord) : Event ExecutionCall.Reply → Prop
  | ⟨.loadRefundExecution _, r⟩ => r = Except.ok (some record)
  | _                           => False

-- The job has crossed the effect boundary of the request with the attempt.
def CrossesWith (requestId key : String) (attemptNumber : Nat) :
    Event ExecutionCall.Reply → Prop
  | ⟨.persistEffectBoundary id k _, r⟩ => id = requestId ∧ k = key ∧ ∃ boundaryKey,
    r = Except.ok (.execute attemptNumber boundaryKey)
  | _                                  => False

def Sends (input : CreateRefundInput) : Event ExecutionCall.Reply → Prop
  | ⟨.sendRefund input', _⟩ => input' = input
  | _                       => False

def ExecutionCall.isSend : ExecutionCall → Bool
  | sendRefund _ => true
  | _            => false

-- Where the request to Stripe comes from: a record that the job has loaded, with the proof of its
-- worker, for the attempt with which it has crossed the effect boundary.
def PreparedRefund (proofs : RefundProofKeyring) (t : List (Event ExecutionCall.Reply))
    (input : CreateRefundInput) : Prop :=
  ∃ record proof key attemptNumber, (∃ e ∈ t, Loads record e) ∧
    (∃ e ∈ t, CrossesWith record.requestId key attemptNumber e) ∧
    refundIdempotencyKey record.requestId = .ok key ∧
    proofs.sign record.proofPayload = .ok proof ∧ input = record.createRefundInput proof key

-- A job calls Stripe at most once, and only for an attempt that is in the database.
def executionContract (i : Nat) : Contract ExecutionCall.Reply where
  rely _ _ _ := True
  guarantee t call :=
    match call with
    | .sendRefund input => PreparedRefund (jobs.proofs i) t input ∧ ∀ e ∈ t, e.1.isSend = false
    | _                 => True

section Contract

variable {jobs} {i : Nat} {record : RefundExecutionRecord} {t : List (Event ExecutionCall.Reply)}
variable {α β : Type} {r : Except StoreError (Option RefundExecutionRecord)}

-- The script does not call Stripe to create a refund.
def Plain (jobs : ExecutionJobs) (i : Nat) (p : ExecutionScript α) : Prop :=
  ∀ t, p.Meets (executionContract jobs i)
    (fun t' _ => ∃ more, t' = t ++ more ∧ ∀ e ∈ more, e.1.isSend = false) t

namespace Plain

protected theorem pure (a : α) : Plain jobs i (pure a : ExecutionScript α) :=
  fun t => ⟨[], (List.append_nil t).symm, List.forall_mem_nil _⟩

protected theorem throw (failure : ExecutionFailure) :
    Plain jobs i (throw failure : ExecutionScript α) :=
  fun t => ⟨[], (List.append_nil t).symm, List.forall_mem_nil _⟩

protected theorem fromExcept (x : Except ExecutionFailure α) :
    Plain jobs i (fromExcept x : ExecutionScript α) := by
  cases x with
  | ok a          => exact .pure a
  | error failure => exact .throw failure

protected theorem perform {call : ExecutionCall} (h : call.isSend = false) :
    Plain jobs i (perform call : ExecutionScript call.Reply) := by
  intro t
  refine meets_perform.mpr ⟨?_, fun r _ => ⟨[⟨call, r⟩], rfl, by simpa using h⟩⟩
  cases call <;> trivial

protected theorem bind {p : ExecutionScript α} {f : α → ExecutionScript β} (hp : Plain jobs i p)
    (hf : ∀ a, Plain jobs i (f a)) : Plain jobs i (p >>= f) := by
  intro t
  refine meets_bind.mpr ((hp t).mono fun t' result hresult => ?_)
  obtain ⟨more, rfl, hmore⟩ := hresult
  cases result with
  | error failure => exact ⟨more, rfl, hmore⟩
  | ok a          =>
    refine (hf a (t ++ more)).mono fun t' result hresult => ?_
    obtain ⟨more', rfl, hmore'⟩ := hresult
    exact ⟨more ++ more', List.append_assoc .., List.forall_mem_append.mpr ⟨hmore, hmore'⟩⟩

theorem outcome (outcome : Operation) : Plain jobs i (ExecutionScript.record outcome) :=
  .bind (.perform rfl) fun _ => .fromExcept _

theorem markPreflightFailure (record : RefundExecutionRecord) (ambiguous : Bool) :
    Plain jobs i (markPreflightFailure record ambiguous) := by
  refine .bind (.perform rfl) fun time => ?_
  split_ifs
  · exact .outcome _
  · exact .outcome _

theorem revalidatePayment (record : RefundExecutionRecord) :
    Plain jobs i (revalidatePayment record) := by
  refine .bind (.perform rfl) fun r => ?_
  cases r with
  | error error =>
    dsimp only
    split_ifs
    · exact .throw _
    · exact .bind (.markPreflightFailure _ _) fun _ => .pure _
  | ok payment  =>
    dsimp only
    split_ifs
    · exact .bind (.markPreflightFailure _ _) fun _ => .pure _
    · refine .bind (.fromExcept _) fun eligibility => ?_
      cases eligibility with
      | error _ => exact .bind (.markPreflightFailure _ _) fun _ => .pure _
      | ok _    => exact .pure _

theorem recordAttemptFailure (requestId : String) (attemptNumber : Nat) (error : StripeError) :
    Plain jobs i (recordAttemptFailure requestId attemptNumber error) := by
  refine .bind (.perform rfl) fun time => ?_
  cases (normalizeStripeFailure error true).classification with
  | ambiguous => exact .outcome _
  | terminal  => exact .outcome _
  | retryable => exact .bind (.outcome _) fun _ => .throw _

theorem recordRefund (attemptNumber : Nat) (key : String) (refund : NormalizedRefund) :
    Plain jobs i (recordRefund record attemptNumber key refund) :=
  .bind (.fromExcept _) fun _ => .bind (.perform rfl) fun _ => .outcome _

end Plain

theorem Plain.meets {p : ExecutionScript α} (h : Plain jobs i p) :
    p.Meets (executionContract jobs i) (fun _ _ => True) t :=
  (h t).mono fun _ _ _ => trivial

theorem executeAttempt_meets {key : String} {attemptNumber : Nat}
    (hload : ∃ e ∈ t, Loads record e) (hunsent : ∀ e ∈ t, e.1.isSend = false)
    (hcross : ∃ e ∈ t, CrossesWith record.requestId key attemptNumber e)
    (hkey : refundIdempotencyKey record.requestId = .ok key) :
    (executeAttempt (jobs.proofs i) record attemptNumber key).Meets (executionContract jobs i)
      (fun _ _ => True) t := by
  refine meets_bind.mpr (meets_fromExcept.mpr ?_)
  cases hproof : (jobs.proofs i).sign record.proofPayload with
  | error _  => trivial
  | ok proof =>
    have hprepared : PreparedRefund (jobs.proofs i) t (record.createRefundInput proof key) :=
      ⟨record, proof, key, attemptNumber, hload, hcross, hkey, hproof, rfl⟩
    refine meets_bind.mpr ?_
    unfold DirectAccountStripeClient.createRefund
    split_ifs
    · exact meets_pure.mpr (Plain.recordAttemptFailure _ _ _).meets
    · exact meets_pure.mpr (Plain.recordAttemptFailure _ _ _).meets
    · refine ⟨⟨hprepared, hunsent⟩, fun _ _ => ⟨trivial, fun r _ => ?_⟩⟩
      cases r with
      | error error => exact (Plain.recordAttemptFailure _ _ _).meets
      | ok refund   => exact (Plain.recordRefund _ _ _).meets

theorem executeRecord_meets {id : String} (hload : Loads record ⟨.loadRefundExecution id, r⟩) :
    (executeRecord (jobs.proofs i) record).Meets (executionContract jobs i) (fun _ _ => True)
      [⟨.loadRefundExecution id, r⟩] := by
  refine meets_bind.mpr (meets_fromExcept.mpr ?_)
  cases record.assertPilotInstallation with
  | error _ => trivial
  | ok _    =>
  -- The key is replaced before the rules are applied, which would otherwise compute it.
  cases hkey : refundIdempotencyKey record.requestId with
  | error _ => exact meets_bind.mpr (meets_fromExcept.mpr trivial)
  | ok key  =>
  refine meets_bind.mpr (meets_fromExcept.mpr ?_)
  refine meets_bind.mpr ((Plain.revalidatePayment record _).mono fun t result ht => ?_)
  obtain ⟨more, rfl, hmore⟩ := ht
  cases result with
  | error _     => trivial
  | ok eligible =>
  cases eligible with
  | false => exact (Plain.pure ()).meets
  | true  =>
    refine ⟨trivial, fun (time : Timestamp) _ => ?_⟩
    refine ⟨trivial, fun boundary _ => ?_⟩
    have hunsent : ∀ e ∈ [⟨.loadRefundExecution id, r⟩] ++ more ++
        [(⟨.now, time⟩ : Event ExecutionCall.Reply)] ++
        [⟨.persistEffectBoundary record.requestId key time, boundary⟩], e.1.isSend = false := by
      simp only [List.forall_mem_append, List.forall_mem_singleton]
      exact ⟨⟨⟨rfl, hmore⟩, rfl⟩, rfl⟩
    rcases boundary with _ | ⟨attemptNumber, boundaryKey⟩ | _ | _ | _
    case ok.execute =>
      change Meets _ _ (if boundaryKey ≠ key then _ else _) _
      split_ifs
      · trivial
      · exact executeAttempt_meets ⟨_, by simp, hload⟩ hunsent
          ⟨_, List.mem_append_right _ (List.mem_singleton_self _), rfl, rfl, boundaryKey, rfl⟩ hkey
    all_goals trivial

theorem handleRefundExecutionJob_meets :
    (handleRefundExecutionJob (jobs.proofs i) (jobs.requests i)).Meets (executionContract jobs i)
      (fun _ _ => True) [] := by
  refine ⟨trivial, fun r _ => ?_⟩
  rcases r with _ | _ | record
  case error => trivial
  case ok.none => trivial
  case ok.some => exact executeRecord_meets rfl

end Contract

-- The record is of a stored request, with the account of its installation.
structure RecordOf (s : Store) (record : RefundExecutionRecord) (d : RefundRequestDetail) :
    Prop where
  found       : s.requests.find? record.requestId = some d
  tenantId    : record.tenantId = s.tenantId
  account     : (s.installations.find? d.request.installationId).map (·.stripeAccountId) =
    some record.stripeAccountId
  chargeId    : d.request.chargeId = some record.chargeId
  resource    : resourceOf d.request record.chargeId = (record.resourceType, record.resourceId)
  environment : record.environment = d.request.environment
  paymentKey  : record.paymentKey = d.request.paymentKey
  amountMinor : record.amountMinor = d.request.amountMinor
  currency    : record.currency = d.request.currency
  reason      : record.reason = d.request.reason

section Kept

variable {keys : WorkerKeys} {now : Timestamp} {s s' : Store} {record record' : RefundExecutionRecord}
variable {d d' : RefundRequestDetail}

-- What no transaction takes back: the requests with what they were made with, their attempts, and
-- the accounts of the installations.
structure Store.Kept (s s' : Store) : Prop where
  attempts  : s.KeepsAttempts s'
  snapshots : ∀ id d, s.requests.find? id = some d → ∃ d', s'.requests.find? id = some d' ∧
    d'.request.financialSnapshot = d.request.financialSnapshot
  grows     : Grows s s'

theorem Store.Kept.refl (s : Store) : s.Kept s :=
  ⟨.refl s, fun _ d hd => ⟨d, hd, rfl⟩, .refl s⟩

theorem Store.kept_of_run {op : Operation} {u : Unit} (h : (op.run keys now).Commits s u s') :
    s.Kept s' where
  attempts := .of_run h
  snapshots id d hd := by
    refine preserved_of_run (fun s' => ∃ d', s'.requests.find? id = some d' ∧
      d'.request.financialSnapshot = d.request.financialSnapshot) ?_ (op.within_run h) ⟨d, hd, rfl⟩
    rintro s₁ s₂ ⟨d₁, hd₁, hsame₁⟩ hchange
    obtain ⟨d₂, hd₂, -, hsame₂⟩ := hchange.decisions_kept hd₁
    exact ⟨d₂, hd₂, hsame₂.trans hsame₁⟩
  grows := preserved_of_run (Grows s) (fun _ _ hs hchange => hs.trans hchange.grows)
    (op.within_run h) (.refl s)

theorem RecordOf.kept (h : RecordOf s record d) (hs : s.Kept s') : ∃ d', RecordOf s' record d' := by
  obtain ⟨d', hd', hsame⟩ := hs.snapshots _ d h.found
  simp only [RefundRequest.financialSnapshot, RefundRequest.FinancialSnapshot.mk.injEq] at hsame
  obtain ⟨hinstallation, henvironment, hpaymentKey, hintent, hcharge, hamount, hcurrency, hreason,
    -⟩ := hsame
  refine ⟨d', {
    found       := hd'
    tenantId    := h.tenantId.trans hs.grows.tenantId.symm
    account     := by rw [hinstallation, hs.grows.accounts, h.account]
    chargeId    := hcharge.trans h.chargeId
    resource    := ?_
    environment := h.environment.trans henvironment.symm
    paymentKey  := h.paymentKey.trans hpaymentKey.symm
    amountMinor := h.amountMinor.trans hamount.symm
    currency    := h.currency.trans hcurrency.symm
    reason      := h.reason.trans hreason.symm
  }⟩
  rw [← h.resource, resourceOf, resourceOf, hintent]

theorem RecordOf.of_loaded {requestId : String} {item : ExecutionWorkItem}
    (h : LoadedItem keys s requestId item record) :
    record.requestId = requestId ∧ ∃ d, RecordOf s record d := by
  obtain ⟨-, d, hitem⟩ := workItemOf_getExecutionWorkItem h.read
  obtain ⟨chargeId, hcharge, rfl⟩ := h.charge
  refine ⟨hitem.id, d, {
    found       := (congrArg s.requests.find? hitem.id).trans hitem.found
    tenantId    := hitem.tenantId
    account     := by rw [hitem.installation]; rfl
    chargeId    := hitem.request ▸ hcharge
    resource    := by rw [← hitem.request]; rfl
    environment := by rw [← hitem.request]; rfl
    paymentKey  := by rw [← hitem.request]; rfl
    amountMinor := by rw [← hitem.request]; rfl
    currency    := by rw [← hitem.request]; rfl
    reason      := by rw [← hitem.request]; rfl
  }⟩

-- All records of a request say the same about the refund to be created.
theorem RecordOf.agree (h : RecordOf s record d) (h' : RecordOf s record' d')
    (hid : record.requestId = record'.requestId) :
    record.proofPayload = record'.proofPayload ∧
      ∀ proof key, record.createRefundInput proof key = record'.createRefundInput proof key := by
  have hd : d = d' := Option.some.inj (h.found.symm.trans (hid ▸ h'.found))
  subst hd
  have hcharge := Option.some.inj (h.chargeId.symm.trans h'.chargeId)
  have hresource := h.resource.symm.trans (hcharge ▸ h'.resource)
  have haccount := Option.some.inj (h.account.symm.trans h'.account)
  obtain ⟨htype, hresourceId⟩ := Prod.mk.inj hresource
  constructor
  · simp only [RefundExecutionRecord.proofPayload, h.tenantId, h'.tenantId, hid, haccount,
      h.paymentKey, h'.paymentKey, h.amountMinor, h'.amountMinor, h.currency, h'.currency,
      h.environment, h'.environment]
  · intro proof key
    simp only [RefundExecutionRecord.createRefundInput, hid, haccount, htype, hresourceId,
      h.amountMinor, h'.amountMinor, h.reason, h'.reason, h.environment, h'.environment]

end Kept

-- The events are not two crossings with the same attempt.
def Apart (e e' : Nat × Event ExecutionCall.Reply) : Prop :=
  ∀ id key key' n, CrossesWith id key n e.2 → ¬CrossesWith id key' n e'.2

instance : Std.Symm Apart where
  symm _ _ h id key key' n hcross hcross' := h id key' key n hcross' hcross

-- The records that the jobs have been given are of stored requests, the attempts of the crossings
-- are stored, no two crossings have the same attempt, and no job calls Stripe twice.
structure JobsSound (jobs : ExecutionJobs) (y : Executions) : Prop where
  loads     : ∀ i e record, (i, e) ∈ y.events → Loads record e → ∃ d, RecordOf y.state record d
  crossings : ∀ i e id key n, (i, e) ∈ y.events → CrossesWith id key n e →
    ∃ d, y.state.requests.find? id = some d ∧
      d.execution.map (·.idempotencyKey) = some key ∧ n ∈ d.attemptNumbers
  distinct  : y.events.Pairwise Apart
  prepared  : ∀ i e input, (i, e) ∈ y.events → Sends input e →
    PreparedRefund (jobs.proofs i) (Concurrent.eventsOf y.events i) input
  once      : y.events.Pairwise fun e e' => e.1 = e'.1 → e.2.1.isSend → e'.2.1.isSend = false

theorem PreparedRefund.mono {proofs : RefundProofKeyring} {t t' : List (Event ExecutionCall.Reply)}
    {input : CreateRefundInput} (h : PreparedRefund proofs t input) (ht : t ⊆ t') :
    PreparedRefund proofs t' input := by
  obtain ⟨record, proof, key, n, ⟨e, he, hload⟩, ⟨e', he', hcross⟩, hrest⟩ := h
  exact ⟨record, proof, key, n, ⟨e, ht he, hload⟩, ⟨e', ht he', hcross⟩, hrest⟩

namespace JobsSound

variable {jobs : ExecutionJobs} {y y' : Executions}

theorem idle (h : y.Idle) : JobsSound jobs y := by
  constructor <;> simp [h.2]

theorem kept (h : JobsSound jobs y) {s' : Store} (hs : y.state.Kept s') :
    JobsSound jobs { y with state := s' } where
  loads i e record he hload := by
    obtain ⟨d, hd⟩ := h.loads i e record he hload
    exact hd.kept hs
  crossings i e id key n he hcross := by
    obtain ⟨d, hd, hkey, hn⟩ := h.crossings i e id key n he hcross
    obtain ⟨d', hd', hkeeps⟩ := hs.attempts id d hd
    obtain ⟨execution, hexecution, hkey'⟩ := Option.map_eq_some_iff.mp hkey
    exact ⟨d', hd', hkey' ▸ hkeeps.key execution hexecution, hkeeps.attempts hn⟩
  distinct  := h.distinct
  prepared  := h.prepared
  once      := h.once

-- What the answer to a call means for the store.
structure Answered (s : Store) (e : Event ExecutionCall.Reply) (s' : Store) : Prop where
  kept      : s.Kept s'
  loads     : ∀ record, Loads record e → ∃ d, RecordOf s' record d
  crossings : ∀ id key n, CrossesWith id key n e →
    (∀ d, s.requests.find? id = some d → n ∉ d.attemptNumbers) ∧
    ∃ d, s'.requests.find? id = some d ∧
      d.execution.map (·.idempotencyKey) = some key ∧ n ∈ d.attemptNumbers

theorem kept_of_answers {α : Type} {m : StoreTransaction α} {op : Operation} {keys : WorkerKeys}
    {now : Timestamp} {s s' : Store} {r : Except StoreError α}
    (hop : ∀ ⦃a s'⦄, m.Commits s a s' → (op.run keys now).Commits s () s') (h : m.Answers s r s') :
    s.Kept s' := by
  rcases h.commits_or_eq with ⟨a, hc⟩ | rfl
  · exact Store.kept_of_run (hop hc)
  · exact .refl _

theorem answered_of_answers {i : Nat} {s s' : Store} {c : ExecutionCall} {r : c.Reply}
    (h : (executionSurroundings jobs).answers i s c r s') : Answered s ⟨c, r⟩ s' := by
  cases c with
  | loadRefundExecution requestId =>
    obtain ⟨now, time, h⟩ := h
    have hrun ⦃r : Option RefundExecutionRecord⦄ ⦃s' : Store⦄
        (hc : (loadRefundExecution (jobs.keys i) now requestId time).Commits s r s') :
        ((Operation.loadRefundExecution requestId time).run (jobs.keys i) now).Commits s () s' :=
      (commits_map _).mpr ⟨r, hc, rfl⟩
    refine ⟨kept_of_answers hrun h, fun record hload => ?_, fun _ _ _ hcross => hcross.elim⟩
    obtain rfl : r = _ := hload
    cases h with
    | committed hc =>
      obtain ⟨-, item, hitem⟩ := loadedItem_of_loadRefundExecution hc
      exact (RecordOf.of_loaded hitem).2
  | persistEffectBoundary requestId key time =>
    obtain ⟨now, h⟩ := h
    have hrun ⦃r : EffectBoundaryDecision⦄ ⦃s' : Store⦄
        (hc : (persistEffectBoundary (jobs.keys i) now requestId key time).Commits s r s') :
        ((Operation.persistEffectBoundary requestId key time).run (jobs.keys i) now).Commits s ()
          s' :=
      (commits_map _).mpr ⟨r, hc, rfl⟩
    refine ⟨kept_of_answers hrun h, fun record hload => hload.elim, fun id k n hcross => ?_⟩
    obtain ⟨rfl, rfl, boundaryKey, rfl⟩ := hcross
    cases h with
    | committed hc =>
      obtain ⟨-, d, d', hcrosses⟩ := crosses_of_persistEffectBoundary hc
      refine ⟨fun d₀ hd₀ => ?_, d', hcrosses.found', hcrosses.key, hcrosses.begun⟩
      obtain rfl := Option.some.inj (hcrosses.found.symm.trans hd₀)
      exact hcrosses.fresh
  | record outcome =>
    obtain ⟨now, h⟩ := h
    exact ⟨kept_of_answers (fun _ _ hc => hc) h, fun _ hload => hload.elim,
      fun _ _ _ hcross => hcross.elim⟩
  | _ =>
    obtain rfl : s' = s := h
    exact ⟨.refl _, fun _ hload => hload.elim, fun _ _ _ hcross => hcross.elim⟩

theorem answered (h : JobsSound jobs y) {i : Nat} {c : ExecutionCall} {r : c.Reply} {s' : Store}
    {scripts : Nat → Option (ExecutionScript Unit)}
    (hg : (executionContract jobs i).guarantee (Concurrent.eventsOf y.events i) c)
    (ha : Answered y.state ⟨c, r⟩ s') :
    JobsSound jobs { state := s', scripts, events := y.events ++ [(i, ⟨c, r⟩)] } where
  loads j e record he hload := by
    rcases List.mem_append.mp he with he | he
    · exact (h.kept ha.kept).loads j e record he hload
    · obtain ⟨rfl, rfl⟩ := Prod.mk.inj (List.mem_singleton.mp he)
      exact ha.loads record hload
  crossings j e id key n he hcross := by
    rcases List.mem_append.mp he with he | he
    · exact (h.kept ha.kept).crossings j e id key n he hcross
    · obtain ⟨rfl, rfl⟩ := Prod.mk.inj (List.mem_singleton.mp he)
      exact (ha.crossings id key n hcross).2
  distinct := by
    refine List.pairwise_append.mpr ⟨h.distinct, List.pairwise_singleton _ _, ?_⟩
    intro e he e' he' id key key' n hcross hcross'
    obtain rfl := List.mem_singleton.mp he'
    obtain ⟨d, hd, -, hn⟩ := h.crossings e.1 e.2 id key n he hcross
    exact (ha.crossings id key' n hcross').1 d hd hn
  prepared j e input he hsends := by
    have hsubset : Concurrent.eventsOf y.events j ⊆
        Concurrent.eventsOf (y.events ++ [(i, ⟨c, r⟩)]) j := fun e he =>
      Concurrent.mem_eventsOf.mpr (List.mem_append_left _ (Concurrent.mem_eventsOf.mp he))
    rcases List.mem_append.mp he with he | he
    · exact (h.prepared j e input he hsends).mono hsubset
    · obtain ⟨rfl, rfl⟩ := Prod.mk.inj (List.mem_singleton.mp he)
      cases c with
      | sendRefund input' =>
        obtain rfl : input' = input := hsends
        exact hg.1.mono hsubset
      | _ => exact hsends.elim
  once := by
    refine List.pairwise_append.mpr ⟨h.once, List.pairwise_singleton _ _, ?_⟩
    intro e he e' he' hjob hsend
    obtain rfl := List.mem_singleton.mp he'
    cases c with
    | sendRefund input =>
      have hmem : e.2 ∈ Concurrent.eventsOf y.events i := by
        rw [← show e.1 = i from hjob]
        exact Concurrent.mem_eventsOf.mpr he
      exact absurd hsend (by rw [hg.2 e.2 hmem]; exact Bool.false_ne_true)
    | _ => rfl

theorem step (hmeets : y.Meets (executionContract jobs) fun _ _ _ => True) (h : JobsSound jobs y)
    (hstep : Concurrent.Step (executionSurroundings jobs) y y') : JobsSound jobs y' := by
  cases hstep with
  | started _ _    => exact { h with }
  | answered hi ha => exact h.answered (hmeets.guarantee hi) (answered_of_answers ha)
  | disturbed hd   =>
    obtain ⟨keys, now, op, -, hc⟩ := hd
    exact h.kept (Store.kept_of_run hc)

theorem of_run (hidle : y.Idle)
    (hrun : ReflTransGen (Concurrent.Step (executionSurroundings jobs)) y y') :
    JobsSound jobs y' := by
  have hstarts : ∀ i script, (executionSurroundings jobs).starts i script →
      script.Meets (executionContract jobs i) (fun _ _ => True) [] := by
    rintro i script rfl
    exact handleRefundExecutionJob_meets
  exact (Concurrent.meets_of_run (JobsSound jobs) hstarts (fun _ _ _ _ _ _ _ => trivial)
    (fun _ _ hmeets hy hstep => hy.step hmeets hstep) hidle (idle hidle) hrun).2

end JobsSound

-- The job has sent the request to Stripe, whatever becomes of it.
def Sent (y : Executions) (i : Nat) (input : CreateRefundInput) : Prop :=
  ∃ e, (i, e) ∈ y.events ∧ Sends input e

-- The requests that have been sent to Stripe for a refund request
def sendsFor (requestId : String) (e : Nat × Event ExecutionCall.Reply) : Bool :=
  match e.2.1 with
  | .sendRefund input => input.metadata.refunddeskRequestId = requestId
  | _                 => false

section Runs

variable {jobs : ExecutionJobs} {y y' : Executions} {i j : Nat} {input input' : CreateRefundInput}

-- Whatever happens between two attempts of a request, Stripe is sent the same parameters under the
-- same key, but for the proof. The proofs are the same if the active keys sign alike.
theorem sent_refunds_agree (hidle : y.Idle)
    (hrun : ReflTransGen (Concurrent.Step (executionSurroundings jobs)) y y')
    (hi : Sent y' i input) (hj : Sent y' j input')
    (hsame : input.metadata.refunddeskRequestId = input'.metadata.refunddeskRequestId) :
    { input with metadata := input'.metadata } = input' ∧
      ∃ record d, RecordOf y'.state record d ∧
        record.requestId = input.metadata.refunddeskRequestId ∧
        (input = input' ↔ (jobs.proofs i).SignsAlike (jobs.proofs j) record.proofPayload) := by
  have hsound := JobsSound.of_run hidle hrun
  obtain ⟨e, he, hsends⟩ := hi
  obtain ⟨e', he', hsends'⟩ := hj
  obtain ⟨record, proof, key, n, ⟨l, hl, hload⟩, -, hkey, hproof, rfl⟩ :=
    hsound.prepared i e input he hsends
  obtain ⟨record', proof', key', n', ⟨l', hl', hload'⟩, -, hkey', hproof', rfl⟩ :=
    hsound.prepared j e' input' he' hsends'
  obtain ⟨d, hd⟩ := hsound.loads i l record (Concurrent.mem_eventsOf.mp hl) hload
  obtain ⟨d', hd'⟩ := hsound.loads j l' record' (Concurrent.mem_eventsOf.mp hl') hload'
  have hid : record.requestId = record'.requestId := hsame
  obtain ⟨hpayload, hinput⟩ := hd.agree hd' hid
  rw [hid] at hkey
  obtain rfl := Except.ok.inj (hkey.symm.trans hkey')
  rw [← hpayload] at hproof'
  refine ⟨?_, record, d, hd, rfl, ?_⟩
  · rw [← hinput proof' key]
    rfl
  · rw [← RefundProofKeyring.signsAlike_iff hproof hproof', ← hinput proof' key]
    constructor
    · exact fun heq => congrArg (·.metadata.refunddeskProof) heq
    · rintro rfl
      rfl

-- The sent requests of the jobs, by the job, for a refund request.
def senders (y : Executions) (requestId : String) : List Nat :=
  (y.events.filter (sendsFor requestId)).map (·.1)

theorem sends_of_sendsFor {e : Nat × Event ExecutionCall.Reply} {requestId : String}
    (h : sendsFor requestId e) : e.2.1.isSend ∧ ∃ input, Sends input e.2 ∧
      input.metadata.refunddeskRequestId = requestId := by
  obtain ⟨i, call, r⟩ := e
  cases call with
  | sendRefund input => exact ⟨rfl, input, rfl, of_decide_eq_true h⟩
  | _ => cases h

theorem mem_senders {requestId : String} : i ∈ senders y requestId ↔
    ∃ input, Sent y i input ∧ input.metadata.refunddeskRequestId = requestId := by
  constructor
  · intro hi
    obtain ⟨e, he, rfl⟩ := List.mem_map.mp hi
    obtain ⟨he, hfor⟩ := List.mem_filter.mp he
    obtain ⟨-, input, hsends, hid⟩ := sends_of_sendsFor hfor
    exact ⟨input, ⟨e.2, he, hsends⟩, hid⟩
  · rintro ⟨input, ⟨⟨call, r⟩, he, hsends⟩, hid⟩
    refine List.mem_map.mpr ⟨_, List.mem_filter.mpr ⟨he, ?_⟩, rfl⟩
    cases call with
    | sendRefund input' =>
      obtain rfl : input' = input := hsends
      exact decide_eq_true hid
    | _ => exact hsends.elim

namespace JobsSound

variable {requestId : String}

theorem senders_nodup (h : JobsSound jobs y) : (senders y requestId).Nodup := by
  refine List.pairwise_map.mpr ((h.once.filter _).imp_of_mem fun he he' hne heq => ?_)
  have hsend := (sends_of_sendsFor (List.mem_filter.mp he).2).1
  have hsend' := (sends_of_sendsFor (List.mem_filter.mp he').2).1
  rw [hne heq hsend] at hsend'
  cases hsend'

-- Every job that has called Stripe has an attempt.
theorem attempted (h : JobsSound jobs y) (hi : Sent y i input) :
    ∃ key n e, (i, e) ∈ y.events ∧ CrossesWith input.metadata.refunddeskRequestId key n e ∧
      input.idempotencyKey = key := by
  obtain ⟨e, he, hsends⟩ := hi
  obtain ⟨record, proof, key, n, -, ⟨c, hc, hcross⟩, -, -, rfl⟩ := h.prepared i e input he hsends
  exact ⟨key, n, c, Concurrent.mem_eventsOf.mp hc, hcross, rfl⟩

theorem length_senders_le (h : JobsSound jobs y) {d : RefundRequestDetail}
    (hd : y.state.requests.find? requestId = some d) :
    (senders y requestId).length ≤ d.attemptNumbers.length := by
  have hcrossing : ∀ i ∈ senders y requestId, ∃ n key e, (i, e) ∈ y.events ∧
      CrossesWith requestId key n e := by
    intro i hi
    obtain ⟨input, hsent, rfl⟩ := mem_senders.mp hi
    obtain ⟨key, n, e, he, hcross, -⟩ := h.attempted hsent
    exact ⟨n, key, e, he, hcross⟩
  choose! attempt key e he hcross using hcrossing
  have hnodup : ((senders y requestId).map attempt).Nodup := by
    refine h.senders_nodup.map_on fun i hi j hj heq => ?_
    by_contra hne
    have hapart := h.distinct.forall (he i hi) (he j hj)
      (fun hpair => hne (congrArg Prod.fst hpair))
    exact hapart requestId _ _ _ (hcross i hi) (heq ▸ hcross j hj)
  have hsubset : (senders y requestId).map attempt ⊆ d.attemptNumbers := by
    intro n hn
    obtain ⟨i, hi, rfl⟩ := List.mem_map.mp hn
    obtain ⟨d', hd', -, hmem⟩ := h.crossings i _ _ _ _ (he i hi) (hcross i hi)
    obtain rfl := Option.some.inj (hd.symm.trans hd')
    exact hmem
  simpa using (hnodup.subperm hsubset).length_le

end JobsSound

end Runs

section Attempts

variable {proofs : RefundProofKeyring} {record : RefundExecutionRecord} {payment : NormalizedPayment}
variable {key proof : String} {eligible : EligiblePayment} {error : StripeError}

-- The job of a request whose payment is eligible, up to the attempt
theorem executeRecord_eligible (proofs : RefundProofKeyring)
    (hassert : record.assertPilotInstallation = .ok ())
    (hkey : refundIdempotencyKey record.requestId = .ok key)
    (hmatches : record.paymentIdentityMatches payment = true)
    (heligible : evaluatePaymentEligibility (record.eligibilityInput payment) = .ok (.ok eligible)) :
    ∃ next, executeRecord proofs record = .ask (.retrievePayment record.stripeAccountId
        record.environment record.resourceType record.resourceId) next ∧
      ∃ next', next (.ok payment) = .ask .now next' ∧
        ∀ time, ∃ next'', next' time = .ask (.persistEffectBoundary record.requestId key time) next'' ∧
          ∀ n, next'' (.ok (.execute n key)) = executeAttempt proofs record n key := by
  have hrevalidate : ∃ next, revalidatePayment record = .ask (.retrievePayment record.stripeAccountId
      record.environment record.resourceType record.resourceId) next ∧
      next (.ok payment) = pure true := by
    refine ⟨_, rfl, ?_⟩
    change (if record.paymentIdentityMatches payment = false then _ else _) = _
    rw [if_neg (by simp [hmatches]), heligible]
    rfl
  obtain ⟨next, hrevalidate, hnext⟩ := hrevalidate
  unfold executeRecord
  rw [hassert, hkey, hrevalidate]
  refine ⟨_, rfl, _, congrArg (Script.bind · _) hnext, fun time => ⟨_, rfl, fun n => ?_⟩⟩
  exact if_neg (not_not.mpr rfl)

theorem executeAttempt_sends {n : Nat} (hproof : proofs.sign record.proofPayload = .ok proof)
    (htarget : ¬(record.createRefundInput proof key).paymentIntentId.isNone =
      (record.createRefundInput proof key).chargeId.isNone)
    (hamount : ¬(record.amountMinor ≤ 0 ∨
      DirectAccountStripeClient.maxSafeInteger < record.amountMinor)) :
    ∃ next, executeAttempt proofs record n key =
        .ask (.sendRefund (record.createRefundInput proof key)) (fun _ =>
          .ask (.receiveRefund (record.createRefundInput proof key)) next) ∧
      ∀ error, next (.error error) = recordAttemptFailure record.requestId n error := by
  have hcreate : DirectAccountStripeClient.createRefund (record.createRefundInput proof key) =
      (do ExecutionScript.sendRefund (record.createRefundInput proof key)
          ExecutionScript.receiveRefund (record.createRefundInput proof key)) :=
    (if_neg htarget).trans (if_neg hamount)
  unfold executeAttempt
  rw [hproof]
  exact ⟨_, congrArg (Script.bind · _) hcreate, fun error => rfl⟩

-- The job of an eligible request begins an attempt, and has the request to Stripe ready.
structure BeginsAttempt (jobs : ExecutionJobs) (i n : Nat) (record : RefundExecutionRecord)
    (key proof : String) (s s' : Store) : Prop where
  requestId : record.requestId = jobs.requests i
  installed : record.assertPilotInstallation = .ok ()
  keyed     : refundIdempotencyKey record.requestId = .ok key
  paid      : ∃ payment eligible, record.paymentIdentityMatches payment = true ∧
    evaluatePaymentEligibility (record.eligibilityInput payment) = .ok (.ok eligible)
  signed    : (jobs.proofs i).sign record.proofPayload = .ok proof
  target    : ¬(record.createRefundInput proof key).paymentIntentId.isNone =
    (record.createRefundInput proof key).chargeId.isNone
  amount    : ¬(record.amountMinor ≤ 0 ∨
    DirectAccountStripeClient.maxSafeInteger < record.amountMinor)
  begun     : ∃ s₁ time time',
    (loadRefundExecution (jobs.keys i) time record.requestId time).Commits s (some record) s₁ ∧
    (persistEffectBoundary (jobs.keys i) time' record.requestId key time').Commits s₁
      (.execute n key) s'

theorem sends_of_begins {jobs : ExecutionJobs} {y : Executions} {s' : Store} {i n : Nat}
    (hi : y.scripts i = none) (h : BeginsAttempt jobs i n record key proof y.state s') :
    ∃ y' next, ReflTransGen (Concurrent.Step (executionSurroundings jobs)) y y' ∧ y'.state = s' ∧
      y.events <+: y'.events ∧ (∀ j ≠ i, y'.scripts j = y.scripts j) ∧
      Sent y' i (record.createRefundInput proof key) ∧
      y'.scripts i = some (.ask (.receiveRefund (record.createRefundInput proof key)) next) ∧
      ∀ error, next (.error error) = recordAttemptFailure record.requestId n error := by
  obtain ⟨payment, eligible, hmatches, heligible⟩ := h.paid
  obtain ⟨s₁, time, time', hload, hboundary⟩ := h.begun
  obtain ⟨next, hrecord, next', hpayment, hnow⟩ :=
    executeRecord_eligible (jobs.proofs i) h.installed h.keyed hmatches heligible
  obtain ⟨next'', hpersist, hexecute⟩ := hnow time'
  obtain ⟨next₃, hattempt, hfailure⟩ := executeAttempt_sends (n := n) h.signed h.target
    h.amount
  have hanswer₁ : (executionSurroundings jobs).answers i y.state
      (.loadRefundExecution (jobs.requests i)) (.ok (some record)) s₁ :=
    h.requestId ▸ ⟨time, time, .committed hload⟩
  have hanswer₂ : (executionSurroundings jobs).answers i s₁ (.retrievePayment record.stripeAccountId
      record.environment record.resourceType record.resourceId) (.ok payment) s₁ := rfl
  have hanswer₃ : (executionSurroundings jobs).answers i s₁ .now time' s₁ := rfl
  have hanswer₄ : (executionSurroundings jobs).answers i s₁
      (.persistEffectBoundary record.requestId key time') (.ok (.execute n key)) s' :=
    ⟨time', .committed hboundary⟩
  have hanswer₅ : (executionSurroundings jobs).answers i s'
      (.sendRefund (record.createRefundInput proof key)) () s' := rfl
  have hstarts : (executionSurroundings jobs).starts i
      (handleRefundExecutionJob (jobs.proofs i) (jobs.requests i)) := rfl
  obtain ⟨y₁, h₁, hs, hp, he₁, hn₁⟩ := Concurrent.Step.start hi hstarts
  obtain ⟨y₂, h₂, hs, hp, he₂, hn₂⟩ := Concurrent.Step.answer hs hp hanswer₁
  obtain ⟨y₃, h₃, hs, hp, he₃, hn₃⟩ := Concurrent.Step.answer hs (hp.trans (congrArg some hrecord))
    hanswer₂
  obtain ⟨y₄, h₄, hs, hp, he₄, hn₄⟩ := Concurrent.Step.answer hs
    (hp.trans (congrArg some hpayment)) hanswer₃
  obtain ⟨y₅, h₅, hs, hp, he₅, hn₅⟩ := Concurrent.Step.answer hs
    (hp.trans (congrArg some hpersist)) hanswer₄
  obtain ⟨y₆, h₆, hs, hp, he₆, hn₆⟩ := Concurrent.Step.answer hs
    (hp.trans (congrArg some ((hexecute n).trans hattempt))) hanswer₅
  refine ⟨y₆, next₃, (ReflTransGen.single h₁).tail h₂ |>.tail h₃ |>.tail h₄ |>.tail h₅ |>.tail h₆,
    hs, ?_, fun j hj => ?_, ⟨⟨.sendRefund (record.createRefundInput proof key), ()⟩, ?_, rfl⟩, hp,
    hfailure⟩
  · rw [he₆, he₅, he₄, he₃, he₂, he₁]
    simp
  · rw [hn₆ j hj, hn₅ j hj, hn₄ j hj, hn₃ j hj, hn₂ j hj, hn₁ j hj]
  · rw [he₆]
    exact List.mem_append_right _ (List.mem_singleton_self _)

-- A request that Stripe has refused for now is sent again by another job.
theorem sends_again {jobs : ExecutionJobs} {y : Executions} {s₁ s₂ s₃ : Store} {i j n m : Nat}
    {record' : RefundExecutionRecord} {proof' : String} {now : Timestamp} (hij : j ≠ i)
    (hi : y.scripts i = none) (hj : y.scripts j = none)
    (hfirst : BeginsAttempt jobs i n record key proof y.state s₁)
    (hrefused : (normalizeStripeFailure error true).classification = .retryable)
    (hrecorded : ((Operation.recordRetryableAttemptFailure {
      errorCode := (normalizeStripeFailure error true).code, requestId := record.requestId
      attemptNumber := n, time := now }).run (jobs.keys i) now).Commits s₁ () s₂)
    (hsecond : BeginsAttempt jobs j m record' key proof' s₂ s₃) :
    ∃ y', ReflTransGen (Concurrent.Step (executionSurroundings jobs)) y y' ∧ y'.state = s₃ ∧
      Sent y' i (record.createRefundInput proof key) ∧
      Sent y' j (record'.createRefundInput proof' key) := by
  obtain ⟨y₁, next, hrun₁, hs, -, hothers, ⟨event, hevent, hsends⟩, hp, hfailure⟩ :=
    sends_of_begins hi hfirst
  have hrecord : ∃ next', recordAttemptFailure record.requestId n error = .ask .now next' ∧
      ∃ next'', next' now = .ask (.record (.recordRetryableAttemptFailure {
        errorCode := (normalizeStripeFailure error true).code, requestId := record.requestId
        attemptNumber := n, time := now })) next'' := by
    refine ⟨_, rfl, ?_⟩
    dsimp only
    rw [hrefused]
    exact ⟨_, rfl⟩
  obtain ⟨next', hnow, next'', hrecord⟩ := hrecord
  have hanswer₁ : (executionSurroundings jobs).answers i s₁
      (.receiveRefund (record.createRefundInput proof key)) (.error error) s₁ := rfl
  have hanswer₂ : (executionSurroundings jobs).answers i s₁ .now now s₁ := rfl
  have hanswer₃ : (executionSurroundings jobs).answers i s₁ (.record (.recordRetryableAttemptFailure {
      errorCode := (normalizeStripeFailure error true).code, requestId := record.requestId
      attemptNumber := n, time := now })) (.ok ()) s₂ := ⟨now, .committed hrecorded⟩
  obtain ⟨y₂, h₂, hs, hp, he₂, hn₂⟩ := Concurrent.Step.answer hs hp hanswer₁
  obtain ⟨y₃, h₃, hs, hp, he₃, hn₃⟩ := Concurrent.Step.answer hs
    (hp.trans (congrArg some ((hfailure _).trans hnow))) hanswer₂
  obtain ⟨y₄, h₄, hs, -, he₄, hn₄⟩ := Concurrent.Step.answer hs (hp.trans (congrArg some hrecord))
    hanswer₃
  have hidle : y₄.scripts j = none := by
    rw [hn₄ j hij, hn₃ j hij, hn₂ j hij, hothers j hij, hj]
  obtain ⟨y₅, -, hrun₅, hs', hevents, -, hsent', -⟩ := sends_of_begins hidle (hs ▸ hsecond)
  refine ⟨y₅, ((hrun₁.tail h₂).tail h₃ |>.tail h₄).trans hrun₅, hs',
    ⟨event, hevents.subset ?_, hsends⟩, hsent'⟩
  rw [he₄, he₃, he₂]
  simp [hevent]

end Attempts


namespace Pilot

-- The request is approved, and its first attempt has not begun.
def approvedStore : Store :=
  match Store.pilot.after keys (attempted.take 3) with
  | .ok s    => s
  | .error _ => .pilot

def executed (effectState : EffectState) : RefundExecutionRecord where
  requestId         := requestId
  tenantId          := "t"
  installationId    := "i"
  stripeAccountId   := "acct_1"
  environment       := .test
  active            := true
  tenantLiveEnabled := false
  resourceType      := .paymentIntent
  resourceId        := "pi_1"
  paymentKey        := "pi_1"
  paymentIntentId   := "pi_1"
  chargeId          := "ch_1"
  amountMinor       := 500
  currency          := "eur"
  reason            := .requestedByCustomer
  effectState       := effectState
  linkedRefundId    := none

def payment : NormalizedPayment where
  paymentKey          := "pi_1"
  paymentIntentId     := "pi_1"
  chargeId            := "ch_1"
  amountCaptured      := 500
  amountRefunded      := 0
  currency            := "eur"
  captured            := true
  paid                := true
  disputed            := false
  paymentMethodType   := "card"
  hasConnectSemantics := false

def rateLimited : StripeError where
  type       := "StripeRateLimitError"
  code       := none
  name       := none
  statusCode := some 429

def firstFailure : AttemptFailureInput :=
  { errorCode := "STRIPE_RATE_LIMIT", requestId, attemptNumber := 1, time := 5000 }

def loadedStore (s : Store) (now : Timestamp) : Store :=
  (loadRefundExecution keys now requestId now).after s

def begunStore (s : Store) (now : Timestamp) : Store :=
  (persistEffectBoundary keys now requestId idempotencyKey now).after s

def refusedStore : Store :=
  ((Operation.recordRetryableAttemptFailure firstFailure).run keys 5000).after
    (begunStore (loadedStore approvedStore 3000) 4000)

-- The second worker signs with a later version, and still holds the first one.
def rotatedKeyring : RefundProofKeyring where
  hmac    := proofKeyring.hmac
  keys    := {
    active           := { version := "v3", key := String.ofList (List.replicate 64 'c') }
    verificationOnly := Table.empty.insert "v2" (String.ofList (List.replicate 64 'b'))
  }
  checked := by rfl

def rotatedJobs : ExecutionJobs where
  keys _   := keys
  proofs i := if i = 0 then proofKeyring else rotatedKeyring
  requests _ := requestId

def unsent : Executions where
  state     := approvedStore
  scripts _ := none
  events    := []

theorem begins_of_commits {i n : Nat} {e : EffectState} {proof : String} {s s₁ s' : Store}
    {time time' : Timestamp}
    (hproof : (rotatedJobs.proofs i).sign (executed .notStarted).proofPayload = .ok proof)
    (hload : (loadRefundExecution keys time requestId time).Commits s (some (executed e)) s₁)
    (hboundary : (persistEffectBoundary keys time' requestId idempotencyKey time').Commits s₁
      (.execute n idempotencyKey) s') :
    BeginsAttempt rotatedJobs i n (executed e) idempotencyKey proof s s' := by
  have hkey : refundIdempotencyKey requestId = .ok idempotencyKey := by decide +kernel
  have hmatches : (executed .notStarted).paymentIdentityMatches payment = true := by decide +kernel
  have heligible : evaluatePaymentEligibility ((executed .notStarted).eligibilityInput payment) =
      .ok (.ok ⟨"eur", 500⟩) := by rfl
  have hamount : ¬((500 : Int) ≤ 0 ∨ DirectAccountStripeClient.maxSafeInteger < 500) := by decide
  exact ⟨rfl, rfl, hkey, ⟨payment, ⟨"eur", 500⟩, hmatches, heligible⟩, hproof, Bool.false_ne_true,
    hamount, s₁, time, time', hload, hboundary⟩

-- The answers of both attempts. They are evaluated together, since each is given in the store that
-- the transactions before it leave.
theorem answers_of_attempts :
    ((loadRefundExecution keys 3000 requestId 3000).run approvedStore).toOption.map (·.1) =
      some (some (executed .notStarted)) ∧
    ((persistEffectBoundary keys 4000 requestId idempotencyKey 4000).run
      (loadedStore approvedStore 3000)).toOption.map (·.1) = some (.execute 1 idempotencyKey) ∧
    (((Operation.recordRetryableAttemptFailure firstFailure).run keys 5000).run
      (begunStore (loadedStore approvedStore 3000) 4000)).toOption.map (·.1) = some () ∧
    ((loadRefundExecution keys 6000 requestId 6000).run refusedStore).toOption.map (·.1) =
      some (some (executed .absenceProven)) ∧
    ((persistEffectBoundary keys 7000 requestId idempotencyKey 7000).run
      (loadedStore refusedStore 6000)).toOption.map (·.1) = some (.execute 2 idempotencyKey) ∧
    ((begunStore (loadedStore refusedStore 6000) 7000).requests.find? requestId).map
      (·.attemptNumbers) = some [1, 2] := by
  decide +kernel

theorem execution_run : ∃ (y : Executions) (proof proof' : String),
    ReflTransGen (Concurrent.Step (executionSurroundings rotatedJobs)) unsent y ∧
    y.state = begunStore (loadedStore refusedStore 6000) 7000 ∧
    proofKeyring.sign (executed .notStarted).proofPayload = .ok proof ∧
    rotatedKeyring.sign (executed .notStarted).proofPayload = .ok proof' ∧
    Sent y 0 ((executed .notStarted).createRefundInput proof idempotencyKey) ∧
    Sent y 1 ((executed .notStarted).createRefundInput proof' idempotencyKey) := by
  obtain ⟨hload₁, hboundary₁, hrefused, hload₂, hboundary₂, -⟩ := answers_of_attempts
  have hrefused : ((Operation.recordRetryableAttemptFailure firstFailure).run keys 5000).Commits
      (begunStore (loadedStore approvedStore 3000) 4000) () refusedStore := commits_after hrefused
  have hcode : (normalizeStripeFailure rateLimited true).code = "STRIPE_RATE_LIMIT" ∧
      (normalizeStripeFailure rateLimited true).classification = .retryable := by decide +kernel
  have hfields : canonicalProofPayload (executed .notStarted).proofPayload =
      .ok ["t", "acct_1", requestId, "pi_1", "500", "eur", "test"] := by decide +kernel
  have hproof : proofKeyring.sign (executed .notStarted).proofPayload = .ok _ :=
    RefundProofKeyring.sign_eq_ok hfields
  have hproof' : rotatedKeyring.sign (executed .notStarted).proofPayload = .ok _ :=
    RefundProofKeyring.sign_eq_ok hfields
  rw [firstFailure, ← hcode.1] at hrefused
  obtain ⟨y, hrun, hs, hsent, hsent'⟩ := sends_again (y := unsent) one_ne_zero rfl rfl
    (begins_of_commits (i := 0) hproof (commits_after hload₁) (commits_after hboundary₁)) hcode.2
    hrefused (begins_of_commits (i := 1) hproof' (commits_after hload₂) (commits_after hboundary₂))
  exact ⟨y, _, _, hrun, hs, hproof, hproof', hsent, hsent'⟩

-- The second worker signs with another key, so that the requests differ, but only in the proof.
theorem sent_refunds_agree_rotated : ∃ y input input',
    ReflTransGen (Concurrent.Step (executionSurroundings rotatedJobs)) unsent y ∧
    Sent y 0 input ∧ Sent y 1 input' ∧ { input with metadata := input'.metadata } = input' ∧
    input ≠ input' := by
  obtain ⟨y, proof, proof', hrun, -, -, -, hsent, hsent'⟩ := execution_run
  obtain ⟨hagree, record, -, -, -, hiff⟩ :=
    sent_refunds_agree ⟨fun _ => rfl, rfl⟩ hrun hsent hsent' rfl
  refine ⟨y, _, _, hrun, hsent, hsent', hagree, fun heq => ?_⟩
  obtain ⟨-, -, hversion, -⟩ := hiff.mp heq
  exact absurd hversion (by decide)

end Pilot
end RefundDesk
