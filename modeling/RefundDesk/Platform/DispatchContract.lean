import RefundDesk.Platform.Receipts

namespace RefundDesk

open Transaction Script Relation PilotPrismaRepository

-- How a transaction answers over a connection that can break: it commits, whether or not its result
-- arrives, or it leaves the state as it was.
inductive Transacts {α : Type} (m : PilotStoreTransaction α) (s : PilotStore) :
    Except PilotFailure α → PilotStore → Prop
  | committed {a s'} : m.Commits s a s' → Transacts m s (.ok a) s'
  | lost {a s'} : m.Commits s a s' → Transacts m s (.error .connectionLost) s'
  | aborted {e} : m.Aborts s e → Transacts m s (.error e) s
  | unreachable {e} : e ∈ [.unexpected, .connectionLost] → Transacts m s (.error e) s

-- What happens around the dispatches on the rows of a tenant. What a mere read answers does not
-- matter, and other programs change the rows but not the receipts.
def dispatchSurroundings (options : PilotPrismaRepositoryOptions) (service : PilotService)
    (inputs : Nat → PilotDispatchRequest) :
    Surroundings PilotStore PilotFailure PilotCall.Reply PilotStoredResponse where
  starts i script := script = service.dispatch (inputs i)
  answers _ s call :=
    match call with
    | .resolveInstallation accountId environment =>
      Transacts (resolveInstallation accountId environment) s
    | .provisionInstallation accountId environment =>
      Transacts (provisionInstallation accountId environment) s
    | .observeContext identity displayName installationId => fun r s' =>
      ∃ draw, Transacts (observeContext draw identity displayName installationId) s r s'
    | .findMutationReceipt requestNonce => Transacts (findMutationReceipt requestNonce) s
    | .mutate context metadata mutation => fun r s' =>
      ∃ draw, Transacts (mutate options draw context metadata mutation) s r s'
    | .storeReceipt context metadata response => fun r s' =>
      ∃ draw, Transacts (storeReceipt draw context metadata response) s r s'
    | .retrievePayment _ _ | .findActiveRequest _ _ | .getRefundRequest _ _
    | .listRefundRequests _ _ _ _ | .listExternalAlerts _ _ _ | .getSettings _ =>
      fun _ s' => s' = s
  disturbs s s' := s'.receipts = s.receipts ∧ s'.applied = s.applied

abbrev Dispatches := Concurrent PilotStore PilotFailure PilotCall.Reply PilotStoredResponse

def PilotFailure.isApi : PilotFailure → Bool
  | .api _ => true
  | _      => false

section Events

variable (metadata : PilotMutationMetadata)

-- The event shows that the response is the one of the stored receipt.
def Yields (response : PilotStoredResponse) : Event PilotCall.Reply → Prop
  | ⟨.findMutationReceipt nonce, r⟩ => nonce = metadata.requestNonce ∧ ∃ receipt,
    r = Except.ok (some receipt) ∧ receipt.matches metadata ∧ receipt.response = response
  | ⟨.mutate _ data _, r⟩           => data = metadata ∧ r = Except.ok response
  | ⟨.storeReceipt _ data _, r⟩     => data = metadata ∧ r = Except.ok response
  | _                               => False

-- The event shows that the stored receipt is one of another mutation.
def Refuses : Event PilotCall.Reply → Prop
  | ⟨.findMutationReceipt nonce, r⟩ => nonce = metadata.requestNonce ∧ ∃ receipt,
    r = Except.ok (some receipt) ∧ receipt.matches metadata = false
  | ⟨.mutate _ data _, r⟩           => data = metadata ∧ r = Except.error idempotencyConflict
  | ⟨.storeReceipt _ data _, r⟩     => data = metadata ∧ r = Except.error idempotencyConflict
  | _                               => False

-- How a call is answered while the stored receipt is one of another mutation.
def Denies : Event PilotCall.Reply → Prop
  | ⟨.findMutationReceipt nonce, r⟩ => nonce = metadata.requestNonce →
    (∃ receipt, r = Except.ok (some receipt) ∧ receipt.matches metadata = false) ∨
      ∃ failure, r = Except.error failure ∧ failure.isApi = false
  | ⟨.mutate _ data _, r⟩           => data = metadata →
    ∃ failure, r = Except.error failure ∧ (failure = idempotencyConflict ∨ failure.isApi = false)
  | ⟨.storeReceipt _ data _, r⟩     => data = metadata →
    ∃ failure, r = Except.error failure ∧ (failure = idempotencyConflict ∨ failure.isApi = false)
  | _                               => True

def Refused (t : List (Event PilotCall.Reply)) : Prop :=
  ∃ e ∈ t, Refuses metadata e

def PilotCall.Carries : PilotCall → Prop
  | .findMutationReceipt nonce => nonce = metadata.requestNonce
  | .mutate _ data _           => data = metadata
  | .storeReceipt _ data _     => data = metadata
  | _                          => True

-- A dispatch works under its own metadata only. Once the receipt of another mutation has turned up,
-- it is never answered as if there were none.
def dispatchContract : Contract PilotCall.Reply where
  rely t c r    := Refused metadata t → Denies metadata ⟨c, r⟩
  guarantee _ c := c.Carries metadata

-- A mutation only returns the response of its receipt, and one that has met the receipt of another
-- mutation fails with the conflict, unless the database fails it.
def DispatchPost (input : PilotDispatchRequest) (t : List (Event PilotCall.Reply)) :
    Except PilotFailure PilotStoredResponse → Prop
  | .ok response    =>
    input.operation.mutation → ∃ e ∈ t, Yields input.metadata response e
  | .error failure  =>
    Refused input.metadata t → failure = idempotencyConflict ∨ failure.isApi = false

end Events

section Contract

variable {metadata : PilotMutationMetadata} {input : PilotDispatchRequest}
variable {context : PilotTenantContext} {α β : Type} {t : List (Event PilotCall.Reply)}

@[simp]
theorem not_refused_nil : ¬Refused metadata [] := by
  simp [Refused]

@[simp]
theorem refused_append {e : Event PilotCall.Reply} :
    Refused metadata (t ++ [e]) ↔ Refused metadata t ∨ Refuses metadata e := by
  simp [Refused, or_and_right, exists_or]

theorem meets_await {contract : Contract PilotCall.Reply} {call : PilotCall}
    {post : List (Event PilotCall.Reply) → Except PilotFailure call.Value → Prop} :
    (PilotScript.await call).Meets contract post t ↔
      contract.guarantee t call ∧
        ∀ r : call.Reply, contract.rely t call r → post (t ++ [⟨call, r⟩]) r := by
  refine and_congr_right fun _ => forall₂_congr fun r _ => ?_
  cases r <;> rfl

-- The script makes calls that have nothing to do with receipts.
def Quiet (metadata : PilotMutationMetadata) (p : PilotScript α) : Prop :=
  ∀ t, ¬Refused metadata t →
    p.Meets (dispatchContract metadata) (fun t _ => ¬Refused metadata t) t

namespace Quiet

protected theorem pure (a : α) : Quiet metadata (pure a : PilotScript α) :=
  fun _ ht => ht

protected theorem throw (failure : PilotFailure) :
    Quiet metadata (throw failure : PilotScript α) :=
  fun _ ht => ht

protected theorem fromExcept (x : Except PilotFailure α) :
    Quiet metadata (fromExcept x : PilotScript α) :=
  fun _ ht => meets_fromExcept.mpr ht

protected theorem bind {p : PilotScript α} {f : α → PilotScript β} (hp : Quiet metadata p)
    (hf : ∀ a, Quiet metadata (f a)) : Quiet metadata (p >>= f) := by
  refine fun t ht => meets_bind.mpr ((hp t ht).mono fun t' result ht' => ?_)
  cases result with
  | ok a    => exact hf a t' ht'
  | error e => exact ht'

protected theorem ite {c : Prop} [Decidable c] {p q : PilotScript α} (hp : Quiet metadata p)
    (hq : Quiet metadata q) : Quiet metadata (if c then p else q) := by
  by_cases h : c
  · simpa [h] using hp
  · simpa [h] using hq

protected theorem await {call : PilotCall} (hcarries : call.Carries metadata)
    (hrefuses : ∀ r, ¬Refuses metadata ⟨call, r⟩) : Quiet metadata (PilotScript.await call) := by
  refine fun t ht => meets_await.mpr ⟨hcarries, fun r _ => ?_⟩
  rw [refused_append]
  exact not_or.mpr ⟨ht, hrefuses r⟩

end Quiet
theorem resolveContext_quiet {identity : PilotSignedIdentity} {allowProvision : Bool}
    {displayName : Option String} :
    Quiet metadata (resolveContext identity allowProvision displayName) := by
  refine .bind (.await trivial fun _ h => h) fun resolved => .bind ?_ fun resolved => ?_
  · exact .ite (.await trivial fun _ h => h) (.pure _)
  · cases resolved with
    | none   => exact .pure _
    | some _ => exact .await trivial fun _ h => h

theorem retrieveSignedPayment_quiet {resource : PilotPaymentResource} :
    Quiet metadata (PilotService.retrieveSignedPayment context resource) :=
  .bind (.await trivial fun _ h => h) fun _ => .ite (.pure _) (.throw _)

theorem paymentEligibility_quiet {resource : Option PilotPaymentResource} :
    Quiet metadata (PilotService.paymentEligibility context resource) :=
  .bind (.fromExcept _) fun _ => .bind retrieveSignedPayment_quiet fun _ =>
    .bind (.fromExcept _) fun _ => .bind (.await trivial fun _ h => h) fun _ => .pure _

theorem requireRequest_quiet {requestId : String} {resource : PilotPaymentResource} :
    Quiet metadata (PilotService.requireRequest context requestId resource) := by
  refine .bind (.await trivial fun _ h => h) fun request => ?_
  cases request with
  | none   => exact .throw _
  | some _ => exact .ite (.throw _) (.ite (.throw _) (.pure _))

-- The script does what is required of a dispatch, as long as no other receipt has turned up.
def Conforms (input : PilotDispatchRequest) (p : PilotScript PilotStoredResponse) : Prop :=
  ∀ t, ¬Refused input.metadata t →
    p.Meets (dispatchContract input.metadata) (DispatchPost input) t

namespace Conforms

protected theorem throw (failure : PilotFailure) : Conforms input (throw failure) :=
  fun _ ht h => (ht h).elim

protected theorem bind {p : PilotScript α} {f : α → PilotScript PilotStoredResponse}
    (hp : Quiet input.metadata p) (hf : ∀ a, Conforms input (f a)) :
    Conforms input (p >>= f) := by
  refine fun t ht => meets_bind.mpr ((hp t ht).mono fun t' result ht' => ?_)
  cases result with
  | ok a    => exact hf a t' ht'
  | error e => exact fun h => (ht' h).elim

protected theorem ite {c : Prop} [Decidable c] {p q : PilotScript PilotStoredResponse}
    (hp : Conforms input p) (hq : Conforms input q) : Conforms input (if c then p else q) := by
  by_cases h : c
  · simpa [h] using hp
  · simpa [h] using hq

-- An operation that is no mutation leaves no receipt.
theorem of_quiet {p : PilotScript PilotStoredResponse} (hp : Quiet input.metadata p)
    (hop : input.operation.mutation = false) : Conforms input p := by
  refine fun t ht => (hp t ht).mono fun t' result ht' => ?_
  cases result with
  | ok response => exact fun h => (Bool.false_ne_true (hop.symm.trans h)).elim
  | error e     => exact fun h => (ht' h).elim

end Conforms

-- A transaction on the receipt of the mutation.
def IsReceiptTransaction (context : PilotTenantContext) (metadata : PilotMutationMetadata)
    (p : PilotScript PilotStoredResponse) : Prop :=
  (∃ mutation, p = PilotScript.mutate context metadata mutation) ∨
    ∃ response, p = PilotScript.storeReceipt context metadata response

theorem receiptTransaction_meets {p : PilotScript PilotStoredResponse}
    (hp : IsReceiptTransaction context input.metadata p) :
    p.Meets (dispatchContract input.metadata) (DispatchPost input) t := by
  rcases hp with ⟨_, rfl⟩ | ⟨_, rfl⟩
  all_goals
    refine meets_await.mpr ⟨rfl, fun r hr => ?_⟩
    cases r with
    | ok response =>
      exact fun _ => ⟨_, List.mem_append_right t (List.mem_singleton_self _), rfl, rfl⟩
    | error failure =>
      intro h
      rcases refused_append.mp h with h | ⟨_, h⟩
      · obtain ⟨_, heq, h⟩ := hr h rfl
        exact Except.error.inj heq ▸ h
      · exact .inl (Except.error.inj h)

-- What a dispatch makes of an answer to its look-up.
theorem lookUp_meets {f : PilotMutationReceipt → PilotScript PilotStoredResponse}
    {rest : PilotScript PilotStoredResponse}
    (hf : ∀ receipt, f receipt =
      if receipt.matches input.metadata then pure receipt.response else throw idempotencyConflict)
    (hrest : Conforms input rest) :
    (PilotScript.findMutationReceipt input.requestNonce >>= fun
      | none         => rest
      | some receipt => f receipt).Meets (dispatchContract input.metadata) (DispatchPost input)
        t := by
  refine meets_bind.mpr (meets_await.mpr ⟨rfl, fun r hr => ?_⟩)
  cases r with
  | error failure =>
    intro h
    rcases refused_append.mp h with h | ⟨_, _, h, _⟩
    · rcases hr h rfl with ⟨_, heq, _⟩ | ⟨_, heq, hapi⟩
      · cases heq
      · exact .inr (Except.error.inj heq ▸ hapi)
    · cases h
  | ok receipt =>
    cases receipt with
    | none =>
      refine hrest _ fun h => ?_
      rcases refused_append.mp h with h | ⟨_, _, h, _⟩
      · rcases hr h rfl with ⟨_, heq, _⟩ | ⟨_, heq, _⟩
        all_goals cases heq
      · cases h
    | some receipt =>
      have hlast : (⟨.findMutationReceipt input.requestNonce, .ok (some receipt)⟩ :
          Event PilotCall.Reply) ∈ t ++ [⟨.findMutationReceipt input.requestNonce,
            .ok (some receipt)⟩] := by simp
      simp only [hf]
      split_ifs with hmatch
      · exact fun _ => ⟨_, hlast, rfl, receipt, rfl, hmatch, rfl⟩
      · exact fun _ => .inl rfl

theorem replayOnConflict_meets {p : PilotScript PilotStoredResponse}
    (hp : IsReceiptTransaction context input.metadata p) :
    (replayOnConflict input.metadata p).Meets (dispatchContract input.metadata)
      (DispatchPost input) t := by
  refine meets_tryCatch.mpr ((receiptTransaction_meets hp).mono fun t' result hpost => ?_)
  cases result with
  | ok response   => exact hpost
  | error failure =>
    dsimp only
    split_ifs
    · exact lookUp_meets (fun _ => rfl) (.throw _)
    · exact hpost

theorem executeMutation_conforms {mutation : PilotMutation} :
    Conforms input (executeMutation context input.metadata mutation) :=
  fun _ _ => replayOnConflict_meets (.inl ⟨mutation, rfl⟩)

-- The conflict of a nonce has a status that is stored.
theorem storeFailure_meets {failure : PilotFailure}
    (h : DispatchPost input t (.error failure)) :
    (PilotService.storeFailure context input failure).Meets (dispatchContract input.metadata)
      (DispatchPost input) t := by
  cases failure with
  | api error =>
    unfold PilotService.storeFailure storeMutationReceipt
    dsimp only
    split_ifs
    case pos => exact h
    case pos hstatus =>
      intro hrefused
      rcases h hrefused with heq | hapi
      · have herror : error.status = 409 := congrArg PilotApiError.status (PilotFailure.api.inj heq)
        omega
      · cases hapi
    case neg => exact replayOnConflict_meets (.inr ⟨_, rfl⟩)
  | uniqueConstraint => exact h
  | unexpected       => exact h
  | connectionLost   => exact h

theorem decideRefundRequest_conforms {requestId : String} {command : DecisionCommand} :
    Conforms input (PilotService.decideRefundRequest context input requestId command) := by
  refine .bind (.fromExcept _) fun _ => .bind (.fromExcept _) fun _ => ?_
  refine .bind requireRequest_quiet fun _ => .ite (.throw _) (.ite (.throw _) ?_)
  cases command with
  | approve _ _ => exact .ite (.throw _) executeMutation_conforms
  | reject _    => exact executeMutation_conforms

theorem cancelRefundRequest_conforms {requestId : String} :
    Conforms input (PilotService.cancelRefundRequest context input requestId) :=
  .bind (.fromExcept _) fun _ => .bind requireRequest_quiet fun _ =>
    .ite (.throw _) (.ite (.throw _) executeMutation_conforms)

theorem createRefundRequest_conforms {amountMinor : Int} {currency : String}
    {reason : RefundReason} {justification : String} :
    Conforms input
      (PilotService.createRefundRequest context input amountMinor currency reason justification) := by
  refine .bind (.fromExcept _) fun _ => .bind retrieveSignedPayment_quiet fun _ => ?_
  refine .bind (.fromExcept _) fun eligibility => ?_
  cases eligibility with
  | error _ => exact .throw _
  | ok _    =>
    exact .bind (.await trivial fun _ h => h) fun _ => .ite (.throw _) executeMutation_conforms

theorem operate_conforms : Conforms input (PilotService.operate context input) := by
  unfold PilotService.operate
  cases hcommand : input.command with
  | contextSync _ => exact executeMutation_conforms
  | refundRequestCreate _ _ _ _ => exact createRefundRequest_conforms
  | refundRequestDecide _ _ => exact decideRefundRequest_conforms
  | refundRequestCancel _ => exact cancelRefundRequest_conforms
  | externalAlertAcknowledge _ => exact .bind (.fromExcept _) fun _ => executeMutation_conforms
  | settingsUpdate _ _ =>
    exact .bind (.fromExcept _) fun _ => .ite (.throw _) executeMutation_conforms
  | auditExport => exact .bind (.fromExcept _) fun _ => executeMutation_conforms
  | paymentEligibility =>
    exact .of_quiet paymentEligibility_quiet (congrArg (·.operation.mutation) hcommand)
  | refundRequestList _ _ _ =>
    refine .of_quiet ?_ (congrArg (·.operation.mutation) hcommand)
    exact .bind (.fromExcept _) fun _ => .bind (.await trivial fun _ h => h) fun _ => .pure _
  | refundRequestGet _ =>
    refine .of_quiet ?_ (congrArg (·.operation.mutation) hcommand)
    exact .bind (.fromExcept _) fun _ => .bind requireRequest_quiet fun _ => .pure _
  | externalAlertList _ _ =>
    refine .of_quiet ?_ (congrArg (·.operation.mutation) hcommand)
    exact .bind (.fromExcept _) fun _ => .bind (.await trivial fun _ h => h) fun _ => .pure _
  | settingsGet =>
    refine .of_quiet ?_ (congrArg (·.operation.mutation) hcommand)
    exact .bind (.await trivial fun _ h => h) fun _ => .pure _

theorem dispatch_conforms {service : PilotService} : Conforms input (service.dispatch input) := by
  refine .ite (.throw _) (.bind resolveContext_quiet fun context => ?_)
  cases context with
  | none         => exact .throw _
  | some context =>
    refine .bind (.fromExcept _) fun _ => .bind (.fromExcept _) fun _ => ?_
    refine .ite (.bind (.fromExcept _) fun _ t _ => ?_) operate_conforms
    refine lookUp_meets (fun receipt => ?_) fun t ht => ?_
    · unfold assertReceiptMatches
      split_ifs <;> rfl
    · refine meets_tryCatch.mpr ((operate_conforms t ht).mono fun t' result hpost => ?_)
      cases result with
      | ok response   => exact hpost
      | error failure => exact storeFailure_meets hpost

end Contract
end RefundDesk
