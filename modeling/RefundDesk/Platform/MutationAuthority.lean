import RefundDesk.Platform.Idempotency

namespace RefundDesk

open Transaction Script Relation PilotPrismaRepository

-- The call has been answered with the value.
def Told (t : List (Event PilotCall.Reply)) (call : PilotCall) (value : call.Value) : Prop :=
  ⟨call, Except.ok value⟩ ∈ t

-- The context is the one that the signed user has been found to be in, and the access policy lets
-- the operation through.
structure WorksIn (service : PilotService) (input : PilotDispatchRequest)
    (t : List (Event PilotCall.Reply)) (context : PilotTenantContext) : Prop where
  served      : (input.identity.accountId, input.identity.environment) ∈ service.admitted
  observed    : ∃ displayName installationId,
    Told t (.observeContext input.identity displayName installationId) (some context)
  account     : context.stripeAccountId = input.identity.accountId
  environment : context.environment = input.identity.environment
  user        : context.actor.stripeUserId = input.identity.userId
  allowed     : assertAllowed context input.operation input.identity.roles = .ok ()

def DecisionCommand.decision : DecisionCommand → PilotDecision
  | approve _ _          => .approve
  | reject justification => .reject justification

-- An approval is attested, and it is of the request that the approver was shown.
def DecisionCommand.Confirms (input : PilotDispatchRequest) (request : PilotRequestRecord) :
    DecisionCommand → Prop
  | approve version snapshot => input.approvalAttestationId.isSome ∧ version = request.version ∧
    snapshot = {
      amountMinor     := request.amountMinor
      currency        := request.currency
      reason          := request.reason
      requesterUserId := request.requesterUserId
    }
  | reject _                 => True

-- What a dispatch has seen to before it asks for a mutation: that the command asks for it, and what
-- the database and Stripe have told about it.
inductive Asks (input : PilotDispatchRequest) (context : PilotTenantContext)
    (t : List (Event PilotCall.Reply)) : PilotMutation → Prop
  | contextSync {displayName} :
    input.command = .contextSync displayName → Asks input context t .contextSync
  | refundRequestCreate {amountMinor currency reason justification resource payment eligible} :
    input.command = .refundRequestCreate amountMinor currency reason justification →
    input.resource = some resource → Told t (.retrievePayment context resource) payment →
    PilotService.paymentMatchesResource payment resource →
    evaluatePaymentEligibility
      (PilotService.eligibilityInput payment (some amountMinor) (some currency)) =
        .ok (.ok eligible) →
    Told t (.findActiveRequest context payment.paymentKey) none →
    Asks input context t
      (.refundRequestCreate amountMinor eligible.currency justification payment reason resource)
  | refundRequestDecide {requestId command resource request} :
    input.command = .refundRequestDecide requestId command → input.resource = some resource →
    context.actor.approverEnabled → Told t (.getRefundRequest context requestId) (some request) →
    PilotService.requestMatchesResource request resource →
    request.requesterUserId ≠ input.identity.userId → request.status = .pendingApproval →
    command.Confirms input request →
    Asks input context t (.refundRequestDecide command.decision requestId resource)
  | refundRequestCancel {requestId resource request} :
    input.command = .refundRequestCancel requestId → input.resource = some resource →
    Told t (.getRefundRequest context requestId) (some request) →
    PilotService.requestMatchesResource request resource →
    request.requesterUserId = input.identity.userId → request.status = .pendingApproval →
    Asks input context t (.refundRequestCancel requestId resource)
  | externalAlertAcknowledge {alertId} :
    input.command = .externalAlertAcknowledge alertId → context.actor.approverEnabled →
    Asks input context t (.externalAlertAcknowledge alertId)
  | settingsUpdate {approverUserIds onboardingCompleted} :
    input.command = .settingsUpdate approverUserIds onboardingCompleted →
    input.identity.isAdministrator → approverUserIds ≠ [] →
    Asks input context t (.settingsUpdate approverUserIds.eraseDups onboardingCompleted)
  | auditExport :
    input.command = .auditExport →
    context.actor.approverEnabled ∨ input.identity.isAdministrator →
    Asks input context t .auditExport

-- A dispatch only asks for mutations that it has seen to.
def authorityContract (service : PilotService) (input : PilotDispatchRequest) :
    Contract PilotCall.Reply where
  rely _ _ _    := True
  guarantee t c :=
    match c with
    | .mutate context metadata mutation => metadata = input.metadata ∧
      WorksIn service input t context ∧ Asks input context t mutation
    | _                                 => True

section Contract

variable {service : PilotService} {input : PilotDispatchRequest} {context : PilotTenantContext}
variable {t t' : List (Event PilotCall.Reply)} {α β : Type}

theorem Told.mono {call : PilotCall} {value : call.Value} (h : Told t call value) (ht : t ⊆ t') :
    Told t' call value :=
  ht h

theorem WorksIn.mono (h : WorksIn service input t context) (ht : t ⊆ t') :
    WorksIn service input t' context where
  served      := h.served
  observed    := by
    obtain ⟨displayName, installationId, htold⟩ := h.observed
    exact ⟨displayName, installationId, htold.mono ht⟩
  account     := h.account
  environment := h.environment
  user        := h.user
  allowed     := h.allowed

theorem Asks.mono {mutation : PilotMutation} (h : Asks input context t mutation) (ht : t ⊆ t') :
    Asks input context t' mutation := by
  cases h with
  | contextSync hcommand => exact .contextSync hcommand
  | refundRequestCreate hcommand hresource hpayment hmatches heligible hactive =>
    exact .refundRequestCreate hcommand hresource (hpayment.mono ht) hmatches heligible
      (hactive.mono ht)
  | refundRequestDecide hcommand hresource happrover hrequest hmatches hother hpending hconfirms =>
    exact .refundRequestDecide hcommand hresource happrover (hrequest.mono ht) hmatches hother
      hpending hconfirms
  | refundRequestCancel hcommand hresource hrequest hmatches hown hpending =>
    exact .refundRequestCancel hcommand hresource (hrequest.mono ht) hmatches hown hpending
  | externalAlertAcknowledge hcommand happrover =>
    exact .externalAlertAcknowledge hcommand happrover
  | settingsUpdate hcommand hadministrator hsome =>
    exact .settingsUpdate hcommand hadministrator hsome
  | auditExport hcommand haccess => exact .auditExport hcommand haccess

-- The script goes on from the events `t` to more events, of which `post` is true when it succeeds.
def Leads (service : PilotService) (input : PilotDispatchRequest) (p : PilotScript α)
    (t : List (Event PilotCall.Reply)) (post : List (Event PilotCall.Reply) → α → Prop) : Prop :=
  p.Meets (authorityContract service input)
    (fun t' result => t ⊆ t' ∧ ∀ a, result = .ok a → post t' a) t

namespace Leads

variable {post : List (Event PilotCall.Reply) → α → Prop}
variable {post' : List (Event PilotCall.Reply) → β → Prop}

protected theorem pure {a : α} (h : post t a) : Leads service input (pure a) t post := by
  refine ⟨List.Subset.refl t, fun b hb => ?_⟩
  exact Except.ok.inj hb ▸ h

protected theorem throw {failure : PilotFailure} :
    Leads service input (throw failure : PilotScript α) t post :=
  ⟨List.Subset.refl t, fun _ h => nomatch h⟩

protected theorem fromExcept {x : Except PilotFailure α} :
    Leads service input (fromExcept x) t fun _ a => x = .ok a :=
  meets_fromExcept.mpr ⟨List.Subset.refl t, fun _ h => h⟩

protected theorem await {call : PilotCall}
    (hcall : (authorityContract service input).guarantee t call) :
    Leads service input (PilotScript.await call) t fun t' value => Told t' call value := by
  refine meets_await.mpr ⟨hcall, fun r _ => ⟨List.subset_append_left t _, ?_⟩⟩
  rintro value rfl
  exact List.mem_append_right t (List.mem_singleton_self _)

theorem weaken {p : PilotScript α} (h : Leads service input p t post) :
    Leads service input p t fun _ _ => True :=
  h.mono fun _ _ h => ⟨h.1, fun _ _ => trivial⟩

protected theorem bind {p : PilotScript α} {f : α → PilotScript β}
    (hp : Leads service input p t post)
    (hf : ∀ t' a, t ⊆ t' → post t' a → Leads service input (f a) t' post') :
    Leads service input (p >>= f) t post' := by
  refine meets_bind.mpr (hp.mono fun t' result h => ?_)
  obtain ⟨ht, hpost⟩ := h
  cases result with
  | error failure => exact ⟨ht, fun _ h => nomatch h⟩
  | ok a          =>
    refine (hf t' a ht (hpost a rfl)).mono fun t'' result h => ?_
    exact ⟨List.Subset.trans ht h.1, h.2⟩

protected theorem ite {c : Prop} [Decidable c] {p q : PilotScript α}
    (hp : c → Leads service input p t post) (hq : ¬c → Leads service input q t post) :
    Leads service input (if c then p else q) t post := by
  by_cases h : c
  · simpa [h] using hp h
  · simpa [h] using hq h

theorem tryCatch {p : PilotScript α} {handler : PilotFailure → PilotScript α}
    (hp : Leads service input p t fun _ _ => True)
    (hhandler : ∀ t' failure, t ⊆ t' → Leads service input (handler failure) t' fun _ _ => True) :
    Leads service input (tryCatch p handler) t fun _ _ => True := by
  refine meets_tryCatch.mpr (hp.mono fun t' result h => ?_)
  cases result with
  | ok a          => exact ⟨h.1, fun _ _ => trivial⟩
  | error failure =>
    exact (hhandler t' failure h.1).mono fun t'' result h' =>
      ⟨List.Subset.trans h.1 h'.1, h'.2⟩

end Leads

theorem requireApprover_eq_ok {u : Unit} (h : PilotService.requireApprover context = .ok u) :
    context.actor.approverEnabled := by
  unfold PilotService.requireApprover at h
  split_ifs at h with happrover
  exact happrover

theorem requireAdministrator_eq_ok {u : Unit}
    (h : PilotService.requireAdministrator input.identity = .ok u) :
    input.identity.isAdministrator := by
  unfold PilotService.requireAdministrator at h
  split_ifs at h with hadministrator
  exact hadministrator

theorem requireAuditAccess_eq_ok {u : Unit}
    (h : PilotService.requireAuditAccess context input.identity = .ok u) :
    context.actor.approverEnabled ∨ input.identity.isAdministrator := by
  unfold PilotService.requireAuditAccess at h
  split_ifs at h with haccess
  exact haccess

theorem requirePaymentResource_eq_ok {possibleResource : Option PilotPaymentResource}
    {resource : PilotPaymentResource}
    (h : PilotService.requirePaymentResource possibleResource = .ok resource) :
    possibleResource = some resource := by
  unfold PilotService.requirePaymentResource at h
  split at h
  case h_1 => cases h
  case h_2 => rw [Except.ok.inj h]

theorem assertContextBinding_eq_ok {u : Unit}
    (h : PilotService.assertContextBinding context input.identity = .ok u) :
    context.stripeAccountId = input.identity.accountId ∧
      context.environment = input.identity.environment ∧
      context.actor.stripeUserId = input.identity.userId := by
  unfold PilotService.assertContextBinding at h
  split_ifs at h with hinstallation huser
  obtain ⟨haccount, henvironment⟩ := not_or.mp hinstallation
  exact ⟨not_not.mp haccount, not_not.mp henvironment, not_not.mp huser⟩

-- The transactions on a receipt look for a stored one when they meet a conflict.
theorem replayOnConflict_leads {p : PilotScript PilotStoredResponse}
    (hp : Leads service input p t fun _ _ => True) :
    Leads service input (replayOnConflict input.metadata p) t fun _ _ => True := by
  refine .tryCatch hp fun t' failure _ => .ite (fun _ => ?_) fun _ => .throw
  refine .bind (.await trivial) fun t'' receipt _ _ => ?_
  cases receipt with
  | none   => exact .throw
  | some _ => exact .ite (fun _ => .pure trivial) fun _ => .throw

theorem executeMutation_leads {mutation : PilotMutation} (hworks : WorksIn service input t context)
    (hasks : Asks input context t mutation) :
    Leads service input (executeMutation context input.metadata mutation) t fun _ _ => True :=
  replayOnConflict_leads (.weaken (.await ⟨rfl, hworks, hasks⟩))

theorem storeFailure_leads {failure : PilotFailure} :
    Leads service input (PilotService.storeFailure context input failure) t fun _ _ => True := by
  cases failure with
  | api error =>
    refine .ite (fun _ => .throw) fun _ => .ite (fun _ => .throw) fun _ => ?_
    exact replayOnConflict_leads (.weaken (.await trivial))
  | _         => exact .throw

theorem requireRequest_leads {requestId : String} {resource : PilotPaymentResource} :
    Leads service input (PilotService.requireRequest context requestId resource) t
      fun t' request => Told t' (.getRefundRequest context requestId) (some request) ∧
        PilotService.requestMatchesResource request resource := by
  refine .bind (.await trivial) fun t' request _ htold => ?_
  cases request with
  | none         => exact .throw
  | some request =>
    refine .ite (fun _ => .throw) fun hmatches => .ite (fun _ => .throw) fun _ => ?_
    exact .pure ⟨htold, Bool.of_not_eq_false hmatches⟩

theorem retrieveSignedPayment_leads {resource : PilotPaymentResource} :
    Leads service input (PilotService.retrieveSignedPayment context resource) t
      fun t' payment => Told t' (.retrievePayment context resource) payment ∧
        PilotService.paymentMatchesResource payment resource := by
  refine .bind (.await trivial) fun t' payment _ htold => ?_
  exact .ite (fun hmatches => .pure ⟨htold, hmatches⟩) fun _ => .throw

theorem createRefundRequest_leads {amountMinor : Int} {currency justification : String}
    {reason : RefundReason} (hworks : WorksIn service input t context)
    (hcommand : input.command = .refundRequestCreate amountMinor currency reason justification) :
    Leads service input
      (PilotService.createRefundRequest context input amountMinor currency reason justification) t
      fun _ _ => True := by
  refine .bind .fromExcept fun t₁ resource h₁ hresource => ?_
  have hresource := requirePaymentResource_eq_ok hresource
  refine .bind retrieveSignedPayment_leads fun t₂ payment h₂ hpayment => ?_
  obtain ⟨hpayment, hmatches⟩ := hpayment
  refine .bind .fromExcept fun t₃ eligibility h₃ heligibility => ?_
  have heligibility := mapError_eq_ok.mp heligibility
  cases eligibility with
  | error code  => exact .throw
  | ok eligible =>
    refine .bind (.await trivial) fun t₄ activeRequest h₄ hactive => ?_
    refine .ite (fun _ => .throw) fun hnone => ?_
    obtain rfl : activeRequest = none := by simpa using hnone
    have ht : t₂ ⊆ t₄ := List.Subset.trans h₃ h₄
    exact executeMutation_leads
      (hworks.mono (List.Subset.trans h₁ (List.Subset.trans h₂ ht)))
      (.refundRequestCreate hcommand hresource (hpayment.mono ht) hmatches heligibility hactive)

theorem decideRefundRequest_leads {requestId : String} {command : DecisionCommand}
    (hworks : WorksIn service input t context)
    (hcommand : input.command = .refundRequestDecide requestId command) :
    Leads service input (PilotService.decideRefundRequest context input requestId command) t
      fun _ _ => True := by
  refine .bind .fromExcept fun t₁ _ h₁ happrover => ?_
  refine .bind .fromExcept fun t₂ resource h₂ hresource => ?_
  have hresource := requirePaymentResource_eq_ok hresource
  refine .bind requireRequest_leads fun t₃ request h₃ hrequest => ?_
  obtain ⟨hrequest, hmatches⟩ := hrequest
  have hworks := hworks.mono (List.Subset.trans h₁ (List.Subset.trans h₂ h₃))
  refine .ite (fun _ => .throw) fun hother => .ite (fun _ => .throw) fun hpending => ?_
  rw [hworks.user] at hother
  have hasks (hconfirms : command.Confirms input request) :
      Asks input context t₃ (.refundRequestDecide command.decision requestId resource) :=
    .refundRequestDecide hcommand hresource (requireApprover_eq_ok happrover) hrequest hmatches hother
      (not_not.mp hpending) hconfirms
  cases command with
  | reject justification     => exact executeMutation_leads hworks (hasks trivial)
  | approve version snapshot =>
    refine .ite (fun _ => .throw) fun hsame => executeMutation_leads hworks (hasks ?_)
    simp only [not_or, not_not] at hsame
    obtain ⟨hattested, hversion, hamount, hcurrency, hreason, hrequester⟩ := hsame
    refine ⟨Option.isSome_iff_ne_none.mpr hattested, hversion, ?_⟩
    rw [← hamount, ← hcurrency, ← hreason, ← hrequester]

theorem cancelRefundRequest_leads {requestId : String} (hworks : WorksIn service input t context)
    (hcommand : input.command = .refundRequestCancel requestId) :
    Leads service input (PilotService.cancelRefundRequest context input requestId) t
      fun _ _ => True := by
  refine .bind .fromExcept fun t₁ resource h₁ hresource => ?_
  have hresource := requirePaymentResource_eq_ok hresource
  refine .bind requireRequest_leads fun t₂ request h₂ hrequest => ?_
  obtain ⟨hrequest, hmatches⟩ := hrequest
  have hworks := hworks.mono (List.Subset.trans h₁ h₂)
  refine .ite (fun _ => .throw) fun hown => .ite (fun _ => .throw) fun hpending => ?_
  rw [hworks.user] at hown
  exact executeMutation_leads hworks
    (.refundRequestCancel hcommand hresource hrequest hmatches (not_not.mp hown)
      (not_not.mp hpending))

theorem updateSettings_leads {approverUserIds : List String} {onboardingCompleted : Bool}
    (hworks : WorksIn service input t context)
    (hcommand : input.command = .settingsUpdate approverUserIds onboardingCompleted) :
    Leads service input
      (PilotService.updateSettings context input approverUserIds onboardingCompleted) t
      fun _ _ => True := by
  refine .bind .fromExcept fun t₁ _ h₁ hadministrator => ?_
  refine .ite (fun _ => .throw) fun hsome => ?_
  exact executeMutation_leads (hworks.mono h₁)
    (.settingsUpdate hcommand (requireAdministrator_eq_ok hadministrator) hsome)

theorem operate_leads (hworks : WorksIn service input t context) :
    Leads service input (PilotService.operate context input) t fun _ _ => True := by
  unfold PilotService.operate
  cases hcommand : input.command with
  | contextSync _ => exact executeMutation_leads hworks (.contextSync hcommand)
  | refundRequestCreate _ _ _ _ => exact createRefundRequest_leads hworks hcommand
  | refundRequestDecide _ _ => exact decideRefundRequest_leads hworks hcommand
  | refundRequestCancel _ => exact cancelRefundRequest_leads hworks hcommand
  | externalAlertAcknowledge _ =>
    refine .bind .fromExcept fun t₁ _ h₁ happrover => ?_
    exact executeMutation_leads (hworks.mono h₁)
      (.externalAlertAcknowledge hcommand (requireApprover_eq_ok happrover))
  | settingsUpdate _ _ => exact updateSettings_leads hworks hcommand
  | auditExport =>
    refine .bind .fromExcept fun t₁ _ h₁ haccess => ?_
    exact executeMutation_leads (hworks.mono h₁)
      (.auditExport hcommand (requireAuditAccess_eq_ok haccess))
  | paymentEligibility =>
    refine .bind .fromExcept fun _ resource _ _ => ?_
    refine .bind retrieveSignedPayment_leads fun _ payment _ _ => ?_
    refine .bind .fromExcept fun _ _ _ _ => ?_
    exact .bind (.await trivial) fun _ _ _ _ => .pure trivial
  | refundRequestList _ _ _ =>
    refine .bind .fromExcept fun _ _ _ _ => ?_
    exact .bind (.await trivial) fun _ _ _ _ => .pure trivial
  | refundRequestGet _ =>
    refine .bind .fromExcept fun _ resource _ _ => ?_
    exact .bind requireRequest_leads fun _ _ _ _ => .pure trivial
  | externalAlertList _ _ =>
    refine .bind .fromExcept fun _ _ _ _ => ?_
    exact .bind (.await trivial) fun _ _ _ _ => .pure trivial
  | settingsGet => exact .bind (.await trivial) fun _ _ _ _ => .pure trivial

theorem resolveContext_leads {identity : PilotSignedIdentity} {allowProvision : Bool}
    {displayName : Option String} :
    Leads service input (resolveContext identity allowProvision displayName) t
      fun t' result => ∀ context, result = some context → ∃ displayName installationId,
        Told t' (.observeContext identity displayName installationId) (some context) := by
  refine .bind (.await trivial) fun t₁ _ _ _ => ?_
  have hprovision (resolved : Option String) (t : List (Event PilotCall.Reply)) :
      Leads service input (if resolved = none ∧ allowProvision then
          PilotScript.provisionInstallation identity.accountId identity.environment
        else
          pure resolved) t fun _ _ => True :=
    .ite (fun _ => .weaken (.await trivial)) fun _ => .pure trivial
  refine .bind (hprovision _ _) fun t₂ resolved _ _ => ?_
  cases resolved with
  | none                => exact .pure fun _ h => nomatch h
  | some installationId =>
    have hobserve : Leads service input
        (PilotScript.observeContext identity displayName installationId) t₂ fun t' result =>
          Told t' (.observeContext identity displayName installationId) result := .await trivial
    refine hobserve.mono fun t' result h => ⟨h.1, fun resolved hok context hcontext => ?_⟩
    exact ⟨displayName, installationId, hcontext ▸ h.2 resolved hok⟩

theorem dispatch_leads :
    Leads service input (service.dispatch input) t fun _ _ => True := by
  refine .ite (fun _ => .throw) fun hserved => ?_
  refine .bind resolveContext_leads fun t₁ resolved h₁ hresolved => ?_
  cases resolved with
  | none         => exact .throw
  | some context =>
    refine .bind .fromExcept fun t₂ _ h₂ hbinding => ?_
    refine .bind .fromExcept fun t₃ _ h₃ hallowed => ?_
    obtain ⟨haccount, henvironment, huser⟩ := assertContextBinding_eq_ok hbinding
    have hworks : WorksIn service input t₁ context :=
      ⟨not_not.mp hserved, hresolved context rfl, haccount, henvironment, huser, hallowed⟩
    have hworks := hworks.mono (List.Subset.trans h₂ h₃)
    refine .ite (fun _ => ?_) fun _ => operate_leads hworks
    refine .bind .fromExcept fun t₄ _ h₄ _ => ?_
    refine .bind (.await trivial) fun t₅ receipt h₅ _ => ?_
    cases receipt with
    | none         =>
      exact .tryCatch (operate_leads (hworks.mono (List.Subset.trans h₄ h₅)))
        fun _ _ _ => storeFailure_leads
    | some receipt => exact .bind .fromExcept fun _ _ _ _ => .pure trivial

end Contract
end RefundDesk
