import RefundDesk.Platform.DispatchContract
import RefundDesk.Repositories.Runs

namespace RefundDesk

open Transaction Script Relation PilotPrismaRepository

-- The calls that resolve the context of a dispatch, which every dispatch makes.
def PilotCall.resolvesContext : PilotCall → Bool
  | .resolveInstallation _ _ | .provisionInstallation _ _ | .observeContext _ _ _ => true
  | _                                                                             => false

-- The states differ in what the resolution of a context can change at most.
def PilotStore.SameButContext (s s' : PilotStore) : Prop :=
  ∃ tenant installations users profiles, s' = { s with
    rows := { s.rows with
      store := { s.rows.store with tenant, installations, users }
      profiles
    }
  }

-- At most one mutation has been performed, and it has left its receipt.
def PilotStore.Applies (options : PilotPrismaRepositoryOptions) (s s' : PilotStore) : Prop :=
  s'.applied = s.applied ∨ ∃ a, s.receipt? a.metadata.requestNonce = none ∧
    s'.receipt? a.metadata.requestNonce = some (a.metadata.receipt a.response) ∧
    a.Performed options ∧ s'.applied = a :: s.applied

-- What an answered call means for the receipts and the mutations.
structure Answered (options : PilotPrismaRepositoryOptions) (s : PilotStore)
    (e : Event PilotCall.Reply) (s' : PilotStore) : Prop where
  grows   : s.Extends s'
  applies : s.Applies options s'
  yields  : ∀ metadata response, Yields metadata response e →
    ∃ receipt, s'.receipt? metadata.requestNonce = some receipt ∧ receipt.matches metadata ∧
      receipt.response = response
  refuses : ∀ metadata, Refuses metadata e →
    ∃ receipt, s'.receipt? metadata.requestNonce = some receipt ∧
      receipt.matches metadata = false

section Answers

variable {options : PilotPrismaRepositoryOptions} {service : PilotService} {i : Nat}
variable {inputs : Nat → PilotDispatchRequest} {s s' : PilotStore} {e : Event PilotCall.Reply}

theorem PilotStore.SameButContext.refl : s.SameButContext s :=
  ⟨_, _, _, _, rfl⟩

theorem PilotStore.Extends.of_eq (h : s'.receipts = s.receipts) : s.Extends s' := by
  intro nonce receipt hreceipt
  rwa [PilotStore.receipt?, h]

theorem Answered.of_same (hreceipts : s'.receipts = s.receipts) (happlied : s'.applied = s.applied)
    (hyields : ∀ metadata response, ¬Yields metadata response e)
    (hrefuses : ∀ metadata, ¬Refuses metadata e) : Answered options s e s' where
  grows   := .of_eq hreceipts
  applies := .inl happlied
  yields metadata response h := (hyields metadata response h).elim
  refuses metadata h := (hrefuses metadata h).elim

-- What every commit of a transaction changes at most is what its answer changes at most.
theorem Transacts.keeps {α : Type} {m : PilotStoreTransaction α} {r : Except PilotFailure α}
    {P : PilotStore → Prop} (h : Transacts m s r s') (hs : P s)
    (hm : ∀ a s', m.Commits s a s' → P s') : P s' := by
  cases h with
  | committed hc  => exact hm _ _ hc
  | lost hc       => exact hm _ _ hc
  | aborted _     => exact hs
  | unreachable _ => exact hs

theorem eq_of_resolveInstallation {accountId : String}
    {environment : StripeEnvironment} {a : Option String}
    (h : (resolveInstallation accountId environment).Commits s a s') : s' = s := by
  simp only [resolveInstallation, commits_bind, commits_require, commits_get, commits_pure] at h
  obtain ⟨_, _, ⟨_, hs₁⟩, _, _, ⟨_, hs₂⟩, _, hs⟩ := h
  rw [hs, hs₂, hs₁]

theorem sameButContext_of_provisionInstallation {accountId : String}
    {environment : StripeEnvironment} {a : Option String}
    (h : (provisionInstallation accountId environment).Commits s a s') : s.SameButContext s' := by
  simp only [provisionInstallation, commits_bind, commits_require, commits_get] at h
  obtain ⟨_, _, ⟨_, rfl⟩, _, _, ⟨rfl, rfl⟩, h⟩ := h
  split at h
  · obtain ⟨_, rfl⟩ := commits_pure.mp h
    exact .refl
  · simp only [commits_ite, commits_bind, commits_set, commits_pure] at h
    rcases h with ⟨_, _, rfl⟩ | ⟨_, _, _, rfl, _, rfl⟩
    · exact .refl
    · exact ⟨_, _, _, _, rfl⟩

theorem sameButContext_of_observeContext {draw : Draw} {identity : PilotSignedIdentity}
    {displayName : Option String} {installationId : String} {a : Option PilotTenantContext}
    (h : (observeContext draw identity displayName installationId).Commits s a s') :
    s.SameButContext s' := by
  obtain ⟨rows, hrows, rfl⟩ := commits_onField.mp h
  simp only [PilotRepository.getInstallationContext, PilotRepository.observeTenantUser, commits_bind,
    commits_get, commits_pure] at hrows
  obtain ⟨_, _, ⟨_, _, ⟨rfl, rfl⟩, _, rfl⟩, _, _, ⟨_, _, ⟨rfl, rfl⟩, hobserve⟩, _, _, ⟨_, rfl⟩, _,
    rfl⟩ := hrows
  split at hobserve
  · simp only [commits_bind, commits_set, commits_pure] at hobserve
    obtain ⟨_, _, rfl, _, rfl⟩ := hobserve
    exact ⟨_, _, _, _, rfl⟩
  · simp only [commits_bind, commits_require, commits_set, commits_pure] at hobserve
    obtain ⟨_, _, ⟨_, rfl⟩, _, _, ⟨_, rfl⟩, _, _, rfl, _, rfl⟩ := hobserve
    exact ⟨_, _, _, _, rfl⟩

theorem Answered.of_sameButContext (h : s.SameButContext s')
    (hyields : ∀ metadata response, ¬Yields metadata response e)
    (hrefuses : ∀ metadata, ¬Refuses metadata e) : Answered options s e s' := by
  obtain ⟨_, _, _, _, rfl⟩ := h
  exact .of_same rfl rfl hyields hrefuses

theorem matches_receipt {metadata : PilotMutationMetadata} {response : PilotStoredResponse} :
    (metadata.receipt response).matches metadata := by
  simp [PilotMutationReceipt.matches, PilotMutationMetadata.receipt]

theorem Serves.grows {metadata : PilotMutationMetadata} {response : PilotStoredResponse}
    (h : Serves options metadata s response s') : s.Extends s' := by
  cases h with
  | replayed _ _ _ => exact fun _ _ h => h
  | stored _ _ hgrows _ => exact hgrows
  | performed _ _ hgrows _ _ _ _ => exact hgrows

theorem Serves.receipt {metadata : PilotMutationMetadata} {response : PilotStoredResponse}
    (h : Serves options metadata s response s') :
    ∃ receipt, s'.receipt? metadata.requestNonce = some receipt ∧ receipt.matches metadata ∧
      receipt.response = response := by
  cases h with
  | replayed hreceipt hmatch hresponse => exact ⟨_, hreceipt, hmatch, hresponse⟩
  | stored _ hreceipt _ _              => exact ⟨_, hreceipt, matches_receipt, rfl⟩
  | performed _ hreceipt _ _ _ _ _     => exact ⟨_, hreceipt, matches_receipt, rfl⟩

theorem Serves.applies {metadata : PilotMutationMetadata} {response : PilotStoredResponse}
    (h : Serves options metadata s response s') : s.Applies options s' := by
  cases h with
  | replayed _ _ _        => exact .inl rfl
  | stored _ _ _ happlied => exact .inl happlied
  | performed hnone hsome _ hmetadata hresponse hperformed happlied =>
    subst hmetadata hresponse
    exact .inr ⟨_, hnone, hsome, hperformed, happlied⟩

-- A receipt of another mutation does not serve.
theorem not_serves {metadata : PilotMutationMetadata} {response : PilotStoredResponse}
    {receipt : PilotMutationReceipt}
    (hreceipt : s.receipt? metadata.requestNonce = some receipt)
    (hmatch : receipt.matches metadata = false) : ¬Serves options metadata s response s' := by
  intro h
  cases h with
  | replayed hsome hmatches _ =>
    obtain rfl := Option.some.inj (hreceipt.symm.trans hsome)
    exact Bool.false_ne_true (hmatch.symm.trans hmatches)
  | stored hnone _ _ _          => cases hreceipt.symm.trans hnone
  | performed hnone _ _ _ _ _ _ => cases hreceipt.symm.trans hnone

-- A transaction on the receipt of a mutation, behind the event of its answer.
theorem Answered.of_receiptTransaction {m : PilotStoreTransaction PilotStoredResponse}
    {metadata : PilotMutationMetadata} {r : Except PilotFailure PilotStoredResponse}
    (h : Transacts m s r s')
    (hserves : ∀ response s', m.Commits s response s' → Serves options metadata s response s')
    (hrefused : m.Aborts s idempotencyConflict → ∃ receipt,
      s.receipt? metadata.requestNonce = some receipt ∧ receipt.matches metadata = false)
    (hyields : ∀ data response, Yields data response e → data = metadata ∧ r = .ok response)
    (hrefuses : ∀ data, Refuses data e → data = metadata ∧ r = .error idempotencyConflict) :
    Answered options s e s' where
  grows   := h.keeps (fun _ _ h => h) fun _ _ hc => (hserves _ _ hc).grows
  applies := h.keeps (.inl rfl) fun _ _ hc => (hserves _ _ hc).applies
  yields data response he := by
    obtain ⟨rfl, rfl⟩ := hyields data response he
    cases h with
    | committed hc => exact (hserves _ _ hc).receipt
  refuses data he := by
    obtain ⟨rfl, hr⟩ := hrefuses data he
    cases h with
    | committed _     => cases hr
    | lost _          => cases hr
    | aborted ha      => exact hrefused (Except.error.inj hr ▸ ha)
    | unreachable hmem =>
      rw [Except.error.inj hr] at hmem
      simp [idempotencyConflict, PilotFailure.error] at hmem

theorem Answered.of_findMutationReceipt {nonce : String}
    {r : Except PilotFailure (Option PilotMutationReceipt)}
    (h : Transacts (findMutationReceipt nonce) s r s') :
    Answered options s ⟨.findMutationReceipt nonce, r⟩ s' := by
  have hstate : s' = s :=
    h.keeps (P := (· = s)) rfl fun _ _ hc => (commits_findMutationReceipt.mp hc).2.2
  have hreply : ∀ receipt, r = .ok (some receipt) → s.receipt? nonce = some receipt := by
    rintro receipt rfl
    cases h with
    | committed hc => exact (commits_findMutationReceipt.mp hc).2.1.symm
  subst hstate
  refine ⟨fun _ _ h => h, .inl rfl, ?_, ?_⟩
  · rintro metadata response ⟨rfl, receipt, hr, hmatch, hresponse⟩
    exact ⟨receipt, hreply receipt hr, hmatch, hresponse⟩
  · rintro metadata ⟨rfl, receipt, hr, hmatch⟩
    exact ⟨receipt, hreply receipt hr, hmatch⟩

theorem answered_of_answers {c : PilotCall} {r : c.Reply}
    (h : (dispatchSurroundings options service inputs).answers i s c r s') :
    Answered options s ⟨c, r⟩ s' := by
  cases c with
  | findMutationReceipt nonce => exact .of_findMutationReceipt h
  | mutate context metadata mutation =>
    obtain ⟨draw, h⟩ := h
    exact .of_receiptTransaction h (fun _ _ => serves_of_mutate) refused_of_mutate
      (fun _ _ h => ⟨h.1.symm, h.2⟩) fun _ h => ⟨h.1.symm, h.2⟩
  | storeReceipt context metadata response =>
    obtain ⟨draw, h⟩ := h
    exact .of_receiptTransaction h (fun _ _ => serves_of_storeReceipt) refused_of_storeReceipt
      (fun _ _ h => ⟨h.1.symm, h.2⟩) fun _ h => ⟨h.1.symm, h.2⟩
  | resolveInstallation accountId environment =>
    refine .of_sameButContext (Transacts.keeps h .refl fun _ _ hc => ?_) (by simp [Yields])
      (by simp [Refuses])
    rw [eq_of_resolveInstallation hc]
    exact .refl
  | provisionInstallation accountId environment =>
    exact .of_sameButContext
      (Transacts.keeps h .refl fun _ _ hc => sameButContext_of_provisionInstallation hc)
      (by simp [Yields]) (by simp [Refuses])
  | observeContext identity displayName installationId =>
    obtain ⟨draw, h⟩ := h
    exact .of_sameButContext
      (Transacts.keeps h .refl fun _ _ hc => sameButContext_of_observeContext hc)
      (by simp [Yields]) (by simp [Refuses])
  | _ =>
    obtain rfl : s' = s := h
    exact .of_same rfl rfl (by simp [Yields]) (by simp [Refuses])

end Answers
-- What holds between the receipts, the performed mutations and the answers so far.
structure DispatchesSound (options : PilotPrismaRepositoryOptions) (y : Dispatches) : Prop where
  once      : (y.state.applied.map fun a => nonceKey a.metadata.requestNonce).Nodup
  stored    : ∀ a ∈ y.state.applied,
    y.state.receipt? a.metadata.requestNonce = some (a.metadata.receipt a.response)
  performed : ∀ a ∈ y.state.applied, a.Performed options
  yielded   : ∀ i e metadata response, (i, e) ∈ y.events → Yields metadata response e →
    ∃ receipt, y.state.receipt? metadata.requestNonce = some receipt ∧ receipt.matches metadata ∧
      receipt.response = response
  refused   : ∀ i e metadata, (i, e) ∈ y.events → Refuses metadata e →
    ∃ receipt, y.state.receipt? metadata.requestNonce = some receipt ∧
      receipt.matches metadata = false

namespace DispatchesSound

variable {options : PilotPrismaRepositoryOptions} {service : PilotService}
variable {inputs : Nat → PilotDispatchRequest} {y y' : Dispatches}

theorem of_grows {state : PilotStore} {scripts : Nat → Option (PilotScript PilotStoredResponse)}
    (h : DispatchesSound options y) (hgrows : y.state.Extends state)
    (happlied : state.applied = y.state.applied) :
    DispatchesSound options ⟨state, scripts, y.events⟩ where
  once      := happlied ▸ h.once
  stored a ha := hgrows (h.stored a (happlied ▸ ha))
  performed a ha := h.performed a (happlied ▸ ha)
  yielded i e metadata response he hyields := by
    obtain ⟨receipt, hreceipt, hrest⟩ := h.yielded i e metadata response he hyields
    exact ⟨receipt, hgrows hreceipt, hrest⟩
  refused i e metadata he hrefuses := by
    obtain ⟨receipt, hreceipt, hmatch⟩ := h.refused i e metadata he hrefuses
    exact ⟨receipt, hgrows hreceipt, hmatch⟩

-- A mutation is only performed under a nonce that has no receipt yet.
theorem of_answered {i : Nat} {e : Event PilotCall.Reply} {s' : PilotStore}
    {scripts : Nat → Option (PilotScript PilotStoredResponse)} (h : DispatchesSound options y)
    (ha : Answered options y.state e s') :
    DispatchesSound options ⟨s', scripts, y.events ++ [(i, e)]⟩ := by
  have hstored : ∀ b ∈ y.state.applied,
      s'.receipt? b.metadata.requestNonce = some (b.metadata.receipt b.response) :=
    fun b hb => ha.grows (h.stored b hb)
  refine ⟨?once, ?stored, ?performed, fun j e' metadata response he hyields => ?yielded,
    fun j e' metadata he hrefuses => ?refused⟩
  case once =>
    rcases ha.applies with heq | ⟨a, hnone, _, _, heq⟩
    · exact heq ▸ h.once
    · rw [heq, List.map_cons, List.nodup_cons]
      refine ⟨fun hmem => ?_, h.once⟩
      obtain ⟨b, hb, hkey⟩ := List.mem_map.mp hmem
      have hsome := h.stored b hb
      rw [PilotStore.receipt?, hkey, ← PilotStore.receipt?, hnone] at hsome
      cases hsome
  case stored =>
    rcases ha.applies with heq | ⟨a, _, hsome, _, heq⟩
    · exact heq ▸ hstored
    · exact heq ▸ List.forall_mem_cons.mpr ⟨hsome, hstored⟩
  case performed =>
    rcases ha.applies with heq | ⟨a, _, _, hperformed, heq⟩
    · exact heq ▸ h.performed
    · exact heq ▸ List.forall_mem_cons.mpr ⟨hperformed, h.performed⟩
  case yielded =>
    rcases List.mem_append.mp he with he | he
    · obtain ⟨receipt, hreceipt, hrest⟩ := h.yielded j e' metadata response he hyields
      exact ⟨receipt, ha.grows hreceipt, hrest⟩
    · obtain ⟨-, rfl⟩ := Prod.mk.inj (List.mem_singleton.mp he)
      exact ha.yields metadata response hyields
  case refused =>
    rcases List.mem_append.mp he with he | he
    · obtain ⟨receipt, hreceipt, hmatch⟩ := h.refused j e' metadata he hrefuses
      exact ⟨receipt, ha.grows hreceipt, hmatch⟩
    · obtain ⟨-, rfl⟩ := Prod.mk.inj (List.mem_singleton.mp he)
      exact ha.refuses metadata hrefuses

theorem step (h : DispatchesSound options y)
    (hstep : Concurrent.Step (dispatchSurroundings options service inputs) y y') :
    DispatchesSound options y' := by
  cases hstep with
  | started _ _   => exact { h with }
  | answered _ ha => exact h.of_answered (answered_of_answers ha)
  | disturbed hd  => exact h.of_grows (.of_eq hd.1) hd.2

-- While the stored receipt is one of another mutation, no call is answered as if there were none.
theorem denies (h : DispatchesSound options y) {i : Nat} {metadata : PilotMutationMetadata}
    {c : PilotCall} {r : c.Reply} {s' : PilotStore}
    (ha : (dispatchSurroundings options service inputs).answers i y.state c r s')
    (hrefused : Refused metadata (Concurrent.eventsOf y.events i)) : Denies metadata ⟨c, r⟩ := by
  obtain ⟨e, he, hrefuses⟩ := hrefused
  obtain ⟨receipt, hreceipt, hmatch⟩ :=
    h.refused i e metadata (Concurrent.mem_eventsOf.mp he) hrefuses
  have hdenied (m : PilotStoreTransaction PilotStoredResponse)
      (r : Except PilotFailure PilotStoredResponse) (hm : Transacts m y.state r s')
      (hserves : ∀ response s', m.Commits y.state response s' →
        Serves options metadata y.state response s')
      (haborts : ∀ e, m.Aborts y.state e → e = idempotencyConflict ∨ e = .unexpected) :
      ∃ failure, r = .error failure ∧ (failure = idempotencyConflict ∨ failure.isApi = false) := by
    cases hm with
    | committed hc => exact (not_serves hreceipt hmatch (hserves _ _ hc)).elim
    | lost _ => exact ⟨_, rfl, .inr rfl⟩
    | aborted he =>
      refine ⟨_, rfl, (haborts _ he).imp_right ?_⟩
      rintro rfl
      rfl
    | @unreachable e hmem =>
      refine ⟨e, rfl, .inr ?_⟩
      rcases List.mem_pair.mp hmem with rfl | rfl <;> rfl
  cases c with
  | findMutationReceipt nonce =>
    rintro rfl
    cases ha with
    | committed hc =>
      exact .inl ⟨receipt, (commits_findMutationReceipt.mp hc).2.1.trans hreceipt ▸ rfl, hmatch⟩
    | lost _ => exact .inr ⟨_, rfl, rfl⟩
    | aborted he => exact .inr ⟨_, rfl, aborts_findMutationReceipt he ▸ rfl⟩
    | @unreachable e hmem =>
      refine .inr ⟨e, rfl, ?_⟩
      rcases List.mem_pair.mp hmem with rfl | rfl <;> rfl
  | mutate context data mutation =>
    rintro rfl
    obtain ⟨draw, ha⟩ := ha
    exact hdenied _ _ ha (fun _ _ => serves_of_mutate) fun _ => aborts_underReceipt hreceipt
  | storeReceipt context data response =>
    rintro rfl
    obtain ⟨draw, ha⟩ := ha
    exact hdenied _ _ ha (fun _ _ => serves_of_storeReceipt) fun _ => aborts_underReceipt hreceipt
  | _ => trivial

theorem of_run (hidle : y.Idle) (happlied : y.state.applied = [])
    (hrun : ReflTransGen (Concurrent.Step (dispatchSurroundings options service inputs)) y y') :
    y'.Meets (fun i => dispatchContract (inputs i).metadata) (fun i => DispatchPost (inputs i)) ∧
      DispatchesSound options y' := by
  have hstarts : ∀ i script, (dispatchSurroundings options service inputs).starts i script →
      script.Meets (dispatchContract (inputs i).metadata) (DispatchPost (inputs i)) [] := by
    rintro i script rfl
    exact dispatch_conforms [] not_refused_nil
  have hempty : DispatchesSound options y :=
    ⟨by simp [happlied], by simp [happlied], by simp [happlied], by simp [hidle.2],
      by simp [hidle.2]⟩
  exact Concurrent.meets_of_run _ hstarts (fun _ _ _ _ _ h => h.denies) (fun _ _ _ h => h.step)
    hidle hempty hrun

end DispatchesSound

section AtMostOnce

variable {options : PilotPrismaRepositoryOptions} {service : PilotService}
variable {inputs : Nat → PilotDispatchRequest} {y y' : Dispatches}

-- Where the receipt is one of another mutation, only the resolution of the context changes anything.
theorem unchanged_of_answers {i : Nat} {metadata : PilotMutationMetadata}
    {receipt : PilotMutationReceipt} {s s' : PilotStore} {c : PilotCall} {r : c.Reply}
    (h : (dispatchSurroundings options service inputs).answers i s c r s')
    (hcarries : c.Carries metadata) (hreceipt : s.receipt? metadata.requestNonce = some receipt)
    (hmatch : receipt.matches metadata = false) :
    s' = s ∨ c.resolvesContext ∧ s.SameButContext s' := by
  have hnot (response : PilotStoredResponse) (s' : PilotStore) :
      ¬Serves options metadata s response s' := not_serves hreceipt hmatch
  cases c with
  | findMutationReceipt nonce =>
    exact .inl (Transacts.keeps (P := (· = s)) h rfl
      fun _ _ hc => (commits_findMutationReceipt.mp hc).2.2)
  | mutate context data mutation =>
    obtain ⟨draw, h⟩ := h
    obtain rfl : data = metadata := hcarries
    exact .inl (Transacts.keeps (P := (· = s)) h rfl
      fun _ _ hc => (hnot _ _ (serves_of_mutate hc)).elim)
  | storeReceipt context data response =>
    obtain ⟨draw, h⟩ := h
    obtain rfl : data = metadata := hcarries
    exact .inl (Transacts.keeps (P := (· = s)) h rfl
      fun _ _ hc => (hnot _ _ (serves_of_storeReceipt hc)).elim)
  | resolveInstallation accountId environment =>
    exact .inl (Transacts.keeps (P := (· = s)) h rfl fun _ _ => eq_of_resolveInstallation)
  | provisionInstallation accountId environment =>
    exact .inr ⟨rfl, Transacts.keeps h .refl fun _ _ => sameButContext_of_provisionInstallation⟩
  | observeContext identity displayName installationId =>
    obtain ⟨draw, h⟩ := h
    exact .inr ⟨rfl, Transacts.keeps h .refl fun _ _ => sameButContext_of_observeContext⟩
  | _ => exact .inl h

theorem unchanged_of_error {i : Nat} {failure : PilotFailure} {s s' : PilotStore} {c : PilotCall}
    (h : (dispatchSurroundings options service inputs).answers i s c (.error failure) s')
    (hlost : failure ≠ .connectionLost) : s' = s := by
  have htransacts {α : Type} {m : PilotStoreTransaction α}
      (h : Transacts m s (.error failure) s') : s' = s := by
    cases h with
    | lost _        => exact (hlost rfl).elim
    | aborted _     => rfl
    | unreachable _ => rfl
  cases c with
  | resolveInstallation _ _    => exact htransacts h
  | provisionInstallation _ _  => exact htransacts h
  | findMutationReceipt _      => exact htransacts h
  | observeContext _ _ _       => exact htransacts h.choose_spec
  | mutate _ _ _               => exact htransacts h.choose_spec
  | storeReceipt _ _ _         => exact htransacts h.choose_spec
  | _                          => exact h

-- However the dispatches interleave: under one nonce at most one mutation is performed, it has left
-- its receipt with it, and every response that a mutation returns is the one of the receipt. Where
-- the receipt is one of another mutation, a dispatch returns nothing, what it still does is to
-- resolve its context, and after meeting the receipt it fails with the conflict unless the database
-- fails. A call that fails changes nothing.
theorem mutations_apply_once (hidle : y.Idle) (happlied : y.state.applied = [])
    (hrun : ReflTransGen (Concurrent.Step (dispatchSurroundings options service inputs)) y y') :
    (∀ nonce, (y'.state.applied.countP fun a =>
      nonceKey a.metadata.requestNonce = nonceKey nonce) ≤ 1) ∧
    (∀ a ∈ y'.state.applied, a.Performed options ∧
      y'.state.receipt? a.metadata.requestNonce = some (a.metadata.receipt a.response)) ∧
    (∀ i response, (inputs i).operation.mutation → y'.scripts i = some (.done response) →
      ∃ receipt, y'.state.receipt? (inputs i).requestNonce = some receipt ∧
        receipt.matches (inputs i).metadata ∧ receipt.response = response) ∧
    (∀ i receipt, (inputs i).operation.mutation →
      y'.state.receipt? (inputs i).requestNonce = some receipt →
      receipt.matches (inputs i).metadata = false →
      (∀ response, y'.scripts i ≠ some (.done response)) ∧
      (∀ failure, y'.scripts i = some (.fail failure) →
        Refused (inputs i).metadata (Concurrent.eventsOf y'.events i) →
        failure = idempotencyConflict ∨ failure.isApi = false) ∧
      ∀ c next r s', y'.scripts i = some (.ask c next) →
        (dispatchSurroundings options service inputs).answers i y'.state c r s' →
        s' = y'.state ∨ c.resolvesContext ∧ y'.state.SameButContext s') ∧
    ∀ i c failure s',
      (dispatchSurroundings options service inputs).answers i y'.state c (.error failure) s' →
      failure ≠ .connectionLost → s' = y'.state := by
  obtain ⟨hmeets, hsound⟩ := DispatchesSound.of_run hidle happlied hrun
  have hdone : ∀ i response, (inputs i).operation.mutation →
      y'.scripts i = some (.done response) →
      ∃ receipt, y'.state.receipt? (inputs i).requestNonce = some receipt ∧
        receipt.matches (inputs i).metadata ∧ receipt.response = response := by
    intro i response hmutation hscript
    obtain ⟨e, he, hyields⟩ := hmeets.done hscript hmutation
    exact hsound.yielded i e (inputs i).metadata response (Concurrent.mem_eventsOf.mp he) hyields
  refine ⟨fun nonce => ?_, fun a ha => ⟨hsound.performed a ha, hsound.stored a ha⟩, hdone,
    fun i receipt hmutation hreceipt hmatch => ⟨fun response hscript => ?_,
      fun failure hscript hrefused => ?_, fun c next r s' hscript ha => ?_⟩,
    fun i c failure s' => unchanged_of_error⟩
  · have hcount := List.nodup_iff_count_le_one.mp hsound.once (nonceKey nonce)
    rw [List.count, List.countP_map] at hcount
    refine le_of_eq_of_le (List.countP_congr fun a _ => ?_) hcount
    simp
  · obtain ⟨_, hsome, hmatches, _⟩ := hdone i response hmutation hscript
    obtain rfl := Option.some.inj (hreceipt.symm.trans hsome)
    exact Bool.false_ne_true (hmatch.symm.trans hmatches)
  · exact hmeets.fail hscript hrefused
  · exact unchanged_of_answers ha (hmeets.guarantee hscript) hreceipt hmatch

end AtMostOnce
namespace Pilot

-- A platform, and a user who synchronises the context and then decides under the same nonce
-- without being an approver.
def platform : PilotPrismaRepositoryOptions where
  appOrigin        := "app"
  encrypt _ _ _    := {
    algorithm := "aes-256-gcm", keyVersion := "v1", nonce := "", ciphertext := "",
    authenticationTag := ""
  }
  createAuditToken := fun _ => "v1"
  collation l r    := l ≤ r

def service : PilotService where
  admitted := [("acct_1", .test)]

def synchronizing : PilotDispatchRequest where
  approvalAttestationId := none
  canonicalRequestHash  := String.ofList (List.replicate 64 'a')
  command               := .contextSync none
  identity              := {
    accountId := "acct_1", environment := .test, roles := [], rolesAsserted := false
    userId    := "usr_1"
  }
  requestNonce          := "00000000-0000-4000-8000-000000000001"
  responseRequestId     := "00000000-0000-4000-8000-000000000002"
  resource              := none

def deciding : PilotDispatchRequest :=
  { synchronizing with
    command  := .refundRequestDecide "00000000-0000-4000-8000-000000000003" (.reject "not ours")
    resource := some { id := "ch_1", type := .charge }
  }

def inputs : Nat → PilotDispatchRequest
  | 0 => synchronizing
  | _ => deciding

def drawn (time : Timestamp) : Draw where
  now         := time
  databaseNow := time
  id          := "drawn"
  nonce       := "nonce"

def unserved : PilotStore where
  rows     := {
    store := Store.pilot, profiles := .empty, policies := [], onboarding := .empty
    alertIds := .empty, justifications := .empty, decisions := .empty, auditEvents := []
  }
  receipts := .empty
  applied  := []

def syncingContext : PilotTenantContext where
  actor              := { id := "requester", approverEnabled := false, stripeUserId := "usr_1" }
  environment        := .test
  installationId     := "i"
  installationStatus := .active
  stripeAccountId    := "acct_1"
  tenantId           := "t"
  tenantStatus       := .active

def observedOnce : PilotStore :=
  (observeContext (drawn 1) synchronizing.identity none "i").after unserved

def synchronized : PilotStore :=
  (mutate platform (drawn 2) syncingContext synchronizing.metadata .contextSync).after observedOnce

def observedTwice : PilotStore :=
  (observeContext (drawn 3) deciding.identity none "i").after synchronized

def aroundDispatches : Surroundings PilotStore PilotFailure PilotCall.Reply PilotStoredResponse :=
  dispatchSurroundings platform service inputs

def waiting : Dispatches :=
  ⟨unserved, fun _ => none, []⟩

-- The first dispatch stores its receipt before the second one makes a call, and the second one ends
-- with its access.
theorem shared_run : ∃ y y' : Dispatches,
    ReflTransGen (Concurrent.Step aroundDispatches) waiting y ∧
    ReflTransGen (Concurrent.Step aroundDispatches) y y' ∧
    y.state = synchronized ∧ y.scripts 1 = some (service.dispatch deciding) ∧
    y'.state = observedTwice ∧
    y'.scripts 1 = some (.fail (accessDenial .explicitApproverRequired)) := by
  have hresolve (i : Nat) (s : PilotStore)
      (h : ((resolveInstallation "acct_1" .test).run s).toOption.map (·.1) = some (some "i")) :
      aroundDispatches.answers i s (.resolveInstallation "acct_1" .test) (.ok (some "i")) s :=
    eq_of_resolveInstallation (commits_after h) ▸ Transacts.committed (commits_after h)
  have hobserve : aroundDispatches.answers 0 unserved (.observeContext synchronizing.identity none "i")
      (.ok (some syncingContext)) observedOnce :=
    ⟨drawn 1, .committed (commits_after (by decide +kernel))⟩
  have hfind : aroundDispatches.answers 0 observedOnce (.findMutationReceipt synchronizing.requestNonce)
      (.ok none) observedOnce :=
    .committed (commits_findMutationReceipt.mpr ⟨by decide +kernel, by rfl, rfl⟩)
  have hmutate : ∃ response, aroundDispatches.answers 0 observedOnce
      (.mutate syncingContext synchronizing.metadata .contextSync) (.ok response) synchronized := by
    obtain ⟨response, hresponse⟩ := Option.isSome_iff_exists.mp (show
      (((mutate platform (drawn 2) syncingContext synchronizing.metadata .contextSync).run
        observedOnce).toOption.map (·.1)).isSome by decide +kernel)
    exact ⟨response, drawn 2, .committed (commits_after hresponse)⟩
  have hobserveTwice : aroundDispatches.answers 1 synchronized (.observeContext deciding.identity none "i")
      (.ok (some syncingContext)) observedTwice :=
    ⟨drawn 3, .committed (commits_after (by decide +kernel))⟩
  obtain ⟨response, hmutate⟩ := hmutate
  have hfirst : aroundDispatches.starts 0 (service.dispatch synchronizing) := rfl
  have hsecond : aroundDispatches.starts 1 (service.dispatch deciding) := rfl
  have hnone (i : Nat) : waiting.scripts i = none := rfl
  obtain ⟨y₀, h₀, hs₀, hp, -, ho⟩ := Concurrent.Step.start (hnone 0) hfirst
  have hnone := (ho 1 (by decide)).trans (hnone 1)
  obtain ⟨y₁, h₁, hs₁, hq₁, -, ho₁⟩ := Concurrent.Step.start hnone hsecond
  have hs : y₁.state = unserved := hs₁.trans hs₀
  have hp := (ho₁ 0 (by decide)).trans hp
  obtain ⟨y₂, h₂, hs, hp, -, ho₂⟩ := Concurrent.Step.answer hs hp (hresolve 0 _ (by decide +kernel))
  obtain ⟨y₃, h₃, hs, hp, -, ho₃⟩ := Concurrent.Step.answer hs hp hobserve
  obtain ⟨y₄, h₄, hs, hp, -, ho₄⟩ := Concurrent.Step.answer hs hp hfind
  obtain ⟨y₅, h₅, hs₅, hp, -, ho₅⟩ := Concurrent.Step.answer hs hp hmutate
  have hq₅ := ((ho₅ 1 (by decide)).trans <| (ho₄ 1 (by decide)).trans <|
    (ho₃ 1 (by decide)).trans (ho₂ 1 (by decide))).trans hq₁
  obtain ⟨y₆, h₆, hs, hq, -, -⟩ :=
    Concurrent.Step.answer hs₅ hq₅ (hresolve 1 _ (by decide +kernel))
  obtain ⟨y₇, h₇, hs, hq, -, -⟩ := Concurrent.Step.answer hs hq hobserveTwice
  refine ⟨y₅, y₇, ?_, (ReflTransGen.single h₆).tail h₇, hs₅, hq₅, hs, hq⟩
  exact (ReflTransGen.single h₀).tail h₁ |>.tail h₂ |>.tail h₃ |>.tail h₄ |>.tail h₅

-- A dispatch that differs from the one whose receipt is stored can fail before it meets the receipt,
-- and its user has been observed again.
theorem decide_fails_before_lookUp :
    ∃ y y' : Dispatches,
      ReflTransGen (Concurrent.Step aroundDispatches) waiting y ∧
      ReflTransGen (Concurrent.Step aroundDispatches) y y' ∧
      (∃ receipt, y.state.receipt? deciding.requestNonce = some receipt ∧
        receipt.matches deciding.metadata = false) ∧
      y.scripts 1 = some (service.dispatch deciding) ∧
      (∃ failure, y'.scripts 1 = some (.fail failure) ∧ failure ≠ idempotencyConflict) ∧
      (y'.state.rows.profiles.find? "requester").map (·.lastVerifiedAt) ≠
        (y.state.rows.profiles.find? "requester").map (·.lastVerifiedAt) := by
  obtain ⟨y, y', hrun, hrun', hs, hq, hs', hq'⟩ := shared_run
  have hreceipt : (synchronized.receipt? deciding.requestNonce).any
      fun receipt => receipt.matches deciding.metadata = false := by decide +kernel
  obtain ⟨receipt, hreceipt, hmatch⟩ := (Option.any_eq_true _ _).mp hreceipt
  refine ⟨y, y', hrun, hrun', ⟨receipt, hs ▸ hreceipt, of_decide_eq_true hmatch⟩, hq,
    ⟨_, hq', by decide⟩, ?_⟩
  rw [hs, hs']
  decide +kernel

theorem mutations_apply_once_shared :
    ∃ y : Dispatches, y.state.applied ≠ [] ∧
      (y.state.applied.countP fun a =>
        nonceKey a.metadata.requestNonce = nonceKey deciding.requestNonce) ≤ 1 := by
  obtain ⟨y, _, hrun, -, hs, -⟩ := shared_run
  refine ⟨y, fun h => ?_, (mutations_apply_once ⟨fun _ => rfl, rfl⟩ rfl hrun).1 _⟩
  have happlied : synchronized.applied.length ≠ 0 := by decide +kernel
  rw [← hs, h] at happlied
  exact happlied rfl

end Pilot
end RefundDesk
