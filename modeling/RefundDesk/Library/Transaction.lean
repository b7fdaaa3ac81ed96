import Mathlib.Logic.Relation

-- A database transaction: it reads and writes a state, and an error rolls the whole of it back.
abbrev Transaction (ε σ : Type) := StateT σ (Except ε)

theorem Except.bind_eq_ok {ε α β : Type} {x : Except ε α} {f : α → Except ε β} {b : β} :
    (x >>= f) = .ok b ↔ ∃ a, x = .ok a ∧ f a = .ok b := by
  cases x <;> simp [bind, Except.bind]

namespace Transaction

open Relation

variable {ε σ τ α β : Type}

-- The transaction `m` started in `s` commits with result `a` and leaves `s'`.
def Commits (m : Transaction ε σ α) (s : σ) (a : α) (s' : σ) : Prop :=
  m.run s = .ok (a, s')

def Aborts (m : Transaction ε σ α) (s : σ) (e : ε) : Prop :=
  m.run s = .error e

-- How a transaction answers over a connection that can break: an error does not tell whether it has
-- committed.
inductive Answers (m : Transaction ε σ α) (s : σ) : Except ε α → σ → Prop
  | committed {a s'} : m.Commits s a s' → Answers m s (.ok a) s'
  | lost {a s' e}    : m.Commits s a s' → Answers m s (.error e) s'
  | failed {e}       : Answers m s (.error e) s

-- The state that the transaction leaves.
def after (m : Transaction ε σ α) (s : σ) : σ :=
  match m.run s with
  | .ok (_, s') => s'
  | .error _    => s

-- Stops the transaction unless the condition holds.
def require (p : Prop) [Decidable p] (e : ε) : Transaction ε σ Unit :=
  if p then pure () else throw e

-- A computation that can fail but does not touch the state.
def fromExcept : Except ε α → Transaction ε σ α
  | .ok a    => pure a
  | .error e => throw e

-- Runs a transaction on the part of the state that `view` selects, if there is one.
def onPart (view : σ → Option τ) (update : σ → τ → σ) (m : σ → Transaction ε τ α) :
    Transaction ε σ (Option α) := do
  let s ← get
  match view s with
  | none   => pure none
  | some t =>
    let (a, t') ← fromExcept ((m s).run t)
    set (update s t')
    pure (some a)

-- Runs a transaction on a part of the state, with its errors in the words of the whole.
def onField {ε' : Type} (view : σ → τ) (update : σ → τ → σ) (error : ε → ε')
    (m : Transaction ε τ α) : Transaction ε' σ α := fun s =>
  match m.run (view s) with
  | .ok (a, t) => .ok (a, update s t)
  | .error e   => .error (error e)

section Rules

variable {m : Transaction ε σ α} {f : α → Transaction ε σ β} {s s' s₁ s₂ : σ} {a a₁ a₂ : α} {b : β}

theorem Commits.deterministic (h₁ : m.Commits s a₁ s₁) (h₂ : m.Commits s a₂ s₂) :
    a₁ = a₂ ∧ s₁ = s₂ := by
  simpa [Commits] using h₁.symm.trans h₂

theorem not_aborts_of_commits {e : ε} (h : m.Commits s a s') : ¬m.Aborts s e := by
  simp [Aborts, show m.run s = _ from h]

theorem Answers.commits_or_eq {r : Except ε α} (h : m.Answers s r s') :
    (∃ a, m.Commits s a s') ∨ s' = s := by
  cases h with
  | committed hc => exact .inl ⟨_, hc⟩
  | lost hc      => exact .inl ⟨_, hc⟩
  | failed       => exact .inr rfl

theorem commits_or_aborts (m : Transaction ε σ α) (s : σ) :
    (∃ a s', m.Commits s a s') ∨ ∃ e, m.Aborts s e := by
  unfold Commits Aborts
  cases m.run s with
  | ok r    => exact .inl ⟨r.1, r.2, rfl⟩
  | error e => exact .inr ⟨e, rfl⟩

theorem commits_after (h : (m.run s).toOption.map (·.1) = some a) : m.Commits s a (m.after s) := by
  unfold Commits after
  cases hm : m.run s with
  | error e => simp [hm, Except.toOption] at h
  | ok r    => simpa [hm, Except.toOption, Prod.ext_iff] using h

theorem after_of_commits (h : m.Commits s a s') : m.after s = s' := by
  unfold after
  rw [show m.run s = .ok (a, s') from h]

theorem after_of_aborts {e : ε} (h : m.Aborts s e) : m.after s = s := by
  unfold after
  rw [show m.run s = .error e from h]

@[simp]
theorem commits_pure : (pure a₁ : Transaction ε σ α).Commits s a s' ↔ a = a₁ ∧ s' = s := by
  change (.ok (a₁, s) : Except ε (α × σ)) = .ok (a, s') ↔ _
  simp [eq_comm]

@[simp]
theorem commits_bind :
    (m >>= f).Commits s b s' ↔ ∃ a s₁, m.Commits s a s₁ ∧ (f a).Commits s₁ b s' := by
  unfold Commits
  rw [StateT.run_bind]
  cases m.run s with
  | error e => simp [bind, Except.bind]
  | ok r    => simp [bind, Except.bind, Prod.ext_iff, and_assoc]

@[simp]
theorem commits_map (g : α → β) :
    (g <$> m).Commits s b s' ↔ ∃ a, m.Commits s a s' ∧ b = g a := by
  rw [map_eq_pure_bind, commits_bind]
  simp only [commits_pure]
  constructor
  · rintro ⟨a, _, hm, rfl, rfl⟩
    exact ⟨a, hm, rfl⟩
  · rintro ⟨a, hm, rfl⟩
    exact ⟨a, s', hm, rfl, rfl⟩

@[simp]
theorem commits_get {r : σ} : (get : Transaction ε σ σ).Commits s r s' ↔ r = s ∧ s' = s := by
  change (.ok (s, s) : Except ε (σ × σ)) = .ok (r, s') ↔ _
  simp [eq_comm]

@[simp]
theorem commits_set {u : Unit} : (set s₁ : Transaction ε σ Unit).Commits s u s' ↔ s' = s₁ := by
  change (.ok ((), s₁) : Except ε (Unit × σ)) = .ok (u, s') ↔ _
  simp [eq_comm]

@[simp]
theorem commits_modify {g : σ → σ} {u : Unit} :
    (modify g : Transaction ε σ Unit).Commits s u s' ↔ s' = g s := by
  change (.ok ((), g s) : Except ε (Unit × σ)) = .ok (u, s') ↔ _
  simp [eq_comm]

@[simp]
theorem not_commits_throw {e : ε} : ¬(throw e : Transaction ε σ α).Commits s a s' := by
  simp [Commits, throw, throwThe, MonadExceptOf.throw, StateT.lift, StateT.run, bind, Except.bind]

@[simp]
theorem commits_ite {p : Prop} [Decidable p] {m₁ m₂ : Transaction ε σ α} :
    (if p then m₁ else m₂).Commits s a s' ↔
      (p ∧ m₁.Commits s a s') ∨ (¬p ∧ m₂.Commits s a s') := by
  by_cases h : p <;> simp [h]

@[simp]
theorem commits_require {p : Prop} [Decidable p] {e : ε} {u : Unit} :
    (require p e : Transaction ε σ Unit).Commits s u s' ↔ p ∧ s' = s := by
  simp [require]

@[simp]
theorem commits_fromExcept {x : Except ε α} :
    (fromExcept x : Transaction ε σ α).Commits s a s' ↔ x = .ok a ∧ s' = s := by
  cases x <;> simp [fromExcept, eq_comm]

theorem commits_onPart {view : σ → Option τ} {update : σ → τ → σ} {m : σ → Transaction ε τ α}
    {r : Option α} :
    (onPart view update m).Commits s r s' ↔
      (view s = none ∧ r = none ∧ s' = s) ∨
      ∃ t a t', view s = some t ∧ (m s).Commits t a t' ∧ r = some a ∧ s' = update s t' := by
  simp only [onPart, commits_bind, commits_get, exists_and_left, exists_eq_left, and_assoc]
  cases hv : view s with
  | none   => simp
  | some t =>
    simp only [commits_bind, commits_fromExcept, commits_set, commits_pure, Prod.exists]
    constructor
    · rintro ⟨a, t', _, ⟨hm, rfl⟩, _, _, rfl, rfl, rfl⟩
      exact .inr ⟨t, rfl, a, t', hm, rfl, rfl⟩
    · rintro (⟨⟨⟩, _⟩ | ⟨_, ⟨rfl⟩, a, t', hm, rfl, rfl⟩)
      exact ⟨a, t', s, ⟨hm, rfl⟩, (), _, rfl, rfl, rfl⟩

theorem commits_onField {ε' : Type} {view : σ → τ} {update : σ → τ → σ} {error : ε → ε'}
    {m : Transaction ε τ α} :
    (onField view update error m).Commits s a s' ↔ ∃ t, m.Commits (view s) a t ∧ s' = update s t := by
  unfold Commits onField
  simp only [StateT.run]
  cases hm : m (view s) with
  | error e => simp
  | ok r    => simp [Prod.ext_iff, eq_comm, and_assoc]

theorem aborts_onField {ε' : Type} {view : σ → τ} {update : σ → τ → σ} {error : ε → ε'}
    {m : Transaction ε τ α} {e' : ε'} :
    (onField view update error m).Aborts s e' ↔ ∃ e, m.Aborts (view s) e ∧ e' = error e := by
  unfold Aborts onField
  simp only [StateT.run]
  cases hm : m (view s) with
  | error e => simp [eq_comm]
  | ok r    => simp

theorem aborts_bind {e : ε} :
    (m >>= f).Aborts s e ↔ m.Aborts s e ∨ ∃ a s₁, m.Commits s a s₁ ∧ (f a).Aborts s₁ e := by
  unfold Aborts Commits
  rw [StateT.run_bind]
  cases m.run s with
  | error e => simp [bind, Except.bind]
  | ok r    => simp [bind, Except.bind, Prod.ext_iff, and_assoc]

theorem aborts_throw {e e' : ε} : (throw e' : Transaction ε σ α).Aborts s e ↔ e = e' := by
  simp [Aborts, throw, throwThe, MonadExceptOf.throw, StateT.lift, StateT.run, bind, Except.bind,
    eq_comm]

@[simp]
theorem not_aborts_get {e : ε} : ¬(get : Transaction ε σ σ).Aborts s e :=
  not_aborts_of_commits (commits_get.mpr ⟨rfl, rfl⟩)

@[simp]
theorem not_aborts_modify {g : σ → σ} {e : ε} :
    ¬(modify g : Transaction ε σ Unit).Aborts s e :=
  not_aborts_of_commits (commits_modify (u := ()) |>.mpr rfl)

theorem aborts_require {p : Prop} [Decidable p] {e e' : ε} :
    (require p e' : Transaction ε σ Unit).Aborts s e ↔ ¬p ∧ e = e' := by
  unfold require
  by_cases h : p
  · simpa [h] using not_aborts_of_commits (commits_pure.mpr ⟨rfl, rfl⟩)
  · simp [h, aborts_throw]

theorem aborts_fromExcept {x : Except ε α} {e : ε} :
    (fromExcept x : Transaction ε σ α).Aborts s e ↔ x = .error e := by
  cases x with
  | ok a    => simpa [fromExcept] using not_aborts_of_commits (commits_pure.mpr ⟨rfl, rfl⟩)
  | error e => simp [fromExcept, aborts_throw, eq_comm]

-- A part that commits leaves the aborting to the rest.
theorem Commits.aborts_bind {e : ε} (hc : m.Commits s a s₁) :
    (m >>= f).Aborts s e ↔ (f a).Aborts s₁ e := by
  rw [Transaction.aborts_bind]
  constructor
  · rintro (ha | ⟨a', s', hc', ha⟩)
    · exact (not_aborts_of_commits hc ha).elim
    · obtain ⟨rfl, rfl⟩ := hc.deterministic hc'
      exact ha
  · exact fun ha => .inr ⟨a, s₁, hc, ha⟩

theorem aborts_get_bind {e : ε} {f : σ → Transaction ε σ β} :
    (get >>= f).Aborts s e ↔ (f s).Aborts s e :=
  (commits_get.mpr ⟨rfl, rfl⟩).aborts_bind

theorem aborts_set_bind {e : ε} {f : Unit → Transaction ε σ β} :
    (set s₁ >>= f).Aborts s e ↔ (f ()).Aborts s₁ e :=
  (commits_set.mpr rfl).aborts_bind

theorem aborts_modify_bind {g : σ → σ} {e : ε} {f : Unit → Transaction ε σ β} :
    (modify g >>= f).Aborts s e ↔ (f ()).Aborts (g s) e :=
  (commits_modify.mpr rfl).aborts_bind

@[simp]
theorem not_aborts_pure {e : ε} : ¬(pure a : Transaction ε σ α).Aborts s e :=
  not_aborts_of_commits (commits_pure.mpr ⟨rfl, rfl⟩)

theorem aborts_require_bind {p : Prop} [Decidable p] {e e' : ε} {f : Unit → Transaction ε σ β} :
    (require p e' >>= f).Aborts s e ↔ (¬p ∧ e = e') ∨ (p ∧ (f ()).Aborts s e) := by
  by_cases h : p
  · have hc : (require p e' : Transaction ε σ Unit).Commits s () s := commits_require.mpr ⟨h, rfl⟩
    simp [hc.aborts_bind, h]
  · simp [aborts_bind, aborts_require, commits_require, h]

end Rules

-- Whatever `m` commits, a run of the steps leads from the state before it to the one after it.
def Within (step : σ → σ → Prop) (m : Transaction ε σ α) : Prop :=
  ∀ ⦃s a s'⦄, m.Commits s a s' → ReflTransGen step s s'

namespace Within

variable {step : σ → σ → Prop} {m : Transaction ε σ α} {f : α → Transaction ε σ β}

theorem mono {step' : σ → σ → Prop} (h : ∀ ⦃s s'⦄, step s s' → step' s s') (hm : Within step m) :
    Within step' m :=
  fun _ _ _ hc => ReflTransGen.mono h _ _ (hm hc)

protected theorem pure (a : α) : Within step (pure a : Transaction ε σ α) := by
  intro s b s' h
  obtain ⟨_, rfl⟩ := commits_pure.mp h
  exact .refl

-- The rest only has to be considered for a result that `m` commits.
theorem bind_of (hm : Within step m) (hf : ∀ a, (∃ s s', m.Commits s a s') → Within step (f a)) :
    Within step (m >>= f) := by
  intro s b s' h
  obtain ⟨a, s₁, h₁, h₂⟩ := commits_bind.mp h
  exact (hm h₁).trans (hf a ⟨s, s₁, h₁⟩ h₂)

protected theorem bind (hm : Within step m) (hf : ∀ a, Within step (f a)) :
    Within step (m >>= f) :=
  hm.bind_of fun a _ => hf a

protected theorem map (g : α → β) (hm : Within step m) : Within step (g <$> m) := by
  intro s b s' h
  obtain ⟨a, h, _⟩ := (commits_map g).mp h
  exact hm h

protected theorem get : Within step (get : Transaction ε σ σ) := by
  intro s r s' h
  obtain ⟨_, rfl⟩ := commits_get.mp h
  exact .refl

protected theorem throw (e : ε) : Within step (throw e : Transaction ε σ α) :=
  fun _ _ _ h => (not_commits_throw h).elim

protected theorem ite {p : Prop} [Decidable p] {m₁ m₂ : Transaction ε σ α}
    (h₁ : p → Within step m₁) (h₂ : ¬p → Within step m₂) : Within step (if p then m₁ else m₂) := by
  by_cases h : p
  · simpa [h] using h₁ h
  · simpa [h] using h₂ h

protected theorem require (p : Prop) [Decidable p] (e : ε) :
    Within step (require p e : Transaction ε σ Unit) :=
  .ite (fun _ => .pure _) fun _ => .throw _

protected theorem fromExcept (x : Except ε α) :
    Within step (fromExcept x : Transaction ε σ α) := by
  cases x with
  | ok a    => exact .pure a
  | error e => exact .throw e

protected theorem forM {f : α → Transaction ε σ PUnit} {xs : List α}
    (h : ∀ x ∈ xs, Within step (f x)) : Within step (xs.forM f) := by
  induction xs with
  | nil => exact .pure _
  | cons x xs ih => exact .bind (h x (by simp)) fun _ => ih fun y hy => h y (by simp [hy])

protected theorem mapM {f : α → Transaction ε σ β} {xs : List α}
    (h : ∀ x ∈ xs, Within step (f x)) : Within step (xs.mapM f) := by
  induction xs with
  | nil => exact .pure _
  | cons x xs ih =>
    rw [List.mapM_cons]
    refine .bind (h x (by simp)) fun _ => .bind (ih fun y hy => h y (by simp [hy])) fun _ => ?_
    exact .pure _

end Within

-- What `m` can return and what it can abort with, from whatever state.
structure Ends (returns : α → Prop) (raises : ε → Prop) (m : Transaction ε σ α) : Prop where
  commits : ∀ ⦃s a s'⦄, m.Commits s a s' → returns a
  aborts  : ∀ ⦃s e⦄, m.Aborts s e → raises e

namespace Ends

variable {returns : β → Prop} {between : α → Prop} {raises : ε → Prop}
variable {m : Transaction ε σ α} {f : α → Transaction ε σ β}

theorem of_commits (h : ∀ s, ∃ a s', m.Commits s a s' ∧ between a) : Ends between raises m where
  commits s a s' hc := by
    obtain ⟨a₁, s₁, hc₁, ha⟩ := h s
    exact (hc.deterministic hc₁).1 ▸ ha
  aborts s e he := by
    obtain ⟨_, _, hc, _⟩ := h s
    exact (not_aborts_of_commits hc he).elim

protected theorem pure {b : β} (h : returns b) :
    Ends returns raises (pure b : Transaction ε σ β) :=
  .of_commits fun s => ⟨b, s, commits_pure.mpr ⟨rfl, rfl⟩, h⟩

protected theorem get : Ends (fun _ => True) raises (get : Transaction ε σ σ) :=
  .of_commits fun s => ⟨s, s, commits_get.mpr ⟨rfl, rfl⟩, trivial⟩

protected theorem set (s : σ) : Ends (fun _ => True) raises (set s : Transaction ε σ Unit) :=
  .of_commits fun _ => ⟨(), s, commits_set.mpr rfl, trivial⟩

protected theorem modify (g : σ → σ) :
    Ends (fun _ => True) raises (modify g : Transaction ε σ Unit) :=
  .of_commits fun s => ⟨(), g s, commits_modify.mpr rfl, trivial⟩

protected theorem throw {e : ε} (h : raises e) :
    Ends returns raises (throw e : Transaction ε σ β) where
  commits _ _ _ hc := (not_commits_throw hc).elim
  aborts _ _ he := aborts_throw.mp he ▸ h

protected theorem bind (hm : Ends between raises m)
    (hf : ∀ a, between a → Ends returns raises (f a)) : Ends returns raises (m >>= f) where
  commits s b s' hc := by
    obtain ⟨a, s₁, h₁, h₂⟩ := commits_bind.mp hc
    exact (hf a (hm.commits h₁)).commits h₂
  aborts s e he := by
    rcases aborts_bind.mp he with ha | ⟨a, s₁, hc, ha⟩
    · exact hm.aborts ha
    · exact (hf a (hm.commits hc)).aborts ha

protected theorem ite {p : Prop} [Decidable p] {m₁ m₂ : Transaction ε σ β}
    (h₁ : p → Ends returns raises m₁) (h₂ : ¬p → Ends returns raises m₂) :
    Ends returns raises (if p then m₁ else m₂) := by
  by_cases h : p
  · simpa [h] using h₁ h
  · simpa [h] using h₂ h

protected theorem require {p : Prop} [Decidable p] {e : ε} (h : raises e) :
    Ends (fun _ => True) raises (require p e : Transaction ε σ Unit) :=
  .ite (fun _ => .pure trivial) fun _ => .throw h

protected theorem unknown : Ends (fun _ => True) (fun _ => True) m :=
  ⟨fun _ _ _ _ => trivial, fun _ _ _ => trivial⟩

protected theorem onField {ε' : Type} {raises' : ε' → Prop} {view : τ → σ} {update : τ → σ → τ}
    {error : ε → ε'} (hm : Ends between raises m) (h : ∀ e, raises e → raises' (error e)) :
    Ends between raises' (onField view update error m) where
  commits s a s' hc := by
    obtain ⟨t, hc, _⟩ := commits_onField.mp hc
    exact hm.commits hc
  aborts s e he := by
    obtain ⟨e', ha, rfl⟩ := aborts_onField.mp he
    exact h e' (hm.aborts ha)

end Ends

-- What one step preserves, a run preserves.
theorem preserved_of_run {step : σ → σ → Prop} (P : σ → Prop)
    (hstep : ∀ ⦃s s'⦄, P s → step s s' → P s') {s s' : σ} (h : ReflTransGen step s s') (hs : P s) :
    P s' := by
  induction h with
  | refl => exact hs
  | tail _ h ih => exact hstep ih h

end Transaction

-- Transactions one after another: an error ends the sequence, and what was committed stays.
abbrev Transactions (ε σ α : Type) := σ → Except ε α × σ

namespace Transactions

variable {ε σ α β : Type}

def done (a : α) : Transactions ε σ α :=
  fun s => (.ok a, s)

def fail (e : ε) : Transactions ε σ α :=
  fun s => (.error e, s)

def andThen (m : Transactions ε σ α) (f : α → Transactions ε σ β) : Transactions ε σ β := fun s =>
  match m s with
  | (.ok a, s')    => f a s'
  | (.error e, s') => (.error e, s')

theorem done_eq_ok {a a' : α} {s s' : σ} :
    (done a : Transactions ε σ α) s = (.ok a', s') ↔ a' = a ∧ s' = s := by
  simp [done, eq_comm]

theorem andThen_eq_ok {m : Transactions ε σ α} {f : α → Transactions ε σ β} {s s'' : σ} {b : β} :
    m.andThen f s = (.ok b, s'') ↔ ∃ a s', m s = (.ok a, s') ∧ f a s' = (.ok b, s'') := by
  unfold andThen
  cases hm : m s with
  | mk r s₁ =>
    cases r with
    | ok a    => simp [and_assoc]
    | error e => simp

end Transactions
