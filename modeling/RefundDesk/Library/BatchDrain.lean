import Mathlib.Data.List.Basic

-- A worker that lists at most so many items at a time and handles them one by one. An item that it
-- handles is done or skipped. An error ends the run, and what has been done stays done.
structure BatchDrain (ε σ α : Type) where
  list   : Nat → σ → Except ε (List α) × σ
  handle : α → σ → Except ε Bool × σ

namespace BatchDrain

variable {ε σ α : Type}

-- The number of the items that are skipped.
def batch (worker : BatchDrain ε σ α) : List α → σ → Except ε Nat × σ
  | [], s            => (.ok 0, s)
  | item :: items, s =>
    match worker.handle item s with
    | (.error e, s') => (.error e, s')
    | (.ok done, s') =>
      let rest := worker.batch items s'
      (rest.1.map fun skipped => if done then skipped else skipped + 1, rest.2)

-- Batches until one of them is short or skips an item, at most so many.
def drain (worker : BatchDrain ε σ α) (limit : Nat) : Nat → σ → Except ε Bool × σ
  | 0, s           => (.ok false, s)
  | batches + 1, s =>
    match worker.list limit s with
    | (.error e, s₁)  => (.error e, s₁)
    | (.ok items, s₁) =>
      if items = [] then (.ok true, s₁)
      else
        match worker.batch items s₁ with
        | (.error e, s₂)    => (.error e, s₂)
        | (.ok skipped, s₂) =>
          if items.length < limit ∨ 0 < skipped then (.ok true, s₂)
          else worker.drain limit batches s₂

section Batches

variable {worker : BatchDrain ε σ α} {item : α} {items items' : List α} {s s' s'' : σ}
  {skipped limit n : Nat}

theorem batch_cons_eq_ok :
    worker.batch (item :: items) s = (.ok skipped, s'') ↔
      ∃ done s' rest, worker.handle item s = (.ok done, s') ∧
        worker.batch items s' = (.ok rest, s'') ∧
        skipped = if done then rest else rest + 1 := by
  rw [batch]
  cases hhandle : worker.handle item s with
  | mk r s₁ =>
    cases r with
    | error e => simp
    | ok done =>
      simp only [Prod.mk.injEq, Except.ok.injEq]
      cases hbatch : worker.batch items s₁ with
      | mk r' s₂ =>
        constructor
        · rintro ⟨hskipped, rfl⟩
          cases r' with
          | error e => cases hskipped
          | ok rest => exact ⟨done, s₁, rest, ⟨rfl, rfl⟩, hbatch, (Except.ok.inj hskipped).symm⟩
        · rintro ⟨done', t, rest, ⟨rfl, rfl⟩, h, rfl⟩
          obtain ⟨rfl, rfl⟩ := Prod.mk.inj (hbatch.symm.trans h)
          exact ⟨rfl, rfl⟩

-- A batch is its first items and then the other ones.
theorem batch_append_eq_ok :
    worker.batch (items ++ items') s = (.ok skipped, s'') ↔
      ∃ first s' rest, worker.batch items s = (.ok first, s') ∧
        worker.batch items' s' = (.ok rest, s'') ∧ skipped = first + rest := by
  induction items generalizing s skipped with
  | nil =>
    constructor
    · intro h
      exact ⟨0, s, skipped, rfl, h, (Nat.zero_add skipped).symm⟩
    · rintro ⟨first, s', rest, h, h', rfl⟩
      obtain ⟨hfirst, rfl⟩ := Prod.mk.inj h
      obtain rfl := Except.ok.inj hfirst
      rw [Nat.zero_add]
      exact h'
  | cons item items ih =>
    rw [List.cons_append, batch_cons_eq_ok]
    constructor
    · rintro ⟨done, s₁, n, hhandle, hbatch, rfl⟩
      obtain ⟨first, s₂, rest, hfirst, hrest, rfl⟩ := ih.mp hbatch
      refine ⟨_, s₂, rest, batch_cons_eq_ok.mpr ⟨done, s₁, first, hhandle, hfirst, rfl⟩, hrest, ?_⟩
      split <;> omega
    · rintro ⟨_, s₂, rest, hbatch, hrest, rfl⟩
      obtain ⟨done, s₁, first, hhandle, hfirst, rfl⟩ := batch_cons_eq_ok.mp hbatch
      refine ⟨done, s₁, first + rest, hhandle, ih.mpr ⟨first, s₂, rest, hfirst, hrest, rfl⟩, ?_⟩
      split <;> omega

-- What each item preserves, a batch does, also when it ends with an error.
theorem batch_invariant (inv : σ → Prop)
    (hhandle : ∀ item ∈ items, ∀ s, inv s → inv (worker.handle item s).2) (hs : inv s) :
    inv (worker.batch items s).2 := by
  induction items generalizing s with
  | nil            => exact hs
  | cons item items ih =>
    have hs₁ := hhandle item (List.mem_cons_self ..) s hs
    rw [batch]
    split
    case h_1 e s' heq    => rwa [heq] at hs₁
    case h_2 done s' heq =>
      rw [heq] at hs₁
      exact ih (fun item hmem => hhandle item (List.mem_cons_of_mem _ hmem)) hs₁

-- A run preserves between its batches what the batches without a skipped item preserve, and it ends
-- with what the listing and any batch lead to.
theorem drain_rule (inv post : σ → Prop) (hstop : ∀ s, inv s → post s)
    (hlist : ∀ s r s₁, inv s → worker.list limit s = (r, s₁) → post s₁)
    (hbatch : ∀ s items s₁ r s₂, inv s → worker.list limit s = (.ok items, s₁) →
      worker.batch items s₁ = (r, s₂) → post s₂ ∧ (r = .ok 0 → inv s₂))
    (hs : inv s) : post (worker.drain limit n s).2 := by
  induction n generalizing s with
  | zero      => exact hstop s hs
  | succ n ih =>
    rw [drain]
    split
    case h_1 e s₁ heq     => exact hlist s _ s₁ hs heq
    case h_2 items s₁ heq =>
      split_ifs
      case pos => exact hlist s _ s₁ hs heq
      split
      case h_1 e s₂ hitems       => exact (hbatch s items s₁ _ s₂ hs heq hitems).1
      case h_2 skipped s₂ hitems =>
        have hrest := hbatch s items s₁ _ s₂ hs heq hitems
        split_ifs with hstop
        case pos => exact hrest.1
        case neg =>
          have hnone : skipped = 0 := by omega
          exact ih (hrest.2 (by rw [hnone]))

-- A batch that is listed and handled without an error
structure Batch (worker : BatchDrain ε σ α) (limit : Nat) (s : σ) (items : List α) (skipped : Nat)
    (s' : σ) : Prop where
  handled : ∃ s₁, worker.list limit s = (.ok items, s₁) ∧ worker.batch items s₁ = (.ok skipped, s')

-- So many batches, each of them full, of which every item is done
inductive FullBatches (worker : BatchDrain ε σ α) (limit : Nat) : Nat → σ → σ → Prop
  | none (s : σ) : FullBatches worker limit 0 s s
  | more {n : Nat} {items : List α} {s₁ s₂ s₃ : σ} (hbatch : worker.Batch limit s₁ items 0 s₂)
      (hfull : limit ≤ items.length) (hrest : FullBatches worker limit n s₂ s₃) :
      FullBatches worker limit (n + 1) s₁ s₃

-- A run that drains ends with a batch that is short or skips an item.
theorem drain_eq_true (hlimit : 0 < limit) (h : worker.drain limit n s = (.ok true, s')) :
    ∃ full < n, ∃ s₁ items skipped, FullBatches worker limit full s s₁ ∧
      worker.Batch limit s₁ items skipped s' ∧ (items.length < limit ∨ 0 < skipped) := by
  induction n generalizing s with
  | zero      => cases h
  | succ n ih =>
    rw [drain] at h
    split at h
    case h_1 => cases h
    case h_2 items s₁ hlist =>
      split_ifs at h with hempty
      case pos =>
        have hbatch : worker.batch items s₁ = (.ok 0, s') := by
          rw [hempty, batch, (Prod.mk.inj h).2]
        have hshort : items.length < limit := by
          rw [hempty]
          exact hlimit
        exact ⟨0, Nat.succ_pos n, s, items, 0, .none s, ⟨s₁, hlist, hbatch⟩, .inl hshort⟩
      split at h
      case h_1 => cases h
      case h_2 skipped s₂ hbatch =>
        split_ifs at h with hstop
        case pos =>
          rw [(Prod.mk.inj h).2] at hbatch
          exact ⟨0, Nat.succ_pos n, s, items, skipped, .none s, ⟨s₁, hlist, hbatch⟩, hstop⟩
        case neg =>
          obtain ⟨full, hlt, s₃, last, skipped', hfull, hlast, hshort⟩ := ih h
          have hnone : skipped = 0 := by omega
          rw [hnone] at hbatch
          exact ⟨full + 1, Nat.succ_lt_succ hlt, s₃, last, skipped',
            .more ⟨s₁, hlist, hbatch⟩ (by omega) hfull, hlast, hshort⟩

end Batches

end BatchDrain
