import Mathlib.Logic.Relation
import Mathlib.Logic.Function.Basic

-- A program that makes one call after another: it goes on with the reply to a call, and it may fail.
inductive Script (ε call : Type) (reply : call → Type) (α : Type)
  | done (a : α)
  | fail (e : ε)
  | ask (c : call) (next : reply c → Script ε call reply α)

-- A call with the reply to it.
abbrev Event {call : Type} (reply : call → Type) := Σ c, reply c

namespace Script

variable {ε call α β : Type} {reply : call → Type}

protected def bind : Script ε call reply α → (α → Script ε call reply β) → Script ε call reply β
  | done a, f     => f a
  | fail e, _     => fail e
  | ask c next, f => ask c fun r => (next r).bind f

-- Runs `handler` when the script fails.
protected def tryCatch : Script ε call reply α → (ε → Script ε call reply α) →
    Script ε call reply α
  | done a, _           => done a
  | fail e, handler     => handler e
  | ask c next, handler => ask c fun r => (next r).tryCatch handler

instance : Monad (Script ε call reply) where
  pure := done
  bind := Script.bind

instance : MonadExceptOf ε (Script ε call reply) where
  throw    := fail
  tryCatch := Script.tryCatch

def perform (c : call) : Script ε call reply (reply c) :=
  ask c done

-- A computation that can fail but makes no calls.
def fromExcept : Except ε α → Script ε call reply α
  | .ok a    => done a
  | .error e => fail e

@[simp]
theorem fromExcept_ok_bind {a : α} {f : α → Script ε call reply β} :
    fromExcept (.ok a) >>= f = f a :=
  rfl

end Script

-- What a script may expect of the reply to a call, and what it must see to before it makes one,
-- after the events so far.
structure Contract {call : Type} (reply : call → Type) where
  rely      : List (Event reply) → (c : call) → reply c → Prop
  guarantee : List (Event reply) → call → Prop

namespace Script

variable {ε call α β : Type} {reply : call → Type} {contract : Contract reply}
variable {post : List (Event reply) → Except ε α → Prop} {t : List (Event reply)}

-- The script makes the calls that the contract allows after the events `t`, and `post` holds of all
-- the events and of the result when it is over.
def Meets (contract : Contract reply) (post : List (Event reply) → Except ε α → Prop) :
    Script ε call reply α → List (Event reply) → Prop
  | done a, t     => post t (.ok a)
  | fail e, t     => post t (.error e)
  | ask c next, t => contract.guarantee t c ∧
      ∀ r, contract.rely t c r → (next r).Meets contract post (t ++ [⟨c, r⟩])

@[simp]
theorem meets_pure {a : α} :
    (pure a : Script ε call reply α).Meets contract post t ↔ post t (.ok a) :=
  .rfl

@[simp]
theorem meets_throw {e : ε} :
    (throw e : Script ε call reply α).Meets contract post t ↔ post t (.error e) :=
  .rfl

@[simp]
theorem meets_fromExcept {x : Except ε α} :
    (fromExcept x : Script ε call reply α).Meets contract post t ↔ post t x := by
  cases x <;> rfl

@[simp]
theorem meets_perform {c : call} {post : List (Event reply) → Except ε (reply c) → Prop} :
    (perform c : Script ε call reply (reply c)).Meets contract post t ↔
      contract.guarantee t c ∧ ∀ r, contract.rely t c r → post (t ++ [⟨c, r⟩]) (.ok r) :=
  .rfl

theorem meets_perform_bind {c : call} {f : reply c → Script ε call reply α} :
    (perform c >>= f).Meets contract post t ↔
      contract.guarantee t c ∧ ∀ r, contract.rely t c r → (f r).Meets contract post (t ++ [⟨c, r⟩]) :=
  .rfl

theorem meets_bind {p : Script ε call reply α} {f : α → Script ε call reply β}
    {post : List (Event reply) → Except ε β → Prop} :
    (p >>= f).Meets contract post t ↔
      p.Meets contract (fun t result =>
        match result with
        | .ok a    => (f a).Meets contract post t
        | .error e => post t (.error e)) t := by
  induction p generalizing t with
  | done a        => rfl
  | fail e        => rfl
  | ask c next ih => exact and_congr_right fun _ => forall₂_congr fun r _ => ih r

theorem meets_tryCatch {p : Script ε call reply α} {handler : ε → Script ε call reply α} :
    (tryCatch p handler).Meets contract post t ↔
      p.Meets contract (fun t result =>
        match result with
        | .ok a    => post t (.ok a)
        | .error e => (handler e).Meets contract post t) t := by
  induction p generalizing t with
  | done a        => rfl
  | fail e        => rfl
  | ask c next ih => exact and_congr_right fun _ => forall₂_congr fun r _ => ih r

theorem Meets.mono {post' : List (Event reply) → Except ε α → Prop} {p : Script ε call reply α}
    (h : p.Meets contract post t) (hpost : ∀ t result, post t result → post' t result) :
    p.Meets contract post' t := by
  induction p generalizing t with
  | done a        => exact hpost t _ h
  | fail e        => exact hpost t _ h
  | ask c next ih => exact ⟨h.1, fun r hr => ih r (h.2 r hr)⟩

end Script

-- Scripts that run at the same time on a shared state, with the events of all of them.
structure Concurrent (σ ε : Type) {call : Type} (reply : call → Type) (α : Type) where
  state   : σ
  scripts : Nat → Option (Script ε call reply α)
  events  : List (Nat × Event reply)

-- Which scripts can start, how a call is answered, and how the state changes otherwise.
structure Surroundings (σ ε : Type) {call : Type} (reply : call → Type) (α : Type) where
  starts   : Nat → Script ε call reply α → Prop
  answers  : Nat → σ → (c : call) → reply c → σ → Prop
  disturbs : σ → σ → Prop

namespace Concurrent

open Relation

variable {σ ε call α : Type} {reply : call → Type} {surroundings : Surroundings σ ε reply α}
variable {y y' : Concurrent σ ε reply α}

-- A call is answered in one step. A script that is given up takes no more steps.
inductive Step (surroundings : Surroundings σ ε reply α) :
    Concurrent σ ε reply α → Concurrent σ ε reply α → Prop
  | started {y i p} :
    y.scripts i = none → surroundings.starts i p →
    Step surroundings y { y with scripts := Function.update y.scripts i (some p) }
  | answered {y i c next r s'} :
    y.scripts i = some (.ask c next) → surroundings.answers i y.state c r s' →
    Step surroundings y {
      state   := s'
      scripts := Function.update y.scripts i (some (next r))
      events  := y.events ++ [(i, ⟨c, r⟩)]
    }
  | disturbed {y s'} :
    surroundings.disturbs y.state s' → Step surroundings y { y with state := s' }

theorem Step.start {i : Nat} {p : Script ε call reply α} (hi : y.scripts i = none)
    (hp : surroundings.starts i p) :
    ∃ y', Step surroundings y y' ∧ y'.state = y.state ∧ y'.scripts i = some p ∧
      y'.events = y.events ∧ ∀ j ≠ i, y'.scripts j = y.scripts j :=
  ⟨_, .started hi hp, rfl, by simp, rfl, fun _ hj => Function.update_of_ne hj _ _⟩

theorem Step.answer {i : Nat} {c : call} {next : reply c → Script ε call reply α} {r : reply c}
    {s s' : σ} (hs : y.state = s) (hi : y.scripts i = some (.ask c next))
    (hr : surroundings.answers i s c r s') :
    ∃ y', Step surroundings y y' ∧ y'.state = s' ∧ y'.scripts i = some (next r) ∧
      y'.events = y.events ++ [(i, ⟨c, r⟩)] ∧ ∀ j ≠ i, y'.scripts j = y.scripts j :=
  ⟨_, .answered hi (hs ▸ hr), rfl, by simp, rfl, fun _ hj => Function.update_of_ne hj _ _⟩

def eventsOf (events : List (Nat × Event reply)) (i : Nat) : List (Event reply) :=
  (events.filter (·.1 = i)).map (·.2)

theorem mem_eventsOf {events : List (Nat × Event reply)} {i : Nat} {e : Event reply} :
    e ∈ eventsOf events i ↔ (i, e) ∈ events := by
  simp [eventsOf]

@[simp]
theorem eventsOf_append_self {events : List (Nat × Event reply)} {i : Nat} {e : Event reply} :
    eventsOf (events ++ [(i, e)]) i = eventsOf events i ++ [e] := by
  simp [eventsOf]

theorem eventsOf_append_ne {events : List (Nat × Event reply)} {i j : Nat} {e : Event reply}
    (h : i ≠ j) : eventsOf (events ++ [(i, e)]) j = eventsOf events j := by
  simp [eventsOf, h]

-- Nothing has started.
def Idle (y : Concurrent σ ε reply α) : Prop :=
  (∀ i, y.scripts i = none) ∧ y.events = []

-- Every script meets its contract from here on.
def Meets (contract : Nat → Contract reply)
    (post : Nat → List (Event reply) → Except ε α → Prop) (y : Concurrent σ ε reply α) : Prop :=
  ∀ i, match y.scripts i with
    | none   => eventsOf y.events i = []
    | some p => p.Meets (contract i) (post i) (eventsOf y.events i)

section Meets

variable {contract : Nat → Contract reply} {post : Nat → List (Event reply) → Except ε α → Prop}

theorem Idle.meets (h : y.Idle) : y.Meets contract post := by
  intro i
  simp [h.1 i, h.2, eventsOf]

theorem Meets.guarantee {i : Nat} {c : call} {next : reply c → Script ε call reply α}
    (h : y.Meets contract post) (hi : y.scripts i = some (.ask c next)) :
    (contract i).guarantee (eventsOf y.events i) c := by
  have hp := h i
  rw [hi] at hp
  exact hp.1

theorem Meets.done {i : Nat} {a : α} (h : y.Meets contract post)
    (hi : y.scripts i = some (.done a)) : post i (eventsOf y.events i) (.ok a) := by
  have hp := h i
  rw [hi] at hp
  exact hp

theorem Meets.fail {i : Nat} {e : ε} (h : y.Meets contract post)
    (hi : y.scripts i = some (.fail e)) : post i (eventsOf y.events i) (.error e) := by
  have hp := h i
  rw [hi] at hp
  exact hp

theorem Meets.step
    (hstarts : ∀ i p, surroundings.starts i p → p.Meets (contract i) (post i) [])
    (hanswers : ∀ i c r s', surroundings.answers i y.state c r s' →
      (contract i).rely (eventsOf y.events i) c r)
    (h : y.Meets contract post) (hstep : Step surroundings y y') : y'.Meets contract post := by
  intro j
  cases hstep with
  | @started i p hnone hp =>
    have hj := h j
    by_cases hji : j = i
    · subst hji
      rw [hnone] at hj
      simpa [hj] using hstarts j p hp
    · simpa [Function.update_of_ne hji] using hj
  | @answered i c next r s' hi hr =>
    have hj := h j
    by_cases hji : j = i
    · subst hji
      rw [hi] at hj
      simpa using hj.2 r (hanswers j c r s' hr)
    · simpa [Function.update_of_ne hji, eventsOf_append_ne (Ne.symm hji)] using hj
  | disturbed _ => exact h j

-- Where an invariant sees to it that the answers are as the scripts rely on, all of them keep their
-- contracts. The invariant may count on the contracts.
theorem meets_of_run (invariant : Concurrent σ ε reply α → Prop)
    (hstarts : ∀ i p, surroundings.starts i p → p.Meets (contract i) (post i) [])
    (hanswers : ∀ y i c r s', invariant y → surroundings.answers i y.state c r s' →
      (contract i).rely (eventsOf y.events i) c r)
    (hstep : ∀ y y', y.Meets contract post → invariant y → Step surroundings y y' → invariant y')
    (hidle : y.Idle) (hy : invariant y) (hrun : ReflTransGen (Step surroundings) y y') :
    y'.Meets contract post ∧ invariant y' := by
  induction hrun with
  | refl          => exact ⟨hidle.meets, hy⟩
  | tail _ hs ih =>
    exact ⟨ih.1.step hstarts (fun i c r s' => hanswers _ i c r s' ih.2) hs, hstep _ _ ih.1 ih.2 hs⟩

end Meets
end Concurrent
