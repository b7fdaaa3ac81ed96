import Mathlib.Data.Finset.Card
import Mathlib.Data.List.Induction

namespace RefundDesk

inductive MutationIntentStart (ε : Type)
  | busy
  | failed (error : ε)
  | started (requestNonce : String)
  deriving DecidableEq, Repr

-- The factory is given by what its calls return one after the other, and `calls` are those so far.
structure MutationIntentRegistry (ε : Type) where
  createRequestNonce : Nat → Except ε String
  calls              : Nat
  activeKeys         : Finset String
  requestNonces      : String → Option String

namespace MutationIntentRegistry

variable {ε : Type}

def construct (createRequestNonce : Nat → Except ε String) : MutationIntentRegistry ε where
  createRequestNonce := createRequestNonce
  calls              := 0
  activeKeys         := ∅
  requestNonces      := fun _ => none

section Operations

variable (registry : MutationIntentRegistry ε) (intentKey : String)

def start (requestNonce : String) : MutationIntentStart ε × MutationIntentRegistry ε :=
  (.started requestNonce, { registry with
    requestNonces := Function.update registry.requestNonces intentKey (some requestNonce)
    activeKeys    := insert intentKey registry.activeKeys })

def begin : MutationIntentStart ε × MutationIntentRegistry ε :=
  if 0 < registry.activeKeys.card then (.busy, registry)
  else
    match registry.requestNonces intentKey with
    | some requestNonce => registry.start intentKey requestNonce
    | none =>
      let called := { registry with calls := registry.calls + 1 }
      match registry.createRequestNonce registry.calls with
      | .error error     => (.failed error, called)
      | .ok requestNonce => called.start intentKey requestNonce

def release : MutationIntentRegistry ε :=
  { registry with activeKeys := registry.activeKeys.erase intentKey }

def complete : MutationIntentRegistry ε :=
  { registry with
    activeKeys    := registry.activeKeys.erase intentKey
    requestNonces := Function.update registry.requestNonces intentKey none }

def reset : MutationIntentRegistry ε :=
  if intentKey ∈ registry.activeKeys then registry
  else { registry with
    requestNonces := Function.update registry.requestNonces intentKey none }

end Operations

inductive Operation
  | begin (intentKey : String)
  | release (intentKey : String)
  | complete (intentKey : String)
  | reset (intentKey : String)
  deriving DecidableEq, Repr

-- An intent of a key is told apart by how many intents of the key have ended before it.
structure Intent where
  key    : String
  number : Nat
  deriving DecidableEq, Repr

-- What the callers of the registry see: which keys have an active intent, how many intents of a key
-- have ended, and the nonces that intents were started with.
structure View where
  active : String → Bool
  ended  : String → Nat
  starts : List (Intent × String)

namespace View

variable (view : View) (key : String)

def initial : View where
  active := fun _ => false
  ended  := fun _ => 0
  starts := []

def intent : Intent :=
  ⟨key, view.ended key⟩

def begun : MutationIntentStart ε → View
  | .busy                 => view
  | .failed _             => view
  | .started requestNonce => { view with
      active := Function.update view.active key true
      starts := view.starts ++ [(view.intent key, requestNonce)] }

def released : View :=
  { view with active := Function.update view.active key false }

def retired : View :=
  { view with ended := Function.update view.ended key (view.ended key + 1) }

def completed : View :=
  (view.released key).retired key

def reset : View :=
  if view.active key then view else view.retired key

end View

structure Session (ε : Type) where
  registry : MutationIntentRegistry ε
  view     : View

def Session.step (session : Session ε) : Operation → Session ε
  | .begin key    =>
    let (result, registry) := session.registry.begin key
    ⟨registry, session.view.begun key result⟩
  | .release key  => ⟨session.registry.release key, session.view.released key⟩
  | .complete key => ⟨session.registry.complete key, session.view.completed key⟩
  | .reset key    => ⟨session.registry.reset key, session.view.reset key⟩

def session (createRequestNonce : Nat → Except ε String) (operations : List Operation) :
    Session ε :=
  operations.foldl Session.step ⟨construct createRequestNonce, .initial⟩

-- No two calls of the factory return the same nonce.
def Injective (createRequestNonce : Nat → Except ε String) : Prop :=
  ∀ ⦃call other requestNonce⦄, createRequestNonce call = .ok requestNonce →
    createRequestNonce other = .ok requestNonce → call = other

-- The registry knows which intents are active and what their nonces are.
structure Agrees (registry : MutationIntentRegistry ε) (view : View) : Prop where
  active  : ∀ key, key ∈ registry.activeKeys ↔ view.active key = true
  single  : registry.activeKeys.card ≤ 1
  nonce   : ∀ key requestNonce, registry.requestNonces key = some requestNonce ↔
    (view.intent key, requestNonce) ∈ view.starts
  past    : ∀ start ∈ view.starts, start.1.number ≤ view.ended start.1.key
  created : ∀ start ∈ view.starts, ∃ call < registry.calls,
    registry.createRequestNonce call = .ok start.2
  unique  : ∀ start ∈ view.starts, ∀ other ∈ view.starts, start.2 = other.2 ↔ start.1 = other.1

variable {registry : MutationIntentRegistry ε} {view : View} {key requestNonce : String}

theorem agrees_construct (createRequestNonce : Nat → Except ε String) :
    Agrees (construct createRequestNonce) .initial where
  active _  := by simp [construct, View.initial]
  single    := Nat.zero_le _
  nonce _ _ := by simp [construct, View.initial]
  past      := by simp [View.initial]
  created   := by simp [View.initial]
  unique    := by simp [View.initial]

@[simp]
theorem starts_retired : (view.retired key).starts = view.starts :=
  rfl

theorem intent_retired_of_ne {other : String} (h : other ≠ key) :
    (view.retired key).intent other = view.intent other := by
  simp [View.intent, View.retired, h]

namespace Agrees

-- An intent is started with a nonce that no other intent has, and it has no other nonce.
theorem start (h : Agrees registry view) (hidle : registry.activeKeys.card = 0)
    (hcreated : ∃ call < registry.calls, registry.createRequestNonce call = .ok requestNonce)
    (hunique : ∀ start ∈ view.starts, start.2 = requestNonce ↔ start.1 = view.intent key)
    {error : Type} :
    Agrees (registry.start key requestNonce).2
      (view.begun key (.started requestNonce : MutationIntentStart error)) where
  active other := by
    by_cases hkey : other = key
    · simp [MutationIntentRegistry.start, View.begun, hkey]
    · simp [MutationIntentRegistry.start, View.begun, hkey, h.active]
  single := by
    rw [Finset.card_eq_zero] at hidle
    simp [MutationIntentRegistry.start, hidle]
  nonce other otherNonce := by
    have hstarts : (view.intent other, otherNonce) ∈ view.starts ++ [(view.intent key, requestNonce)]
        ↔ (view.intent other, otherNonce) ∈ view.starts ∨
          view.intent other = view.intent key ∧ otherNonce = requestNonce := by
      simp
    show Function.update registry.requestNonces key (some requestNonce) other = some otherNonce ↔
      (view.intent other, otherNonce) ∈ view.starts ++ [(view.intent key, requestNonce)]
    rw [hstarts]
    by_cases hkey : other = key
    case pos =>
      subst hkey
      rw [Function.update_self, Option.some.injEq]
      constructor
      case mp => exact fun heq => .inr ⟨rfl, heq.symm⟩
      case mpr =>
        intro hmem
        cases hmem with
        | inl hmem => exact ((hunique _ hmem).mpr rfl).symm
        | inr heq  => exact heq.2.symm
    case neg =>
      have hne : view.intent other ≠ view.intent key := fun heq => hkey (congrArg Intent.key heq)
      rw [Function.update_of_ne hkey, h.nonce]
      simp [hne]
  past start hstart := by
    rcases List.mem_append.mp hstart with hstart | hstart
    · exact h.past start hstart
    · rw [List.mem_singleton] at hstart
      subst hstart
      exact le_rfl
  created start hstart := by
    rcases List.mem_append.mp hstart with hstart | hstart
    · exact h.created start hstart
    · rw [List.mem_singleton] at hstart
      subst hstart
      exact hcreated
  unique start hstart other hother := by
    rcases List.mem_append.mp hstart with hstart | hstart <;>
      rcases List.mem_append.mp hother with hother | hother
    · exact h.unique start hstart other hother
    · rw [List.mem_singleton] at hother
      subst hother
      exact hunique start hstart
    · rw [List.mem_singleton] at hstart
      subst hstart
      have := hunique other hother
      exact ⟨fun heq => (this.mp heq.symm).symm, fun heq => (this.mpr heq.symm).symm⟩
    · rw [List.mem_singleton] at hstart hother
      simp [hstart, hother]

-- A call of the factory is no use of the registry.
theorem called (h : Agrees registry view) :
    Agrees { registry with calls := registry.calls + 1 } view :=
  { h with
    created := fun start hstart => by
      obtain ⟨call, hcall, hcreated⟩ := h.created start hstart
      exact ⟨call, Nat.lt_succ_of_lt hcall, hcreated⟩ }

theorem release (h : Agrees registry view) (key : String) :
    Agrees (registry.release key) (view.released key) :=
  { h with
    active := fun other => by
      by_cases hkey : other = key
      · simp [MutationIntentRegistry.release, View.released, hkey]
      · simp [MutationIntentRegistry.release, View.released, hkey, h.active]
    single := (Finset.card_erase_le).trans h.single }

-- Without its nonce a key is at an intent that was not started yet.
theorem retire (h : Agrees registry view) (key : String) :
    Agrees { registry with requestNonces := Function.update registry.requestNonces key none }
      (view.retired key) :=
  { h with
    nonce := fun other requestNonce => by
      by_cases hkey : other = key
      case pos =>
        subst hkey
        have hfresh : ((view.retired other).intent other, requestNonce) ∉ view.starts := by
          intro hmem
          have := h.past _ hmem
          simp only [View.retired, View.intent, Function.update_self] at this
          omega
        simpa using hfresh
      case neg =>
        rw [intent_retired_of_ne hkey]
        simpa [hkey] using h.nonce other requestNonce
    past := fun start hstart => by
      have hpast := h.past start hstart
      by_cases hkey : start.1.key = key
      · rw [hkey] at hpast
        simpa [View.retired, hkey] using Nat.le_succ_of_le hpast
      · simpa [View.retired, hkey] using hpast }

theorem complete (h : Agrees registry view) (key : String) :
    Agrees (registry.complete key) (view.completed key) :=
  (h.release key).retire key

theorem reset (h : Agrees registry view) (key : String) :
    Agrees (registry.reset key) (view.reset key) := by
  unfold MutationIntentRegistry.reset View.reset
  by_cases hkey : key ∈ registry.activeKeys
  case pos =>
    rw [if_pos hkey, if_pos ((h.active key).mp hkey)]
    exact h
  case neg =>
    rw [if_neg hkey, if_neg fun hactive => hkey ((h.active key).mpr hactive)]
    exact h.retire key

theorem begin (h : Agrees registry view) (hinjective : Injective registry.createRequestNonce)
    (key : String) : Agrees (registry.begin key).2 (view.begun key (registry.begin key).1) := by
  unfold MutationIntentRegistry.begin
  by_cases hbusy : 0 < registry.activeKeys.card
  case pos =>
    rw [if_pos hbusy]
    exact h
  case neg =>
    have hidle : registry.activeKeys.card = 0 := by omega
    rw [if_neg hbusy]
    cases hnonce : registry.requestNonces key with
    | some requestNonce =>
      have hmem := (h.nonce key requestNonce).mp hnonce
      exact h.start hidle (h.created _ hmem) fun start hstart => h.unique start hstart _ hmem
    | none =>
      dsimp only
      cases hcreate : registry.createRequestNonce registry.calls with
      | error error     => exact h.called
      | ok requestNonce =>
        refine h.called.start hidle ⟨registry.calls, Nat.lt_succ_self _, hcreate⟩ ?_
        intro start hstart
        constructor
        case mp =>
          rintro rfl
          obtain ⟨call, hcall, hcreated⟩ := h.created start hstart
          exact absurd (hinjective hcreated hcreate) hcall.ne
        case mpr =>
          intro hintent
          have hmem : (view.intent key, start.2) ∈ view.starts := hintent ▸ hstart
          rw [← h.nonce, hnonce] at hmem
          cases hmem

end Agrees

theorem createRequestNonce_step (s : Session ε) (operation : Operation) :
    (s.step operation).registry.createRequestNonce = s.registry.createRequestNonce := by
  cases operation with
  | begin key =>
    show (s.registry.begin key).2.createRequestNonce = _
    unfold MutationIntentRegistry.begin
    split_ifs
    · rfl
    · split
      · rfl
      · dsimp only
        split <;> rfl
  | release key  => rfl
  | complete key => rfl
  | reset key    =>
    show (s.registry.reset key).createRequestNonce = _
    unfold MutationIntentRegistry.reset
    split_ifs <;> rfl

theorem Agrees.step {s : Session ε} (h : Agrees s.registry s.view)
    (hinjective : Injective s.registry.createRequestNonce) (operation : Operation) :
    Agrees (s.step operation).registry (s.step operation).view := by
  cases operation with
  | begin key    => exact h.begin hinjective key
  | release key  => exact h.release key
  | complete key => exact h.complete key
  | reset key    => exact h.reset key

variable {createRequestNonce : Nat → Except ε String}

theorem session_append (operations : List Operation) (operation : Operation) :
    session createRequestNonce (operations ++ [operation]) =
      (session createRequestNonce operations).step operation := by
  simp [session]

theorem createRequestNonce_session (operations : List Operation) :
    (session createRequestNonce operations).registry.createRequestNonce = createRequestNonce := by
  induction operations using List.reverseRecOn with
  | nil => rfl
  | append_singleton operations operation ih =>
    rw [session_append, createRequestNonce_step, ih]

theorem agrees_session (hinjective : Injective createRequestNonce) (operations : List Operation) :
    Agrees (session createRequestNonce operations).registry
      (session createRequestNonce operations).view := by
  induction operations using List.reverseRecOn with
  | nil => exact agrees_construct createRequestNonce
  | append_singleton operations operation ih =>
    rw [session_append]
    exact ih.step (by rwa [createRequestNonce_session]) operation

theorem begin_inert (h : ∀ requestNonce, (registry.begin key).1 ≠ .started requestNonce) :
    (registry.begin key).2.activeKeys = registry.activeKeys ∧
      (registry.begin key).2.requestNonces = registry.requestNonces := by
  unfold MutationIntentRegistry.begin at h ⊢
  split_ifs with hbusy
  case pos => exact ⟨rfl, rfl⟩
  case neg =>
    rw [if_neg hbusy] at h
    cases hnonce : registry.requestNonces key with
    | some requestNonce => exact absurd (by rw [hnonce]; rfl) (h requestNonce)
    | none =>
      rw [hnonce] at h
      dsimp only at h ⊢
      cases hcreate : registry.createRequestNonce registry.calls with
      | error error     => exact ⟨rfl, rfl⟩
      | ok requestNonce => exact absurd (by rw [hcreate]; rfl) (h requestNonce)

-- No two intents are active, starts have the same nonce when they are of the same intent and only
-- then, and a `begin` that starts nothing leaves the registry as it is.
structure Lawful (s : Session ε) : Prop where
  single : ∀ key other, s.view.active key = true → s.view.active other = true → key = other
  unique : ∀ start ∈ s.view.starts, ∀ other ∈ s.view.starts,
    start.2 = other.2 ↔ start.1 = other.1
  inert  : ∀ key, (∀ requestNonce, (s.registry.begin key).1 ≠ .started requestNonce) →
    (s.registry.begin key).2.activeKeys = s.registry.activeKeys ∧
    (s.registry.begin key).2.requestNonces = s.registry.requestNonces

theorem mutation_intents (hinjective : Injective createRequestNonce)
    (operations : List Operation) : Lawful (session createRequestNonce operations) where
  single key other hkey hother := by
    have h := agrees_session hinjective operations
    exact Finset.card_le_one.mp h.single _ ((h.active key).mpr hkey) _ ((h.active other).mpr hother)
  unique := (agrees_session hinjective operations).unique
  inert _ := begin_inert

-- A factory that throws at first
theorem mutation_intents_replicate :
    Lawful (session (fun call =>
        if call = 0 then .error () else .ok (String.ofList (List.replicate call 'n')))
      [.begin "a", .begin "a", .begin "b", .release "a", .begin "a", .complete "a", .begin "a"]) :=
  mutation_intents (fun i j requestNonce hi hj => by
    split_ifs at hi hj
    cases hi
    simpa [String.ofList_inj] using hj.symm) _

end MutationIntentRegistry

end RefundDesk
