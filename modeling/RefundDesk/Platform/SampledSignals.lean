import Mathlib.Algebra.Order.Floor.Ring
import Mathlib.Algebra.Order.Ring.Int
import Mathlib.Data.List.Induction
import Mathlib.Data.Rat.Floor
import Mathlib.Tactic.Linarith
import RefundDesk.Domain.Types

namespace RefundDesk

structure SampledSignalObservation (Signal : Type) where
  observedCount   : Nat
  signal          : Signal
  suppressedCount : Nat
  deriving DecidableEq, Repr

structure SignalState where
  lastEmittedAtMs : Timestamp
  suppressedCount : Nat
  deriving DecidableEq, Repr

-- The options that the constructor accepts
structure SampledSignalOptions where
  maximumCount     : Nat
  windowMs         : Timestamp
  maximumCount_pos : 0 < maximumCount
  windowMs_pos     : 0 < windowMs

structure SampledSignalEmitter (Signal : Type) where
  options     : SampledSignalOptions
  states      : Signal → Option SignalState
  lastClockMs : Timestamp

namespace SampledSignalEmitter

def defaultWindowMs : Int := 60000

def maxSafeInteger : Int := 9007199254740991

-- A number is `none` when it is not finite.
def positiveSafeInteger (number : Option Rat) : Option { value : Int // 0 < value } :=
  match number with
  | some number =>
    if h : number.den = 1 ∧ number.num ≤ maxSafeInteger ∧ 0 < number.num then
      some ⟨number.num, h.2.2⟩
    else none
  | none => none

variable {Signal : Type}

def start (options : SampledSignalOptions) : SampledSignalEmitter Signal where
  options     := options
  states      := fun _ => none
  lastClockMs := 0

theorem pos_of_safeInteger (value : { value : Int // 0 < value }) : 0 < value.val :=
  value.property

def construct (windowMs maximumCount : Option (Option Rat)) :
    Except String (SampledSignalEmitter Signal) :=
  match positiveSafeInteger (windowMs.getD (some defaultWindowMs)) with
  | none          => .error "Signal sampling window must be a positive safe integer"
  | some windowMs =>
    match positiveSafeInteger (maximumCount.getD (some maxSafeInteger)) with
    | none              => .error "Signal aggregate count must be a positive safe integer"
    | some maximumCount => .ok (start {
        maximumCount     := maximumCount.val.toNat
        windowMs         := windowMs.val
        maximumCount_pos := by have := maximumCount.property; omega
        windowMs_pos     := pos_of_safeInteger windowMs
      })

def now (emitter : SampledSignalEmitter Signal) (observed : Option Rat) : Timestamp :=
  match observed with
  | some observed =>
    if 0 ≤ observed then max emitter.lastClockMs observed.floor else emitter.lastClockMs
  | none => emitter.lastClockMs

theorem construct_eq_ok {windowMs maximumCount : Option (Option Rat)}
    {emitter : SampledSignalEmitter Signal} (h : construct windowMs maximumCount = .ok emitter) :
    emitter = start emitter.options := by
  unfold construct at h
  split at h
  · cases h
  · split at h
    · cases h
    · cases h
      rfl

variable [DecidableEq Signal]

def put (emitter : SampledSignalEmitter Signal) (nowMs : Timestamp) (signal : Signal)
    (state : SignalState) : SampledSignalEmitter Signal :=
  { emitter with
    states      := Function.update emitter.states signal (some state)
    lastClockMs := nowMs }

-- The state is written before the callback runs, so that a callback that throws changes nothing.
def emit (emitter : SampledSignalEmitter Signal) (signal : Signal) (observed : Option Rat) :
    SampledSignalEmitter Signal × Option (SampledSignalObservation Signal) :=
  let nowMs := emitter.now observed
  match emitter.states signal with
  | none => (emitter.put nowMs signal ⟨nowMs, 0⟩, some ⟨1, signal, 0⟩)
  | some state =>
    if nowMs - state.lastEmittedAtMs < emitter.options.windowMs then
      let suppressedCount := min emitter.options.maximumCount (state.suppressedCount + 1)
      (emitter.put nowMs signal ⟨state.lastEmittedAtMs, suppressedCount⟩, none)
    else
      let observedCount := min emitter.options.maximumCount (state.suppressedCount + 1)
      (emitter.put nowMs signal ⟨nowMs, 0⟩,
        some ⟨observedCount, signal, state.suppressedCount⟩)

-- A call comes with what the clock shows, and an emission is a sample at a time of the emitter's
-- clock.
structure Call (Signal : Type) where
  signal   : Signal
  observed : Option Rat

structure Emission (Signal : Type) where
  atMs        : Timestamp
  observation : SampledSignalObservation Signal
  deriving DecidableEq, Repr

structure Run (Signal : Type) where
  emitter   : SampledSignalEmitter Signal
  emissions : List (Emission Signal)

def Run.call (run : Run Signal) (call : Call Signal) : Run Signal :=
  let (emitter, observation) := run.emitter.emit call.signal call.observed
  let emission := observation.map (⟨run.emitter.now call.observed, ·⟩)
  ⟨emitter, run.emissions ++ emission.toList⟩

def run (options : SampledSignalOptions) (calls : List (Call Signal)) : Run Signal :=
  calls.foldl Run.call ⟨start options, []⟩

section Counts

variable (r : Run Signal) (signal : Signal)

def Run.pending : Nat :=
  ((r.emitter.states signal).map (·.suppressedCount)).getD 0

def Run.emissionsOf : List (Emission Signal) :=
  r.emissions.filter fun emission => emission.observation.signal = signal

def Run.observed : Nat :=
  ((r.emissionsOf signal).map (·.observation.observedCount)).sum

end Counts

def callsOf (calls : List (Call Signal)) (signal : Signal) : Nat :=
  calls.countP fun call => call.signal = signal

-- No call of the signal finds its count at the maximum.
def Unsaturated (options : SampledSignalOptions) (calls : List (Call Signal)) (signal : Signal) :
    Prop :=
  ∀ before call, before ++ [call] <+: calls → call.signal = signal →
    (run options before).pending signal < options.maximumCount

variable {options : SampledSignalOptions} {r : Run Signal} {call : Call Signal}
  {calls : List (Call Signal)} {signal : Signal} {nowMs : Timestamp} {state : SignalState}
  {emission : Emission Signal}

@[simp]
theorem states_put_self (emitter : SampledSignalEmitter Signal) (nowMs : Timestamp)
    (signal : Signal) (state : SignalState) :
    (emitter.put nowMs signal state).states signal = some state := by
  simp [put]

theorem states_put_of_ne {other : Signal} (emitter : SampledSignalEmitter Signal)
    (h : other ≠ signal) : (emitter.put nowMs signal state).states other = emitter.states other := by
  simp [put, h]

@[simp]
theorem options_put (emitter : SampledSignalEmitter Signal) :
    (emitter.put nowMs signal state).options = emitter.options :=
  rfl

-- What a call does: it is counted as suppressed, or it emits what is pending and itself.
inductive Run.Steps (r : Run Signal) (call : Call Signal) : Run Signal → Prop
  | suppressed (state : SignalState) :
    r.emitter.states call.signal = some state →
    r.emitter.now call.observed < state.lastEmittedAtMs + r.emitter.options.windowMs →
    r.Steps call ⟨r.emitter.put (r.emitter.now call.observed) call.signal ⟨state.lastEmittedAtMs,
      min r.emitter.options.maximumCount (r.pending call.signal + 1)⟩, r.emissions⟩
  | emitted :
    (∀ state, r.emitter.states call.signal = some state →
      state.lastEmittedAtMs + r.emitter.options.windowMs ≤ r.emitter.now call.observed) →
    r.Steps call ⟨r.emitter.put (r.emitter.now call.observed) call.signal
      ⟨r.emitter.now call.observed, 0⟩, r.emissions ++ [⟨r.emitter.now call.observed,
      ⟨min r.emitter.options.maximumCount (r.pending call.signal + 1), call.signal,
        r.pending call.signal⟩⟩]⟩

theorem Run.steps_call (r : Run Signal) (call : Call Signal) : r.Steps call (r.call call) := by
  unfold Run.call emit
  cases hstate : r.emitter.states call.signal with
  | none =>
    have hpending : r.pending call.signal = 0 := by simp [Run.pending, hstate]
    have hmin : min r.emitter.options.maximumCount 1 = 1 :=
      Nat.min_eq_right r.emitter.options.maximumCount_pos
    have h : r.Steps call _ := .emitted (by simp [hstate])
    simpa [hpending, hmin] using h
  | some state =>
    have hpending : r.pending call.signal = state.suppressedCount := by
      simp [Run.pending, hstate]
    dsimp only
    split_ifs with hwindow
    case pos =>
      have h : r.Steps call _ := .suppressed state hstate (by linarith)
      simpa [hpending] using h
    case neg =>
      have h : r.Steps call _ := .emitted fun state' hstate' => by
        rw [hstate] at hstate'
        cases hstate'
        linarith
      simpa [hpending] using h

theorem Run.call_options (r : Run Signal) (call : Call Signal) :
    (r.call call).emitter.options = r.emitter.options := by
  have hstep := r.steps_call call
  generalize r.call call = r' at hstep ⊢
  cases hstep <;> rfl

section Counting

-- A call of the signal adds one to what was emitted and what is pending, up to the maximum.
theorem Run.call_total_self (r : Run Signal) (call : Call Signal) :
    (r.call call).observed call.signal + (r.call call).pending call.signal =
      r.observed call.signal + min r.emitter.options.maximumCount (r.pending call.signal + 1) := by
  have hstep := r.steps_call call
  generalize r.call call = r' at hstep ⊢
  cases hstep with
  | suppressed state => simp [Run.observed, Run.emissionsOf, Run.pending]
  | emitted          => simp [Run.observed, Run.emissionsOf, Run.pending]

theorem Run.call_total_of_ne (r : Run Signal) (h : call.signal ≠ signal) :
    (r.call call).observed signal + (r.call call).pending signal =
      r.observed signal + r.pending signal := by
  have hstep := r.steps_call call
  generalize r.call call = r' at hstep ⊢
  cases hstep with
  | suppressed state =>
    simp [Run.observed, Run.emissionsOf, Run.pending, states_put_of_ne, h.symm]
  | emitted =>
    simp [Run.observed, Run.emissionsOf, Run.pending, states_put_of_ne, h.symm, h]

theorem run_append (before : List (Call Signal)) (call : Call Signal) :
    run options (before ++ [call]) = (run options before).call call := by
  simp [run]

theorem callsOf_append (before : List (Call Signal)) (call : Call Signal) (signal : Signal) :
    callsOf (before ++ [call]) signal =
      callsOf before signal + if call.signal = signal then 1 else 0 := by
  simp [callsOf, List.countP_cons]

theorem run_options (calls : List (Call Signal)) :
    (run options calls).emitter.options = options := by
  induction calls using List.reverseRecOn with
  | nil => rfl
  | append_singleton before call ih => rw [run_append, Run.call_options, ih]

theorem Unsaturated.before {before : List (Call Signal)}
    (h : Unsaturated options (before ++ [call]) signal) : Unsaturated options before signal :=
  fun before' call' hinitial => h before' call' (hinitial.trans (List.prefix_append _ _))

theorem observed_add_pending (h : Unsaturated options calls signal) :
    (run options calls).observed signal + (run options calls).pending signal =
      callsOf calls signal := by
  induction calls using List.reverseRecOn with
  | nil => rfl
  | append_singleton before call ih =>
    have hbefore := ih h.before
    rw [run_append, callsOf_append]
    split_ifs with hsignal
    case pos =>
      have hpending := h before call List.prefix_rfl hsignal
      cases hsignal
      rw [Run.call_total_self, run_options, Nat.min_eq_right hpending]
      omega
    case neg =>
      rw [Run.call_total_of_ne _ hsignal, hbefore, Nat.add_zero]

theorem observed_add_pending_le (options : SampledSignalOptions) (calls : List (Call Signal))
    (signal : Signal) :
    (run options calls).observed signal + (run options calls).pending signal ≤
      callsOf calls signal := by
  induction calls using List.reverseRecOn with
  | nil => exact le_rfl
  | append_singleton before call ih =>
    rw [run_append, callsOf_append]
    split_ifs with hsignal
    case pos =>
      cases hsignal
      rw [Run.call_total_self]
      omega
    case neg => rwa [Run.call_total_of_ne _ hsignal]

theorem callsOf_lt_of_prefix {before : List (Call Signal)} (h : before ++ [call] <+: calls)
    (hsignal : call.signal = signal) : callsOf before signal < callsOf calls signal := by
  obtain ⟨after, rfl⟩ := h
  have happend := callsOf_append before call signal
  rw [if_pos hsignal] at happend
  have hle : callsOf (before ++ [call]) signal ≤ callsOf (before ++ [call] ++ after) signal :=
    (List.sublist_append_left _ _).countP_le
  omega

-- As many calls as the maximum cannot saturate the count.
theorem unsaturated_of_callsOf (h : callsOf calls signal ≤ options.maximumCount) :
    Unsaturated options calls signal := by
  intro before call hinitial hsignal
  have hcalls := callsOf_lt_of_prefix hinitial hsignal
  have htotal := observed_add_pending_le options before signal
  omega

end Counting

section Windows

-- What the emitter knows of a signal is when its last sample was emitted.
structure Run.Spaced (r : Run Signal) : Prop where
  last  : ∀ emission ∈ r.emissions, ∃ state,
    r.emitter.states emission.observation.signal = some state ∧
    emission.atMs ≤ state.lastEmittedAtMs
  apart : r.emissions.Pairwise fun emission next =>
    emission.observation.signal = next.observation.signal →
      emission.atMs + r.emitter.options.windowMs ≤ next.atMs

omit [DecidableEq Signal] in
theorem spaced_start : (⟨start options, []⟩ : Run Signal).Spaced where
  last _ h := by cases h
  apart    := List.Pairwise.nil

theorem Run.Spaced.after_call (h : r.Spaced) (call : Call Signal) : (r.call call).Spaced := by
  have hstep := r.steps_call call
  generalize r.call call = r' at hstep ⊢
  cases hstep with
  | suppressed state hstate =>
    refine ⟨fun emission hemission => ?_, h.apart⟩
    obtain ⟨state', hstate', hle⟩ := h.last emission hemission
    by_cases hsignal : emission.observation.signal = call.signal
    case pos =>
      rw [hsignal, hstate] at hstate'
      cases hstate'
      refine ⟨_, (congrArg _ hsignal).trans (states_put_self _ _ _ _), ?_⟩
      exact hle
    case neg => exact ⟨state', by rw [states_put_of_ne _ hsignal, hstate'], hle⟩
  | emitted hwindow =>
    have hearlier : ∀ emission ∈ r.emissions, emission.observation.signal = call.signal →
        emission.atMs + r.emitter.options.windowMs ≤ r.emitter.now call.observed := by
      intro emission hemission hsignal
      obtain ⟨state, hstate, hle⟩ := h.last emission hemission
      have := hwindow state (hsignal ▸ hstate)
      linarith
    refine ⟨fun emission hemission => ?last, ?apart⟩
    case last =>
      rcases List.mem_append.mp hemission with hemission | hemission
      · by_cases hsignal : emission.observation.signal = call.signal
        case pos =>
          have := hearlier emission hemission hsignal
          have := r.emitter.options.windowMs_pos
          exact ⟨_, by rw [hsignal, states_put_self], by dsimp only; linarith⟩
        case neg =>
          obtain ⟨state, hstate, hle⟩ := h.last emission hemission
          exact ⟨state, by rw [states_put_of_ne _ hsignal, hstate], hle⟩
      · rw [List.mem_singleton] at hemission
        cases hemission
        exact ⟨_, states_put_self _ _ _ _, le_rfl⟩
    case apart =>
      refine List.pairwise_append.mpr ⟨h.apart, List.pairwise_singleton _ _, ?_⟩
      intro emission hemission next hnext hsignal
      rw [List.mem_singleton] at hnext
      cases hnext
      exact hearlier emission hemission hsignal

theorem spaced_run (options : SampledSignalOptions) (calls : List (Call Signal)) :
    (run options calls).Spaced := by
  induction calls using List.reverseRecOn with
  | nil => exact spaced_start
  | append_singleton before call ih =>
    rw [run_append]
    exact ih.after_call call

end Windows

-- For each signal what was emitted and what is pending are all its calls, unless its count was
-- saturated, and of two of its samples one comes a window after the other.
theorem sampled_signals (options : SampledSignalOptions) (calls : List (Call Signal))
    (signal : Signal) :
    (Unsaturated options calls signal →
      (run options calls).observed signal + (run options calls).pending signal =
        callsOf calls signal) ∧
    ((run options calls).emissionsOf signal).Pairwise fun emission next =>
      emission.atMs + options.windowMs ≤ next.atMs := by
  refine ⟨observed_add_pending, ?_⟩
  have happart := (spaced_run options calls).apart
  rw [run_options] at happart
  have hof := happart.filter fun emission => emission.observation.signal = signal
  refine hof.imp_of_mem fun hemission hnext h => h ?_
  rw [Run.emissionsOf, List.mem_filter, decide_eq_true_eq] at hemission hnext
  exact hemission.2.trans hnext.2.symm

end SampledSignalEmitter

end RefundDesk
