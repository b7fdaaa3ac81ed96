import Mathlib.Data.String.Basic
import Mathlib.Algebra.Order.Ring.Int
import Mathlib.Tactic.Linarith
import RefundDesk.Library.CellRate
import RefundDesk.Library.Table
import RefundDesk.Platform.EdgeSource

namespace RefundDesk

inductive EdgeAdmissionDeniedReason
  | clockUnavailable
  | concurrencyLimited
  | edgeNotTrusted
  | globalRateLimited
  | originTokenForwarded
  | sourceCapacityExceeded
  | sourceInvalid
  | sourceRateLimited
  | webhookSourceForbidden
  deriving DecidableEq, Repr

-- `lease` is the index among those that the gate has given out for the class.
inductive EdgeAdmissionDecision
  | allowed (lease : Nat)
  | denied (reason : EdgeAdmissionDeniedReason) (status : Nat) (retryAfterSeconds : Option Int)
  deriving DecidableEq, Repr

namespace EdgeAdmission

def sourceIdleMs : Timestamp := 5 * 60 * 1000
def sweepIntervalMs : Timestamp := 60 * 1000

-- `EDGE_SOURCE_SCOPE_CAPACITIES`
def sourceScopeCapacity : EdgeAdmissionClass → Nat
  | .accountWebhook => 64
  | .auditDownload  => 64
  | .signedApi      => 1920

def stripeWebhookIpv4Allowlist : List String := [
  "3.18.12.63",
  "3.130.192.231",
  "13.235.14.237",
  "13.235.122.149",
  "18.211.135.69",
  "35.154.171.200",
  "52.15.183.38",
  "54.88.130.119",
  "54.88.130.237",
  "54.187.174.169",
  "54.187.205.235",
  "54.187.216.72",
  "35.157.207.129",
  "3.69.109.8",
  "3.120.168.93"
]

structure ClassPolicy where
  concurrency : Nat
  global      : CellRate Timestamp
  source      : CellRate Timestamp

structure RatePolicyOverride where
  burst      : Option Int
  intervalMs : Option Int

structure ClassPolicyOverride where
  concurrency : Option Int
  global      : RatePolicyOverride
  source      : RatePolicyOverride

-- The defaults, as concurrency, burst and interval
def defaultPolicy : EdgeAdmissionClass → Int × (Int × Int) × (Int × Int)
  | .accountWebhook => (8, (80, 200), (40, 500))
  | .auditDownload  => (2, (20, 2000), (5, 10000))
  | .signedApi      => (16, (200, 100), (100, 250))

def assertPositiveInteger (value : Int) (label : String) (maximum : Int) :
    Except String { value : Int // 0 < value } :=
  if h : 0 < value ∧ value ≤ maximum then .ok ⟨value, h.1⟩
  else .error (label ++ " must be a bounded positive integer")

def ratePolicy (burst intervalMs : { value : Int // 0 < value }) : CellRate Timestamp where
  burst        := burst.val.toNat
  interval     := intervalMs.val
  burst_pos    := by have := burst.property; omega
  interval_pos := intervalMs.property

def mergePolicy (requestClass : EdgeAdmissionClass) (override : ClassPolicyOverride) :
    Except String ClassPolicy := do
  let base := defaultPolicy requestClass
  let label := requestClass.text
  let concurrency ← assertPositiveInteger (override.concurrency.getD base.1)
    (label ++ ".concurrency") 100000
  let globalBurst ← assertPositiveInteger (override.global.burst.getD base.2.1.1)
    (label ++ ".global.burst") 1000000
  let globalInterval ← assertPositiveInteger (override.global.intervalMs.getD base.2.1.2)
    (label ++ ".global.intervalMs") 3600000
  let sourceBurst ← assertPositiveInteger (override.source.burst.getD base.2.2.1)
    (label ++ ".source.burst") 1000000
  let sourceInterval ← assertPositiveInteger (override.source.intervalMs.getD base.2.2.2)
    (label ++ ".source.intervalMs") 3600000
  pure {
    concurrency := concurrency.val.toNat
    global      := ratePolicy globalBurst globalInterval
    source      := ratePolicy sourceBurst sourceInterval
  }

-- `id` tells the objects apart that are made for one key one after the other.
structure SourceState where
  id           : Nat
  activeLeases : Nat
  tatMs        : Timestamp
  lastSeenMs   : Timestamp
  deriving DecidableEq, Repr

-- A lease holds the object of its source. Its key and the time of its admission are recorded to
-- state what the gate does.
structure Lease where
  source     : Nat
  released   : Bool
  sourceKey  : String
  admittedAt : Timestamp
  deriving DecidableEq, Repr

-- What the gate keeps for a class, with the leases that it has given out
structure ClassGate where
  concurrency   : Nat
  globalTatMs   : Timestamp
  overflowTatMs : Timestamp
  sources       : Table String SourceState
  lastSweepMs   : Option Timestamp
  leases        : List Lease
  created       : Nat

structure Gate where
  lastClockMs : Timestamp
  classes     : EdgeAdmissionClass → ClassGate

def Gate.initial : Gate where
  lastClockMs := 0
  classes     := fun _ => {
    concurrency   := 0
    globalTatMs   := 0
    overflowTatMs := 0
    sources       := .empty
    lastSweepMs   := none
    leases        := []
    created       := 0
  }

-- `Math.max(1, Math.ceil(waitMs / 1_000))`
def retrySeconds (waitMs : Timestamp) : Int :=
  max 1 (-(-waitMs / 1000))

-- The arrival time after the cell, or the seconds to wait
def previewGcra (tatMs : Timestamp) (policy : CellRate Timestamp) (nowMs : Timestamp) :
    Except Int Timestamp :=
  let toleranceMs := (policy.burst - 1) * policy.interval
  let earliestAllowedMs := tatMs - toleranceMs
  if nowMs < earliestAllowedMs then .error (retrySeconds (earliestAllowedMs - nowMs))
  else .ok (max tatMs nowMs + policy.interval)

-- A reading of the clock is none when it is not finite.
def Gate.now (gate : Gate) (observed : Option Rat) : Option Timestamp :=
  match observed with
  | none          => none
  | some observed => if observed < 0 then none else some (max gate.lastClockMs observed.floor)

namespace ClassGate

variable (gate : ClassGate)

def capacityRetryAfterSeconds (nowMs : Timestamp) : Int :=
  match gate.lastSweepMs with
  | none             => 1
  | some lastSweepMs => retrySeconds (lastSweepMs + sweepIntervalMs - nowMs)

def idle (nowMs : Timestamp) (source : SourceState) : Bool :=
  source.activeLeases = 0 && sourceIdleMs ≤ nowMs - source.lastSeenMs && source.tatMs ≤ nowMs

def sweep (nowMs : Timestamp) : ClassGate :=
  if gate.lastSweepMs.any fun lastSweepMs => nowMs - lastSweepMs < sweepIntervalMs then
    gate
  else
    { gate with
      sources     := gate.sources.filter fun _ source => !idle nowMs source
      lastSweepMs := some nowMs }

-- The admission of a source, whose bucket has been charged
def admitted (sourceKey : String) (nowMs : Timestamp) (source : SourceState)
    (globalTatMs : Timestamp) : ClassGate :=
  let lease := { source := source.id, released := false, sourceKey, admittedAt := nowMs }
  { gate with
    concurrency := gate.concurrency + 1
    globalTatMs
    sources     := gate.sources.insert sourceKey
      { source with lastSeenMs := nowMs, activeLeases := source.activeLeases + 1 }
    leases      := gate.leases ++ [lease]
    created     := gate.created + if gate.sources.find? sourceKey = none then 1 else 0 }

-- What `acquire` does after the sweep
def acquireSwept (policy : ClassPolicy) (capacity : Nat) (sourceKey : String) (nowMs : Timestamp) :
    EdgeAdmissionDecision × ClassGate :=
  let known := gate.sources.find? sourceKey
  if known = none ∧ capacity ≤ gate.sources.entries.length then
    let retryAfterSeconds := gate.capacityRetryAfterSeconds nowMs
    match previewGcra gate.overflowTatMs policy.global nowMs with
    | .ok nextTatMs =>
      (.denied .sourceCapacityExceeded 429 (some (max retryAfterSeconds 1)),
        { gate with overflowTatMs := nextTatMs })
    | .error overflowRetry =>
      (.denied .sourceCapacityExceeded 429 (some (max retryAfterSeconds overflowRetry)), gate)
  else
    let source := known.getD
      { id := gate.created, activeLeases := 0, tatMs := 0, lastSeenMs := nowMs }
    match previewGcra source.tatMs policy.source nowMs with
    | .error retry         => (.denied .sourceRateLimited 429 (some retry), gate)
    | .ok sourceNextTatMs  =>
      let source := { source with tatMs := sourceNextTatMs }
      -- A source that is tracked is charged even if the request is rejected afterwards.
      let charged :=
        if known = none then gate
        else { gate with sources := gate.sources.insert sourceKey source }
      match previewGcra gate.globalTatMs policy.global nowMs with
      | .error retry         => (.denied .globalRateLimited 429 (some retry), charged)
      | .ok globalNextTatMs  =>
        if policy.concurrency ≤ gate.concurrency then
          (.denied .concurrencyLimited 429 (some 1), charged)
        else
          (.allowed gate.leases.length, charged.admitted sourceKey nowMs source globalNextTatMs)

-- The release of a lease counts once.
def release (index : Nat) : ClassGate :=
  match gate.leases[index]? with
  | none       => gate
  | some lease =>
    if lease.released then
      gate
    else
      { gate with
        concurrency := gate.concurrency - 1
        sources     := gate.sources.map fun source =>
          if source.id = lease.source then
            { source with activeLeases := source.activeLeases - 1 }
          else
            source
        leases      := gate.leases.set index { lease with released := true } }

end ClassGate

structure GateConfig where
  isIP               : String → Nat
  hmac               : List Nat → String
  requireTrustedEdge : Bool
  policies           : EdgeAdmissionClass → ClassPolicy

def Gate.update (gate : Gate) (nowMs : Timestamp) (requestClass : EdgeAdmissionClass)
    (classGate : ClassGate) : Gate where
  lastClockMs := nowMs
  classes     := fun requestClass' =>
    if requestClass' = requestClass then classGate else gate.classes requestClass'

-- The source of a request that may go on to the limits of its class
def checkedSource (config : GateConfig) (headers : Headers) (requestClass : EdgeAdmissionClass) :
    Except (EdgeAdmissionDeniedReason × Nat) ParsedSource :=
  if config.requireTrustedEdge ∧ (headers originTokenHeader).isSome then
    .error (.originTokenForwarded, 503)
  else if config.requireTrustedEdge ∧ headers edgeMarkerHeader ≠ some trustedEdgeMarker then
    .error (.edgeNotTrusted, 503)
  else
    match parseSource config.isIP config.requireTrustedEdge headers with
    | none        => .error (.sourceInvalid, 503)
    | some source =>
      if requestClass = .accountWebhook ∧ config.requireTrustedEdge ∧
          source.allowlistAddress.all fun address => address ∉ stripeWebhookIpv4Allowlist then
        .error (.webhookSourceForbidden, 403)
      else
        .ok source

def acquire (config : GateConfig) (gate : Gate) (headers : Headers)
    (requestClass : EdgeAdmissionClass) (observed : Option Rat) : EdgeAdmissionDecision × Gate :=
  match checkedSource config headers requestClass with
  | .error (reason, status) => (.denied reason status none, gate)
  | .ok source              =>
    match gate.now observed with
    | none       => (.denied .clockUnavailable 503 none, gate)
    | some nowMs =>
      let swept := (gate.classes requestClass).sweep nowMs
      let result := swept.acquireSwept (config.policies requestClass) (sourceScopeCapacity requestClass)
        (sourceKey config.hmac requestClass source.scopeBytes) nowMs
      (result.1, gate.update nowMs requestClass result.2)

def release (gate : Gate) (requestClass : EdgeAdmissionClass) (index : Nat) : Gate :=
  gate.update gate.lastClockMs requestClass ((gate.classes requestClass).release index)

def sweep (gate : Gate) (requestClass : EdgeAdmissionClass) (observed : Option Rat) : Gate :=
  match gate.now observed with
  | none       => gate
  | some nowMs => gate.update nowMs requestClass ((gate.classes requestClass).sweep nowMs)

-- The states of a gate over its calls. A lease may be released again.
inductive Reachable (config : GateConfig) : Gate → Prop
  | initial : Reachable config .initial
  | acquired {gate : Gate} (headers : Headers) (requestClass : EdgeAdmissionClass)
    (observed : Option Rat) :
    Reachable config gate → Reachable config (acquire config gate headers requestClass observed).2
  | released {gate : Gate} (requestClass : EdgeAdmissionClass) (index : Nat) :
    Reachable config gate → Reachable config (release gate requestClass index)
  | swept {gate : Gate} (requestClass : EdgeAdmissionClass) (observed : Option Rat) :
    Reachable config gate → Reachable config (sweep gate requestClass observed)

section Preview

variable {policy : CellRate Timestamp} {tatMs nowMs nextTatMs : Timestamp}

theorem previewGcra_eq_ok :
    previewGcra tatMs policy nowMs = .ok nextTatMs ↔
      tatMs - (policy.burst - 1) • policy.interval ≤ nowMs ∧
        nextTatMs = max tatMs nowMs + policy.interval := by
  have hburst := policy.burst_pos
  have htolerance : (policy.burst - 1) • policy.interval =
      ((policy.burst : Int) - 1) * policy.interval := by
    rw [nsmul_eq_mul, Nat.cast_sub hburst, Nat.cast_one]
  unfold previewGcra
  simp only [htolerance]
  split_ifs with hearly
  · exact iff_of_false (by simp) fun h => absurd h.1 (not_le.mpr hearly)
  · rw [Except.ok.injEq, eq_comm]
    exact (and_iff_right (not_lt.mp hearly)).symm

end Preview

namespace ClassGate

section Definitions

variable (gate : ClassGate) (key : String)

-- The leases that were given out and not released
def live : Nat :=
  gate.leases.countP fun lease => !lease.released

def liveOf : Nat :=
  gate.leases.countP fun lease => !lease.released && lease.sourceKey = key

def liveAt (id : Nat) : Nat :=
  gate.leases.countP fun lease => !lease.released && lease.source = id

-- The admissions so far, with the keys of their sources
def history : List (String × Timestamp) :=
  gate.leases.map fun lease => (lease.sourceKey, lease.admittedAt)

def admissions : List Timestamp :=
  gate.history.map (·.2)

def admissionsOf : List Timestamp :=
  (gate.history.filter fun admission => admission.1 = key).map (·.2)

-- The arrival time of a source, which is that of a new bucket when the source is not tracked
def tatOf : Timestamp :=
  ((gate.sources.find? key).map (·.tatMs)).getD 0

end Definitions

-- What holds of a class at any time of the clock
structure Sound (policy : ClassPolicy) (capacity : Nat) (clock : Timestamp) (gate : ClassGate) :
    Prop where
  counted  : gate.concurrency = gate.live
  bounded  : gate.concurrency ≤ policy.concurrency
  fits     : gate.sources.entries.length ≤ capacity
  created  : ∀ key source, gate.sources.find? key = some source → source.id < gate.created
  distinct : ∀ key key' source source', gate.sources.find? key = some source →
    gate.sources.find? key' = some source' → source.id = source'.id → key = key'
  held     : ∀ lease ∈ gate.leases, lease.released = false →
    ∃ source, gate.sources.find? lease.sourceKey = some source ∧ source.id = lease.source
  active   : ∀ key source, gate.sources.find? key = some source →
    source.activeLeases = gate.liveAt source.id
  global   : policy.global.Tracks clock gate.globalTatMs gate.admissions
  source   : ∀ key, policy.source.Tracks clock (gate.tatOf key) (gate.admissionsOf key)

variable {policy : ClassPolicy} {capacity : Nat} {clock nowMs : Timestamp} {gate : ClassGate}
  {key : String} {source : SourceState}

theorem Sound.later (h : Sound policy capacity clock gate) (hle : clock ≤ nowMs) :
    Sound policy capacity nowMs gate :=
  { h with
    global := h.global.later hle
    source := fun key => (h.source key).later hle }

-- An object has a live lease only as the source of its key.
theorem Sound.liveAt_eq (h : Sound policy capacity clock gate)
    (hfind : gate.sources.find? key = some source) : gate.liveAt source.id = gate.liveOf key := by
  refine List.countP_congr fun lease hlease => ?_
  simp only [Bool.and_eq_true, Bool.not_eq_true', decide_eq_true_eq, and_congr_right_iff]
  intro hreleased
  obtain ⟨source', hfind', hid⟩ := h.held lease hlease hreleased
  constructor
  · intro hsource
    exact h.distinct _ _ _ _ hfind' hfind (hid.trans hsource)
  · rintro rfl
    rw [hfind] at hfind'
    rw [Option.some.inj hfind', hid]

theorem Sound.liveOf_of_none (h : Sound policy capacity clock gate)
    (hfind : gate.sources.find? key = none) : gate.liveOf key = 0 := by
  refine List.countP_eq_zero.mpr fun lease hlease => ?_
  simp only [Bool.and_eq_true, Bool.not_eq_true', decide_eq_true_eq, not_and]
  rintro hreleased rfl
  obtain ⟨source', hfind', -⟩ := h.held lease hlease hreleased
  rw [hfind] at hfind'
  cases hfind'

theorem liveOf_le_live : gate.liveOf key ≤ gate.live := by
  refine List.countP_mono_left fun lease _ h => ?_
  rw [Bool.and_eq_true] at h
  exact h.1

section Sweep

theorem find?_sweep (hfind : (gate.sweep nowMs).sources.find? key = some source) :
    gate.sources.find? key = some source := by
  unfold sweep at hfind
  split_ifs at hfind
  · exact hfind
  · rw [Table.find?_filter] at hfind
    exact (Option.filter_eq_some_iff.mp hfind).1

-- A sweep removes idle sources only.
theorem idle_of_sweep (hfind : gate.sources.find? key = some source)
    (hnone : (gate.sweep nowMs).sources.find? key = none) : idle nowMs source = true := by
  unfold sweep at hnone
  split_ifs at hnone
  · rw [hfind] at hnone
    cases hnone
  · rw [Table.find?_filter, hfind] at hnone
    simpa [Option.filter] using hnone

theorem sweep_eq (gate : ClassGate) (nowMs : Timestamp) : ∃ sources lastSweepMs, gate.sweep nowMs =
    { gate with sources, lastSweepMs } ∧ sources.entries.length ≤ gate.sources.entries.length := by
  unfold sweep
  split_ifs
  · exact ⟨_, _, rfl, le_rfl⟩
  · exact ⟨_, _, rfl, List.length_filter_le _ _⟩

theorem Sound.sweep (h : Sound policy capacity clock gate) (hle : clock ≤ nowMs)
    (hpos : 0 ≤ nowMs) : Sound policy capacity nowMs (gate.sweep nowMs) := by
  have hkept (lease : Lease) (hlease : lease ∈ gate.leases) (hreleased : lease.released = false)
      {source : SourceState} (hfind : gate.sources.find? lease.sourceKey = some source)
      (hid : source.id = lease.source) :
      (gate.sweep nowMs).sources.find? lease.sourceKey = some source := by
    cases hswept : (gate.sweep nowMs).sources.find? lease.sourceKey with
    | some source' => rw [← find?_sweep hswept, hfind]
    | none         =>
      have hidle := idle_of_sweep hfind hswept
      have hlive : 0 < gate.liveAt source.id :=
        List.countP_pos_iff.mpr ⟨lease, hlease, by simp [hreleased, hid]⟩
      simp only [idle, Bool.and_eq_true, decide_eq_true_eq] at hidle
      have hactive := h.active _ _ hfind
      omega
  have htat (key : String) : policy.source.Tracks nowMs ((gate.sweep nowMs).tatOf key)
      (gate.admissionsOf key) := by
    have htracks := (h.source key).later hle
    unfold tatOf at htracks ⊢
    cases hfind : gate.sources.find? key with
    | none        =>
      have hswept : (gate.sweep nowMs).sources.find? key = none := by
        cases hswept : (gate.sweep nowMs).sources.find? key with
        | none        => rfl
        | some source => rw [find?_sweep hswept] at hfind; cases hfind
      rw [hfind] at htracks
      rwa [hswept]
    | some source =>
      rw [hfind] at htracks
      cases hswept : (gate.sweep nowMs).sources.find? key with
      | some source' =>
        rw [find?_sweep hswept] at hfind
        rwa [Option.some.inj hfind]
      | none         =>
        have hidle := idle_of_sweep hfind hswept
        simp only [idle, Bool.and_eq_true, decide_eq_true_eq] at hidle
        exact htracks.forget hidle.2 hpos
  obtain ⟨sources, lastSweepMs, heq, hlength⟩ := sweep_eq gate nowMs
  have hfind {key : String} {source : SourceState} (hfind : sources.find? key = some source) :
      gate.sources.find? key = some source := by
    have hswept : (gate.sweep nowMs).sources.find? key = some source := by
      rw [heq]
      exact hfind
    exact find?_sweep hswept
  rw [heq] at hkept htat ⊢
  exact {
    counted  := h.counted
    bounded  := h.bounded
    fits     := hlength.trans h.fits
    created  := fun key source hswept => h.created key source (hfind hswept)
    distinct := fun key key' source source' hswept hswept' =>
      h.distinct key key' source source' (hfind hswept) (hfind hswept')
    held     := by
      intro lease hlease hreleased
      obtain ⟨source, hsource, hid⟩ := h.held lease hlease hreleased
      exact ⟨source, hkept lease hlease hreleased hsource hid, hid⟩
    active   := fun key source hswept => h.active key source (hfind hswept)
    global   := h.global.later hle
    source   := htat
  }

end Sweep

section Admit

variable {nextTatMs globalTatMs : Timestamp}

-- The object that a request of a source is judged by
def base (gate : ClassGate) (key : String) (nowMs : Timestamp) : SourceState :=
  (gate.sources.find? key).getD
    { id := gate.created, activeLeases := 0, tatMs := 0, lastSeenMs := nowMs }

theorem base_of_find? (hfind : gate.sources.find? key = some source) :
    gate.base key nowMs = source := by
  rw [base, hfind, Option.getD_some]

theorem base_tatMs : (gate.base key nowMs).tatMs = gate.tatOf key := by
  unfold base tatOf
  cases gate.sources.find? key <;> rfl

theorem Sound.source_lt_created (h : Sound policy capacity clock gate) {lease : Lease}
    (hlease : lease ∈ gate.leases) (hreleased : lease.released = false) :
    lease.source < gate.created := by
  obtain ⟨source, hfind, hid⟩ := h.held lease hlease hreleased
  exact hid ▸ h.created _ _ hfind

theorem Sound.base_active (h : Sound policy capacity clock gate) (key : String) (nowMs : Timestamp) :
    (gate.base key nowMs).activeLeases = gate.liveAt (gate.base key nowMs).id := by
  cases hfind : gate.sources.find? key with
  | some source => rw [base_of_find? hfind, h.active key source hfind]
  | none        =>
    rw [base, hfind, Option.getD_none]
    refine (List.countP_eq_zero.mpr fun lease hlease => ?_).symm
    simp only [Bool.and_eq_true, Bool.not_eq_true', decide_eq_true_eq, not_and]
    intro hreleased
    exact (h.source_lt_created hlease hreleased).ne

theorem Sound.base_distinct (h : Sound policy capacity clock gate) {key' : String}
    (hfind : gate.sources.find? key' = some source)
    (hid : source.id = (gate.base key nowMs).id) : key' = key := by
  cases hfind' : gate.sources.find? key with
  | some source' =>
    rw [base_of_find? hfind'] at hid
    exact h.distinct _ _ _ _ hfind hfind' hid
  | none         =>
    rw [base, hfind', Option.getD_none] at hid
    exact absurd hid (h.created _ _ hfind).ne

theorem Sound.base_lt (h : Sound policy capacity clock gate) (key : String) (nowMs : Timestamp) :
    (gate.base key nowMs).id <
      gate.created + if gate.sources.find? key = none then 1 else 0 := by
  cases hfind : gate.sources.find? key with
  | some source =>
    rw [base_of_find? hfind]
    simpa using h.created key source hfind
  | none        =>
    rw [base, hfind, Option.getD_none]
    simp

-- A tracked source is charged.
theorem Sound.charge (h : Sound policy capacity clock gate) (hle : clock ≤ nowMs)
    (hfind : gate.sources.find? key = some source)
    (hpreview : previewGcra source.tatMs policy.source nowMs = .ok nextTatMs) :
    Sound policy capacity nowMs
      { gate with sources := gate.sources.insert key { source with tatMs := nextTatMs } } := by
  obtain ⟨hconforms, rfl⟩ := previewGcra_eq_ok.mp hpreview
  have hinserted {key' : String} {source' : SourceState}
      (hfind' : (gate.sources.insert key
        { source with tatMs := max source.tatMs nowMs + policy.source.interval }).find? key' =
          some source') :
      ∃ source'', gate.sources.find? key' = some source'' ∧ source''.id = source'.id ∧
        source''.activeLeases = source'.activeLeases := by
    rw [Table.find?_insert] at hfind'
    split_ifs at hfind' with hkey
    · obtain rfl := Option.some.inj hfind'
      exact ⟨source, hkey ▸ hfind, rfl, rfl⟩
    · exact ⟨source', hfind', rfl, rfl⟩
  exact {
    counted  := h.counted
    bounded  := h.bounded
    fits     := by
      simp only [Table.length_insert_of_find? _ hfind]
      exact h.fits
    created  := by
      intro key' source' hfind'
      obtain ⟨source'', hfind'', hid, -⟩ := hinserted hfind'
      exact hid ▸ h.created _ _ hfind''
    distinct := by
      intro key₁ key₂ source₁ source₂ hfind₁ hfind₂ hid
      obtain ⟨source₁', hfind₁', hid₁, -⟩ := hinserted hfind₁
      obtain ⟨source₂', hfind₂', hid₂, -⟩ := hinserted hfind₂
      exact h.distinct _ _ _ _ hfind₁' hfind₂' (hid₁.trans (hid.trans hid₂.symm))
    held     := by
      intro lease hlease hreleased
      obtain ⟨source', hfind', hid⟩ := h.held lease hlease hreleased
      simp only [Table.find?_insert]
      split_ifs with hkey
      · rw [hkey, hfind] at hfind'
        exact ⟨_, rfl, by rw [← hid, Option.some.inj hfind']⟩
      · exact ⟨source', hfind', hid⟩
    active   := by
      intro key' source' hfind'
      obtain ⟨source'', hfind'', hid, hactive⟩ := hinserted hfind'
      rw [← hactive, ← hid]
      exact h.active _ _ hfind''
    global   := h.global.later hle
    source   := by
      intro key'
      have htracks := h.source key'
      unfold tatOf at htracks ⊢
      simp only [Table.find?_insert]
      split_ifs with hkey
      · rw [hkey, hfind] at htracks
        rw [hkey]
        exact (htracks.charge hle hconforms).waste
      · exact htracks.later hle
  }

-- The state after an admission
def afterAdmission (gate : ClassGate) (key : String) (nowMs nextTatMs globalTatMs : Timestamp) :
    ClassGate :=
  { gate with
    concurrency := gate.concurrency + 1
    globalTatMs
    sources     := gate.sources.insert key {
      id           := (gate.base key nowMs).id
      activeLeases := (gate.base key nowMs).activeLeases + 1
      tatMs        := nextTatMs
      lastSeenMs   := nowMs
    }
    leases      := gate.leases ++ [{
      source     := (gate.base key nowMs).id
      released   := false
      sourceKey  := key
      admittedAt := nowMs
    }]
    created     := gate.created + if gate.sources.find? key = none then 1 else 0 }

theorem Sound.afterAdmission (h : Sound policy capacity clock gate) (hle : clock ≤ nowMs)
    (hroom : gate.sources.find? key = none → gate.sources.entries.length < capacity)
    (hsource : previewGcra (gate.base key nowMs).tatMs policy.source nowMs = .ok nextTatMs)
    (hglobal : previewGcra gate.globalTatMs policy.global nowMs = .ok globalTatMs)
    (hfree : gate.concurrency < policy.concurrency) :
    Sound policy capacity nowMs (gate.afterAdmission key nowMs nextTatMs globalTatMs) := by
  obtain ⟨hconforms, rfl⟩ := previewGcra_eq_ok.mp hsource
  obtain ⟨hconforms', rfl⟩ := previewGcra_eq_ok.mp hglobal
  rw [base_tatMs] at hconforms
  have hlt := h.base_lt key nowMs
  constructor
  case counted =>
    simp only [ClassGate.afterAdmission, live, List.countP_append, h.counted]
    simp
  case bounded => exact hfree
  case fits =>
    simp only [ClassGate.afterAdmission]
    cases hfind : gate.sources.find? key with
    | none        => rw [Table.length_insert _ hfind]; exact hroom hfind
    | some source => rw [Table.length_insert_of_find? _ hfind]; exact h.fits
  case created =>
    intro key' source' hfind'
    simp only [ClassGate.afterAdmission, Table.find?_insert] at hfind' ⊢
    split_ifs at hfind' with hkey
    · obtain rfl := Option.some.inj hfind'
      exact hlt
    · exact (h.created _ _ hfind').trans_le (Nat.le_add_right _ _)
  case distinct =>
    intro key₁ key₂ source₁ source₂ hfind₁ hfind₂ hid
    simp only [ClassGate.afterAdmission, Table.find?_insert] at hfind₁ hfind₂
    split_ifs at hfind₁ hfind₂ with hkey₁ hkey₂ hkey₂
    · exact hkey₁.trans hkey₂.symm
    · obtain rfl := Option.some.inj hfind₁
      exact absurd (h.base_distinct hfind₂ hid.symm) hkey₂
    · obtain rfl := Option.some.inj hfind₂
      exact absurd (h.base_distinct hfind₁ hid) hkey₁
    · exact h.distinct _ _ _ _ hfind₁ hfind₂ hid
  case held =>
    intro lease hlease hreleased
    simp only [ClassGate.afterAdmission, List.mem_append, List.mem_singleton] at hlease
    simp only [ClassGate.afterAdmission, Table.find?_insert]
    rcases hlease with hlease | rfl
    · obtain ⟨source', hfind', hid⟩ := h.held lease hlease hreleased
      split_ifs with hkey
      · rw [hkey] at hfind'
        exact ⟨_, rfl, by rw [← hid, base_of_find? hfind']⟩
      · exact ⟨source', hfind', hid⟩
    · exact ⟨_, if_pos rfl, rfl⟩
  case active =>
    intro key' source' hfind'
    simp only [ClassGate.afterAdmission, Table.find?_insert] at hfind'
    simp only [ClassGate.afterAdmission, liveAt, List.countP_append]
    split_ifs at hfind' with hkey
    · obtain rfl := Option.some.inj hfind'
      have hactive := h.base_active key nowMs
      simp only [hactive, liveAt]
      simp
    · have hne : (gate.base key nowMs).id ≠ source'.id :=
        fun hid => hkey (h.base_distinct hfind' hid.symm)
      have hactive := h.active _ _ hfind'
      simp only [hactive, liveAt]
      simp [hne]
  case global =>
    have htracks := h.global.charge hle hconforms'
    simpa [ClassGate.afterAdmission, admissions, history] using htracks
  case source =>
    intro key'
    have htracks := h.source key'
    by_cases hkey : key' = key
    · subst hkey
      have hcharged := htracks.charge hle hconforms
      simpa [ClassGate.afterAdmission, admissionsOf, history, tatOf, List.filter_append, base_tatMs]
        using hcharged
    · have hlater := htracks.later hle
      simpa [ClassGate.afterAdmission, admissionsOf, history, tatOf, List.filter_append,
        Table.find?_insert, hkey, Ne.symm hkey] using hlater

-- What a request does to the class: nothing to the sources if it is refused, except to charge a
-- tracked one.
theorem acquireSwept_cases (policy : ClassPolicy) (capacity : Nat) (gate : ClassGate) (key : String)
    (nowMs : Timestamp) :
    (∃ reason retry overflowTatMs, gate.acquireSwept policy capacity key nowMs =
        (.denied reason 429 retry, { gate with overflowTatMs })) ∨
    (∃ reason retry source nextTatMs, gate.sources.find? key = some source ∧
      previewGcra source.tatMs policy.source nowMs = .ok nextTatMs ∧
      gate.acquireSwept policy capacity key nowMs = (.denied reason 429 retry,
        { gate with sources := gate.sources.insert key { source with tatMs := nextTatMs } })) ∨
    ∃ nextTatMs globalTatMs,
      (gate.sources.find? key = none → gate.sources.entries.length < capacity) ∧
      previewGcra (gate.base key nowMs).tatMs policy.source nowMs = .ok nextTatMs ∧
      previewGcra gate.globalTatMs policy.global nowMs = .ok globalTatMs ∧
      gate.concurrency < policy.concurrency ∧
      gate.acquireSwept policy capacity key nowMs =
        (.allowed gate.leases.length, gate.afterAdmission key nowMs nextTatMs globalTatMs) := by
  unfold acquireSwept
  by_cases hfull : gate.sources.find? key = none ∧ capacity ≤ gate.sources.entries.length
  · simp only [if_pos hfull]
    cases previewGcra gate.overflowTatMs policy.global nowMs with
    | error retry  => exact .inl ⟨_, _, _, rfl⟩
    | ok nextTatMs => exact .inl ⟨_, _, _, rfl⟩
  · have hroom : gate.sources.find? key = none → gate.sources.entries.length < capacity :=
      fun hnone => not_le.mp fun hle => hfull ⟨hnone, hle⟩
    have hbase : (gate.sources.find? key).getD
        { id := gate.created, activeLeases := 0, tatMs := 0, lastSeenMs := nowMs } =
          gate.base key nowMs := rfl
    simp only [if_neg hfull, hbase]
    cases hsource : previewGcra (gate.base key nowMs).tatMs policy.source nowMs with
    | error retry  => exact .inl ⟨_, _, gate.overflowTatMs, rfl⟩
    | ok nextTatMs =>
      cases hfind : gate.sources.find? key with
      | none        =>
        cases hglobal : previewGcra gate.globalTatMs policy.global nowMs with
        | error retry    => exact .inl ⟨_, _, gate.overflowTatMs, rfl⟩
        | ok globalTatMs =>
          by_cases hbusy : policy.concurrency ≤ gate.concurrency
          · simp only [if_pos hbusy]
            exact .inl ⟨_, _, gate.overflowTatMs, rfl⟩
          · simp only [if_neg hbusy]
            exact .inr (.inr ⟨nextTatMs, globalTatMs, fun _ => hroom hfind, rfl, rfl,
              not_le.mp hbusy, rfl⟩)
      | some source =>
        rw [base_of_find? hfind] at hsource
        rw [base_of_find? hfind]
        cases hglobal : previewGcra gate.globalTatMs policy.global nowMs with
        | error retry    => exact .inr (.inl ⟨_, _, source, nextTatMs, rfl, hsource, rfl⟩)
        | ok globalTatMs =>
          by_cases hbusy : policy.concurrency ≤ gate.concurrency
          · simp only [if_pos hbusy]
            exact .inr (.inl ⟨_, _, source, nextTatMs, rfl, hsource, rfl⟩)
          · simp only [if_neg hbusy]
            refine .inr (.inr ⟨nextTatMs, globalTatMs, nofun, rfl, rfl, not_le.mp hbusy, ?_⟩)
            simp [admitted, ClassGate.afterAdmission, base_of_find? hfind, hfind]

theorem Sound.acquireSwept (h : Sound policy capacity clock gate) (hle : clock ≤ nowMs) :
    Sound policy capacity nowMs (gate.acquireSwept policy capacity key nowMs).2 := by
  rcases acquireSwept_cases policy capacity gate key nowMs with
    ⟨reason, retry, overflowTatMs, heq⟩ | ⟨reason, retry, source, nextTatMs, hfind, hsource, heq⟩ |
      ⟨nextTatMs, globalTatMs, hroom, hsource, hglobal, hfree, heq⟩
  · rw [heq]
    have hlater := h.later hle
    exact { hlater with }
  · rw [heq]
    exact h.charge hle hfind hsource
  · rw [heq]
    exact h.afterAdmission hle hroom hsource hglobal hfree

end Admit

section Release

variable {index : Nat} {lease : Lease}

-- A release changes neither the keys and times of the leases nor the objects of the sources.
theorem history_release (gate : ClassGate) (index : Nat) :
    (gate.release index).history = gate.history := by
  unfold ClassGate.release
  split
  case h_1 => rfl
  case h_2 lease hlease =>
    split_ifs
    · rfl
    · obtain ⟨hindex, rfl⟩ := List.getElem?_eq_some_iff.mp hlease
      have hlength : index < gate.history.length := by simpa [history] using hindex
      have hself : gate.history.set index gate.history[index] = gate.history :=
        List.set_getElem_self hlength
      simpa [history] using hself

theorem countP_release (hlease : gate.leases[index]? = some lease) (hreleased : lease.released = false)
    (p : Lease → Bool) :
    (gate.leases.set index { lease with released := true }).countP (fun l => !l.released && p l) =
      gate.leases.countP (fun l => !l.released && p l) - if p lease then 1 else 0 := by
  obtain ⟨hindex, rfl⟩ := List.getElem?_eq_some_iff.mp hlease
  rw [List.countP_set hindex]
  simp [hreleased]

theorem Sound.release (h : Sound policy capacity clock gate) :
    Sound policy capacity clock (gate.release index) := by
  have hhistory := history_release gate index
  unfold ClassGate.release at hhistory ⊢
  cases hlease : gate.leases[index]? with
  | none       => exact h
  | some lease =>
    simp only [hlease] at hhistory ⊢
    cases hreleased : lease.released with
    | true  => simpa [hreleased] using h
    | false =>
      simp only [hreleased, Bool.false_eq_true, if_false] at hhistory ⊢
      have hmem : lease ∈ gate.leases := List.mem_of_getElem? hlease
      have hcount := countP_release hlease hreleased
      -- The objects keep their identities.
      have hmapped {key : String} {source : SourceState}
          (hfind : (gate.sources.map fun source => if source.id = lease.source then
            { source with activeLeases := source.activeLeases - 1 } else source).find? key =
              some source) :
          ∃ source', gate.sources.find? key = some source' ∧ source'.id = source.id ∧
            source.activeLeases = source'.activeLeases -
              if lease.source = source'.id then 1 else 0 := by
        rw [Table.find?_map] at hfind
        obtain ⟨source', hfind', rfl⟩ := Option.map_eq_some_iff.mp hfind
        refine ⟨source', hfind', ?_, ?_⟩
        · split_ifs <;> rfl
        · by_cases hid : source'.id = lease.source
          · simp [hid]
          · simp [hid, Ne.symm hid]
      constructor
      case counted =>
        have hlive := hcount fun _ => true
        simp only [Bool.and_true, if_true] at hlive
        simp only [live, hlive, h.counted]
      case bounded => exact (Nat.sub_le _ _).trans h.bounded
      case fits =>
        simp only [Table.map, List.length_map]
        exact h.fits
      case created =>
        intro key source hfind
        obtain ⟨source', hfind', hid, -⟩ := hmapped hfind
        exact hid ▸ h.created _ _ hfind'
      case distinct =>
        intro key key' source source' hfind hfind' hid
        obtain ⟨before, hbefore, hid₁, -⟩ := hmapped hfind
        obtain ⟨before', hbefore', hid₂, -⟩ := hmapped hfind'
        exact h.distinct _ _ _ _ hbefore hbefore' (hid₁.trans (hid.trans hid₂.symm))
      case held =>
        intro lease' hlease' hreleased'
        rcases List.mem_or_eq_of_mem_set hlease' with hlease' | rfl
        · obtain ⟨source, hfind, hid⟩ := h.held lease' hlease' hreleased'
          refine ⟨_, by rw [Table.find?_map, hfind, Option.map_some], ?_⟩
          split_ifs <;> exact hid
        · cases hreleased'
      case active =>
        intro key source hfind
        obtain ⟨source', hfind', hid, hactive⟩ := hmapped hfind
        have hlive := hcount fun lease => lease.source = source'.id
        simp only [decide_eq_true_eq] at hlive
        rw [hactive, ← hid, h.active _ _ hfind', liveAt, liveAt, hlive]
      case global =>
        unfold admissions
        rw [hhistory]
        exact h.global
      case source =>
        intro key
        have htat : (((gate.sources.map fun source => if source.id = lease.source then
            { source with activeLeases := source.activeLeases - 1 } else source).find? key).map
              (·.tatMs)).getD 0 = gate.tatOf key := by
          rw [Table.find?_map, Option.map_map]
          unfold tatOf
          congr 2
          funext source
          simp only [Function.comp_apply]
          split_ifs <;> rfl
        unfold admissionsOf tatOf
        rw [hhistory, htat]
        exact h.source key

end Release

theorem sound_initial (policy : ClassPolicy) (capacity : Nat)
    (requestClass : EdgeAdmissionClass) :
    Sound policy capacity 0 (Gate.initial.classes requestClass) where
  counted  := rfl
  bounded  := Nat.zero_le _
  fits     := Nat.zero_le _
  created  := nofun
  distinct := nofun
  held     := nofun
  active   := nofun
  global   := .initial le_rfl
  source   := fun _ => .initial le_rfl

end ClassGate

section Runs

variable {config : GateConfig} {gate : Gate}

theorem now_ge {observed : Option Rat} {nowMs : Timestamp} (h : gate.now observed = some nowMs) :
    gate.lastClockMs ≤ nowMs := by
  cases observed with
  | none          => cases h
  | some observed =>
    simp only [Gate.now] at h
    split_ifs at h
    obtain rfl := Option.some.inj h
    exact le_max_left _ _

-- The classes of a gate at any time
structure Sound (config : GateConfig) (gate : Gate) : Prop where
  clock   : 0 ≤ gate.lastClockMs
  classes : ∀ requestClass, (gate.classes requestClass).Sound (config.policies requestClass)
    (sourceScopeCapacity requestClass) gate.lastClockMs

theorem Sound.update (h : Sound config gate) {nowMs : Timestamp} {requestClass : EdgeAdmissionClass}
    {classGate : ClassGate} (hle : gate.lastClockMs ≤ nowMs)
    (hclass : classGate.Sound (config.policies requestClass) (sourceScopeCapacity requestClass)
      nowMs) :
    Sound config (gate.update nowMs requestClass classGate) where
  clock   := h.clock.trans hle
  classes := by
    intro requestClass'
    simp only [Gate.update]
    split_ifs with heq
    · exact heq ▸ hclass
    · exact (h.classes requestClass').later hle

theorem sound_of_reachable (h : Reachable config gate) : Sound config gate := by
  induction h with
  | initial =>
    exact ⟨le_rfl, fun requestClass => ClassGate.sound_initial _ _ requestClass⟩
  | acquired headers requestClass observed _ ih =>
    unfold acquire
    split
    case h_1 => exact ih
    case h_2 source hsource =>
      split
      case h_1 => exact ih
      case h_2 nowMs hnow =>
        have hle := now_ge hnow
        have hswept := (ih.classes requestClass).sweep hle (ih.clock.trans hle)
        exact ih.update hle (hswept.acquireSwept le_rfl)
  | released requestClass index _ ih =>
    exact ih.update le_rfl (ih.classes requestClass).release
  | swept requestClass observed _ ih =>
    unfold sweep
    split
    case h_1 => exact ih
    case h_2 nowMs hnow =>
      have hle := now_ge hnow
      exact ih.update hle ((ih.classes requestClass).sweep hle (ih.clock.trans hle))

-- A refused request of a source that is not tracked leaves the sources as the sweep left them.
theorem sources_of_denied {policy : ClassPolicy} {capacity : Nat} {classGate : ClassGate}
    {key : String} {nowMs : Timestamp} (hnew : classGate.sources.find? key = none)
    (hdenied : ∀ lease, (classGate.acquireSwept policy capacity key nowMs).1 ≠ .allowed lease) :
    (classGate.acquireSwept policy capacity key nowMs).2.sources = classGate.sources := by
  rcases ClassGate.acquireSwept_cases policy capacity classGate key nowMs with
    ⟨_, _, _, heq⟩ | ⟨_, _, source, _, hfind, _, _⟩ | ⟨_, _, _, _, _, _, heq⟩
  · rw [heq]
  · rw [hnew] at hfind
    cases hfind
  · rw [heq] at hdenied
    exact absurd rfl (hdenied _)

theorem within_le {policy : CellRate Timestamp} {clock arrival start length : Timestamp}
    {times : List Timestamp} (h : policy.Tracks clock arrival times) (hlength : 0 ≤ length) :
    (CellRate.timesWithin start (start + length) times : Int) ≤
      policy.burst + length / policy.interval := by
  have hstop : start ≤ start + length := le_add_of_nonneg_right hlength
  have hbound := h.admissions_le hstop
  have hinterval : (0 : Int) < policy.interval := policy.interval_pos
  rw [← sub_le_iff_le_add', Int.le_ediv_iff_mul_le hinterval]
  simp only [nsmul_eq_mul] at hbound
  linarith

end Runs

-- The counters, the sources and the admissions of a class after any calls. A request sweeps before
-- it is judged, and the sources that it finds are those that the sweep leaves.
theorem edge_gate_invariants {config : GateConfig} {gate : Gate} (h : Reachable config gate)
    (requestClass : EdgeAdmissionClass) :
    ((gate.classes requestClass).concurrency = (gate.classes requestClass).live ∧
      (gate.classes requestClass).live ≤ (config.policies requestClass).concurrency) ∧
    (∀ key,
      (((gate.classes requestClass).sources.find? key).map (·.activeLeases)).getD 0 =
        (gate.classes requestClass).liveOf key ∧
      (gate.classes requestClass).liveOf key ≤ (config.policies requestClass).concurrency) ∧
    (gate.classes requestClass).sources.entries.length ≤ sourceScopeCapacity requestClass ∧
    (∀ headers observed,
      (∀ lease, (acquire config gate headers requestClass observed).1 ≠ .allowed lease) →
      (acquire config gate headers requestClass observed).2 = gate ∨
      ∃ source nowMs, checkedSource config headers requestClass = .ok source ∧
        gate.now observed = some nowMs ∧
        (((gate.classes requestClass).sweep nowMs).sources.find?
            (sourceKey config.hmac requestClass source.scopeBytes) = none →
          ((acquire config gate headers requestClass observed).2.classes requestClass).sources =
            ((gate.classes requestClass).sweep nowMs).sources)) ∧
    (∀ nowMs key source, (gate.classes requestClass).sources.find? key = some source →
      ((gate.classes requestClass).sweep nowMs).sources.find? key = none →
        (gate.classes requestClass).liveOf key = 0 ∧ source.tatMs ≤ nowMs) ∧
    ∀ start length : Timestamp, 0 ≤ length →
      (CellRate.timesWithin start (start + length) (gate.classes requestClass).admissions : Int) ≤
        (config.policies requestClass).global.burst +
          length / (config.policies requestClass).global.interval ∧
      ∀ key, (CellRate.timesWithin start (start + length)
          ((gate.classes requestClass).admissionsOf key) : Int) ≤
        (config.policies requestClass).source.burst +
          length / (config.policies requestClass).source.interval := by
  have hsound := (sound_of_reachable h).classes requestClass
  have hlive : (gate.classes requestClass).live ≤ (config.policies requestClass).concurrency :=
    hsound.counted ▸ hsound.bounded
  refine ⟨⟨hsound.counted, hlive⟩, ?_, hsound.fits, ?_, ?_, ?_⟩
  · intro key
    refine ⟨?_, ClassGate.liveOf_le_live.trans hlive⟩
    cases hfind : (gate.classes requestClass).sources.find? key with
    | none        => exact (hsound.liveOf_of_none hfind).symm
    | some source => exact (hsound.active key source hfind).trans (hsound.liveAt_eq hfind)
  · intro headers observed hdenied
    unfold acquire at hdenied ⊢
    cases hsource : checkedSource config headers requestClass with
    | error reason => exact .inl rfl
    | ok source    =>
      cases hnow : gate.now observed with
      | none       => exact .inl rfl
      | some nowMs =>
        simp only [hsource, hnow] at hdenied ⊢
        refine .inr ⟨source, nowMs, rfl, rfl, fun hnew => ?_⟩
        simp only [Gate.update, if_true]
        exact sources_of_denied hnew hdenied
  · intro nowMs key source hfind hswept
    have hidle := ClassGate.idle_of_sweep hfind hswept
    simp only [ClassGate.idle, Bool.and_eq_true, decide_eq_true_eq] at hidle
    exact ⟨((hsound.active key source hfind).trans (hsound.liveAt_eq hfind)).symm.trans hidle.1.1,
      hidle.2⟩
  · intro start length hlength
    exact ⟨within_le hsound.global hlength, fun key => within_le (hsound.source key) hlength⟩

end EdgeAdmission

namespace Pilot

open EdgeAdmission

-- A gate that admits two requests at once, one a second
def localConfig : GateConfig where
  isIP               := fun _ => 0
  hmac               := latin1
  requireTrustedEdge := false
  policies           := fun _ => {
    concurrency := 2
    global      := ⟨2, 1000, by decide, by decide⟩
    source      := ⟨2, 1000, by decide, by decide⟩
  }

def localRequest (gate : Gate) (observed : Rat) : Gate :=
  (acquire localConfig gate (fun _ => none) .signedApi (some observed)).2

-- Two requests, of which the first is released twice before the third
def servedGate : Gate :=
  localRequest
    (release (release (localRequest (localRequest .initial 1000) 1500) .signedApi 0) .signedApi 0)
    2000

theorem servedGate_reachable : Reachable localConfig servedGate :=
  .acquired _ .signedApi _ (.released .signedApi 0 (.released .signedApi 0
    (.acquired _ .signedApi _ (.acquired _ .signedApi _ .initial))))

theorem edge_gate_invariants_served :
    (servedGate.classes .signedApi).admissions = [1000, 1500, 2000] ∧
    (servedGate.classes .signedApi).concurrency = 2 ∧
    (CellRate.timesWithin 1000 (1000 + 1000) (servedGate.classes .signedApi).admissions : Int) ≤
      2 + 1000 / 1000 := by
  refine ⟨by decide +kernel, by decide +kernel, ?_⟩
  exact ((edge_gate_invariants servedGate_reachable .signedApi).2.2.2.2.2 1000 1000 (by decide)).1

end Pilot
end RefundDesk
