import Mathlib.Data.List.Induction

namespace RefundDesk

inductive ScannerCoverageStatus
  | unchecked
  | noInstallations
  | warming
  | fresh
  | stale
  deriving DecidableEq, Repr

inductive WorkerReadinessFailureCode
  | processStopping
  | liveEnabled
  | consumerUnavailable
  | scheduleMismatch
  | scannerStale
  | dependencyUnavailable
  deriving DecidableEq, Repr

abbrev ReadyScannerStatus :=
  { scanner : ScannerCoverageStatus // scanner ≠ .unchecked ∧ scanner ≠ .stale }

inductive WorkerReadinessResult
  | ready (scanner : ReadyScannerStatus)
  | notReady (scanner : ScannerCoverageStatus) (code : WorkerReadinessFailureCode)
  deriving DecidableEq

inductive WorkerOperationalAlertSeverity
  | s0
  | s1
  deriving DecidableEq, Repr

abbrev WorkerOperationalAlertCode :=
  { code : WorkerReadinessFailureCode // code ≠ .processStopping }

structure OperationalAlert where
  code     : WorkerOperationalAlertCode
  severity : WorkerOperationalAlertSeverity
  deriving DecidableEq

inductive AlertDecision
  | clear
  | ignore
  | alert (alert : OperationalAlert)
  deriving DecidableEq

inductive OperationalAlertStatus
  | raised
  | resolved
  deriving DecidableEq, Repr

inductive LogLevel
  | info
  | warn
  | error
  deriving DecidableEq, Repr

inductive MonitorLogContext
  | operationalReadinessSample (ready : Bool) (scanner : ScannerCoverageStatus)
    (failureCode : Option WorkerReadinessFailureCode)
  | operationalAlert (status : OperationalAlertStatus) (alert : OperationalAlert) (source : String)
  deriving DecidableEq

structure LogEntry where
  level   : LogLevel
  context : MonitorLogContext
  message : String
  deriving DecidableEq

namespace OperationalMonitor

def alertSeverity : WorkerReadinessFailureCode → WorkerOperationalAlertSeverity
  | .liveEnabled => .s0
  | _            => .s1

def readinessSampleMessage : String := "Worker operational readiness sampled"
def alertRaisedMessage     : String := "Worker operational alert raised"
def alertResolvedMessage   : String := "Worker operational alert resolved"

def alertDecision : WorkerReadinessResult → AlertDecision
  | .ready _         => .clear
  | .notReady _ code =>
    if h : code = .processStopping then .ignore else .alert ⟨⟨code, h⟩, alertSeverity code⟩

def sampleContext : WorkerReadinessResult → MonitorLogContext
  | .ready scanner         => .operationalReadinessSample true scanner none
  | .notReady scanner code => .operationalReadinessSample false scanner (some code)

def alertContext (alert : OperationalAlert) (status : OperationalAlertStatus) : MonitorLogContext :=
  .operationalAlert status alert "worker_readiness"

def dependencyUnavailable : WorkerReadinessResult :=
  .notReady .unchecked .dependencyUnavailable

def sampleEntry (result : WorkerReadinessResult) : LogEntry :=
  ⟨.info, sampleContext result, readinessSampleMessage⟩

def resolvedEntry (alert : OperationalAlert) : LogEntry :=
  ⟨.info, alertContext alert .resolved, alertResolvedMessage⟩

def raisedEntry (alert : OperationalAlert) : LogEntry :=
  ⟨if alert.severity = .s0 then .error else .warn, alertContext alert .raised, alertRaisedMessage⟩

end OperationalMonitor

-- A sample waits for its check, or is done and not yet cleared.
inductive SamplePhase
  | checking
  | settled
  deriving DecidableEq, Repr

-- Every call of the logger is recorded, with whether it returned.
structure OperationalMonitor where
  activeAlert  : Option OperationalAlert
  activeSample : Option SamplePhase
  stopped      : Bool
  calls        : List (LogEntry × Bool)

namespace OperationalMonitor

def start : OperationalMonitor where
  activeAlert  := none
  activeSample := none
  stopped      := false
  calls        := []

-- A logger throws at some of the entries, and calls nothing of the monitor.
abbrev Logger := LogEntry → Bool

variable (logger : Logger) (monitor : OperationalMonitor)

def safeLog (entry : LogEntry) : OperationalMonitor × Bool :=
  ({ monitor with calls := monitor.calls ++ [(entry, logger entry)] }, logger entry)

def resolve (alert : OperationalAlert) : OperationalMonitor × Bool :=
  let (logged, resolved) := monitor.safeLog logger (resolvedEntry alert)
  (if resolved then { logged with activeAlert := none } else logged, resolved)

def raise (alert : OperationalAlert) : OperationalMonitor :=
  let (logged, raised) := monitor.safeLog logger (raisedEntry alert)
  if raised then { logged with activeAlert := some alert } else logged

-- What `performSample` does once the check has settled
def completeSample (result : WorkerReadinessResult) : OperationalMonitor :=
  if monitor.stopped then monitor
  else
    let (sampled, _) := monitor.safeLog logger (sampleEntry result)
    match alertDecision result with
    | .ignore => sampled
    | .clear  =>
      match sampled.activeAlert with
      | some active => (sampled.resolve logger active).1
      | none        => sampled
    | .alert alert =>
      match sampled.activeAlert with
      | some active =>
        if active.code = alert.code then sampled
        else
          let (settled, resolved) := sampled.resolve logger active
          if resolved then settled.raise logger alert else settled
      | none => sampled.raise logger alert

-- A check either is pending when it has been called or has thrown, and then the sample goes on.
inductive CheckCall
  | pending
  | threw (logger : Logger)

-- The timer calls `sampleNow` as well, also after `stop` where it could not be cleared. A check
-- settles with a result or is rejected.
inductive Step
  | sampleNow (check : CheckCall)
  | settle (outcome : Option WorkerReadinessResult) (logger : Logger)
  | clear
  | stop

def sampleNow : CheckCall → OperationalMonitor
  | .pending      => { monitor with activeSample := some .checking }
  | .threw logger =>
    { monitor.completeSample logger dependencyUnavailable with activeSample := some .settled }

def step : Step → OperationalMonitor
  | .sampleNow check       =>
    if monitor.stopped ∨ monitor.activeSample ≠ none then monitor else monitor.sampleNow check
  | .settle outcome logger =>
    if monitor.activeSample = some .checking then
      { monitor.completeSample logger (outcome.getD dependencyUnavailable) with
        activeSample := some .settled }
    else monitor
  | .clear                 =>
    if monitor.activeSample = some .settled then { monitor with activeSample := none } else monitor
  | .stop                  => { monitor with stopped := true }

def run (steps : List Step) : OperationalMonitor :=
  steps.foldl step start

structure AlertEvent where
  status : OperationalAlertStatus
  alert  : OperationalAlert
  deriving DecidableEq

def alertEvent (entry : LogEntry) : Option AlertEvent :=
  match entry.context with
  | .operationalAlert status alert _   => some ⟨status, alert⟩
  | .operationalReadinessSample _ _ _ => none

-- The calls of the logger for an alert, and the events that were logged
def alertCalls : List (AlertEvent × Bool) :=
  monitor.calls.filterMap fun call => (alertEvent call.1).map (·, call.2)

def alertEvents : List AlertEvent :=
  (monitor.alertCalls.filter (·.2)).map (·.1)

-- A call raises an alert when none is active and resolves the one that is, and only when it was
-- logged the active alert has changed.
inductive Alternates : List (AlertEvent × Bool) → Option OperationalAlert → Prop
  | nil : Alternates [] none
  | raise {attempts : List (AlertEvent × Bool)} (alert : OperationalAlert) (logged : Bool) :
    Alternates attempts none → alert.severity = alertSeverity alert.code →
    Alternates (attempts ++ [(⟨.raised, alert⟩, logged)]) (if logged then some alert else none)
  | resolve {attempts : List (AlertEvent × Bool)} {alert : OperationalAlert} (logged : Bool) :
    Alternates attempts (some alert) →
    Alternates (attempts ++ [(⟨.resolved, alert⟩, logged)]) (if logged then none else some alert)

variable {logger monitor} {attempts : List (AlertEvent × Bool)} {active : Option OperationalAlert}
  {alert : OperationalAlert} {result : WorkerReadinessResult}

def episode (alert : OperationalAlert) : List AlertEvent :=
  [⟨.raised, alert⟩, ⟨.resolved, alert⟩]

theorem Alternates.events (h : Alternates attempts active) :
    ∃ alerts : List OperationalAlert,
      (attempts.filter (·.2)).map (·.1) =
        alerts.flatMap episode ++ active.toList.map (⟨.raised, ·⟩) ∧
      ∀ alert ∈ alerts ++ active.toList, alert.severity = alertSeverity alert.code := by
  induction h with
  | nil => exact ⟨[], rfl, by simp⟩
  | raise alert logged h hseverity ih =>
    obtain ⟨alerts, hevents, hseverities⟩ := ih
    rw [Option.toList_none, List.map_nil, List.append_nil] at hevents
    rw [Option.toList_none, List.append_nil] at hseverities
    cases logged with
    | false => exact ⟨alerts, by simpa using hevents, by simpa using hseverities⟩
    | true  =>
      refine ⟨alerts, by simp [hevents], fun other hother => ?_⟩
      rcases List.mem_append.mp hother with hother | hother
      · exact hseverities other hother
      · rw [if_pos rfl, Option.toList_some, List.mem_singleton] at hother
        exact hother ▸ hseverity
  | @resolve attempts alert logged h ih =>
    obtain ⟨alerts, hevents, hseverities⟩ := ih
    cases logged with
    | false => exact ⟨alerts, by simpa using hevents, hseverities⟩
    | true  =>
      refine ⟨alerts ++ [alert], ?_, by simpa using hseverities⟩
      simp [hevents, episode]

theorem severity_of_alertDecision (h : alertDecision result = .alert alert) :
    alert.severity = alertSeverity alert.code := by
  cases result with
  | ready scanner         => cases h
  | notReady scanner code =>
    simp only [alertDecision] at h
    split_ifs at h
    cases h
    rfl

section Logging

theorem alertCalls_safeLog (logger : Logger) (monitor : OperationalMonitor) (entry : LogEntry) :
    (monitor.safeLog logger entry).1.alertCalls =
      monitor.alertCalls ++ ((alertEvent entry).map (·, logger entry)).toList := by
  unfold alertCalls safeLog
  cases hevent : alertEvent entry <;> simp [hevent]

theorem alertCalls_sample (logger : Logger) (monitor : OperationalMonitor)
    (result : WorkerReadinessResult) :
    (monitor.safeLog logger (sampleEntry result)).1.alertCalls = monitor.alertCalls := by
  have hevent : alertEvent (sampleEntry result) = none := by cases result <;> rfl
  rw [alertCalls_safeLog, hevent]
  simp

theorem alertCalls_resolve (logger : Logger) (monitor : OperationalMonitor)
    (alert : OperationalAlert) :
    (monitor.resolve logger alert).1.alertCalls =
      monitor.alertCalls ++ [(⟨.resolved, alert⟩, logger (resolvedEntry alert))] := by
  unfold resolve
  dsimp only
  split_ifs <;> exact alertCalls_safeLog logger monitor (resolvedEntry alert)

theorem activeAlert_resolve (h : monitor.activeAlert = some alert) :
    (monitor.resolve logger alert).1.activeAlert =
      if logger (resolvedEntry alert) then none else some alert := by
  cases hlogged : logger (resolvedEntry alert) <;> simp [resolve, safeLog, hlogged, h]

theorem alertCalls_raise (logger : Logger) (monitor : OperationalMonitor)
    (alert : OperationalAlert) :
    (monitor.raise logger alert).alertCalls =
      monitor.alertCalls ++ [(⟨.raised, alert⟩, logger (raisedEntry alert))] := by
  unfold raise
  dsimp only
  split_ifs <;> exact alertCalls_safeLog logger monitor (raisedEntry alert)

theorem activeAlert_raise (h : monitor.activeAlert = none) :
    (monitor.raise logger alert).activeAlert =
      if logger (raisedEntry alert) then some alert else none := by
  cases hlogged : logger (raisedEntry alert) <;> simp [raise, safeLog, hlogged, h]

end Logging

-- The monitor knows the alert that its calls have left active.
def Sound (monitor : OperationalMonitor) : Prop :=
  Alternates monitor.alertCalls monitor.activeAlert

namespace Sound

theorem start : OperationalMonitor.start.Sound :=
  .nil

theorem sample (h : monitor.Sound) (logger : Logger) (result : WorkerReadinessResult) :
    (monitor.safeLog logger (sampleEntry result)).1.Sound := by
  unfold Sound
  rw [alertCalls_sample]
  exact h

theorem resolve (h : monitor.Sound) (logger : Logger) (hactive : monitor.activeAlert = some alert) :
    (monitor.resolve logger alert).1.Sound := by
  unfold Sound at h ⊢
  rw [hactive] at h
  rw [alertCalls_resolve, activeAlert_resolve hactive]
  exact h.resolve _

theorem raise (h : monitor.Sound) (logger : Logger) (hactive : monitor.activeAlert = none)
    (hseverity : alert.severity = alertSeverity alert.code) :
    (monitor.raise logger alert).Sound := by
  unfold Sound at h ⊢
  rw [hactive] at h
  rw [alertCalls_raise, activeAlert_raise hactive]
  exact h.raise alert _ hseverity

theorem completeSample (h : monitor.Sound) (logger : Logger) (result : WorkerReadinessResult) :
    (monitor.completeSample logger result).Sound := by
  unfold OperationalMonitor.completeSample
  split_ifs
  case pos => exact h
  case neg =>
    have hsampled := h.sample logger result
    dsimp only
    generalize (monitor.safeLog logger (sampleEntry result)).1 = sampled at hsampled ⊢
    cases hdecision : alertDecision result with
    | ignore => exact hsampled
    | clear =>
      dsimp only
      cases hactive : sampled.activeAlert with
      | none        => exact hsampled
      | some active => exact hsampled.resolve logger hactive
    | alert alert =>
      have hseverity := severity_of_alertDecision hdecision
      dsimp only
      cases hactive : sampled.activeAlert with
      | none        => exact hsampled.raise logger hactive hseverity
      | some active =>
        have hresolved := hsampled.resolve logger hactive
        dsimp only
        split_ifs with hcode hlogged
        · exact hsampled
        · exact hresolved.raise logger ((activeAlert_resolve hactive).trans (if_pos hlogged)) hseverity
        · exact hresolved

end Sound

theorem Sound.step (h : monitor.Sound) (step : Step) : (monitor.step step).Sound := by
  cases step with
  | sampleNow check =>
    unfold OperationalMonitor.step
    dsimp only
    split_ifs
    case pos => exact h
    case neg =>
      cases check with
      | pending      => exact h
      | threw logger => exact h.completeSample logger dependencyUnavailable
  | settle outcome logger =>
    unfold OperationalMonitor.step
    dsimp only
    split_ifs
    · exact h.completeSample logger (outcome.getD dependencyUnavailable)
    · exact h
  | clear =>
    unfold OperationalMonitor.step
    dsimp only
    split_ifs <;> exact h
  | stop => exact h

theorem sound_run (steps : List Step) : (run steps).Sound := by
  induction steps using List.reverseRecOn with
  | nil => exact Sound.start
  | append_singleton steps step ih =>
    rw [run, List.foldl_append]
    exact ih.step step

section Stopped

theorem stopped_step (h : monitor.stopped = true) (step : Step) :
    (monitor.step step).stopped = true ∧ (monitor.step step).calls = monitor.calls := by
  have hcomplete : ∀ logger result, monitor.completeSample logger result = monitor := by
    intro logger result
    rw [completeSample, if_pos h]
  cases step with
  | sampleNow check       => simp [OperationalMonitor.step, h]
  | settle outcome logger =>
    unfold OperationalMonitor.step
    dsimp only
    rw [hcomplete]
    split_ifs <;> exact ⟨h, rfl⟩
  | clear                 =>
    unfold OperationalMonitor.step
    dsimp only
    split_ifs <;> exact ⟨h, rfl⟩
  | stop                  => exact ⟨rfl, rfl⟩

-- A monitor that was stopped calls the logger no more, whatever is still pending.
theorem calls_of_stopped (h : monitor.stopped = true) (steps : List Step) :
    (steps.foldl step monitor).calls = monitor.calls := by
  induction steps generalizing monitor with
  | nil => rfl
  | cons step steps ih =>
    have hstep := stopped_step h step
    rw [List.foldl_cons, ih hstep.1, hstep.2]

end Stopped

-- The steps that take a sample to its end
inductive Completes (monitor : OperationalMonitor) (logger : Logger) :
    Step → WorkerReadinessResult → Prop
  | settle (outcome : Option WorkerReadinessResult) : monitor.activeSample = some .checking →
    monitor.Completes logger (.settle outcome logger) (outcome.getD dependencyUnavailable)
  | threw : monitor.activeSample = none →
    monitor.Completes logger (.sampleNow (.threw logger)) dependencyUnavailable

theorem Completes.calls_step {step : Step} (h : monitor.Completes logger step result)
    (hrunning : monitor.stopped = false) :
    (monitor.step step).calls = (monitor.completeSample logger result).calls := by
  cases h with
  | settle outcome hsample => simp [OperationalMonitor.step, hsample]
  | threw hsample          => simp [OperationalMonitor.step, hsample, hrunning, sampleNow]

-- The sample asks for something else than the alert that is active.
def Supersedes (result : WorkerReadinessResult) (active : OperationalAlert) : Prop :=
  alertDecision result = .clear ∨
    ∃ alert, alertDecision result = .alert alert ∧ alert.code ≠ active.code

-- The active alert is resolved before anything else, and nothing is raised when that fails.
theorem alertCalls_completeSample (hrunning : monitor.stopped = false)
    (hactive : monitor.activeAlert = some alert) (hsupersedes : Supersedes result alert) :
    ∃ raised, (monitor.completeSample logger result).alertCalls =
      monitor.alertCalls ++ (⟨.resolved, alert⟩, logger (resolvedEntry alert)) :: raised ∧
      (logger (resolvedEntry alert) = false → raised = []) := by
  have hsample := alertCalls_sample logger monitor result
  have hsampled : (monitor.safeLog logger (sampleEntry result)).1.activeAlert = some alert := hactive
  unfold completeSample
  rw [hrunning, if_neg Bool.false_ne_true]
  dsimp only
  generalize (monitor.safeLog logger (sampleEntry result)).1 = sampled at hsample hsampled ⊢
  have hresolve := alertCalls_resolve logger sampled alert
  rw [hsample] at hresolve
  rcases hsupersedes with hdecision | ⟨other, hdecision, hcode⟩
  · rw [hdecision, hsampled]
    exact ⟨[], hresolve, fun _ => rfl⟩
  · rw [hdecision]
    dsimp only
    rw [hsampled]
    dsimp only
    rw [if_neg (Ne.symm hcode)]
    split_ifs with hlogged
    · refine ⟨[(⟨.raised, other⟩, logger (raisedEntry other))], ?_, fun hfailed => ?_⟩
      · rw [alertCalls_raise, hresolve, List.append_assoc]
        rfl
      · exact absurd (hfailed.symm.trans hlogged) Bool.false_ne_true
    · exact ⟨[], hresolve, fun _ => rfl⟩

-- What was logged are episodes of raising and resolving an alert, with the alert that is active
-- raised last. A sample that supersedes an active alert asks to resolve it, so that a resolve that
-- failed is retried, and the calls alternate with those that failed left in. Nothing is logged after
-- `stop`.
structure Lawful (steps : List Step) : Prop where
  alternating : ∃ alerts : List OperationalAlert,
    (run steps).alertEvents =
      alerts.flatMap episode ++ (run steps).activeAlert.toList.map (⟨.raised, ·⟩) ∧
    ∀ alert ∈ alerts ++ (run steps).activeAlert.toList, alert.severity = alertSeverity alert.code
  ordered     : Alternates (run steps).alertCalls (run steps).activeAlert
  retried     : ∀ active logger step result, (run steps).activeAlert = some active →
    (run steps).stopped = false → (run steps).Completes logger step result →
    Supersedes result active →
    ∃ raised, (run (steps ++ [step])).alertCalls = (run steps).alertCalls ++
        (⟨.resolved, active⟩, logger (resolvedEntry active)) :: raised ∧
      (logger (resolvedEntry active) = false → raised = [])
  silent      : ∀ before after, steps = before ++ .stop :: after →
    (run steps).calls = (run before).calls

theorem operational_alerts (steps : List Step) : Lawful steps where
  alternating := (sound_run steps).events
  ordered     := sound_run steps
  retried active logger step result hactive hrunning hcompletes hsupersedes := by
    have hcalls := hcompletes.calls_step hrunning
    rw [run, List.foldl_append, ← run, List.foldl_cons, List.foldl_nil, alertCalls, hcalls]
    exact alertCalls_completeSample hrunning hactive hsupersedes
  silent before after h := by
    subst h
    rw [run, List.foldl_append, List.foldl_cons]
    exact calls_of_stopped rfl after

end OperationalMonitor

end RefundDesk
