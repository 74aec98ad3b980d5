import TargetHealth.Monitor.Roster
import TargetHealth.Text.Quoted

namespace TargetHealth

structure DrainReport where
  /-- Probes in flight when the stop request came. -/
  inFlight : Nat
  cancelled : Nat := 0
  /-- Probes that reported another outcome during the drain. -/
  completed : Nat := 0
  /-- Probes still in flight when the drain deadline came. -/
  abandoned : Nat := 0
deriving DecidableEq, Repr, Inhabited

def DrainReport.count (d : DrainReport) (outcome : Outcome) : DrainReport :=
  if outcome = .cancelled then { d with cancelled := d.cancelled + 1 } else { d with completed := d.completed + 1 }

inductive MonitorPhase where
  | starting
  /-- Waits for something to happen, until the next due time at the latest. -/
  | running (wakeup : Instant)
  | draining (deadline : Instant) (report : DrainReport)
  | stopped (report : DrainReport)
  | failed (fault : Fault)
deriving DecidableEq, Repr

/-- A task that met a computation without an answer. Tasks are known by their numbers. -/
structure TaskFailure where
  task : Nat
  fault : Fault
deriving DecidableEq, Repr

def TaskFailure.message (f : TaskFailure) : String :=
  "task " ++ toString f.task ++ " panicked with message " ++ Text.quote f.fault.message

inductive MonitorError where
  | noRuntime
  | resourceExhausted (error : ExecutorError)
  | invalidSettings (error : ConfigError)
  | duplicateTarget (id : TargetId)
  | engineFailed (failure : TaskFailure)
deriving DecidableEq, Repr

def MonitorError.message : MonitorError → String
  | .noRuntime => "no tokio runtime is running"
  | .resourceExhausted e => "cannot allocate probe workers: " ++ e.message
  | .invalidSettings e => e.message
  | .duplicateTarget id => duplicateTargetMessage id
  | .engineFailed f => "monitor loop failed: " ++ f.message

/-- A monitor at work. It dispatches the targets that are due and then waits for one of four things, in this order: a request
to stop, a completion, a change of the schedule, and the next due time. After each of the last three it dispatches again.
Asked to stop, it cancels all probes and waits for them to report until its drain deadline. -/
structure Monitor where
  roster : Roster
  executor : Executor
  jitter : Duration
  drainTimeout : Duration
  phase : MonitorPhase
  stopRequested : Bool
  /-- Whether the schedule was changed from outside since the loop last looked. -/
  scheduleChanged : Bool

namespace Monitor

def checkTargets : List Target → Except ConfigError Unit
  | [] => .ok ()
  | t :: rest =>
    if t.interval.isZero then .error (.invalidTarget t.id "interval must be positive")
    else if t.timeout.isZero then .error (.invalidTarget t.id "timeout must be positive")
    else checkTargets rest

/-- Due times from `now` on, moved by a jitter that `pick` chooses for each target. -/
def firstDue (now : Instant) (spread : Duration) (pick : TargetId → Nat) (id : TargetId) : Instant :=
  now.after (TargetHealth.jitter spread (pick id))

def refuse {α ε : Type} (e : ε) : Except Fault (Except ε α) := .ok (.error e)

/-- Start to monitor. `clock` is the present instant; there is none outside a runtime. -/
def start (clock : Option Instant) (prober : Prober) (settings : Settings) (targets : List Target)
    (pick : TargetId → Nat) : Except Fault (Except MonitorError Monitor) :=
  match clock with
  | none => refuse .noRuntime
  | some now =>
    match settings.validate with
    | .error e => refuse (.invalidSettings e)
    | .ok () =>
      match checkTargets targets with
      | .error e => refuse (.invalidSettings e)
      | .ok () =>
        match Executor.new prober settings.executorConfig with
        | .error e => refuse (.resourceExhausted e)
        | .ok executor =>
          match Registry.new targets with
          | .error id => refuse (.duplicateTarget id)
          | .ok registry => do
            let policy := ⟨settings.failureThreshold, settings.latencyWindow, settings.backoff⟩
            let roster ← Roster.start registry policy (firstDue now settings.jitter pick)
            let executor := { executor with agenda := executor.agenda.wake .reader }
            .ok (.ok ⟨roster, executor, settings.jitter, settings.drainTimeout, .starting, false, false⟩)

def isRunning (m : Monitor) : Bool :=
  match m.phase with
  | .stopped _ | .failed _ => false
  | _ => true

def reload (m : Monitor) (targets : List Target) (now : Instant) (pick : TargetId → Nat) :
    Except Fault (Except MonitorError (RegistryDiff × Monitor)) :=
  match checkTargets targets with
  | .error e => refuse (.invalidSettings e)
  | .ok () => do
    match ← m.roster.reload targets (firstDue now m.jitter pick) with
    | .error id => refuse (.duplicateTarget id)
    | .ok (diff, roster) =>
      if diff.isEmpty then .ok (.ok (diff, { m with roster := roster }))
      else
        .ok (.ok (diff, { m with
          roster := roster
          scheduleChanged := true
          executor := { m.executor with agenda := m.executor.agenda.wake .reader } }))

/-- What a reload leaves that meets a fault. The loop does not hear of it. -/
def interruptReload (m : Monitor) (targets : List Target) (now : Instant) (pick : TargetId → Nat) : Monitor :=
  { m with roster := m.roster.interruptReload targets (firstDue now m.jitter pick) }

def requestStop (m : Monitor) : Monitor :=
  { m with stopRequested := true, executor := { m.executor with agenda := m.executor.agenda.wake .reader } }

def halt (m : Monitor) (phase : MonitorPhase) : Monitor :=
  { m with phase := phase, executor := m.executor.abortAll }

def complete (m : Monitor) (c : Completion) (unread : List Completion) (now : Instant) : Monitor :=
  let m := { m with executor := { m.executor with completions := unread } }
  match m.roster.complete c now with
  | (none, roster) => { m with roster := roster }
  | (some fault, roster) => { m with roster := roster }.halt (.failed fault)

def setAlarm (m : Monitor) (t : Instant) : Monitor :=
  { m with executor := { m.executor with agenda := m.executor.agenda.setAlarm .reader t } }

def idlePoll : Duration := .ofSeconds 1

def wakeup (m : Monitor) (now : Instant) : Instant := (m.roster.scheduler.nextWakeup).getD (now.after idlePoll)

def dispatchDue (m : Monitor) (now : Instant) : Monitor :=
  let (batch, roster) := m.roster.dispatchDue now
  { m with
    roster := roster
    executor := batch.foldl (fun x b => x.dispatch b.1 b.2 now) m.executor }

def goOn (m : Monitor) (now : Instant) : Monitor :=
  let m := m.dispatchDue now
  { m with phase := .running (m.wakeup now) }

def beginDrain (m : Monitor) (now : Instant) : Monitor :=
  { m with
    executor := m.executor.cancel
    phase := .draining (now.after m.drainTimeout) ⟨m.roster.scheduler.inFlightCount, 0, 0, 0⟩ }

/-- React to the first thing that has happened. The answer is whether there was one, and another may follow. -/
def round (m : Monitor) (wakeup now : Instant) : Bool × Monitor :=
  if m.stopRequested then (true, m.beginDrain now)
  else
    match m.executor.completions with
    | c :: unread =>
      let m := m.complete c unread now
      if m.isRunning then (true, m.goOn now) else (false, m)
    | [] =>
      if m.scheduleChanged then (true, { m with scheduleChanged := false }.goOn now)
      else if wakeup ≤ now then (true, m.goOn now)
      else (false, m.setAlarm wakeup)

def drainOne (m : Monitor) (deadline : Instant) (report : DrainReport) (c : Completion) (unread : List Completion)
    (now : Instant) : Monitor :=
  { m with phase := .draining deadline (report.count c.result.outcome) }.complete c unread now

/-- Process the completions that are left when the drain deadline has come, and end the loop. What is in flight still is
abandoned. -/
def flush (deadline now : Instant) : List Completion → DrainReport → Monitor → Monitor
  | [], report, m => m.halt (.stopped { report with abandoned := m.roster.scheduler.inFlightCount })
  | c :: unread, report, m =>
    let m := m.drainOne deadline report c unread now
    if m.isRunning then flush deadline now unread (report.count c.result.outcome) m else m

/-- Stop the tasks that are left at the drain deadline. A completion may have been sent since the loop last looked. -/
def expire (m : Monitor) (deadline : Instant) (report : DrainReport) (now : Instant) : Monitor :=
  flush deadline now m.executor.completions report { m with executor := m.executor.abortAll }

def drainRound (m : Monitor) (deadline : Instant) (report : DrainReport) (now : Instant) : Bool × Monitor :=
  if m.roster.scheduler.inFlightCount = 0 then (false, m.halt (.stopped report))
  else
    match m.executor.completions with
    | c :: unread => (true, m.drainOne deadline report c unread now)
    | [] => if deadline ≤ now then (false, m.expire deadline report now) else (false, m.setAlarm deadline)

def rounds (now : Instant) : Nat → Monitor → Monitor
  | 0, m => m
  | n + 1, m =>
    let (again, m) := match m.phase with
      | .starting => (true, m.goOn now)
      | .running wakeup => m.round wakeup now
      | .draining deadline report => m.drainRound deadline report now
      | _ => (false, m)
    if again then rounds now n m else m

/-- More rounds than can follow each other at one instant: every one but the last starts the loop, begins the drain,
notices that the schedule was changed or that a target is due, or processes a completion; and every target is dispatched
at most once. -/
def roundLimit (m : Monitor) : Nat := m.executor.completions.length + m.roster.scheduler.entries.size + 5

def turn (m : Monitor) (now : Instant) : Monitor := rounds now m.roundLimit m

end Monitor

end TargetHealth
