import TargetHealth.Executor.Config
import TargetHealth.Executor.Task
import TargetHealth.Metrics.Probes
import TargetHealth.Time.Agenda

namespace TargetHealth

structure Completion where
  epoch : Nat
  result : ProbeResult
  sentAt : Instant
deriving DecidableEq, Repr

/-- Whoever takes turns: the reader of the completions, and the tasks by their numbers. -/
inductive Party where
  | reader
  | task (number : Nat)
deriving DecidableEq, Repr

/-- Probes run with bounded concurrency. A dispatched probe that finds a permit begins as soon as it has its turn; otherwise
it waits, and if too many wait already it is skipped. Permits that come free go to waiting probes in the order of their
dispatch. -/
structure Executor where
  prober : Prober
  config : ExecutorConfig
  tasks : List ProbeTask
  /-- Tasks with smaller numbers were aborted. Each of them ends when it has its turn. -/
  abortedBelow : Nat
  /-- How many probes are counted as waiting for a permit. -/
  waiting : Nat
  cancelled : Bool
  completions : List Completion
  calls : Table TargetId Nat
  peak : Nat
  metrics : ProbeMetrics
  agenda : Agenda Party
  dispatched : Nat

namespace Executor

def idle (prober : Prober) (config : ExecutorConfig) : Executor where
  prober := prober
  config := config
  tasks := []
  abortedBelow := 0
  waiting := 0
  cancelled := false
  completions := []
  calls := .empty
  peak := 0
  metrics := .empty
  agenda := .empty
  dispatched := 0

def new (prober : Prober) (config : ExecutorConfig) : Except ExecutorError Executor := do
  config.check
  .ok (idle prober config)

def running (x : Executor) : Nat := x.tasks.countP (·.state.holdsPermit)

def active (x : Executor) : Nat := x.tasks.countP (·.state.isRunning)

def aborted (x : Executor) (task : ProbeTask) : Bool := task.number < x.abortedBelow

/-- Tasks that have not ended and will report. -/
def live (x : Executor) : List ProbeTask := x.tasks.filter (fun t => !x.aborted t)

def outstanding (x : Executor) : Nat := x.live.length

def task? (x : Executor) (number : Nat) : Option ProbeTask := x.tasks.find? (fun t => t.number == number)

def send (x : Executor) (epoch : Nat) (result : ProbeResult) (now : Instant) : Executor :=
  { x with
    metrics := x.metrics.record result
    completions := x.completions ++ [⟨epoch, result, now⟩]
    agenda := x.agenda.wake .reader }

def spawn (x : Executor) (target : Target) (epoch : Nat) (state : TaskState) : Executor :=
  { x with
    tasks := x.tasks ++ [⟨x.dispatched, target, epoch, state⟩]
    agenda := x.agenda.wake (.task x.dispatched)
    dispatched := x.dispatched + 1 }

def dispatch (x : Executor) (target : Target) (epoch : Nat) (now : Instant) : Executor :=
  if x.cancelled then x.send epoch (.cancelled target.id now.wallClock) now
  else if x.running < x.config.maxConcurrency then x.spawn target epoch (.admitted false)
  else if x.config.maxPending ≤ x.waiting then
    x.send epoch (.skipped target.id "probe queue full" now.wallClock) now
  else { x with waiting := x.waiting + 1 }.spawn target epoch .queued

def cancel (x : Executor) : Executor :=
  { x with cancelled := true, agenda := x.agenda.wakeAll (x.tasks.map (fun t => .task t.number)) }

def setState (x : Executor) (number : Nat) (state : TaskState) : Executor :=
  { x with tasks := x.tasks.map (fun t => if t.number = number then { t with state := state } else t) }

/-- Give a permit that came free to the first task that waits for one. -/
def handOver (x : Executor) : Executor :=
  match x.tasks.find? (fun t => t.state == .queued) with
  | some t => { x.setState t.number (.admitted true) with agenda := x.agenda.wake (.task t.number) }
  | none => x

def drop (x : Executor) (number : Nat) : Executor :=
  { x with tasks := x.tasks.filter (fun t => t.number ≠ number), agenda := x.agenda.forget (.task number) }

def release (x : Executor) (number : Nat) : Executor := (x.drop number).handOver

def proceed (x : Executor) (task : ProbeTask) (probe : RunningProbe) (now : Instant) : Executor :=
  match probe.result? x.prober x.config.grace task.target now with
  | some result => { x with metrics := x.metrics.finished }.release task.number |>.send task.epoch result now
  | none =>
    { x.setState task.number (.running probe) with
      agenda := x.agenda.setAlarm (.task task.number) (probe.endsAt x.prober x.config.grace task.target) }

/-- Begin a probe. If its deadline lies past the end of the clock, the task ends without a completion. -/
def begin (x : Executor) (task : ProbeTask) (now : Instant) : Executor :=
  match now.add? task.target.timeout with
  | .error _ => x.release task.number
  | .ok deadline =>
    match deadline.add? x.config.grace with
    | .error _ => x.release task.number
    | .ok _ =>
      let id := task.target.id
      let call := (x.calls.get? id).getD 0
      let probe : RunningProbe := ⟨call, now, deadline, if x.cancelled then some now else none⟩
      { x with
        calls := x.calls.insert id (call + 1)
        peak := max x.peak (x.active + 1)
        metrics := x.metrics.started }.proceed task probe now

def giveUp (x : Executor) (task : ProbeTask) (now : Instant) : Executor :=
  x.send task.epoch (.cancelled task.target.id now.wallClock) now

def step (x : Executor) (task : ProbeTask) (now : Instant) : Executor :=
  match task.state with
  | .queued =>
    if x.cancelled then { x with waiting := x.waiting - 1 }.drop task.number |>.giveUp task now else x
  | .admitted true =>
    if x.cancelled then { x with waiting := x.waiting - 1 }.release task.number |>.giveUp task now
    else { x with waiting := x.waiting - 1 }.begin task now
  | .admitted false => x.begin task now
  | .running probe =>
    let probe := if x.cancelled ∧ probe.cancelledAt = none then { probe with cancelledAt := some now } else probe
    x.proceed task probe now

/-- End a task that was aborted. Whatever it holds comes free, but if it waits it stays counted among those that do. -/
def discard (x : Executor) (task : ProbeTask) : Executor :=
  match task.state with
  | .queued => x.drop task.number
  | .admitted _ => x.release task.number
  | .running _ => { x with metrics := x.metrics.finished }.release task.number

def stepNumber (x : Executor) (number : Nat) (now : Instant) : Executor :=
  match x.task? number with
  | some task => if x.aborted task then x.discard task else x.step task now
  | none => x

/-- Stop every task. None of them sends a completion, and each holds what it has until its next turn. -/
def abortAll (x : Executor) : Executor :=
  { x with
    abortedBelow := x.dispatched
    agenda := x.agenda.wakeAll (x.tasks.map (fun t => .task t.number)) }

end Executor

end TargetHealth
