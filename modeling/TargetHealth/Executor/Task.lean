import TargetHealth.Probe.Prober
import TargetHealth.Time.WallClock

namespace TargetHealth

structure RunningProbe where
  call : Nat
  start : Instant
  deadline : Instant
  cancelledAt : Option Instant
deriving DecidableEq, Repr

namespace RunningProbe

def context (p : RunningProbe) : ProbeContext := ⟨p.deadline, p.cancelledAt⟩

/-- The last instant at which the probe's own result counts. -/
def limit (p : RunningProbe) (grace : Duration) : Instant := p.deadline.after grace

def callEnd (p : RunningProbe) (prober : Prober) (target : Target) : Option (Instant × CallEnd) :=
  prober target p.call p.start p.context

/-- The result of a probe whose prober has ended. It always bears the id of the target. -/
def ownResult (id : TargetId) (now : Instant) : CallEnd → ProbeResult
  | .reported r => { r with targetId := id }
  | .panicked => .skipped id "probe panicked" now.wallClock

def overrun (id : TargetId) (now : Instant) : ProbeResult :=
  .failure id .timeout "probe overran its deadline" now.wallClock

/-- The result of a probe whose prober has not ended: past its limit it has overrun, and past the grace after a
cancellation it is given up. -/
def forcedResult? (p : RunningProbe) (grace : Duration) (id : TargetId) (now : Instant) : Option ProbeResult :=
  if p.limit grace ≤ now then some (overrun id now)
  else
    match p.cancelledAt with
    | some t => if t.after grace ≤ now then some (.cancelled id now.wallClock) else none
    | none => none

def result? (p : RunningProbe) (prober : Prober) (grace : Duration) (target : Target) (now : Instant) :
    Option ProbeResult :=
  match p.callEnd prober target with
  | some (t, ending) => if t ≤ now then some (ownResult target.id now ending) else p.forcedResult? grace target.id now
  | none => p.forcedResult? grace target.id now

def endsAt (p : RunningProbe) (prober : Prober) (grace : Duration) (target : Target) : Instant :=
  let forced := match p.cancelledAt with
    | some t => min (p.limit grace) (t.after grace)
    | none => p.limit grace
  match p.callEnd prober target with
  | some (t, _) => min t forced
  | none => forced

end RunningProbe

inductive TaskState where
  | queued
  /-- Holds a permit and has yet to begin. -/
  | admitted (waited : Bool)
  | running (probe : RunningProbe)
deriving DecidableEq, Repr

def TaskState.holdsPermit : TaskState → Bool
  | .queued => false
  | _ => true

def TaskState.isRunning : TaskState → Bool
  | .running _ => true
  | _ => false

/-- One dispatched probe: it waits for a permit if none is free, begins, and runs until it reports, breaks down, overruns its
limit, or does not heed a cancellation. -/
structure ProbeTask where
  number : Nat
  target : Target
  epoch : Nat
  state : TaskState
deriving DecidableEq, Repr

end TargetHealth
