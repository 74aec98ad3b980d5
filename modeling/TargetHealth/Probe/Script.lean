import TargetHealth.Probe.Prober
import TargetHealth.Table
import TargetHealth.Time.WallClock

namespace TargetHealth

structure ProbeScript where
  /-- The waits of the calls; the last one repeats. Without any, no call waits. -/
  delays : List Duration := []
  /-- What the calls report. Later calls succeed. -/
  outcomes : List Outcome := []
  /-- Whether the wait runs past the deadline and past a cancellation. -/
  ignoresContext : Bool := false
  panics : Bool := false
  /-- The id under which the calls report, if it is not the target's own. -/
  reportAs : Option TargetId := none
deriving DecidableEq, Repr

namespace ProbeScript

def delay (s : ProbeScript) (call : Nat) : Duration :=
  (s.delays[call]?.or s.delays.getLast?).getD .zero

def outcome (s : ProbeScript) (call : Nat) : Outcome := s.outcomes[call]?.getD .success

def reportId (s : ProbeScript) (target : Target) : TargetId := s.reportAs.getD target.id

def report (s : ProbeScript) (id : TargetId) (call : Nat) (waited : Duration) (now : Instant) : ProbeResult :=
  match s.outcome call with
  | .success => .success id waited now.wallClock
  | .cancelled => .cancelled id now.wallClock
  | outcome => .failure id outcome "scripted failure" now.wallClock

def wait (s : ProbeScript) (call : Nat) (start : Instant) (context : ProbeContext) : Verdict × Instant :=
  let delay := s.delay call
  if s.ignoresContext then (.ok (), start.after delay) else context.run "connect" start (some delay)

def call (s : ProbeScript) (target : Target) (call : Nat) (start : Instant) (context : ProbeContext) :
    Instant × CallEnd :=
  if s.panics then (start, .panicked)
  else
    match s.wait call start context with
    | (.ok (), t) => (t, .reported (s.report (s.reportId target) call (t.since start) t))
    | (.error e, t) => (t, .reported (e.toResult (s.reportId target) t.wallClock))

end ProbeScript

/-- The prober that follows a script for each target, and the empty script for a target without one. -/
def Prober.scripted (scripts : Table TargetId ProbeScript) : Prober :=
  fun target call start context => some (((scripts.get? target.id).getD {}).call target call start context)

end TargetHealth
