import TargetHealth.Probe.Result
import TargetHealth.Time.Instant

namespace TargetHealth

/-- The limits under which a probe runs: a deadline, and a cancellation that may come at some instant. A probe is a sequence
of phases, and each of them is raced against both. -/
structure ProbeContext where
  deadline : Instant
  cancelledAt : Option Instant
deriving DecidableEq, Repr, Inhabited

namespace ProbeContext

def isCancelled (c : ProbeContext) (now : Instant) : Bool := c.cancelledAt.any (fun t => t ≤ now)

/-- Whether a cancellation came before an instant. One that comes at the instant itself finds what begins then begun. -/
def wasCancelled (c : ProbeContext) (now : Instant) : Bool := c.cancelledAt.any (fun t => t < now)

def remaining (c : ProbeContext) (now : Instant) : Duration := c.deadline.since now

/-- How a phase ends that is not cancelled. Work that is ready by the deadline counts, and so does work that is ready at
once even though the deadline has passed. -/
def raceDeadline (c : ProbeContext) (phase : String) (start : Instant) (work : Option Duration) : Verdict × Instant :=
  let limit := max start c.deadline
  match work with
  | some d => if start.after d ≤ limit then (.ok (), start.after d) else (.error (.timeout phase), limit)
  | none => (.error (.timeout phase), limit)

/-- How and when a phase ends, whose work takes some time or never ends. A cancellation wins over everything that does
not happen before it. -/
def run (c : ProbeContext) (phase : String) (start : Instant) (work : Option Duration) : Verdict × Instant :=
  let ending := c.raceDeadline phase start work
  match c.cancelledAt with
  | none => ending
  | some t => if t ≤ ending.2 then (.error .cancelled, max start t) else ending

end ProbeContext

structure Phase where
  name : String
  work : Option Duration
deriving DecidableEq, Repr

def ProbeContext.runAll (c : ProbeContext) (start : Instant) : List Phase → Verdict × Instant
  | [] => (.ok (), start)
  | phase :: rest =>
    match c.run phase.name start phase.work with
    | (.ok (), t) => c.runAll t rest
    | ending => ending

end TargetHealth
