import TargetHealth.Probe.Context
import TargetHealth.Target.Target

namespace TargetHealth

inductive CallEnd where
  | reported (result : ProbeResult)
  | panicked
deriving DecidableEq, Repr

/-- A prober is known by the ends of its calls: for the target, the number of the call, its start and the limits it runs under,
when the call ends and how. A call that has no end hangs forever. A call runs under limits without a cancellation until it is
cancelled; then its end is the one under limits with that cancellation. -/
abbrev Prober := Target → Nat → Instant → ProbeContext → Option (Instant × CallEnd)

end TargetHealth
