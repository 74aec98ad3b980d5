import TargetHealth.Time.Instant
import TargetHealth.Time.Timestamp

namespace TargetHealth

/-- The wall clock beside the monotonic one. The monotonic clock counts from the Unix epoch here. -/
def Instant.wallClock (t : Instant) : Timestamp :=
  ⟨(t.nanos / Duration.nanosPerSecond : Nat), t.nanos % Duration.nanosPerSecond⟩

end TargetHealth
