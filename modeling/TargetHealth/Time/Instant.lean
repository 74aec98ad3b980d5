import TargetHealth.Time.Duration

namespace TargetHealth

/-- Instants of a monotonic clock, in nanoseconds since its origin. The clock ends after 2^63 seconds. -/
structure Instant where
  nanos : Nat
deriving DecidableEq, Repr, Inhabited

namespace Instant

/-- The first instant past the end of the clock. -/
def limit : Nat := Nat.pow 2 63 * Duration.nanosPerSecond

def origin : Instant := ⟨0⟩

instance : LE Instant := ⟨fun a b => a.nanos ≤ b.nanos⟩

instance : LT Instant := ⟨fun a b => a.nanos < b.nanos⟩

instance (a b : Instant) : Decidable (a ≤ b) := inferInstanceAs (Decidable (a.nanos ≤ b.nanos))

instance (a b : Instant) : Decidable (a < b) := inferInstanceAs (Decidable (a.nanos < b.nanos))

instance : Min Instant := ⟨fun a b => ⟨min a.nanos b.nanos⟩⟩

instance : Max Instant := ⟨fun a b => ⟨max a.nanos b.nanos⟩⟩

/-- The instant `d` after `t`, without regard to the end of the clock. -/
def after (t : Instant) (d : Duration) : Instant := ⟨t.nanos + d.nanos⟩

def add? (t : Instant) (d : Duration) : Except Fault Instant :=
  if t.nanos + d.nanos < limit then .ok (t.after d) else .error .clockRange

def since (t s : Instant) : Duration := ⟨t.nanos - s.nanos⟩

end Instant

end TargetHealth
