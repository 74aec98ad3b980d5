import TargetHealth.Fault

namespace TargetHealth

/-- Spans of time in whole nanoseconds. A span is representable below 2^64 seconds; the operations that can leave that range
either saturate (`scale`) or fail (`sum?`, `divide?`). -/
structure Duration where
  nanos : Nat
deriving DecidableEq, Repr, Inhabited

namespace Duration

def nanosPerSecond : Nat := 1000000000

def nanosPerMilli : Nat := 1000000

def limit : Nat := Nat.pow 2 64 * nanosPerSecond

def longest : Duration := ⟨limit - 1⟩

def zero : Duration := ⟨0⟩

def ofSeconds (s : Nat) : Duration := ⟨s * nanosPerSecond⟩

def ofMillis (ms : Nat) : Duration := ⟨ms * nanosPerMilli⟩

def ofParts (seconds nanos : Nat) : Duration := ⟨seconds * nanosPerSecond + nanos⟩

def seconds (d : Duration) : Nat := d.nanos / nanosPerSecond

def subsecNanos (d : Duration) : Nat := d.nanos % nanosPerSecond

def millis (d : Duration) : Nat := d.nanos / nanosPerMilli

instance : LE Duration := ⟨fun a b => a.nanos ≤ b.nanos⟩

instance : LT Duration := ⟨fun a b => a.nanos < b.nanos⟩

instance (a b : Duration) : Decidable (a ≤ b) := inferInstanceAs (Decidable (a.nanos ≤ b.nanos))

instance (a b : Duration) : Decidable (a < b) := inferInstanceAs (Decidable (a.nanos < b.nanos))

instance : Min Duration := ⟨fun a b => ⟨min a.nanos b.nanos⟩⟩

instance : Max Duration := ⟨fun a b => ⟨max a.nanos b.nanos⟩⟩

instance : Add Duration := ⟨fun a b => ⟨a.nanos + b.nanos⟩⟩

instance : Sub Duration := ⟨fun a b => ⟨a.nanos - b.nanos⟩⟩

def isZero (d : Duration) : Bool := d.nanos == 0

def isRepresentable (d : Duration) : Bool := d.nanos < limit

/-- The span `k` times as long, or the longest one if that is too long. -/
def scale (d : Duration) (k : Nat) : Duration := ⟨min (d.nanos * k) (limit - 1)⟩

def sum? (ds : List Duration) : Except Fault Duration :=
  ds.foldlM (fun total d => if (total + d).isRepresentable then .ok (total + d) else .error .spanSum) zero

def divide? (d : Duration) (k : Nat) : Except Fault Duration :=
  if k = 0 then .error .spanDivision else .ok ⟨d.nanos / k⟩

def toSeconds (d : Duration) : Float :=
  Float.ofNat d.seconds + Float.ofNat d.subsecNanos / Float.ofNat nanosPerSecond

def toMillis (d : Duration) : Float := d.toSeconds * 1000.0

end Duration

end TargetHealth
