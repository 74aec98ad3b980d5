import TargetHealth.Time.Duration

namespace TargetHealth

/-- Multipliers and failure counts are 32-bit counters that stop at their greatest value. -/
def counterMax : Nat := Nat.pow 2 32 - 1

/-- Interval stretching for targets that keep failing: each failure multiplies the target's interval by a factor, up to a cap
on the multiplier and a cap on the interval. A base interval longer than the second cap is never shortened. -/
structure BackoffPolicy where
  factor : Nat
  maxMultiplier : Nat
  maxInterval : Duration
deriving DecidableEq, Repr, Inhabited

namespace BackoffPolicy

def escalate (p : BackoffPolicy) (current : Nat) : Nat :=
  min (min (max current 1 * p.factor) counterMax) p.maxMultiplier

def climb (p : BackoffPolicy) (current : Nat) : Nat → List Nat
  | 0 => []
  | n + 1 => p.escalate current :: p.climb (p.escalate current) n

def interval (p : BackoffPolicy) (base : Duration) (multiplier : Nat) : Duration :=
  min (base.scale (max multiplier 1)) (max p.maxInterval base)

end BackoffPolicy

/-- A whole number of milliseconds below `max`, chosen by `pick`; nothing if `max` is under a millisecond.
The count of milliseconds wraps at 64 bits. -/
def jitter (max : Duration) (pick : Nat) : Duration :=
  let choices := max.millis % Nat.pow 2 64
  if choices = 0 then .zero else .ofMillis (pick % choices)

end TargetHealth
