import TargetHealth.Time.Duration
import TargetHealth.Json.Value

namespace TargetHealth

/-- A window over the latest latencies of a target: first in, first out, with a fixed capacity of at least one. -/
structure LatencyWindow where
  /-- Oldest first. -/
  samples : List Duration
  capacity : Nat
  positive : 1 ≤ capacity
  fits : samples.length ≤ capacity
deriving DecidableEq

namespace LatencyWindow

/-- A sample takes 16 bytes, and at most 2^63 - 1 bytes can be reserved. -/
def canReserve (capacity : Nat) : Bool := capacity * 16 < Nat.pow 2 63

def ofCapacity (capacity : Nat) : LatencyWindow :=
  ⟨[], max capacity 1, Nat.le_max_right _ _, Nat.zero_le _⟩

instance : Inhabited LatencyWindow := ⟨ofCapacity 1⟩

def new? (capacity : Nat) : Except Fault LatencyWindow :=
  if canReserve (max capacity 1) then .ok (ofCapacity capacity) else .error .windowCapacity

def push (w : LatencyWindow) (sample : Duration) : LatencyWindow :=
  if h : w.samples.length = w.capacity then
    { w with
      samples := w.samples.drop 1 ++ [sample]
      fits := by have := w.positive; simp only [List.length_append, List.length_drop, List.length_singleton]; omega }
  else
    { w with
      samples := w.samples ++ [sample]
      fits := by have := w.fits; simp only [List.length_append, List.length_singleton]; omega }

def size (w : LatencyWindow) : Nat := w.samples.length

def isEmpty (w : LatencyWindow) : Bool := w.samples.isEmpty

def latest? (w : LatencyWindow) : Option Duration := w.samples.getLast?

/-- The mean of the samples, rounded down to a nanosecond. The number of samples is taken modulo 2^32. -/
def mean? (w : LatencyWindow) : Except Fault (Option Duration) :=
  if w.samples.isEmpty then .ok none
  else do
    let total ← Duration.sum? w.samples
    some <$> total.divide? (w.samples.length % Nat.pow 2 32)

/-- The number of samples that lie at or below the percentile `p`, which is first moved into 0 to 100. -/
def rank (p : Float) (count : Nat) : Nat :=
  let p := if p < 0.0 then 0.0 else if 100.0 < p then 100.0 else p
  ((p / 100.0) * Float.ofNat count).ceil.toUInt64.toNat

def percentile? (w : LatencyWindow) (p : Float) : Option Duration :=
  let sorted := w.samples.mergeSort (fun a b => decide (a ≤ b))
  sorted[min (rank p sorted.length - 1) (sorted.length - 1)]?

def toJson (w : LatencyWindow) : Json := .array (w.samples.map (fun d => .real d.toMillis))

end LatencyWindow

end TargetHealth
