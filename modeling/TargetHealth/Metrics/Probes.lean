import TargetHealth.Metrics.Exposition
import TargetHealth.Probe.Result
import TargetHealth.Table

namespace TargetHealth

/-- What is counted about probes: how many ended with each outcome, how many were skipped, how long the successful ones took,
and how many are under way. -/
structure ProbeMetrics where
  /-- Results by the name of their outcome, then by target. -/
  results : Table String (Table TargetId Nat)
  skipped : Table TargetId Nat
  latencies : Table TargetId (List Duration)
  inFlight : Int
deriving DecidableEq, Repr

namespace ProbeMetrics

def empty : ProbeMetrics := ⟨.empty, .empty, .empty, 0⟩

instance : Inhabited ProbeMetrics := ⟨empty⟩

def increment (t : Table TargetId Nat) (id : TargetId) : Table TargetId Nat := t.insert id ((t.get? id).getD 0 + 1)

def resultCount (m : ProbeMetrics) (outcome : Outcome) (id : TargetId) : Nat :=
  ((m.results.get? outcome.name).bind (·.get? id)).getD 0

def record (m : ProbeMetrics) (r : ProbeResult) : ProbeMetrics where
  results := m.results.insert r.outcome.name
    (increment ((m.results.get? r.outcome.name).getD .empty) r.targetId)
  skipped := if r.outcome = .skipped then increment m.skipped r.targetId else m.skipped
  latencies := match r.latency with
    | some d => m.latencies.insert r.targetId ((m.latencies.get? r.targetId).getD [] ++ [d])
    | none => m.latencies
  inFlight := m.inFlight

def started (m : ProbeMetrics) : ProbeMetrics := { m with inFlight := m.inFlight + 1 }

def finished (m : ProbeMetrics) : ProbeMetrics := { m with inFlight := m.inFlight - 1 }

def buckets : List Float := [0.001, 0.005, 0.01, 0.025, 0.05, 0.1, 0.25, 0.5, 1.0, 2.5, 5.0, 10.0]

def histogramSamples (id : TargetId) (latencies : List Duration) : List Sample :=
  let seconds := latencies.map Duration.toSeconds
  let count := Float.ofNat seconds.length
  let bucket (le : String) (value : Float) : Sample := ⟨"_bucket", [("target", id), ("le", le)], value⟩
  buckets.map (fun b => bucket (Decimal.text b) (Float.ofNat (seconds.countP (· ≤ b)))) ++
    [bucket "+Inf" count, ⟨"_sum", [("target", id)], seconds.foldl (· + ·) 0.0⟩,
      ⟨"_count", [("target", id)], count⟩]

def durationFamily (m : ProbeMetrics) : MetricFamily :=
  ⟨"netmon_probe_duration_seconds", "Latency of successful probes in seconds", .histogram,
    m.latencies.entries.flatMap (fun e => histogramSamples e.1 e.2)⟩

def inFlightFamily (m : ProbeMetrics) : MetricFamily :=
  ⟨"netmon_probes_in_flight", "Probes currently running", .gauge, [⟨"", [], Float.ofInt m.inFlight⟩]⟩

def skippedFamily (m : ProbeMetrics) : MetricFamily :=
  ⟨"netmon_probes_skipped_total", "Probes that could not start this cycle", .counter,
    m.skipped.entries.map (fun e => ⟨"", [("target", e.1)], Float.ofNat e.2⟩)⟩

def resultFamily (m : ProbeMetrics) : MetricFamily :=
  ⟨"netmon_probes_total", "Completed probes by outcome", .counter,
    m.results.entries.flatMap (fun o => o.2.entries.map
      (fun e => ⟨"", [("outcome", o.1), ("target", e.1)], Float.ofNat e.2⟩))⟩

def families (m : ProbeMetrics) : List MetricFamily :=
  [m.durationFamily, m.inFlightFamily, m.skippedFamily, m.resultFamily]

end ProbeMetrics

end TargetHealth
