import TargetHealth.Health.State
import TargetHealth.Metrics.Exposition
import TargetHealth.Table

namespace TargetHealth

/-- Up is 1, down is 0, and a target of which nothing is known is -1. -/
def Status.gauge : Status → Int
  | .up => 1
  | .down => 0
  | .unknown => -1

/-- What is shown about targets: the status and the backoff multiplier of each, and how many there are. -/
structure TargetMetrics where
  statuses : Table TargetId Int
  multipliers : Table TargetId Nat
  total : Int
deriving DecidableEq, Repr

namespace TargetMetrics

def empty : TargetMetrics := ⟨.empty, .empty, 0⟩

instance : Inhabited TargetMetrics := ⟨empty⟩

def update (m : TargetMetrics) (id : TargetId) (status : Status) (multiplier : Nat) : TargetMetrics :=
  { m with statuses := m.statuses.insert id status.gauge, multipliers := m.multipliers.insert id multiplier }

def remove (m : TargetMetrics) (id : TargetId) : TargetMetrics :=
  { m with statuses := m.statuses.erase id, multipliers := m.multipliers.erase id }

/-- Gauges are signed 64-bit numbers. -/
def setTotal (m : TargetMetrics) (n : Nat) : TargetMetrics := { m with total := Int.bmod n (Nat.pow 2 64) }

def multiplierFamily (m : TargetMetrics) : MetricFamily :=
  ⟨"netmon_target_backoff_multiplier", "Current probe interval multiplier", .gauge,
    m.multipliers.entries.map (fun e => ⟨"", [("target", e.1)], Float.ofNat e.2⟩)⟩

def statusFamily (m : TargetMetrics) : MetricFamily :=
  ⟨"netmon_target_up", "Target status (1=up, 0=down, -1=unknown)", .gauge,
    m.statuses.entries.map (fun e => ⟨"", [("target", e.1)], Float.ofInt e.2⟩)⟩

def totalFamily (m : TargetMetrics) : MetricFamily :=
  ⟨"netmon_targets_total", "Monitored targets", .gauge, [⟨"", [], Float.ofInt m.total⟩]⟩

def families (m : TargetMetrics) : List MetricFamily := [m.multiplierFamily, m.statusFamily, m.totalFamily]

end TargetMetrics

end TargetHealth
