import TargetHealth.Metrics.Probes
import TargetHealth.Metrics.Targets

namespace TargetHealth

structure Metrics where
  probes : ProbeMetrics
  targets : TargetMetrics
deriving DecidableEq, Repr

namespace Metrics

def empty : Metrics := ⟨.empty, .empty⟩

instance : Inhabited Metrics := ⟨empty⟩

def text (m : Metrics) : String := Exposition.text (m.probes.families ++ m.targets.families)

end Metrics

end TargetHealth
