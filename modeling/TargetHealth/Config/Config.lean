import TargetHealth.Config.Settings
import TargetHealth.Config.Target

namespace TargetHealth

structure MetricsConfig where
  enabled : Bool := false
  port : Nat := 9100
  path : String := "/metrics"
deriving DecidableEq, Repr, Inhabited

structure Config where
  settings : Settings := {}
  metrics : MetricsConfig := {}
  reportIntervalSecs : Nat := 30
  targets : List TargetConfig := []
deriving DecidableEq, Repr, Inhabited

namespace Config

/-- Reports are at least a second apart. -/
def reportInterval (c : Config) : Duration := .ofSeconds (max c.reportIntervalSecs 1)

/-- Check targets in order: an id seen before is reported ahead of faults of the target that repeats it. -/
def validateTargets (seen : List String) : List TargetConfig → Except ConfigError Unit
  | [] => .ok ()
  | t :: rest => do
    if t.id ∈ seen then .error (.duplicateTarget t.id)
    else
      t.validate
      validateTargets (t.id :: seen) rest

def validate (c : Config) : Except ConfigError Unit := do
  c.settings.validate
  if c.settings.maxConcurrency = 0 then .error (.invalidSettings "max_concurrency must be at least 1")
  else if c.targets.isEmpty then .error .noTargets
  else
    validateTargets [] c.targets
    if c.metrics.enabled ∧ c.metrics.path.toList.head? ≠ some '/' then
      .error (.invalidSettings ("metrics path must start with '/': " ++ c.metrics.path))
    else .ok ()

end Config

end TargetHealth
