import TargetHealth.Config.Error
import TargetHealth.Schedule.Backoff

namespace TargetHealth

inductive SettingsField where
  | maxConcurrency
  | failureThreshold
  | backoffFactor
  | backoffCap
  | maxIntervalSecs
  | latencyWindow
  | maxPending
  | drainTimeoutMs
  | graceMs
  | jitterMs
deriving DecidableEq, Repr, Inhabited

namespace SettingsField

def all : List SettingsField :=
  [maxConcurrency, failureThreshold, backoffFactor, backoffCap, maxIntervalSecs, latencyWindow, maxPending,
    drainTimeoutMs, graceMs, jitterMs]

def name : SettingsField → String
  | maxConcurrency => "max_concurrency"
  | failureThreshold => "failure_threshold"
  | backoffFactor => "backoff_factor"
  | backoffCap => "backoff_cap"
  | maxIntervalSecs => "max_interval_secs"
  | latencyWindow => "latency_window"
  | maxPending => "max_pending"
  | drainTimeoutMs => "drain_timeout_ms"
  | graceMs => "grace_ms"
  | jitterMs => "jitter_ms"

def bits : SettingsField → Nat
  | failureThreshold | backoffFactor | backoffCap => 32
  | _ => 64

end SettingsField

structure Settings where
  maxConcurrency : Nat := 32
  /-- Consecutive failures before a target is down. -/
  failureThreshold : Nat := 3
  backoffFactor : Nat := 2
  backoffCap : Nat := 8
  maxIntervalSecs : Nat := 300
  latencyWindow : Nat := 32
  /-- Probes that may wait for a slot; at zero a probe runs only if a slot is free. -/
  maxPending : Nat := 1024
  drainTimeoutMs : Nat := 5000
  graceMs : Nat := 500
  jitterMs : Nat := 0
deriving DecidableEq, Repr, Inhabited

abbrev SettingsOverrides := SettingsField → Option Nat

namespace Settings

def get (s : Settings) : SettingsField → Nat
  | .maxConcurrency => s.maxConcurrency
  | .failureThreshold => s.failureThreshold
  | .backoffFactor => s.backoffFactor
  | .backoffCap => s.backoffCap
  | .maxIntervalSecs => s.maxIntervalSecs
  | .latencyWindow => s.latencyWindow
  | .maxPending => s.maxPending
  | .drainTimeoutMs => s.drainTimeoutMs
  | .graceMs => s.graceMs
  | .jitterMs => s.jitterMs

def ofValues (value : SettingsField → Nat) : Settings where
  maxConcurrency := value .maxConcurrency
  failureThreshold := value .failureThreshold
  backoffFactor := value .backoffFactor
  backoffCap := value .backoffCap
  maxIntervalSecs := value .maxIntervalSecs
  latencyWindow := value .latencyWindow
  maxPending := value .maxPending
  drainTimeoutMs := value .drainTimeoutMs
  graceMs := value .graceMs
  jitterMs := value .jitterMs

@[simp] theorem get_ofValues (value : SettingsField → Nat) (f : SettingsField) :
    (ofValues value).get f = value f := by
  cases f <;> rfl

def override (s : Settings) (o : SettingsOverrides) : Settings :=
  ofValues (fun f => (o f).getD (s.get f))

def maxInterval (s : Settings) : Duration := .ofSeconds s.maxIntervalSecs

def drainTimeout (s : Settings) : Duration := .ofMillis s.drainTimeoutMs

def grace (s : Settings) : Duration := .ofMillis s.graceMs

def jitter (s : Settings) : Duration := .ofMillis s.jitterMs

/-- A factor or a cap of zero counts as one. -/
def backoff (s : Settings) : BackoffPolicy :=
  ⟨max s.backoffFactor 1, max s.backoffCap 1, s.maxInterval⟩

def validate (s : Settings) : Except ConfigError Unit :=
  if s.failureThreshold = 0 then .error (.invalidSettings "failure_threshold must be at least 1")
  else if s.backoffFactor = 0 ∨ s.backoffCap = 0 then
    .error (.invalidSettings "backoff_factor and backoff_cap must be at least 1")
  else if s.latencyWindow = 0 then .error (.invalidSettings "latency_window must be at least 1")
  else if s.maxIntervalSecs = 0 then .error (.invalidSettings "max_interval_secs must be positive")
  else .ok ()

end Settings

end TargetHealth
