import TargetHealth.Health.Window
import TargetHealth.Probe.Result
import TargetHealth.Schedule.Backoff

namespace TargetHealth

inductive Status where
  | up
  | down
  | unknown
deriving DecidableEq, Repr, Inhabited

def Status.name : Status → String
  | .up => "up"
  | .down => "down"
  | .unknown => "unknown"

def Status.all : List Status := [.up, .down, .unknown]

structure HealthPolicy where
  failureThreshold : Nat
  latencyWindow : Nat
  backoff : BackoffPolicy
deriving DecidableEq, Repr, Inhabited

structure TargetState where
  targetId : TargetId
  status : Status
  consecutiveFailures : Nat
  consecutiveSuccesses : Nat
  lastSuccess : Option Timestamp
  lastFailure : Option Timestamp
  lastOutcome : Option Outcome
  lastMessage : Option String
  backoffMultiplier : Nat
  totalProbes : Nat
  /-- Cycles in which the probe could not run at all. -/
  skipped : Nat
  lastSkipped : Option Timestamp
  latencies : LatencyWindow
deriving DecidableEq, Inhabited

namespace TargetState

def new (id : TargetId) (latencies : LatencyWindow) : TargetState where
  targetId := id
  status := .unknown
  consecutiveFailures := 0
  consecutiveSuccesses := 0
  lastSuccess := none
  lastFailure := none
  lastOutcome := none
  lastMessage := none
  backoffMultiplier := 1
  totalProbes := 0
  skipped := 0
  lastSkipped := none
  latencies := latencies

def recordSuccess (s : TargetState) (r : ProbeResult) : TargetState :=
  { s with
    totalProbes := s.totalProbes + 1
    status := .up
    consecutiveFailures := 0
    consecutiveSuccesses := min (s.consecutiveSuccesses + 1) counterMax
    lastSuccess := some r.timestamp
    backoffMultiplier := 1
    latencies := match r.latency with
      | some latency => s.latencies.push latency
      | none => s.latencies
    lastOutcome := some r.outcome
    lastMessage := r.message }

def recordSkipped (s : TargetState) (r : ProbeResult) : TargetState :=
  { s with
    skipped := s.skipped + 1
    lastSkipped := some r.timestamp
    lastOutcome := some r.outcome
    lastMessage := r.message }

def recordFailure (s : TargetState) (r : ProbeResult) (policy : HealthPolicy) : TargetState :=
  let failures := min (s.consecutiveFailures + 1) counterMax
  { s with
    totalProbes := s.totalProbes + 1
    status := if policy.failureThreshold ≤ failures then .down else s.status
    consecutiveFailures := failures
    consecutiveSuccesses := 0
    lastFailure := some r.timestamp
    backoffMultiplier := policy.backoff.escalate s.backoffMultiplier
    lastOutcome := some r.outcome
    lastMessage := r.message }

/-- Fold one result in. A cancelled probe says nothing about the target. -/
def record (s : TargetState) (r : ProbeResult) (policy : HealthPolicy) : TargetState :=
  match r.outcome with
  | .success => s.recordSuccess r
  | .skipped => s.recordSkipped r
  | .cancelled => s
  | _ => s.recordFailure r policy

def toJson (s : TargetState) : Json :=
  let time (t : Option Timestamp) := Json.ofOption (fun t => .string t.text) t
  .object [
    ("target_id", .string s.targetId),
    ("status", .string s.status.name),
    ("consecutive_failures", .ofNat s.consecutiveFailures),
    ("consecutive_successes", .ofNat s.consecutiveSuccesses),
    ("last_success", time s.lastSuccess),
    ("last_failure", time s.lastFailure),
    ("last_outcome", Json.ofOption (fun o => .string o.name) s.lastOutcome),
    ("last_message", Json.ofOption .string s.lastMessage),
    ("backoff_multiplier", .ofNat s.backoffMultiplier),
    ("total_probes", .ofNat s.totalProbes),
    ("skipped", .ofNat s.skipped),
    ("last_skipped", time s.lastSkipped),
    ("latencies", s.latencies.toJson)]

end TargetState

end TargetHealth
