import TargetHealth.Probe.Outcome
import TargetHealth.Time.Duration
import TargetHealth.Time.Timestamp
import TargetHealth.Json.Value

namespace TargetHealth

abbrev TargetId := String

structure ProbeResult where
  targetId : TargetId
  timestamp : Timestamp
  outcome : Outcome
  /-- Set on success only. -/
  latency : Option Duration
  message : Option String
deriving DecidableEq, Repr, Inhabited

namespace ProbeResult

def success (id : TargetId) (latency : Duration) (at_ : Timestamp) : ProbeResult :=
  ⟨id, at_, .success, some latency, none⟩

def failure (id : TargetId) (outcome : Outcome) (message : String) (at_ : Timestamp) : ProbeResult :=
  ⟨id, at_, outcome, none, some message⟩

def skipped (id : TargetId) (reason : String) (at_ : Timestamp) : ProbeResult :=
  failure id .skipped reason at_

def cancelled (id : TargetId) (at_ : Timestamp) : ProbeResult :=
  ⟨id, at_, .cancelled, none, none⟩

def toJson (r : ProbeResult) : Json :=
  .object [
    ("target_id", .string r.targetId),
    ("timestamp", .string r.timestamp.text),
    ("outcome", .string r.outcome.name),
    ("latency", Json.ofOption Json.ofDuration r.latency),
    ("message", Json.ofOption .string r.message)]

end ProbeResult

inductive ProbeError where
  | timeout (phase : String)
  | cancelled
  | dns (detail : String)
  | connect (detail : String)
  | handshake (detail : String)
  | certificate (detail : String)
  | protocol (detail : String)
  /-- The check itself could not be carried out. -/
  | internal (detail : String)
deriving DecidableEq, Repr, Inhabited

namespace ProbeError

def message : ProbeError → String
  | timeout phase => "timed out during " ++ phase
  | cancelled => "cancelled"
  | dns detail => "DNS resolution failed: " ++ detail
  | connect detail => "connection failed: " ++ detail
  | handshake detail => "TLS handshake failed: " ++ detail
  | certificate detail => "certificate rejected: " ++ detail
  | protocol detail => detail
  | internal detail => "internal error: " ++ detail

def outcome : ProbeError → Outcome
  | timeout _ => .timeout
  | cancelled => .cancelled
  | dns _ => .dnsFailure
  | connect _ => .connectionRefused
  | handshake _ => .tlsHandshakeFailure
  | certificate _ => .certificateInvalid
  | protocol _ => .protocolError
  | internal _ => .skipped

def toResult (e : ProbeError) (id : TargetId) (at_ : Timestamp) : ProbeResult :=
  match e with
  | cancelled => .cancelled id at_
  | e => .failure id e.outcome e.message at_

end ProbeError

abbrev Verdict := Except ProbeError Unit

end TargetHealth
