namespace TargetHealth

/-- How a probe can end. Every outcome is a success, a failure, or no statement about the target's health. -/
inductive Outcome where
  | success
  | timeout
  | connectionRefused
  | dnsFailure
  | tlsHandshakeFailure
  | certificateInvalid
  /-- Reachable but unhealthy: wrong status, unexpected body, broken framing. -/
  | protocolError
  /-- The probe never ran this cycle. -/
  | skipped
  | cancelled
deriving DecidableEq, Repr, Inhabited

namespace Outcome

def all : List Outcome :=
  [success, timeout, connectionRefused, dnsFailure, tlsHandshakeFailure, certificateInvalid,
    protocolError, skipped, cancelled]

def name : Outcome → String
  | success => "success"
  | timeout => "timeout"
  | connectionRefused => "connection_refused"
  | dnsFailure => "dns_failure"
  | tlsHandshakeFailure => "tls_handshake_failure"
  | certificateInvalid => "certificate_invalid"
  | protocolError => "protocol_error"
  | skipped => "skipped"
  | cancelled => "cancelled"

def ofName? (s : String) : Option Outcome := all.find? (fun o => o.name == s)

def isSuccess (o : Outcome) : Bool := o == success

def isFailure : Outcome → Bool
  | success | skipped | cancelled => false
  | _ => true

end Outcome

end TargetHealth
