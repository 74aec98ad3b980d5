import TargetHealth.Peer.Script
import TargetHealth.Probe.Resolve
import TargetHealth.Target.Digest
import TargetHealth.Tls.Certificate

namespace TargetHealth

inductive ConnectFault where
  | networkUnreachable
  | connectionRefused
deriving DecidableEq, Repr

namespace ConnectFault

def code : ConnectFault → Nat
  | networkUnreachable => 101
  | connectionRefused => 111

def reason : ConnectFault → String
  | networkUnreachable => "Network is unreachable"
  | connectionRefused => "Connection refused"

def message (f : ConnectFault) : String := f.reason ++ " (os error " ++ toString f.code ++ ")"

end ConnectFault

structure ServerCertificate where
  certificate : Tls.Certificate
  digest : Digest
  names : List String
deriving DecidableEq, Repr

structure Server where
  /-- Shown if the server speaks TLS. -/
  certificate : Option ServerCertificate
  peer : Peer
deriving DecidableEq, Repr

/-- A network as a probe sees it: which endpoints a name has, what answers at an endpoint, and how long either takes. -/
structure Network where
  lookUp : Address → LookUp
  dial : Endpoint → Except ConnectFault Server
  /-- How long a look-up takes, if it ends. -/
  lookUpTime : Address → Option Duration := fun _ => some .zero
  /-- How long an endpoint takes to accept or to refuse, if it does either. -/
  dialTime : Endpoint → Option Duration := fun _ => some .zero

def Network.unreachable : Network where
  lookUp address :=
    if address.host = "localhost" then .ok [⟨.v4 (.ofOctets [127, 0, 0, 1]), address.port⟩]
    else .error "failed to lookup address information: Temporary failure in name resolution"
  dial _ := .error .networkUnreachable

end TargetHealth
