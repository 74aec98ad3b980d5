import TargetHealth.Http.Uri
import TargetHealth.Net.Address
import TargetHealth.Probe.Result
import TargetHealth.Target.Protocol

namespace TargetHealth.Http

def defaultPort (tls : Bool) : Nat := if tls then 443 else 80

def authority (address : Address) (hostHeader : Option String) (tls : Bool) : String :=
  match hostHeader with
  | some host => host
  | none => if address.port = defaultPort tls then address.host else address.text

def userAgent : String := "network-monitor/0.1.0"

def isFieldChar (c : Char) : Bool := c == '\t' || (0x20 ≤ c.toNat && c.toNat != 0x7f)

structure Request where
  method : String
  target : Uri
  host : String
deriving DecidableEq, Repr

namespace Request

def invalid (detail : String) : ProbeError := .internal ("invalid request: " ++ detail)

def ofCheck (address : Address) (check : HttpCheck) : Except ProbeError Request :=
  match Uri.parse? .ascii check.path with
  | none => .error (invalid "no request target")
  | some target =>
    let host := authority address check.hostHeader check.tls.isSome
    if host.toList.all isFieldChar then .ok ⟨check.method, target, host⟩
    else .error (invalid "no header value")

def text (r : Request) : String :=
  r.method ++ " " ++ r.target.text ++ " HTTP/1.1\r\nhost: " ++ r.host ++ "\r\nuser-agent: " ++ userAgent ++ "\r\n\r\n"

end Request

end TargetHealth.Http
