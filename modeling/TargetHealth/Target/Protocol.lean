import TargetHealth.Target.Digest
import TargetHealth.Text.Utf8

namespace TargetHealth

/-- A pin replaces the verification of the certificate chain: any chain is accepted, and the digest of the peer's
certificate has to match instead. -/
structure TlsPolicy where
  serverName : Option String := none
  caCertPem : Option Bytes := none
  pin : Option Digest := none
  skipVerify : Bool := false
deriving DecidableEq, Repr

def TlsPolicy.acceptsInvalidChain (p : TlsPolicy) : Bool := p.skipVerify || p.pin.isSome

structure HttpCheck where
  method : String
  path : String
  expectedStatus : Nat
  hostHeader : Option String
  bodyContains : Option String
  tls : Option TlsPolicy
deriving DecidableEq, Repr

structure StompLogin where
  host : Option String
  login : Option String
  passcode : Option String
deriving DecidableEq, Repr

structure WebSocketCheck where
  path : String
  hostHeader : Option String
  stomp : Option StompLogin
  tls : Option TlsPolicy
deriving DecidableEq, Repr

inductive Protocol where
  | tcp
  | tls (policy : TlsPolicy)
  | http (check : HttpCheck)
  | webSocket (check : WebSocketCheck)
deriving DecidableEq, Repr

namespace Protocol

def tlsPolicy? : Protocol → Option TlsPolicy
  | tcp => none
  | tls policy => some policy
  | http check => check.tls
  | webSocket check => check.tls

def kind : Protocol → String
  | tcp => "tcp"
  | tls _ => "tls"
  | http check => if check.tls.isSome then "https" else "http"
  | webSocket check => if check.tls.isSome then "wss" else "ws"

end Protocol

end TargetHealth
