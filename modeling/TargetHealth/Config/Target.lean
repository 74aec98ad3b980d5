import TargetHealth.Config.Error
import TargetHealth.Text.Blank
import TargetHealth.Time.Duration
import TargetHealth.Url.Url

namespace TargetHealth

inductive ProtocolKind where
  | tcp
  | tls
  | http
  | webSocket
deriving DecidableEq, Repr, Inhabited

namespace ProtocolKind

def all : List ProtocolKind := [tcp, tls, http, webSocket]

def name : ProtocolKind → String
  | tcp => "tcp"
  | tls => "tls"
  | http => "http"
  | webSocket => "websocket"

def ofName? (s : String) : Option ProtocolKind := all.find? (fun k => k.name == s)

end ProtocolKind

structure TlsConfig where
  serverName : Option String := none
  caCertPath : Option String := none
  /-- Hexadecimal SHA-256 digest of the peer's certificate. -/
  pinnedSha256 : Option String := none
  skipVerify : Bool := false
deriving DecidableEq, Repr, Inhabited

structure HttpConfig where
  method : String := "GET"
  path : String := "/"
  expectedStatus : Nat := 200
  hostHeader : Option String := none
  bodyContains : Option String := none
  tls : Bool := false
deriving DecidableEq, Repr, Inhabited

structure StompConfig where
  /-- The virtual host; by default the target's host. -/
  host : Option String := none
  login : Option String := none
  passcode : Option String := none
deriving DecidableEq, Repr, Inhabited

structure WebSocketConfig where
  path : String := "/"
  hostHeader : Option String := none
  tls : Bool := false
  stomp : Option StompConfig := none
deriving DecidableEq, Repr, Inhabited

structure TargetConfig where
  id : String
  host : Option String := none
  port : Option Nat := none
  /-- Stands for host, port, path and the use of TLS. -/
  url : Option Url := none
  protocol : ProtocolKind
  intervalSecs : Nat := 30
  timeoutMs : Nat := 5000
  tls : Option TlsConfig := none
  http : Option HttpConfig := none
  webSocket : Option WebSocketConfig := none
deriving DecidableEq, Repr, Inhabited

namespace TargetConfig

def interval (t : TargetConfig) : Duration := .ofSeconds t.intervalSecs

def timeout (t : TargetConfig) : Duration := .ofMillis t.timeoutMs

def validate (t : TargetConfig) : Except ConfigError Unit :=
  let refuse (reason : String) : Except ConfigError Unit := .error (.invalidTarget t.id reason)
  if (Text.trim t.id.toList).isEmpty then refuse "id must not be empty"
  else if t.intervalSecs = 0 then refuse "interval_secs must be positive"
  else if t.timeoutMs = 0 then refuse "timeout_ms must be positive"
  else if t.url.isSome ∧ t.protocol ≠ .http ∧ t.protocol ≠ .webSocket then
    refuse "url is only valid for http and websocket targets"
  else if t.url.isNone ∧ (t.host.isNone ∨ t.port.isNone) then refuse "host and port are required"
  else if t.http.isSome ∧ t.protocol ≠ .http then refuse "http options are only valid for http targets"
  else if t.webSocket.isSome ∧ t.protocol ≠ .webSocket then
    refuse "websocket options are only valid for websocket targets"
  else if t.tls.isSome ∧ t.protocol = .tcp then refuse "tls options are not valid for tcp targets"
  else .ok ()

end TargetConfig

end TargetHealth
