import TargetHealth.Config.Target
import TargetHealth.Files
import TargetHealth.Http.Method
import TargetHealth.Net.Address
import TargetHealth.Target.Protocol
import TargetHealth.Probe.Result

namespace TargetHealth

/-- A monitored endpoint. In a configuration a URL gives host, port, path and the use of TLS; a path given beside it wins unless
it is `/`. -/
structure Target where
  id : TargetId
  address : Address
  protocol : Protocol
  interval : Duration
  timeout : Duration
deriving DecidableEq, Repr

structure UrlTarget where
  address : Address
  pathAndQuery : String
  tls : Bool
deriving DecidableEq, Repr

namespace Target

def refuse {α : Type} (id reason : String) : Except ConfigError α := .error (.invalidTarget id reason)

/-- Whether a URL of this scheme uses TLS under a protocol; none if the protocol does not take the scheme. -/
def schemeTls? (kind : ProtocolKind) (scheme : String) : Option Bool :=
  match kind, scheme with
  | .http, "https" => some true
  | .webSocket, "wss" => some true
  | .http, "http" => some false
  | .webSocket, "ws" => some false
  | _, _ => none

def ofUrl (id : String) (kind : ProtocolKind) (url : Url) : Except ConfigError UrlTarget :=
  match url.host? with
  | none => refuse id "url has no host"
  | some host =>
    match url.port? with
    | none => refuse id "url has no port"
    | some port =>
      match schemeTls? kind url.scheme with
      | none => refuse id ("unsupported url scheme: " ++ url.scheme)
      | some tls => .ok ⟨⟨host.text, port⟩, url.pathAndQuery, tls⟩

def tlsPolicy (files : FileReader) (id : String) : Option TlsConfig → Except ConfigError TlsPolicy
  | none => .ok {}
  | some config => do
    let caCertPem ← match config.caCertPath with
      | none => .ok none
      | some path =>
        match files path with
        | .ok bytes => .ok (some bytes)
        | .error e => refuse id ("failed to read CA file " ++ path ++ ": " ++ e.message)
    let pin ← match config.pinnedSha256 with
      | none => .ok none
      | some hex =>
        match Digest.read? hex with
        | some digest => .ok (some digest)
        | none => refuse id "pinned_sha256 must be 64 hex digits"
    .ok ⟨config.serverName, caCertPem, pin, config.skipVerify⟩

def optionalTls (files : FileReader) (id : String) (used : Bool) (config : Option TlsConfig) :
    Except ConfigError (Option TlsPolicy) :=
  if used || config.isSome then some <$> tlsPolicy files id config else .ok none

def choosePath (configured : String) (fromUrl : Option String) : String :=
  match fromUrl with
  | some path => if configured = "/" then path else configured
  | none => configured

def startsWithSlash (path : String) : Bool := path.toList.head? == some '/'

def httpCheck (id : String) (config : HttpConfig) (urlPath : Option String) (tls : Option TlsPolicy) :
    Except ConfigError HttpCheck :=
  match Http.method? config.method with
  | none => refuse id ("invalid method: " ++ config.method)
  | some method =>
    let path := choosePath config.path urlPath
    if config.expectedStatus < 100 ∨ 599 < config.expectedStatus then
      refuse id ("invalid expected_status: " ++ toString config.expectedStatus)
    else if !startsWithSlash path then refuse id "http path must start with '/'"
    else .ok ⟨method, path, config.expectedStatus, config.hostHeader, config.bodyContains, tls⟩

def stompLogin (config : StompConfig) : StompLogin := ⟨config.host, config.login, config.passcode⟩

def webSocketCheck (id : String) (config : WebSocketConfig) (urlPath : Option String) (tls : Option TlsPolicy) :
    Except ConfigError WebSocketCheck :=
  let path := choosePath config.path urlPath
  if !startsWithSlash path then refuse id "websocket path must start with '/'"
  else .ok ⟨path, config.hostHeader, config.stomp.map stompLogin, tls⟩

/-- The target of a configuration. `files` reads the certificate file, if one is named. -/
def ofConfig (files : FileReader) (config : TargetConfig) : Except ConfigError Target := do
  config.validate
  let id := config.id
  let fromUrl ← match config.url with
    | some url => some <$> ofUrl id config.protocol url
    | none => .ok none
  let address := match fromUrl with
    | some u => u.address
    | none => ⟨config.host.getD "", config.port.getD 0⟩
  let urlPath := fromUrl.map (·.pathAndQuery)
  let urlTls := fromUrl.any (·.tls)
  let protocol ← match config.protocol with
    | .tcp => .ok Protocol.tcp
    | .tls => Protocol.tls <$> tlsPolicy files id config.tls
    | .http => do
      let http := config.http.getD {}
      let tls ← optionalTls files id (http.tls || urlTls) config.tls
      Protocol.http <$> httpCheck id http urlPath tls
    | .webSocket => do
      let ws := config.webSocket.getD {}
      let tls ← optionalTls files id (ws.tls || urlTls) config.tls
      Protocol.webSocket <$> webSocketCheck id ws urlPath tls
  .ok ⟨id, address, protocol, config.interval, config.timeout⟩

end Target

end TargetHealth
