import TargetHealth.Config.Config
import TargetHealth.Config.Format
import TargetHealth.Url.Reader

namespace TargetHealth

variable {ν : Type}

def DocumentFormat.record? {α : Type} (f : DocumentFormat ν) (names : List String)
    (decode : (String → Slot ν) → Option α) (v : ν) : Option α := do
  decode (← f.slots? names v)

def collectFields? (value? : SettingsField → Option Nat) : Option (SettingsField → Nat) := do
  if SettingsField.all.all (fun f => (value? f).isSome) then some (fun f => (value? f).getD 0) else none

def Settings.decode? (f : DocumentFormat ν) : ν → Option Settings :=
  f.record? (SettingsField.all.map (·.name)) fun slot => do
    let default : Settings := {}
    let value ← collectFields? (fun field =>
      (slot field.name).orDefault (default.get field) (f.word? field.bits))
    some (Settings.ofValues value)

def overrideField? (f : DocumentFormat ν) (field : SettingsField) : Slot ν → Option (Option Nat)
  | .given v => f.optionally? (f.word? field.bits) v
  | .omitted => some none
  | .cut => none

def SettingsOverrides.decode? (f : DocumentFormat ν) : ν → Option SettingsOverrides :=
  f.record? (SettingsField.all.map (·.name)) fun slot =>
    if SettingsField.all.all (fun field => (overrideField? f field (slot field.name)).isSome) then
      some (fun field => (overrideField? f field (slot field.name)).join)
    else none

def MetricsConfig.decode? (f : DocumentFormat ν) : ν → Option MetricsConfig :=
  f.record? ["enabled", "port", "path"] fun slot => do
    let default : MetricsConfig := {}
    some {
      enabled := ← (slot "enabled").orDefault default.enabled f.bool?
      port := ← (slot "port").orDefault default.port (f.word? 16)
      path := ← (slot "path").orDefault default.path f.text? }

def decodeReportInterval? (f : DocumentFormat ν) : ν → Option Nat :=
  f.record? ["interval_secs"] fun slot => (slot "interval_secs").orDefault 30 (f.word? 64)

def TlsConfig.decode? (f : DocumentFormat ν) : ν → Option TlsConfig :=
  f.record? ["server_name", "ca_cert_path", "pinned_sha256", "skip_verify"] fun slot => do
    some {
      serverName := ← f.orAbsent (slot "server_name") f.text?
      caCertPath := ← f.orAbsent (slot "ca_cert_path") f.text?
      pinnedSha256 := ← f.orAbsent (slot "pinned_sha256") f.text?
      skipVerify := ← (slot "skip_verify").orDefault false f.bool? }

def HttpConfig.decode? (f : DocumentFormat ν) : ν → Option HttpConfig :=
  f.record? ["method", "path", "expected_status", "host_header", "body_contains", "tls"] fun slot => do
    let default : HttpConfig := {}
    some {
      method := ← (slot "method").orDefault default.method f.text?
      path := ← (slot "path").orDefault default.path f.text?
      expectedStatus := ← (slot "expected_status").orDefault default.expectedStatus (f.word? 16)
      hostHeader := ← f.orAbsent (slot "host_header") f.text?
      bodyContains := ← f.orAbsent (slot "body_contains") f.text?
      tls := ← (slot "tls").orDefault default.tls f.bool? }

def StompConfig.decode? (f : DocumentFormat ν) : ν → Option StompConfig :=
  f.record? ["host", "login", "passcode"] fun slot => do
    some {
      host := ← f.orAbsent (slot "host") f.text?
      login := ← f.orAbsent (slot "login") f.text?
      passcode := ← f.orAbsent (slot "passcode") f.text? }

def WebSocketConfig.decode? (f : DocumentFormat ν) : ν → Option WebSocketConfig :=
  f.record? ["path", "host_header", "tls", "stomp"] fun slot => do
    let default : WebSocketConfig := {}
    some {
      path := ← (slot "path").orDefault default.path f.text?
      hostHeader := ← f.orAbsent (slot "host_header") f.text?
      tls := ← (slot "tls").orDefault default.tls f.bool?
      stomp := ← f.orAbsent (slot "stomp") (StompConfig.decode? f) }

def TargetConfig.decode? (f : DocumentFormat ν) : ν → Option TargetConfig :=
  f.record? ["id", "host", "port", "url", "protocol", "interval_secs", "timeout_ms", "tls", "http", "websocket"]
    fun slot => do
      some {
        id := ← (slot "id").required f.text?
        host := ← f.orAbsent (slot "host") f.text?
        port := ← f.orAbsent (slot "port") (f.word? 16)
        url := ← f.orAbsent (slot "url") (fun v => (f.text? v).bind Url.read?)
        protocol := ← (slot "protocol").required (fun v => (f.variant? v).bind ProtocolKind.ofName?)
        intervalSecs := ← (slot "interval_secs").orDefault 30 (f.word? 64)
        timeoutMs := ← (slot "timeout_ms").orDefault 5000 (f.word? 64)
        tls := ← f.orAbsent (slot "tls") (TlsConfig.decode? f)
        http := ← f.orAbsent (slot "http") (HttpConfig.decode? f)
        webSocket := ← f.orAbsent (slot "websocket") (WebSocketConfig.decode? f) }

def Config.decode? (f : DocumentFormat ν) : ν → Option Config :=
  f.record? ["settings", "metrics", "report", "targets"] fun slot => do
    let default : Config := {}
    some {
      settings := ← (slot "settings").orDefault default.settings (Settings.decode? f)
      metrics := ← (slot "metrics").orDefault default.metrics (MetricsConfig.decode? f)
      reportIntervalSecs := ← (slot "report").orDefault default.reportIntervalSecs (decodeReportInterval? f)
      targets := ← (slot "targets").orDefault default.targets
        (fun v => (f.items? v).bind (fun items => items.mapM (TargetConfig.decode? f))) }

end TargetHealth
