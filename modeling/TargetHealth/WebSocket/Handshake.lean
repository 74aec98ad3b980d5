import TargetHealth.Hash.Sha1
import TargetHealth.Http.Head
import TargetHealth.Http.Request
import TargetHealth.Text.Base64

namespace TargetHealth.WebSocket

def failed (detail : String) : ProbeError := .protocol ("websocket upgrade failed: " ++ detail)

def unexpectedStatus (status : Nat) : ProbeError :=
  .protocol ("unexpected status " ++ toString status ++ " (expected 101)")

def scheme (tls : Bool) : String := if tls then "wss" else "ws"

def requestUrl (address : Address) (check : WebSocketCheck) : String :=
  scheme check.tls.isSome ++ "://" ++ Http.authority address check.hostHeader check.tls.isSome ++ check.path

def keyText (nonce : Bytes) : String := String.ofList (Base64.encode nonce)

def keySuffix : String := "258EAFA5-E914-47DA-95CA-C5AB0DC85B11"

def acceptText (key : String) : String :=
  String.ofList (Base64.encode (Sha1.hash (Utf8.ofString (key ++ keySuffix))))

structure Upgrade where
  pathAndQuery : String
  host : String
  key : String
deriving DecidableEq, Repr

namespace Upgrade

def hostOf (authority : String) : List Char :=
  let cs := authority.toList
  if cs.contains '@' then (cs.dropWhile (· != '@')).drop 1 else cs

def ofCheck (address : Address) (check : WebSocketCheck) (key : String) : Except ProbeError Upgrade :=
  match Http.Uri.parse? .unicode (requestUrl address check) with
  | none => .error (failed "invalid address")
  | some uri =>
    let host := hostOf uri.authority
    if host.isEmpty then .error (failed "no host") else .ok ⟨uri.pathAndQuery, String.ofList host, key⟩

def text (u : Upgrade) : String :=
  "GET " ++ u.pathAndQuery ++ " HTTP/1.1\r\nHost: " ++ u.host ++
    "\r\nConnection: Upgrade\r\nUpgrade: websocket\r\nSec-WebSocket-Version: 13\r\nSec-WebSocket-Key: " ++ u.key ++ "\r\n\r\n"

def states (h : Http.Head) (name value : String) : Bool :=
  (h.first? name).any (fun found => Wire.equalIgnoringCase found (Utf8.ofString value))

def judge (u : Upgrade) (h : Http.Head) : Verdict :=
  if h.minorVersion = 0 then .error (failed "unsupported version")
  else if h.status ≠ 101 then .error (unexpectedStatus h.status)
  else if !states h "upgrade" "websocket" then .error (failed "no upgrade")
  else if !states h "connection" "Upgrade" then .error (failed "no upgrade of the connection")
  else if (h.headers.find? (Http.Header.named "sec-websocket-accept")).map (·.value) ≠
      some (Utf8.ofString (acceptText u.key)) then .error (failed "wrong answer to the key")
  else .ok ()

end Upgrade

end TargetHealth.WebSocket
