import TargetHealth.Peer.Conversation
import TargetHealth.Stomp.Frame
import TargetHealth.WebSocket.Handshake
import TargetHealth.WebSocket.Message

namespace TargetHealth.WebSocket

def maxHeaders : Nat := 124

def maxHead : Nat := 65536

def broken (detail : String) : ProbeError := .protocol ("websocket error: " ++ detail)

def closedEarly : ProbeError := .protocol "connection closed before CONNECTED"

structure Login where
  upgrade : Upgrade
  connectFrame : Option String
  mask : UInt32
deriving DecidableEq, Repr

namespace Login

def frame (login : Login) (opcode : Nat) (payload : Bytes) : Bytes :=
  Frame.encode { opcode, payload, mask := some login.mask }

def closing (login : Login) : Bytes := login.frame Frame.close []

end Login

inductive Session where
  | upgrading (arrived : Bytes)
  /-- Waiting for the answer to a login: what is unread, and the message that has begun. -/
  | loggingIn (unread : Bytes) (fragment : Option Fragment)
deriving DecidableEq, Repr

namespace Session

def phase : Session → String
  | upgrading _ => "websocket upgrade"
  | loggingIn .. => "stomp connect"

/-- Read frames up to the first that decides the login. What is sent on the way is held. -/
def listen (login : Login) (ended : Bool) (sent : Bytes) (fragment : Option Fragment) (unread : Bytes) :
    Reaction Session :=
  match _h : Frame.read unread with
  | .incomplete =>
    if ended then .leave sent (.error (broken "connection closed")) else .await sent (loggingIn unread fragment)
  | .malformed => .leave (sent ++ login.closing) (.error (broken "malformed frame"))
  | .complete f rest =>
    match f.deliver fragment with
    | .violation => .leave (sent ++ login.closing) (.error (broken "unexpected frame"))
    | .fragment next => listen login ended sent (some next) rest
    | .message (.text payload) => .leave (sent ++ login.closing) (Stomp.expectConnected payload)
    | .message (.binary payload) => .leave (sent ++ login.closing) (Stomp.expectConnected payload)
    | .message .close => .leave sent (.error closedEarly)
    | .message .pong => listen login ended sent fragment rest
    | .message (.ping payload) =>
      listen login ended (sent ++ login.frame Frame.pong payload) fragment rest
termination_by unread.length
decreasing_by all_goals exact Frame.length_lt_of_read (by assumption)

def afterUpgrade (login : Login) (rest : Bytes) (ended : Bool) : Reaction Session :=
  match login.connectFrame with
  | none => .leave (login.closing) (.ok ())
  | some frame => listen login ended (login.frame Frame.text (Utf8.ofString frame)) none rest

def react (login : Login) (session : Session) (bytes : Bytes) (ended : Bool) : Reaction Session :=
  match session with
  | upgrading before =>
    let arrived := before ++ bytes
    match Http.Head.read maxHeaders arrived with
    | .malformed => .leave [] (.error (failed "malformed response"))
    | .incomplete =>
      if ended || maxHead < arrived.length then .leave [] (.error (failed "incomplete response"))
      else .await [] (upgrading arrived)
    | .complete h rest =>
      if maxHead < arrived.length - rest.length then .leave [] (.error (failed "response too long"))
      else
        match login.upgrade.judge h with
        | .error e => .leave [] (.error e)
        | .ok () => afterUpgrade login rest ended
  | loggingIn unread fragment => listen login ended [] fragment (unread ++ bytes)

/-- The connection is closed also when the time is up, once it is a WebSocket connection. -/
def farewell (login : Login) : Session → Bytes
  | upgrading _ => []
  | loggingIn .. => login.closing

def client (login : Login) : Client Session := ⟨phase, react login, farewell login⟩

def virtualHost (address : Address) (login : StompLogin) : String := login.host.getD address.host

def run (address : Address) (check : WebSocketCheck) (nonce : Bytes) (mask : UInt32) (context : ProbeContext)
    (now : Instant) (peer : Peer) : Ending :=
  if context.wasCancelled now then peer.ending now [] (.error .cancelled)
  else
    match Upgrade.ofCheck address check (keyText nonce) with
    | .error e => peer.ending now [] (.error e)
    | .ok upgrade =>
      let connectFrame := check.stomp.map (fun login => Stomp.connectFrame (virtualHost address login) login)
      (client ⟨upgrade, connectFrame, mask⟩).start context now peer (Utf8.ofString upgrade.text) (upgrading [])

end Session

end TargetHealth.WebSocket
