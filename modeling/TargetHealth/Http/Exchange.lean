import TargetHealth.Http.Body
import TargetHealth.Http.Request
import TargetHealth.Http.Search
import TargetHealth.Peer.Conversation
import TargetHealth.Text.Quoted

namespace TargetHealth.Http

def maxHeaders : Nat := 100

def maxHead : Nat := 417792

def failed (detail : String) : ProbeError := .protocol ("HTTP request failed: " ++ detail)

def bodyFailed (detail : String) : ProbeError := .protocol ("failed to read body: " ++ detail)

def unexpectedStatus (status expected : Nat) : ProbeError :=
  .protocol ("unexpected status " ++ toString status ++ " (expected " ++ toString expected ++ ")")

def notContained (needle : String) : ProbeError :=
  .protocol ("response body does not contain " ++ Text.quote needle ++ " within " ++ toString maxSearch ++ " bytes")

def Head.isInterim (h : Head) : Bool := 100 ≤ h.status && h.status < 200 && h.status != 101

inductive Exchange where
  /-- What has arrived of the head, and how much of it has been looked at. -/
  | head (arrived : Bytes) (known : Nat)
  /-- How the body goes on, and what has been seen of it. -/
  | body (needle : String) (state : BodyState) (seen : Bytes)

namespace Exchange

def phase : Exchange → String
  | head .. => "http request"
  | body .. => "http body"

def hasEmptyLine : Bytes → Bool
  | [] => false
  | [_] => false
  | a :: b :: rest =>
    (a == Wire.lineFeed && b == Wire.lineFeed) || Wire.beginsWith Peer.emptyLine (a :: b :: rest) ||
      hasEmptyLine (b :: rest)

def isWorthReading (arrived : Bytes) (known : Nat) : Bool := known = 0 || hasEmptyLine (arrived.drop (known - 3))

/-- A search that has not found the text yet, once the body has come to an end. -/
def conclude (needle : String) (progress : BodyProgress) (seen : Bytes) (ended : Bool) : Reaction Exchange :=
  match progress with
  | .finished => .leave [] (.error (notContained needle))
  | .broken => .leave [] (.error (bodyFailed "malformed chunk"))
  | .more state =>
    if !ended then .await [] (body needle state seen)
    else if state.mayEnd then .leave [] (.error (notContained needle))
    else .leave [] (.error (bodyFailed "connection closed"))

/-- Search what arrives of the body. A body without data is searched neither for a text nor for the empty one. -/
def readBody (needle : String) (state : BodyState) (seen : Bytes) (bytes : Bytes) (ended : Bool) :
    Reaction Exchange :=
  let (data, progress) := state.read bytes
  if data.isEmpty then conclude needle progress seen ended
  else
    match searchChunk (Utf8.ofString needle) seen data with
    | .found => .leave [] (.ok ())
    | .exhausted => .leave [] (.error (notContained needle))
    | .more seen => conclude needle progress seen ended

def judge (check : HttpCheck) (h : Head) (rest : Bytes) (ended : Bool) : Reaction Exchange :=
  match h.body? check.method with
  | none => .leave [] (.error (failed "body without a length"))
  | some state =>
    if h.status ≠ check.expectedStatus then
      .leave [] (.error (unexpectedStatus h.status check.expectedStatus))
    else
      match check.bodyContains with
      | none => .leave [] (.ok ())
      | some needle => readBody needle state [] rest ended

/-- Read heads until there is one that is not only an announcement. There are no more of them than bytes. -/
def readHead (check : HttpCheck) (ended : Bool) : Nat → Bytes → Reaction Exchange
  | 0, _ => .leave [] (.error (failed "no response"))
  | fuel + 1, arrived =>
    match Head.read maxHeaders arrived with
    | .malformed => .leave [] (.error (failed "malformed response"))
    | .complete h rest =>
      if h.isInterim then readHead check ended fuel rest else judge check h rest ended
    | .incomplete =>
      if ended || maxHead ≤ arrived.length then .leave [] (.error (failed "incomplete response"))
      else .await [] (head arrived arrived.length)

def react (check : HttpCheck) (exchange : Exchange) (bytes : Bytes) (ended : Bool) : Reaction Exchange :=
  match exchange with
  | head arrived known =>
    let arrived := arrived ++ bytes
    if isWorthReading arrived known then readHead check ended (arrived.length + 1) arrived
    else if ended || maxHead ≤ arrived.length then .leave [] (.error (failed "incomplete response"))
    else .await [] (head arrived arrived.length)
  | body needle state seen => readBody needle state seen bytes ended

def client (check : HttpCheck) : Client Exchange := ⟨phase, react check, fun _ => []⟩

/-- Carry out a check over a connection. The request is not sent if the peer speaks first or there is no time left. -/
def run (address : Address) (check : HttpCheck) (context : ProbeContext) (now : Instant) (peer : Peer) : Ending :=
  match Request.ofCheck address check with
  | .error e => peer.ending now [] (.error e)
  | .ok request =>
    if context.wasCancelled now then peer.ending now [] (.error .cancelled)
    else if context.deadline ≤ now then peer.ending now [] (.error (.timeout "http request"))
    else
      let peer := peer.run now
      if peer.hasSpoken then peer.ending now [] (.error (failed "unexpected response"))
      else (client check).start context now peer (Utf8.ofString request.text) (head [] 0)

end Exchange

end TargetHealth.Http
