import TargetHealth.Probe.Result
import TargetHealth.Target.Protocol
import TargetHealth.Text.Pieces

namespace TargetHealth.Stomp

def isLineEnd (c : Char) : Bool := c == '\r' || c == '\n'

def singleLine (cs : List Char) : List Char := cs.filter (fun c => !isLineEnd c)

def headerLine (name : String) (value : String) : List Char :=
  name.toList ++ ':' :: singleLine value.toList ++ ['\n']

def optionalLine (name : String) : Option String → List Char
  | some value => headerLine name value
  | none => []

def connectChars (vhost : String) (login : StompLogin) : List Char :=
  "STOMP\naccept-version:1.2\n".toList ++ headerLine "host" vhost ++ optionalLine "login" login.login ++
    optionalLine "passcode" login.passcode ++ ['\n', '\x00']

def connectFrame (vhost : String) (login : StompLogin) : String := String.ofList (connectChars vhost login)

structure Frame where
  command : List Char
  headers : List (List Char × List Char)
deriving DecidableEq, Repr

namespace Frame

def trimReturns (line : List Char) : List Char := (line.reverse.dropWhile (· == '\r')).reverse

def endsHead (line : List Char) : Bool := line.isEmpty || line.head? == some '\x00'

def headersOf? : List (List Char) → Option (List (List Char × List Char))
  | [] => some []
  | line :: rest =>
    if endsHead line then some []
    else
      match Text.cut ':' line with
      | (_, none) => none
      | (name, some value) => (headersOf? rest).map ((name, value) :: ·)

def ofChars? (cs : List Char) : Option Frame :=
  match (Text.pieces '\n' (cs.dropWhile isLineEnd)).map trimReturns with
  | [] => none
  | command :: lines =>
    if command.isEmpty then none else (headersOf? lines).map (fun headers => ⟨command, headers⟩)

/-- The head of the frame in a message, all of which has to be text. -/
def parse? (raw : Bytes) : Option Frame := (Utf8.decode? raw).bind ofChars?

def header? (f : Frame) (name : String) : Option String :=
  (f.headers.lookup name.toList).map String.ofList

end Frame

def malformed : ProbeError := .protocol "malformed STOMP frame"

def judge (f : Frame) : Verdict :=
  if f.command = "CONNECTED".toList then .ok ()
  else if f.command = "ERROR".toList then
    .error (.protocol ("STOMP login refused: " ++ (f.header? "message").getD "no reason given"))
  else .error (.protocol ("expected CONNECTED, got " ++ String.ofList f.command))

def expectConnected (raw : Bytes) : Verdict :=
  match Frame.parse? raw with
  | some f => judge f
  | none => .error malformed

end TargetHealth.Stomp
