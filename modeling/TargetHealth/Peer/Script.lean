import TargetHealth.Time.Instant
import TargetHealth.WebSocket.Frame

namespace TargetHealth

inductive PeerStep where
  /-- Read up to the first empty line. -/
  | receiveHead
  | receiveFrame
  | send (bytes : Bytes)
  | sleep (d : Duration)
  /-- Send nothing more, and go on reading. -/
  | endSending
  | hangUp
deriving DecidableEq, Repr

/-- The other end of a connection, acting out a script. It does one step after another: it waits for what a step wants to
read, and for the end of a sleep. A step that fails ends the script, and after that nothing more is read. A peer that comes
to the end of its script reads everything that the client still sends. -/
structure Peer where
  script : List PeerStep
  wakeAt : Instant := .origin
  inbox : Bytes := []
  outbox : Bytes := []
  ended : Bool := false
  /-- Whether a step has failed, or the peer has left. -/
  stopped : Bool := false
  head : Bytes := []
  frames : List WebSocket.Frame := []
deriving DecidableEq, Repr

namespace Peer

def emptyLine : Bytes := [13, 10, 13, 10]

/-- The bytes up to and including the first empty line, and the rest. The bytes passed over are held in reverse. -/
def cutHead? : Bytes → Bytes → Option (Bytes × Bytes)
  | _, [] => none
  | passed, b :: rest =>
    if Wire.beginsWith emptyLine (b :: rest) then some (passed.reverse ++ emptyLine, rest.drop 3)
    else cutHead? (b :: passed) rest

def stop (p : Peer) : Peer := { p with script := [], stopped := true }

/-- Act out steps as long as they do not have to wait. Once the client has left, nothing is waited for: sleeps pass, and
what would have to wait for the client fails. -/
def act (now : Instant) (alone : Bool) (p : Peer) : List PeerStep → Peer
  | [] => { p with script := [] }
  | step :: rest =>
    let waiting := if alone then p.stop else { p with script := step :: rest }
    if !alone && now < p.wakeAt then { p with script := step :: rest }
    else
      match step with
      | .receiveHead =>
        match cutHead? [] p.inbox with
        | some (head, inbox) => act now alone { p with head, inbox } rest
        | none => waiting
      | .receiveFrame =>
        match WebSocket.Frame.read p.inbox with
        | .complete frame inbox => act now alone { p with frames := p.frames ++ [frame], inbox } rest
        | .incomplete => waiting
        | .malformed => p.stop
      | .send bytes =>
        if bytes.isEmpty then act now alone p rest
        else if p.ended || alone then p.stop
        else act now alone { p with outbox := p.outbox ++ bytes } rest
      | .sleep d => act now alone { p with wakeAt := now.after d } rest
      | .endSending => act now alone { p with ended := true } rest
      | .hangUp => { p.stop with ended := true }

def run (p : Peer) (now : Instant) : Peer := p.act now false p.script

def receive (p : Peer) (bytes : Bytes) : Peer := if p.stopped then p else { p with inbox := p.inbox ++ bytes }

def outlive (p : Peer) (now : Instant) (last : Bytes) : Peer :=
  let p := p.receive last
  p.act now true p.script

def wake? (p : Peer) (now : Instant) : Option Instant :=
  if !p.script.isEmpty && now < p.wakeAt then some p.wakeAt else none

def hasSpoken (p : Peer) : Bool := !p.outbox.isEmpty || p.ended

def rest (p : Peer) : Bytes := if p.stopped then [] else p.inbox

def allFrames (p : Peer) : List WebSocket.Frame := p.frames ++ WebSocket.Frame.readAll p.rest

end Peer

end TargetHealth
