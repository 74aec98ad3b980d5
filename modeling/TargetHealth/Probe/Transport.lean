import TargetHealth.Http.Exchange
import TargetHealth.Probe.Prober
import TargetHealth.Time.WallClock
import TargetHealth.Tls.Handshake
import TargetHealth.WebSocket.Session

namespace TargetHealth

structure Entropy where
  nonce : Bytes
  mask : UInt32
deriving DecidableEq, Repr

structure ProbeEnding where
  verdict : Verdict
  at_ : Instant
  peer : Option Peer

namespace Network

/-- The first endpoint that accepts a connection, in the order of the look-up, and when that is settled. Every attempt is
a phase of its own under the same limits. -/
def dialAny (network : Network) (context : ProbeContext) (address : Address) :
    Instant → Option String → List Endpoint → Except ProbeError Server × Instant
  | now, failure, [] => (.error (.connect (failure.getD ("no reachable address for " ++ address.text))), now)
  | now, _, endpoint :: rest =>
    match context.run "connect" now (network.dialTime endpoint) with
    | (.error e, t) => (.error e, t)
    | (.ok (), t) =>
      match network.dial endpoint with
      | .ok server => (.ok server, t)
      | .error fault => dialAny network context address t (some (endpoint.text ++ ": " ++ fault.message)) rest

/-- A connection to an address, and when it is there or failed. No time goes into an address literal. -/
def connect (network : Network) (context : ProbeContext) (now : Instant) (address : Address) :
    Except ProbeError Server × Instant :=
  let (verdict, found) := context.run "resolve" now (network.lookUpTime address)
  let ready := if address.literal?.isSome then now else found
  match resolve address (verdict.map (fun _ => network.lookUp address)) with
  | .error e => (.error e, ready)
  | .ok endpoints => network.dialAny context address ready none endpoints

end Network

namespace ProbeEnding

def failed (e : ProbeError) (now : Instant) : ProbeEnding := ⟨.error e, now, none⟩

def ofEnding (e : Ending) : ProbeEnding := ⟨e.verdict, e.at_, some e.peer⟩

end ProbeEnding

def Protocol.converse (p : Protocol) (address : Address) (entropy : Entropy) (context : ProbeContext) (now : Instant)
    (peer : Peer) : ProbeEnding :=
  match p with
  | .http check => .ofEnding (Http.Exchange.run address check context now peer)
  | .webSocket check => .ofEnding (WebSocket.Session.run address check entropy.nonce entropy.mask context now peer)
  | _ => .ofEnding (peer.ending now [] (.ok ()))

def Network.check (network : Network) (target : Target) (entropy : Entropy) (context : ProbeContext) (now : Instant) :
    ProbeEnding :=
  match network.connect context now target.address with
  | (.error e, now) => .failed e now
  | (.ok server, now) =>
    match target.protocol.tlsPolicy? with
    | none => target.protocol.converse target.address entropy context now server.peer
    | some policy =>
      match Tls.Connector.build policy with
      | .error e => .failed e now
      | .ok connector =>
        match server.certificate with
        | none => .ofEnding (Tls.clientOfPlainPeer.start context now server.peer [] ())
        | some certificate =>
          match context.run "tls handshake" now (some .zero) with
          | (.error e, now) => .failed e now
          | (.ok (), _) =>
            match Tls.verify connector policy target.address certificate with
            | .error e => .failed e now
            | .ok () => target.protocol.converse target.address entropy context now server.peer

def ProbeEnding.toResult (e : ProbeEnding) (id : TargetId) (start : Instant) : ProbeResult :=
  match e.verdict with
  | .ok () => .success id (e.at_.since start) e.at_.wallClock
  | .error error => error.toResult id e.at_.wallClock

def Prober.overNetwork (network : Network) (entropy : Entropy) : Prober :=
  fun target _ start context =>
    let ending := network.check target entropy context start
    some (ending.at_, .reported (ending.toResult target.id start))

end TargetHealth
