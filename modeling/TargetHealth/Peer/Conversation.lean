import TargetHealth.Peer.Script
import TargetHealth.Probe.Context

namespace TargetHealth

/-- What a client does about what has arrived: it goes on waiting or leaves, and may send something before. -/
inductive Reaction (σ : Type) where
  | await (sent : Bytes) (state : σ)
  | leave (sent : Bytes) (verdict : Verdict)

structure Client (σ : Type) where
  phase : σ → String
  /-- What is done about bytes that arrive, and about the end of the connection if that has come. -/
  react : σ → Bytes → Bool → Reaction σ
  /-- What is still sent when the deadline comes. -/
  farewell : σ → Bytes

structure Ending where
  verdict : Verdict
  at_ : Instant
  peer : Peer

def Peer.ending (p : Peer) (now : Instant) (last : Bytes) (verdict : Verdict) : Ending :=
  ⟨verdict, now, p.outlive now last⟩

namespace ProbeContext

def nextEvent (c : ProbeContext) (peer : Peer) (now : Instant) : Instant :=
  let stop := match c.cancelledAt with
    | some t => min t c.deadline
    | none => c.deadline
  match peer.wake? now with
  | some t => min t stop
  | none => stop

end ProbeContext

namespace Client

/-- Go on from a state in which the client waits. Both sides act as far as they can at an instant, the peer first, before the
clock goes on. The deadline and a cancellation are noticed before anything that the peer does at the same instant, and the
deadline before the cancellation. Every turn uses up a step of the peer's script, brings the client's
bytes to the peer, or moves the clock to the next event, so that twice the number of steps and a few turns more are
enough. -/
def converse {σ : Type} (client : Client σ) (context : ProbeContext) : Nat → Instant → Peer → σ → Ending
  | 0, now, peer, state => peer.ending now [] (.error (.timeout (client.phase state)))
  | fuel + 1, now, peer, state =>
    if context.deadline ≤ now then
      peer.ending now (client.farewell state) (.error (.timeout (client.phase state)))
    else if context.isCancelled now then peer.ending now [] (.error .cancelled)
    else
      let peer := peer.run now
      if peer.hasSpoken then
        match client.react state peer.outbox peer.ended with
        | .await sent state => converse client context fuel now ({ peer with outbox := [] }.receive sent) state
        | .leave sent verdict => { peer with outbox := [] }.ending now sent verdict
      else converse client context fuel (context.nextEvent peer now) peer state

def start {σ : Type} (client : Client σ) (context : ProbeContext) (now : Instant) (peer : Peer) (greeting : Bytes)
    (state : σ) : Ending :=
  client.converse context (3 * peer.script.length + 4) now (peer.receive greeting) state

end Client

end TargetHealth
