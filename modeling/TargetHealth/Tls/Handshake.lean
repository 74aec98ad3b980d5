import TargetHealth.Net.Network
import TargetHealth.Peer.Conversation
import TargetHealth.Tls.Connectors

namespace TargetHealth.Tls

def pinMismatch (found : Digest) : ProbeError :=
  .certificate ("pin mismatch: peer certificate sha256 is " ++ found.text)

def Connector.accepts (c : Connector) (server : ServerCertificate) (name : String) : Bool :=
  c.acceptsInvalidChains ||
    (c.trusted == some server.certificate && (c.acceptsInvalidNames || server.names.contains name))

def checkPin (policy : TlsPolicy) (server : ServerCertificate) : Verdict :=
  match policy.pin with
  | none => .ok ()
  | some pin => if pin = server.digest then .ok () else .error (pinMismatch server.digest)

def verify (connector : Connector) (policy : TlsPolicy) (address : Address) (server : ServerCertificate) : Verdict :=
  if connector.accepts server (policy.serverName.getD address.host) then checkPin policy server
  else .error (.certificate "certificate verify failed")

/-- The client's side of a handshake with a peer that does not speak TLS: whatever comes is wrong. -/
def clientOfPlainPeer : Client Unit where
  phase _ := "tls handshake"
  react _ _ _ := .leave [] (.error (.handshake "wrong version number"))
  farewell _ := []

end TargetHealth.Tls
