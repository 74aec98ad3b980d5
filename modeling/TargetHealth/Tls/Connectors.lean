import TargetHealth.Probe.Result
import TargetHealth.Target.Protocol
import TargetHealth.Tls.Certificate

namespace TargetHealth.Tls

structure Builder (γ : Type) where
  trusted : Option γ := none
  acceptsInvalidChains : Bool := false
  acceptsInvalidNames : Bool := false
deriving DecidableEq, Repr

/-- A TLS library, as far as connectors are concerned: it reads certificates and builds connectors, or says why it cannot. -/
structure Library (γ κ : Type) where
  certificate : Bytes → Except String γ
  connector : Builder γ → Except String κ

namespace Library

variable {γ κ : Type} (library : Library γ κ)

def builder (p : TlsPolicy) : Except ProbeError (Builder γ) :=
  let plain : Builder γ := ⟨none, p.acceptsInvalidChain, p.acceptsInvalidChain⟩
  match p.caCertPem with
  | none => .ok plain
  | some pem =>
    match library.certificate pem with
    | .ok certificate => .ok { plain with trusted := some certificate }
    | .error detail => .error (.internal ("invalid CA certificate: " ++ detail))

def build (p : TlsPolicy) : Except ProbeError κ :=
  match library.builder p with
  | .error e => .error e
  | .ok builder =>
    match library.connector builder with
    | .ok connector => .ok connector
    | .error detail => .error (.internal ("failed to build TLS connector: " ++ detail))

end Library

structure TrustKey where
  caCertPem : Option Bytes
  acceptsInvalidChain : Bool
deriving DecidableEq, Repr

def TrustKey.ofPolicy (p : TlsPolicy) : TrustKey := ⟨p.caCertPem, p.acceptsInvalidChain⟩

structure Cache (κ : Type) where
  made : List (TrustKey × κ) := []
deriving DecidableEq, Repr

namespace Cache

variable {γ κ : Type}

def size (c : Cache κ) : Nat := c.made.length

def isEmpty (c : Cache κ) : Bool := c.made.isEmpty

/-- The connector of a policy, built now if there is none under its key. One that cannot be built is not kept. -/
def getFrom (library : Library γ κ) (c : Cache κ) (p : TlsPolicy) : Except ProbeError κ × Cache κ :=
  let key := TrustKey.ofPolicy p
  match c.made.lookup key with
  | some connector => (.ok connector, c)
  | none =>
    match library.build p with
    | .ok connector => (.ok connector, ⟨(key, connector) :: c.made⟩)
    | .error e => (.error e, c)

end Cache

abbrev Connector := Builder Certificate

abbrev Connectors := Cache Connector

/-- The library in use. Of a file the first certificate counts, and whatever is set can be built. -/
def Library.standard : Library Certificate Connector where
  certificate pem :=
    match Certificate.ofText? pem with
    | some certificate => .ok certificate
    | none => .error "no certificate found"
  connector := .ok

def Connector.build (p : TlsPolicy) : Except ProbeError Connector := Library.standard.build p

def Cache.get (c : Connectors) (p : TlsPolicy) : Except ProbeError Connector × Connectors :=
  c.getFrom .standard p

end TargetHealth.Tls
