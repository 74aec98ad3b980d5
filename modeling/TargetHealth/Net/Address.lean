import TargetHealth.Net.Ip

namespace TargetHealth

/-- Where a target is reached: a host, which may be a name or an address literal without brackets, and a port. -/
structure Address where
  host : String
  port : Nat
deriving DecidableEq, Repr, Inhabited

namespace Address

def hasColon (a : Address) : Bool := a.host.toList.contains ':'

/-- The host as it stands before a port: in brackets if it holds a colon itself. -/
def hostText (a : Address) : String := if a.hasColon then "[" ++ a.host ++ "]" else a.host

def text (a : Address) : String := a.hostText ++ ":" ++ toString a.port

end Address

end TargetHealth
