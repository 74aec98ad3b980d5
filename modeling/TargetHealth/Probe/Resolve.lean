import TargetHealth.Net.Address
import TargetHealth.Probe.Result

namespace TargetHealth

def Address.literal? (a : Address) : Option Endpoint :=
  (IpAddress.read? a.host).map (fun ip => ⟨ip, a.port⟩)

abbrev LookUp := Except String (List Endpoint)

/-- The endpoints of an address. `run` carries out the look-up of a host that is no literal. -/
def resolve (a : Address) (run : Except ProbeError LookUp) : Except ProbeError (List Endpoint) :=
  match a.literal? with
  | some e => .ok [e]
  | none => do
    match ← run with
    | .error reason => .error (.dns (a.host ++ ": " ++ reason))
    | .ok [] => .error (.dns ("no addresses found for " ++ a.host))
    | .ok found => .ok found

end TargetHealth
