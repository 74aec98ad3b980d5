import TargetHealth.Config.Format
import TargetHealth.Json.Value

namespace TargetHealth.Json

def variant? : Json → Option String
  | .string s => some s
  | .object [(name, .null)] => some name
  | _ => none

def slotByName? (members : List (String × Json)) (name : String) : Option (Slot Json) :=
  match members.filter (fun m => m.1 == name) with
  | [] => some .omitted
  | [m] => some (.given m.2)
  | _ => none

def slotByPlace (names : List String) (items : List Json) (name : String) : Slot Json :=
  match items[names.idxOf name]? with
  | some v => .given v
  | none => .cut

def slots? (names : List String) : Json → Option (String → Slot Json)
  | .object members =>
    if names.all (fun name => (slotByName? members name).isSome) then
      some (fun name => (slotByName? members name).getD .omitted)
    else none
  | .array items => if items.length ≤ names.length then some (slotByPlace names items) else none
  | _ => none

def format : DocumentFormat Json where
  text? v := match v with
    | .string s => some s
    | _ => none
  natural? v := match v with
    | .integer false n => some n
    | _ => none
  bool? v := match v with
    | .bool b => some b
    | _ => none
  items? v := match v with
    | .array items => some items
    | _ => none
  variant? := variant?
  optional? v := match v with
    | .null => some none
    | v => some (some v)
  slots? := slots?

end TargetHealth.Json
