import TargetHealth.Config.Format
import TargetHealth.Decimal.Reading
import TargetHealth.Text.Hex
import TargetHealth.Yaml.Node

namespace TargetHealth.Yaml

def isNullWord (s : String) : Bool := s == "null" || s == "Null" || s == "NULL" || s == "~"

def nullTag : String := "tag:yaml.org,2002:null"

def ofBase? (base : Nat) (digits : List Char) : Option Nat :=
  if digits.isEmpty then none
  else do
    let values ← digits.mapM Hex.value?
    if values.all (· < base) then some (values.foldl (fun n d => base * n + d) 0) else none

/-- An unsigned number: an optional plus sign, and digits of base 16, 8 or 2 behind `0x`, `0o` or `0b`, or decimal
digits without a leading zero. -/
def natural? (cs : List Char) : Option Nat :=
  let unsigned := if cs.head? = some '+' then cs.drop 1 else cs
  match unsigned with
  | '0' :: 'x' :: ds => ofBase? 16 ds
  | '0' :: 'o' :: ds => ofBase? 8 ds
  | '0' :: 'b' :: ds => ofBase? 2 ds
  | ds =>
    if Decimal.allDigits ds ∧ ¬ (1 < ds.length ∧ ds.head? = some '0') then some (Decimal.ofDigits ds) else none

def bool? (s : String) : Option Bool :=
  if s == "true" || s == "True" || s == "TRUE" then some true
  else if s == "false" || s == "False" || s == "FALSE" then some false
  else none

namespace Node

def text? : Node → Option String
  | .scalar _ text _ => some text
  | _ => none

def plain? : Node → Option String
  | .scalar _ text .plain => some text
  | _ => none

def isNothing (n : Node) : Bool := n.plain? == some ""

def optional? : Node → Option (Option Node)
  | .scalar (some tag) text .plain =>
    if tag == nullTag then (if isNullWord text then some none else none)
    else some (some (.scalar (some tag) text .plain))
  | .scalar none text .plain =>
    some (if text.isEmpty || isNullWord text then none else some (.scalar none text .plain))
  | n => some (some n)

def variant? : Node → Option String
  | .scalar (some tag) text style =>
    if style = .plain ∧ (text.isEmpty ∨ isNullWord text) then
      some (if tag.toList.head? = some '!' then String.ofList (tag.toList.drop 1) else tag)
    else none
  | .scalar none text _ => some text
  | _ => none

def slots? (names : List String) (n : Node) : Option (String → Slot Node) :=
  match n with
  | .mapping _ entries => do
    let named ← entries.mapM (fun e => (text? e.1).map (fun k => (k, e.2)))
    if names.any (fun name => 1 < (named.filter (fun e => e.1 == name)).length) then none
    else
      some (fun name => match named.lookup name with
        | some v => .given v
        | none => .omitted)
  | n => if n.isNothing then some (fun _ => .omitted) else none

end Node

def format : DocumentFormat Node where
  text? := Node.text?
  natural? n := n.plain?.bind (fun s => Yaml.natural? s.toList)
  bool? n := n.plain?.bind Yaml.bool?
  items? n := match n with
    | .sequence _ items => some items
    | n => if n.isNothing then some [] else none
  variant? := Node.variant?
  optional? := Node.optional?
  slots? := Node.slots?

end TargetHealth.Yaml
