import TargetHealth.Config.Settings
import TargetHealth.Decimal.Reading
import TargetHealth.Text.Lowercase
import TargetHealth.Text.Pieces

namespace TargetHealth.Environment

inductive Value where
  | bool (b : Bool)
  | integer (n : Int)
  | real (x : Float)
  | text (s : String)
deriving Inhabited

def lower (s : String) : String := String.ofList (Text.lowerAll s.toList)

def readValue (s : String) : Value :=
  let cs := s.toList
  if lower s = "true" then .bool true
  else if lower s = "false" then .bool false
  else
    match Decimal.int? cs with
    | some n => if -(Nat.pow 2 63 : Int) ≤ n ∧ n < Nat.pow 2 63 then .integer n else .real ((Decimal.float? cs).getD 0.0)
    | none =>
      match Decimal.float? cs with
      | some x => .real x
      | none => .text s

/-- A floating-point number is rounded, halves away from zero, and moved into the range of 64 bits; what is not a
number is zero. -/
def roundToWord (x : Float) : Nat := x.round.toUInt64.toNat

def Value.word? : Value → Option Nat
  | .bool b => some (if b then 1 else 0)
  | .integer n => if 0 ≤ n then some n.toNat else none
  | .real x => some (roundToWord x)
  | .text s =>
    let word := lower s
    if word = "true" ∨ word = "on" ∨ word = "yes" then some 1
    else if word = "false" ∨ word = "off" ∨ word = "no" then some 0
    else none

def isNameChar (c : Char) : Bool := c.isAlphanum || 0x80 ≤ c.toNat || c == '_' || c == '-'

def dotted : List Char → List Char
  | '_' :: '_' :: rest => '.' :: dotted rest
  | c :: rest => c :: dotted rest
  | [] => []

/-- The names along the path of a variable; none if it is not meant for this program. -/
def path? (name : String) : Option (List String) :=
  let cs := (lower name).toList
  let lead := "netmon__".toList
  if lead.isPrefixOf cs then
    let names := Text.pieces '.' (dotted (cs.drop lead.length))
    if names.all (fun n => !n.isEmpty && n.all isNameChar) then some (names.map String.ofList) else none
  else none

def ofSettings (environment : List (String × String)) : List (List String × Value) :=
  environment.filterMap fun (name, value) =>
    match path? name with
    | some ("settings" :: rest) => some (rest, readValue value)
    | _ => none

/-- Of a field narrower than 64 bits only the low bits are kept. -/
def fieldValue? (f : SettingsField) (v : Value) : Option Nat := v.word?.map (· % Nat.pow 2 f.bits)

/-- The overrides that variables stand for. Fields with unknown names are ignored; a known field needs a number, and
the settings as a whole, or something below a field, cannot be set. Of variables with the same path the last counts. -/
def overrides? (environment : List (String × String)) : Option SettingsOverrides := do
  let entries := ofSettings environment
  let isField (name : String) := SettingsField.all.any (fun f => f.name == name)
  if entries.any (fun e => e.1.isEmpty || (1 < e.1.length && isField (e.1.headD ""))) then none
  else
    let value (f : SettingsField) : Option (Option Nat) :=
      match entries.reverse.find? (fun e => e.1 == [f.name]) with
      | some e => (fieldValue? f e.2).map some
      | none => some none
    if SettingsField.all.all (fun f => (value f).isSome) then some (fun f => (value f).join) else none

end TargetHealth.Environment
