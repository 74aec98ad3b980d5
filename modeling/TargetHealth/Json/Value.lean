import TargetHealth.Time.Duration

namespace TargetHealth

/-- JSON values. Members of an object keep their order and may repeat. -/
inductive Json where
  | null
  | bool (b : Bool)
  /-- A number without fraction and exponent. Its sign is kept apart, since `-0` is not a natural number. -/
  | integer (negative : Bool) (magnitude : Nat)
  | real (x : Float)
  | string (s : String)
  /-- A string with half of a surrogate pair escaped in it, which denotes no text. -/
  | unpaired
  | array (items : List Json)
  | object (members : List (String × Json))
deriving Inhabited

namespace Json

def ofNat (n : Nat) : Json := .integer false n

def ofOption {α : Type} (f : α → Json) : Option α → Json
  | none => .null
  | some a => f a

def ofDuration (d : Duration) : Json :=
  .object [("secs", ofNat d.seconds), ("nanos", ofNat d.subsecNanos)]

end Json

end TargetHealth
