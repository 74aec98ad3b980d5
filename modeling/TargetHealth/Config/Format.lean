namespace TargetHealth

inductive Slot (ν : Type) where
  | given (value : ν)
  /-- The structure is written by name, and the field is not in it. -/
  | omitted
  /-- The structure is written as a list, which ends before the field. -/
  | cut
deriving Inhabited

/-- How a document format shows its values to whoever reads a configuration from it. Structures, lists, texts, numbers and
truth values are asked for by what is expected; a value that does not fit has no answer. -/
structure DocumentFormat (ν : Type) where
  text? : ν → Option String
  natural? : ν → Option Nat
  bool? : ν → Option Bool
  items? : ν → Option (List ν)
  variant? : ν → Option String
  /-- The value of something optional: it may be absent, and it may not be readable. -/
  optional? : ν → Option (Option ν)
  /-- The fields of a structure whose fields have these names, in this order. -/
  slots? : List String → ν → Option (String → Slot ν)

namespace Slot

variable {ν α : Type}

def required (s : Slot ν) (decode : ν → Option α) : Option α :=
  match s with
  | given v => decode v
  | omitted | cut => none

def orDefault (s : Slot ν) (default : α) (decode : ν → Option α) : Option α :=
  match s with
  | given v => decode v
  | omitted | cut => some default

end Slot

namespace DocumentFormat

variable {ν α : Type}

def word? (f : DocumentFormat ν) (bits : Nat) (v : ν) : Option Nat := do
  let n ← f.natural? v
  if n < Nat.pow 2 bits then some n else none

def optionally? (f : DocumentFormat ν) (decode : ν → Option α) (v : ν) : Option (Option α) := do
  match ← f.optional? v with
  | none => some none
  | some v => (decode v).map some

def orAbsent (f : DocumentFormat ν) (s : Slot ν) (decode : ν → Option α) : Option (Option α) :=
  s.orDefault none (f.optionally? decode)

end DocumentFormat

end TargetHealth
