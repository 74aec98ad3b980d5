import TargetHealth.Text.Hex
import TargetHealth.Text.Utf8

namespace TargetHealth.Percent

inductive Part where
  | opaquePath
  | fragment
  | path
  | userinfo
  | query
  /-- The query of a URL whose scheme has a host. -/
  | specialQuery
deriving DecidableEq, Repr

def Part.escapes : Part → List Char
  | .opaquePath => []
  | .fragment => " \"<>`".toList
  | .path => " \"<>`#?\x7b\x7d".toList
  | .userinfo => " \"<>`#?\x7b\x7d/:;=@[\\]^|".toList
  | .query => " \"#<>".toList
  | .specialQuery => " \"#<>'".toList

def isEscaped (part : Part) (c : Char) : Bool :=
  c.toNat < 0x20 || 0x7f ≤ c.toNat || part.escapes.contains c

def escapeByte (b : UInt8) : List Char :=
  ['%', Hex.upperDigit (b.toNat / 16), Hex.upperDigit (b.toNat % 16)]

def encode (part : Part) (cs : List Char) : List Char :=
  cs.flatMap (fun c => if isEscaped part c then (Utf8.encodeChar c).flatMap escapeByte else [c])

/-- The bytes that a text stands for. A `%` without two digits after it stands for itself. -/
def decode : List Char → Bytes
  | [] => []
  | '%' :: a :: b :: rest =>
    match Hex.value? a, Hex.value? b with
    | some h, some l => UInt8.ofNat (16 * h + l) :: decode rest
    | _, _ => 0x25 :: decode (a :: b :: rest)
  | c :: rest => Utf8.encodeChar c ++ decode rest

end TargetHealth.Percent
