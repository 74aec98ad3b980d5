import TargetHealth.Text.Hex

namespace TargetHealth

structure Digest where
  bytes : List UInt8
  size : bytes.length = 32
deriving DecidableEq

namespace Digest

instance : Repr Digest := ⟨fun d n => reprPrec d.bytes n⟩

def text (d : Digest) : String := String.ofList (d.bytes.flatMap Hex.ofByte)

/-- A byte from two digits. The first may also be a plus sign. -/
def byte? (a b : Char) : Option UInt8 :=
  if a = '+' then (Hex.value? b).map UInt8.ofNat
  else do
    let high ← Hex.value? a
    let low ← Hex.value? b
    some (UInt8.ofNat (16 * high + low))

def pairs? : List Char → Option (List UInt8)
  | [] => some []
  | [_] => none
  | a :: b :: rest => do
    let byte ← byte? a b
    (pairs? rest).map (byte :: ·)

def ofDigits? (cs : List Char) : Option Digest := do
  let bytes ← pairs? cs
  if h : bytes.length = 32 then some ⟨bytes, h⟩ else none

def read? (s : String) : Option Digest := ofDigits? (s.toList.filter (· != ':'))

end Digest

end TargetHealth
