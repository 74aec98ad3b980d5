import TargetHealth.Decimal.Reading
import TargetHealth.Text.Hex
import TargetHealth.Text.Pieces

namespace TargetHealth

/-- The four bytes of a version 4 address, as one number. -/
structure Ipv4 where
  value : Nat
deriving DecidableEq, Repr, Inhabited

/-- The eight 16-bit groups of a version 6 address. -/
structure Ipv6 where
  groups : List Nat
deriving DecidableEq, Repr, Inhabited

namespace Ipv4

def octet (a : Ipv4) (i : Nat) : Nat := a.value / Nat.pow 256 (3 - i) % 256

def ofOctets (octets : List Nat) : Ipv4 := ⟨octets.foldl (fun n o => 256 * n + o) 0⟩

def text (a : Ipv4) : String :=
  ".".intercalate ((List.range 4).map (fun i => toString (a.octet i)))

def octet? (cs : List Char) : Option Nat :=
  if Decimal.allDigits cs ∧ cs.length ≤ 3 ∧ ¬ (cs.length > 1 ∧ cs.head? = some '0') ∧
      Decimal.ofDigits cs ≤ 255 then
    some (Decimal.ofDigits cs)
  else none

def read? (cs : List Char) : Option Ipv4 := do
  let octets ← (Text.pieces '.' cs).mapM octet?
  if octets.length = 4 then some (ofOctets octets) else none

end Ipv4

namespace Ipv6

def group? (cs : List Char) : Option Nat :=
  if cs.isEmpty ∨ 4 < cs.length then none
  else (cs.mapM Hex.value?).map (·.foldl (fun n d => 16 * n + d) 0)

/-- Groups separated by colons; the last may be a version 4 address, which fills two groups. -/
def groupsOf? (mayEndInV4 : Bool) (cs : List Char) : Option (List Nat) :=
  if cs.isEmpty then some []
  else
    let parts := Text.pieces ':' cs
    let last := parts.getLastD []
    if mayEndInV4 && last.contains '.' then do
      let v4 ← Ipv4.read? last
      let groups ← parts.dropLast.mapM group?
      some (groups ++ [v4.value / 65536, v4.value % 65536])
    else parts.mapM group?

def cutAtGap : List Char → List Char × Option (List Char)
  | ':' :: ':' :: rest => ([], some rest)
  | c :: rest =>
    let (before, after) := cutAtGap rest
    (c :: before, after)
  | [] => ([], none)

def read? (cs : List Char) : Option Ipv6 := do
  match cutAtGap cs with
  | (all, none) =>
    let groups ← groupsOf? true all
    if groups.length = 8 then some ⟨groups⟩ else none
  | (before, some after) =>
    let head ← groupsOf? false before
    let tail ← groupsOf? true after
    if head.length + tail.length ≤ 7 then
      some ⟨head ++ List.replicate (8 - head.length - tail.length) 0 ++ tail⟩
    else none

def zeroRun (groups : List Nat) : Nat := (groups.takeWhile (· == 0)).length

/-- Start and length of the longest run of zero groups, the first of those that are as long. -/
def longestZeroRun (groups : List Nat) : Nat × Nat :=
  (List.range groups.length).foldl
    (fun best i => if best.2 < zeroRun (groups.drop i) then (i, zeroRun (groups.drop i)) else best) (0, 0)

def hexGroup (n : Nat) : String := String.ofList (Nat.toDigits 16 n)

def joinGroups (groups : List Nat) : String := ":".intercalate (groups.map hexGroup)

def hexText (a : Ipv6) : String :=
  let (start, length) := longestZeroRun a.groups
  if length < 2 then joinGroups a.groups
  else joinGroups (a.groups.take start) ++ "::" ++ joinGroups (a.groups.drop (start + length))

def mapped? (a : Ipv6) : Option Ipv4 :=
  match a.groups with
  | [0, 0, 0, 0, 0, 0xffff, high, low] => some ⟨high * 65536 + low⟩
  | _ => none

def text (a : Ipv6) : String :=
  match a.mapped? with
  | some v4 => "::ffff:" ++ v4.text
  | none => a.hexText

end Ipv6

inductive IpAddress where
  | v4 (address : Ipv4)
  | v6 (address : Ipv6)
deriving DecidableEq, Repr, Inhabited

namespace IpAddress

def read? (s : String) : Option IpAddress :=
  ((Ipv4.read? s.toList).map v4).or ((Ipv6.read? s.toList).map v6)

end IpAddress

structure Endpoint where
  ip : IpAddress
  port : Nat
deriving DecidableEq, Repr, Inhabited

def Endpoint.text (e : Endpoint) : String :=
  match e.ip with
  | .v4 a => a.text ++ ":" ++ toString e.port
  | .v6 a => "[" ++ a.text ++ "]:" ++ toString e.port

end TargetHealth
