import TargetHealth.Net.Ip
import TargetHealth.Url.Domain
import TargetHealth.Url.Percent

namespace TargetHealth

/-- The host of a URL: a name, or an address literal. A name that ends in a number is read as a version 4 address, whose
parts may be decimal, octal (`0`) or hexadecimal (`0x`) and may be fewer than four: the last part then fills the remaining
bytes. -/
inductive Host where
  | domain (name : String)
  | ipv4 (address : Ipv4)
  | ipv6 (address : Ipv6)
deriving DecidableEq, Repr, Inhabited

namespace Host

def text : Host → String
  | domain name => name
  | ipv4 address => address.text
  | ipv6 address => address.hexText

def urlText : Host → String
  | ipv6 address => "[" ++ address.hexText ++ "]"
  | h => h.text

def isOctal (c : Char) : Bool := '0' ≤ c && c ≤ '7'

/-- A part of a version 4 address. The mark `0x` with nothing behind it is zero. -/
def number? (cs : List Char) : Option Nat :=
  let ofBase (base : Nat) (digits : List Char) : Option Nat :=
    (digits.mapM Hex.value?).map (·.foldl (fun n d => base * n + d) 0)
  match cs with
  | [] => none
  | '0' :: 'x' :: ds => ofBase 16 ds
  | '0' :: 'X' :: ds => ofBase 16 ds
  | '0' :: d :: ds => if (d :: ds).all isOctal then ofBase 8 (d :: ds) else none
  | ds => if ds.all (·.isDigit) then ofBase 10 ds else none

def parts (cs : List Char) : List (List Char) :=
  let ps := Text.pieces '.' cs
  if ps.length > 1 && ps.getLast? == some [] then ps.dropLast else ps

def endsInNumber (cs : List Char) : Bool :=
  match (parts cs).getLast? with
  | none => false
  | some last => Decimal.allDigits last || (number? last).isSome

def ipv4? (cs : List Char) : Option Ipv4 := do
  let numbers ← (parts cs).mapM number?
  let leading := numbers.dropLast
  let last := numbers.getLastD 0
  if 4 < numbers.length ∨ leading.any (255 < ·) ∨ Nat.pow 256 (4 - leading.length) ≤ last then none
  else
    some ⟨leading.foldl (fun n o => 256 * n + o) 0 * Nat.pow 256 (4 - leading.length) + last⟩

def bracketed? (cs : List Char) : Option Host :=
  if cs.getLast? = some ']' then (Ipv6.read? (cs.drop 1).dropLast).map ipv6 else none

def read? (cs : List Char) : Option Host :=
  if cs.head? = some '[' then bracketed? cs
  else do
    let plain ← Utf8.decode? (Percent.decode cs)
    let name ← Domain.toAscii? plain
    if name.isEmpty then none
    else if endsInNumber name then (ipv4? name).map ipv4
    else some (domain (String.ofList name))

def isDeniedOpaque (c : Char) : Bool := c == '\x00' || " #/:<>?@[\\]^|\t\n\r".toList.contains c

def readOpaque? (cs : List Char) : Option Host :=
  if cs.head? = some '[' then bracketed? cs
  else if cs.any isDeniedOpaque then none
  else some (domain (String.ofList (Percent.encode .opaquePath cs)))

end Host

end TargetHealth
