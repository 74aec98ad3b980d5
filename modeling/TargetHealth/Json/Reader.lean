import TargetHealth.Json.Value
import TargetHealth.Decimal.Reading
import TargetHealth.Text.Hex

namespace TargetHealth.Json

def isBlank (c : Char) : Bool := c == ' ' || c == '\n' || c == '\t' || c == '\r'

def skipBlanks (cs : List Char) : List Char := cs.dropWhile isBlank

def hexUnit? (a b c d : Char) : Option Nat := do
  some ((((← Hex.value? a) * 16 + (← Hex.value? b)) * 16 + (← Hex.value? c)) * 16 + (← Hex.value? d))

def escape? : Char → Option Nat
  | '"' => some 0x22
  | '\\' => some 0x5c
  | '/' => some 0x2f
  | 'b' => some 0x08
  | 'f' => some 0x0c
  | 'n' => some 0x0a
  | 'r' => some 0x0d
  | 't' => some 0x09
  | _ => none

/-- The code points of a string whose opening quote has been read, and what follows its closing quote.
Escaped surrogates are kept as they stand. -/
def readUnits : List Char → Option (List Nat × List Char)
  | [] => none
  | '"' :: rest => some ([], rest)
  | '\\' :: 'u' :: a :: b :: c :: d :: rest => do
    let unit ← hexUnit? a b c d
    let (units, rest) ← readUnits rest
    some (unit :: units, rest)
  | '\\' :: c :: rest => do
    let unit ← escape? c
    let (units, rest) ← readUnits rest
    some (unit :: units, rest)
  | c :: rest =>
    if c.toNat < 0x20 || c == '\\' then none
    else do
      let (units, rest) ← readUnits rest
      some (c.toNat :: units, rest)

def isHighSurrogate (u : Nat) : Bool := 0xd800 ≤ u && u < 0xdc00

def isLowSurrogate (u : Nat) : Bool := 0xdc00 ≤ u && u < 0xe000

def joinPairs? : List Nat → Option (List Char)
  | [] => some []
  | u :: rest =>
    if isHighSurrogate u then
      match rest with
      | v :: rest =>
        if isLowSurrogate v then
          (joinPairs? rest).map (Char.ofNat (0x10000 + (u - 0xd800) * 0x400 + (v - 0xdc00)) :: ·)
        else none
      | [] => none
    else if isLowSurrogate u then none
    else (joinPairs? rest).map (Char.ofNat u :: ·)

def ofUnits (units : List Nat) : Json :=
  match joinPairs? units with
  | some cs => .string (String.ofList cs)
  | none => .unpaired

def readNumber (cs : List Char) : Option (Json × List Char) :=
  let negative := cs.head? == some '-'
  let cs := if negative then cs.drop 1 else cs
  let whole := cs.takeWhile (·.isDigit)
  let rest := cs.dropWhile (·.isDigit)
  if whole.isEmpty || (whole.head? == some '0' && whole.length != 1) then none
  else
    let (point, fraction, rest) : Bool × List Char × List Char := match rest with
      | '.' :: r => (true, r.takeWhile (·.isDigit), r.dropWhile (·.isDigit))
      | r => (false, [], r)
    let (mark, minus, exponent, rest) : Bool × Bool × List Char × List Char := match rest with
      | c :: r =>
        if c == 'e' || c == 'E' then
          let minus := r.head? == some '-'
          let r := if minus || r.head? == some '+' then r.drop 1 else r
          (true, minus, r.takeWhile (·.isDigit), r.dropWhile (·.isDigit))
        else (false, false, [], c :: r)
      | [] => (false, false, [], [])
    if (point && fraction.isEmpty) || (mark && exponent.isEmpty) then none
    else if point || mark then
      let e : Int := if minus then -(Decimal.ofDigits exponent : Int) else Decimal.ofDigits exponent
      let x := Decimal.toFloat (Decimal.ofDigits (whole ++ fraction)) (e - fraction.length)
      some (.real (if negative then -x else x), rest)
    else some (.integer negative (Decimal.ofDigits whole), rest)

def readLiteral (word : String) (value : Json) (cs : List Char) : Option (Json × List Char) :=
  if word.toList.isPrefixOf cs then some (value, cs.drop word.length) else none

mutual

/-- A value and the text after it. Each level of nesting and each item takes one unit of fuel. -/
def readValue : Nat → List Char → Option (Json × List Char)
  | 0, _ => none
  | fuel + 1, cs =>
    match skipBlanks cs with
    | [] => none
    | '"' :: rest => do
      let (units, rest) ← readUnits rest
      some (ofUnits units, rest)
    | '[' :: rest =>
      match skipBlanks rest with
      | ']' :: rest => some (.array [], rest)
      | rest => do
        let (items, rest) ← readItems fuel rest
        some (.array items, rest)
    | '\x7b' :: rest =>
      match skipBlanks rest with
      | '\x7d' :: rest => some (.object [], rest)
      | rest => do
        let (members, rest) ← readMembers fuel rest
        some (.object members, rest)
    | 'n' :: rest => readLiteral "null" .null ('n' :: rest)
    | 't' :: rest => readLiteral "true" (.bool true) ('t' :: rest)
    | 'f' :: rest => readLiteral "false" (.bool false) ('f' :: rest)
    | rest => readNumber rest

def readItems : Nat → List Char → Option (List Json × List Char)
  | 0, _ => none
  | fuel + 1, cs => do
    let (item, rest) ← readValue fuel cs
    match skipBlanks rest with
    | ',' :: rest =>
      let (items, rest) ← readItems fuel rest
      some (item :: items, rest)
    | ']' :: rest => some ([item], rest)
    | _ => none

def readMembers : Nat → List Char → Option (List (String × Json) × List Char)
  | 0, _ => none
  | fuel + 1, cs =>
    match skipBlanks cs with
    | '"' :: rest => do
      let (units, rest) ← readUnits rest
      let name ← joinPairs? units
      match skipBlanks rest with
      | ':' :: rest =>
        let (value, rest) ← readValue fuel rest
        match skipBlanks rest with
        | ',' :: rest =>
          let (members, rest) ← readMembers fuel rest
          some ((String.ofList name, value) :: members, rest)
        | '\x7d' :: rest => some ([(String.ofList name, value)], rest)
        | _ => none
      | _ => none
    | _ => none

end

def read? (text : String) : Option Json :=
  let cs := text.toList
  match readValue (2 * cs.length + 2) cs with
  | some (value, rest) => if (skipBlanks rest).isEmpty then some value else none
  | none => none

end TargetHealth.Json
