import TargetHealth.Net.Wire

namespace TargetHealth.Http

structure Header where
  name : Bytes
  /-- Without the blanks around it. -/
  value : Bytes
deriving DecidableEq, Repr

structure Head where
  /-- The digit behind `HTTP/1.`: 0 or 1. -/
  minorVersion : Nat
  status : Nat
  headers : List Header
deriving DecidableEq, Repr

def isTokenByte (b : UInt8) : Bool :=
  Wire.isDigit b || (65 ≤ b && b ≤ 90) || (94 ≤ b && b ≤ 122) || (35 ≤ b && b ≤ 39) || b == 33 || b == 42 || b == 43 ||
    b == 45 || b == 46 || b == 124 || b == 126

def isTextByte (b : UInt8) : Bool := b == Wire.tab || (32 ≤ b && b != 127)

def colon : UInt8 := 58

namespace Header

def named (name : String) (h : Header) : Bool := Wire.equalIgnoringCase h.name (Utf8.ofString name)

def text? (h : Header) : Option Bytes :=
  if h.value.all (fun b => b == Wire.tab || (32 ≤ b && b < 127)) then some h.value else none

def read (bs : Bytes) : Received Header :=
  let name := bs.takeWhile isTokenByte
  match bs.dropWhile isTokenByte with
  | [] => .incomplete
  | b :: rest =>
    if b = colon ∧ !name.isEmpty then
      (Wire.line isTextByte (rest.dropWhile Wire.isBlank)).map (fun value => ⟨name, Wire.trimRight value⟩)
    else .malformed

def readAll : Nat → Bytes → Received (List Header)
  | _, [] => .incomplete
  | limit, b :: rest =>
    if b = Wire.lineFeed || b = Wire.carriageReturn then (Wire.lineEnd (b :: rest)).map (fun _ => [])
    else
      match limit with
      | 0 => .malformed
      | limit + 1 => (read (b :: rest)).bind fun header rest => (readAll limit rest).map (header :: ·)

end Header

namespace Head

def digitValue (b : UInt8) : Nat := b.toNat - 48

def isMinorVersion (b : UInt8) : Bool := b == 48 || b == 49

def readStatus (bs : Bytes) : Received Nat :=
  (Wire.octet Wire.isDigit bs).bind fun hundreds rest =>
  (Wire.octet Wire.isDigit rest).bind fun tens rest =>
  (Wire.octet Wire.isDigit rest).map fun ones =>
    100 * digitValue hundreds + 10 * digitValue tens + digitValue ones

def skipReason : Bytes → Received Unit
  | [] => .incomplete
  | b :: rest =>
    if b = Wire.space then (Wire.line isTextByte rest).map (fun _ => ()) else Wire.lineEnd (b :: rest)

def read (maxHeaders : Nat) (bs : Bytes) : Received Head :=
  (Wire.skipLineEnds bs).bind fun _ rest =>
  (Wire.literal (Utf8.ofString "HTTP/1.") rest).bind fun _ rest =>
  (Wire.octet isMinorVersion rest).bind fun minor rest =>
  (Wire.octet (· == Wire.space) rest).bind fun _ rest =>
  (readStatus rest).bind fun status rest =>
  (skipReason rest).bind fun _ rest =>
  (Header.readAll maxHeaders rest).bind fun headers rest =>
    if status < 100 then .malformed else .complete ⟨digitValue minor, status, headers⟩ rest

def all (h : Head) (name : String) : List Header := h.headers.filter (Header.named name)

def first? (h : Head) (name : String) : Option Bytes := (h.headers.find? (Header.named name)).bind Header.text?

end Head

end TargetHealth.Http
