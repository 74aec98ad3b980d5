import TargetHealth.Text.Base64
import TargetHealth.Text.Blank
import TargetHealth.Text.Pieces

namespace TargetHealth.Tls

namespace Der

def sequenceTag : UInt8 := 0x30
def bitStringTag : UInt8 := 0x03

def ofBigEndian (bs : Bytes) : Nat := bs.foldl (fun n b => 256 * n + b.toNat) 0

/-- A length: below 128 one byte, else a byte that gives the number of bytes that follow, four at most. -/
def length? : Bytes → Option (Nat × Bytes)
  | [] => none
  | b :: rest =>
    if b.toNat < 128 then some (b.toNat, rest)
    else
      let count := b.toNat - 128
      if count = 0 || 4 < count || (rest.take count).length < count then none
      else some (ofBigEndian (rest.take count), rest.drop count)

def element? : Bytes → Option (UInt8 × Bytes × Bytes)
  | [] => none
  | tag :: rest =>
    (length? rest).bind fun (length, rest) =>
      if (rest.take length).length < length then none else some (tag, rest.take length, rest.drop length)

def expect? (tag : UInt8) (bs : Bytes) : Option (Bytes × Bytes) :=
  (element? bs).bind fun (found, content, rest) => if found = tag then some (content, rest) else none

end Der

/-- A certificate is written in base 64 between a line that begins it and one that ends it, and what stands in front of these
lines does not count. The bytes have to be a sequence of three elements: the content, the algorithm of the signature, and the
signature. -/
structure Certificate where
  bytes : Bytes
deriving DecidableEq, Repr

namespace Certificate

def ofBytes? (bs : Bytes) : Option Certificate := do
  let (content, _) ← Der.expect? Der.sequenceTag bs
  let (_, rest) ← Der.expect? Der.sequenceTag content
  let (_, rest) ← Der.expect? Der.sequenceTag rest
  let (_, rest) ← Der.expect? Der.bitStringTag rest
  if rest.isEmpty then some ⟨bs⟩ else none

def beginLine : List Char := "-----BEGIN CERTIFICATE-----".toList
def endLine : List Char := "-----END CERTIFICATE-----".toList

def lines (cs : List Char) : List (List Char) := (Text.pieces '\n' cs).map Text.trim

def digits? (cs : List Char) : Option (List Char) :=
  match (lines cs).dropWhile (· != beginLine) with
  | [] => none
  | _ :: inside =>
    if inside.contains endLine then some (inside.takeWhile (· != endLine)).flatten else none

def ofText? (bs : Bytes) : Option Certificate :=
  ((digits? (Utf8.decodeLossy bs)).bind Base64.decode?).bind ofBytes?

end Certificate

end TargetHealth.Tls
