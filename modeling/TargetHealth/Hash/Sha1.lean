import TargetHealth.Text.Utf8

namespace TargetHealth.Sha1

def rotateLeft (x : UInt32) (n : UInt32) : UInt32 := (x <<< n) ||| (x >>> (32 - n))

structure State where
  a : UInt32
  b : UInt32
  c : UInt32
  d : UInt32
  e : UInt32
deriving DecidableEq, Repr

def State.initial : State := ⟨0x67452301, 0xefcdab89, 0x98badcfe, 0x10325476, 0xc3d2e1f0⟩

def State.add (s t : State) : State := ⟨s.a + t.a, s.b + t.b, s.c + t.c, s.d + t.d, s.e + t.e⟩

def bytesOf : Nat → Nat → Bytes
  | 0, _ => []
  | count + 1, n => UInt8.ofNat (n / Nat.pow 256 count) :: bytesOf count n

def State.digest (s : State) : Bytes := [s.a, s.b, s.c, s.d, s.e].flatMap (fun w => bytesOf 4 w.toNat)

def pad (message : Bytes) : Bytes :=
  message ++ 0x80 :: List.replicate ((119 - message.length % 64) % 64) 0 ++ bytesOf 8 (8 * message.length)

def words : Bytes → List UInt32
  | a :: b :: c :: d :: rest =>
    (a.toUInt32 <<< 24 ||| b.toUInt32 <<< 16 ||| c.toUInt32 <<< 8 ||| d.toUInt32) :: words rest
  | _ => []

def extend : Nat → List UInt32 → List UInt32
  | 0, ws => ws
  | n + 1, ws => extend n (rotateLeft (ws.getD 2 0 ^^^ ws.getD 7 0 ^^^ ws.getD 13 0 ^^^ ws.getD 15 0) 1 :: ws)

def schedule (block : List UInt32) : List UInt32 := (extend 64 block.reverse).reverse

def mix (round : Nat) (s : State) : UInt32 :=
  if round < 20 then ((s.b &&& s.c) ||| (~~~s.b &&& s.d)) + 0x5a827999
  else if round < 40 then (s.b ^^^ s.c ^^^ s.d) + 0x6ed9eba1
  else if round < 60 then ((s.b &&& s.c) ||| (s.b &&& s.d) ||| (s.c &&& s.d)) + 0x8f1bbcdc
  else (s.b ^^^ s.c ^^^ s.d) + 0xca62c1d6

def step (s : State) (word : UInt32 × Nat) : State :=
  ⟨rotateLeft s.a 5 + mix word.2 s + s.e + word.1, s.a, rotateLeft s.b 30, s.c, s.d⟩

def compress (s : State) (block : List UInt32) : State := s.add ((schedule block).zipIdx.foldl step s)

def blocks : Nat → List UInt32 → List (List UInt32)
  | 0, _ => []
  | _, [] => []
  | n + 1, ws => ws.take 16 :: blocks n (ws.drop 16)

def hash (message : Bytes) : Bytes :=
  let ws := words (pad message)
  ((blocks ws.length ws).foldl compress .initial).digest

end TargetHealth.Sha1
