namespace TargetHealth

abbrev Bytes := List UInt8

namespace Utf8

def encodeChar (c : Char) : Bytes :=
  let n := c.toNat
  if n < 0x80 then [UInt8.ofNat n]
  else if n < 0x800 then [UInt8.ofNat (0xc0 + n / 64), UInt8.ofNat (0x80 + n % 64)]
  else if n < 0x10000 then
    [UInt8.ofNat (0xe0 + n / 4096), UInt8.ofNat (0x80 + n / 64 % 64), UInt8.ofNat (0x80 + n % 64)]
  else
    [UInt8.ofNat (0xf0 + n / 262144), UInt8.ofNat (0x80 + n / 4096 % 64),
      UInt8.ofNat (0x80 + n / 64 % 64), UInt8.ofNat (0x80 + n % 64)]

def encode (cs : List Char) : Bytes := cs.flatMap encodeChar

def ofString (s : String) : Bytes := encode s.toList

/-- The number of bytes that follow a lead byte, and the range of the first of them. -/
def follow? (lead : Nat) : Option (Nat × Nat × Nat) :=
  if lead < 0x80 then some (0, 0, 0)
  else if lead < 0xc2 then none
  else if lead < 0xe0 then some (1, 0x80, 0xbf)
  else if lead = 0xe0 then some (2, 0xa0, 0xbf)
  else if lead = 0xed then some (2, 0x80, 0x9f)
  else if lead < 0xf0 then some (2, 0x80, 0xbf)
  else if lead = 0xf0 then some (3, 0x90, 0xbf)
  else if lead < 0xf4 then some (3, 0x80, 0xbf)
  else if lead = 0xf4 then some (3, 0x80, 0x8f)
  else none

/-- Add up to `count` continuation bytes to the code point read so far; the first of them must lie in the
given range. The answer is the code point, unless a byte is missing, and what is left. -/
def continue? : Nat → Nat → Nat → Nat → Bytes → Option Nat × Bytes
  | 0, _, _, value, rest => (some value, rest)
  | _ + 1, _, _, _, [] => (none, [])
  | count + 1, low, high, value, b :: rest =>
    if low ≤ b.toNat ∧ b.toNat ≤ high then
      continue? count 0x80 0xbf (value * 64 + b.toNat % 64) rest
    else (none, b :: rest)

def leadBits (count lead : Nat) : Nat :=
  match count with
  | 0 => lead
  | 1 => lead % 32
  | 2 => lead % 16
  | _ => lead % 8

/-- The first character of a non-empty byte string, or the length of its broken start, and what is left. -/
def step (b : UInt8) (rest : Bytes) : Option Char × Bytes :=
  match follow? b.toNat with
  | none => (none, rest)
  | some (count, low, high) =>
    let (value, rest) := continue? count low high (leadBits count b.toNat) rest
    (value.map Char.ofNat, rest)

theorem length_continue?_le (count low high value : Nat) (bs : Bytes) :
    (continue? count low high value bs).2.length ≤ bs.length := by
  induction bs generalizing count low high value with
  | nil => cases count <;> simp [continue?]
  | cons b rest ih =>
    cases count with
    | zero => simp [continue?]
    | succ n =>
      simp only [continue?]
      split
      · exact Nat.le_succ_of_le (ih ..)
      · simp

theorem length_step_le (b : UInt8) (rest : Bytes) : (step b rest).2.length ≤ rest.length := by
  unfold step
  split
  · simp
  · exact length_continue?_le ..

def decode? (bs : Bytes) : Option (List Char) :=
  match bs with
  | [] => some []
  | b :: rest =>
    match _h : step b rest with
    | (some c, left) => (decode? left).map (c :: ·)
    | (none, _) => none
termination_by bs.length
decreasing_by
  have hle : left.length ≤ rest.length := by
    have := length_step_le b rest
    rwa [_h] at this
  simp only [List.length_cons]
  omega

def decodeLossy (bs : Bytes) : List Char :=
  match bs with
  | [] => []
  | b :: rest =>
    match _h : step b rest with
    | (c, left) => c.getD '\ufffd' :: decodeLossy left
termination_by bs.length
decreasing_by
  have hle : left.length ≤ rest.length := by
    have := length_step_le b rest
    rwa [_h] at this
  simp only [List.length_cons]
  omega

inductive Form where
  | whole
  /-- It ends within a character. -/
  | cut
  | broken
deriving DecidableEq, Repr

def form (bs : Bytes) : Form :=
  match bs with
  | [] => .whole
  | b :: rest =>
    match _h : step b rest with
    | (some _, left) => form left
    | (none, left) => if left.isEmpty && (follow? b.toNat).isSome then .cut else .broken
termination_by bs.length
decreasing_by
  have hle : left.length ≤ rest.length := by
    have := length_step_le b rest
    rwa [_h] at this
  simp only [List.length_cons]
  omega

def toString? (bs : Bytes) : Option String := (decode? bs).map String.ofList

end Utf8

end TargetHealth
