import TargetHealth.Net.Wire

namespace TargetHealth.WebSocket

structure Frame where
  final : Bool := true
  /-- The three bits kept for extensions. -/
  reserved : Nat := 0
  opcode : Nat
  /-- The four bytes that the payload is combined with on the wire. -/
  mask : Option UInt32 := none
  payload : Bytes
deriving DecidableEq, Repr

namespace Frame

def continuation : Nat := 0
def text : Nat := 1
def binary : Nat := 2
def close : Nat := 8
def ping : Nat := 9
def pong : Nat := 10

def isKnown (opcode : Nat) : Bool := opcode ≤ binary || (close ≤ opcode && opcode ≤ pong)

def isControl (f : Frame) : Bool := close ≤ f.opcode

def maxPayload : Nat := 16 * Nat.pow 2 20

def bigEndian : Nat → Nat → Bytes
  | 0, _ => []
  | count + 1, n => UInt8.ofNat (n / Nat.pow 256 count) :: bigEndian count n

def ofBigEndian (bs : Bytes) : Nat := bs.foldl (fun n b => 256 * n + b.toNat) 0

def maskByte (mask : UInt32) (i : Nat) : UInt8 := UInt8.ofNat (mask.toNat / Nat.pow 256 (3 - i % 4))

def applyMask (mask : UInt32) (payload : Bytes) : Bytes := payload.mapIdx (fun i b => b ^^^ maskByte mask i)

/-- The number of bytes in which a length follows the head, and the seven bits in the head itself. -/
def lengthForm (length : Nat) : Nat × Nat :=
  if length < 126 then (0, length) else if length < 65536 then (2, 126) else (8, 127)

def flagBit (set : Bool) : Nat := if set then 128 else 0

def encode (f : Frame) : Bytes :=
  let (lengthBytes, bits) := lengthForm f.payload.length
  UInt8.ofNat (flagBit f.final + 16 * f.reserved + f.opcode) :: UInt8.ofNat (flagBit f.mask.isSome + bits) ::
    bigEndian lengthBytes f.payload.length ++
    match f.mask with
    | some mask => bigEndian 4 mask.toNat ++ applyMask mask f.payload
    | none => f.payload

def readLength (bits : Nat) (bs : Bytes) : Received Nat :=
  if bits < 126 then .complete bits bs else (Wire.take (if bits = 126 then 2 else 8) bs).map ofBigEndian

def readMask (masked : Bool) (bs : Bytes) : Received (Option UInt32) :=
  if masked then (Wire.take 4 bs).map (fun key => some (UInt32.ofNat (ofBigEndian key))) else .complete none bs

def unmask (mask : Option UInt32) (payload : Bytes) : Bytes :=
  match mask with
  | some mask => applyMask mask payload
  | none => payload

/-- The first frame in what has arrived. An unknown opcode and a payload that is too long are noticed as soon as the
head is there. -/
def read : Bytes → Received Frame
  | first :: second :: rest =>
    let opcode := first.toNat % 16
    (readLength (second.toNat % 128) rest).bind fun length rest =>
    (readMask (128 ≤ second.toNat) rest).bind fun mask rest =>
      if !isKnown opcode || maxPayload < length then .malformed
      else (Wire.take length rest).map fun payload =>
        ⟨128 ≤ first.toNat, first.toNat / 16 % 8, opcode, mask, unmask mask payload⟩
  | _ => .incomplete

theorem length_le_of_readLength {bits length : Nat} {bs rest : Bytes}
    (h : readLength bits bs = .complete length rest) : rest.length ≤ bs.length := by
  unfold readLength at h
  split at h
  · simp only [Received.complete.injEq] at h
    exact Nat.le_of_eq (congrArg List.length h.2.symm)
  · obtain ⟨_, h, _⟩ := Received.map_eq_complete h
    exact Wire.length_le_of_take h

theorem length_le_of_readMask {masked : Bool} {mask : Option UInt32} {bs rest : Bytes}
    (h : readMask masked bs = .complete mask rest) : rest.length ≤ bs.length := by
  unfold readMask at h
  split at h
  · obtain ⟨_, h, _⟩ := Received.map_eq_complete h
    exact Wire.length_le_of_take h
  · simp only [Received.complete.injEq] at h
    exact Nat.le_of_eq (congrArg List.length h.2.symm)

theorem length_lt_of_read {bs rest : Bytes} {f : Frame} (h : read bs = .complete f rest) :
    rest.length < bs.length := by
  match bs with
  | [] => simp [read] at h
  | [_] => simp [read] at h
  | first :: second :: tail =>
    obtain ⟨length, behindLength, hl, h⟩ := Received.bind_eq_complete h
    obtain ⟨mask, behindMask, hm, h⟩ := Received.bind_eq_complete h
    split at h
    · simp at h
    · obtain ⟨_, hp, _⟩ := Received.map_eq_complete h
      have := length_le_of_readLength hl
      have := length_le_of_readMask hm
      have := Wire.length_le_of_take hp
      simp only [List.length_cons]
      omega

def readAll (bs : Bytes) : List Frame :=
  match _h : read bs with
  | .complete f rest => f :: readAll rest
  | .incomplete => []
  | .malformed => []
termination_by bs.length
decreasing_by exact length_lt_of_read (by assumption)

end Frame

end TargetHealth.WebSocket
