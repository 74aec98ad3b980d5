namespace TargetHealth.Punycode

def digitChar (d : Nat) : Char := Char.ofNat (if d < 26 then 97 + d else 22 + d)

def digitValue? (c : Char) : Option Nat :=
  if 'a' ≤ c ∧ c ≤ 'z' then some (c.toNat - 97)
  else if 'A' ≤ c ∧ c ≤ 'Z' then some (c.toNat - 65)
  else if '0' ≤ c ∧ c ≤ '9' then some (c.toNat - 22)
  else none

def threshold (k bias : Nat) : Nat := if k ≤ bias then 1 else min 26 (k - bias)

theorem threshold_pos (k bias : Nat) : 1 ≤ threshold k bias := by
  unfold threshold
  split <;> omega

def adaptLoop (delta k : Nat) : Nat :=
  if h : 455 < delta then adaptLoop (delta / 35) (k + 36) else k + 36 * delta / (delta + 38)
termination_by delta
decreasing_by omega

def adapt (delta count : Nat) (first : Bool) : Nat :=
  let delta := if first then delta / 700 else delta / 2
  adaptLoop (delta + delta / count) 0

def writeDigits (bias k q : Nat) : List Char :=
  if h : q < threshold k bias then [digitChar q]
  else
    digitChar (threshold k bias + (q - threshold k bias) % (36 - threshold k bias)) ::
      writeDigits bias (k + 36) ((q - threshold k bias) / (36 - threshold k bias))
termination_by q
decreasing_by
  have h1 := threshold_pos k bias
  have h2 := Nat.div_le_self (q - threshold k bias) (36 - threshold k bias)
  omega

structure Progress where
  out : List Char
  delta : Nat
  bias : Nat
  written : Nat

def writeOccurrences (basics m : Nat) (label : List Char) (p : Progress) : Progress :=
  label.foldl (fun p c =>
    if c.toNat < m then { p with delta := p.delta + 1 }
    else if c.toNat = m then
      { out := p.out ++ writeDigits p.bias 36 p.delta
        delta := 0
        bias := adapt p.delta (p.written + 1) (p.written == basics)
        written := p.written + 1 }
    else p) p

def extended (label : List Char) : List Nat :=
  ((label.map Char.toNat).filter (0x80 ≤ ·)).eraseDups.mergeSort

def encode (label : List Char) : List Char :=
  let basic := label.filter (fun c => c.toNat < 0x80)
  let start : Progress := ⟨basic ++ (if basic.isEmpty then [] else ['-']), 0, 72, basic.length⟩
  let finish := (extended label).foldl (fun (state : Nat × Progress) m =>
    let p := { state.2 with delta := state.2.delta + (m - state.1) * (state.2.written + 1) }
    let p := writeOccurrences basic.length m label p
    (m + 1, { p with delta := p.delta + 1 })) (0x80, start)
  finish.2.out

def readDigits (bias k weight value : Nat) : List Char → Option (Nat × List Char)
  | [] => none
  | c :: rest => do
    let d ← digitValue? c
    let value := value + d * weight
    if Nat.pow 2 32 ≤ value then none
    else if d < threshold k bias then some (value, rest)
    else readDigits bias (k + 36) (weight * (36 - threshold k bias)) value rest

def insertAll : Nat → Nat → Nat → Nat → List Char → List Char → Option (List Char)
  | _, _, _, _, label, [] => some label
  | 0, _, _, _, _, _ => none
  | fuel + 1, n, i, bias, label, digits => do
    let (value, rest) ← readDigits bias 36 1 i digits
    let count := label.length + 1
    let n := n + value / count
    let at_ := value % count
    if 0x10ffff < n ∨ (0xd800 ≤ n ∧ n < 0xe000) then none
    else
      insertAll fuel n (at_ + 1) (adapt (value - i) count (label.all (fun c => c.toNat < 0x80)))
        (label.take at_ ++ Char.ofNat n :: label.drop at_) rest

def splitBasic (cs : List Char) : List Char × List Char :=
  if cs.contains '-' then
    let digits := (cs.reverse.takeWhile (· != '-')).reverse
    (cs.take (cs.length - digits.length - 1), digits)
  else ([], cs)

def decode? (cs : List Char) : Option (List Char) :=
  let (basic, digits) := splitBasic cs
  insertAll digits.length 0x80 0 72 basic digits

end TargetHealth.Punycode
