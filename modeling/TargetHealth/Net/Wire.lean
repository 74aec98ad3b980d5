import TargetHealth.Text.Utf8

namespace TargetHealth

/-- What the bytes that have arrived so far make of a message: it may be all there, with more bytes behind it, or need more
bytes, or be wrong whatever follows. -/
inductive Received (α : Type) where
  | incomplete
  | malformed
  | complete (value : α) (rest : Bytes)
deriving DecidableEq, Repr

namespace Received

def map {α β : Type} (f : α → β) : Received α → Received β
  | incomplete => incomplete
  | malformed => malformed
  | complete a rest => complete (f a) rest

def bind {α β : Type} (r : Received α) (f : α → Bytes → Received β) : Received β :=
  match r with
  | incomplete => incomplete
  | malformed => malformed
  | complete a rest => f a rest

theorem bind_eq_complete {α β : Type} {r : Received α} {f : α → Bytes → Received β} {b : β} {rest : Bytes}
    (h : r.bind f = complete b rest) : ∃ a mid, r = complete a mid ∧ f a mid = complete b rest := by
  cases r with
  | incomplete => simp [bind] at h
  | malformed => simp [bind] at h
  | complete a mid => exact ⟨a, mid, rfl, h⟩

theorem map_eq_complete {α β : Type} {r : Received α} {f : α → β} {b : β} {rest : Bytes}
    (h : r.map f = complete b rest) : ∃ a, r = complete a rest ∧ f a = b := by
  cases r with
  | incomplete => simp [map] at h
  | malformed => simp [map] at h
  | complete a mid =>
    simp only [map, complete.injEq] at h
    exact ⟨a, by rw [h.2], h.1⟩

end Received

namespace Wire

def tab : UInt8 := 9
def lineFeed : UInt8 := 10
def carriageReturn : UInt8 := 13
def space : UInt8 := 32
def semicolon : UInt8 := 59

def isDigit (b : UInt8) : Bool := 48 ≤ b && b ≤ 57

def isBlank (b : UInt8) : Bool := b == space || b == tab

def toLower (b : UInt8) : UInt8 := if 65 ≤ b && b ≤ 90 then b + 32 else b

def equalIgnoringCase (a b : Bytes) : Bool := a.map toLower == b.map toLower

def trimRight (bs : Bytes) : Bytes := (bs.reverse.dropWhile isBlank).reverse

def trim (bs : Bytes) : Bytes := trimRight (bs.dropWhile isBlank)

def octet (class_ : UInt8 → Bool) : Bytes → Received UInt8
  | [] => .incomplete
  | b :: rest => if class_ b then .complete b rest else .malformed

def take (count : Nat) (bs : Bytes) : Received Bytes :=
  let found := bs.take count
  if found.length < count then .incomplete else .complete found (bs.drop count)

theorem length_le_of_take {count : Nat} {bs found rest : Bytes} (h : take count bs = .complete found rest) :
    rest.length ≤ bs.length := by
  simp only [take] at h
  split at h
  · simp at h
  · simp only [Received.complete.injEq] at h
    rw [← h.2, List.length_drop]
    exact Nat.sub_le ..

def literal : Bytes → Bytes → Received Unit
  | [], bs => .complete () bs
  | expected :: more, bs => (octet (· == expected) bs).bind fun _ rest => literal more rest

def lineEnd : Bytes → Received Unit
  | [] => .incomplete
  | b :: rest =>
    if b = lineFeed then .complete () rest
    else if b = carriageReturn then (octet (· == lineFeed) rest).map (fun _ => ())
    else .malformed

def line (class_ : UInt8 → Bool) (bs : Bytes) : Received Bytes :=
  (lineEnd (bs.dropWhile class_)).map (fun _ => bs.takeWhile class_)

def skipLineEnds : Bytes → Received Unit
  | [] => .incomplete
  | [b] =>
    if b = lineFeed || b = carriageReturn then .incomplete else .complete () [b]
  | b :: c :: rest =>
    if b = lineFeed then skipLineEnds (c :: rest)
    else if b = carriageReturn then
      if c = lineFeed then skipLineEnds rest else .malformed
    else .complete () (b :: c :: rest)

def beginsWith : Bytes → Bytes → Bool
  | [], _ => true
  | _ :: _, [] => false
  | a :: as, b :: bs => a == b && beginsWith as bs

def occursIn (needle : Bytes) : Bytes → Bool
  | [] => needle.isEmpty
  | b :: bs => beginsWith needle (b :: bs) || occursIn needle bs

end Wire

end TargetHealth
