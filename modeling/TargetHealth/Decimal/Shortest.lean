namespace TargetHealth.Decimal

structure Scientific where
  digits : Nat
  exponent : Int
deriving DecidableEq, Repr, Inhabited

/-- A positive rational and the half-widths of the interval that rounds to it, over one denominator. -/
structure Interval where
  value : Nat
  below : Nat
  above : Nat
  denominator : Nat
  closed : Bool
deriving Repr, Inhabited

/-- The interval of the finite positive double with these bits. Its lower half is narrower at a power of two. -/
def Interval.ofBits (bits : Nat) : Interval :=
  let field := bits / Nat.pow 2 52 % Nat.pow 2 11
  let fraction := bits % Nat.pow 2 52
  let mantissa := if field = 0 then fraction else fraction + Nat.pow 2 52
  let power : Int := (max field 1 : Nat) - 1075
  let narrow := fraction == 0 && decide (1 < field)
  let up := Nat.pow 2 power.toNat
  let down := Nat.pow 2 (-power).toNat
  ⟨4 * mantissa * up, if narrow then up else 2 * up, 2 * up, 4 * down, mantissa % 2 == 0⟩

def Interval.holds (i : Interval) (numerator scale : Nat) : Bool :=
  let p := numerator * i.denominator
  let low := (i.value - i.below) * scale
  let high := (i.value + i.above) * scale
  if i.closed then low ≤ p && p ≤ high else low < p && p < high

/-- The largest `p` with `10 ^ p ≤ value`, found by search from a bound on the size. -/
def Interval.magnitude (i : Interval) : Int :=
  let rec search : Nat → Int → Int
    | 0, p => p
    | fuel + 1, p =>
      if i.denominator * Nat.pow 10 p.toNat ≤ i.value * Nat.pow 10 (-p).toNat then p else search fuel (p - 1)
  search 700 320

/-- The point of the grid of `count` digits that reads back and is nearest, if the grid has one. -/
def Interval.onGrid (i : Interval) (top : Int) (count : Nat) : Option Scientific :=
  let k : Int := top - (count : Int) + 1
  let up := Nat.pow 10 k.toNat
  let down := Nat.pow 10 (-k).toNat
  let floor := i.value * down / (i.denominator * up)
  let lowHit := i.holds (floor * up) down
  let highHit := i.holds ((floor + 1) * up) down
  let twiceRest := 2 * (i.value * down - floor * up * i.denominator)
  if lowHit && (!highHit || decide (twiceRest ≤ up * i.denominator)) then some ⟨floor, k⟩
  else if highHit then some ⟨floor + 1, k⟩
  else none

/-- The shortest decimal of a finite positive double: the nearest point, on the coarsest decimal grid that meets the interval
of the reals that round to it. Seventeen digits always suffice. -/
def shortest (bits : Nat) : Scientific :=
  let i := Interval.ofBits bits
  let top := i.magnitude
  (((List.range 17).map (· + 1)).findSome? (i.onGrid top)).getD ⟨0, 0⟩

def Scientific.positional (s : Scientific) : String :=
  let digits := (toString s.digits).toList.reverse.dropWhile (· == '0') |>.reverse
  let dropped := (toString s.digits).length - digits.length
  let exponent := s.exponent + dropped
  if 0 ≤ exponent then String.ofList (digits ++ List.replicate exponent.toNat '0')
  else
    let places := exponent.natAbs
    if digits.length ≤ places then
      "0." ++ String.ofList (List.replicate (places - digits.length) '0' ++ digits)
    else
      String.ofList (digits.take (digits.length - places)) ++ "." ++
        String.ofList (digits.drop (digits.length - places))

def text (x : Float) : String :=
  let bits := x.toBits.toNat
  let sign := if bits / Nat.pow 2 63 = 1 then "-" else ""
  let body := bits % Nat.pow 2 63
  if body = 0 then sign ++ "0"
  else if body / Nat.pow 2 52 = 2047 then
    if body % Nat.pow 2 52 = 0 then sign ++ "inf" else "NaN"
  else sign ++ (shortest body).positional

end TargetHealth.Decimal
