namespace TargetHealth.Decimal

def digitValue (c : Char) : Nat := c.toNat - '0'.toNat

def ofDigits (ds : List Char) : Nat := ds.foldl (fun n c => 10 * n + digitValue c) 0

def allDigits (ds : List Char) : Bool := !ds.isEmpty && ds.all (·.isDigit)

def nat? : List Char → Option Nat
  | '+' :: ds => if allDigits ds then some (ofDigits ds) else none
  | ds => if allDigits ds then some (ofDigits ds) else none

def int? : List Char → Option Int
  | '-' :: ds => if allDigits ds then some (-(ofDigits ds : Int)) else none
  | cs => (nat? cs).map (fun n => (n : Int))

/-- The double nearest to `digits` times ten to the power `exponent`. Numbers far outside the range of
doubles are cut off before any large power is computed. -/
def toFloat (digits : Nat) (exponent : Int) : Float :=
  let size : Int := (toString digits).length
  if digits = 0 then 0.0
  else if 320 < size + exponent then 1.0 / 0.0
  else if size + exponent < -340 then 0.0
  else Float.ofScientific digits (exponent < 0) exponent.natAbs

def exponent? : List Char → Option Int
  | '-' :: ds => if allDigits ds then some (-(ofDigits ds : Int)) else none
  | '+' :: ds => if allDigits ds then some (ofDigits ds : Int) else none
  | ds => if allDigits ds then some (ofDigits ds : Int) else none

/-- An unsigned number: digits, a point with digits on at least one side of it, and an exponent. -/
def unsignedFloat? (cs : List Char) : Option Float :=
  let whole := cs.takeWhile (·.isDigit)
  let rest := cs.dropWhile (·.isDigit)
  let (fraction, rest) : List Char × List Char := match rest with
    | '.' :: r => (r.takeWhile (·.isDigit), r.dropWhile (·.isDigit))
    | r => ([], r)
  if whole.isEmpty && fraction.isEmpty then none
  else
    let digits := ofDigits (whole ++ fraction)
    let shift : Int := -(fraction.length : Int)
    match rest with
    | [] => some (toFloat digits shift)
    | c :: r =>
      if c == 'e' || c == 'E' then (exponent? r).map (fun e => toFloat digits (e + shift)) else none

def lower (cs : List Char) : List Char := cs.map Char.toLower

def namedFloat? (cs : List Char) : Option Float :=
  if lower cs = "inf".toList ∨ lower cs = "infinity".toList then some (1.0 / 0.0)
  else if lower cs = "nan".toList then some (0.0 / 0.0)
  else none

def unsignedOrNamed? (cs : List Char) : Option Float := (namedFloat? cs).or (unsignedFloat? cs)

/-- A floating-point number with an optional sign; `inf`, `infinity` and `nan` in any case are read too. -/
def float? : List Char → Option Float
  | '-' :: cs => (unsignedOrNamed? cs).map (fun x => -x)
  | '+' :: cs => unsignedOrNamed? cs
  | cs => unsignedOrNamed? cs

end TargetHealth.Decimal
