namespace TargetHealth

structure Timestamp where
  seconds : Int
  nanos : Nat
deriving DecidableEq, Repr, Inhabited

structure CivilDate where
  year : Int
  month : Nat
  day : Nat
deriving DecidableEq, Repr, Inhabited

/-- The date that is `days` days after 1970-01-01. Years are counted from March, so that the leap day
comes last, in eras of 400 years, which all have 146097 days. -/
def CivilDate.ofDays (days : Int) : CivilDate :=
  let shifted := days + 719468
  let era := shifted.fdiv 146097
  let dayOfEra := (shifted.fmod 146097).toNat
  let yearOfEra := (dayOfEra - dayOfEra / 1460 + dayOfEra / 36524 - dayOfEra / 146096) / 365
  let dayOfYear := dayOfEra - (365 * yearOfEra + yearOfEra / 4 - yearOfEra / 100)
  let monthFromMarch := (5 * dayOfYear + 2) / 153
  let month := if monthFromMarch < 10 then monthFromMarch + 3 else monthFromMarch - 9
  let year := era * 400 + (yearOfEra : Int) + (if month ≤ 2 then 1 else 0)
  ⟨year, month, dayOfYear - (153 * monthFromMarch + 2) / 5 + 1⟩

namespace Timestamp

def padded (width n : Nat) : String :=
  let digits := toString n
  String.ofList (List.replicate (width - digits.length) '0') ++ digits

def yearText (year : Int) : String :=
  if 0 ≤ year ∧ year ≤ 9999 then padded 4 year.toNat
  else (if year < 0 then "-" else "+") ++ padded 4 year.natAbs

def fractionText (nanos : Nat) : String :=
  if nanos = 0 then ""
  else if nanos % 1000000 = 0 then "." ++ padded 3 (nanos / 1000000)
  else if nanos % 1000 = 0 then "." ++ padded 6 (nanos / 1000)
  else "." ++ padded 9 nanos

/-- RFC 3339 text. A leap second is kept as the 61st second of its minute. -/
def text (t : Timestamp) : String :=
  let date := CivilDate.ofDays (t.seconds.fdiv 86400)
  let ofDay := (t.seconds.fmod 86400).toNat
  let leap := if t.nanos < 1000000000 then 0 else 1
  yearText date.year ++ "-" ++ padded 2 date.month ++ "-" ++ padded 2 date.day ++ "T" ++
    padded 2 (ofDay / 3600) ++ ":" ++ padded 2 (ofDay / 60 % 60) ++ ":" ++
    padded 2 (ofDay % 60 + leap) ++ fractionText (t.nanos - leap * 1000000000) ++ "Z"

end Timestamp

end TargetHealth
