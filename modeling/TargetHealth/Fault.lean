namespace TargetHealth

/-- The computations that have no answer: a span or an instant that cannot be represented, or a window that cannot be
allocated. A step that meets one of them stops its task. -/
inductive Fault where
  /-- A window was asked to reserve more room than memory can address. -/
  | windowCapacity
  /-- The spans of a sum do not add up to a representable span. -/
  | spanSum
  | spanDivision
  | clockRange
deriving DecidableEq, Repr, Inhabited

def Fault.message : Fault → String
  | .windowCapacity => "capacity overflow"
  | .spanSum => "overflow in iter::sum over durations"
  | .spanDivision => "divide by zero error when dividing duration by scalar"
  | .clockRange => "overflow when adding duration to instant"

end TargetHealth
