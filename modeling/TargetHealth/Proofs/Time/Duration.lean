import TargetHealth.Time.Duration

namespace TargetHealth

namespace Duration

theorem ofParts_parts (d : Duration) : ofParts d.seconds d.subsecNanos = d :=
  congrArg mk (Nat.div_add_mod' d.nanos nanosPerSecond)

theorem seconds_lt_iff (d : Duration) : d.seconds < Nat.pow 2 64 ↔ d.nanos < limit :=
  Nat.div_lt_iff_lt_mul (by decide)

/-- The span `k` times as long, from its two words. The seconds that the nanoseconds add up to are carried over; nothing is
left once the seconds exceed their word, before the carry or with it. -/
def times? (d : Duration) (k : Nat) : Option Duration :=
  let rest := d.subsecNanos * k % Nat.pow 2 64
  let whole := d.seconds * k
  if whole < Nat.pow 2 64 ∧ whole + rest / nanosPerSecond < Nat.pow 2 64 then
    some (.ofParts (whole + rest / nanosPerSecond) (rest % nanosPerSecond))
  else none

variable (d : Duration) {k : Nat}

theorem subsecNanos_mul_lt (hk : k < Nat.pow 2 32) : d.subsecNanos * k < Nat.pow 2 64 :=
  calc d.subsecNanos * k < nanosPerSecond * Nat.pow 2 32 := Nat.mul_lt_mul'' (Nat.mod_lt _ (by decide)) hk
    _ ≤ Nat.pow 2 64 := by decide

theorem nanos_mul (k : Nat) : d.nanos * k = d.subsecNanos * k + nanosPerSecond * (d.seconds * k) := by
  rw [← Nat.mul_assoc, ← Nat.add_mul]
  exact congrArg (· * k) (Nat.mod_add_div d.nanos nanosPerSecond).symm

theorem seconds_mul (k : Nat) :
    seconds ⟨d.nanos * k⟩ = d.seconds * k + d.subsecNanos * k / nanosPerSecond := by
  rw [seconds, nanos_mul, Nat.add_mul_div_left _ _ (by decide), Nat.add_comm]

theorem subsecNanos_mul (k : Nat) : subsecNanos ⟨d.nanos * k⟩ = d.subsecNanos * k % nanosPerSecond := by
  rw [subsecNanos, nanos_mul, Nat.add_mul_mod_self_left]

theorem times?_eq (hk : k < Nat.pow 2 32) :
    d.times? k = if d.nanos * k < limit then some ⟨d.nanos * k⟩ else none := by
  have hrest : d.subsecNanos * k % Nat.pow 2 64 = d.subsecNanos * k := Nat.mod_eq_of_lt (d.subsecNanos_mul_lt hk)
  have hcarried : (d.seconds * k < Nat.pow 2 64 ∧ seconds ⟨d.nanos * k⟩ < Nat.pow 2 64) ↔ d.nanos * k < limit := by
    rw [← seconds_lt_iff ⟨d.nanos * k⟩, seconds_mul]
    exact and_iff_right_of_imp (Nat.lt_of_le_of_lt (Nat.le_add_right _ _))
  unfold times?
  dsimp only
  rw [hrest, ← seconds_mul, ← subsecNanos_mul, ofParts_parts]
  simp only [hcarried]

theorem scale_eq_times? (hk : k < Nat.pow 2 32) : d.scale k = (d.times? k).getD longest := by
  rw [d.times?_eq hk, scale]
  by_cases hfits : d.nanos * k < limit
  · rw [if_pos hfits, Nat.min_eq_left (Nat.le_sub_one_of_lt hfits)]
    rfl
  · have hlong : limit - 1 ≤ d.nanos * k := by omega
    rw [if_neg hfits, Nat.min_eq_right hlong]
    rfl

end Duration

end TargetHealth
