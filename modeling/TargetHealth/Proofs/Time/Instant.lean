import TargetHealth.Time.Instant

namespace TargetHealth

namespace Instant

variable {a b c : Instant}

theorem not_le_iff : ¬ a ≤ b ↔ b < a := Nat.not_le

theorem not_lt_iff : ¬ a < b ↔ b ≤ a := Nat.not_lt

theorem lt_min_iff : a < min b c ↔ a < b ∧ a < c := Nat.lt_min

theorem le_max_left (a b : Instant) : a ≤ max a b := Nat.le_max_left a.nanos b.nanos

theorem max_le (hac : a ≤ c) (hbc : b ≤ c) : max a b ≤ c := Nat.max_le.mpr ⟨hac, hbc⟩

theorem max_eq_left (h : b ≤ a) : max a b = a := congrArg mk (Nat.max_eq_left h)

theorem max_eq_right (h : a ≤ b) : max a b = b := congrArg mk (Nat.max_eq_right h)

theorem min_eq_left (h : a ≤ b) : min a b = a := congrArg mk (Nat.min_eq_left h)

theorem le_of_eq (h : a = b) : a ≤ b := Nat.le_of_eq (congrArg nanos h)

theorem le_antisymm (hab : a ≤ b) (hba : b ≤ a) : a = b := congrArg mk (Nat.le_antisymm hab hba)

theorem lt_or_eq_of_le (h : a ≤ b) : a < b ∨ a = b := (Nat.lt_or_eq_of_le h).imp_right (congrArg mk)

theorem add?_of_lt {d : Duration} (h : a.nanos + d.nanos < limit) : a.add? d = .ok (a.after d) := if_pos h

theorem add?_of_not_lt {d : Duration} (h : ¬ a.nanos + d.nanos < limit) : a.add? d = .error .clockRange := if_neg h

theorem add?_eq_ok {d : Duration} (h : a.add? d = .ok b) : b.nanos < limit ∧ b = a.after d := by
  unfold add? at h
  split at h
  · rename_i hlt
    cases h
    exact ⟨hlt, rfl⟩
  · cases h

end Instant

instance : Std.IsLinearOrder Instant where
  le_refl a := Nat.le_refl a.nanos
  le_trans _ _ _ hab hbc := Nat.le_trans hab hbc
  le_total a b := Nat.le_total a.nanos b.nanos
  le_antisymm _ _ := Instant.le_antisymm

instance : Std.LawfulOrderMin Instant where
  le_min_iff a b c := Nat.le_min (a := a.nanos) (b := b.nanos) (c := c.nanos)
  min_eq_or a b := (Nat.le_total a.nanos b.nanos).imp (fun h => congrArg Instant.mk (Nat.min_eq_left h))
    (fun h => congrArg Instant.mk (Nat.min_eq_right h))

end TargetHealth
