import Mathlib.Algebra.Order.Ring.Nat
import Mathlib.Data.List.Pairwise
import TargetHealth.Proofs.Time.Duration
import TargetHealth.Schedule.Backoff

namespace TargetHealth

namespace BackoffPolicy

variable {p : BackoffPolicy} {base : Duration}

theorem nanos_interval (p : BackoffPolicy) (base : Duration) (m : Nat) :
    (p.interval base m).nanos =
      min (min (base.nanos * max m 1) (Duration.limit - 1)) (max p.maxInterval.nanos base.nanos) := rfl

theorem interval_le (base : Duration) {k n : Nat} (h : k ≤ n) : (p.interval base k).nanos ≤ (p.interval base n).nanos := by
  have hscaled : base.nanos * max k 1 ≤ base.nanos * max n 1 := Nat.mul_le_mul_left _ (by omega)
  rw [nanos_interval, nanos_interval]
  omega

theorem interval_le_max (p : BackoffPolicy) (base : Duration) (m : Nat) :
    p.interval base m ≤ max base p.maxInterval := by
  change (p.interval base m).nanos ≤ max base.nanos p.maxInterval.nanos
  rw [nanos_interval]
  omega

theorem le_interval (hbase : base.isRepresentable) (m : Nat) : base ≤ p.interval base m := by
  have hlt : base.nanos < Duration.limit := of_decide_eq_true hbase
  have hscaled : base.nanos ≤ base.nanos * max m 1 := Nat.le_mul_of_pos_right _ (by omega)
  change base.nanos ≤ (p.interval base m).nanos
  rw [nanos_interval]
  omega

/-- A product that is no span exceeds the base and the cap, so that where it stops short makes no difference. -/
theorem nanos_interval_eq (hcap : p.maxInterval.isRepresentable) (hbase : base.isRepresentable) (m : Nat) :
    (p.interval base m).nanos = min (base.nanos * max m 1) (max base.nanos p.maxInterval.nanos) := by
  have hcap' : p.maxInterval.nanos < Duration.limit := of_decide_eq_true hcap
  have hbase' : base.nanos < Duration.limit := of_decide_eq_true hbase
  rw [nanos_interval]
  omega

/-- The interval as its words give it, whether or not the seconds of the product stay within theirs. -/
theorem interval_eq_times? (p : BackoffPolicy) (base : Duration) {m : Nat} (hm : m ≤ counterMax) :
    p.interval base m = min ((base.times? (max m 1)).getD .longest) (max p.maxInterval base) := by
  have hword : max m 1 < Nat.pow 2 32 := Nat.max_lt.mpr ⟨Nat.lt_of_le_sub_one (by decide) hm, by decide⟩
  rw [interval, base.scale_eq_times? hword]

theorem escalate_le_counterMax (p : BackoffPolicy) (m : Nat) : p.escalate m ≤ counterMax :=
  (Nat.min_le_left _ _).trans (Nat.min_le_right _ _)

theorem escalate_le_maxMultiplier (p : BackoffPolicy) (m : Nat) : p.escalate m ≤ p.maxMultiplier := Nat.min_le_right _ _

theorem le_escalate (hf : 1 ≤ p.factor) {m : Nat} (hm : m ≤ p.maxMultiplier) (hc : m ≤ counterMax) : m ≤ p.escalate m := by
  have hgrown : max m 1 ≤ max m 1 * p.factor := Nat.le_mul_of_pos_right _ hf
  exact Nat.le_min.mpr ⟨Nat.le_min.mpr ⟨(Nat.le_max_left m 1).trans hgrown, hc⟩, hm⟩

theorem escalate_climbed (p : BackoffPolicy) (hf : 1 ≤ p.factor) (hm : 1 ≤ p.maxMultiplier)
    (hc : p.maxMultiplier ≤ counterMax) (k : Nat) :
    p.escalate (min p.maxMultiplier (p.factor ^ k)) = min p.maxMultiplier (p.factor ^ (k + 1)) := by
  have hk : 1 ≤ p.factor ^ k := Nat.one_le_pow k p.factor hf
  have h1 : max (min p.maxMultiplier (p.factor ^ k)) 1 = min p.maxMultiplier (p.factor ^ k) :=
    Nat.max_eq_left (Nat.le_min.mpr ⟨hm, hk⟩)
  have hmf : p.maxMultiplier ≤ p.maxMultiplier * p.factor := Nat.le_mul_of_pos_right _ hf
  rw [escalate, h1, Nat.pow_succ, ← Nat.mul_min_mul_right]
  omega

theorem climb_ascending (hf : 1 ≤ p.factor) {m : Nat} (hm : m ≤ p.maxMultiplier) (hc : m ≤ counterMax) (n : Nat) :
    (m :: p.climb m n).Pairwise (· ≤ ·) := by
  induction n generalizing m with
  | zero => exact List.pairwise_singleton _ _
  | succ n ih =>
    have hrest := ih (p.escalate_le_maxMultiplier m) (p.escalate_le_counterMax m)
    exact List.Pairwise.cons_cons_of_trans (le_escalate hf hm hc) hrest

theorem map_interval_ascending (base : Duration) {ms : List Nat} (h : ms.Pairwise (· ≤ ·)) :
    (ms.map (p.interval base)).Pairwise (· ≤ ·) := List.pairwise_map.mpr (h.imp (interval_le base))

end BackoffPolicy

end TargetHealth
