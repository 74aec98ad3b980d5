import TargetHealth.Proofs.Health.Summary

namespace TargetHealth

namespace TargetState

/-- The multipliers of a target as results are recorded one after another, the first of them before any is. -/
def multipliers (policy : HealthPolicy) (s : TargetState) (rs : List ProbeResult) : List Nat :=
  (rs.scanl (fun s r => s.record r policy) s).map (·.backoffMultiplier)

theorem multipliers_cons (policy : HealthPolicy) (s : TargetState) (r : ProbeResult) (rs : List ProbeResult) :
    s.multipliers policy (r :: rs) = s.backoffMultiplier :: (s.record r policy).multipliers policy rs := by
  rw [multipliers, List.scanl_cons, List.map_cons]
  rfl

theorem exists_multipliers_eq_cons (policy : HealthPolicy) (s : TargetState) (rs : List ProbeResult) :
    ∃ ms, s.multipliers policy rs = s.backoffMultiplier :: ms := by
  cases rs with
  | nil => exact ⟨[], rfl⟩
  | cons r rs => exact ⟨_, multipliers_cons policy s r rs⟩

theorem multiplier_record (policy : HealthPolicy) (s : TargetState) {r : ProbeResult}
    (hr : r.outcome.isSuccess = false) :
    (s.record r policy).backoffMultiplier = policy.backoff.escalate s.backoffMultiplier ∨
      (s.record r policy).backoffMultiplier = s.backoffMultiplier := by
  unfold record
  cases ho : r.outcome with
  | success =>
    rw [ho] at hr
    cases hr
  | skipped | cancelled => exact .inr rfl
  | timeout | connectionRefused | dnsFailure | tlsHandshakeFailure | certificateInvalid | protocolError => exact .inl rfl

theorem multipliers_ascending {policy : HealthPolicy} (hf : 1 ≤ policy.backoff.factor) {s : TargetState}
    (hm : s.backoffMultiplier ≤ policy.backoff.maxMultiplier) (hc : s.backoffMultiplier ≤ counterMax)
    {rs : List ProbeResult} (hrs : ∀ r ∈ rs, r.outcome.isSuccess = false) :
    (s.multipliers policy rs).Pairwise (· ≤ ·) := by
  induction rs generalizing s with
  | nil => exact List.pairwise_singleton _ _
  | cons r rs ih =>
    have hrest := fun r' hr' => hrs r' (List.mem_cons_of_mem r hr')
    -- the new multiplier is no less than the old one, and within the bounds again
    have hstep : s.backoffMultiplier ≤ (s.record r policy).backoffMultiplier ∧
        (s.record r policy).backoffMultiplier ≤ policy.backoff.maxMultiplier ∧
        (s.record r policy).backoffMultiplier ≤ counterMax := by
      rcases multiplier_record policy s (hrs r List.mem_cons_self) with heq | heq
      · rw [heq]
        exact ⟨BackoffPolicy.le_escalate hf hm hc, BackoffPolicy.escalate_le_maxMultiplier _ _,
          BackoffPolicy.escalate_le_counterMax _ _⟩
      · rw [heq]
        exact ⟨Nat.le_refl _, hm, hc⟩
    have hascending := ih hstep.2.1 hstep.2.2 hrest
    obtain ⟨ms, hms⟩ := exists_multipliers_eq_cons policy (s.record r policy) rs
    rw [hms] at hascending
    rw [multipliers_cons, hms]
    exact List.Pairwise.cons_cons_of_trans hstep.1 hascending

end TargetState

namespace BackoffPolicy

/-- For spans the interval at a multiplier is the exact product in nanoseconds, cut off at the longer of the base and the
cap; its two words give the same, also where the seconds of the product exceed theirs. The interval grows with the
multiplier and stays within its bounds. Failures in a row from multiplier 1 never shorten it, and neither does what a target
goes through until it succeeds. -/
theorem interval_exact {p : BackoffPolicy} (hcap : p.maxInterval.isRepresentable) {base : Duration}
    (hbase : base.isRepresentable) :
    (∀ m, (p.interval base m).nanos = min (base.nanos * max m 1) (max base.nanos p.maxInterval.nanos)) ∧
    (∀ m ≤ counterMax, p.interval base m = min ((base.times? (max m 1)).getD .longest) (max p.maxInterval base)) ∧
    (∀ k n, k ≤ n → p.interval base k ≤ p.interval base n) ∧
    (∀ m, base ≤ p.interval base m ∧ p.interval base m ≤ max base p.maxInterval) ∧
    (1 ≤ p.factor → 1 ≤ p.maxMultiplier →
      (∀ n, ((1 :: p.climb 1 n).map (p.interval base)).Pairwise (· ≤ ·)) ∧
      ∀ (policy : HealthPolicy) (s : TargetState) (rs : List ProbeResult), policy.backoff = p → s.backoffMultiplier = 1 →
        (∀ r ∈ rs, r.outcome.isSuccess = false) →
        ((s.multipliers policy rs).map (p.interval base)).Pairwise (· ≤ ·)) := by
  refine ⟨nanos_interval_eq hcap hbase, fun m hm => p.interval_eq_times? base hm, fun k n hkn => interval_le base hkn,
    fun m => ⟨le_interval hbase m, p.interval_le_max base m⟩, fun hf hm => ⟨fun n => ?_, ?_⟩⟩
  · exact map_interval_ascending base (climb_ascending hf hm (by decide) n)
  · intro policy s rs hp hs hrs
    subst hp
    have hbound : s.backoffMultiplier ≤ policy.backoff.maxMultiplier := by
      rw [hs]
      exact hm
    have hcounter : s.backoffMultiplier ≤ counterMax := by
      rw [hs]
      decide
    exact map_interval_ascending base (TargetState.multipliers_ascending hf hbound hcounter hrs)

/-- A base of 2^62 seconds and six tenths, with no cap below the longest span. Three times the base takes a carry, nine times
the base is no span any more; failures reach both, with a skipped cycle in between. -/
theorem interval_exact_with_carry :
    let p : BackoffPolicy := ⟨3, 100, .longest⟩
    let base : Duration := .ofParts (Nat.pow 2 62) 600000000
    let target : TargetState := .new "a" (.ofCapacity 4)
    let rs : List ProbeResult := [.failure "a" .timeout "connect" default, .skipped "a" "probe queue full" default,
      .failure "a" .dnsFailure "no such host" default]
    p.interval base 3 = .ofParts (3 * Nat.pow 2 62 + 1) 800000000 ∧
    base.times? 9 = none ∧ p.interval base 9 = .longest ∧
    ([1, 3, 9].map (p.interval base)).Pairwise (· ≤ ·) ∧
    target.multipliers ⟨3, 4, p⟩ rs = [1, 3, 3, 9] ∧
    ((target.multipliers ⟨3, 4, p⟩ rs).map (p.interval base)).Pairwise (· ≤ ·) := by
  intro p base target rs
  obtain ⟨hexact, hwords, -, -, hfailures⟩ := @interval_exact p (by decide) base (by decide)
  obtain ⟨hclimb, hresults⟩ := hfailures (by decide) (by decide)
  have hthree : (p.interval base 3).nanos = (Duration.ofParts (3 * Nat.pow 2 62 + 1) 800000000).nanos :=
    (hexact 3).trans (by decide)
  have hnine : p.interval base 9 = .longest := (hwords 9 (by decide)).trans (by decide)
  have hascending : ([1, 3, 9].map (p.interval base)).Pairwise (· ≤ ·) := hclimb 2
  have hmultipliers : target.multipliers ⟨3, 4, p⟩ rs = [1, 3, 3, 9] := by decide
  have hrun := hresults ⟨3, 4, p⟩ target rs rfl rfl (by decide)
  exact ⟨congrArg Duration.mk hthree, by decide, hnine, hascending, hmultipliers, hrun⟩

end BackoffPolicy

end TargetHealth
