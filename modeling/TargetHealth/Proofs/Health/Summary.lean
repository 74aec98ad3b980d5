import Mathlib.Algebra.Order.Group.Multiset
import Mathlib.Data.List.DropRight
import TargetHealth.Health.State
import TargetHealth.Proofs.Schedule.Backoff

namespace TargetHealth

/-- The numbers of a policy are positive 32-bit counters. -/
structure HealthPolicy.InRange (p : HealthPolicy) : Prop where
  threshold_pos : 1 ≤ p.failureThreshold
  threshold_le : p.failureThreshold ≤ counterMax
  factor_pos : 1 ≤ p.backoff.factor
  multiplier_pos : 1 ≤ p.backoff.maxMultiplier
  multiplier_le : p.backoff.maxMultiplier ≤ counterMax

namespace LatencyWindow

theorem eq_of_samples {w w' : LatencyWindow} (hs : w.samples = w'.samples) (hc : w.capacity = w'.capacity) :
    w = w' := by
  cases w; cases w'
  subst hs; subst hc
  rfl

theorem push_capacity (w : LatencyWindow) (d : Duration) : (w.push d).capacity = w.capacity := by
  unfold push
  split <;> rfl

theorem push_samples (w : LatencyWindow) (d : Duration) :
    (w.push d).samples = (w.samples ++ [d]).rtake w.capacity := by
  have hp := w.positive
  have hf := w.fits
  unfold push
  split
  · rename_i h
    have hl : (w.samples ++ [d]).length - w.capacity = 1 := by
      rw [List.length_append, List.length_singleton]; omega
    rw [List.rtake, hl, List.drop_append_of_le_length (by omega)]
  · rename_i h
    have hl : (w.samples ++ [d]).length - w.capacity = 0 := by
      rw [List.length_append, List.length_singleton]; omega
    rw [List.rtake, hl, List.drop_zero]

theorem length_rtake_le (ds : List Duration) (n : Nat) : (ds.rtake n).length ≤ n := by
  rw [List.rtake, List.length_drop]
  omega

def ofLatencies (capacity : Nat) (ds : List Duration) : LatencyWindow where
  samples := ds.rtake (max capacity 1)
  capacity := max capacity 1
  positive := (ofCapacity capacity).positive
  fits := length_rtake_le ds _

theorem rtake_rtake_concat (ds : List Duration) (d : Duration) (n : Nat) :
    ((ds.rtake n) ++ [d]).rtake n = (ds ++ [d]).rtake n := by
  cases n with
  | zero => simp
  | succ n =>
    rw [List.rtake_concat_succ, List.rtake_concat_succ]
    congr 1
    rw [List.rtake, List.rtake, List.rtake, List.drop_drop, List.length_drop]
    congr 1
    omega

theorem push_ofLatencies (capacity : Nat) (ds : List Duration) (d : Duration) :
    (ofLatencies capacity ds).push d = ofLatencies capacity (ds ++ [d]) := by
  apply eq_of_samples
  · rw [push_samples]
    exact rtake_rtake_concat ds d (max capacity 1)
  · exact push_capacity _ d

end LatencyWindow

namespace ProbeResult

/-- How many failures came since the last success. -/
def failureStreak (rs : List ProbeResult) : Nat :=
  (rs.rtakeWhile (fun r => !r.outcome.isSuccess)).countP (·.outcome.isFailure)

def successStreak (rs : List ProbeResult) : Nat :=
  (rs.rtakeWhile (fun r => !r.outcome.isFailure)).countP (·.outcome.isSuccess)

def count (kind : Outcome → Bool) (rs : List ProbeResult) : Nat := rs.countP (fun r => kind r.outcome)

def lastTime? (kind : Outcome → Bool) (rs : List ProbeResult) : Option Timestamp :=
  (rs.filter (fun r => kind r.outcome)).getLast?.map (·.timestamp)

def successLatencies (rs : List ProbeResult) : List Duration :=
  (rs.filter (·.outcome.isSuccess)).filterMap (·.latency)

theorem count_concat (kind : Outcome → Bool) (rs : List ProbeResult) (r : ProbeResult) :
    count kind (rs ++ [r]) = count kind rs + if kind r.outcome then 1 else 0 := by
  simp [count, List.countP_append, List.countP_singleton]

theorem lastTime?_concat (kind : Outcome → Bool) (rs : List ProbeResult) (r : ProbeResult) :
    lastTime? kind (rs ++ [r]) = if kind r.outcome then some r.timestamp else lastTime? kind rs := by
  by_cases h : kind r.outcome <;> simp [lastTime?, List.filter_append, h]

theorem successLatencies_concat (rs : List ProbeResult) (r : ProbeResult) :
    successLatencies (rs ++ [r]) = successLatencies rs ++ if r.outcome.isSuccess then r.latency.toList else [] := by
  by_cases h : r.outcome.isSuccess
  · cases hl : r.latency <;> simp [successLatencies, List.filter_append, h, hl]
  · simp [successLatencies, List.filter_append, h]

theorem failureStreak_concat (rs : List ProbeResult) (r : ProbeResult) :
    failureStreak (rs ++ [r]) =
      if r.outcome.isSuccess then 0 else failureStreak rs + if r.outcome.isFailure then 1 else 0 := by
  by_cases h : r.outcome.isSuccess
  · simp [failureStreak, h]
  · simp [failureStreak, h, List.countP_append, List.countP_singleton]

theorem successStreak_concat (rs : List ProbeResult) (r : ProbeResult) :
    successStreak (rs ++ [r]) =
      if r.outcome.isFailure then 0 else successStreak rs + if r.outcome.isSuccess then 1 else 0 := by
  by_cases h : r.outcome.isFailure
  · simp [successStreak, h]
  · simp [successStreak, h, List.countP_append, List.countP_singleton]

end ProbeResult

namespace TargetState

open ProbeResult

/-- The state in which results leave a target of which nothing was known, recorded one after another. -/
def recordAll (policy : HealthPolicy) (id : TargetId) (rs : List ProbeResult) : TargetState :=
  rs.foldl (fun s r => s.record r policy) (.new id (.ofCapacity policy.latencyWindow))

/-- A target is down once enough failures have come since its last success, and up if it is not down and has ever
succeeded. -/
def statusOf (policy : HealthPolicy) (rs : List ProbeResult) : Status :=
  if policy.failureThreshold ≤ failureStreak rs then .down
  else if rs.any (·.outcome.isSuccess) then .up
  else .unknown

/-- The state of a target whose results these are. -/
def ofResults (policy : HealthPolicy) (id : TargetId) (rs : List ProbeResult) : TargetState where
  targetId := id
  status := statusOf policy rs
  consecutiveFailures := min (failureStreak rs) counterMax
  consecutiveSuccesses := min (successStreak rs) counterMax
  lastSuccess := lastTime? Outcome.isSuccess rs
  lastFailure := lastTime? Outcome.isFailure rs
  lastOutcome := rs.getLast?.map (·.outcome)
  lastMessage := rs.getLast?.bind (·.message)
  backoffMultiplier := min policy.backoff.maxMultiplier (policy.backoff.factor ^ failureStreak rs)
  totalProbes := count Outcome.isSuccess rs + count Outcome.isFailure rs
  skipped := count (· == .skipped) rs
  lastSkipped := lastTime? (· == .skipped) rs
  latencies := .ofLatencies policy.latencyWindow (successLatencies rs)

theorem record_success (s : TargetState) {r : ProbeResult} (policy : HealthPolicy) (h : r.outcome.isSuccess) :
    s.record r policy = s.recordSuccess r := by
  have hr : r.outcome = .success := by simpa [Outcome.isSuccess] using h
  simp only [record, hr]

theorem record_skipped (s : TargetState) {r : ProbeResult} (policy : HealthPolicy) (h : r.outcome = .skipped) :
    s.record r policy = s.recordSkipped r := by
  simp only [record, h]

theorem record_failure (s : TargetState) {r : ProbeResult} (policy : HealthPolicy) (h : r.outcome.isFailure) :
    s.record r policy = s.recordFailure r policy := by
  unfold record
  cases hr : r.outcome <;> simp_all [Outcome.isFailure]

variable {policy : HealthPolicy} (hp : policy.InRange) (id : TargetId) (rs : List ProbeResult) (r : ProbeResult)

include hp in
theorem ofResults_nil : ofResults policy id [] = new id (.ofCapacity policy.latencyWindow) := by
  have ht : ¬ policy.failureThreshold ≤ 0 := Nat.not_le.mpr hp.threshold_pos
  have hm : min policy.backoff.maxMultiplier 1 = 1 := Nat.min_eq_right hp.multiplier_pos
  simp [ofResults, new, statusOf, failureStreak, successStreak, lastTime?, count, successLatencies, ht, hm,
    LatencyWindow.ofLatencies, LatencyWindow.ofCapacity]

theorem latencies_recordSuccess (h : r.outcome.isSuccess) :
    ((ofResults policy id rs).recordSuccess r).latencies = (ofResults policy id (rs ++ [r])).latencies := by
  simp only [recordSuccess, ofResults, successLatencies_concat, h, if_true]
  cases r.latency with
  | none => simp
  | some d => exact LatencyWindow.push_ofLatencies policy.latencyWindow (successLatencies rs) d

include hp in
theorem recordSuccess_ofResults (h : r.outcome.isSuccess) :
    (ofResults policy id rs).recordSuccess r = ofResults policy id (rs ++ [r]) := by
  have hr : r.outcome = .success := by simpa [Outcome.isSuccess] using h
  have hf : r.outcome.isFailure = false := by rw [hr]; rfl
  have hk : (r.outcome == .skipped) = false := by rw [hr]; rfl
  have ht : ¬ policy.failureThreshold ≤ 0 := Nat.not_le.mpr hp.threshold_pos
  have hm : min policy.backoff.maxMultiplier 1 = 1 := Nat.min_eq_right hp.multiplier_pos
  have hs : min (min (successStreak rs) counterMax + 1) counterMax = min (successStreak rs + 1) counterMax := by
    omega
  have hl := @latencies_recordSuccess policy id rs r h
  simp only [recordSuccess, ofResults] at hl
  simp only [recordSuccess, ofResults, hl, hs, statusOf, failureStreak_concat, successStreak_concat, lastTime?_concat,
    count_concat, h, hf, hk, if_true, List.any_append, List.any_cons, List.getLast?_concat, Nat.pow_zero, ht, hm]
  simp [Nat.add_right_comm]

theorem recordSkipped_ofResults (h : r.outcome = .skipped) :
    (ofResults policy id rs).recordSkipped r = ofResults policy id (rs ++ [r]) := by
  have hs : r.outcome.isSuccess = false := by rw [h]; rfl
  have hf : r.outcome.isFailure = false := by rw [h]; rfl
  have hk : (r.outcome == .skipped) = true := by rw [h]; rfl
  simp [recordSkipped, ofResults, statusOf, failureStreak_concat, successStreak_concat, lastTime?_concat, count_concat,
    successLatencies_concat, hs, hf, hk]

theorem statusOf_concat_failure (hs : r.outcome.isSuccess = false) (hf : r.outcome.isFailure) :
    statusOf policy (rs ++ [r]) = if policy.failureThreshold ≤ failureStreak rs + 1 then .down else statusOf policy rs := by
  have hstreak : failureStreak (rs ++ [r]) = failureStreak rs + 1 := by simp [failureStreak_concat, hs, hf]
  rw [statusOf, hstreak]
  by_cases ht : policy.failureThreshold ≤ failureStreak rs + 1
  · simp [ht]
  · have ht' : ¬ policy.failureThreshold ≤ failureStreak rs := by omega
    simp [statusOf, ht, ht', hs]

include hp in
theorem recordFailure_ofResults (hf : r.outcome.isFailure) :
    (ofResults policy id rs).recordFailure r policy = ofResults policy id (rs ++ [r]) := by
  have hs : r.outcome.isSuccess = false := by
    cases hr : r.outcome <;> simp_all [Outcome.isFailure, Outcome.isSuccess]
  have hk : (r.outcome == .skipped) = false := by
    cases hr : r.outcome <;> simp_all [Outcome.isFailure]
  have hle := hp.threshold_le
  have hn : min (min (failureStreak rs) counterMax + 1) counterMax = min (failureStreak rs + 1) counterMax := by omega
  have ht : policy.failureThreshold ≤ min (failureStreak rs + 1) counterMax ↔
      policy.failureThreshold ≤ failureStreak rs + 1 := by omega
  have hm := policy.backoff.escalate_climbed hp.factor_pos hp.multiplier_pos hp.multiplier_le (failureStreak rs)
  have hst := @statusOf_concat_failure policy rs r hs hf
  simp only [recordFailure, ofResults, hn, ht, hm, hst, failureStreak_concat, successStreak_concat, lastTime?_concat,
    count_concat, successLatencies_concat, hs, hf, hk, if_true, List.getLast?_concat]
  simp [Nat.add_assoc]

include hp in
theorem record_ofResults (h : r.outcome ≠ .cancelled) :
    (ofResults policy id rs).record r policy = ofResults policy id (rs ++ [r]) := by
  by_cases hs : r.outcome.isSuccess
  · rw [record_success _ policy hs, recordSuccess_ofResults hp id rs r hs]
  · by_cases hk : r.outcome = .skipped
    · rw [record_skipped _ policy hk, recordSkipped_ofResults id rs r hk]
    · have hf : r.outcome.isFailure := by
        cases hr : r.outcome <;> simp_all [Outcome.isFailure, Outcome.isSuccess]
      rw [record_failure _ policy hf, recordFailure_ofResults hp id rs r hf]

end TargetState

end TargetHealth
