import TargetHealth.Proofs.Executor.Turns
import TargetHealth.Proofs.Time.Instant

namespace TargetHealth

def TaskState.probe? : TaskState → Option RunningProbe
  | .running p => some p
  | _ => none

namespace RunningProbe

variable {p : RunningProbe} {prober : Prober} {grace : Duration} {target : Target} {now : Instant}

theorem result?_eq_none_iff : p.result? prober grace target now = none ↔ now < p.endsAt prober grace target := by
  have hif {q : Prop} [Decidable q] {r : ProbeResult} {o : Option ProbeResult} :
      (if q then some r else o) = none ↔ ¬ q ∧ o = none := by
    split <;> simp [*]
  unfold result? endsAt forcedResult?
  cases p.callEnd prober target <;> cases p.cancelledAt <;>
    simp only [hif, Instant.not_le_iff, Instant.lt_min_iff, and_true]

theorem result?_congr {prober' : Prober} (h : prober target = prober' target) :
    p.result? prober grace target now = p.result? prober' grace target now := by
  rw [result?, result?, callEnd, callEnd, h]

theorem result?_isSome_iff : (p.result? prober grace target now).isSome ↔ p.endsAt prober grace target ≤ now := by
  rw [← not_iff_not, Bool.not_eq_true, Option.isSome_eq_false_iff, Option.isNone_iff_eq_none, result?_eq_none_iff,
    Instant.not_le_iff]

end RunningProbe

namespace Executor

variable {x : Executor} {t : ProbeTask} {now limit : Instant} {number : Nat}

theorem length_handOverIn_dropIn {ts : List ProbeTask} (ht : t ∈ ts) :
    (handOverIn (dropIn t.number ts)).length < ts.length := by
  have hdrop : (dropIn t.number ts).length < ts.length :=
    List.length_filter_lt_length_iff_exists.mpr ⟨t, ht, by simp⟩
  unfold handOverIn
  split
  · rwa [setIn, List.length_map]
  · exact hdrop

theorem length_lt_of_leaves {ts us : List ProbeTask} (ht : t ∈ ts)
    (hus : us = dropIn t.number ts ∨ us = handOverIn (dropIn t.number ts)) : us.length < ts.length := by
  rcases hus with rfl | rfl
  · exact List.length_filter_lt_length_iff_exists.mpr ⟨t, ht, by simp⟩
  · exact length_handOverIn_dropIn ht

theorem Quiescent.not_aborted (hq : x.Quiescent now) (ht : x.task? number = some t) : x.aborted t = false := by
  obtain ⟨hmem, rfl⟩ := task?_some ht
  by_contra ha
  have hturn := hq t.number
  rw [stepNumber, ht] at hturn
  dsimp only at hturn
  rw [if_pos (Bool.not_eq_false _ ▸ ha)] at hturn
  have hlt := length_lt_of_leaves hmem ((discard_cases x t).imp (·.2.2) (·.2.2))
  rw [hturn] at hlt
  exact Nat.lt_irrefl _ hlt

theorem Quiescent.live_eq (hq : x.Quiescent now) (hn : x.Numbered) : x.live = x.tasks :=
  List.filter_eq_self.mpr fun _ ht => by rw [hq.not_aborted (hn.task?_eq ht)]; rfl

/-- A task that could do nothing with its turn waits for a permit, or has a probe that is not over and that knows of the
cancellation, if there was one. -/
theorem Quiescent.step_cases (hq : x.Quiescent now) (ht : x.task? number = some t) :
    (t.state = .queued ∧ x.cancelled = false) ∨
    ∃ p, t.state = .running p ∧ (x.cancelled = true → p.cancelledAt ≠ none) ∧
      now < p.endsAt x.prober x.config.grace t.target ∧ setIn t.number (.running p) x.tasks = x.tasks := by
  have hlive := hq.not_aborted ht
  obtain ⟨hmem, rfl⟩ := task?_some ht
  have hturn := hq t.number
  rw [stepNumber, ht] at hturn
  dsimp only at hturn
  rw [if_neg (Bool.eq_false_iff.mp hlive)] at hturn
  have hgone (hus : x.tasks = dropIn t.number x.tasks ∨ x.tasks = handOverIn (dropIn t.number x.tasks)) : False :=
    Nat.lt_irrefl _ (length_lt_of_leaves hmem hus)
  cases turns_step x t now with
  | waits hqueued hc => exact .inl ⟨hqueued, hc⟩
  | givesUp _ _ tasks | leaves _ tasks =>
    rw [hturn] at tasks
    exact (hgone tasks).elim
  | loses _ _ tasks | reports _ _ _ _ tasks => exact (hgone (.inr (hturn.symm.trans tasks))).elim
  | runsOn p hp hr tasks =>
    have hset := tasks.symm.trans hturn
    have hstate : t.state = .running p := by
      have hself := List.map_inj_left.mp (hset.trans (List.map_id _).symm) t hmem
      rw [if_pos rfl] at hself
      exact (congrArg ProbeTask.state hself).symm
    rw [probeIn?, hstate] at hp
    refine .inr ⟨p, hstate, fun hc hnone => ?_, RunningProbe.result?_eq_none_iff.mp hr, hset⟩
    have hnoted := congrArg RunningProbe.cancelledAt (Option.some.inj hp)
    rw [if_pos ⟨hc, hnone⟩, hnone] at hnoted
    cases hnoted

theorem Quiescent.task_cases (hq : x.Quiescent now) (hn : x.Numbered) (ht : t ∈ x.tasks) :
    (t.state = .queued ∧ x.cancelled = false) ∨
    ∃ p, t.state = .running p ∧ (x.cancelled = true → p.cancelledAt ≠ none) ∧
      now < p.endsAt x.prober x.config.grace t.target := by
  refine (hq.step_cases (hn.task?_eq ht)).imp_right ?_
  rintro ⟨p, hstate, hnoted, hends, -⟩
  exact ⟨p, hstate, hnoted, hends⟩

def LastsUntil (x : Executor) (limit : Instant) : Prop :=
  ∀ t ∈ x.tasks, ∀ p ∈ t.state.probe?, limit ≤ p.endsAt x.prober x.config.grace t.target

instance (x : Executor) (limit : Instant) : Decidable (x.LastsUntil limit) :=
  inferInstanceAs (Decidable (∀ t ∈ x.tasks, ∀ p ∈ t.state.probe?, limit ≤ p.endsAt x.prober x.config.grace t.target))

theorem Quiescent.until (hq : x.Quiescent now) (hlasts : x.LastsUntil limit) {later : Instant} (hlater : later < limit) :
    x.Quiescent later := by
  intro number
  cases ht : x.task? number with
  | none => rw [stepNumber, ht]
  | some t =>
    rw [stepNumber, ht]
    dsimp only
    rw [if_neg (Bool.eq_false_iff.mp (hq.not_aborted ht))]
    rcases hq.step_cases ht with ⟨hstate, hc⟩ | ⟨p, hstate, hnoted, -, hset⟩
    · rw [step, hstate]
      dsimp only
      rw [if_neg (by rw [hc]; exact Bool.false_ne_true)]
    · have hnone : p.result? x.prober x.config.grace t.target later = none :=
        RunningProbe.result?_eq_none_iff.mpr (Nat.lt_of_lt_of_le hlater (hlasts t (task?_some ht).1 p (by rw [hstate]; rfl)))
      rw [step, hstate]
      dsimp only
      rw [if_neg fun h => hnoted h.1 h.2, proceed, hnone]
      exact hset

end Executor

end TargetHealth
