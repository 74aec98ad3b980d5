import TargetHealth.Proofs.Executor.Rest

namespace TargetHealth

theorem RunningProbe.endsAt_le_of_cancelledAt {p : RunningProbe} {stop : Instant} (h : p.cancelledAt = some stop)
    (prober : Prober) (grace : Duration) (target : Target) : p.endsAt prober grace target ≤ stop.after grace := by
  have hforced : min (p.limit grace) (stop.after grace) ≤ stop.after grace := Nat.min_le_right _ _
  unfold endsAt
  rw [h]
  cases p.callEnd prober target with
  | none => exact hforced
  | some ending => exact Nat.le_trans (Nat.min_le_right _ _) hforced

namespace Executor

/-- An executor at an instant, all of whose tasks were cancelled at an earlier one or at just that. -/
structure WindsDown (stop : Instant) (x : Executor) (now : Instant) : Prop where
  numbered : x.Numbered
  cancelled : x.cancelled = true
  since : stop ≤ now
  noted : ∀ t ∈ x.tasks, ∀ p, t.state = .running p → p.cancelledAt = none ∨ p.cancelledAt = some stop
  running : stop < now → ∀ t ∈ x.tasks, ∃ p, t.state = .running p ∧ p.cancelledAt = some stop
  inTime : x.tasks ≠ [] → now ≤ stop.after x.config.grace

variable {stop now later : Instant} {x y : Executor} {t : ProbeTask}

/-- What the reader makes of an executor: whether it stops the tasks or not, each is there until its turn. -/
structure Subsides (x y : Executor) : Prop where
  tasks : y.tasks = x.tasks
  config : y.config = x.config
  cancelled : y.cancelled = x.cancelled
  calls : y.calls = x.calls

theorem Subsides.trans {z : Executor} (h : x.Subsides y) (h' : y.Subsides z) : x.Subsides z :=
  ⟨h'.tasks.trans h.tasks, h'.config.trans h.config, h'.cancelled.trans h.cancelled, h'.calls.trans h.calls⟩

theorem WindsDown.subside (h : x.WindsDown stop now) (hs : x.Subsides y) (hn : y.Numbered) : y.WindsDown stop now where
  numbered := hn
  cancelled := hs.cancelled.trans h.cancelled
  since := h.since
  noted := hs.tasks.symm ▸ h.noted
  running := hs.tasks.symm ▸ h.running
  inTime := hs.tasks.symm ▸ hs.config.symm ▸ h.inTime

theorem WindsDown.cancelledAt_probeIn? (h : x.WindsDown stop now) (ht : t ∈ x.tasks) {p : RunningProbe}
    (hp : x.probeIn? t now = some p) : p.cancelledAt = some stop := by
  have hsince (hlt : ¬ stop < now) : now = stop := Instant.le_antisymm (Nat.not_lt.mp hlt) h.since
  cases hs : t.state with
  | queued =>
    rw [probeIn?, hs] at hp
    cases hp
  | admitted waited =>
    have hnow : now = stop := hsince fun hlt => by
      obtain ⟨q, hq, -⟩ := h.running hlt t ht
      rw [hs] at hq
      cases hq
    simp only [probeIn?, hs] at hp
    split at hp
    · cases hp
      simp only [h.cancelled, hnow, if_true]
    · cases hp
  | running q =>
    simp only [probeIn?, hs, h.cancelled, true_and] at hp
    rcases h.noted t ht q hs with hnone | hsome
    · have hnow : now = stop := hsince fun hlt => by
        obtain ⟨q', hq', hknown⟩ := h.running hlt t ht
        cases hs.symm.trans hq'
        cases hnone.symm.trans hknown
      rw [if_pos hnone] at hp
      cases hp
      rw [hnow]
    · rw [if_neg (by rw [hsome]; exact Option.some_ne_none _)] at hp
      cases hp
      exact hsome

theorem WindsDown.stepNumber (h : x.WindsDown stop now) (number : Nat) : (x.stepNumber number now).WindsDown stop now := by
  have hk := keeps_stepNumber x number now
  cases ht : x.task? number with
  | none => rwa [stepNumber_of_none ht]
  | some t =>
    have hmem := (task?_some ht).1
    have hfrom {u : ProbeTask} (hu : u ∈ (x.stepNumber number now).tasks) :=
      (turns_stepNumber ht now).mem_tasks h.numbered.nodup hmem hu
    refine ⟨hk.numbered h.numbered, hk.cancelled.trans h.cancelled, h.since, ?_, ?_, ?_⟩
    · intro u hu p hp
      rcases hfrom hu with hold | ⟨v, -, -, rfl⟩ | ⟨q, rfl, hq, -⟩
      · exact h.noted u hold p hp
      · cases hp
      · cases hp
        exact .inr (h.cancelledAt_probeIn? hmem hq)
    · intro hlt u hu
      rcases hfrom hu with hold | ⟨v, hv, hqueued, rfl⟩ | ⟨q, rfl, hq, -⟩
      · exact h.running hlt u hold
      · obtain ⟨p, hp, -⟩ := h.running hlt v hv
        rw [hqueued] at hp
        cases hp
      · exact ⟨q, rfl, h.cancelledAt_probeIn? hmem hq⟩
    · intro _
      rw [hk.config]
      exact h.inTime (List.ne_nil_of_mem hmem)

/-- The clock cannot pass the end of the grace as long as there is a task. -/
theorem WindsDown.clock (h : x.WindsDown stop now) (hle : now ≤ later)
    (hrest : ∀ u, now ≤ u → u < later → x.Quiescent u) : x.WindsDown stop later := by
  have htasks (u : Instant) (hu : now ≤ u) (hlt : u < later) (t : ProbeTask) (ht : t ∈ x.tasks) :
      ∃ p, t.state = .running p ∧ p.cancelledAt = some stop ∧ u < stop.after x.config.grace := by
    rcases (hrest u hu hlt).task_cases h.numbered ht with ⟨-, hc⟩ | ⟨p, hp, hnoted, hends⟩
    · rw [h.cancelled] at hc
      cases hc
    · have hknown := (h.noted t ht p hp).resolve_left (hnoted h.cancelled)
      exact ⟨p, hp, hknown, Nat.lt_of_lt_of_le hends (RunningProbe.endsAt_le_of_cancelledAt hknown _ _ _)⟩
  refine ⟨h.numbered, h.cancelled, Nat.le_trans h.since hle, h.noted, ?_, ?_⟩
  · intro hlt t ht
    rcases Nat.lt_or_ge now.nanos later.nanos with hmoves | hstays
    · obtain ⟨p, hp, hknown, -⟩ := htasks now (Nat.le_refl _) hmoves t ht
      exact ⟨p, hp, hknown⟩
    · exact h.running (Nat.lt_of_lt_of_le hlt hstays) t ht
  · intro hne
    obtain ⟨t, ht⟩ := List.exists_mem_of_ne_nil _ hne
    refine Nat.not_lt.mp fun hlate => ?_
    -- the grace ends between the two instants, and nobody rests then
    obtain ⟨p, -, -, hlt⟩ := htasks (stop.after x.config.grace) (h.inTime hne) hlate t ht
    exact Nat.lt_irrefl _ hlt

theorem WindsDown.sentAt_of_mem (h : x.WindsDown stop now) {number : Nat} {c : Completion}
    (hc : c ∈ (x.stepNumber number now).completions) :
    c ∈ x.completions ∨ stop ≤ c.sentAt ∧ c.sentAt ≤ stop.after x.config.grace := by
  cases ht : x.task? number with
  | none => exact .inl (stepNumber_of_none ht now ▸ hc)
  | some t =>
    refine ((turns_stepNumber ht now).mem_completions hc).imp_right ?_
    rintro ⟨-, hsent, -⟩
    rw [hsent]
    exact ⟨h.since, h.inTime (List.ne_nil_of_mem (task?_some ht).1)⟩

/-- No probe of a target has begun since it was called a number of times: its tasks wait. -/
structure Unbegun (id : TargetId) (calls : Option Nat) (x : Executor) : Prop where
  waits : ∀ t ∈ x.tasks, t.target.id = id → t.state.waits = true
  calls_eq : x.calls.get? id = calls

variable {id : TargetId} {calls : Option Nat}

theorem Unbegun.subside (h : x.Unbegun id calls) (hs : x.Subsides y) : y.Unbegun id calls :=
  ⟨hs.tasks.symm ▸ h.waits, hs.calls.symm ▸ h.calls_eq⟩

theorem not_begins_of_waits {state : TaskState} (h : state.waits = true) : state.begins true = false := by
  cases state with
  | queued => rfl
  | admitted waited =>
    cases waited with
    | true => rfl
    | false => cases h
  | running p => rfl

theorem probeIn?_of_waits (hc : x.cancelled = true) (hw : t.state.waits = true) : x.probeIn? t now = none := by
  cases hs : t.state with
  | queued => rw [probeIn?, hs]
  | admitted waited =>
    have hnot := not_begins_of_waits hw
    rw [hs] at hnot
    simp only [probeIn?, hs, hc, hnot]
    exact if_neg fun h => Bool.false_ne_true h.1
  | running p =>
    rw [hs] at hw
    cases hw

theorem Unbegun.stepNumber (h : x.Unbegun id calls) (hn : x.Numbered) (hc : x.cancelled = true) (number : Nat)
    (now : Instant) :
    (x.stepNumber number now).Unbegun id calls ∧ ∀ c ∈ (x.stepNumber number now).completions,
      c ∈ x.completions ∨ (c.result.targetId = id → c.result = .cancelled id c.sentAt.wallClock) := by
  cases ht : x.task? number with
  | none =>
    rw [stepNumber_of_none ht]
    exact ⟨h, fun c hmem => .inl hmem⟩
  | some t =>
    have hmem := (task?_some ht).1
    have hturn := turns_stepNumber ht now
    have hnone (hid : t.target.id = id) : x.probeIn? t now = none := probeIn?_of_waits hc (h.waits t hmem hid)
    refine ⟨⟨fun u hu hid => ?_, ?_⟩, fun c hsent => ?_⟩
    · rcases hturn.mem_tasks hn.nodup hmem hu with hold | ⟨v, -, -, rfl⟩ | ⟨p, rfl, hp, -⟩
      · exact h.waits u hold hid
      · rfl
      · rw [hnone hid] at hp
        cases hp
    · rw [hturn.get?_calls fun hid => ?_]
      · exact h.calls_eq
      · rw [hc]
        exact not_begins_of_waits (h.waits t hmem hid)
    · refine (hturn.mem_completions hsent).imp_right ?_
      rintro ⟨-, hat, hresult | ⟨p, hp, hr⟩⟩ hid
      · rw [hresult] at hid ⊢
        rw [hat, ← hid]
        rfl
      · rw [RunningProbe.targetId_of_result? hr] at hid
        rw [hnone hid] at hp
        cases hp

def Uncancelled (x : Executor) : Prop :=
  x.cancelled = false ∧ ∀ t ∈ x.tasks, ∀ p, t.state = .running p → p.cancelledAt = none

theorem Uncancelled.windsDown (h : x.Uncancelled) (hn : x.Numbered) (stop : Instant) : x.cancel.WindsDown stop stop where
  numbered := hn.of_tasks rfl rfl rfl
  cancelled := rfl
  since := Nat.le_refl _
  noted t ht p hp := .inl (h.2 t ht p hp)
  running hlt := absurd hlt (Nat.lt_irrefl _)
  inTime _ := Nat.le_add_right _ _

theorem Uncancelled.dispatch (h : x.Uncancelled) (target : Target) (epoch : Nat) (now : Instant) :
    (x.dispatch target epoch now).Uncancelled := by
  refine ⟨(x.fixed_dispatch target epoch now).2.2.1.trans h.1, fun t ht p hp => ?_⟩
  rcases x.tasks_dispatch target epoch now with heq | ⟨state, heq, hstate⟩
  · exact h.2 t (heq ▸ ht) p hp
  · rcases List.mem_append.mp (heq ▸ ht) with hold | hnew
    · exact h.2 t hold p hp
    · rw [List.mem_singleton.mp hnew] at hp
      rcases hstate with rfl | ⟨rfl, -⟩
      · cases hp
      · cases hp

theorem Uncancelled.stepNumber (h : x.Uncancelled) (hn : x.Numbered) (number : Nat) (now : Instant) :
    (x.stepNumber number now).Uncancelled := by
  refine ⟨(keeps_stepNumber x number now).cancelled.trans h.1, ?_⟩
  cases ht : x.task? number with
  | none =>
    rw [stepNumber_of_none ht]
    exact h.2
  | some t =>
    intro u hu p hp
    have hmem := (task?_some ht).1
    rcases (turns_stepNumber ht now).mem_tasks hn.nodup hmem hu with hold | ⟨v, -, -, rfl⟩ | ⟨q, rfl, hq, -⟩
    · exact h.2 u hold p hp
    · cases hp
    · cases hp
      simp only [probeIn?, h.1, Bool.false_eq_true, false_and, if_false] at hq
      split at hq
      · cases hq
      · split at hq
        · cases hq
          rfl
        · cases hq
      · rename_i hs
        exact Option.some.inj hq ▸ h.2 t hmem _ hs

end Executor

end TargetHealth
