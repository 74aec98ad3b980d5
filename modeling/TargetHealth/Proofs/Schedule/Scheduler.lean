import TargetHealth.Proofs.Fault
import TargetHealth.Proofs.Table
import TargetHealth.Schedule.Scheduler

namespace TargetHealth.Scheduler

variable {s t : Scheduler} {id : TargetId}

def epoch? (s : Scheduler) (id : TargetId) : Option Nat := (s.entry? id).map (·.epoch)

def base? (s : Scheduler) (id : TargetId) : Option Duration := (s.entry? id).map (·.baseInterval)

theorem entry?_remove (s : Scheduler) (id id' : TargetId) :
    entry? (s.remove id) id' = if id' = id then none else s.entry? id' := by
  unfold remove
  split
  · rename_i h
    by_cases hid : id' = id
    · rw [if_pos hid, hid]
      exact h
    · rw [if_neg hid]
  · exact Table.get?_erase s.entries id id'

theorem policy_remove (s : Scheduler) (id : TargetId) : (s.remove id).policy = s.policy := by
  unfold remove
  split <;> rfl

theorem inFlight_remove (s : Scheduler) (id : TargetId) : (s.remove id).inFlight = s.inFlight := by
  unfold remove
  split <;> rfl

theorem lastEpoch_remove (s : Scheduler) (id : TargetId) : (s.remove id).lastEpoch = s.lastEpoch := by
  unfold remove
  split <;> rfl

theorem remove_of_unscheduled (h : s.epoch? id = none) : s.remove id = s := by
  have hn : s.entries.get? id = none := Option.map_eq_none_iff.mp h
  simp only [remove, hn]

theorem epoch?_remove (s : Scheduler) (id id' : TargetId) :
    (s.remove id).epoch? id' = if id' = id then none else s.epoch? id' := by
  rw [epoch?, entry?_remove]
  split <;> rfl

theorem entry?_insert (s : Scheduler) (id id' : TargetId) (base : Duration) (firstDue : Instant) :
    entry? (s.insert id base firstDue) id' =
      if id' = id then some ⟨id, firstDue, base, base, s.lastEpoch + 1⟩ else s.entry? id' := by
  have h : entry? (s.insert id base firstDue) id' =
      if id' = id then some ⟨id, firstDue, base, base, (s.remove id).lastEpoch + 1⟩ else entry? (s.remove id) id' :=
    Table.get?_insert (s.remove id).entries id id' _
  rw [h, lastEpoch_remove, entry?_remove]
  by_cases hid : id' = id <;> simp [hid]

theorem epoch?_insert (s : Scheduler) (id id' : TargetId) (base : Duration) (firstDue : Instant) :
    (s.insert id base firstDue).epoch? id' = if id' = id then some (s.lastEpoch + 1) else s.epoch? id' := by
  rw [epoch?, entry?_insert]
  split <;> rfl

theorem base?_remove (s : Scheduler) (id id' : TargetId) :
    (s.remove id).base? id' = if id' = id then none else s.base? id' := by
  rw [base?, entry?_remove]
  split <;> rfl

theorem base?_insert (s : Scheduler) (id id' : TargetId) (base : Duration) (firstDue : Instant) :
    (s.insert id base firstDue).base? id' = if id' = id then some base else s.base? id' := by
  rw [base?, entry?_insert]
  split <;> rfl

theorem policy_insert (s : Scheduler) (id : TargetId) (base : Duration) (firstDue : Instant) :
    (s.insert id base firstDue).policy = s.policy := policy_remove s id

theorem inFlight_insert (s : Scheduler) (id : TargetId) (base : Duration) (firstDue : Instant) :
    (s.insert id base firstDue).inFlight = s.inFlight := inFlight_remove s id

theorem lastEpoch_insert (s : Scheduler) (id : TargetId) (base : Duration) (firstDue : Instant) :
    (s.insert id base firstDue).lastEpoch = s.lastEpoch + 1 := by
  rw [← lastEpoch_remove s id]
  rfl

theorem markInFlight_eq_some {n : Nat} (h : s.markInFlight id = some (n, t)) :
    s.inFlight.get? id = none ∧ s.epoch? id = some n ∧ t = { s with inFlight := s.inFlight.insert id n } := by
  unfold markInFlight at h
  split at h
  · cases h
  · rename_i hf
    obtain ⟨e, he, heq⟩ := Option.map_eq_some_iff.mp h
    cases heq
    have hn : s.inFlight.get? id = none := by
      simpa only [isInFlight, Table.contains, Bool.not_eq_true, Option.isSome_eq_false_iff,
        Option.isNone_iff_eq_none] using hf
    exact ⟨hn, by rw [epoch?, he]; rfl, rfl⟩

theorem finish_of_marked {n : Nat} (h : s.inFlight.get? id = some n) :
    s.finish id n = (decide (s.epoch? id = some n), { s with inFlight := s.inFlight.erase id }) := by
  rw [finish, if_pos h]
  rfl

structure Retimes (s t : Scheduler) : Prop where
  epochs : ∀ id, t.epoch? id = s.epoch? id
  inFlight : t.inFlight = s.inFlight
  lastEpoch : t.lastEpoch = s.lastEpoch

theorem retimes_refl (s : Scheduler) : s.Retimes s := ⟨fun _ => rfl, rfl, rfl⟩

theorem epoch?_of_insert_entry {e e' : ScheduleEntry} (he : s.entry? id = some e)
    (ht : t.entries = s.entries.insert id e') (hepoch : e'.epoch = e.epoch) (id' : TargetId) :
    t.epoch? id' = s.epoch? id' := by
  have h : t.entry? id' = if id' = id then some e' else s.entry? id' := by
    unfold entry?
    rw [ht]
    exact Table.get?_insert s.entries id id' e'
  rw [epoch?, h, epoch?]
  by_cases hid : id' = id
  · rw [if_pos hid, hid, he]
    exact congrArg some hepoch
  · rw [if_neg hid]

theorem retimes_reschedule {now : Instant} {multiplier : Nat} {entry : Option ScheduleEntry}
    (h : s.reschedule id now multiplier = .ok (entry, t)) : s.Retimes t := by
  unfold reschedule at h
  cases he : s.entry? id with
  | none =>
    simp only [he, Except.ok.injEq, Prod.mk.injEq] at h
    exact h.2 ▸ retimes_refl s
  | some e =>
    simp only [he] at h
    obtain ⟨next, -, heq⟩ := exists_of_bind_eq_ok h
    cases heq
    refine ⟨fun id' => ?_, rfl, rfl⟩
    apply epoch?_of_insert_entry he
    · rfl
    · rfl

theorem retimes_interrupt (s : Scheduler) (id : TargetId) (multiplier : Nat) : s.Retimes (s.interrupt id multiplier) := by
  unfold interrupt
  cases he : s.entry? id with
  | none => exact retimes_refl s
  | some e =>
    refine ⟨fun id' => ?_, rfl, rfl⟩
    apply epoch?_of_insert_entry he
    · rfl
    · rfl

end TargetHealth.Scheduler
