import TargetHealth.Proofs.Schedule.Timetable

namespace TargetHealth

theorem BackoffPolicy.interval_pos (p : BackoffPolicy) {base : Duration} (h : 0 < base.nanos) (multiplier : Nat) :
    0 < (p.interval base multiplier).nanos := by
  have hlong : 0 < base.nanos * max multiplier 1 := Nat.mul_pos h (by omega)
  have hlimit : 0 < Duration.limit - 1 := by decide
  change 0 < min (min (base.nanos * max multiplier 1) (Duration.limit - 1)) (max p.maxInterval.nanos base.nanos)
  omega

/-- An entry without the epoch under which it was made. Epochs are numbered over all targets. -/
def ScheduleEntry.unnumbered (e : ScheduleEntry) : ScheduleEntry := { e with epoch := 0 }

namespace DueQueue

theorem mem_erase_iff {a slot : Instant × TargetId} {q : DueQueue} : a ∈ erase slot q ↔ a ∈ q ∧ a ≠ slot := by
  rw [erase, List.mem_filter, decide_eq_true_eq]

end DueQueue

namespace Scheduler

variable {s t : Scheduler} {id id' : TargetId}

theorem ascending_remove (h : s.entries.Ascending) (id : TargetId) : (s.remove id).entries.Ascending := by
  unfold remove
  split
  · exact h
  · exact h.erase id

theorem ascending_insert (h : s.entries.Ascending) (id : TargetId) (base : Duration) (firstDue : Instant) :
    (s.insert id base firstDue).entries.Ascending := (ascending_remove h id).insert id _

theorem ascending_reschedule {now : Instant} {multiplier : Nat} {entry : Option ScheduleEntry} (h : s.entries.Ascending)
    (hr : s.reschedule id now multiplier = .ok (entry, t)) : t.entries.Ascending := by
  rcases reschedule_eq_ok hr with ⟨-, -, rfl⟩ | ⟨e, e', -, -, -, -, rfl⟩
  · exact h
  · exact h.insert id e'

theorem ascending_interrupt (h : s.entries.Ascending) (id : TargetId) (multiplier : Nat) :
    (s.interrupt id multiplier).entries.Ascending := by
  unfold interrupt
  split
  · exact h
  · exact h.insert id _

theorem entry?_insert_entry {e : ScheduleEntry} (ht : t.entries = s.entries.insert id e) (id' : TargetId) :
    t.entry? id' = if id' = id then some e else s.entry? id' := by
  unfold entry?
  rw [ht]
  exact Table.get?_insert s.entries id id' e

theorem policy_reschedule {now : Instant} {multiplier : Nat} {entry : Option ScheduleEntry}
    (h : s.reschedule id now multiplier = .ok (entry, t)) : t.policy = s.policy := by
  rcases reschedule_eq_ok h with ⟨-, -, rfl⟩ | ⟨e, e', -, -, -, -, rfl⟩ <;> rfl

theorem entry?_reschedule_of_ne {now : Instant} {multiplier : Nat} {entry : Option ScheduleEntry}
    (h : s.reschedule id now multiplier = .ok (entry, t)) (hid : id' ≠ id) : t.entry? id' = s.entry? id' := by
  rcases reschedule_eq_ok h with ⟨-, -, rfl⟩ | ⟨e, e', -, -, -, -, rfl⟩
  · rfl
  · exact (entry?_insert_entry rfl id').trans (if_neg hid)

theorem policy_interrupt (s : Scheduler) (id : TargetId) (multiplier : Nat) :
    (s.interrupt id multiplier).policy = s.policy := by
  unfold interrupt
  split <;> rfl

theorem entry?_interrupt_of_ne (s : Scheduler) (multiplier : Nat) (hid : id' ≠ id) :
    entry? (s.interrupt id multiplier) id' = s.entry? id' := by
  unfold interrupt
  split
  · rfl
  · exact (entry?_insert_entry rfl id').trans (if_neg hid)

theorem base?_insert_entry {e e' : ScheduleEntry} (he : s.entry? id = some e) (ht : t.entries = s.entries.insert id e')
    (hbase : e'.baseInterval = e.baseInterval) (id' : TargetId) : t.base? id' = s.base? id' := by
  rw [base?, base?, entry?_insert_entry ht]
  by_cases hid : id' = id
  · rw [if_pos hid, hid, he]
    exact congrArg some hbase
  · rw [if_neg hid]

theorem base?_reschedule {now : Instant} {multiplier : Nat} {entry : Option ScheduleEntry}
    (h : s.reschedule id now multiplier = .ok (entry, t)) (id' : TargetId) : t.base? id' = s.base? id' := by
  rcases reschedule_eq_ok h with ⟨-, -, rfl⟩ | ⟨e, e', he, -, -, he', rfl⟩
  · rfl
  · have hbase : e'.baseInterval = e.baseInterval := by rw [he']
    exact base?_insert_entry he rfl hbase id'

theorem base?_interrupt (s : Scheduler) (id : TargetId) (multiplier : Nat) (id' : TargetId) :
    base? (s.interrupt id multiplier) id' = s.base? id' := by
  unfold interrupt
  split
  · rfl
  · rename_i e he
    have hbase : { e with currentInterval := s.policy.interval e.baseInterval multiplier }.baseInterval = e.baseInterval := rfl
    exact base?_insert_entry he rfl hbase id'

theorem overflow_of_reschedule {now : Instant} {multiplier : Nat} {fault : Fault} (h : s.reschedule id now multiplier = .error fault) :
    ∃ e, entry? (s.interrupt id multiplier) id = some e ∧
      Instant.limit ≤ now.nanos + e.currentInterval.nanos := by
  unfold reschedule at h
  split at h
  · cases h
  · rename_i e he
    refine ⟨{ e with currentInterval := s.policy.interval e.baseInterval multiplier }, ?_, ?_⟩
    · unfold interrupt
      rw [he]
      exact (entry?_insert_entry rfl id).trans (if_pos rfl)
    · refine Nat.not_lt.mp fun hfits => ?_
      have hnext : now.add? (s.policy.interval e.baseInterval multiplier) =
          .ok (now.after (s.policy.interval e.baseInterval multiplier)) := if_pos hfits
      dsimp only at h
      rw [hnext] at h
      cases h

/-- A schedule of positive intervals in which no place of the due queue is wrong. A target may be without one. -/
structure Filed (s : Scheduler) : Prop where
  sorted : s.queue.Pairwise DueQueue.Before
  placed : ∀ time id, (time, id) ∈ s.queue → ∃ e, s.entry? id = some e ∧ e.nextDue = time
  positive : ∀ id e, s.entry? id = some e → 0 < e.baseInterval.nanos

theorem Queued.filed (h : s.Queued) (hpos : ∀ id e, s.entry? id = some e → 0 < e.baseInterval.nanos) : s.Filed :=
  ⟨h.sorted, fun time id => (h.mem_queue_iff time id).mp, hpos⟩

theorem Filed.withMarks (h : s.Filed) (marks : Table TargetId Nat) : Filed { s with inFlight := marks } :=
  ⟨h.sorted, h.placed, h.positive⟩

theorem Filed.mem_due_iff (h : s.Filed) (now : Instant) (id : TargetId) :
    id ∈ s.due now ↔ ∃ time, (time, id) ∈ s.queue ∧ time ≤ now ∧ s.inFlight.get? id = none := by
  rw [due, DueQueue.takeWhile_eq_filter h.sorted]
  simp only [List.mem_map, List.mem_filter, Prod.exists, decide_eq_true_eq, Bool.not_eq_true',
    isInFlight_eq_false_iff, and_assoc]
  constructor
  · rintro ⟨time, _, hmem, hle, hopen, rfl⟩
    exact ⟨time, hmem, hle, hopen⟩
  · rintro ⟨time, hmem, hle, hopen⟩
    exact ⟨time, id, hmem, hle, hopen, rfl⟩

theorem Filed.nodup_due (h : s.Filed) (now : Instant) : (s.due now).Nodup := by
  have hsub : ((s.queue.takeWhile (fun slot => slot.1 ≤ now)).filter (fun slot => !s.isInFlight slot.2)).Sublist s.queue :=
    List.filter_sublist.trans (List.takeWhile_sublist _)
  refine List.pairwise_map.mpr ((h.sorted.sublist hsub).imp_of_mem ?_)
  rintro ⟨time, a⟩ ⟨time', b⟩ ha hb hbefore hid
  obtain ⟨e, he, rfl⟩ := h.placed _ _ (hsub.subset ha)
  obtain ⟨f, hf, rfl⟩ := h.placed _ _ (hsub.subset hb)
  obtain rfl : a = b := hid
  rw [he] at hf
  cases hf
  exact DueQueue.before_irrefl _ hbefore

theorem Filed.ne_of_unscheduled (h : s.Filed) (hn : s.entry? id = none) {slot : Instant × TargetId}
    (hslot : slot ∈ s.queue) : slot.2 ≠ id := by
  intro hid
  obtain ⟨f, hf, -⟩ := h.placed slot.1 slot.2 hslot
  rw [hid, hn] at hf
  cases hf

theorem Filed.mem_erase_iff {e : ScheduleEntry} (h : s.Filed) (he : s.entry? id = some e) {slot : Instant × TargetId} :
    slot ∈ DueQueue.erase (e.nextDue, id) s.queue ↔ slot ∈ s.queue ∧ slot.2 ≠ id := by
  rw [DueQueue.mem_erase_iff]
  refine and_congr_right fun hmem => not_congr ⟨fun heq => congrArg Prod.snd heq, fun hid => ?_⟩
  obtain ⟨f, hf, hdue⟩ := h.placed slot.1 slot.2 hmem
  rw [hid, he] at hf
  cases hf
  exact Prod.ext hdue.symm hid

theorem Filed.mem_queue_remove_iff (h : s.Filed) {slot : Instant × TargetId} :
    slot ∈ (s.remove id).queue ↔ slot ∈ s.queue ∧ slot.2 ≠ id := by
  unfold Scheduler.remove
  split
  · rename_i hn
    exact ⟨fun hslot => ⟨hslot, h.ne_of_unscheduled hn hslot⟩, And.left⟩
  · rename_i e he
    exact h.mem_erase_iff he

theorem Filed.remove (h : s.Filed) (id : TargetId) : (s.remove id).Filed where
  sorted := by
    unfold Scheduler.remove
    split
    · exact h.sorted
    · exact h.sorted.filter _
  placed time id' hslot := by
    obtain ⟨hslot, hne⟩ := h.mem_queue_remove_iff.mp hslot
    rw [entry?_remove, if_neg hne]
    exact h.placed time id' hslot
  positive id' e he := by
    rw [entry?_remove] at he
    split at he
    · cases he
    · exact h.positive id' e he

theorem Filed.mem_queue_insert_iff (h : s.Filed) {base : Duration} {firstDue : Instant} {slot : Instant × TargetId} :
    slot ∈ (s.insert id base firstDue).queue ↔ slot = (firstDue, id) ∨ slot ∈ s.queue ∧ slot.2 ≠ id :=
  DueQueue.mem_insert_iff.trans (or_congr_right h.mem_queue_remove_iff)

theorem Filed.insert (h : s.Filed) (id : TargetId) {base : Duration} (hbase : 0 < base.nanos) (firstDue : Instant) :
    (s.insert id base firstDue).Filed where
  sorted := DueQueue.pairwise_insert (h.remove id).sorted _
  placed time id' hslot := by
    rw [entry?_insert]
    rcases h.mem_queue_insert_iff.mp hslot with heq | ⟨hslot, hne⟩
    · cases heq
      exact ⟨_, if_pos rfl, rfl⟩
    · rw [if_neg hne]
      exact h.placed time id' hslot
  positive id' e he := by
    rw [entry?_insert] at he
    split at he
    · cases he
      exact hbase
    · exact h.positive id' e he

/-- An entry that is moved gives up its place, and has at most its new one. -/
theorem Filed.move {e e' : ScheduleEntry} (h : s.Filed) (he : s.entry? id = some e)
    (ht : t.entries = s.entries.insert id e') (hbase : e'.baseInterval = e.baseInterval)
    (hsorted : t.queue.Pairwise DueQueue.Before)
    (hq : ∀ slot ∈ t.queue, slot = (e'.nextDue, id) ∨ slot ∈ DueQueue.erase (e.nextDue, id) s.queue) :
    t.Filed ∧ ∀ slot ∈ t.queue, slot = (e'.nextDue, id) ∨ slot ∈ s.queue ∧ slot.2 ≠ id := by
  have hold : ∀ slot ∈ t.queue, slot = (e'.nextDue, id) ∨ slot ∈ s.queue ∧ slot.2 ≠ id :=
    fun slot hslot => (hq slot hslot).imp_right (h.mem_erase_iff he).mp
  refine ⟨⟨hsorted, fun time id' hmem => ?_, fun id' f hf => ?_⟩, hold⟩
  · rcases hold _ hmem with heq | ⟨hmem, hne⟩
    · cases heq
      exact ⟨e', (entry?_insert_entry ht id).trans (if_pos rfl), rfl⟩
    · obtain ⟨f, hf, hdue⟩ := h.placed time id' hmem
      exact ⟨f, (entry?_insert_entry ht id').trans ((if_neg hne).trans hf), hdue⟩
  · rw [entry?_insert_entry ht] at hf
    split at hf
    · cases hf
      exact hbase ▸ h.positive id e he
    · exact h.positive id' f hf

theorem Filed.reschedule {now : Instant} {multiplier : Nat} {entry : Option ScheduleEntry} (h : s.Filed)
    (hr : s.reschedule id now multiplier = .ok (entry, t)) :
    t.Filed ∧ ∀ slot ∈ t.queue, slot.1 ≤ now → slot ∈ s.queue ∧ slot.2 ≠ id := by
  rcases reschedule_eq_ok hr with ⟨hn, -, rfl⟩ | ⟨e, e', he, -, -, hmoved, ht⟩
  · exact ⟨h, fun slot hslot _ => ⟨hslot, h.ne_of_unscheduled hn hslot⟩⟩
  · have hlater : ¬ e'.nextDue ≤ now := by
      have hpos := s.policy.interval_pos (h.positive id e he) multiplier
      rw [hmoved]
      exact Nat.not_le.mpr (Nat.lt_add_of_pos_right hpos)
    have hbase : e'.baseInterval = e.baseInterval := by rw [hmoved]
    have hqueue : t.queue = DueQueue.insert (e'.nextDue, id) (DueQueue.erase (e.nextDue, id) s.queue) :=
      congrArg Scheduler.queue ht
    obtain ⟨hfiled, hold⟩ := h.move he (congrArg Scheduler.entries ht) hbase
      (hqueue ▸ DueQueue.pairwise_insert (h.sorted.filter _) _)
      fun _ hslot => DueQueue.mem_of_mem_insert (hqueue ▸ hslot)
    refine ⟨hfiled, fun slot hslot hle => (hold slot hslot).resolve_left ?_⟩
    rintro rfl
    exact hlater hle

theorem Filed.interrupt (h : s.Filed) (id : TargetId) (multiplier : Nat) :
    (s.interrupt id multiplier).Filed ∧
      ∀ slot ∈ (s.interrupt id multiplier).queue, slot ∈ s.queue ∧ slot.2 ≠ id := by
  unfold Scheduler.interrupt
  split
  · rename_i hn
    exact ⟨h, fun slot hslot => ⟨hslot, h.ne_of_unscheduled hn hslot⟩⟩
  · rename_i e he
    obtain ⟨hfiled, hold⟩ := h.move (t := { s with
      entries := s.entries.insert id { e with currentInterval := s.policy.interval e.baseInterval multiplier }
      queue := DueQueue.erase (e.nextDue, id) s.queue }) he rfl rfl (h.sorted.filter _) fun _ hmem => .inr hmem
    refine ⟨hfiled, fun slot hslot => (hold slot hslot).resolve_left ?_⟩
    rintro rfl
    exact (DueQueue.mem_erase_iff.mp hslot).2 rfl

end Scheduler

end TargetHealth
