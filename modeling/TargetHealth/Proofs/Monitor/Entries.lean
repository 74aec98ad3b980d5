import TargetHealth.Proofs.Monitor.SingleFlight
import TargetHealth.Proofs.Schedule.Entries

namespace TargetHealth

namespace Roster

variable {r r' : Roster} {id : TargetId}

def probe? (r : Roster) (id : TargetId) : Option (Target × Nat) :=
  (r.registry.get? id).bind fun t => (r.scheduler.epoch? id).map fun n => (t, n)

theorem probe?_eq_some_iff {t : Target} {n : Nat} :
    r.probe? id = some (t, n) ↔ r.registry.get? id = some t ∧ r.scheduler.epoch? id = some n := by
  cases hreg : r.registry.get? id <;> cases he : r.scheduler.epoch? id <;> simp [probe?, hreg, he]

theorem dispatchOne_eq_probe? (hf : r.scheduler.inFlight.get? id = none) : (r.dispatchOne id).1 = r.probe? id := by
  unfold dispatchOne probe?
  cases hreg : r.registry.get? id with
  | none => rfl
  | some t =>
    have hopen : r.scheduler.isInFlight id = false := (r.scheduler.isInFlight_eq_false_iff id).mpr hf
    cases he : r.scheduler.entry? id <;> simp [Scheduler.markInFlight, hopen, Scheduler.epoch?, he]

theorem Aligned.dispatchDue_eq (h : r.Aligned) (now : Instant) :
    (r.dispatchDue now).2 = r.withMarks (r.dispatchDue now).2.scheduler.inFlight := by
  refine And.right (dispatchAll_induction (P := fun _ u => u.Aligned ∧ u = r.withMarks u.scheduler.inFlight) ?_
    (r.scheduler.due now) [] r ⟨h, rfl⟩)
  rintro batch u id ⟨hu, heq⟩
  rcases hu.dispatchOne id with hone | ⟨t, n, -, he, hf, hone⟩
  · rw [hone]
    exact ⟨hu, heq⟩
  · rw [hone]
    refine ⟨hu.insert_mark he hf, ?_⟩
    rw [heq]
    rfl

theorem Aligned.marks_dispatchDue (h : r.Aligned) (now : Instant) :
    (r.dispatchDue now).2.registry = r.registry ∧ (r.dispatchDue now).2.store = r.store ∧
      (∀ id, (r.dispatchDue now).2.scheduler.epoch? id = r.scheduler.epoch? id) ∧
      (∀ id n, (r.dispatchDue now).2.scheduler.inFlight.get? id = some n →
        r.scheduler.inFlight.get? id = some n ∨ (id, n) ∈ (r.dispatchDue now).1.map batchLabel) ∧
      ∀ id n, (id, n) ∈ (r.dispatchDue now).1.map batchLabel → r.scheduler.epoch? id = some n := by
  refine And.right (dispatchAll_induction (P := fun batch u => u.Aligned ∧ u.registry = r.registry ∧ u.store = r.store ∧
    (∀ id, u.scheduler.epoch? id = r.scheduler.epoch? id) ∧
    (∀ id n, u.scheduler.inFlight.get? id = some n →
      r.scheduler.inFlight.get? id = some n ∨ (id, n) ∈ batch.map batchLabel) ∧
    ∀ id n, (id, n) ∈ batch.map batchLabel → r.scheduler.epoch? id = some n) ?_ (r.scheduler.due now) [] r
    ⟨h, rfl, rfl, fun _ => rfl, fun _ _ hm => .inl hm, fun _ _ hm => by simp at hm⟩)
  rintro batch u id ⟨hu, hreg, hst, hepoch, hmarks, hbatch⟩
  rcases hu.dispatchOne id with heq | ⟨t, n, rfl, he, hf, heq⟩
  · rw [heq, Option.toList_none, List.append_nil]
    exact ⟨hu, hreg, hst, hepoch, hmarks, hbatch⟩
  · rw [heq, Option.toList_some, List.map_append, List.map_singleton]
    refine ⟨hu.insert_mark he hf, hreg, hst, hepoch, ?_, ?_⟩
    · intro id' n' hm
      have hm : (u.scheduler.inFlight.insert t.id n).get? id' = some n' := hm
      rw [Table.get?_insert] at hm
      split at hm
      · rename_i hid
        cases hm
        exact .inr (List.mem_append_right _ (hid ▸ List.mem_singleton_self _))
      · exact (hmarks id' n' hm).imp_right (List.mem_append_left _)
    · intro id' n' hm
      rcases List.mem_append.mp hm with hm | hm
      · exact hbatch id' n' hm
      · cases List.mem_singleton.mp hm
        exact hepoch t.id ▸ he

theorem Aligned.dispatchAll_eq (ids : List TargetId) (h : r.Aligned) (hn : ids.Nodup)
    (hf : ∀ id ∈ ids, r.scheduler.inFlight.get? id = none) : (r.dispatchAll ids).1 = ids.filterMap r.probe? := by
  induction ids generalizing r with
  | nil => rfl
  | cons id ids ih =>
    obtain ⟨hid, hn⟩ := List.nodup_cons.mp hn
    have hone : (r.dispatchOne id).1 = r.probe? id := dispatchOne_eq_probe? (hf id List.mem_cons_self)
    have hrest : ((r.dispatchOne id).2.dispatchAll ids).1 = ids.filterMap r.probe? := by
      rcases h.dispatchOne id with heq | ⟨t, n, -, he, hopen, heq⟩
      · rw [heq]
        exact ih h hn fun id' hid' => hf id' (List.mem_cons_of_mem _ hid')
      · rw [heq]
        refine ih (h.insert_mark he hopen) hn fun id' hid' => ?_
        have hne : id' ≠ id := fun heq => hid (heq ▸ hid')
        exact (Table.get?_insert _ _ _ _).trans ((if_neg hne).trans (hf id' (List.mem_cons_of_mem _ hid')))
    rw [dispatchAll]
    dsimp only
    rw [hone, hrest]
    cases hp : r.probe? id <;> simp [hp]

theorem inFlight_of_mem_due {now : Instant} (hid : id ∈ r.scheduler.due now) : r.scheduler.inFlight.get? id = none := by
  obtain ⟨slot, hslot, rfl⟩ := List.mem_map.mp hid
  have hopen := (List.mem_filter.mp hslot).2
  rwa [Bool.not_eq_true', Scheduler.isInFlight_eq_false_iff] at hopen

theorem Aligned.batch_eq (h : r.Aligned) {now : Instant} (hn : (r.scheduler.due now).Nodup) :
    (r.dispatchDue now).1 = (r.scheduler.due now).filterMap r.probe? :=
  h.dispatchAll_eq _ hn fun _ => inFlight_of_mem_due

theorem Aligned.exists_of_mem_due (h : r.Aligned) (hf : r.scheduler.Filed) {now : Instant}
    (hid : id ∈ r.scheduler.due now) : ∃ t n, r.registry.get? id = some t ∧ r.scheduler.epoch? id = some n := by
  obtain ⟨time, hplace, -⟩ := (hf.mem_due_iff now id).mp hid
  obtain ⟨e, he, -⟩ := hf.placed time id hplace
  have hepoch : r.scheduler.epoch? id = some e.epoch := by rw [Scheduler.epoch?, he]; rfl
  obtain ⟨t, ht⟩ := Option.isSome_iff_exists.mp (h.scheduled id (Option.isSome_of_eq_some hepoch))
  exact ⟨t, e.epoch, ht, hepoch⟩

theorem Aligned.mem_ids_of_mem_due (h : r.Aligned) (hf : r.scheduler.Filed) {now : Instant}
    (hid : id ∈ r.scheduler.due now) : id ∈ r.registry.current.ids := by
  obtain ⟨t, -, hreg, -⟩ := h.exists_of_mem_due hf hid
  rw [RegistrySnapshot.mem_ids_iff]
  exact Option.isSome_iff_exists.mpr ⟨t, hreg⟩

theorem Aligned.ids_batch (h : r.Aligned) (hf : r.scheduler.Filed) (now : Instant) :
    ((r.dispatchDue now).1.map fun b => b.1.id) = r.scheduler.due now := by
  have hsome : ∀ id ∈ r.scheduler.due now, (r.probe? id).map (fun b => b.1.id) = some id := by
    intro id hid
    obtain ⟨t, n, hreg, hepoch⟩ := h.exists_of_mem_due hf hid
    rw [probe?_eq_some_iff.mpr ⟨hreg, hepoch⟩]
    exact congrArg some (h.keyed.id_eq hreg)
  rw [h.batch_eq (hf.nodup_due now), List.map_filterMap, List.filterMap_congr hsome, List.filterMap_some]

theorem Aligned.mem_batch_iff (h : r.Aligned) {now : Instant} (hn : (r.scheduler.due now).Nodup) (n : Nat) :
    (id, n) ∈ (r.dispatchDue now).1.map batchLabel ↔ id ∈ r.scheduler.due now ∧ r.scheduler.epoch? id = some n := by
  rw [h.batch_eq hn, List.mem_map]
  constructor
  · rintro ⟨⟨t, n'⟩, hb, hlabel⟩
    obtain ⟨id', hid', hp⟩ := List.mem_filterMap.mp hb
    obtain ⟨hreg, he⟩ := probe?_eq_some_iff.mp hp
    cases hlabel
    exact h.keyed.id_eq hreg ▸ ⟨hid', he⟩
  · rintro ⟨hid, he⟩
    obtain ⟨t, ht⟩ := Option.isSome_iff_exists.mp (h.scheduled id (Option.isSome_of_eq_some he))
    exact ⟨(t, n), List.mem_filterMap.mpr ⟨id, hid, probe?_eq_some_iff.mpr ⟨ht, he⟩⟩,
      Prod.ext (h.keyed.id_eq ht) rfl⟩

theorem Aligned.inFlight_dispatchDue_iff (h : r.Aligned) {now : Instant} (hn : (r.scheduler.due now).Nodup) (n : Nat) :
    (r.dispatchDue now).2.scheduler.inFlight.get? id = some n ↔
      (id ∈ r.scheduler.due now ∧ r.scheduler.epoch? id = some n) ∨ r.scheduler.inFlight.get? id = some n := by
  obtain ⟨ha, hmarks⟩ := h.dispatchDue now
  rw [Table.get?_eq_some_iff ha.unique, Table.get?_eq_some_iff h.unique, ← h.mem_batch_iff hn, ← Multiset.mem_coe,
    hmarks, Multiset.mem_add, Multiset.mem_coe, Multiset.mem_coe]

theorem frame_reschedule (r : Roster) (id : TargetId) (now : Instant) (multiplier : Nat) :
    (r.reschedule id now multiplier).2.scheduler.policy = r.scheduler.policy ∧
      ∀ id', id' ≠ id → (r.reschedule id now multiplier).2.scheduler.entry? id' = r.scheduler.entry? id' := by
  unfold reschedule
  split
  · rename_i h
    exact ⟨Scheduler.policy_reschedule h, fun _ hid => Scheduler.entry?_reschedule_of_ne h hid⟩
  · exact ⟨Scheduler.policy_interrupt _ _ _, fun _ hid => Scheduler.entry?_interrupt_of_ne _ _ hid⟩

theorem lastEpoch_complete {c : Completion} (hm : r.scheduler.inFlight.get? c.result.targetId = some c.epoch)
    (now : Instant) : (r.complete c now).2.scheduler.lastEpoch = r.scheduler.lastEpoch := by
  by_cases hc : r.scheduler.epoch? c.result.targetId = some c.epoch
  · exact (complete_of_current hm hc now).2.2.lastEpoch
  · rw [complete_of_stale hm hc now]
    rfl

theorem frame_complete {c : Completion} (hm : r.scheduler.inFlight.get? c.result.targetId = some c.epoch)
    (now : Instant) :
    (r.complete c now).2.scheduler.policy = r.scheduler.policy ∧
      ∀ id, id ≠ c.result.targetId → (r.complete c now).2.scheduler.entry? id = r.scheduler.entry? id := by
  by_cases he : r.scheduler.epoch? c.result.targetId = some c.epoch
  · obtain ⟨u, -, hsch, -, heq⟩ := complete_eq_reschedule hm he
    obtain ⟨hpolicy, hframe⟩ := u.frame_reschedule c.result.targetId now
      ((u.store.backoffMultiplier? c.result.targetId).getD 1)
    rw [heq]
    rw [hsch] at hpolicy hframe
    exact ⟨hpolicy, hframe⟩
  · rw [complete_of_stale hm he]
    exact ⟨rfl, fun _ _ => rfl⟩

/-- The report of a probe whose target has still its epoch makes the target due again one interval later, where the
interval goes by the multiplier that the store has after the report. -/
theorem entry?_complete {c : Completion} {e : ScheduleEntry} {now : Instant}
    (hm : r.scheduler.inFlight.get? c.result.targetId = some c.epoch)
    (he : r.scheduler.entry? c.result.targetId = some e) (hepoch : e.epoch = c.epoch)
    (hf : (r.complete c now).1 = none) :
    let multiplier := ((r.complete c now).2.store.backoffMultiplier? c.result.targetId).getD 1
    let interval := r.scheduler.policy.interval e.baseInterval multiplier
    now.nanos + interval.nanos < Instant.limit ∧ (r.complete c now).2.scheduler.entry? c.result.targetId =
      some { e with nextDue := now.after interval, currentInterval := interval } := by
  have hcurrent : r.scheduler.epoch? c.result.targetId = some c.epoch := by rw [Scheduler.epoch?, he, ← hepoch]; rfl
  obtain ⟨u, -, hsch, -, heq⟩ := complete_eq_reschedule hm hcurrent
  have hst := (u.store_reschedule c.result.targetId now ((u.store.backoffMultiplier? c.result.targetId).getD 1)).1
  rw [heq] at hf ⊢
  rw [hst]
  generalize (u.store.backoffMultiplier? c.result.targetId).getD 1 = multiplier at hf ⊢
  have hpolicy : u.scheduler.policy = r.scheduler.policy := by rw [hsch]; rfl
  have hu : u.scheduler.entry? c.result.targetId = some e := by rw [hsch]; exact he
  unfold reschedule at hf ⊢
  split
  · rename_i entry s hs
    obtain ⟨hn, -⟩ | ⟨e', e'', he', -, hfits, hmoved, rfl⟩ := Scheduler.reschedule_eq_ok hs
    · rw [hu] at hn
      cases hn
    · rw [hu] at he'
      cases he'
      rw [hpolicy] at hmoved
      rw [hmoved] at hfits
      refine ⟨hfits, ?_⟩
      exact (Scheduler.entry?_insert_entry rfl _).trans ((if_pos rfl).trans (congrArg some hmoved))
  · rename_i fault hs
    rw [hs] at hf
    cases hf

/-- A completion that cannot be processed belongs to a target whose next due time lies past the end of the clock. -/
theorem overflow_of_complete {c : Completion} {now : Instant} {fault : Fault}
    (hm : r.scheduler.inFlight.get? c.result.targetId = some c.epoch) (hf : (r.complete c now).1 = some fault) :
    ∃ e, (r.complete c now).2.scheduler.entry? c.result.targetId = some e ∧
      Instant.limit ≤ now.nanos + e.currentInterval.nanos := by
  by_cases he : r.scheduler.epoch? c.result.targetId = some c.epoch
  · obtain ⟨u, -, -, -, heq⟩ := complete_eq_reschedule hm he
    rw [heq] at hf ⊢
    unfold reschedule at hf ⊢
    split
    · rename_i hr
      rw [hr] at hf
      cases hf
    · rename_i hr
      exact Scheduler.overflow_of_reschedule hr
  · rw [complete_of_stale hm he] at hf
    cases hf

theorem frame_follow {diff : RegistryDiff} {snapshot : RegistrySnapshot} {firstDue : TargetId → Instant}
    (h : r.follow diff snapshot firstDue = .ok r') :
    r'.scheduler.policy = r.scheduler.policy ∧
      ∀ id, ¬ diff.Touches id → r'.scheduler.entry? id = r.scheduler.entry? id := by
  have hdiscard : (diff.removed.foldl discard r).scheduler.policy = r.scheduler.policy ∧
      ∀ id, ¬ diff.Touches id → (diff.removed.foldl discard r).scheduler.entry? id = r.scheduler.entry? id := by
    refine List.foldlRecOn (motive := fun u : Roster => u.scheduler.policy = r.scheduler.policy ∧
      ∀ id, ¬ diff.Touches id → u.scheduler.entry? id = r.scheduler.entry? id) diff.removed _ ⟨rfl, fun _ _ => rfl⟩ ?_
    rintro u ⟨hp, hu⟩ id' hid'
    refine ⟨(Scheduler.policy_remove _ _).trans hp, fun id hid => ?_⟩
    have hne : id ≠ id' := fun heq => hid (heq ▸ .inr (.inl hid'))
    exact (Scheduler.entry?_remove _ _ _).trans ((if_neg hne).trans (hu id hid))
  refine foldlM_preserves (P := fun u => u.scheduler.policy = r.scheduler.policy ∧
    ∀ id, ¬ diff.Touches id → u.scheduler.entry? id = r.scheduler.entry? id) (diff.added ++ diff.changed) ?_ h hdiscard
  rintro id' hid' u v huv ⟨hp, hu⟩
  cases ht : snapshot.get? id' with
  | none =>
    simp only [enroll, ht] at huv
    cases huv
    exact ⟨hp, hu⟩
  | some target =>
    obtain ⟨store, -, rfl⟩ := enroll_eq_ok ht huv
    refine ⟨(Scheduler.policy_insert _ _ _ _).trans hp, fun id hid => ?_⟩
    have hne : id ≠ id' := fun heq => hid (heq ▸ (List.mem_append.mp hid').imp_right .inr)
    exact (Scheduler.entry?_insert _ _ _ _ _).trans ((if_neg hne).trans (hu id hid))

theorem frame_reload {targets : List Target} {firstDue : TargetId → Instant} {diff : RegistryDiff}
    (h : r.reload targets firstDue = .ok (.ok (diff, r'))) :
    r'.scheduler.policy = r.scheduler.policy ∧
      ∀ id, ¬ diff.Touches id → r'.scheduler.entry? id = r.scheduler.entry? id := by
  obtain ⟨snapshot, -, -, ⟨-, rfl⟩ | ⟨u, hu, rfl⟩⟩ := reload_eq_ok h
  · exact ⟨rfl, fun _ _ => rfl⟩
  · have hframe := frame_follow hu
    exact hframe

end Roster

end TargetHealth
