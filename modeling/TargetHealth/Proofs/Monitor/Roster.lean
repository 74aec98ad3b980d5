import TargetHealth.Monitor.Roster
import TargetHealth.Proofs.Health.Store
import TargetHealth.Proofs.Schedule.Scheduler
import TargetHealth.Proofs.Target.Registry

namespace TargetHealth

open Scheduler

namespace Roster

variable {r r' : Roster} {id : TargetId}

def withMarks (r : Roster) (marks : Table TargetId Nat) : Roster :=
  { r with scheduler := { r.scheduler with inFlight := marks } }

@[simp] theorem withMarks_store (r : Roster) (marks : Table TargetId Nat) : (r.withMarks marks).store = r.store := rfl

theorem dispatchOne_cases (r : Roster) (id : TargetId) :
    (r.registry.get? id = none ∧ r.dispatchOne id = (none, { r with scheduler := r.scheduler.remove id })) ∨
    r.dispatchOne id = (none, r) ∨
    ∃ t n, r.registry.get? id = some t ∧ r.scheduler.epoch? id = some n ∧ r.scheduler.inFlight.get? id = none ∧
      r.dispatchOne id = (some (t, n), r.withMarks (r.scheduler.inFlight.insert id n)) := by
  unfold dispatchOne
  cases ht : r.registry.get? id with
  | none => exact .inl ⟨rfl, rfl⟩
  | some t =>
    cases hm : r.scheduler.markInFlight id with
    | none => exact .inr (.inl rfl)
    | some p =>
      obtain ⟨n, s⟩ := p
      obtain ⟨hf, he, rfl⟩ := markInFlight_eq_some hm
      exact .inr (.inr ⟨t, n, rfl, he, hf, rfl⟩)

theorem dispatchAll_induction {P : List (Target × Nat) → Roster → Prop}
    (hstep : ∀ batch r id, P batch r → P (batch ++ (r.dispatchOne id).1.toList) (r.dispatchOne id).2)
    (ids : List TargetId) (batch : List (Target × Nat)) (r : Roster) (h : P batch r) :
    P (batch ++ (r.dispatchAll ids).1) (r.dispatchAll ids).2 := by
  induction ids generalizing batch r with
  | nil => simpa only [dispatchAll, List.append_nil] using h
  | cons id ids ih =>
    simp only [dispatchAll, ← List.append_assoc]
    exact ih _ _ (hstep batch r id h)

/-- The result of a probe whose target has another epoch by now, or none, goes nowhere: only its mark is cleared. -/
theorem complete_of_stale {c : Completion} (hm : r.scheduler.inFlight.get? c.result.targetId = some c.epoch)
    (he : r.scheduler.epoch? c.result.targetId ≠ some c.epoch) (now : Instant) :
    r.complete c now = (none, r.withMarks (r.scheduler.inFlight.erase c.result.targetId)) := by
  have hf : r.finish c = (false, r.withMarks (r.scheduler.inFlight.erase c.result.targetId)) := by
    rw [finish, finish_of_marked hm, decide_eq_false he]
    rfl
  rw [complete, hf]

theorem store_reschedule (r : Roster) (id : TargetId) (now : Instant) (multiplier : Nat) :
    (r.reschedule id now multiplier).2.store = r.store ∧ (r.reschedule id now multiplier).2.registry = r.registry := by
  unfold reschedule
  split <;> exact ⟨rfl, rfl⟩

theorem retimes_reschedule (r : Roster) (id : TargetId) (now : Instant) (multiplier : Nat) :
    r.scheduler.Retimes (r.reschedule id now multiplier).2.scheduler := by
  unfold reschedule
  split
  · rename_i h
    exact Scheduler.retimes_reschedule h
  · exact retimes_interrupt _ _ _

theorem display_eq (r : Roster) (id : TargetId) (applied : Applied) :
    (r.display id applied).2.registry = r.registry ∧ (r.display id applied).2.scheduler = r.scheduler ∧
      (r.display id applied).2.store = r.store := by
  unfold display
  split <;> exact ⟨rfl, rfl, rfl⟩

theorem finish_of_current {c : Completion} (hm : r.scheduler.inFlight.get? c.result.targetId = some c.epoch)
    (he : r.scheduler.epoch? c.result.targetId = some c.epoch) :
    r.finish c = (true, r.withMarks (r.scheduler.inFlight.erase c.result.targetId)) := by
  rw [finish, finish_of_marked hm, decide_eq_true he]
  rfl

theorem multiplier_display (r : Roster) (c : Completion) :
    ((r.apply c).2.display c.result.targetId (r.apply c).1).1 =
      ((r.store.apply c.result).2.backoffMultiplier? c.result.targetId).getD 1 := by
  unfold apply StateStore.apply
  by_cases hc : c.result.outcome = .cancelled
  · simp only [hc, if_true]
    rfl
  · simp only [hc, if_false]
    cases hs : r.store.snapshot? c.result.targetId with
    | none => rfl
    | some state =>
      simp only [display, StateStore.backoffMultiplier?, StateStore.snapshot?, Table.get?_insert, if_true]
      rfl

theorem complete_eq_reschedule {c : Completion} (hm : r.scheduler.inFlight.get? c.result.targetId = some c.epoch)
    (he : r.scheduler.epoch? c.result.targetId = some c.epoch) :
    ∃ u : Roster, u.registry = r.registry ∧
      u.scheduler = (r.withMarks (r.scheduler.inFlight.erase c.result.targetId)).scheduler ∧
      u.store = (r.store.apply c.result).2 ∧
      ∀ now, r.complete c now =
        u.reschedule c.result.targetId now ((u.store.backoffMultiplier? c.result.targetId).getD 1) := by
  generalize hv : r.withMarks (r.scheduler.inFlight.erase c.result.targetId) = v
  obtain ⟨hreg, hsch, hst⟩ := display_eq (v.apply c).2 c.result.targetId (v.apply c).1
  have hmul := multiplier_display v c
  have hvst : v.store = r.store := hv ▸ rfl
  refine ⟨((v.apply c).2.display c.result.targetId (v.apply c).1).2, ?_, hsch, ?_, ?_⟩
  · rw [hreg, ← hv]
    rfl
  · rw [hst, ← hvst]
    rfl
  · intro now
    rw [complete, finish_of_current hm he, hv]
    dsimp only
    rw [hmul, hst]
    rfl

/-- The result of a probe whose target has still its epoch is applied, and the times of the schedule change. -/
theorem complete_of_current {c : Completion} (hm : r.scheduler.inFlight.get? c.result.targetId = some c.epoch)
    (he : r.scheduler.epoch? c.result.targetId = some c.epoch) (now : Instant) :
    (r.complete c now).2.registry = r.registry ∧ (r.complete c now).2.store = (r.store.apply c.result).2 ∧
      (r.withMarks (r.scheduler.inFlight.erase c.result.targetId)).scheduler.Retimes (r.complete c now).2.scheduler := by
  obtain ⟨u, hreg, hsch, hst, heq⟩ := complete_eq_reschedule hm he
  rw [heq, ← hsch]
  obtain ⟨hst', hreg'⟩ := store_reschedule u c.result.targetId now _
  exact ⟨hreg'.trans hreg, hst'.trans hst, retimes_reschedule u _ now _⟩

theorem store_complete_of_cancelled {c : Completion} (hc : c.result.outcome = .cancelled) (r : Roster) (now : Instant) :
    (r.complete c now).2.store = r.store := by
  have hfinish : (r.finish c).2.store = r.store := rfl
  unfold complete
  split
  · rename_i u hu
    rw [hu] at hfinish
    exact hfinish
  · rename_i u hu
    rw [hu] at hfinish
    have happly : (u.apply c).2.store = u.store := StateStore.apply_cancelled u.store hc
    have hdisplay := (display_eq (u.apply c).2 c.result.targetId (u.apply c).1).2.2
    dsimp only
    rw [(store_reschedule _ _ _ _).1, hdisplay, happly, hfinish]

structure Discards (ids : List TargetId) (r r' : Roster) : Prop where
  registry : r'.registry = r.registry
  inFlight : r'.scheduler.inFlight = r.scheduler.inFlight
  lastEpoch : r'.scheduler.lastEpoch = r.scheduler.lastEpoch
  backoff : r'.scheduler.policy = r.scheduler.policy
  policy : r'.store.policy = r.store.policy
  entry? : ∀ id, r'.scheduler.entry? id = if id ∈ ids then none else r.scheduler.entry? id
  snapshot? : ∀ id, r'.store.snapshot? id = if id ∈ ids then none else r.store.snapshot? id

theorem discards_foldl (ids : List TargetId) (r : Roster) : Discards ids r (ids.foldl discard r) := by
  induction ids generalizing r with
  | nil => exact ⟨rfl, rfl, rfl, rfl, rfl, fun _ => rfl, fun _ => rfl⟩
  | cons id ids ih =>
    have h := ih (r.discard id)
    refine ⟨h.registry, h.inFlight.trans (inFlight_remove _ _), h.lastEpoch.trans (lastEpoch_remove _ _),
      h.backoff.trans (policy_remove _ _), h.policy, ?_, ?_⟩
    · intro id'
      have he : (r.discard id).scheduler.entry? id' = if id' = id then none else r.scheduler.entry? id' :=
        entry?_remove r.scheduler id id'
      rw [List.foldl_cons, h.entry?, he]
      by_cases hid : id' = id <;> simp [hid]
    · intro id'
      have hs : (r.discard id).store.snapshot? id' = if id' = id then none else r.store.snapshot? id' :=
        StateStore.snapshot?_remove r.store id id'
      rw [List.foldl_cons, h.snapshot?, hs]
      by_cases hid : id' = id <;> simp [hid]

theorem Discards.epoch? {ids : List TargetId} (h : Discards ids r r') (id : TargetId) :
    r'.scheduler.epoch? id = if id ∈ ids then none else r.scheduler.epoch? id := by
  rw [Scheduler.epoch?, h.entry?]
  split <;> rfl

/-- A roster in which the schedule of some targets has begun anew, each under a new epoch. -/
structure Enrolls (ids : List TargetId) (r r' : Roster) : Prop where
  registry : r'.registry = r.registry
  inFlight : r'.scheduler.inFlight = r.scheduler.inFlight
  lastEpoch : r.scheduler.lastEpoch ≤ r'.scheduler.lastEpoch
  policy : r'.store.policy = r.store.policy
  kept : ∀ id, id ∉ ids → r'.scheduler.epoch? id = r.scheduler.epoch? id
  renewed : ∀ id ∈ ids, ∃ n, r'.scheduler.epoch? id = some n ∧ r.scheduler.lastEpoch < n ∧ n ≤ r'.scheduler.lastEpoch
  snapshot? : ∀ id, r'.store.snapshot? id =
    if id ∈ ids then some ((r.store.snapshot? id).getD (.recordAll r.store.policy id [])) else r.store.snapshot? id

theorem enroll_eq_ok {snapshot : RegistrySnapshot} {firstDue : Instant} {target : Target}
    (ht : snapshot.get? id = some target) (h : r.enroll snapshot firstDue id = .ok r') :
    ∃ store, r.store.register id = .ok store ∧
      r' = { r with scheduler := r.scheduler.insert id target.interval firstDue, store := store } := by
  simp only [enroll, ht] at h
  obtain ⟨store, hst, heq⟩ := exists_of_bind_eq_ok h
  cases heq
  exact ⟨store, hst, rfl⟩

theorem enroll_cases {snapshot : RegistrySnapshot} {firstDue : Instant} (h : r.enroll snapshot firstDue id = .ok r') :
    snapshot.get? id = none ∧ r' = r ∨
      ∃ target store, snapshot.get? id = some target ∧ r.store.register id = .ok store ∧
        r' = { r with scheduler := r.scheduler.insert id target.interval firstDue, store := store } := by
  cases ht : snapshot.get? id with
  | none =>
    simp only [enroll, ht] at h
    exact .inl ⟨rfl, (Except.ok.inj h).symm⟩
  | some target =>
    obtain ⟨store, hst, hr⟩ := enroll_eq_ok ht h
    exact .inr ⟨target, store, rfl, hst, hr⟩

theorem enrolls_enroll {snapshot : RegistrySnapshot} {firstDue : Instant} (hs : (snapshot.get? id).isSome)
    (h : r.enroll snapshot firstDue id = .ok r') : Enrolls [id] r r' := by
  obtain ⟨target, ht⟩ := Option.isSome_iff_exists.mp hs
  obtain ⟨store, hst, rfl⟩ := enroll_eq_ok ht h
  refine ⟨rfl, inFlight_insert _ _ _ _, ?_, StateStore.policy_register hst, ?_, ?_, ?_⟩
  · rw [lastEpoch_insert]
    exact Nat.le_succ _
  · intro id' hid
    rw [epoch?_insert, if_neg (by simpa using hid)]
  · intro id' hid
    rw [List.mem_singleton.mp hid]
    refine ⟨r.scheduler.lastEpoch + 1, ?_, Nat.lt_succ_self _, ?_⟩
    · rw [epoch?_insert, if_pos rfl]
    · rw [lastEpoch_insert]
  · intro id'
    rw [StateStore.snapshot?_register hst]
    by_cases hid : id' = id
    · rw [if_pos hid, if_pos (by simpa using hid), hid]
      rfl
    · rw [if_neg hid, if_neg (by simpa using hid)]

theorem Enrolls.cons {u : Roster} {ids : List TargetId} (h : Enrolls [id] r u) (h' : Enrolls ids u r') :
    Enrolls (id :: ids) r r' := by
  refine ⟨h'.registry.trans h.registry, h'.inFlight.trans h.inFlight, h.lastEpoch.trans h'.lastEpoch,
    h'.policy.trans h.policy, ?_, ?_, ?_⟩
  · intro id' hid
    obtain ⟨hid, hids⟩ : id' ≠ id ∧ id' ∉ ids := by simpa using hid
    rw [h'.kept id' hids, h.kept id' (by simpa using hid)]
  · intro id' hid
    by_cases hids : id' ∈ ids
    · obtain ⟨n, hn, hlt, hle⟩ := h'.renewed id' hids
      exact ⟨n, hn, Nat.lt_of_le_of_lt h.lastEpoch hlt, hle⟩
    · have hid : id' ∈ [id] := by simpa [hids] using hid
      obtain ⟨n, hn, hlt, hle⟩ := h.renewed id' hid
      exact ⟨n, (h'.kept id' hids).trans hn, hlt, hle.trans h'.lastEpoch⟩
  · intro id'
    rw [h'.snapshot?, h.snapshot?, h.policy]
    by_cases hid : id' = id <;> by_cases hids : id' ∈ ids <;> simp [hid, hids]

theorem enrolls_foldlM {snapshot : RegistrySnapshot} {firstDue : TargetId → Instant} (ids : List TargetId)
    (r : Roster) (hs : ∀ id ∈ ids, (snapshot.get? id).isSome)
    (h : ids.foldlM (fun r id => r.enroll snapshot (firstDue id) id) r = .ok r') : Enrolls ids r r' := by
  induction ids generalizing r with
  | nil =>
    cases h
    exact ⟨rfl, rfl, Nat.le_refl _, rfl, fun _ _ => rfl, fun _ h => by simp at h, fun _ => rfl⟩
  | cons id ids ih =>
    rw [List.foldlM_cons] at h
    obtain ⟨u, hu, hr⟩ := exists_of_bind_eq_ok h
    have h1 : Enrolls [id] r u := enrolls_enroll (hs id List.mem_cons_self) hu
    exact h1.cons (ih u (fun id' hid => hs id' (List.mem_cons_of_mem _ hid)) hr)

/-- What a reload does: targets that are the same in both sets are left alone, removed ones are forgotten, and added and
changed ones are scheduled anew, with the health that is known of them. -/
structure Reloads (diff : RegistryDiff) (r r' : Roster) : Prop where
  keyed : r'.registry.current.Keyed
  diff_eq : diff = .between r.registry.current r'.registry.current
  inFlight : r'.scheduler.inFlight = r.scheduler.inFlight
  lastEpoch : r.scheduler.lastEpoch ≤ r'.scheduler.lastEpoch
  policy : r'.store.policy = r.store.policy
  kept : ∀ id, ¬ diff.Touches id →
    r'.scheduler.epoch? id = r.scheduler.epoch? id ∧ r'.store.snapshot? id = r.store.snapshot? id
  removed : ∀ id ∈ diff.removed, r'.scheduler.epoch? id = none ∧ r'.store.snapshot? id = none
  renewed : ∀ id ∈ diff.added ++ diff.changed,
    (∃ n, r'.scheduler.epoch? id = some n ∧ r.scheduler.lastEpoch < n ∧ n ≤ r'.scheduler.lastEpoch) ∧
    r'.store.snapshot? id = some ((r.store.snapshot? id).getD (.recordAll r.store.policy id []))

theorem reloads_follow {snapshot : RegistrySnapshot} {firstDue : TargetId → Instant} (hk : snapshot.Keyed)
    (h : (r.install snapshot).follow (.between r.registry.current snapshot) snapshot firstDue = .ok r') :
    Reloads (.between r.registry.current snapshot) r r' := by
  unfold follow at h
  generalize hdiff : RegistryDiff.between r.registry.current snapshot = diff at h
  have hremoved (id : TargetId) : id ∈ diff.removed ↔ _ := hdiff ▸ RegistryDiff.mem_removed_iff _ _ id
  have hnew : ∀ id ∈ diff.added ++ diff.changed, (snapshot.get? id).isSome :=
    hdiff ▸ fun _ => RegistryDiff.isSome_of_mem
  -- no target is both taken out and put in
  have hdisjoint (id : TargetId) (hr : id ∈ diff.removed) : id ∉ diff.added ++ diff.changed := by
    intro hac
    have hsome := hnew id hac
    rw [((hremoved id).mp hr).2] at hsome
    cases hsome
  have hd := discards_foldl diff.removed (r.install snapshot)
  have he := enrolls_foldlM (diff.added ++ diff.changed) _ hnew h
  have hcur : r'.registry.current = snapshot := congrArg Registry.current (he.registry.trans hd.registry)
  refine ⟨hcur ▸ hk, by rw [hcur, hdiff], he.inFlight.trans hd.inFlight, hd.lastEpoch ▸ he.lastEpoch,
    he.policy.trans hd.policy, ?_, ?_, ?_⟩
  · intro id ht
    obtain ⟨ha, hr, hc⟩ := (diff.not_touches_iff id).mp ht
    have hac : id ∉ diff.added ++ diff.changed := by simp [ha, hc]
    rw [he.kept id hac, hd.epoch?, if_neg hr, he.snapshot?, if_neg hac, hd.snapshot?, if_neg hr]
    exact ⟨rfl, rfl⟩
  · intro id hr
    have hac := hdisjoint id hr
    rw [he.kept id hac, hd.epoch?, if_pos hr, he.snapshot?, if_neg hac, hd.snapshot?, if_pos hr]
    exact ⟨rfl, rfl⟩
  · intro id hac
    have hr : id ∉ diff.removed := fun hr => hdisjoint id hr hac
    obtain ⟨n, hn, hlt, hle⟩ := he.renewed id hac
    refine ⟨⟨n, hn, hd.lastEpoch ▸ hlt, hle⟩, ?_⟩
    rw [he.snapshot?, if_pos hac, hd.snapshot?, if_neg hr, hd.policy]
    rfl

theorem reloads_of_isEmpty {snapshot : RegistrySnapshot} (hk : snapshot.Keyed)
    (h : (RegistryDiff.between r.registry.current snapshot).isEmpty = true) :
    Reloads (.between r.registry.current snapshot) r (r.install snapshot) := by
  have hn := RegistryDiff.not_touches_of_isEmpty h
  refine ⟨hk, rfl, rfl, Nat.le_refl _, rfl, fun _ _ => ⟨rfl, rfl⟩, ?_, ?_⟩
  · intro id hid
    exact absurd (.inr (.inl hid)) (hn id)
  · intro id hid
    rcases List.mem_append.mp hid with ha | hc
    · exact absurd (.inl ha) (hn id)
    · exact absurd (.inr (.inr hc)) (hn id)

theorem reload_eq_ok {targets : List Target} {firstDue : TargetId → Instant} {diff : RegistryDiff}
    (h : r.reload targets firstDue = .ok (.ok (diff, r'))) :
    ∃ snapshot, RegistrySnapshot.build (r.registry.current.generation + 1) targets = .ok snapshot ∧
      diff = .between r.registry.current snapshot ∧
      (diff.isEmpty = true ∧ r' = r.install snapshot ∨
        ∃ u, (r.install snapshot).follow diff snapshot firstDue = .ok u ∧ r' = u.announce diff snapshot) := by
  unfold reload at h
  split at h
  · cases h
  · rename_i diff' snapshot hnext
    obtain ⟨hb, hdiff⟩ := Registry.next_eq_ok hnext
    dsimp only at h
    split at h
    · rename_i hempty
      cases h
      exact ⟨snapshot, hb, hdiff, .inl ⟨hempty, rfl⟩⟩
    · obtain ⟨u, hu, heq⟩ := exists_of_bind_eq_ok h
      cases heq
      exact ⟨snapshot, hb, hdiff, .inr ⟨u, hu, rfl⟩⟩

theorem reloads_reload {targets : List Target} {firstDue : TargetId → Instant} {diff : RegistryDiff}
    (h : r.reload targets firstDue = .ok (.ok (diff, r'))) : Reloads diff r r' := by
  obtain ⟨snapshot, hb, rfl, ⟨hempty, rfl⟩ | ⟨u, hu, rfl⟩⟩ := reload_eq_ok h
  · exact reloads_of_isEmpty (RegistrySnapshot.keyed_build hb) hempty
  · have hf := reloads_follow (RegistrySnapshot.keyed_build hb) hu
    exact ⟨hf.keyed, hf.diff_eq, hf.inFlight, hf.lastEpoch, hf.policy, hf.kept, hf.removed, hf.renewed⟩

end Roster

end TargetHealth
