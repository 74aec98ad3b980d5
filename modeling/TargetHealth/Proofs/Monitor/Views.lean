import TargetHealth.Proofs.Metrics.Targets
import TargetHealth.Proofs.Monitor.Unbroken

namespace TargetHealth

namespace Roster

structure Orderly (r : Roster) : Prop where
  entries : r.scheduler.entries.Ascending
  states : r.store.states.Ascending
  gauges : r.gauges.Ordered

structure Listed (r : Roster) : Prop extends r.Orderly where
  registry : r.registry.current.targets.Ascending
  based : ∀ id, r.scheduler.base? id = (r.registry.get? id).map (·.interval)
  shown : r.gauges.Shows r.store
  total : r.gauges.total = Int.bmod r.registry.current.size (Nat.pow 2 64)

/-- What is listed has its place in the due queue, and nothing is left out. -/
structure Viewed (r : Roster) : Prop extends r.Listed where
  full : r.Full
  queued : r.scheduler.Queued

variable {r r' : Roster}

theorem Listed.withMarks (h : r.Listed) (marks : Table TargetId Nat) : (r.withMarks marks).Listed := { h with }

theorem Listed.dispatchDue (h : r.Listed) (ha : r.Aligned) (now : Instant) : (r.dispatchDue now).2.Listed := by
  rw [ha.dispatchDue_eq]
  exact h.withMarks _

theorem Aligned.queued_dispatchDue (ha : r.Aligned) (h : r.scheduler.Queued) (now : Instant) :
    (r.dispatchDue now).2.scheduler.Queued := by
  rw [ha.dispatchDue_eq]
  exact h.of_eq rfl rfl

theorem Listed.display (h : r.Listed) (c : Completion) :
    ((r.apply c).2.display c.result.targetId (r.apply c).1).2.Listed := by
  unfold Roster.apply
  rcases r.store.apply_cases c.result with (happ | happ) | ⟨state, -, happ⟩
  · rw [happ]
    exact h
  · rw [happ]
    exact h
  · rw [happ]
    exact { h with
      states := h.states.insert _ _
      gauges := h.gauges.update _ _ _
      shown := h.shown.update _ _ }

theorem base?_reschedule (r : Roster) (id : TargetId) (now : Instant) (multiplier : Nat) (id' : TargetId) :
    (r.reschedule id now multiplier).2.scheduler.base? id' = r.scheduler.base? id' := by
  unfold reschedule
  split
  · rename_i h
    exact Scheduler.base?_reschedule h id'
  · exact Scheduler.base?_interrupt _ _ _ _

theorem Listed.reschedule (h : r.Listed) (id : TargetId) (now : Instant) (multiplier : Nat) :
    (r.reschedule id now multiplier).2.Listed := by
  have hbase := r.base?_reschedule id now multiplier
  unfold Roster.reschedule at hbase ⊢
  split
  · rename_i entry scheduler hs
    exact { h with
      entries := Scheduler.ascending_reschedule h.entries hs
      based := fun id' => (Scheduler.base?_reschedule hs id').trans (h.based id') }
  · exact { h with
      entries := Scheduler.ascending_interrupt h.entries id multiplier
      based := fun id' => (Scheduler.base?_interrupt r.scheduler id multiplier id').trans (h.based id') }

theorem Listed.complete {c : Completion} (h : r.Listed)
    (hm : r.scheduler.inFlight.get? c.result.targetId = some c.epoch) (now : Instant) : (r.complete c now).2.Listed := by
  by_cases he : r.scheduler.epoch? c.result.targetId = some c.epoch
  · rw [Roster.complete, finish_of_current hm he]
    exact ((h.withMarks _).display c).reschedule _ now _
  · rw [complete_of_stale hm he now]
    exact h.withMarks _

theorem queued_complete {c : Completion} {now : Instant} (h : r.scheduler.Queued)
    (hm : r.scheduler.inFlight.get? c.result.targetId = some c.epoch) (hf : (r.complete c now).1 = none) :
    (r.complete c now).2.scheduler.Queued := by
  by_cases he : r.scheduler.epoch? c.result.targetId = some c.epoch
  · obtain ⟨u, -, hsch, -, heq⟩ := complete_eq_reschedule hm he
    have hu : u.scheduler.Queued := hsch ▸ h.of_eq rfl rfl
    rw [heq] at hf ⊢
    unfold Roster.reschedule at hf ⊢
    split
    · rename_i hs
      exact hu.reschedule hs
    · rename_i hs
      rw [hs] at hf
      cases hf
  · rw [complete_of_stale hm he now]
    exact h.of_eq rfl rfl

theorem foldl_discard (ids : List TargetId) (r : Roster) (id : TargetId) :
    (ids.foldl discard r).scheduler.base? id = (if id ∈ ids then none else r.scheduler.base? id) ∧
      (ids.foldl discard r).gauges.shown? id = if id ∈ ids then (none, none) else r.gauges.shown? id := by
  induction ids generalizing r with
  | nil => exact ⟨rfl, rfl⟩
  | cons id' ids ih =>
    have hbase : (r.discard id').scheduler.base? id = if id = id' then none else r.scheduler.base? id :=
      Scheduler.base?_remove r.scheduler id' id
    have hshown : (r.discard id').gauges.shown? id = if id = id' then (none, none) else r.gauges.shown? id :=
      TargetMetrics.shown?_remove r.gauges id' id
    obtain ⟨hb, hs⟩ := ih (r.discard id')
    rw [List.foldl_cons, hb, hs, hbase, hshown]
    by_cases hid : id = id' <;> by_cases hids : id ∈ ids <;> simp [hid, hids]

theorem foldlM_enroll {snapshot : RegistrySnapshot} {firstDue : TargetId → Instant} (ids : List TargetId) (r : Roster)
    (hs : ∀ id ∈ ids, (snapshot.get? id).isSome)
    (h : ids.foldlM (fun r id => r.enroll snapshot (firstDue id) id) r = .ok r') (id : TargetId) :
    r'.scheduler.base? id = (if id ∈ ids then (snapshot.get? id).map (·.interval) else r.scheduler.base? id) ∧
      r'.gauges = r.gauges := by
  induction ids generalizing r with
  | nil =>
    cases h
    exact ⟨rfl, rfl⟩
  | cons id' ids ih =>
    rw [List.foldlM_cons] at h
    obtain ⟨u, hu, h⟩ := exists_of_bind_eq_ok h
    obtain ⟨target, ht⟩ := Option.isSome_iff_exists.mp (hs id' List.mem_cons_self)
    obtain ⟨store, -, rfl⟩ := enroll_eq_ok ht hu
    obtain ⟨hb, hg⟩ := ih _ (fun id hid => hs id (List.mem_cons_of_mem _ hid)) h
    refine ⟨?_, hg⟩
    rw [hb, Scheduler.base?_insert]
    by_cases hid : id = id' <;> by_cases hids : id ∈ ids <;> simp [hid, hids, ht]

theorem Orderly.discard (h : r.Orderly) (id : TargetId) : (r.discard id).Orderly :=
  ⟨Scheduler.ascending_remove h.entries id, h.states.erase id, h.gauges.remove id⟩

theorem Orderly.enroll {snapshot : RegistrySnapshot} {firstDue : Instant} {id : TargetId} (h : r.Orderly)
    (he : r.enroll snapshot firstDue id = .ok r') : r'.Orderly := by
  cases ht : snapshot.get? id with
  | none =>
    simp only [Roster.enroll, ht] at he
    cases he
    exact h
  | some target =>
    obtain ⟨store, hst, rfl⟩ := enroll_eq_ok ht he
    exact ⟨Scheduler.ascending_insert h.entries _ _ _, StateStore.ascending_register h.states hst, h.gauges⟩

theorem Orderly.follow {diff : RegistryDiff} {snapshot : RegistrySnapshot} {firstDue : TargetId → Instant}
    (h : r.Orderly) (hf : r.follow diff snapshot firstDue = .ok r') : r'.Orderly := by
  have hd : (diff.removed.foldl Roster.discard r).Orderly :=
    List.foldlRecOn diff.removed _ h fun _ hu id _ => hu.discard id
  exact foldlM_preserves (P := Orderly) _ (fun _ _ _ _ he hu => hu.enroll he) hf hd

theorem queued_follow {diff : RegistryDiff} {snapshot : RegistrySnapshot} {firstDue : TargetId → Instant}
    (h : r.scheduler.Queued) (hf : r.follow diff snapshot firstDue = .ok r') : r'.scheduler.Queued := by
  have hd : (diff.removed.foldl Roster.discard r).scheduler.Queued :=
    List.foldlRecOn (motive := fun u : Roster => u.scheduler.Queued) diff.removed _ h fun _ hu id _ => hu.remove id
  have hkept : Withstands snapshot firstDue (·.scheduler.Queued) :=
    ⟨fun _ id t _ hu => hu.insert id t.interval (firstDue id), fun _ _ _ _ _ _ hu => hu⟩
  exact hkept.follow hf hd

theorem queued_reload {targets : List Target} {firstDue : TargetId → Instant} {diff : RegistryDiff}
    (h : r.scheduler.Queued) (hr : r.reload targets firstDue = .ok (.ok (diff, r'))) : r'.scheduler.Queued := by
  obtain ⟨snapshot, -, -, ⟨-, rfl⟩ | ⟨u, hu, rfl⟩⟩ := reload_eq_ok hr
  · exact h
  · have hq : u.scheduler.Queued := queued_follow (r := r.install snapshot) h hu
    exact hq

theorem Listed.install (h : r.Listed) {snapshot : RegistrySnapshot} (hs : snapshot.targets.Ascending)
    (hsame : ∀ id, snapshot.get? id = r.registry.get? id) : (r.install snapshot).Listed := by
  have hkeys : snapshot.targets.keys = r.registry.current.targets.keys :=
    hs.keys_eq h.registry fun id => congrArg Option.isSome (hsame id)
  have hsize : snapshot.size = r.registry.current.size := by
    have hlength := congrArg List.length hkeys
    rwa [Table.length_keys, Table.length_keys] at hlength
  refine { h with registry := hs, based := ?_, total := ?_ }
  · intro id
    exact (h.based id).trans (congrArg _ (hsame id).symm)
  · exact h.total.trans (congrArg (fun n : Nat => Int.bmod n (Nat.pow 2 64)) hsize.symm)

section Follow

variable {diff : RegistryDiff} {snapshot : RegistrySnapshot} {firstDue : TargetId → Instant} {u : Roster}

/-- What a new set of targets leaves of the old views, and what it adds to them. -/
theorem views_of_follow (hdiff : diff = .between r.registry.current snapshot)
    (hf : (r.install snapshot).follow diff snapshot firstDue = .ok u) :
    u.registry = ⟨snapshot⟩ ∧
    (∀ id, u.scheduler.base? id = if id ∈ diff.added ++ diff.changed then (snapshot.get? id).map (·.interval)
      else if id ∈ diff.removed then none else r.scheduler.base? id) ∧
    ∀ id, (u.announce diff snapshot).gauges.shown? id = if id ∈ diff.added then (some Status.unknown.gauge, some 1)
      else if id ∈ diff.removed then (none, none) else r.gauges.shown? id := by
  have hnew : ∀ id ∈ diff.added ++ diff.changed, (snapshot.get? id).isSome :=
    hdiff ▸ fun _ => RegistryDiff.isSome_of_mem
  refine ⟨?_, ?_, ?_⟩
  · exact (enrolls_foldlM _ _ hnew hf).registry.trans (discards_foldl diff.removed (r.install snapshot)).registry
  · intro id
    rw [(foldlM_enroll _ _ hnew hf id).1, (foldl_discard _ _ id).1]
    rfl
  · intro id
    rw [announce, TargetMetrics.shown?_foldl_update, TargetMetrics.shown?_setTotal, (foldlM_enroll _ _ hnew hf id).2,
      (foldl_discard _ _ id).2]
    rfl

theorem Listed.based_follow (h : r.Listed) (hr : Reloads diff r (u.announce diff snapshot))
    (hdiff : diff = .between r.registry.current snapshot)
    (hf : (r.install snapshot).follow diff snapshot firstDue = .ok u) (id : TargetId) :
    u.scheduler.base? id = (u.registry.get? id).map (·.interval) := by
  obtain ⟨hcur, hbase, -⟩ := views_of_follow hdiff hf
  have hreg : u.registry.get? id = snapshot.get? id := congrArg (Registry.get? · id) hcur
  rw [hbase]
  rcases hr.cases id with ⟨ht, hsame, -, -⟩ | ⟨hrm, hgone, -, -⟩ | ⟨hac, -, -, -⟩
  · obtain ⟨hna, hnr, hnc⟩ := (diff.not_touches_iff id).mp ht
    have hsame : u.registry.get? id = r.registry.get? id := hsame
    rw [if_neg (by simp [hna, hnc]), if_neg hnr, h.based, hsame]
  · have hgone : u.registry.get? id = none := hgone
    have hnac : id ∉ diff.added ++ diff.changed := by
      intro hac
      rw [hdiff] at hac
      exact Option.isSome_iff_ne_none.mp (RegistryDiff.isSome_of_mem hac) (hreg ▸ hgone)
    rw [if_neg hnac, if_pos hrm, hgone]
    rfl
  · rw [if_pos hac, hreg]

theorem Listed.shown_follow (h : r.Listed) (ha : r.Aligned) (hfull : r.Full) (hr : Reloads diff r (u.announce diff snapshot))
    (hdiff : diff = .between r.registry.current snapshot)
    (hf : (r.install snapshot).follow diff snapshot firstDue = .ok u) :
    (u.announce diff snapshot).gauges.Shows (u.announce diff snapshot).store := by
  intro id
  have hadded : id ∈ diff.added ↔ _ := hdiff ▸ RegistryDiff.mem_added_iff _ _ id
  have hremoved : id ∈ diff.removed ↔ _ := hdiff ▸ RegistryDiff.mem_removed_iff _ _ id
  have htracked : (r.store.snapshot? id).isSome = (r.registry.get? id).isSome := ha.isSome_snapshot? hfull id
  rw [(views_of_follow hdiff hf).2.2 id]
  rcases hr.cases id with ⟨ht, -, -, hkept⟩ | ⟨hrm, -, -, hlost⟩ | ⟨hac, -, -, hfresh⟩
  · obtain ⟨hna, hnr, -⟩ := (diff.not_touches_iff id).mp ht
    rw [if_neg hna, if_neg hnr, hkept, h.shown]
  · have hna : id ∉ diff.added := by
      intro hna
      exact Option.isSome_iff_ne_none.mp (hremoved.mp hrm).1 (hadded.mp hna).1
    rw [if_neg hna, if_pos hrm, hlost]
    rfl
  · rw [hfresh]
    by_cases hna : id ∈ diff.added
    · have hold : r.registry.get? id = none := (hadded.mp hna).1
      have hnone : r.store.snapshot? id = none := by simpa [hold] using htracked
      rw [if_pos hna, hnone, Option.getD_none, TargetMetrics.shownOf_fresh]
    · -- a changed target is in both sets, so its state was known and its gauges are left alone
      have hc : id ∈ diff.changed := (List.mem_append.mp hac).resolve_left hna
      rw [hdiff, RegistryDiff.mem_changed_iff] at hc
      have hnr : id ∉ diff.removed := fun hrm => Option.isSome_iff_ne_none.mp hc.2.1 (hremoved.mp hrm).2
      obtain ⟨state, hstate⟩ := Option.isSome_iff_exists.mp (htracked.trans hc.1)
      rw [if_neg hna, if_neg hnr, h.shown, hstate, Option.getD_some]

theorem Listed.follow (h : r.Listed) (ha : r.Aligned) (hfull : r.Full) (hr : Reloads diff r (u.announce diff snapshot))
    (hdiff : diff = .between r.registry.current snapshot)
    (hf : (r.install snapshot).follow diff snapshot firstDue = .ok u) (hs : snapshot.targets.Ascending) :
    (u.announce diff snapshot).Listed := by
  have hinstalled : (r.install snapshot).Orderly := ⟨h.entries, h.states, h.gauges⟩
  have hord : u.Orderly := hinstalled.follow hf
  have hcur : u.registry = ⟨snapshot⟩ := (views_of_follow hdiff hf).1
  have htotal : (u.announce diff snapshot).gauges.total = Int.bmod snapshot.size (Nat.pow 2 64) := by
    rw [announce, TargetMetrics.total_foldl_update, TargetMetrics.total_setTotal]
  refine ⟨⟨hord.entries, hord.states, ?_⟩, ?_, ?_, h.shown_follow ha hfull hr hdiff hf, ?_⟩
  · exact (hord.gauges.setTotal snapshot.size).foldl_update diff.added
  · exact (congrArg (·.current.targets) hcur) ▸ hs
  · exact fun id => h.based_follow (u := u) hr hdiff hf id
  · rw [htotal, ← congrArg (·.current.size) hcur]
    rfl

end Follow

theorem Listed.reload {targets : List Target} {firstDue : TargetId → Instant} {diff : RegistryDiff} (h : r.Listed)
    (ha : r.Aligned) (hfull : r.Full) (hr : r.reload targets firstDue = .ok (.ok (diff, r'))) : r'.Listed := by
  have hreloads := reloads_reload hr
  obtain ⟨snapshot, hb, hdiff, ⟨hempty, rfl⟩ | ⟨u, hu, rfl⟩⟩ := reload_eq_ok hr
  · refine h.install (RegistrySnapshot.ascending_build hb) fun id => ?_
    have ht := RegistryDiff.not_touches_of_isEmpty hempty id
    rw [hdiff, RegistryDiff.touches_between_iff, not_not] at ht
    exact ht.symm
  · exact h.follow ha hfull hreloads hdiff hu (RegistrySnapshot.ascending_build hb)

theorem entry?_foldl_insert {snapshot : RegistrySnapshot} (targets : List Target) (firstDue : TargetId → Instant)
    (hs : ∀ t ∈ targets, snapshot.get? t.id = some t) (s : Scheduler) (id : TargetId) :
    (Scheduler.entry? (targets.foldl (fun s t => s.insert t.id t.interval (firstDue t.id)) s) id).map
        ScheduleEntry.unnumbered =
      if id ∈ targets.map (·.id) then
        (snapshot.get? id).map fun t => ⟨t.id, firstDue t.id, t.interval, t.interval, 0⟩
      else (s.entry? id).map ScheduleEntry.unnumbered := by
  induction targets generalizing s with
  | nil => rfl
  | cons t targets ih =>
    rw [List.foldl_cons, ih (fun u hu => hs u (List.mem_cons_of_mem _ hu)), Scheduler.entry?_insert]
    have ht := hs t List.mem_cons_self
    by_cases hid : id = t.id <;> by_cases hids : id ∈ targets.map (·.id) <;>
      simp [hid, hids, ht, ScheduleEntry.unnumbered]

theorem entry?_start {registry : Registry} {policy : HealthPolicy} {firstDue : TargetId → Instant} {targets : List Target}
    (hb : RegistrySnapshot.build 0 targets = .ok registry.current) (h : Roster.start registry policy firstDue = .ok r)
    (id : TargetId) : (r.scheduler.entry? id).map ScheduleEntry.unnumbered =
      (registry.get? id).map fun t => ⟨t.id, firstDue t.id, t.interval, t.interval, 0⟩ := by
  have hk := RegistrySnapshot.keyed_build hb
  have hasc := RegistrySnapshot.ascending_build hb
  obtain ⟨store, -, heq⟩ := exists_of_bind_eq_ok h
  cases heq
  have hvalues : ∀ t ∈ registry.current.targets.values, registry.current.get? t.id = some t := by
    intro t ht
    obtain ⟨e, he, rfl⟩ := List.mem_map.mp ht
    exact (Table.get?_eq_some_iff hasc.nodup _ _).mpr (hk e he ▸ he)
  rw [entry?_foldl_insert _ _ hvalues, hk.map_id_values, Registry.get?]
  cases hid : registry.current.get? id with
  | none =>
    rw [if_neg (by simp [RegistrySnapshot.mem_ids_iff, hid])]
    rfl
  | some t => rw [if_pos (by simp [RegistrySnapshot.mem_ids_iff, hid])]

theorem viewed_start {registry : Registry} {policy : HealthPolicy} {firstDue : TargetId → Instant}
    {targets : List Target} (hb : RegistrySnapshot.build 0 targets = .ok registry.current)
    (h : Roster.start registry policy firstDue = .ok r) : r.Viewed := by
  have hk := RegistrySnapshot.keyed_build hb
  have hasc := RegistrySnapshot.ascending_build hb
  obtain ⟨-, hfull, -, -, -, hsnap⟩ := start_eq_ok hk h
  obtain ⟨store, hst, heq⟩ := exists_of_bind_eq_ok h
  cases heq
  have hqueued := List.foldlRecOn (motive := Scheduler.Queued) registry.current.targets.values _
    (Scheduler.queued_new policy.backoff) fun _ hq t _ => hq.insert t.id t.interval (firstDue t.id)
  refine ⟨⟨⟨hqueued.ascending, StateStore.ascending_withTargets hst, ?_⟩, hasc, ?_, ?_, ?_⟩, hfull, hqueued⟩
  · exact (TargetMetrics.ordered_empty.setTotal _).foldl_update _
  · intro id
    have hbase := congrArg (Option.map ScheduleEntry.baseInterval) (entry?_start hb h id)
    rw [Option.map_map, Option.map_map] at hbase
    exact hbase
  · intro id
    rw [TargetMetrics.shown?_foldl_update, TargetMetrics.shown?_setTotal, hsnap id]
    cases hid : registry.current.get? id with
    | none =>
      rw [if_neg (by simp [RegistrySnapshot.mem_ids_iff, hid]), Registry.get?, hid]
      rfl
    | some t =>
      rw [if_pos (by simp [RegistrySnapshot.mem_ids_iff, hid]), Registry.get?, hid, Option.map_some,
        TargetMetrics.shownOf_fresh]
  · rw [TargetMetrics.total_foldl_update, TargetMetrics.total_setTotal, RegistrySnapshot.ids, Table.length_keys]
    rfl

/-- Four parts list the targets of the registry, and in its order. -/
theorem Listed.keys_eq (h : r.Listed) (ha : r.Aligned) (hfull : r.Full) :
    r.scheduler.entries.keys = r.registry.current.ids ∧ r.store.states.keys = r.registry.current.ids ∧
      r.gauges.statuses.keys = r.registry.current.ids ∧ r.gauges.multipliers.keys = r.registry.current.ids := by
  refine ⟨h.entries.keys_eq h.registry ?_, h.states.keys_eq h.registry (ha.isSome_snapshot? hfull),
    h.gauges.statuses.keys_eq h.registry ?_, h.gauges.multipliers.keys_eq h.registry ?_⟩
  · intro id
    have hs := ha.isSome_epoch? hfull id
    rwa [Scheduler.epoch?, Option.isSome_map] at hs
  · intro id
    have hs : r.gauges.statuses.get? id = (r.store.snapshot? id).map (·.status.gauge) := congrArg Prod.fst (h.shown id)
    rw [hs, Option.isSome_map]
    exact ha.isSome_snapshot? hfull id
  · intro id
    have hs : r.gauges.multipliers.get? id = (r.store.snapshot? id).map (·.backoffMultiplier) :=
      congrArg Prod.snd (h.shown id)
    rw [hs, Option.isSome_map]
    exact ha.isSome_snapshot? hfull id

end Roster

namespace Monitor

def Event.IsWhole (m : Monitor) (now : Instant) : Event → Prop
  | .complete => (m.executor.completions.head?.bind fun c => (m.roster.complete c now).1) = none
  | .reload targets pick => (m.reload targets now pick).isOk = true
  | _ => True

def Whole (m : Monitor) : Course → Prop
  | [] => True
  | (now, e) :: es => e.IsWhole m now ∧ Whole (m.react now e) es

instance (m : Monitor) (now : Instant) : (e : Event) → Decidable (e.IsWhole m now)
  | .complete => inferInstanceAs (Decidable ((m.executor.completions.head?.bind _) = none))
  | .reload targets pick => inferInstanceAs (Decidable ((m.reload targets now pick).isOk = true))
  | .dispatch | .cancel | .turn _ | .halt _ | .arrange _ _ _ _ => .isTrue trivial

instance decidableWhole (m : Monitor) : (es : Course) → Decidable (m.Whole es)
  | [] => .isTrue trivial
  | (now, e) :: es =>
    have := decidableWhole (m.react now e) es
    inferInstanceAs (Decidable (e.IsWhole m now ∧ (m.react now e).Whole es))

theorem whole_append (m : Monitor) (es es' : Course) : m.Whole (es ++ es') ↔ m.Whole es ∧ (m.run es).Whole es' := by
  induction es generalizing m with
  | nil => exact (true_and _).symm.to_iff
  | cons e es ih => exact (and_congr_right fun _ => ih _).trans and_assoc.symm

theorem Event.IsWhole.isUnbroken {m : Monitor} {now : Instant} {e : Event} (h : e.IsWhole m now) :
    e.IsUnbroken m now := by
  cases e with
  | reload targets pick => exact h
  | dispatch | complete | cancel | turn number | halt phase
  | arrange phase stopRequested scheduleChanged agenda => trivial

theorem Whole.unbroken {m : Monitor} {es : Course} (h : m.Whole es) : m.Unbroken es := by
  induction es generalizing m with
  | nil => trivial
  | cons e es ih => exact ⟨h.1.isUnbroken, ih h.2⟩

end Monitor

namespace Chronicle

variable {k : Chronicle}

theorem Matched.listed_react (hm : k.Matched) (hf : k.monitor.roster.Full) (h : k.monitor.roster.Listed) {now : Instant}
    {e : Monitor.Event} (he : e.IsUnbroken k.monitor now) : (k.react now e).monitor.roster.Listed := by
  cases e with
  | dispatch => exact h.dispatchDue hm.aligned now
  | complete =>
    cases hc : k.monitor.executor.completions with
    | nil => exact (react_complete_of_nil hc now).symm ▸ h
    | cons c unread =>
      rw [react_complete_of_cons hc]
      exact h.complete (hm.get?_of_mem (hc ▸ List.mem_cons_self)) now
  | reload targets pick =>
    rcases k.react_reload now targets pick with ⟨diff, m, hr, heq⟩ | ⟨-, -, heq⟩ | ⟨fault, hr, -⟩
    · rw [heq]
      exact h.reload hm.aligned hf (Monitor.reload_eq_ok hr).1
    · rwa [heq]
    · rw [Monitor.Event.IsUnbroken, hr] at he
      cases he
  | cancel | turn number | halt phase | arrange phase stopRequested scheduleChanged agenda => exact h

theorem Matched.listed_run (hm : k.Matched) (hf : k.monitor.roster.Full) (h : k.monitor.roster.Listed)
    (es : Monitor.Course) (hes : k.monitor.Unbroken es) : (k.run es).monitor.roster.Listed := by
  induction es generalizing k with
  | nil => exact h
  | cons e es ih => exact ih (hm.react e.1 e.2) (hm.full_react hf hes.1) (hm.listed_react hf h hes.1) hes.2

theorem Matched.queued_react (hm : k.Matched) (h : k.monitor.roster.scheduler.Queued) {now : Instant} {e : Monitor.Event}
    (he : e.IsWhole k.monitor now) : (k.react now e).monitor.roster.scheduler.Queued := by
  cases e with
  | dispatch => exact hm.aligned.queued_dispatchDue h now
  | complete =>
    cases hc : k.monitor.executor.completions with
    | nil => exact (react_complete_of_nil hc now).symm ▸ h
    | cons c unread =>
      rw [react_complete_of_cons hc]
      rw [Monitor.Event.IsWhole, hc] at he
      exact Roster.queued_complete h (hm.get?_of_mem (hc ▸ List.mem_cons_self)) he
  | reload targets pick =>
    rcases k.react_reload now targets pick with ⟨diff, m, hr, heq⟩ | ⟨-, -, heq⟩ | ⟨fault, hr, -⟩
    · rw [heq]
      exact Roster.queued_reload h (Monitor.reload_eq_ok hr).1
    · rwa [heq]
    · rw [Monitor.Event.IsWhole, hr] at he
      cases he
  | cancel | turn number | halt phase | arrange phase stopRequested scheduleChanged agenda => exact h

theorem Matched.viewed_react (hm : k.Matched) (h : k.monitor.roster.Viewed) {now : Instant} {e : Monitor.Event}
    (he : e.IsWhole k.monitor now) : (k.react now e).monitor.roster.Viewed where
  toListed := hm.listed_react h.full h.toListed he.isUnbroken
  full := hm.full_react h.full he.isUnbroken
  queued := hm.queued_react h.queued he

theorem viewed_run {k : Chronicle} (hm : k.Matched) (h : k.monitor.roster.Viewed) (es : Monitor.Course)
    (hes : k.monitor.Whole es) : (k.run es).monitor.roster.Viewed := by
  induction es generalizing k with
  | nil => exact h
  | cons e es ih => exact ih (hm.react e.1 e.2) (hm.viewed_react h hes.1) hes.2

end Chronicle

namespace Monitor

theorem viewed_of_start {now : Instant} {prober : Prober} {settings : Settings} {targets : List Target}
    {pick : TargetId → Nat} {m : Monitor} (hm : Monitor.start (some now) prober settings targets pick = .ok (.ok m)) :
    m.roster.Viewed := by
  obtain ⟨-, registry, firstDue, hb, hr⟩ := start_eq_ok hm
  exact Roster.viewed_start hb hr

theorem viewed_run {now : Instant} {prober : Prober} {settings : Settings} {targets : List Target}
    {pick : TargetId → Nat} {m : Monitor} (hm : Monitor.start (some now) prober settings targets pick = .ok (.ok m))
    (es : Course) (hes : m.Whole es) : (m.run es).roster.Viewed := by
  have h := Chronicle.viewed_run (Chronicle.matched_ofStart hm) (viewed_of_start hm) es hes
  rwa [Chronicle.monitor_run] at h

theorem listed_run {now : Instant} {prober : Prober} {settings : Settings} {targets : List Target}
    {pick : TargetId → Nat} {m : Monitor} (hm : Monitor.start (some now) prober settings targets pick = .ok (.ok m))
    (es : Course) (hes : m.Unbroken es) : (m.run es).roster.Listed := by
  have hviewed := viewed_of_start hm
  have h := (Chronicle.matched_ofStart hm).listed_run hviewed.full hviewed.toListed es hes
  rwa [Chronicle.monitor_run] at h

end Monitor

end TargetHealth
