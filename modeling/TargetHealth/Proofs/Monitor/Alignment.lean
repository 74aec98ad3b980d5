import TargetHealth.Monitor.Monitor
import TargetHealth.Proofs.Executor.Accounting
import TargetHealth.Proofs.Monitor.Interruption

namespace TargetHealth

namespace Roster

/-- A roster that keeps schedule and health of its targets only, and marks nobody twice. -/
structure Aligned (r : Roster) : Prop where
  keyed : r.registry.current.Keyed
  scheduled : ∀ id, (r.scheduler.epoch? id).isSome → (r.registry.get? id).isSome
  tracked : ∀ id, (r.store.snapshot? id).isSome → (r.registry.get? id).isSome
  opened : ∀ id n, r.scheduler.epoch? id = some n → n ≤ r.scheduler.lastEpoch
  marked : ∀ id n, r.scheduler.inFlight.get? id = some n → n ≤ r.scheduler.lastEpoch
  unique : r.scheduler.inFlight.keys.Nodup

structure Full (r : Roster) : Prop where
  scheduled : ∀ id, (r.registry.get? id).isSome → (r.scheduler.epoch? id).isSome
  tracked : ∀ id, (r.registry.get? id).isSome → (r.store.snapshot? id).isSome

variable {r r' : Roster} {id : TargetId}

theorem Aligned.scheduled_none (h : r.Aligned) (hr : r.registry.get? id = none) : r.scheduler.epoch? id = none := by
  refine Option.not_isSome_iff_eq_none.mp fun hs => ?_
  have hsome := h.scheduled id hs
  rw [hr] at hsome
  cases hsome

theorem Aligned.isSome_epoch? (h : r.Aligned) (hf : r.Full) (id : TargetId) :
    (r.scheduler.epoch? id).isSome = (r.registry.get? id).isSome :=
  Bool.eq_iff_iff.mpr ⟨h.scheduled id, hf.scheduled id⟩

theorem Aligned.isSome_snapshot? (h : r.Aligned) (hf : r.Full) (id : TargetId) :
    (r.store.snapshot? id).isSome = (r.registry.get? id).isSome :=
  Bool.eq_iff_iff.mpr ⟨h.tracked id, hf.tracked id⟩

theorem Full.of_eq (h : r.Full) (hreg : r'.registry = r.registry)
    (hepoch : ∀ id, r'.scheduler.epoch? id = r.scheduler.epoch? id)
    (hst : ∀ id, (r'.store.snapshot? id).isSome = (r.store.snapshot? id).isSome) : r'.Full where
  scheduled id hid := by rw [hepoch]; exact h.scheduled id (hreg ▸ hid)
  tracked id hid := by rw [hst]; exact h.tracked id (hreg ▸ hid)

theorem Aligned.dispatchOne (h : r.Aligned) (id : TargetId) :
    r.dispatchOne id = (none, r) ∨
    ∃ t n, t.id = id ∧ r.scheduler.epoch? id = some n ∧ r.scheduler.inFlight.get? id = none ∧
      r.dispatchOne id = (some (t, n), r.withMarks (r.scheduler.inFlight.insert id n)) := by
  rcases r.dispatchOne_cases id with ⟨hr, heq⟩ | heq | ⟨t, n, ht, he, hf, heq⟩
  · rw [Scheduler.remove_of_unscheduled (h.scheduled_none hr)] at heq
    exact .inl heq
  · exact .inl heq
  · exact .inr ⟨t, n, h.keyed.id_eq ht, he, hf, heq⟩

theorem Aligned.insert_mark (h : r.Aligned) {n : Nat} (he : r.scheduler.epoch? id = some n)
    (hf : r.scheduler.inFlight.get? id = none) : (r.withMarks (r.scheduler.inFlight.insert id n)).Aligned where
  keyed := h.keyed
  scheduled := h.scheduled
  tracked := h.tracked
  opened := h.opened
  marked id' n' hm := by
    have hm : (r.scheduler.inFlight.insert id n).get? id' = some n' := hm
    rw [Table.get?_insert] at hm
    split at hm
    · cases hm
      exact h.opened id n he
    · exact h.marked id' n' hm
  unique := Table.nodup_keys_insert h.unique n hf

theorem Aligned.erase_mark (h : r.Aligned) (id : TargetId) :
    (r.withMarks (r.scheduler.inFlight.erase id)).Aligned where
  keyed := h.keyed
  scheduled := h.scheduled
  tracked := h.tracked
  opened := h.opened
  marked id' n' hm := by
    have hm : (r.scheduler.inFlight.erase id).get? id' = some n' := hm
    rw [Table.get?_erase] at hm
    split at hm
    · cases hm
    · exact h.marked id' n' hm
  unique := Table.nodup_keys_erase h.unique id

theorem isSome_snapshot?_apply (s : StateStore) (result : ProbeResult) (id : TargetId) :
    ((s.apply result).2.snapshot? id).isSome = (s.snapshot? id).isSome := by
  by_cases hc : result.outcome = .cancelled
  · rw [StateStore.apply_cancelled s hc]
  · rw [StateStore.snapshot?_apply s hc]
    split
    · rw [Option.isSome_map]
    · rfl

theorem Aligned.of_retimes {u : Roster} (h : u.Aligned) (hreg : r.registry = u.registry)
    (hst : ∀ id, (r.store.snapshot? id).isSome = (u.store.snapshot? id).isSome)
    (ht : u.scheduler.Retimes r.scheduler) : r.Aligned where
  keyed := hreg ▸ h.keyed
  scheduled id hid := by
    rw [ht.epochs] at hid
    exact hreg ▸ h.scheduled id hid
  tracked id hid := by
    rw [hst] at hid
    exact hreg ▸ h.tracked id hid
  opened id n he := by
    rw [ht.epochs] at he
    exact ht.lastEpoch ▸ h.opened id n he
  marked id n hm := by
    rw [ht.inFlight] at hm
    exact ht.lastEpoch ▸ h.marked id n hm
  unique := ht.inFlight ▸ h.unique

theorem Aligned.complete (h : r.Aligned) {c : Completion}
    (hm : r.scheduler.inFlight.get? c.result.targetId = some c.epoch) (now : Instant) :
    (r.complete c now).2.Aligned := by
  have he := h.erase_mark c.result.targetId
  by_cases hc : r.scheduler.epoch? c.result.targetId = some c.epoch
  · obtain ⟨hreg, hst, ht⟩ := complete_of_current hm hc now
    refine he.of_retimes hreg ?_ ht
    intro id
    rw [hst]
    exact isSome_snapshot?_apply _ _ _
  · rw [complete_of_stale hm hc now]
    exact he

theorem inFlight_complete {c : Completion} (hm : r.scheduler.inFlight.get? c.result.targetId = some c.epoch)
    (now : Instant) : (r.complete c now).2.scheduler.inFlight = r.scheduler.inFlight.erase c.result.targetId := by
  by_cases hc : r.scheduler.epoch? c.result.targetId = some c.epoch
  · exact (complete_of_current hm hc now).2.2.inFlight
  · rw [complete_of_stale hm hc now]
    rfl

theorem epoch?_complete {c : Completion} (hm : r.scheduler.inFlight.get? c.result.targetId = some c.epoch)
    (now : Instant) (id : TargetId) : (r.complete c now).2.scheduler.epoch? id = r.scheduler.epoch? id := by
  by_cases hc : r.scheduler.epoch? c.result.targetId = some c.epoch
  · exact (complete_of_current hm hc now).2.2.epochs id
  · rw [complete_of_stale hm hc now]
    rfl

theorem Full.complete (h : r.Full) {c : Completion}
    (hm : r.scheduler.inFlight.get? c.result.targetId = some c.epoch) (now : Instant) : (r.complete c now).2.Full := by
  by_cases hc : r.scheduler.epoch? c.result.targetId = some c.epoch
  · obtain ⟨hreg, hst, ht⟩ := complete_of_current hm hc now
    refine h.of_eq hreg (epoch?_complete hm now) fun id => ?_
    rw [hst]
    exact isSome_snapshot?_apply _ _ _
  · rw [complete_of_stale hm hc now]
    exact h.of_eq rfl (fun _ => rfl) fun _ => rfl

theorem policy_complete {c : Completion} (hm : r.scheduler.inFlight.get? c.result.targetId = some c.epoch)
    (now : Instant) : (r.complete c now).2.store.policy = r.store.policy := by
  by_cases hc : r.scheduler.epoch? c.result.targetId = some c.epoch
  · rw [(complete_of_current hm hc now).2.1]
    exact StateStore.policy_apply _ _
  · rw [complete_of_stale hm hc now]
    rfl

theorem Reloads.cases {diff : RegistryDiff} (hr : Reloads diff r r') (id : TargetId) :
    (¬ diff.Touches id ∧ r'.registry.get? id = r.registry.get? id ∧ r'.scheduler.epoch? id = r.scheduler.epoch? id ∧
      r'.store.snapshot? id = r.store.snapshot? id) ∨
    (id ∈ diff.removed ∧ r'.registry.get? id = none ∧ r'.scheduler.epoch? id = none ∧ r'.store.snapshot? id = none) ∨
    (id ∈ diff.added ++ diff.changed ∧ (r'.registry.get? id).isSome ∧
      (∃ n, r'.scheduler.epoch? id = some n ∧ r.scheduler.lastEpoch < n ∧ n ≤ r'.scheduler.lastEpoch) ∧
      r'.store.snapshot? id = some ((r.store.snapshot? id).getD (.recordAll r.store.policy id []))) := by
  by_cases ht : diff.Touches id
  · right
    have hnew : id ∈ diff.added ++ diff.changed → (r'.registry.get? id).isSome :=
      hr.diff_eq ▸ RegistryDiff.isSome_of_mem
    rcases ht with ha | hrm | hc
    · have hac := List.mem_append_left diff.changed ha
      exact .inr ⟨hac, hnew hac, hr.renewed id hac⟩
    · have hgone : r'.registry.get? id = none := by
        rw [hr.diff_eq, RegistryDiff.mem_removed_iff] at hrm
        exact hrm.2
      exact .inl ⟨hrm, hgone, hr.removed id hrm⟩
    · have hac := List.mem_append_right diff.added hc
      exact .inr ⟨hac, hnew hac, hr.renewed id hac⟩
  · left
    refine ⟨ht, ?_, hr.kept id ht⟩
    have hsame := ht
    rw [hr.diff_eq, RegistryDiff.touches_between_iff, not_not] at hsame
    exact hsame.symm

theorem Full.reload {diff : RegistryDiff} (h : r.Full) (hr : Reloads diff r r') : r'.Full where
  scheduled id hid := by
    rcases hr.cases id with ⟨-, hreg, he, -⟩ | ⟨-, hreg, -, -⟩ | ⟨-, -, ⟨n, hn, -, -⟩, -⟩
    · rw [he]
      exact h.scheduled id (hreg ▸ hid)
    · rw [hreg] at hid
      cases hid
    · exact Option.isSome_of_eq_some hn
  tracked id hid := by
    rcases hr.cases id with ⟨-, hreg, -, hs⟩ | ⟨-, hreg, -, -⟩ | ⟨-, -, -, hs⟩
    · rw [hs]
      exact h.tracked id (hreg ▸ hid)
    · rw [hreg] at hid
      cases hid
    · exact Option.isSome_of_eq_some hs

theorem Aligned.insert (h : r.Aligned) (hreg : (r.registry.get? id).isSome) (base : Duration) (due : Instant) :
    Aligned { r with scheduler := r.scheduler.insert id base due } where
  keyed := h.keyed
  scheduled id' hid := by
    dsimp only at hid
    rw [Scheduler.epoch?_insert] at hid
    split at hid
    · rename_i heq
      exact heq ▸ hreg
    · exact h.scheduled id' hid
  tracked := h.tracked
  opened id' n hn := by
    dsimp only at hn ⊢
    rw [Scheduler.epoch?_insert] at hn
    rw [Scheduler.lastEpoch_insert]
    split at hn
    · cases hn
      exact Nat.le_refl _
    · exact (h.opened id' n hn).trans (Nat.le_succ _)
  marked id' n hm := by
    dsimp only at hm ⊢
    rw [Scheduler.inFlight_insert] at hm
    rw [Scheduler.lastEpoch_insert]
    exact (h.marked id' n hm).trans (Nat.le_succ _)
  unique := (Scheduler.inFlight_insert r.scheduler id base due) ▸ h.unique

theorem Aligned.register {store : StateStore} (h : r.Aligned) (hreg : (r.registry.get? id).isSome)
    (hst : r.store.register id = .ok store) : Aligned { r with store := store } :=
  { h with
    tracked := fun id' hid => by
      dsimp only at hid
      rw [StateStore.snapshot?_register hst] at hid
      split at hid
      · rename_i heq
        exact heq ▸ hreg
      · exact h.tracked id' hid }

/-- Once the targets are gone that a new set lacks, the roster is one for that set. -/
theorem Aligned.install (h : r.Aligned) {snapshot : RegistrySnapshot} (hk : snapshot.Keyed) :
    ((RegistryDiff.between r.registry.current snapshot).removed.foldl discard (r.install snapshot)).Aligned := by
  have hd := discards_foldl (RegistryDiff.between r.registry.current snapshot).removed (r.install snapshot)
  have hstays (id : TargetId) (hid : id ∉ (RegistryDiff.between r.registry.current snapshot).removed)
      (hold : (r.registry.get? id).isSome) : (snapshot.get? id).isSome := by
    refine Option.isSome_iff_ne_none.mpr fun hnone => hid ?_
    exact (RegistryDiff.mem_removed_iff _ _ id).mpr ⟨hold, hnone⟩
  refine ⟨hd.registry ▸ hk, ?_, ?_, ?_, ?_, hd.inFlight ▸ h.unique⟩
  · intro id hid
    rw [hd.epoch?] at hid
    rw [hd.registry]
    split at hid
    · cases hid
    · rename_i hn
      exact hstays id hn (h.scheduled id hid)
  · intro id hid
    rw [hd.snapshot?] at hid
    rw [hd.registry]
    split at hid
    · cases hid
    · rename_i hn
      exact hstays id hn (h.tracked id hid)
  · intro id n hn
    rw [hd.epoch?] at hn
    rw [hd.lastEpoch]
    split at hn
    · cases hn
    · exact h.opened id n hn
  · intro id n hm
    rw [hd.inFlight] at hm
    rw [hd.lastEpoch]
    exact h.marked id n hm

section Reload

variable {targets : List Target} {firstDue : TargetId → Instant}

theorem withstands_aligned (snapshot : RegistrySnapshot) (firstDue : TargetId → Instant) :
    Withstands snapshot firstDue fun u => u.Aligned ∧ u.registry = ⟨snapshot⟩ := by
  have hsome (u : Roster) (id : TargetId) (t : Target) (hreg : u.registry = ⟨snapshot⟩) (ht : snapshot.get? id = some t) :
      (u.registry.get? id).isSome := by
    rw [hreg]
    exact Option.isSome_of_eq_some ht
  constructor
  · rintro u id t ht ⟨ha, hreg⟩
    exact ⟨ha.insert (hsome u id t hreg ht) t.interval (firstDue id), hreg⟩
  · rintro u id t store ht hst ⟨ha, hreg⟩
    exact ⟨ha.register (hsome u id t hreg ht) hst, hreg⟩

theorem Aligned.reload {diff : RegistryDiff} (h : r.Aligned) (hr : r.reload targets firstDue = .ok (.ok (diff, r'))) :
    r'.Aligned := by
  obtain ⟨snapshot, hb, rfl, hcases⟩ := reload_eq_ok hr
  have hgone := h.install (RegistrySnapshot.keyed_build hb)
  rcases hcases with ⟨hempty, rfl⟩ | ⟨u, hu, rfl⟩
  · have hnone : (RegistryDiff.between r.registry.current snapshot).removed = [] :=
      List.eq_nil_iff_forall_not_mem.mpr fun id hid => RegistryDiff.not_touches_of_isEmpty hempty id (.inr (.inl hid))
    rwa [hnone] at hgone
  · have hu := (withstands_aligned snapshot firstDue).follow hu ⟨hgone, (discards_foldl _ _).registry⟩
    exact ⟨hu.1.keyed, hu.1.scheduled, hu.1.tracked, hu.1.opened, hu.1.marked, hu.1.unique⟩

theorem Aligned.interruptReload {fault : Fault} (h : r.Aligned) (hr : r.reload targets firstDue = .error fault) :
    (r.interruptReload targets firstDue).Aligned := by
  obtain ⟨snapshot, hb, -, heq⟩ := interruptReload_eq hr
  have hgone := h.install (RegistrySnapshot.keyed_build hb)
  rw [heq]
  exact ((withstands_aligned snapshot firstDue).enrollSome _ _ ⟨hgone, (discards_foldl _ _).registry⟩).1

end Reload

theorem foldl_insert (targets : List Target) (firstDue : TargetId → Instant) (s : Scheduler) :
    let u := targets.foldl (fun s t => s.insert t.id t.interval (firstDue t.id)) s
    u.inFlight = s.inFlight ∧ s.lastEpoch ≤ u.lastEpoch ∧
      ∀ id, (id ∈ targets.map (·.id) → ∃ n, u.epoch? id = some n ∧ n ≤ u.lastEpoch) ∧
        (id ∉ targets.map (·.id) → u.epoch? id = s.epoch? id) := by
  induction targets generalizing s with
  | nil => exact ⟨rfl, Nat.le_refl _, fun id => ⟨fun h => absurd h List.not_mem_nil, fun _ => rfl⟩⟩
  | cons t targets ih =>
    obtain ⟨hf, hl, hall⟩ := ih (s.insert t.id t.interval (firstDue t.id))
    rw [Scheduler.lastEpoch_insert] at hl
    refine ⟨hf.trans (Scheduler.inFlight_insert _ _ _ _), (Nat.le_succ _).trans hl, fun id => ⟨?_, ?_⟩⟩
    · intro hid
      by_cases hids : id ∈ targets.map (·.id)
      · exact (hall id).1 hids
      · have heq : id = t.id := by simpa [hids] using hid
        refine ⟨s.lastEpoch + 1, ?_, hl⟩
        rw [List.foldl_cons, (hall id).2 hids, Scheduler.epoch?_insert, if_pos heq]
    · intro hid
      obtain ⟨hne, hids⟩ : id ≠ t.id ∧ id ∉ targets.map (·.id) := by simpa using hid
      rw [List.foldl_cons, (hall id).2 hids, Scheduler.epoch?_insert, if_neg hne]

theorem foldlM_register (ids : List TargetId) (s t : StateStore) (h : ids.foldlM StateStore.register s = .ok t) :
    t.policy = s.policy ∧ ∀ id, t.snapshot? id =
      if id ∈ ids then some ((s.snapshot? id).getD (.recordAll s.policy id [])) else s.snapshot? id := by
  induction ids generalizing s with
  | nil =>
    cases h
    exact ⟨rfl, fun _ => rfl⟩
  | cons id ids ih =>
    rw [List.foldlM_cons] at h
    obtain ⟨u, hu, ht⟩ := exists_of_bind_eq_ok h
    have hp := StateStore.policy_register hu
    obtain ⟨hpt, hall⟩ := ih u ht
    refine ⟨hpt.trans hp, fun id' => ?_⟩
    rw [hall, StateStore.snapshot?_register hu, hp]
    by_cases hid : id' = id <;> by_cases hids : id' ∈ ids <;> simp [hid, hids, TargetState.recordAll]

theorem start_eq_ok {registry : Registry} {policy : HealthPolicy} {firstDue : TargetId → Instant}
    (hk : registry.current.Keyed) (h : Roster.start registry policy firstDue = .ok r) :
    r.Aligned ∧ r.Full ∧ r.registry = registry ∧ r.scheduler.inFlight = .empty ∧ r.store.policy = policy ∧
      ∀ id, r.store.snapshot? id = (r.registry.get? id).map fun _ => .recordAll policy id [] := by
  obtain ⟨store, hst, heq⟩ := exists_of_bind_eq_ok h
  cases heq
  obtain ⟨hf, -, hsched⟩ := foldl_insert registry.current.targets.values firstDue (Scheduler.new policy.backoff)
  simp only [hk.map_id_values, RegistrySnapshot.mem_ids_iff] at hsched
  obtain ⟨hp, hreg⟩ := foldlM_register registry.current.ids (StateStore.new policy) store hst
  simp only [RegistrySnapshot.mem_ids_iff] at hreg
  have hsnap (id : TargetId) : store.snapshot? id = (registry.get? id).map fun _ => .recordAll policy id [] := by
    rw [hreg id, Registry.get?]
    cases registry.current.get? id <;> rfl
  have hscheduled (id : TargetId) : (Scheduler.epoch? (registry.current.targets.values.foldl
      (fun s t => s.insert t.id t.interval (firstDue t.id)) (Scheduler.new policy.backoff)) id).isSome ↔
        (registry.get? id).isSome := by
    cases hid : registry.current.get? id with
    | none =>
      rw [(hsched id).2 (by simp [hid]), Registry.get?, hid]
      rfl
    | some t =>
      obtain ⟨n, hn, -⟩ := (hsched id).1 (by simp [hid])
      rw [hn, Registry.get?, hid]
      rfl
  have htracked (id : TargetId) : (store.snapshot? id).isSome ↔ (registry.get? id).isSome := by
    rw [hsnap, Option.isSome_map]
  refine ⟨⟨hk, fun id => (hscheduled id).mp, fun id => (htracked id).mp, ?_, ?_, ?_⟩,
    ⟨fun id => (hscheduled id).mpr, fun id => (htracked id).mpr⟩, rfl, hf, hp, hsnap⟩
  · intro id n hn
    by_cases hid : (registry.current.get? id).isSome
    · obtain ⟨n', hn', hle⟩ := (hsched id).1 hid
      rw [hn] at hn'
      cases hn'
      exact hle
    · rw [(hsched id).2 hid] at hn
      cases hn
  · intro id n hm
    dsimp only at hm
    rw [hf] at hm
    cases hm
  · rw [hf]
    exact List.Pairwise.nil

end Roster

namespace Monitor

theorem reload_eq_ok {m m' : Monitor} {targets : List Target} {now : Instant} {pick : TargetId → Nat}
    {diff : RegistryDiff} (h : m.reload targets now pick = .ok (.ok (diff, m'))) :
    m.roster.reload targets (firstDue now m.jitter pick) = .ok (.ok (diff, m'.roster)) ∧
      ∃ agenda, m'.executor = { m.executor with agenda := agenda } := by
  unfold reload at h
  split at h
  · cases h
  · obtain ⟨result, hr, h⟩ := exists_of_bind_eq_ok h
    split at h
    · cases h
    · split at h
      · cases h
        exact ⟨hr, m.executor.agenda, rfl⟩
      · cases h
        exact ⟨hr, m.executor.agenda.wake .reader, rfl⟩

theorem reload_eq_error {m : Monitor} {targets : List Target} {now : Instant} {pick : TargetId → Nat} {fault : Fault}
    (h : m.reload targets now pick = .error fault) :
    checkTargets targets = .ok () ∧ m.roster.reload targets (firstDue now m.jitter pick) = .error fault := by
  unfold reload at h
  split at h
  · cases h
  · rename_i hc
    refine ⟨hc, ?_⟩
    cases hr : m.roster.reload targets (firstDue now m.jitter pick) with
    | error f =>
      rw [hr] at h
      cases h
      rfl
    | ok answer =>
      rw [hr] at h
      dsimp only [bind, Except.bind] at h
      split at h
      · cases h
      · split at h <;> cases h

theorem checkTargets_of_reload {m m' : Monitor} {targets : List Target} {now : Instant} {pick : TargetId → Nat}
    {diff : RegistryDiff} (h : m.reload targets now pick = .ok (.ok (diff, m'))) : checkTargets targets = .ok () := by
  unfold reload at h
  split at h
  · cases h
  · assumption

theorem eq_of_start {now : Instant} {prober : Prober} {settings : Settings} {targets : List Target}
    {pick : TargetId → Nat} {m : Monitor} (h : start (some now) prober settings targets pick = .ok (.ok m)) :
    ∃ registry roster, RegistrySnapshot.build 0 targets = .ok registry.current ∧
      Roster.start registry ⟨settings.failureThreshold, settings.latencyWindow, settings.backoff⟩
        (firstDue now settings.jitter pick) = .ok roster ∧
      m = ⟨roster, { Executor.idle prober settings.executorConfig with agenda := Agenda.empty.wake .reader },
        settings.jitter, settings.drainTimeout, .starting, false, false⟩ := by
  unfold start at h
  dsimp only at h
  split at h
  · cases h
  split at h
  · cases h
  split at h
  · cases h
  rename_i x hx
  split at h
  · cases h
  rename_i registry hreg
  obtain ⟨roster, hr, heq⟩ := exists_of_bind_eq_ok h
  cases heq
  rw [Executor.eq_idle_of_new hx]
  exact ⟨registry, roster, Registry.new_eq_ok hreg, hr, rfl⟩

theorem start_eq_ok {now : Instant} {prober : Prober} {settings : Settings} {targets : List Target}
    {pick : TargetId → Nat} {m : Monitor} (h : start (some now) prober settings targets pick = .ok (.ok m)) :
    (∃ agenda, m.executor = { Executor.idle prober settings.executorConfig with agenda := agenda }) ∧
      ∃ registry firstDue, RegistrySnapshot.build 0 targets = .ok registry.current ∧
        Roster.start registry ⟨settings.failureThreshold, settings.latencyWindow, settings.backoff⟩ firstDue =
          .ok m.roster := by
  obtain ⟨registry, roster, hb, hr, rfl⟩ := eq_of_start h
  exact ⟨⟨_, rfl⟩, registry, _, hb, hr⟩

theorem accepted_of_start {clock : Option Instant} {prober : Prober} {settings : Settings} {targets : List Target}
    {pick : TargetId → Nat} {m : Monitor} (h : start clock prober settings targets pick = .ok (.ok m)) :
    settings.validate = .ok () ∧ checkTargets targets = .ok () := by
  unfold start at h
  split at h
  · cases h
  · split at h
    · cases h
    · rename_i hv
      split at h
      · cases h
      · rename_i ht
        exact ⟨hv, ht⟩

end Monitor

end TargetHealth
