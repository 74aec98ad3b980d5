import TargetHealth.Proofs.Monitor.Roster

namespace TargetHealth

open Scheduler

namespace Roster

variable {r r' : Roster} {targets : List Target} {firstDue : TargetId → Instant} {seen snapshot : RegistrySnapshot}
  {diff : RegistryDiff}

theorem enroll_frame {id : TargetId} {due : Instant} (h : r.enroll seen due id = .ok r') :
    r'.registry = r.registry ∧ r'.store.policy = r.store.policy := by
  rcases enroll_cases h with ⟨-, rfl⟩ | ⟨target, store, -, hst, rfl⟩
  · exact ⟨rfl, rfl⟩
  · exact ⟨rfl, StateStore.policy_register hst⟩

theorem follow_frame (h : r.follow diff seen firstDue = .ok r') :
    r'.registry = r.registry ∧ r'.store.policy = r.store.policy := by
  have hd := discards_foldl diff.removed r
  refine foldlM_preserves (P := fun u => u.registry = r.registry ∧ u.store.policy = r.store.policy) _ ?_ h
    ⟨hd.registry, hd.policy⟩
  intro id _ u u' hu hframe
  obtain ⟨hreg, hpolicy⟩ := enroll_frame hu
  exact ⟨hreg.trans hframe.1, hpolicy.trans hframe.2⟩

theorem exists_enroll (r : Roster) (seen : RegistrySnapshot) (due : Instant) (id : TargetId)
    (hw : LatencyWindow.canReserve (max r.store.policy.latencyWindow 1) = true) : ∃ r', r.enroll seen due id = .ok r' := by
  unfold enroll
  split
  · exact ⟨r, rfl⟩
  · obtain ⟨store, hst⟩ := StateStore.register_eq_ok r.store id hw
    rw [hst]
    exact ⟨_, rfl⟩

theorem exists_follow (r : Roster) (diff : RegistryDiff) (seen : RegistrySnapshot) (firstDue : TargetId → Instant)
    (hw : LatencyWindow.canReserve (max r.store.policy.latencyWindow 1) = true) :
    ∃ r', r.follow diff seen firstDue = .ok r' := by
  have hstep (id : TargetId) (u : Roster) (hu : u.store.policy = r.store.policy) :
      ∃ r', u.enroll seen (firstDue id) id = .ok r' ∧ r'.store.policy = r.store.policy := by
    obtain ⟨r', hr'⟩ := u.exists_enroll seen (firstDue id) id (hu ▸ hw)
    exact ⟨r', hr', (enroll_frame hr').2.trans hu⟩
  obtain ⟨r', hr', -⟩ := exists_foldlM (P := fun u : Roster => u.store.policy = r.store.policy) (diff.added ++ diff.changed)
    (fun id _ => hstep id) (discards_foldl diff.removed r).policy
  exact ⟨r', hr'⟩

theorem unreservable_of_reload {fault : Fault} (h : r.reload targets firstDue = .error fault) :
    LatencyWindow.canReserve (max r.store.policy.latencyWindow 1) = false := by
  refine Bool.eq_false_iff.mpr fun hw => ?_
  unfold reload at h
  split at h
  · cases h
  · rename_i diff snapshot _
    dsimp only at h
    split at h
    · cases h
    · obtain ⟨u, hu⟩ := (r.install snapshot).exists_follow diff snapshot firstDue hw
      rw [hu] at h
      cases h

/-- A property of rosters that neither a place in the schedule breaks nor a registration, whichever target of a snapshot it is
for. -/
structure Withstands (snapshot : RegistrySnapshot) (firstDue : TargetId → Instant) (P : Roster → Prop) : Prop where
  schedule : ∀ r id t, snapshot.get? id = some t → P r →
    P { r with scheduler := r.scheduler.insert id t.interval (firstDue id) }
  register : ∀ r id t store, snapshot.get? id = some t → r.store.register id = .ok store → P r →
    P { r with store := store }

namespace Withstands

variable {P : Roster → Prop}

theorem enroll (h : Withstands snapshot firstDue P) {id : TargetId} (he : r.enroll snapshot (firstDue id) id = .ok r')
    (hr : P r) : P r' := by
  rcases enroll_cases he with ⟨-, rfl⟩ | ⟨t, store, ht, hst, rfl⟩
  · exact hr
  · exact h.register { r with scheduler := r.scheduler.insert id t.interval (firstDue id) } id t store ht hst
      (h.schedule r id t ht hr)

theorem restart (h : Withstands snapshot firstDue P) (id : TargetId) (hr : P r) :
    P (r.restart snapshot (firstDue id) id) := by
  unfold Roster.restart
  split
  · exact hr
  · rename_i t ht
    exact h.schedule r id t ht hr

theorem follow (h : Withstands snapshot firstDue P) (hf : r.follow diff snapshot firstDue = .ok r')
    (hr : P (diff.removed.foldl discard r)) : P r' :=
  foldlM_preserves _ (fun _ _ _ _ he => h.enroll he) hf hr

theorem enrollSome (h : Withstands snapshot firstDue P) (ids : List TargetId) (r : Roster) (hr : P r) :
    P (enrollSome snapshot firstDue ids r) := by
  induction ids generalizing r with
  | nil => exact hr
  | cons id ids ih =>
    unfold Roster.enrollSome
    split
    · rename_i u hu
      exact ih u (h.enroll hu hr)
    · exact h.restart id hr

end Withstands

theorem registry_enrollSome (snapshot : RegistrySnapshot) (firstDue : TargetId → Instant) (ids : List TargetId) (r : Roster) :
    (enrollSome snapshot firstDue ids r).registry = r.registry :=
  have h : Withstands snapshot firstDue (·.registry = r.registry) := ⟨fun _ _ _ _ hu => hu, fun _ _ _ _ _ _ hu => hu⟩
  h.enrollSome ids r rfl

/-- A reload that meets a fault has built its set of targets, and there are some among them to be enrolled. -/
theorem interruptReload_eq {fault : Fault} (h : r.reload targets firstDue = .error fault) :
    ∃ snapshot, RegistrySnapshot.build (r.registry.current.generation + 1) targets = .ok snapshot ∧
      let diff := RegistryDiff.between r.registry.current snapshot
      diff.added ++ diff.changed ≠ [] ∧ r.interruptReload targets firstDue =
        enrollSome snapshot firstDue (diff.added ++ diff.changed) (diff.removed.foldl discard (r.install snapshot)) := by
  cases hnext : r.registry.next targets with
  | error id =>
    simp only [reload, hnext] at h
    cases h
  | ok p =>
    obtain ⟨diff, snapshot⟩ := p
    obtain ⟨hb, rfl⟩ := Registry.next_eq_ok hnext
    refine ⟨snapshot, hb, fun hnone => ?_, by simp only [interruptReload, hnext]⟩
    simp only [reload, hnext, follow, hnone, List.foldlM_nil] at h
    split at h <;> cases h

/-- A roster in which the schedule of some targets has ended, and that of others has begun anew. -/
structure Reschedules (r r' : Roster) : Prop where
  inFlight : r'.scheduler.inFlight = r.scheduler.inFlight
  lastEpoch : r.scheduler.lastEpoch ≤ r'.scheduler.lastEpoch
  backoff : r'.scheduler.policy = r.scheduler.policy
  policy : r'.store.policy = r.store.policy
  entry? : ∀ id e, r'.scheduler.entry? id = some e → r.scheduler.entry? id = some e ∨ r.scheduler.lastEpoch < e.epoch

theorem Reschedules.epoch? (h : Reschedules r r') {id : TargetId} {n : Nat} (hn : r'.scheduler.epoch? id = some n) :
    r'.scheduler.entry? id = r.scheduler.entry? id ∨ r.scheduler.lastEpoch < n := by
  obtain ⟨e, he, rfl⟩ := Option.map_eq_some_iff.mp hn
  exact (h.entry? id e he).imp_left fun hold => he.trans hold.symm

theorem Reschedules.insert (h : Reschedules r r') (id : TargetId) (base : Duration) (due : Instant) :
    Reschedules r { r' with scheduler := r'.scheduler.insert id base due } where
  inFlight := (inFlight_insert _ _ _ _).trans h.inFlight
  lastEpoch := (lastEpoch_insert r'.scheduler id base due) ▸ h.lastEpoch.trans (Nat.le_succ _)
  backoff := (policy_insert _ _ _ _).trans h.backoff
  policy := h.policy
  entry? id' e he := by
    dsimp only at he
    rw [entry?_insert] at he
    split at he
    · cases he
      exact .inr (Nat.lt_succ_of_le h.lastEpoch)
    · exact h.entry? id' e he

theorem reschedules_discards {ids : List TargetId} (h : Discards ids r r') : Reschedules r r' where
  inFlight := h.inFlight
  lastEpoch := h.lastEpoch.ge
  backoff := h.backoff
  policy := h.policy
  entry? id e he := by
    rw [h.entry?] at he
    split at he
    · cases he
    · exact .inl he

theorem reschedules_interruptReload {fault : Fault} (h : r.reload targets firstDue = .error fault) :
    Reschedules r (r.interruptReload targets firstDue) := by
  obtain ⟨snapshot, -, -, heq⟩ := interruptReload_eq h
  have hd := discards_foldl (RegistryDiff.between r.registry.current snapshot).removed (r.install snapshot)
  have hgone := reschedules_discards hd
  have hkept : Withstands snapshot firstDue (Reschedules r) :=
    ⟨fun u id t _ hu => hu.insert id t.interval (firstDue id), fun u id t store _ hst hu =>
      ⟨hu.inFlight, hu.lastEpoch, hu.backoff, (StateStore.policy_register hst).trans hu.policy, hu.entry?⟩⟩
  rw [heq]
  exact hkept.enrollSome _ _ ⟨hgone.inFlight, hgone.lastEpoch, hgone.backoff, hgone.policy, hgone.entry?⟩

end Roster

end TargetHealth
