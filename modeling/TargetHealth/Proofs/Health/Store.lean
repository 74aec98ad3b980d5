import TargetHealth.Health.Store
import TargetHealth.Proofs.Fault
import TargetHealth.Proofs.Health.Summary

namespace TargetHealth

theorem LatencyWindow.new?_eq (capacity : Nat) : LatencyWindow.new? capacity =
    if LatencyWindow.canReserve (max capacity 1) then .ok (.ofCapacity capacity) else .error .windowCapacity := rfl

namespace StateStore

variable {s t : StateStore} {id : TargetId}

theorem register_eq_ok (s : StateStore) (id : TargetId)
    (hw : LatencyWindow.canReserve (max s.policy.latencyWindow 1) = true) : ∃ t, s.register id = .ok t := by
  unfold register
  split
  · exact ⟨s, rfl⟩
  · simp only [LatencyWindow.new?, hw, if_true]
    exact ⟨_, rfl⟩

theorem register_of_unreservable (hw : LatencyWindow.canReserve (max s.policy.latencyWindow 1) = false)
    (hn : s.snapshot? id = none) : s.register id = .error .windowCapacity := by
  have hunknown : ¬ s.states.contains id = true := by
    rw [Table.contains, Bool.not_eq_true, Option.isSome_eq_false_iff, Option.isNone_iff_eq_none]
    exact hn
  rw [register, if_neg hunknown, LatencyWindow.new?_eq, if_neg (Bool.eq_false_iff.mp hw)]
  rfl

theorem policy_register (h : s.register id = .ok t) : t.policy = s.policy := by
  unfold register at h
  split at h
  · cases h; rfl
  · obtain ⟨w, -, heq⟩ := exists_of_bind_eq_ok h
    cases heq; rfl

theorem snapshot?_register (h : s.register id = .ok t) (id' : TargetId) :
    t.snapshot? id' =
      if id' = id then some ((s.snapshot? id).getD (.new id (.ofCapacity s.policy.latencyWindow)))
      else s.snapshot? id' := by
  unfold register at h
  split at h
  · rename_i hc
    cases h
    obtain ⟨state, hs⟩ := Option.isSome_iff_exists.mp hc
    have hs' : s.snapshot? id = some state := hs
    by_cases hid : id' = id
    · simp [hid, hs']
    · simp [hid]
  · rename_i hc
    have hs : s.snapshot? id = none := by simpa [Table.contains, snapshot?] using hc
    obtain ⟨w, hn, heq⟩ := exists_of_bind_eq_ok h
    have hw : w = .ofCapacity s.policy.latencyWindow := by
      unfold LatencyWindow.new? at hn
      split at hn
      · exact (Except.ok.inj hn).symm
      · cases hn
    cases heq; subst hw
    simp only [snapshot?, Table.get?_insert]
    by_cases hid : id' = id
    · simp only [snapshot?] at hs
      simp [hid, hs]
    · simp [hid]

theorem exists_foldlM_register (ids : List TargetId) (s : StateStore)
    (hw : LatencyWindow.canReserve (max s.policy.latencyWindow 1) = true) : ∃ t, ids.foldlM register s = .ok t := by
  have hstep (id : TargetId) (u : StateStore) (hu : u.policy = s.policy) : ∃ t, u.register id = .ok t ∧ t.policy = s.policy := by
    obtain ⟨t, ht⟩ := register_eq_ok u id (hu ▸ hw)
    exact ⟨t, ht, (policy_register ht).trans hu⟩
  obtain ⟨t, ht, -⟩ := exists_foldlM (P := fun u : StateStore => u.policy = s.policy) ids (fun id _ => hstep id) rfl
  exact ⟨t, ht⟩

theorem withTargets_of_unreservable (policy : HealthPolicy) {ids : List TargetId} (hids : ids ≠ [])
    (hw : LatencyWindow.canReserve (max policy.latencyWindow 1) = false) :
    withTargets policy ids = .error .windowCapacity := by
  obtain ⟨id, rest, rfl⟩ := List.exists_cons_of_ne_nil hids
  have hfirst : (new policy).register id = .error .windowCapacity := register_of_unreservable hw rfl
  rw [withTargets, List.foldlM_cons, hfirst]
  rfl

theorem snapshot?_remove (s : StateStore) (id id' : TargetId) :
    (s.remove id).snapshot? id' = if id' = id then none else s.snapshot? id' :=
  Table.get?_erase s.states id id'

theorem policy_apply (s : StateStore) (r : ProbeResult) : (s.apply r).2.policy = s.policy := by
  unfold apply
  split
  · rfl
  · split <;> rfl

theorem apply_cancelled (s : StateStore) {r : ProbeResult} (h : r.outcome = .cancelled) : (s.apply r).2 = s := by
  simp [apply, h]

theorem snapshot?_apply (s : StateStore) {r : ProbeResult} (h : r.outcome ≠ .cancelled) (id : TargetId) :
    (s.apply r).2.snapshot? id =
      if id = r.targetId then (s.snapshot? id).map (·.record r s.policy) else s.snapshot? id := by
  unfold apply
  rw [if_neg h]
  cases hs : s.snapshot? r.targetId with
  | none =>
    by_cases hid : id = r.targetId
    · simp [hid, hs]
    · simp [hid]
  | some state =>
    simp only [snapshot?, Table.get?_insert]
    by_cases hid : id = r.targetId
    · simp only [snapshot?] at hs
      simp [hid, hs]
    · simp [hid]

end StateStore

inductive StoreChange where
  | register (id : TargetId)
  | remove (id : TargetId)
  | apply (result : ProbeResult)
deriving DecidableEq, Repr

def StateStore.change (s : StateStore) : StoreChange → Except Fault StateStore
  | .register id => s.register id
  | .remove id => .ok (s.remove id)
  | .apply result => .ok (s.apply result).2

def StateStore.changeAll (s : StateStore) (changes : List StoreChange) : Except Fault StateStore :=
  changes.foldlM StateStore.change s

namespace StoreChange

/-- What is known of a target after one more change: nothing if it is not registered, else the results that count. -/
def extend (id : TargetId) (known : Option (List ProbeResult)) : StoreChange → Option (List ProbeResult)
  | .register id' => if id = id' then some (known.getD []) else known
  | .remove id' => if id = id' then none else known
  | .apply r => if id = r.targetId ∧ r.outcome ≠ .cancelled then known.map (· ++ [r]) else known

/-- The results of a target since it was registered anew, less the cancelled ones; none if it is not registered. -/
def resultsOf (id : TargetId) (changes : List StoreChange) : Option (List ProbeResult) :=
  changes.foldl (extend id) none

end StoreChange

namespace StateStore

open StoreChange

def Shows (s : StateStore) (known : TargetId → Option (List ProbeResult)) : Prop :=
  ∀ id, s.snapshot? id = (known id).map (TargetState.ofResults s.policy id)

variable {s t : StateStore} {known : TargetId → Option (List ProbeResult)}

theorem shows_register (hp : s.policy.InRange) (hs : s.Shows known) {id : TargetId} (h : s.register id = .ok t) :
    t.Shows (fun id' => extend id' (known id') (.register id)) := by
  intro id'
  rw [policy_register h, snapshot?_register h, hs id, hs id', ← TargetState.ofResults_nil hp]
  by_cases hid : id' = id
  · subst hid
    cases hk : known id' <;> simp [extend, hk]
  · simp [extend, hid]

theorem shows_remove (hs : s.Shows known) (id : TargetId) :
    (s.remove id).Shows (fun id' => extend id' (known id') (.remove id)) := by
  intro id'
  rw [snapshot?_remove, hs id']
  by_cases hid : id' = id <;> simp [extend, hid, remove]

theorem shows_apply (hp : s.policy.InRange) (hs : s.Shows known) (r : ProbeResult) :
    (s.apply r).2.Shows (fun id => extend id (known id) (.apply r)) := by
  intro id
  by_cases hc : r.outcome = .cancelled
  · rw [apply_cancelled s hc, hs id]
    simp [extend, hc]
  · rw [policy_apply, snapshot?_apply s hc, hs id]
    by_cases hid : id = r.targetId
    · subst hid
      cases hk : known r.targetId with
      | none => simp [extend, hk]
      | some rs => simp [extend, hk, hc, TargetState.record_ofResults hp]
    · simp [extend, hid]

theorem change_eq_ok (s : StateStore) (hw : LatencyWindow.canReserve (max s.policy.latencyWindow 1) = true)
    (c : StoreChange) : ∃ t, s.change c = .ok t ∧ t.policy = s.policy := by
  cases c with
  | register id =>
    obtain ⟨t, ht⟩ := register_eq_ok s id hw
    exact ⟨t, ht, policy_register ht⟩
  | remove id => exact ⟨_, rfl, rfl⟩
  | apply r => exact ⟨_, rfl, policy_apply s r⟩

theorem shows_change (hp : s.policy.InRange) (hs : s.Shows known) {c : StoreChange} (h : s.change c = .ok t) :
    t.Shows (fun id => extend id (known id) c) := by
  cases c with
  | register id => exact shows_register hp hs h
  | remove id => cases h; exact shows_remove hs id
  | apply r => cases h; exact shows_apply hp hs r

/-- No list of changes meets a fault, and what it tells of the targets is what the store shows after it. -/
theorem shows_changeAll (hp : s.policy.InRange)
    (hw : LatencyWindow.canReserve (max s.policy.latencyWindow 1) = true) (hs : s.Shows known)
    (changes : List StoreChange) :
    ∃ t, s.changeAll changes = .ok t ∧ t.policy = s.policy ∧
      t.Shows (fun id => changes.foldl (extend id) (known id)) := by
  induction changes generalizing s known with
  | nil => exact ⟨s, rfl, rfl, hs⟩
  | cons c changes ih =>
    obtain ⟨u, hu, hpu⟩ := change_eq_ok s hw c
    obtain ⟨t, ht, hpt, hst⟩ := ih (hpu ▸ hp) (hpu ▸ hw) (shows_change hp hs hu)
    refine ⟨t, ?_, hpt.trans hpu, hst⟩
    rw [changeAll, List.foldlM_cons, hu]
    exact ht

theorem snapshot?_apply_skipped (s : StateStore) {r : ProbeResult} (h : r.outcome = .skipped) (id : TargetId) :
    (s.apply r).2.snapshot? id = if id = r.targetId then (s.snapshot? id).map (fun state =>
      { state with
        skipped := state.skipped + 1
        lastSkipped := some r.timestamp
        lastOutcome := some .skipped
        lastMessage := r.message }) else s.snapshot? id := by
  have hc : r.outcome ≠ .cancelled := by rw [h]; decide
  rw [snapshot?_apply s hc]
  have hrec : (fun state : TargetState => state.record r s.policy) = fun state => { state with
      skipped := state.skipped + 1
      lastSkipped := some r.timestamp
      lastOutcome := some .skipped
      lastMessage := r.message } := by
    funext state
    rw [TargetState.record_skipped state s.policy h, TargetState.recordSkipped, h]
  rw [hrec]

/-- The health of a target is a function of its history. -/
theorem snapshot?_changeAll (policy : HealthPolicy) (hp : policy.InRange)
    (hw : LatencyWindow.canReserve (max policy.latencyWindow 1) = true) (changes : List StoreChange) :
    ∃ s, (StateStore.new policy).changeAll changes = .ok s ∧
      (∀ id, s.snapshot? id = (resultsOf id changes).map (TargetState.ofResults policy id)) ∧
      ∀ r : ProbeResult, r.outcome = .skipped → ∀ id,
        (s.apply r).2.snapshot? id = if id = r.targetId then (s.snapshot? id).map (fun state =>
          { state with
            skipped := state.skipped + 1
            lastSkipped := some r.timestamp
            lastOutcome := some .skipped
            lastMessage := r.message }) else s.snapshot? id := by
  have hs : (StateStore.new policy).Shows (fun _ => none) := fun _ => rfl
  obtain ⟨s, hok, hpolicy, hshows⟩ := shows_changeAll (s := StateStore.new policy) hp hw hs changes
  refine ⟨s, hok, ?_, fun r hr id => snapshot?_apply_skipped s hr id⟩
  intro id
  rw [hshows id, hpolicy]
  rfl

/-- Three failures and a skipped cycle between them take a target down and its multiplier to the greatest. -/
theorem snapshot?_changeAll_three_failures :
    ∃ s, (StateStore.new ⟨3, 2, ⟨2, 8, .ofSeconds 300⟩⟩).changeAll
        [.register "a", .apply (.failure "a" .timeout "connect" ⟨0, 0⟩), .apply (.failure "a" .timeout "connect" ⟨1, 0⟩),
          .apply (.skipped "a" "probe queue full" ⟨2, 0⟩), .apply (.failure "a" .dnsFailure "no host" ⟨3, 0⟩)] = .ok s ∧
      (s.snapshot? "a").map (fun state => (state.status, state.backoffMultiplier, state.totalProbes, state.skipped)) =
        some (.down, 8, 3, 1) := by
  obtain ⟨s, hok, hall, -⟩ := snapshot?_changeAll ⟨3, 2, ⟨2, 8, .ofSeconds 300⟩⟩
    ⟨by decide, by decide, by decide, by decide, by decide⟩ (by decide)
    [.register "a", .apply (.failure "a" .timeout "connect" ⟨0, 0⟩), .apply (.failure "a" .timeout "connect" ⟨1, 0⟩),
      .apply (.skipped "a" "probe queue full" ⟨2, 0⟩), .apply (.failure "a" .dnsFailure "no host" ⟨3, 0⟩)]
  refine ⟨s, hok, ?_⟩
  rw [hall]
  rfl

end StateStore

end TargetHealth
