import TargetHealth.Metrics.Targets
import TargetHealth.Proofs.Health.Store
import TargetHealth.Proofs.Table

namespace TargetHealth

namespace TargetMetrics

def shown? (g : TargetMetrics) (id : TargetId) : Option Int × Option Nat :=
  (g.statuses.get? id, g.multipliers.get? id)

def shownOf (state : Option TargetState) : Option Int × Option Nat :=
  (state.map (·.status.gauge), state.map (·.backoffMultiplier))

def Shows (g : TargetMetrics) (s : StateStore) : Prop := ∀ id, g.shown? id = shownOf (s.snapshot? id)

structure Ordered (g : TargetMetrics) : Prop where
  statuses : g.statuses.Ascending
  multipliers : g.multipliers.Ascending

variable {g : TargetMetrics} {s : StateStore}

theorem shown?_update (g : TargetMetrics) (id id' : TargetId) (status : Status) (multiplier : Nat) :
    (g.update id status multiplier).shown? id' =
      if id' = id then (some status.gauge, some multiplier) else g.shown? id' := by
  simp only [shown?, update, Table.get?_insert]
  split <;> rfl

theorem shown?_remove (g : TargetMetrics) (id id' : TargetId) :
    (g.remove id).shown? id' = if id' = id then (none, none) else g.shown? id' := by
  simp only [shown?, remove, Table.get?_erase]
  split <;> rfl

theorem ordered_empty : empty.Ordered := ⟨Table.ascending_empty, Table.ascending_empty⟩

theorem Ordered.update (h : g.Ordered) (id : TargetId) (status : Status) (multiplier : Nat) :
    (g.update id status multiplier).Ordered := ⟨h.statuses.insert id _, h.multipliers.insert id _⟩

theorem Ordered.remove (h : g.Ordered) (id : TargetId) : (g.remove id).Ordered :=
  ⟨h.statuses.erase id, h.multipliers.erase id⟩

theorem shown?_setTotal (g : TargetMetrics) (n : Nat) (id : TargetId) : (g.setTotal n).shown? id = g.shown? id := by
  unfold setTotal shown?
  rfl

theorem total_setTotal (g : TargetMetrics) (n : Nat) : (g.setTotal n).total = Int.bmod n (Nat.pow 2 64) := by
  rw [setTotal]

/-- As many targets as memory can hold are counted right. -/
theorem bmod_of_lt {n : Nat} (h : n < Nat.pow 2 63) : Int.bmod n (Nat.pow 2 64) = n := by
  have hlt : n < 9223372036854775808 := h
  have hpow : ((Nat.pow 2 64 : Nat) : Int) = 18446744073709551616 := rfl
  apply Int.bmod_eq_of_le_mul_two
  · omega
  · omega

theorem Ordered.setTotal (h : g.Ordered) (n : Nat) : (g.setTotal n).Ordered := by
  unfold TargetMetrics.setTotal
  exact ⟨h.statuses, h.multipliers⟩

theorem shown?_foldl_update (ids : List TargetId) (g : TargetMetrics) (id : TargetId) :
    (ids.foldl (fun g id => g.update id .unknown 1) g).shown? id =
      if id ∈ ids then (some Status.unknown.gauge, some 1) else g.shown? id := by
  induction ids generalizing g with
  | nil => rfl
  | cons id' ids ih =>
    rw [List.foldl_cons, ih, shown?_update]
    by_cases hid : id = id' <;> by_cases hids : id ∈ ids <;> simp [hid, hids]

theorem total_foldl_update (ids : List TargetId) (g : TargetMetrics) :
    (ids.foldl (fun g id => g.update id .unknown 1) g).total = g.total := by
  induction ids generalizing g with
  | nil => rfl
  | cons id ids ih => exact ih _

theorem Ordered.foldl_update (h : g.Ordered) (ids : List TargetId) :
    (ids.foldl (fun g id => g.update id .unknown 1) g).Ordered :=
  List.foldlRecOn ids _ h fun _ hg id _ => hg.update id .unknown 1

theorem Shows.update (h : g.Shows s) (id : TargetId) (state : TargetState) :
    (g.update id state.status state.backoffMultiplier).Shows { s with states := s.states.insert id state } := by
  intro id'
  have hs : StateStore.snapshot? { s with states := s.states.insert id state } id' =
      if id' = id then some state else s.snapshot? id' := Table.get?_insert s.states id id' state
  rw [shown?_update, hs, h id']
  split <;> rfl

theorem shownOf_fresh (policy : HealthPolicy) (id : TargetId) :
    shownOf (some (.recordAll policy id [])) = (some Status.unknown.gauge, some 1) := rfl

end TargetMetrics

namespace StateStore

theorem ascending_register {s t : StateStore} {id : TargetId} (hs : s.states.Ascending) (h : s.register id = .ok t) :
    t.states.Ascending := by
  unfold register at h
  split at h
  · cases h
    exact hs
  · obtain ⟨w, -, heq⟩ := exists_of_bind_eq_ok h
    cases heq
    exact hs.insert id _

theorem ascending_withTargets {policy : HealthPolicy} {ids : List TargetId} {s : StateStore}
    (h : withTargets policy ids = .ok s) : s.states.Ascending :=
  foldlM_preserves (P := fun s => s.states.Ascending) ids (fun _ _ _ _ hr hs => ascending_register hs hr) h
    Table.ascending_empty

theorem apply_cases (s : StateStore) (r : ProbeResult) :
    (s.apply r = (.droppedCancelled, s) ∨ s.apply r = (.droppedUnknownTarget, s)) ∨
    ∃ state, s.snapshot? r.targetId = some state ∧
      s.apply r = (.updated state.status (state.record r s.policy).status (state.record r s.policy).backoffMultiplier,
        { s with states := s.states.insert r.targetId (state.record r s.policy) }) := by
  unfold apply
  split
  · exact .inl (.inl rfl)
  · cases hs : s.snapshot? r.targetId with
    | none => exact .inl (.inr rfl)
    | some state => exact .inr ⟨state, rfl, rfl⟩

end StateStore

end TargetHealth
