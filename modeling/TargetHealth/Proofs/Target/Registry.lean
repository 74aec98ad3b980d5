import TargetHealth.Proofs.Fault
import TargetHealth.Proofs.Table
import TargetHealth.Target.Registry

namespace TargetHealth

/-- The first id of a list that was there already: what stands before it has no id twice. -/
def FirstRepeated (targets : List Target) (id : TargetId) : Prop :=
  ∃ before t after, targets = before ++ t :: after ∧ (before.map (·.id)).Nodup ∧ t.id = id ∧ id ∈ before.map (·.id)

theorem FirstRepeated.not_nodup {targets : List Target} {id : TargetId} (h : FirstRepeated targets id) :
    ¬ (targets.map (·.id)).Nodup := by
  obtain ⟨before, t, after, rfl, -, rfl, hmem⟩ := h
  intro hn
  rw [List.map_append, List.map_cons, List.nodup_append] at hn
  exact hn.2.2 _ hmem _ List.mem_cons_self rfl

namespace RegistrySnapshot

def Keyed (s : RegistrySnapshot) : Prop := ∀ e ∈ s.targets.entries, e.2.id = e.1

theorem Keyed.id_eq {s : RegistrySnapshot} (h : s.Keyed) {id : TargetId} {t : Target} (ht : s.get? id = some t) :
    t.id = id := h (id, t) (Table.mem_of_get? ht)

theorem Keyed.map_id_values {s : RegistrySnapshot} (h : s.Keyed) : s.targets.values.map (·.id) = s.ids := by
  simp only [Table.values, List.map_map]
  exact List.map_congr_left h

theorem mem_ids_iff (s : RegistrySnapshot) (id : TargetId) : id ∈ s.ids ↔ (s.get? id).isSome := Table.mem_keys_iff s.targets id

theorem addAll_cases (targets : List Target) (table : Table TargetId Target) :
    (∃ result, addAll table targets = .ok result ∧ (targets.map (·.id)).Nodup ∧
      ∀ t ∈ targets, table.get? t.id = none) ∨
    ∃ before t after, addAll table targets = .error t.id ∧ targets = before ++ t :: after ∧
      (before.map (·.id)).Nodup ∧ (∀ u ∈ before, table.get? u.id = none) ∧
      (t.id ∈ before.map (·.id) ∨ (table.get? t.id).isSome) := by
  induction targets generalizing table with
  | nil => exact .inl ⟨table, rfl, List.nodup_nil, fun _ h => nomatch h⟩
  | cons target rest ih =>
    unfold addAll
    by_cases hknown : table.contains target.id = true
    · rw [if_pos hknown]
      exact .inr ⟨[], target, rest, rfl, rfl, List.nodup_nil, fun _ h => (List.not_mem_nil h).elim, .inr hknown⟩
    · rw [if_neg hknown]
      have hnone : table.get? target.id = none := by simpa [Table.contains] using hknown
      -- what is new to the larger table is new to the old one and is not this target
      have hcons {us : List Target} (hn : (us.map (·.id)).Nodup)
          (hus : ∀ u ∈ us, (table.insert target.id target).get? u.id = none) :
          ((target :: us).map (·.id)).Nodup ∧ ∀ u ∈ target :: us, table.get? u.id = none := by
        have hnew (u : Target) (hu : u ∈ us) : u.id ≠ target.id ∧ table.get? u.id = none := by
          have hfree := hus u hu
          rw [Table.get?_insert] at hfree
          split at hfree
          · cases hfree
          · rename_i hne
            exact ⟨hne, hfree⟩
        refine ⟨List.nodup_cons.mpr ⟨?_, hn⟩, List.forall_mem_cons.mpr ⟨hnone, fun u hu => (hnew u hu).2⟩⟩
        intro hmem
        obtain ⟨u, hu, heq⟩ := List.mem_map.mp hmem
        exact (hnew u hu).1 heq
      obtain ⟨result, hok, hn, hnew⟩ | ⟨before, t, after, herror, rfl, hn, hnew, hagain⟩ :=
        ih (table.insert target.id target)
      · exact .inl ⟨result, hok, hcons hn hnew⟩
      · refine .inr ⟨target :: before, t, after, herror, rfl, (hcons hn hnew).1, (hcons hn hnew).2, ?_⟩
        rcases hagain with hmem | hsome
        · exact .inl (List.mem_cons_of_mem _ hmem)
        · rw [Table.get?_insert] at hsome
          by_cases heq : t.id = target.id
          · exact .inl (heq ▸ List.mem_cons_self)
          · exact .inr (by rwa [if_neg heq] at hsome)

/-- A snapshot is built of a list exactly if no id comes twice in it. -/
theorem build_cases (generation : Nat) (targets : List Target) :
    (∃ s, build generation targets = .ok s ∧ (targets.map (·.id)).Nodup) ∨
    ∃ id, build generation targets = .error id ∧ FirstRepeated targets id := by
  unfold build
  obtain ⟨result, hok, hn, -⟩ | ⟨before, t, after, herror, htargets, hn, -, hagain⟩ := addAll_cases targets .empty
  · exact .inl ⟨⟨generation, result⟩, by rw [hok]; rfl, hn⟩
  · have hmem : t.id ∈ before.map (·.id) := hagain.resolve_right (by simp)
    exact .inr ⟨t.id, by rw [herror]; rfl, before, t, after, htargets, hn, rfl, hmem⟩

theorem exists_build (generation : Nat) {targets : List Target} (hn : (targets.map (·.id)).Nodup) :
    ∃ s, build generation targets = .ok s := by
  obtain ⟨s, hs, -⟩ | ⟨id, -, hfirst⟩ := build_cases generation targets
  · exact ⟨s, hs⟩
  · exact (hfirst.not_nodup hn).elim

theorem generation_build {generation : Nat} {targets : List Target} {s : RegistrySnapshot}
    (h : build generation targets = .ok s) : s.generation = generation := by
  obtain ⟨table, -, rfl⟩ := exists_of_map_eq_ok h
  rfl

theorem keyed_addAll (targets : List Target) (table result : Table TargetId Target)
    (hk : ∀ e ∈ table.entries, e.2.id = e.1) (h : addAll table targets = .ok result) :
    ∀ e ∈ result.entries, e.2.id = e.1 := by
  induction targets generalizing table with
  | nil =>
    simp only [addAll, Except.ok.injEq] at h
    exact h ▸ hk
  | cons target rest ih =>
    unfold addAll at h
    split at h
    · cases h
    · refine ih (table.insert target.id target) ?_ h
      intro e he
      rcases Table.mem_of_mem_insertIn he with rfl | he
      · rfl
      · exact hk e he

theorem keyed_build {generation : Nat} {targets : List Target} {s : RegistrySnapshot}
    (h : build generation targets = .ok s) : s.Keyed := by
  obtain ⟨table, ht, rfl⟩ := exists_of_map_eq_ok h
  exact keyed_addAll targets .empty table (fun _ h => nomatch h) ht

theorem ascending_addAll (targets : List Target) (table result : Table TargetId Target) (ha : table.Ascending)
    (h : addAll table targets = .ok result) : result.Ascending := by
  induction targets generalizing table with
  | nil =>
    simp only [addAll, Except.ok.injEq] at h
    exact h ▸ ha
  | cons target rest ih =>
    unfold addAll at h
    split at h
    · cases h
    · exact ih _ (ha.insert target.id target) h

theorem ascending_build {generation : Nat} {targets : List Target} {s : RegistrySnapshot}
    (h : build generation targets = .ok s) : s.targets.Ascending := by
  obtain ⟨table, ht, rfl⟩ := exists_of_map_eq_ok h
  exact ascending_addAll targets .empty table Table.ascending_empty ht

theorem entries_addAll (targets : List Target) (table result : Table TargetId Target)
    (h : addAll table targets = .ok result) : (result.entries : Multiset (TargetId × Target)) =
      (targets.map (fun t => (t.id, t)) : Multiset (TargetId × Target)) + table.entries := by
  induction targets generalizing table with
  | nil =>
    simp only [addAll, Except.ok.injEq] at h
    rw [h]
    exact (Multiset.zero_add _).symm
  | cons target rest ih =>
    unfold addAll at h
    split at h
    · cases h
    · rename_i hnew
      have hnone : table.get? target.id = none := by simpa [Table.contains] using hnew
      rw [ih _ h, Table.entries_insert table target.id target hnone, Multiset.add_cons, List.map_cons,
        ← Multiset.cons_coe, Multiset.cons_add]

theorem perm_build {generation : Nat} {targets : List Target} {s : RegistrySnapshot}
    (h : build generation targets = .ok s) : s.targets.entries.Perm (targets.map fun t => (t.id, t)) := by
  obtain ⟨table, ht, rfl⟩ := exists_of_map_eq_ok h
  exact Multiset.coe_eq_coe.mp ((entries_addAll targets .empty table ht).trans (Multiset.add_zero _))

theorem length_ids_build {generation : Nat} {targets : List Target} {s : RegistrySnapshot}
    (h : build generation targets = .ok s) : s.ids.length = targets.length := by
  have hlength := (perm_build h).length_eq
  rwa [List.length_map, ← List.length_map (f := fun e : TargetId × Target => e.1)] at hlength

theorem get?_build_iff {generation : Nat} {targets : List Target} {s : RegistrySnapshot}
    (h : build generation targets = .ok s) (id : TargetId) (t : Target) : s.get? id = some t ↔ t ∈ targets ∧ t.id = id := by
  rw [get?, Table.get?_eq_some_iff (ascending_build h).nodup, (perm_build h).mem_iff, List.mem_map]
  simp only [Prod.mk.injEq]
  constructor
  · rintro ⟨u, hu, hid, rfl⟩
    exact ⟨hu, hid⟩
  · rintro ⟨ht, hid⟩
    exact ⟨t, ht, hid, rfl⟩

end RegistrySnapshot

namespace RegistryDiff

/-- Whether a difference says anything of an id. -/
def Touches (d : RegistryDiff) (id : TargetId) : Prop := id ∈ d.added ∨ id ∈ d.removed ∨ id ∈ d.changed

instance (d : RegistryDiff) (id : TargetId) : Decidable (d.Touches id) :=
  inferInstanceAs (Decidable (id ∈ d.added ∨ id ∈ d.removed ∨ id ∈ d.changed))

theorem not_touches_iff (d : RegistryDiff) (id : TargetId) :
    ¬ d.Touches id ↔ id ∉ d.added ∧ id ∉ d.removed ∧ id ∉ d.changed := by
  simp only [Touches, not_or]

theorem not_touches_of_isEmpty {d : RegistryDiff} (h : d.isEmpty = true) (id : TargetId) : ¬ d.Touches id := by
  obtain ⟨⟨ha, hr⟩, hc⟩ : (d.added = [] ∧ d.removed = []) ∧ d.changed = [] := by simpa [isEmpty] using h
  simp [Touches, ha, hr, hc]

variable (old new : RegistrySnapshot) (id : TargetId)

theorem mem_added_iff : id ∈ (between old new).added ↔ old.get? id = none ∧ (new.get? id).isSome := by
  simp only [between, List.mem_filter, RegistrySnapshot.mem_ids_iff]
  simp [RegistrySnapshot.contains, RegistrySnapshot.get?, Table.contains, and_comm]

theorem mem_removed_iff : id ∈ (between old new).removed ↔ (old.get? id).isSome ∧ new.get? id = none := by
  simp only [between, List.mem_filter, RegistrySnapshot.mem_ids_iff]
  simp [RegistrySnapshot.contains, RegistrySnapshot.get?, Table.contains]

theorem mem_changed_iff : id ∈ (between old new).changed ↔
    (old.get? id).isSome ∧ (new.get? id).isSome ∧ old.get? id ≠ new.get? id := by
  simp only [between, List.mem_filter, RegistrySnapshot.mem_ids_iff]
  rw [Bool.and_eq_true, decide_eq_true_eq, and_left_comm]
  rfl

variable {old new id} in
theorem isSome_of_mem (h : id ∈ (between old new).added ++ (between old new).changed) : (new.get? id).isSome := by
  rcases List.mem_append.mp h with ha | hc
  · exact ((mem_added_iff old new id).mp ha).2
  · exact ((mem_changed_iff old new id).mp hc).2.1

theorem touches_between_iff : (between old new).Touches id ↔ old.get? id ≠ new.get? id := by
  rw [Touches, mem_added_iff, mem_removed_iff, mem_changed_iff]
  cases old.get? id <;> cases new.get? id <;> simp

end RegistryDiff

theorem Registry.new_eq_ok {r : Registry} {targets : List Target} (h : Registry.new targets = .ok r) :
    RegistrySnapshot.build 0 targets = .ok r.current := by
  obtain ⟨snapshot, hb, rfl⟩ := exists_of_map_eq_ok h
  exact hb

theorem Registry.next_eq_ok {r : Registry} {targets : List Target} {d : RegistryDiff} {s : RegistrySnapshot}
    (h : r.next targets = .ok (d, s)) :
    RegistrySnapshot.build (r.current.generation + 1) targets = .ok s ∧ d = .between r.current s := by
  obtain ⟨s', hb, heq⟩ := exists_of_bind_eq_ok h
  cases heq
  exact ⟨hb, rfl⟩

end TargetHealth
