import Mathlib.Data.Finset.Dedup
import Mathlib.Data.Finset.Basic
import Mathlib.Tactic.Tauto
import TargetHealth.Proofs.Target.Registry

namespace TargetHealth

/-- What a difference of two snapshots has to say: each id at which they are different, in the list for the way in which
they are, and each list in order. -/
structure RegistryDiff.Exact (old new : RegistrySnapshot) (d : RegistryDiff) : Prop where
  added_sorted : d.added.Pairwise (· < ·)
  removed_sorted : d.removed.Pairwise (· < ·)
  changed_sorted : d.changed.Pairwise (· < ·)
  added_removed : d.added.Disjoint d.removed
  added_changed : d.added.Disjoint d.changed
  removed_changed : d.removed.Disjoint d.changed
  mem_added : ∀ id, id ∈ d.added ↔ id ∈ new.ids ∧ id ∉ old.ids
  mem_removed : ∀ id, id ∈ d.removed ↔ id ∈ old.ids ∧ id ∉ new.ids
  mem_changed : ∀ id, id ∈ d.changed ↔ ∃ t u, old.get? id = some t ∧ new.get? id = some u ∧ t ≠ u

namespace RegistryDiff

theorem exact_between {old new : RegistrySnapshot} (ho : old.targets.Ascending) (hn : new.targets.Ascending) :
    (between old new).Exact old new := by
  have hold : old.ids.Pairwise (· < ·) := List.pairwise_map.mpr ho
  have hnew : new.ids.Pairwise (· < ·) := List.pairwise_map.mpr hn
  have hadded (id : TargetId) : id ∈ (between old new).added ↔ id ∈ new.ids ∧ id ∉ old.ids := by
    rw [mem_added_iff, new.mem_ids_iff, old.mem_ids_iff, Option.not_isSome_iff_eq_none, and_comm]
  have hremoved (id : TargetId) : id ∈ (between old new).removed ↔ id ∈ old.ids ∧ id ∉ new.ids := by
    rw [mem_removed_iff, new.mem_ids_iff, old.mem_ids_iff, Option.not_isSome_iff_eq_none]
  have hchanged (id : TargetId) (h : id ∈ (between old new).changed) : id ∈ old.ids ∧ id ∈ new.ids := by
    obtain ⟨hold, hnew, -⟩ := (mem_changed_iff old new id).mp h
    exact ⟨(old.mem_ids_iff id).mpr hold, (new.mem_ids_iff id).mpr hnew⟩
  refine ⟨hnew.filter _, hold.filter _, hnew.filter _, ?_, ?_, ?_, hadded, hremoved, ?_⟩
  · exact fun id ha hr => ((hremoved id).mp hr).2 ((hadded id).mp ha).1
  · exact fun id ha hc => ((hadded id).mp ha).2 (hchanged id hc).1
  · exact fun id hr hc => ((hremoved id).mp hr).2 (hchanged id hc).2
  · intro id
    rw [mem_changed_iff]
    cases old.get? id <;> cases new.get? id <;> simp

/-- The ids that there are after a series of differences, if those were the ids before. -/
def account (ids : Finset TargetId) (diffs : List RegistryDiff) : Finset TargetId :=
  diffs.foldl (fun ids d => (ids \ d.removed.toFinset) ∪ d.added.toFinset) ids

theorem Exact.account {old new : RegistrySnapshot} {d : RegistryDiff} (h : d.Exact old new) :
    (old.ids.toFinset \ d.removed.toFinset) ∪ d.added.toFinset = new.ids.toFinset := by
  ext id
  simp only [Finset.mem_union, Finset.mem_sdiff, List.mem_toFinset, h.mem_removed, h.mem_added]
  tauto

end RegistryDiff

namespace Registry

/-- A call to replace the targets: its answer, and the registry that it leaves. -/
def install (r : Registry) (targets : List Target) : Except TargetId RegistryDiff × Registry :=
  match r.replace targets with
  | .error id => (.error id, r)
  | .ok (diff, next) => (.ok diff, next)

/-- A series of calls: the differences that they report, and the registry that the last one leaves. -/
def installAll (r : Registry) : List (List Target) → List RegistryDiff × Registry
  | [] => ([], r)
  | targets :: rest =>
    match r.install targets with
    | (.error _, r) => r.installAll rest
    | (.ok diff, r) => ((diff :: (r.installAll rest).1), (r.installAll rest).2)

/-- What it is for a list to take the place of the targets before it. -/
structure Replaces (r : Registry) (targets : List Target) (diff : RegistryDiff) (next : Registry) : Prop where
  generation : next.current.generation = r.current.generation + 1
  listed : next.current.targets.values.Perm targets
  get?_iff : ∀ id t, next.get? id = some t ↔ t ∈ targets ∧ t.id = id
  diff : diff.Exact r.current next.current

theorem install_cases {r : Registry} (hr : r.current.targets.Ascending) (targets : List Target) :
    (∃ id, FirstRepeated targets id ∧ r.install targets = (.error id, r)) ∨
    ∃ diff next, (targets.map (·.id)).Nodup ∧ r.install targets = (.ok diff, next) ∧ r.Replaces targets diff next ∧
      next.current.targets.Ascending := by
  obtain ⟨s, hb, hn⟩ | ⟨id, hb, hfirst⟩ := RegistrySnapshot.build_cases (r.current.generation + 1) targets
  · have hinstall : r.install targets = (.ok (.between r.current s), ⟨s⟩) := by
      rw [install, replace, next, hb]
      rfl
    have hs := RegistrySnapshot.ascending_build hb
    have hlisted : s.targets.values.Perm targets := by
      have hperm := (RegistrySnapshot.perm_build hb).map (·.2)
      rwa [List.map_map, show (·.2) ∘ (fun t : Target => (t.id, t)) = id from rfl, List.map_id] at hperm
    exact .inr ⟨_, _, hn, hinstall, ⟨RegistrySnapshot.generation_build hb, hlisted, RegistrySnapshot.get?_build_iff hb,
      RegistryDiff.exact_between hr hs⟩, hs⟩
  · exact .inl ⟨id, hfirst, by rw [install, replace, next, hb]; rfl⟩

/-- Along a series of calls each difference leads on to the next ids, and counts for one generation. -/
theorem installAll_accounts {r : Registry} (hr : r.current.targets.Ascending) (updates : List (List Target)) :
    let last := (r.installAll updates).2
    last.current.targets.Ascending ∧
    last.current.generation = r.current.generation + (r.installAll updates).1.length ∧
    RegistryDiff.account r.current.ids.toFinset (r.installAll updates).1 = last.current.ids.toFinset := by
  induction updates generalizing r with
  | nil => exact ⟨hr, rfl, rfl⟩
  | cons targets rest ih =>
    obtain ⟨id, -, hinstall⟩ | ⟨diff, next, -, hinstall, hreplaces, hnext⟩ := install_cases hr targets
    · have hall : r.installAll (targets :: rest) = r.installAll rest := by rw [installAll, hinstall]
      rw [hall]
      exact ih hr
    · obtain ⟨hlast, hgeneration, haccount⟩ := ih hnext
      have hall : r.installAll (targets :: rest) = (diff :: (next.installAll rest).1, (next.installAll rest).2) := by
        rw [installAll, hinstall]
      rw [hall]
      refine ⟨hlast, ?_, ?_⟩
      · rw [hgeneration, hreplaces.generation, List.length_cons]
        omega
      · rw [RegistryDiff.account, List.foldl_cons, hreplaces.diff.account]
        exact haccount

/-- Whatever lists a registry has been given before: the next one is refused for its first repeated id, with nothing
changed, or it replaces the targets and is told apart from them exactly. The differences reported up to then, taken one
after the other over the first ids, give the ids that there are. -/
theorem replaced_or_refused (initial : List Target) (first : Registry) (hnew : Registry.new initial = .ok first)
    (updates : List (List Target)) :
    let diffs := (first.installAll updates).1
    let r := (first.installAll updates).2
    (∀ targets, ¬ (targets.map (·.id)).Nodup → ∃ id, FirstRepeated targets id ∧ r.install targets = (.error id, r)) ∧
    (∀ targets, (targets.map (·.id)).Nodup →
      ∃ diff next, r.install targets = (.ok diff, next) ∧ r.Replaces targets diff next) ∧
    RegistryDiff.account first.current.ids.toFinset diffs = r.current.ids.toFinset ∧
    r.current.generation = diffs.length := by
  intro diffs r
  have hbuilt := Registry.new_eq_ok hnew
  obtain ⟨hr, hgeneration, haccount⟩ := installAll_accounts (RegistrySnapshot.ascending_build hbuilt) updates
  refine ⟨?_, ?_, haccount, ?_⟩
  · intro targets hdup
    obtain hrefused | ⟨diff, next, hn, -⟩ := install_cases hr targets
    · exact hrefused
    · exact (hdup hn).elim
  · intro targets hn
    obtain ⟨id, hfirst, -⟩ | ⟨diff, next, -, hinstall, hreplaces, -⟩ := install_cases hr targets
    · exact (hfirst.not_nodup hn).elim
    · exact ⟨diff, next, hinstall, hreplaces⟩
  · rw [hgeneration, RegistrySnapshot.generation_build hbuilt, Nat.zero_add]

/-- Three targets, of which one is kept, one is edited and one gives way to a new one; the list before that was refused
for the id that comes again first. -/
theorem replaced_or_refused_edited :
    let target (id : TargetId) (interval : Nat) : Target :=
      ⟨id, ⟨"127.0.0.1", 1⟩, .tcp, .ofSeconds interval, .ofMillis 5000⟩
    let initial := [target "keep" 30, target "drop" 30, target "edit" 30]
    let repeated := [target "a" 30, target "b" 30, target "b" 5, target "a" 5]
    let edited := [target "new" 30, target "keep" 30, target "edit" 5]
    ∃ first, Registry.new initial = .ok first ∧
      (first.installAll [repeated, edited]).1 = [⟨["new"], ["drop"], ["edit"]⟩] ∧
      RegistryDiff.account first.current.ids.toFinset (first.installAll [repeated, edited]).1 =
        {"edit", "keep", "new"} ∧
      (first.installAll [repeated, edited]).2.current.generation = 1 ∧
      (∃ id, FirstRepeated repeated id ∧ first.install repeated = (.error id, first)) ∧
      ∃ diff next, first.install edited = (.ok diff, next) ∧ first.Replaces edited diff next := by
  intro target initial repeated edited
  have hnew : Registry.new initial = .ok ⟨⟨0, ⟨[("drop", target "drop" 30), ("edit", target "edit" 30),
    ("keep", target "keep" 30)]⟩⟩⟩ := by decide +kernel
  obtain ⟨-, -, haccount, hgeneration⟩ := replaced_or_refused initial _ hnew [repeated, edited]
  obtain ⟨hrefused, hreplaced, -⟩ := replaced_or_refused initial _ hnew []
  refine ⟨_, hnew, ?_, haccount.trans ?_, hgeneration.trans ?_, hrefused repeated ?_, hreplaced edited ?_⟩
  all_goals decide +kernel

end Registry

end TargetHealth
