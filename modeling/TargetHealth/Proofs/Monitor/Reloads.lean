import Mathlib.Data.List.Infix
import Mathlib.Data.List.Sections
import TargetHealth.Proofs.Monitor.Startup

namespace TargetHealth

inductive Caller where
  | first
  | second
deriving DecidableEq

namespace Caller

def other : Caller → Caller
  | first => second
  | second => first

theorem other_ne (who : Caller) : who.other ≠ who := by cases who <;> decide

theorem eq_or_eq_other (who lead : Caller) : who = lead ∨ who = lead.other := by
  cases who <;> cases lead <;> decide

/-- One caller leads: it has had two turns when the other has its first, and four when the other has its fourth. -/
def Leads (lead : Caller) (turns : List Caller) : Prop :=
  ∀ before ∈ turns.inits, before ++ [lead.other] <+: turns →
    2 ≤ before.count lead ∧ (before.count lead.other = 3 → 4 ≤ before.count lead)

instance (lead : Caller) (turns : List Caller) : Decidable (lead.Leads turns) :=
  inferInstanceAs (Decidable (∀ before ∈ turns.inits, before ++ [lead.other] <+: turns → _))

end Caller

namespace RegistryDiff

def Keeps (diff : RegistryDiff) (seen : RegistrySnapshot) (P : TargetId → Prop) (id : TargetId) : Prop :=
  P id ∧ id ∉ diff.removed ∨ id ∈ diff.added ++ diff.changed ∧ (seen.get? id).isSome

variable {old new seen : RegistrySnapshot} {P : TargetId → Prop} {id : TargetId}

theorem keeps_of_isEmpty {diff : RegistryDiff} (h : diff.isEmpty = true) : diff.Keeps seen P id ↔ P id := by
  obtain ⟨ha, hr, hc⟩ := (diff.not_touches_iff id).mp (not_touches_of_isEmpty h id)
  simp [Keeps, ha, hr, hc]

theorem isSome_of_keeps (hP : P id → (old.get? id).isSome) (h : (between old new).Keeps seen P id) :
    (new.get? id).isSome := by
  rcases h with ⟨hp, hr⟩ | ⟨hac, -⟩
  · rw [mem_removed_iff] at hr
    by_contra hn
    exact hr ⟨hP hp, Option.not_isSome_iff_eq_none.mp hn⟩
  · exact isSome_of_mem hac

theorem keeps_of_isSome (hP : (old.get? id).isSome → P id) (hn : (new.get? id).isSome) (hs : (seen.get? id).isSome) :
    (between old new).Keeps seen P id := by
  by_cases ho : (old.get? id).isSome
  · refine .inl ⟨hP ho, fun hr => ?_⟩
    rw [((mem_removed_iff old new id).mp hr).2] at hn
    cases hn
  · exact .inr ⟨List.mem_append_left _ ((mem_added_iff old new id).mpr ⟨Option.not_isSome_iff_eq_none.mp ho, hn⟩), hs⟩

end RegistryDiff

namespace Roster

variable {r r' : Roster} {P Q : TargetId → Prop} {diff : RegistryDiff} {seen : RegistrySnapshot}
  {firstDue : TargetId → Instant}

def Holds (P : TargetId → Prop) (r : Roster) : Prop :=
  ∀ id, ((r.scheduler.entry? id).isSome ↔ P id) ∧ ((r.store.snapshot? id).isSome ↔ P id)

/-- Schedule and health are kept of the targets in the registry. -/
def Consistent (r : Roster) : Prop := r.Holds fun id => (r.registry.get? id).isSome

theorem Aligned.consistent (h : r.Aligned) (hf : r.Full) : r.Consistent := by
  intro id
  have hscheduled := h.isSome_epoch? hf id
  rw [Scheduler.epoch?, Option.isSome_map] at hscheduled
  exact ⟨Bool.eq_iff_iff.mp hscheduled, Bool.eq_iff_iff.mp (h.isSome_snapshot? hf id)⟩

theorem consistent_of_start {now : Instant} {prober : Prober} {settings : Settings} {targets : List Target}
    {pick : TargetId → Nat} {m : Monitor} (hm : Monitor.start (some now) prober settings targets pick = .ok (.ok m)) :
    m.roster.Consistent := by
  obtain ⟨-, registry, firstDue, hb, hr⟩ := Monitor.start_eq_ok hm
  obtain ⟨ha, hf, -⟩ := start_eq_ok (RegistrySnapshot.keyed_build hb) hr
  exact ha.consistent hf

/-- A target is in the registry, and neither its schedule nor its health is kept. -/
def Loses (r : Roster) (id : TargetId) : Prop :=
  (r.registry.get? id).isSome ∧ r.scheduler.entry? id = none ∧ r.store.snapshot? id = none

instance (r : Roster) (id : TargetId) : Decidable (r.Loses id) :=
  inferInstanceAs (Decidable (_ ∧ _ = none ∧ _ = none))

theorem Holds.congr (h : r.Holds P) (hiff : ∀ id, P id ↔ Q id) : r.Holds Q :=
  fun id => ⟨(h id).1.trans (hiff id), (h id).2.trans (hiff id)⟩

theorem Holds.discard (h : r.Holds P) (id : TargetId) : (r.discard id).Holds fun id' => P id' ∧ id' ≠ id := by
  intro id'
  have hentry : (r.discard id).scheduler.entry? id' = if id' = id then none else r.scheduler.entry? id' :=
    Scheduler.entry?_remove _ _ _
  have hstate : (r.discard id).store.snapshot? id' = if id' = id then none else r.store.snapshot? id' :=
    StateStore.snapshot?_remove _ _ _
  rw [hentry, hstate]
  by_cases hid : id' = id
  · simp [hid]
  · simp [hid, h id']

theorem Holds.foldl_discard (h : r.Holds P) (ids : List TargetId) :
    (ids.foldl Roster.discard r).Holds fun id => P id ∧ id ∉ ids := by
  induction ids generalizing r P with
  | nil => exact h.congr fun id => by simp
  | cons id ids ih => exact (ih (h.discard id)).congr fun id' => by simp [and_assoc]

theorem Holds.enroll {id : TargetId} {due : Instant} (h : r.Holds P) (he : r.enroll seen due id = .ok r') :
    r'.Holds fun id' => P id' ∨ id' = id ∧ (seen.get? id').isSome := by
  rcases enroll_cases he with ⟨ht, rfl⟩ | ⟨target, store, ht, hst, rfl⟩
  · refine h.congr fun id' => (or_iff_left ?_).symm
    rintro ⟨rfl, hsome⟩
    rw [ht] at hsome
    cases hsome
  · intro id'
    dsimp only
    rw [Scheduler.entry?_insert, StateStore.snapshot?_register hst]
    by_cases hid : id' = id
    · simp [hid, ht]
    · simp [hid, h id']

theorem Holds.foldlM_enroll (h : r.Holds P) (ids : List TargetId)
    (he : ids.foldlM (fun r id => r.enroll seen (firstDue id) id) r = .ok r') :
    r'.Holds fun id => P id ∨ id ∈ ids ∧ (seen.get? id).isSome := by
  induction ids generalizing r P with
  | nil =>
    cases he
    exact h.congr fun id => by simp
  | cons id ids ih =>
    rw [List.foldlM_cons] at he
    obtain ⟨u, hu, he⟩ := exists_of_bind_eq_ok he
    refine (ih (h.enroll hu) he).congr fun id' => ?_
    rw [List.mem_cons, or_and_right, or_assoc]

theorem Holds.follow (h : r.Holds P) (hf : r.follow diff seen firstDue = .ok r') : r'.Holds (diff.Keeps seen P) :=
  (h.foldl_discard diff.removed).foldlM_enroll _ hf

end Roster

/-- How far a call to reload has come. -/
inductive Stage where
  | called (targets : List Target)
  /-- The registry is loaded, and the new targets are compared with the old ones. -/
  | compared (diff : RegistryDiff) (new : RegistrySnapshot)
  | stored (diff : RegistryDiff)
  | looked (diff : RegistryDiff) (seen : RegistrySnapshot)
  | followed (diff : RegistryDiff) (seen : RegistrySnapshot)
  | returned (diff : RegistryDiff)
  | refused (id : TargetId)
deriving DecidableEq

namespace Stage

/-- The next turn of a call. A call in which nothing is new returns once its targets are stored. -/
def turn (firstDue : TargetId → Instant) (r : Roster) : Stage → Except Fault (Stage × Roster)
  | called targets =>
    match r.registry.next targets with
    | .error id => .ok (refused id, r)
    | .ok (diff, new) => .ok (compared diff new, r)
  | compared diff new => .ok (if diff.isEmpty then returned diff else stored diff, r.install new)
  | stored diff => .ok (looked diff r.registry.current, r)
  | looked diff seen => (r.follow diff seen firstDue).map fun r => (followed diff seen, r)
  | followed diff seen => .ok (returned diff, r.announce diff seen)
  | returned diff => .ok (returned diff, r)
  | refused id => .ok (refused id, r)

/-- The stage of a call after some of its turns, with the difference that it has found, the snapshot that it has made, and
what it may have seen when it read the registry again. -/
inductive Comes (targets : List Target) (diff : RegistryDiff) (new : RegistrySnapshot) (Sees : RegistrySnapshot → Prop) :
    Nat → Stage → Prop
  | called : Comes targets diff new Sees 0 (called targets)
  | compared : Comes targets diff new Sees 1 (compared diff new)
  | stored : Comes targets diff new Sees 2 (stored diff)
  | looked {seen : RegistrySnapshot} (h : Sees seen) : Comes targets diff new Sees 3 (looked diff seen)
  | followed (seen : RegistrySnapshot) : Comes targets diff new Sees 4 (followed diff seen)
  | returned {n : Nat} (h : 2 ≤ n) (hsame : n < 5 → diff.isEmpty = true) : Comes targets diff new Sees n (returned diff)

variable {targets : List Target} {diff : RegistryDiff} {new : RegistrySnapshot} {Sees : RegistrySnapshot → Prop} {n : Nat}
  {stage stage' : Stage} {r r' : Roster} {firstDue : TargetId → Instant}

theorem Comes.turn (h : Comes targets diff new Sees n stage)
    (hnext : n = 0 → r.registry.next targets = .ok (diff, new)) (hsees : n = 2 → Sees r.registry.current)
    (ht : stage.turn firstDue r = .ok (stage', r')) :
    Comes targets diff new Sees (n + 1) stage' ∧
      r'.registry.current = (if n = 1 then new else r.registry.current) ∧
      (r'.scheduler = r.scheduler ∧ r'.store = r.store ∧ (n = 3 → diff.isEmpty = true) ∨
        n = 3 ∧ ∃ seen, Sees seen ∧ r.follow diff seen firstDue = .ok r') := by
  cases h with
  | called =>
    simp only [Stage.turn, hnext rfl] at ht
    cases ht
    exact ⟨.compared, rfl, .inl ⟨rfl, rfl, nofun⟩⟩
  | compared =>
    cases ht
    refine ⟨?_, rfl, .inl ⟨rfl, rfl, nofun⟩⟩
    split
    · rename_i hempty
      exact .returned (Nat.le_refl 2) fun _ => hempty
    · exact .stored
  | stored =>
    cases ht
    exact ⟨.looked (hsees rfl), rfl, .inl ⟨rfl, rfl, nofun⟩⟩
  | looked hseen =>
    obtain ⟨u, hu, heq⟩ := exists_of_map_eq_ok ht
    cases heq
    exact ⟨.followed _, congrArg Registry.current (Roster.follow_frame hu).1, .inr ⟨rfl, _, hseen, hu⟩⟩
  | followed seen =>
    cases ht
    exact ⟨.returned (by decide) fun hlt => absurd hlt (Nat.lt_irrefl 5), rfl, .inl ⟨rfl, rfl, nofun⟩⟩
  | returned htwo hsame =>
    cases ht
    refine ⟨.returned (Nat.le_succ_of_le htwo) fun hlt => hsame (Nat.lt_of_succ_lt hlt), ?_, .inl ⟨rfl, rfl, ?_⟩⟩
    · rw [if_neg (Nat.ne_of_gt htwo)]
    · rintro rfl
      exact hsame (by decide)

theorem Comes.eq_returned (h : Comes targets diff new Sees n stage) (hn : 5 ≤ n) : stage = .returned diff := by
  cases h with
  | returned => rfl
  | called | compared | stored | looked | followed => exact absurd hn (by decide)

theorem Comes.holds_turn {P : TargetId → Prop} (h : Comes targets diff new Sees n stage)
    (hnext : n = 0 → r.registry.next targets = .ok (diff, new)) (hsees : n = 2 → Sees r.registry.current) (hn : n ≠ 3)
    (ht : stage.turn firstDue r = .ok (stage', r')) (hp : r.Holds P) : r'.Holds P := by
  rcases (h.turn hnext hsees ht).2.2 with ⟨hsch, hst, -⟩ | ⟨hthree, -⟩
  · exact fun id => hsch ▸ hst ▸ hp id
  · exact absurd hthree hn

/-- The fourth turn follows the difference. If there is none, that is to do nothing. -/
theorem Comes.holds_fourth {P : TargetId → Prop} (h : Comes targets diff new Sees 3 stage) (hnew : Sees new)
    (ht : stage.turn firstDue r = .ok (stage', r')) (hp : r.Holds P) :
    ∃ seen, Sees seen ∧ r'.Holds (diff.Keeps seen P) := by
  rcases (h.turn nofun nofun ht).2.2 with ⟨hsch, hst, hempty⟩ | ⟨-, seen, hseen, hfollow⟩
  · have hp' : r'.Holds P := fun id => hsch ▸ hst ▸ hp id
    exact ⟨new, hnew, hp'.congr fun id => (RegistryDiff.keeps_of_isEmpty (hempty rfl)).symm⟩
  · exact ⟨seen, hseen, hp.follow hfollow⟩

theorem exists_turn (stage : Stage) (r : Roster) (firstDue : TargetId → Instant)
    (hw : LatencyWindow.canReserve (max r.store.policy.latencyWindow 1) = true) :
    ∃ p, stage.turn firstDue r = .ok p ∧ p.2.store.policy = r.store.policy := by
  cases stage with
  | called targets =>
    cases hnext : r.registry.next targets with
    | error id => exact ⟨(refused id, r), by simp only [turn, hnext], rfl⟩
    | ok p => exact ⟨(compared p.1 p.2, r), by simp only [turn, hnext], rfl⟩
  | looked diff seen =>
    obtain ⟨r', hr'⟩ := r.exists_follow diff seen firstDue hw
    exact ⟨(followed diff seen, r'), by rw [turn, hr']; rfl, (Roster.follow_frame hr').2⟩
  | compared diff new | stored diff | followed diff seen | returned diff | refused id => exact ⟨_, rfl, rfl⟩

end Stage

/-- Two calls to reload, and the roster that they share. -/
structure Calls where
  stage : Caller → Stage
  roster : Roster

namespace Calls

def start (r : Roster) (lists : Caller → List Target) : Calls := ⟨fun who => .called (lists who), r⟩

def turn (due : Caller → TargetId → Instant) (k : Calls) (who : Caller) : Except Fault Calls :=
  ((k.stage who).turn (due who) k.roster).map fun p => ⟨Function.update k.stage who p.1, p.2⟩

def run (due : Caller → TargetId → Instant) (k : Calls) (turns : List Caller) : Except Fault Calls :=
  turns.foldlM (turn due) k

variable {due : Caller → TargetId → Instant} {k k' : Calls} {who lead : Caller} {turns : List Caller}
  {lists : Caller → List Target}

theorem run_alone (r : Roster) (lists : Caller → List Target) (due : Caller → TargetId → Instant) (who : Caller) :
    let calls (stage : Stage) (u : Roster) : Calls := ⟨Function.update (fun who => .called (lists who)) who stage, u⟩
    (start r lists).run due (List.replicate 5 who) = (r.reload (lists who) (due who)).map fun answer =>
      match answer with
      | .error id => calls (.refused id) r
      | .ok (diff, r') => calls (.returned diff) r' := by
  intro calls
  have hrun (stage : Stage) (u : Roster) (turns : List Caller) : (calls stage u).run due (who :: turns) =
      stage.turn (due who) u >>= fun p => (calls p.1 p.2).run due turns := by
    have hturn : (calls stage u).turn due who = (stage.turn (due who) u).map fun p => calls p.1 p.2 := by
      simp only [turn, calls, Function.update_self, Function.update_idem]
    rw [run, List.foldlM_cons, hturn]
    cases stage.turn (due who) u <;> rfl
  have hstart : start r lists = calls (.called (lists who)) r := by
    simp only [start, calls, Function.update_eq_self]
  rw [hstart]
  simp only [List.replicate, hrun, Stage.turn, Roster.reload]
  cases r.registry.next (lists who) with
  | error id => rfl
  | ok p =>
    cases hempty : p.1.isEmpty with
    | true =>
      simp only [bind, Except.bind, hempty, if_true]
      rfl
    | false =>
      simp only [bind, Except.bind, hempty, Bool.false_eq_true, if_false]
      change Except.bind (((r.install p.2).follow p.1 p.2 (due who)).map _) _ = _
      cases (r.install p.2).follow p.1 p.2 (due who) <;> rfl

theorem turn_eq_ok (h : turn due k who = .ok k') : ∃ stage, (k.stage who).turn (due who) k.roster = .ok (stage, k'.roster) ∧
    k'.stage = Function.update k.stage who stage := by
  obtain ⟨p, hp, rfl⟩ := exists_of_map_eq_ok h
  exact ⟨p.1, hp, rfl⟩

theorem run_concat (due : Caller → TargetId → Instant) (k : Calls) (before : List Caller) (who : Caller) :
    k.run due (before ++ [who]) = k.run due before >>= fun u => u.turn due who := by
  rw [run, List.foldlM_append]
  exact bind_congr fun u => bind_pure (u.turn due who)

theorem run_induction {P : List Caller → Calls → Prop} (hrun : k.run due turns = .ok k') (hstart : P [] k)
    (hturn : ∀ before who, before ++ [who] <+: turns → ∀ u u', P before u → u.turn due who = .ok u' → P (before ++ [who]) u') :
    P turns k' := by
  induction turns using List.reverseRecOn generalizing k' with
  | nil =>
    cases hrun
    exact hstart
  | append_singleton before who ih =>
    rw [run_concat] at hrun
    obtain ⟨u, hu, hlast⟩ := exists_of_bind_eq_ok hrun
    refine hturn before who (List.prefix_refl _) u k' (ih hu fun before' who' hbegins => ?_) hlast
    exact hturn before' who' (hbegins.trans (List.prefix_append _ _))

theorem exists_run (due : Caller → TargetId → Instant) (turns : List Caller) (k : Calls)
    (hw : LatencyWindow.canReserve (max k.roster.store.policy.latencyWindow 1) = true) : ∃ k', k.run due turns = .ok k' := by
  have hstep (who : Caller) (u : Calls) (hu : u.roster.store.policy = k.roster.store.policy) :
      ∃ k', u.turn due who = .ok k' ∧ k'.roster.store.policy = k.roster.store.policy := by
    obtain ⟨p, hp, hpolicy⟩ := (u.stage who).exists_turn u.roster (due who) (hu ▸ hw)
    exact ⟨⟨Function.update u.stage who p.1, p.2⟩, by rw [turn, hp]; rfl, hpolicy.trans hu⟩
  obtain ⟨k', hk', -⟩ := exists_foldlM (P := fun u : Calls => u.roster.store.policy = k.roster.store.policy) turns
    (fun who _ => hstep who) rfl
  exact ⟨k', hk'⟩

/-- Each caller after some turns of its own, and whose targets are in the registry. -/
structure Proceeds (lists : Caller → List Target) (count : Caller → Nat) (k : Calls) : Prop where
  stage : ∀ who, ∃ n diff new, RegistrySnapshot.build n (lists who) = .ok new ∧
    Stage.Comes (lists who) diff new (fun _ => True) (count who) (k.stage who)
  current : (∃ who, 2 ≤ count who) →
    ∃ who n, RegistrySnapshot.build n (lists who) = .ok k.roster.registry.current

theorem Proceeds.turn {count count' : Caller → Nat} (h : Proceeds lists count k)
    (hids : ((lists who).map (·.id)).Nodup) (hcount : count' who = count who + 1)
    (hother : count' who.other = count who.other) (ht : turn due k who = .ok k') : Proceeds lists count' k' := by
  obtain ⟨stage, hstage, hupdate⟩ := turn_eq_ok ht
  have hmade : ∃ n diff new, RegistrySnapshot.build n (lists who) = .ok new ∧
      Stage.Comes (lists who) diff new (fun _ => True) (count who) (k.stage who) ∧
      (count who = 0 → k.roster.registry.next (lists who) = .ok (diff, new)) := by
    obtain ⟨n, diff, new, hb, hcomes⟩ := h.stage who
    -- before its first turn a caller has compared nothing: the difference is that of the registry as it is now
    by_cases hfirst : count who = 0
    · obtain ⟨new', hb'⟩ := RegistrySnapshot.exists_build (k.roster.registry.current.generation + 1) hids
      refine ⟨_, .between k.roster.registry.current new', new', hb', ?_, fun _ => ?_⟩
      · rw [hfirst] at hcomes ⊢
        generalize k.stage who = stage at hcomes ⊢
        cases hcomes with
        | called => exact .called
        | returned htwo => exact absurd htwo (by decide)
      · rw [Registry.next, hb']
        rfl
    · exact ⟨n, diff, new, hb, hcomes, fun h => absurd h hfirst⟩
  obtain ⟨n, diff, new, hb, hcomes, hnext⟩ := hmade
  obtain ⟨hcomes', hcurrent, -⟩ := hcomes.turn hnext (fun _ => trivial) hstage
  refine ⟨fun who' => ?_, fun hstored => ?_⟩
  · rcases Caller.eq_or_eq_other who' who with rfl | rfl
    · rw [hupdate, Function.update_self, hcount]
      exact ⟨n, diff, new, hb, hcomes'⟩
    · rw [hupdate, Function.update_of_ne who.other_ne, hother]
      exact h.stage who.other
  · rw [hcurrent]
    split
    · exact ⟨who, n, hb⟩
    · rename_i hne
      refine h.current ?_
      obtain ⟨who', htwo⟩ := hstored
      rcases Caller.eq_or_eq_other who' who with rfl | rfl
      · exact ⟨who', by omega⟩
      · exact ⟨who.other, hother ▸ htwo⟩

theorem proceeds_run {r : Roster} (hids : ∀ who, ((lists who).map (·.id)).Nodup)
    (hrun : (start r lists).run due turns = .ok k) : Proceeds lists (fun who => turns.count who) k := by
  refine run_induction (P := fun before => Proceeds lists fun who => before.count who) hrun ?_ ?_
  · refine ⟨fun who => ?_, fun ⟨who, htwo⟩ => absurd htwo (Nat.not_succ_le_zero 1)⟩
    obtain ⟨new, hb⟩ := RegistrySnapshot.exists_build 0 (hids who)
    exact ⟨0, ⟨[], [], []⟩, new, hb, .called⟩
  · intro before who _ u u' hu ht
    exact hu.turn (hids who) (by simp) (by simp [who.other_ne.symm]) ht

/-- Where the calls stand after some turns of the one that leads and of the other. The one that leads finds the old snapshot
in the registry and puts a new one there; the other finds that, and puts the last one there. -/
structure Stands (lists : Caller → List Target) (lead : Caller) (old new last : RegistrySnapshot) (a b : Nat)
    (k : Calls) : Prop where
  ahead : Stage.Comes (lists lead) (.between old new) new (fun seen => seen = new ∨ seen = last) a (k.stage lead)
  behind : Stage.Comes (lists lead.other) (.between new last) last (fun seen => seen = last) b (k.stage lead.other)
  current : k.roster.registry.current = if 2 ≤ b then last else if 2 ≤ a then new else old
  untouched : a < 4 → k.roster.Holds fun id => (old.get? id).isSome
  /-- The one that leads may have looked for its targets among those of the other. It has then kept those of them that the
  other has as well. -/
  between : 4 ≤ a → b < 4 → ∃ P : TargetId → Prop, k.roster.Holds P ∧
    ∀ id, (P id → (new.get? id).isSome) ∧ ((new.get? id).isSome → (last.get? id).isSome → P id)
  settled : 4 ≤ b → k.roster.Holds fun id => (last.get? id).isSome

variable {old new last : RegistrySnapshot} {a b : Nat}

theorem Stands.turn_ahead (h : Stands lists lead old new last a b k)
    (hb : RegistrySnapshot.build (old.generation + 1) (lists lead) = .ok new) (hone : 1 ≤ b → 2 ≤ a) (hfour : 4 ≤ b → 4 ≤ a)
    (ht : turn due k lead = .ok k') : Stands lists lead old new last (a + 1) b k' := by
  obtain ⟨stage, hstage, hupdate⟩ := turn_eq_ok ht
  have hnext (ha : a = 0) : k.roster.registry.next (lists lead) = .ok (.between old new, new) := by
    have hcurrent : k.roster.registry.current = old := by
      rw [h.current, if_neg (by omega), if_neg (by omega)]
    rw [Registry.next, hcurrent, hb]
    rfl
  have hsees (ha : a = 2) : k.roster.registry.current = new ∨ k.roster.registry.current = last := by
    rw [h.current]
    split
    · exact .inr rfl
    · exact .inl (if_pos (Nat.le_of_eq ha.symm))
  have hkeep {P : TargetId → Prop} (ha : a ≠ 3) (hp : k.roster.Holds P) : k'.roster.Holds P :=
    h.ahead.holds_turn hnext hsees ha hstage hp
  obtain ⟨hahead, hcurrent, -⟩ := h.ahead.turn hnext hsees hstage
  refine ⟨?ahead, ?behind, ?current, fun ha => ?untouched, fun ha hlt => ?between, fun hle => ?settled⟩
  case ahead => rwa [hupdate, Function.update_self]
  case behind =>
    rw [hupdate, Function.update_of_ne lead.other_ne]
    exact h.behind
  case current =>
    rw [hcurrent, h.current]
    split_ifs <;> first | rfl | omega
  case untouched => exact hkeep (by omega) (h.untouched (by omega))
  case between =>
    by_cases hthree : a = 3
    · subst hthree
      -- the other may have stored its targets by now, so that these are what the registry showed
      obtain ⟨seen, hseen, hholds⟩ := h.ahead.holds_fourth (.inl rfl) hstage (h.untouched (by decide))
      refine ⟨_, hholds, fun id => ⟨RegistryDiff.isSome_of_keeps fun h => h, fun hnew hlast => ?_⟩⟩
      refine RegistryDiff.keeps_of_isSome (fun h => h) hnew ?_
      rcases hseen with rfl | rfl
      · exact hnew
      · exact hlast
    · obtain ⟨P, hp, hbounds⟩ := h.between (by omega) hlt
      exact ⟨P, hkeep hthree hp, hbounds⟩
  case settled =>
    have hle' := hfour hle
    exact hkeep (by omega) (h.settled hle)

theorem Stands.turn_behind (h : Stands lists lead old new last a b k)
    (hb : RegistrySnapshot.build (new.generation + 1) (lists lead.other) = .ok last) (htwo : 2 ≤ a) (hfour : b = 3 → 4 ≤ a)
    (ht : turn due k lead.other = .ok k') : Stands lists lead old new last a (b + 1) k' := by
  obtain ⟨stage, hstage, hupdate⟩ := turn_eq_ok ht
  have hnext (hfirst : b = 0) : k.roster.registry.next (lists lead.other) = .ok (.between new last, last) := by
    have hcurrent : k.roster.registry.current = new := by
      rw [h.current, if_neg (by omega), if_pos htwo]
    rw [Registry.next, hcurrent, hb]
    rfl
  have hsees (hthird : b = 2) : k.roster.registry.current = last := by
    rw [h.current, if_pos (Nat.le_of_eq hthird.symm)]
  have hkeep {P : TargetId → Prop} (hne : b ≠ 3) (hp : k.roster.Holds P) : k'.roster.Holds P :=
    h.behind.holds_turn hnext hsees hne hstage hp
  obtain ⟨hbehind, hcurrent, -⟩ := h.behind.turn hnext hsees hstage
  refine ⟨?ahead, ?behind, ?current, fun ha => ?untouched, fun ha hlt => ?between, fun hle => ?settled⟩
  case ahead =>
    rw [hupdate, Function.update_of_ne lead.other_ne.symm]
    exact h.ahead
  case behind => rwa [hupdate, Function.update_self]
  case current =>
    rw [hcurrent, h.current]
    split_ifs <;> first | rfl | omega
  case untouched => exact hkeep (by omega) (h.untouched ha)
  case between =>
    obtain ⟨P, hp, hbounds⟩ := h.between ha (by omega)
    exact ⟨P, hkeep (by omega) hp, hbounds⟩
  case settled =>
    by_cases hthree : b = 3
    · subst hthree
      obtain ⟨P, hp, hbounds⟩ := h.between (hfour rfl) (by decide)
      obtain ⟨seen, rfl, hholds⟩ := h.behind.holds_fourth rfl hstage hp
      refine hholds.congr fun id => ⟨RegistryDiff.isSome_of_keeps (hbounds id).1, fun hlast => ?_⟩
      exact RegistryDiff.keeps_of_isSome (fun hnew => (hbounds id).2 hnew hlast) hlast hlast
    · exact hkeep hthree (h.settled (by omega))

theorem stands_run {r : Roster} (hr : r.Consistent)
    (hb : RegistrySnapshot.build (r.registry.current.generation + 1) (lists lead) = .ok new)
    (hb' : RegistrySnapshot.build (new.generation + 1) (lists lead.other) = .ok last) (hleads : lead.Leads turns)
    (hrun : (start r lists).run due turns = .ok k) :
    Stands lists lead r.registry.current new last (turns.count lead) (turns.count lead.other) k := by
  -- how many turns the one has had when the other has its own goes into the induction
  let P (before : List Caller) (u : Calls) : Prop :=
    Stands lists lead r.registry.current new last (before.count lead) (before.count lead.other) u ∧
      (1 ≤ before.count lead.other → 2 ≤ before.count lead) ∧ (4 ≤ before.count lead.other → 4 ≤ before.count lead)
  have hstart : P [] (start r lists) :=
    ⟨⟨.called, .called, rfl, fun _ => hr, nofun, nofun⟩, nofun, nofun⟩
  refine (run_induction (P := P) hrun hstart ?_).1
  rintro before who hbegins u u' ⟨hu, hone, hfour⟩ ht
  rcases who.eq_or_eq_other lead with rfl | rfl
  · have hcount : (before ++ [who]).count who = before.count who + 1 := by simp
    have hother : (before ++ [who]).count who.other = before.count who.other := by simp [who.other_ne.symm]
    refine ⟨?_, by omega, by omega⟩
    rw [hcount, hother]
    exact hu.turn_ahead hb hone hfour ht
  · obtain ⟨htwo, hthree⟩ :=
      hleads before ((List.mem_inits before turns).mpr ((List.prefix_append _ _).trans hbegins)) hbegins
    have hcount : (before ++ [lead.other]).count lead = before.count lead := by simp [lead.other_ne]
    have hother : (before ++ [lead.other]).count lead.other = before.count lead.other + 1 := by simp
    refine ⟨?_, by omega, by omega⟩
    rw [hcount, hother]
    exact hu.turn_behind hb' htwo hthree ht

theorem consistent_of_leads {r : Roster} (hr : r.Consistent) (hids : ∀ who, ((lists who).map (·.id)).Nodup)
    (hturns : ∀ who, turns.count who = 5) (hleads : lead.Leads turns) (hrun : (start r lists).run due turns = .ok k) :
    k.roster.Consistent := by
  obtain ⟨new, hb⟩ := RegistrySnapshot.exists_build (r.registry.current.generation + 1) (hids lead)
  obtain ⟨last, hb'⟩ := RegistrySnapshot.exists_build (new.generation + 1) (hids lead.other)
  have h := stands_run hr hb hb' hleads hrun
  rw [hturns, hturns] at h
  have hcurrent : k.roster.registry.current = last := h.current
  unfold Roster.Consistent Registry.get?
  rw [hcurrent]
  exact h.settled (by decide)

theorem length_eq_count (turns : List Caller) : turns.length = turns.count .first + turns.count .second := by
  induction turns with
  | nil => rfl
  | cons who turns ih => cases who <;> simp [ih] <;> omega

theorem mem_sections_replicate (turns : List Caller) :
    turns ∈ List.sections (List.replicate turns.length [Caller.first, .second]) := by
  induction turns with
  | nil => exact List.mem_singleton_self []
  | cons who turns ih => exact List.mem_sections.mpr (.cons (by cases who <;> simp) (List.mem_sections.mp ih))

/-- Without a caller that leads, the target of a monitor is lost if one reload takes it out and the other leaves it in.
There are few enough orders of ten turns to try them all. -/
theorem loses_of_not_leads :
    let target : Target := ⟨"a", ⟨"localhost", 1⟩, .tcp, .ofSeconds 1, .ofSeconds 1⟩
    let lists (keeps who : Caller) : List Target := if who = keeps then [target] else []
    ∃ m, Monitor.start (some ⟨0⟩) (fun _ _ _ _ => none) { jitterMs := 0 } [target] (fun _ => 0) = .ok (.ok m) ∧
      ∀ turns ∈ List.sections (List.replicate 10 [Caller.first, .second]), turns.count .first = 5 →
        ¬ Caller.first.Leads turns → ¬ Caller.second.Leads turns →
        (∃ k, (start m.roster (lists .first)).run (fun _ _ => ⟨0⟩) turns = .ok k ∧ k.roster.Loses "a") ∨
        ∃ k, (start m.roster (lists .second)).run (fun _ _ => ⟨0⟩) turns = .ok k ∧ k.roster.Loses "a" := by
  decide +kernel

/-- Take two reloads with their turns in any order. Both return, and the registry has the targets of one of them, unless a
window of latencies finds no room. If one of them leads, schedule and health are kept of just these targets. If none leads,
there is a monitor that loses a target to them. -/
theorem reloads_agree_iff (turns : List Caller) (hturns : ∀ who, turns.count who = 5) :
    (∀ (r : Roster) (lists : Caller → List Target) (due : Caller → TargetId → Instant), r.Consistent →
      (∀ who, ((lists who).map (·.id)).Nodup) →
      (LatencyWindow.canReserve (max r.store.policy.latencyWindow 1) = true →
        ∃ k, (start r lists).run due turns = .ok k) ∧
      ∀ k, (start r lists).run due turns = .ok k →
        (∀ who, ∃ diff, k.stage who = .returned diff) ∧
        (∃ who n, RegistrySnapshot.build n (lists who) = .ok k.roster.registry.current) ∧
        ((∃ lead : Caller, lead.Leads turns) → k.roster.Consistent)) ∧
    ((∀ lead : Caller, ¬ lead.Leads turns) → ∃ (now : Instant) (prober : Prober) (settings : Settings)
      (target : Target) (pick : TargetId → Nat) (m : Monitor),
      Monitor.start (some now) prober settings [target] pick = .ok (.ok m) ∧ m.roster.Consistent ∧
      ∃ (lists : Caller → List Target) (due : Caller → TargetId → Instant) (k : Calls),
        (∀ who, Monitor.checkTargets (lists who) = .ok () ∧ ((lists who).map (·.id)).Nodup) ∧
        (start m.roster lists).run due turns = .ok k ∧ k.roster.Loses target.id) := by
  refine ⟨fun r lists due hr hids => ⟨exists_run due turns (start r lists), fun k hrun => ?_⟩, fun hnone => ?_⟩
  · have h := proceeds_run hids hrun
    refine ⟨fun who => ?_, h.current ⟨.first, by rw [hturns]; decide⟩, fun ⟨lead, hleads⟩ => ?_⟩
    · obtain ⟨n, diff, new, -, hcomes⟩ := h.stage who
      exact ⟨diff, hcomes.eq_returned (hturns who).ge⟩
    · exact consistent_of_leads hr hids hturns hleads hrun
  · obtain ⟨m, hm, hloses⟩ := loses_of_not_leads
    have hlength : turns.length = 10 := by rw [length_eq_count, hturns, hturns]
    have hmem := mem_sections_replicate turns
    rw [hlength] at hmem
    refine ⟨_, _, _, _, _, m, hm, Roster.consistent_of_start hm, ?_⟩
    rcases hloses turns hmem (hturns .first) (hnone .first) (hnone .second) with ⟨k, hk⟩ | ⟨k, hk⟩
    · exact ⟨_, _, k, fun who => by cases who <;> decide, hk⟩
    · exact ⟨_, _, k, fun who => by cases who <;> decide, hk⟩

/-- The second reload begins when the first has stored its targets, and stores its own before the first looks again. The
first follows its difference, then the second: all is well in the end. -/
theorem reloads_agree_of_overlap :
    let target (id : TargetId) : Target := ⟨id, ⟨"localhost", 1⟩, .tcp, .ofSeconds 1, .ofSeconds 1⟩
    let lists (who : Caller) : List Target := if who = .first then [target "a", target "c"] else [target "b", target "c"]
    let turns : List Caller :=
      [.first, .first, .second, .second, .first, .second, .first, .second, .second, .first]
    ∃ m, Monitor.start (some ⟨0⟩) (fun _ _ _ _ => none) { jitterMs := 0 } [target "a", target "b"] (fun _ => 0) =
        .ok (.ok m) ∧
      ∃ k, (start m.roster lists).run (fun _ _ => ⟨0⟩) turns = .ok k ∧ k.roster.registry.current.ids = ["b", "c"] ∧
        k.roster.Consistent := by
  intro target lists turns
  have hex : ∃ m, Monitor.start (some ⟨0⟩) (fun _ _ _ _ => none) { jitterMs := 0 } [target "a", target "b"] (fun _ => 0) =
        .ok (.ok m) ∧
      ∃ k, (start m.roster lists).run (fun _ _ => ⟨0⟩) turns = .ok k ∧ k.roster.registry.current.ids = ["b", "c"] := by
    decide +kernel
  obtain ⟨m, hm, k, hrun, hids⟩ := hex
  have hagree := (reloads_agree_iff turns (fun who => by cases who <;> decide)).1 m.roster lists (fun _ _ => ⟨0⟩)
    (Roster.consistent_of_start hm) (fun who => by cases who <;> decide)
  exact ⟨m, hm, k, hrun, hids, (hagree.2 k hrun).2.2 ⟨.first, by decide⟩⟩

/-- A monitor of one target. The first reload, which takes it out, has stored its targets when the second, which puts it in
again, comes and goes; what the first does then loses the target. -/
theorem loses_of_late_follow :
    let target : Target := ⟨"a", ⟨"localhost", 1⟩, .tcp, .ofSeconds 1, .ofSeconds 1⟩
    let lists (who : Caller) : List Target := if who = .first then [] else [target]
    let turns : List Caller :=
      [.first, .first, .second, .second, .second, .second, .second, .first, .first, .first]
    ∃ m, Monitor.start (some ⟨0⟩) (fun _ _ _ _ => none) { jitterMs := 0 } [target] (fun _ => 0) = .ok (.ok m) ∧
      ∃ k, (start m.roster lists).run (fun _ _ => ⟨0⟩) turns = .ok k ∧
        k.stage .first = .returned ⟨[], ["a"], []⟩ ∧ k.stage .second = .returned ⟨["a"], [], []⟩ ∧
        k.roster.registry.current.ids = ["a"] ∧ k.roster.scheduler.entry? "a" = none ∧
        k.roster.store.snapshot? "a" = none := by
  decide +kernel

end Calls

end TargetHealth
