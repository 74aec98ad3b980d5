import TargetHealth.Proofs.Monitor.Agreement
import TargetHealth.Proofs.Monitor.Holdings
import TargetHealth.Proofs.Monitor.Reloads

namespace TargetHealth

theorem jitter_le (spread : Duration) (pick : Nat) : (jitter spread pick).nanos ≤ spread.nanos := by
  unfold jitter
  dsimp only
  split
  · exact Nat.zero_le _
  · rename_i hchoices
    have hpick : pick % (spread.millis % Nat.pow 2 64) < spread.millis % Nat.pow 2 64 :=
      Nat.mod_lt pick (Nat.pos_of_ne_zero hchoices)
    have hmillis : pick % (spread.millis % Nat.pow 2 64) ≤ spread.millis := hpick.le.trans (Nat.mod_le _ _)
    exact (Nat.mul_le_mul_right _ hmillis).trans (Nat.div_mul_le_self _ _)

namespace RegistrySnapshot

theorem nodup_of_build {generation : Nat} {targets : List Target} {s : RegistrySnapshot}
    (h : build generation targets = .ok s) : (targets.map (·.id)).Nodup := by
  have hids := ((perm_build h).map Prod.fst).nodup_iff.mp (ascending_build h).nodup
  rwa [List.map_map] at hids

theorem currentInterval_of_renewed? {s : RegistrySnapshot} {firstDue : TargetId → Instant} {id : TargetId}
    {ids : List TargetId} {n : Nat} {e : ScheduleEntry} (h : s.renewed? firstDue ids n id = some e) :
    e.currentInterval = e.baseInterval := by
  induction ids generalizing n with
  | nil => cases h
  | cons id' ids ih =>
    unfold renewed? at h
    split at h
    · exact ih h
    · rcases Option.or_eq_some_iff.mp h with h | ⟨-, h⟩
      · exact ih h
      · split at h
        · cases h
          rfl
        · cases h

end RegistrySnapshot

namespace Roster

/-- The schedule and the health of distinct targets are brought in line, if there is room for the latency windows. -/
theorem reload_cases (r : Roster) (targets : List Target) (firstDue : TargetId → Instant) :
    (∃ id, r.reload targets firstDue = .ok (.error id) ∧ ¬ (targets.map (·.id)).Nodup) ∨
    (∃ diff r', r.reload targets firstDue = .ok (.ok (diff, r')) ∧ (targets.map (·.id)).Nodup) ∨
    ∃ fault, r.reload targets firstDue = .error fault ∧ (targets.map (·.id)).Nodup ∧
      LatencyWindow.canReserve (max r.store.policy.latencyWindow 1) = false := by
  cases hr : r.reload targets firstDue with
  | error fault =>
    obtain ⟨snapshot, hb, -⟩ := interruptReload_eq hr
    exact .inr (.inr ⟨fault, rfl, RegistrySnapshot.nodup_of_build hb, unreservable_of_reload hr⟩)
  | ok answer =>
    cases answer with
    | error id =>
      refine .inl ⟨id, rfl, fun hnodup => ?_⟩
      obtain ⟨s, hs⟩ := RegistrySnapshot.exists_build (r.registry.current.generation + 1) hnodup
      have hnext : r.registry.next targets = .ok (.between r.registry.current s, s) := by
        rw [Registry.next, hs]
        rfl
      unfold reload at hr
      rw [hnext] at hr
      dsimp only at hr
      split at hr
      · cases hr
      · obtain ⟨u, -, hu⟩ := exists_of_bind_eq_ok hr
        cases hu
    | ok accepted =>
      obtain ⟨snapshot, hb, -⟩ := reload_eq_ok hr
      exact .inr (.inl ⟨accepted.1, accepted.2, rfl, RegistrySnapshot.nodup_of_build hb⟩)

end Roster

namespace Monitor

theorem checkTargets_eq_ok_iff (targets : List Target) :
    checkTargets targets = .ok () ↔ ∀ t ∈ targets, 0 < t.interval.nanos ∧ 0 < t.timeout.nanos := by
  simp only [← Duration.not_isZero_iff]
  refine ⟨fun h => ?_, checkTargets_eq_ok⟩
  induction targets with
  | nil => exact fun _ ht => nomatch ht
  | cons t targets ih =>
    unfold checkTargets at h
    split at h
    · cases h
    · rename_i hinterval
      split at h
      · cases h
      · rename_i htimeout
        intro u hu
        rcases List.mem_cons.mp hu with rfl | hu
        · exact ⟨Bool.eq_false_iff.mpr hinterval, Bool.eq_false_iff.mpr htimeout⟩
        · exact ih h u hu

theorem jitter_of_reload {m m' : Monitor} {targets : List Target} {now : Instant} {pick : TargetId → Nat}
    {diff : RegistryDiff} (h : m.reload targets now pick = .ok (.ok (diff, m'))) : m'.jitter = m.jitter := by
  unfold reload at h
  split at h
  · cases h
  · obtain ⟨result, -, h⟩ := exists_of_bind_eq_ok h
    split at h
    · cases h
    · split at h <;> cases h <;> rfl

theorem jitter_react (m : Monitor) (now : Instant) (e : Event) : (m.react now e).jitter = m.jitter := by
  cases e with
  | complete =>
    unfold react
    dsimp only
    split <;> rfl
  | reload targets pick =>
    unfold react
    dsimp only
    split
    · rename_i hr
      exact jitter_of_reload hr
    · rfl
    · rfl
  | dispatch | cancel | turn number | halt phase | arrange phase stopRequested scheduleChanged agenda => rfl

theorem jitter_run (m : Monitor) (es : Course) : (m.run es).jitter = m.jitter := by
  induction es generalizing m with
  | nil => rfl
  | cons e es ih => exact (ih _).trans (m.jitter_react e.1 e.2)

/-- What a reload can come to: a refusal, for a time of zero or an id that comes twice, a success, or a lack of room. -/
theorem reload_cases (m : Monitor) (targets : List Target) (now : Instant) (pick : TargetId → Nat) :
    (∃ error, m.reload targets now pick = .ok (.error error) ∧
      ((∃ t ∈ targets, t.interval.nanos = 0 ∨ t.timeout.nanos = 0) ∨ ¬ (targets.map (·.id)).Nodup)) ∨
    ((∀ t ∈ targets, 0 < t.interval.nanos ∧ 0 < t.timeout.nanos) ∧ (targets.map (·.id)).Nodup ∧
      ((∃ diff m', m.reload targets now pick = .ok (.ok (diff, m'))) ∨
        ∃ fault, m.reload targets now pick = .error fault ∧
          LatencyWindow.canReserve (max m.roster.store.policy.latencyWindow 1) = false)) := by
  unfold reload
  cases hc : checkTargets targets with
  | error e =>
    refine .inl ⟨_, rfl, .inl ?_⟩
    have hzero : ¬ ∀ t ∈ targets, 0 < t.interval.nanos ∧ 0 < t.timeout.nanos := by
      rw [← checkTargets_eq_ok_iff, hc]
      exact nofun
    push Not at hzero
    obtain ⟨t, ht, hzero⟩ := hzero
    exact ⟨t, ht, by omega⟩
  | ok _ =>
    have hpos := (checkTargets_eq_ok_iff targets).mp hc
    dsimp only
    rcases m.roster.reload_cases targets (firstDue now m.jitter pick) with
      ⟨id, hr, hdouble⟩ | ⟨diff, r', hr, hnodup⟩ | ⟨fault, hr, hnodup, hroom⟩
    · rw [hr]
      exact .inl ⟨_, rfl, .inr hdouble⟩
    · rw [hr]
      refine .inr ⟨hpos, hnodup, .inl ?_⟩
      by_cases hempty : diff.isEmpty
      · exact ⟨diff, _, if_pos hempty⟩
      · exact ⟨diff, _, if_neg hempty⟩
    · rw [hr]
      exact .inr ⟨hpos, hnodup, .inr ⟨fault, rfl, hroom⟩⟩

theorem reload_refused_iff (m : Monitor) (targets : List Target) (now : Instant) (pick : TargetId → Nat) :
    (∃ error, m.reload targets now pick = .ok (.error error)) ↔
      (∃ t ∈ targets, t.interval.nanos = 0 ∨ t.timeout.nanos = 0) ∨ ¬ (targets.map (·.id)).Nodup := by
  rcases m.reload_cases targets now pick with ⟨error, hr, hwhy⟩ | ⟨hpos, hnodup, hrest⟩
  · exact iff_of_true ⟨error, hr⟩ hwhy
  · refine iff_of_false ?_ ?_
    · rintro ⟨error, he⟩
      rcases hrest with ⟨diff, m', hr⟩ | ⟨fault, hr, -⟩
      · cases he.symm.trans hr
      · cases he.symm.trans hr
    · rintro (⟨t, ht, hzero⟩ | hdouble)
      · have := hpos t ht
        omega
      · exact hdouble hnodup

end Monitor

namespace Roster

/-- The new entry of a target: at the target's interval, due within a spread, and under an epoch after all that entries or
marks bear. -/
structure Renews (r r' : Roster) (now : Instant) (spread : Duration) (id : TargetId) (e : ScheduleEntry) : Prop where
  targetId : e.targetId = id
  interval : ∃ t, r'.registry.get? id = some t ∧ e.baseInterval = t.interval ∧ e.currentInterval = t.interval
  fresh : ∀ id' n, r.scheduler.epoch? id' = some n ∨ r.scheduler.inFlight.get? id' = some n → n < e.epoch
  earliest : now.nanos ≤ e.nextDue.nanos
  latest : e.nextDue.nanos ≤ now.nanos + spread.nanos

variable {r r' : Roster} {id : TargetId} {now : Instant} {spread : Duration} {pick : TargetId → Nat}
  {targets : List Target} {diff : RegistryDiff}

/-- An accepted reload of a roster whose parts are in order, and that knows the targets which are changed. -/
structure Accepts (r r' : Roster) (targets : List Target) (now : Instant) (spread : Duration) (pick : TargetId → Nat)
    (diff : RegistryDiff) : Prop where
  tidy : r.Tidy
  aligned : r.Aligned
  positive : Monitor.checkTargets targets = .ok ()
  reload : r.reload targets (Monitor.firstDue now spread pick) = .ok (.ok (diff, r'))
  known : ∀ id ∈ diff.changed, (r.store.snapshot? id).isSome

theorem Accepts.registry (h : Accepts r r' targets now spread pick diff) :
    diff = .between r.registry.current r'.registry.current ∧
      RegistrySnapshot.build (r.registry.current.generation + 1) targets = .ok r'.registry.current ∧
      r'.frame = r.frame.reload diff r'.registry.current ∧
      ∀ id, r'.holding id =
        (r.holding id).reload r.frame diff r'.registry.current (Monitor.firstDue now spread pick) id := by
  obtain ⟨snapshot, hn⟩ := exists_next_of_reload h.reload
  obtain ⟨hframe, hold⟩ := reload_holding h.tidy h.positive hn h.reload
  have hcurrent : r'.registry.current = snapshot := by
    have hregistry : r'.frame.registry = ⟨snapshot⟩ := by
      rw [hframe, Frame.reload]
      split <;> rfl
    exact congrArg Registry.current hregistry
  obtain ⟨hbuild, hdiff⟩ := Registry.next_eq_ok hn
  rw [hcurrent]
  exact ⟨hdiff, hbuild, hframe, hold⟩

theorem Accepts.exists_renewed (h : Accepts r r' targets now spread pick diff) (hac : id ∈ diff.added ++ diff.changed) :
    ∃ e, Renews r r' now spread id e ∧ r'.registry.current.renewed? (Monitor.firstDue now spread pick)
      (diff.added ++ diff.changed) r.frame.lastEpoch id = some e := by
  obtain ⟨hdiff, -, -, -⟩ := h.registry
  have hnew : (r'.registry.current.get? id).isSome := by
    rw [hdiff] at hac
    exact RegistryDiff.isSome_of_mem hac
  obtain ⟨e, he⟩ := Option.isSome_iff_exists.mp ((RegistrySnapshot.isSome_renewed?_iff
    (Monitor.firstDue now spread pick) r.frame.lastEpoch).mpr ⟨hac, hnew⟩)
  obtain ⟨hid, hdue, hepoch, t, ht, hbase⟩ := RegistrySnapshot.renewed?_eq_some he
  have hcurrent := RegistrySnapshot.currentInterval_of_renewed? he
  have hjitter := jitter_le spread (pick id)
  refine ⟨e, ⟨hid, ⟨t, ht, hbase.symm, hcurrent.trans hbase.symm⟩, ?_, ?_, ?_⟩, he⟩
  · rintro id' n (hn | hn)
    · exact Nat.lt_of_le_of_lt (h.aligned.opened id' n hn) hepoch
    · exact Nat.lt_of_le_of_lt (h.aligned.marked id' n hn) hepoch
  · rw [hdue]
    exact Nat.le_add_right _ _
  · rw [hdue]
    exact Nat.add_le_add_left hjitter _

theorem Accepts.holding_of_added (h : Accepts r r' targets now spread pick diff) (ha : id ∈ diff.added) :
    ∃ e state, Renews r r' now spread id e ∧ state.status = .unknown ∧ state.backoffMultiplier = 1 ∧
      r'.holding id = { r.holding id with
        entry := some e, places := {e.nextDue}, state := some state, shown := (some Status.unknown.gauge, some 1) } := by
  obtain ⟨e, hrenews, he⟩ := h.exists_renewed (List.mem_append_left _ ha)
  obtain ⟨hdiff, -, -, hold⟩ := h.registry
  have hold' : r.registry.current.get? id = none := ((RegistryDiff.mem_added_iff _ _ id).mp (hdiff ▸ ha)).1
  have hstate : (r.holding id).state = none := by
    refine Option.not_isSome_iff_eq_none.mp fun hs => ?_
    have htracked := h.aligned.tracked id hs
    rw [Registry.get?, hold'] at htracked
    cases htracked
  have hkept : id ∉ diff.removed := by
    rw [hdiff, RegistryDiff.mem_removed_iff, hold']
    exact fun hr => by cases hr.1
  refine ⟨e, .recordAll r.frame.policy e.targetId [], hrenews, rfl, rfl, ?_⟩
  rw [hold id, Holding.reload, he, if_neg hkept, if_pos ha]
  simp only [Holding.enroll?, Holding.enroll, Holding.announce, hstate, Option.getD_none]

theorem Accepts.holding_of_changed (h : Accepts r r' targets now spread pick diff) (hc : id ∈ diff.changed) :
    ∃ e, Renews r r' now spread id e ∧
      r'.holding id = { r.holding id with entry := some e, places := {e.nextDue} } := by
  obtain ⟨e, hrenews, he⟩ := h.exists_renewed (List.mem_append_right _ hc)
  obtain ⟨hdiff, -, -, hold⟩ := h.registry
  obtain ⟨hsome, hnew, -⟩ := (RegistryDiff.mem_changed_iff _ _ id).mp (hdiff ▸ hc)
  obtain ⟨state, hstate⟩ : ∃ state, (r.holding id).state = some state :=
    Option.isSome_iff_exists.mp (h.known id hc)
  have hkept : id ∉ diff.removed := by
    rw [hdiff, RegistryDiff.mem_removed_iff]
    exact fun hr => by rw [hr.2] at hnew; cases hnew
  have hknown : id ∉ diff.added := by
    rw [hdiff, RegistryDiff.mem_added_iff]
    exact fun ha => by rw [ha.1] at hsome; cases hsome
  refine ⟨e, hrenews, ?_⟩
  rw [hold id, Holding.reload, he, if_neg hkept, if_neg hknown]
  simp only [Holding.enroll?, Holding.enroll, hstate, Option.getD_some]

theorem Accepts.holding_of_removed (h : Accepts r r' targets now spread pick diff) (hr : id ∈ diff.removed) :
    r'.holding id = (r.holding id).clear := by
  obtain ⟨hdiff, -, -, hold⟩ := h.registry
  have hgone : r'.registry.current.get? id = none := ((RegistryDiff.mem_removed_iff _ _ id).mp (hdiff ▸ hr)).2
  rw [hold id]
  refine Holding.reload_of_removed _ _ hr fun hac => ?_
  rw [hdiff] at hac
  have hnew := RegistryDiff.isSome_of_mem hac
  rw [hgone] at hnew
  cases hnew

end Roster

namespace Monitor

/-- Where no room can be reserved no reload is accepted that would enroll a target. -/
theorem tracked_of_reload {clock : Instant} {prober : Prober} {settings : Settings} {targets list : List Target}
    {pick : TargetId → Nat} {m : Monitor} (hm : start (some clock) prober settings targets pick = .ok (.ok m)) (es : Course)
    {firstDue : TargetId → Instant} {diff : RegistryDiff} {r' : Roster}
    (hr : (m.run es).roster.reload list firstDue = .ok (.ok (diff, r'))) {id : TargetId} (hc : id ∈ diff.changed) :
    ((m.run es).roster.store.snapshot? id).isSome := by
  have hreloads := Roster.reloads_reload hr
  cases hw : LatencyWindow.canReserve (max settings.latencyWindow 1) with
  | true =>
    obtain ⟨hsome, -⟩ := (RegistryDiff.mem_changed_iff _ _ id).mp (hreloads.diff_eq ▸ hc)
    exact (full_run hm es (unbroken_of_start hm hw es)).tracked id hsome
  | false =>
    have hknown := (hreloads.renewed id (List.mem_append_right _ hc)).2
    rw [((bare_run hm hw es).reload hr).untracked] at hknown
    cases hknown

/-- A reload of a monitor in any state that a course has led it to. What is refused, for a time of zero or an id that comes
twice, changes nothing. An accepted reload installs the targets under the next generation, leaves every in-flight mark, and
reports which targets are different: added ones are unknown, with a multiplier of one; removed ones leave nothing but their
mark; added and changed ones have a new entry, and changed ones keep their health and what is shown of it; of the others
everything is as it was. Neither happens only where no room for a latency window can be reserved. -/
theorem reload_as_reported (clock : Instant) (prober : Prober) (settings : Settings) (targets : List Target)
    (pick : TargetId → Nat) (m : Monitor) (hm : start (some clock) prober settings targets pick = .ok (.ok m)) (es : Course)
    (list : List Target) (now : Instant) (pick' : TargetId → Nat) :
    let k := m.run es
    let r := k.roster
    ((∃ error, k.reload list now pick' = .ok (.error error)) ↔
      (∃ t ∈ list, t.interval.nanos = 0 ∨ t.timeout.nanos = 0) ∨ ¬ (list.map (·.id)).Nodup) ∧
    (∀ error, k.reload list now pick' = .ok (.error error) → k.react now (.reload list pick') = k) ∧
    (∀ diff k', k.reload list now pick' = .ok (.ok (diff, k')) →
      let r' := k'.roster
      k.react now (.reload list pick') = k' ∧ diff = .between r.registry.current r'.registry.current ∧
      r'.registry.current.generation = r.registry.current.generation + 1 ∧
      (∀ id t, r'.registry.get? id = some t ↔ t ∈ list ∧ t.id = id) ∧
      r'.scheduler.inFlight = r.scheduler.inFlight ∧
      (∀ id ∈ diff.added, ∃ e state, r.Renews r' now settings.jitter id e ∧
        state.status = .unknown ∧ state.backoffMultiplier = 1 ∧ r'.holding id = { r.holding id with
          entry := some e, places := {e.nextDue}, state := some state, shown := (some Status.unknown.gauge, some 1) }) ∧
      (∀ id ∈ diff.removed, r'.holding id = { r.holding id with
        entry := none, places := ∅, state := none, shown := (none, none) }) ∧
      (∀ id ∈ diff.changed, ∃ e, r.Renews r' now settings.jitter id e ∧
        r'.holding id = { r.holding id with entry := some e, places := {e.nextDue} }) ∧
      ∀ id, ¬ diff.Touches id → r'.holding id = r.holding id) ∧
    ∀ fault, k.reload list now pick' = .error fault →
      LatencyWindow.canReserve (max settings.latencyWindow 1) = false := by
  intro k r
  refine ⟨k.reload_refused_iff list now pick', fun error he => ?_, fun diff k' hk' => ?_, fun fault hf => ?_⟩
  · simp only [react, he]
  · have hjitter : k.jitter = settings.jitter := by
      obtain ⟨registry, roster, -, -, rfl⟩ := eq_of_start hm
      exact jitter_run _ es
    obtain ⟨hr, -⟩ := reload_eq_ok hk'
    have haccepts : r.Accepts k'.roster list now settings.jitter pick' diff :=
      ⟨(tidy_of_start hm).steps (m.steps_run es), Chronicle.aligned_run hm es, checkTargets_of_reload hk', hjitter ▸ hr,
        fun _ hc => tracked_of_reload hm es hr hc⟩
    obtain ⟨hdiff, hbuild, -, hold⟩ := haccepts.registry
    refine ⟨by simp only [react, hk'], hdiff, ?_, RegistrySnapshot.get?_build_iff hbuild,
      (Roster.reloads_reload hr).inFlight, fun id => haccepts.holding_of_added, fun id => haccepts.holding_of_removed,
      fun id => haccepts.holding_of_changed, fun id ht => ?_⟩
    · obtain ⟨table, -, hcurrent⟩ := exists_of_map_eq_ok hbuild
      exact (congrArg RegistrySnapshot.generation hcurrent).symm
    · rw [hold id]
      exact Holding.reload_of_not_touches _ _ ht
  · rcases k.reload_cases list now pick' with ⟨error, he, -⟩ | ⟨-, -, ⟨diff, k', hk'⟩ | ⟨fault', -, hroom⟩⟩
    · cases hf.symm.trans he
    · cases hf.symm.trans hk'
    · have hwindow : r.store.policy.latencyWindow = settings.latencyWindow :=
        congrArg HealthPolicy.latencyWindow (healthPolicy_run hm es)
      exact hwindow ▸ hroom

/-- A reload keeps one target, changes one, adds one and takes one out, while the probes of all three targets run. -/
theorem reload_as_reported_all_four :
    let prober : Prober := fun _ _ _ _ => none
    let target (id : TargetId) (seconds : Nat) : Target :=
      ⟨id, ⟨"localhost", 1⟩, .tcp, .ofSeconds seconds, .ofSeconds 1⟩
    let es : Course := [(⟨0⟩, .dispatch), (⟨0⟩, .turn 0)]
    let list := [target "a" 1, target "c" 2, target "d" 1]
    ∃ m, start (some ⟨0⟩) prober { jitterMs := 1 } [target "a" 1, target "b" 1, target "c" 1] (fun _ => 0) = .ok (.ok m) ∧
      ∃ p, (m.run es).reload list ⟨5⟩ (fun _ => 0) = .ok (.ok p) ∧ p.1 = ⟨["d"], ["b"], ["c"]⟩ ∧
        let r := (m.run es).roster
        let r' := p.2.roster
        r.scheduler.inFlight.keys = ["a", "b", "c"] ∧ r'.scheduler.inFlight = r.scheduler.inFlight ∧
        (r'.holding "b").mark = some 2 ∧ (r'.holding "b").entry = none ∧ r'.holding "a" = r.holding "a" ∧
        (∃ e, r.Renews r' ⟨5⟩ (.ofMillis 1) "c" e ∧ (r'.holding "c").entry = some e ∧ 3 < e.epoch) ∧
        (r'.holding "d").shown = (some (-1), some 1) ∧
        (m.run es).react ⟨5⟩ (.reload [target "a" 1, target "a" 2] fun _ => 0) = m.run es := by
  intro prober target es list
  have hex : ∃ m, start (some ⟨0⟩) prober { jitterMs := 1 } [target "a" 1, target "b" 1, target "c" 1] (fun _ => 0) =
        .ok (.ok m) ∧
      ∃ p, (m.run es).reload list ⟨5⟩ (fun _ => 0) = .ok (.ok p) ∧ p.1 = ⟨["d"], ["b"], ["c"]⟩ ∧
        (m.run es).roster.scheduler.inFlight = ⟨[("a", 1), ("b", 2), ("c", 3)]⟩ := by
    decide +kernel
  obtain ⟨m, hm, ⟨diff, k'⟩, hk', hdiff, hmarks⟩ := hex
  obtain rfl : diff = ⟨["d"], ["b"], ["c"]⟩ := hdiff
  have hreload := reload_as_reported ⟨0⟩ prober { jitterMs := 1 } [target "a" 1, target "b" 1, target "c" 1] (fun _ => 0) m
    hm es
  obtain ⟨-, -, haccepted, -⟩ := hreload list ⟨5⟩ fun _ => 0
  obtain ⟨-, -, -, -, hkept, hadded, hremoved, hchanged, hothers⟩ := haccepted _ k' hk'
  obtain ⟨_, _, -, -, -, hd⟩ := hadded "d" (by simp)
  obtain ⟨e, hrenews, hc⟩ := hchanged "c" (by simp)
  have hb := hremoved "b" (by simp)
  have hmark (id : TargetId) : ((m.run es).roster.holding id).mark = Table.get? ⟨[("a", 1), ("b", 2), ("c", 3)]⟩ id :=
    congrArg (Table.get? · id) hmarks
  obtain ⟨hrefused, hsame, -, -⟩ := hreload [target "a" 1, target "a" 2] ⟨5⟩ fun _ => 0
  obtain ⟨error, herror⟩ := hrefused.mpr (.inr (by simp [target]))
  refine ⟨m, hm, (_, k'), hk', rfl, ?_, hkept, ?_, ?_, hothers "a" (by decide), ⟨e, hrenews, ?_, ?_⟩, ?_, hsame error herror⟩
  · exact congrArg Table.keys hmarks
  · rw [hb]
    exact hmark "b"
  · rw [hb]
  · rw [hc]
  · exact hrenews.fresh "c" 3 (.inr (hmark "c"))
  · rw [hd]
    rfl

end Monitor

end TargetHealth
