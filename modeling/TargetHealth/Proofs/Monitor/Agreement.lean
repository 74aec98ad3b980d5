import TargetHealth.Proofs.Monitor.Places

namespace TargetHealth

namespace Roster

variable {r r' : Roster}

/-- Where no room can be reserved for a latency window nothing is known of any target, and nothing is shown. -/
structure Blank (r : Roster) : Prop where
  unreservable : LatencyWindow.canReserve (max r.store.policy.latencyWindow 1) = false
  untracked : ∀ id, r.store.snapshot? id = none
  hidden : ∀ id, r.gauges.shown? id = (none, none)

structure Bare (r : Roster) : Prop extends r.Blank where
  total : r.registry.current.ids = [] → r.gauges.total = 0

theorem Blank.register_ne (h : r.Blank) (id : TargetId) (store : StateStore) : r.store.register id ≠ .ok store := by
  rw [StateStore.register_of_unreservable h.unreservable (h.untracked id)]
  exact nofun

theorem Blank.of_eq (h : r.Blank) (hst : r'.store = r.store) (hg : r'.gauges = r.gauges) : r'.Blank :=
  ⟨hst ▸ h.unreservable, hst ▸ h.untracked, hg ▸ h.hidden⟩

theorem Bare.of_eq (h : r.Bare) (hst : r'.store = r.store) (hg : r'.gauges = r.gauges) (hreg : r'.registry = r.registry) :
    r'.Bare := ⟨h.toBlank.of_eq hst hg, hg ▸ hreg ▸ h.total⟩

theorem Bare.complete (h : r.Bare) {c : Completion} (hm : r.scheduler.inFlight.get? c.result.targetId = some c.epoch)
    (now : Instant) : (r.complete c now).2.Bare := by
  by_cases he : r.scheduler.epoch? c.result.targetId = some c.epoch
  · generalize hu : r.withMarks (r.scheduler.inFlight.erase c.result.targetId) = u
    have hbare : u.Bare := hu ▸ h.of_eq rfl rfl rfl
    -- the result is one of a target of which nothing is known
    have hdropped : (u.apply c).2 = u ∧ ((u.apply c).2.display c.result.targetId (u.apply c).1).2 = u := by
      unfold Roster.apply
      rcases u.store.apply_cases c.result with (happ | happ) | ⟨state, hs, -⟩
      · rw [happ]
        exact ⟨rfl, rfl⟩
      · rw [happ]
        exact ⟨rfl, rfl⟩
      · rw [hbare.untracked] at hs
        cases hs
    rw [Roster.complete, finish_of_current hm he, hu]
    dsimp only
    rw [hdropped.2]
    unfold Roster.reschedule
    split
    · exact hbare.of_eq rfl rfl rfl
    · exact hbare.of_eq rfl rfl rfl
  · rw [complete_of_stale hm he]
    exact h.of_eq rfl rfl rfl

theorem Blank.install (h : r.Blank) (snapshot : RegistrySnapshot) (ids : List TargetId) :
    (ids.foldl discard (r.install snapshot)).Blank := by
  have hd := discards_foldl ids (r.install snapshot)
  refine ⟨hd.policy ▸ h.unreservable, fun id => ?_, fun id => ?_⟩
  · rw [hd.snapshot?]
    split
    · rfl
    · exact h.untracked id
  · rw [(foldl_discard ids _ id).2]
    split
    · rfl
    · exact h.hidden id

theorem withstands_blank (snapshot : RegistrySnapshot) (firstDue : TargetId → Instant) :
    Withstands snapshot firstDue Blank where
  schedule _ _ _ _ hu := hu.of_eq rfl rfl
  register _ id _ store _ hst hu := absurd hst (hu.register_ne id store)

theorem Bare.reload {targets : List Target} {firstDue : TargetId → Instant} {diff : RegistryDiff} (h : r.Bare)
    (hr : r.reload targets firstDue = .ok (.ok (diff, r'))) : r'.Bare := by
  have hreloads := reloads_reload hr
  obtain ⟨snapshot, hb, rfl, ⟨hempty, rfl⟩ | ⟨u, hu, rfl⟩⟩ := reload_eq_ok hr
  · refine ⟨h.toBlank.of_eq rfl rfl, fun hids => h.total ?_⟩
    refine (Table.keys_eq_nil_iff _).mpr fun id => ?_
    have hsame := RegistryDiff.not_touches_of_isEmpty hempty id
    rw [RegistryDiff.touches_between_iff, not_not] at hsame
    exact hsame.trans ((Table.keys_eq_nil_iff _).mp hids id)
  · have hblank : u.Blank := (withstands_blank snapshot firstDue).follow hu (h.toBlank.install snapshot _)
    -- an added target would be known now
    have hnone : (RegistryDiff.between r.registry.current snapshot).added = [] := by
      refine List.eq_nil_iff_forall_not_mem.mpr fun id hid => ?_
      have hknown := (hreloads.renewed id (List.mem_append_left _ hid)).2
      have hunknown : u.store.snapshot? id = none := hblank.untracked id
      exact absurd (hunknown.symm.trans hknown) nofun
    refine ⟨⟨hblank.unreservable, hblank.untracked, fun id => ?_⟩, fun hids => ?_⟩
    · rw [announce, hnone, List.foldl_nil, TargetMetrics.shown?_setTotal]
      exact hblank.hidden id
    · have hcur : u.registry = ⟨snapshot⟩ := (views_of_follow rfl hu).1
      have hids : u.registry.current.ids = [] := hids
      have hsize : snapshot.size = 0 := by
        rw [hcur] at hids
        exact (Table.length_keys snapshot.targets).symm.trans (congrArg List.length hids)
      rw [announce, TargetMetrics.total_foldl_update, TargetMetrics.total_setTotal, hsize]
      rfl

/-- A reload is broken off at the first target that is to be enrolled, so that there are targets. -/
theorem Bare.interruptReload {targets : List Target} {firstDue : TargetId → Instant} {fault : Fault} (h : r.Bare)
    (hr : r.reload targets firstDue = .error fault) : (r.interruptReload targets firstDue).Bare := by
  obtain ⟨snapshot, -, hsome, heq⟩ := interruptReload_eq hr
  rw [heq]
  refine ⟨(withstands_blank snapshot firstDue).enrollSome _ _ (h.toBlank.install snapshot _), fun hids => ?_⟩
  obtain ⟨id, hid⟩ := List.exists_mem_of_ne_nil _ hsome
  have hlisted : id ∈ snapshot.ids := (snapshot.mem_ids_iff id).mpr (RegistryDiff.isSome_of_mem hid)
  rw [registry_enrollSome, (discards_foldl _ _).registry] at hids
  have hids : snapshot.ids = [] := hids
  rw [hids] at hlisted
  cases hlisted

/-- Registry, schedule, store and gauges list the same targets, of which there are as many as is shown, and each is scheduled
with its interval. -/
structure Agrees (r : Roster) : Prop where
  nodup : r.registry.current.ids.Nodup
  entries : r.scheduler.entries.keys = r.registry.current.ids
  states : r.store.states.keys = r.registry.current.ids
  statuses : r.gauges.statuses.keys = r.registry.current.ids
  multipliers : r.gauges.multipliers.keys = r.registry.current.ids
  total : r.registry.current.ids.length < Nat.pow 2 63 → r.gauges.total = r.registry.current.ids.length
  based : ∀ id e, r.scheduler.entry? id = some e → (r.registry.get? id).map (·.interval) = some e.baseInterval

theorem Listed.agrees (h : r.Listed) (ha : r.Aligned) (hfull : r.Full) : r.Agrees := by
  obtain ⟨hentries, hstates, hstatuses, hmultipliers⟩ := h.keys_eq ha hfull
  refine ⟨h.registry.nodup, hentries, hstates, hstatuses, hmultipliers, fun hlt => ?_, fun id e he => ?_⟩
  · have hsize : r.registry.current.ids.length = r.registry.current.size := Table.length_keys _
    rw [hsize] at hlt ⊢
    rw [h.total, TargetMetrics.bmod_of_lt hlt]
  · rw [← h.based id, Scheduler.base?, he]
    rfl

theorem Bare.agrees (h : r.Bare) (ha : r.Aligned) (hids : r.registry.current.ids = []) : r.Agrees := by
  have hnone (id : TargetId) : r.scheduler.entry? id = none :=
    Option.map_eq_none_iff.mp (ha.scheduled_none ((Table.keys_eq_nil_iff _).mp hids id))
  have hempty {α : Type} (t : Table TargetId α) (ht : ∀ id, t.get? id = none) : t.keys = r.registry.current.ids :=
    ((Table.keys_eq_nil_iff t).mpr ht).trans hids.symm
  refine ⟨hids ▸ List.Pairwise.nil, hempty _ hnone, hempty _ h.untracked, hempty _ fun id => ?_, hempty _ fun id => ?_,
    fun _ => ?_, fun id e he => ?_⟩
  · exact congrArg Prod.fst (h.hidden id)
  · exact congrArg Prod.snd (h.hidden id)
  · rw [h.total hids, hids]
    rfl
  · rw [hnone] at he
    cases he

theorem bare_start {registry : Registry} {policy : HealthPolicy} {firstDue : TargetId → Instant}
    (h : Roster.start registry policy firstDue = .ok r)
    (hw : LatencyWindow.canReserve (max policy.latencyWindow 1) = false) : r.Bare := by
  obtain ⟨store, hst, heq⟩ := exists_of_bind_eq_ok h
  have hids : registry.current.ids = [] := by
    refine Classical.not_not.mp fun hids => ?_
    rw [StateStore.withTargets_of_unreservable policy hids hw] at hst
    cases hst
  rw [hids] at hst heq
  cases hst
  cases heq
  refine ⟨⟨hw, fun _ => rfl, fun id => ?_⟩, fun _ => ?_⟩
  · rw [List.foldl_nil, TargetMetrics.shown?_setTotal]
    rfl
  · rw [List.foldl_nil, TargetMetrics.total_setTotal]
    rfl

end Roster

namespace Chronicle

variable {k : Chronicle}

theorem Matched.bare_react (hm : k.Matched) (h : k.monitor.roster.Bare) (now : Instant) (e : Monitor.Event) :
    (k.react now e).monitor.roster.Bare := by
  cases e with
  | dispatch =>
    have hkeeps : (k.react now .dispatch).monitor.roster = k.monitor.roster.withMarks _ := hm.aligned.dispatchDue_eq now
    rw [hkeeps]
    exact h.of_eq rfl rfl rfl
  | complete =>
    cases hc : k.monitor.executor.completions with
    | nil => exact (react_complete_of_nil hc now).symm ▸ h
    | cons c unread =>
      rw [react_complete_of_cons hc]
      exact h.complete (hm.get?_of_mem (hc ▸ List.mem_cons_self)) now
  | reload targets pick =>
    rcases k.react_reload now targets pick with ⟨diff, m, hr, heq⟩ | ⟨-, -, heq⟩ | ⟨fault, hr, heq⟩
    · rw [heq]
      exact h.reload (Monitor.reload_eq_ok hr).1
    · rwa [heq]
    · rw [heq]
      exact h.interruptReload (Monitor.reload_eq_error hr).2
  | cancel | turn number | halt phase | arrange phase stopRequested scheduleChanged agenda => exact h

theorem Matched.bare_run (hm : k.Matched) (h : k.monitor.roster.Bare) (es : Monitor.Course) :
    (k.run es).monitor.roster.Bare := by
  induction es generalizing k with
  | nil => exact h
  | cons e es ih => exact ih (hm.react e.1 e.2) (hm.bare_react h e.1 e.2)

end Chronicle

namespace Monitor

section

variable {now : Instant} {prober : Prober} {settings : Settings} {targets : List Target} {pick : TargetId → Nat}
  {m : Monitor}

theorem bare_run (hm : start (some now) prober settings targets pick = .ok (.ok m))
    (hw : LatencyWindow.canReserve (max settings.latencyWindow 1) = false) (es : Course) : (m.run es).roster.Bare := by
  obtain ⟨-, registry, firstDue, -, hr⟩ := start_eq_ok hm
  have hrun := (Chronicle.matched_ofStart hm).bare_run (Roster.bare_start hr hw) es
  rwa [Chronicle.monitor_run] at hrun

end

/-- After every course registry, schedule, store and gauges agree on the targets if and only if room can be reserved for a
latency window or there are no targets. The due queue has one place for every entry of the schedule but those of the targets
that have met the end of the clock, and so all places if and only if there are no such targets. The gauges show the status
and the multiplier that the store knows. -/
theorem views_agree (now : Instant) (prober : Prober) (settings : Settings) (targets : List Target)
    (pick : TargetId → Nat) (m : Monitor) (hm : Monitor.start (some now) prober settings targets pick = .ok (.ok m))
    (es : Course) :
    let r := (m.run es).roster
    (r.Agrees ↔ LatencyWindow.canReserve (max settings.latencyWindow 1) = true ∨ r.registry.current.ids = []) ∧
    r.scheduler.queue.Perm (r.scheduler.slots.filter fun slot => slot.2 ∉ m.unplaced [] es) ∧
    (r.scheduler.queue.Perm r.scheduler.slots ↔ m.unplaced [] es = []) ∧
    ∀ id, r.gauges.statuses.get? id = (r.store.snapshot? id).map (·.status.gauge) ∧
      r.gauges.multipliers.get? id = (r.store.snapshot? id).map (·.backoffMultiplier) := by
  intro r
  have ha : r.Aligned := Chronicle.aligned_run hm es
  have htidy : r.Tidy := (tidy_of_start hm).steps (m.steps_run es)
  have hlacks := (strands_run hm es).lacks
  have hshown : (r.Agrees ↔ LatencyWindow.canReserve (max settings.latencyWindow 1) = true ∨
      r.registry.current.ids = []) ∧ r.gauges.Shows r.store := by
    cases hw : LatencyWindow.canReserve (max settings.latencyWindow 1) with
    | true =>
      have hes : m.Unbroken es := unbroken_of_start hm hw es
      have h : r.Listed := listed_run hm es hes
      exact ⟨iff_of_true (h.agrees ha (full_run hm es hes)) (.inl rfl), h.shown⟩
    | false =>
      have h : r.Bare := bare_run hm hw es
      refine ⟨⟨fun hagrees => .inr ?_, fun hids => h.agrees ha (hids.resolve_left Bool.false_ne_true)⟩, fun id => ?_⟩
      · exact hagrees.states.symm.trans ((Table.keys_eq_nil_iff _).mpr h.untracked)
      · rw [h.hidden, h.untracked]
        rfl
  exact ⟨hshown.1, hlacks.perm_filter htidy.scheduler.filed htidy.scheduler.entries,
    hlacks.perm_iff htidy.scheduler.filed htidy.scheduler.entries,
    fun id => ⟨congrArg Prod.fst (hshown.2 id), congrArg Prod.snd (hshown.2 id)⟩⟩

/-- A target fails its probe and is then changed, while a second one is taken out with its probe unprocessed, and a third
one is put in. -/
theorem views_agree_replaced :
    let prober : Prober := fun _ _ start _ => some (start, .reported (.failure "a" .timeout "connect" ⟨0, 0⟩))
    let target (id : TargetId) (seconds : Nat) : Target := ⟨id, ⟨"localhost", 1⟩, .tcp, .ofSeconds seconds, .ofSeconds 1⟩
    let later : Instant := .after ⟨0⟩ (.ofSeconds 1)
    let es : Course := [(⟨0⟩, .dispatch), (⟨0⟩, .turn 0), (⟨0⟩, .turn 1), (⟨0⟩, .complete),
      (later, .reload [target "c" 3, target "a" 2] fun _ => 0), (later, .complete)]
    ∃ m, Monitor.start (some ⟨0⟩) prober { jitterMs := 0 } [target "a" 1, target "b" 1] (fun _ => 0) = .ok (.ok m) ∧
      (m.run es).roster.gauges.statuses.keys = ["a", "c"] ∧
      (m.run es).roster.scheduler.entries.keys = ["a", "c"] ∧ (m.run es).roster.gauges.total = 2 ∧
      (m.run es).roster.scheduler.queue.Perm (m.run es).roster.scheduler.slots := by
  intro prober target later es
  have hex : ∃ m, Monitor.start (some ⟨0⟩) prober { jitterMs := 0 } [target "a" 1, target "b" 1] (fun _ => 0) =
      .ok (.ok m) ∧ (m.run es).roster.registry.current.ids = ["a", "c"] ∧ m.unplaced [] es = [] := by
    decide +kernel
  obtain ⟨m, hm, hids, hplaced⟩ := hex
  obtain ⟨hagrees, -, hqueue, -⟩ :=
    views_agree ⟨0⟩ prober { jitterMs := 0 } [target "a" 1, target "b" 1] (fun _ => 0) m hm es
  obtain ⟨-, hentries, -, hstatuses, -, htotal, -⟩ := hagrees.mpr (.inl (by decide))
  rw [hids] at hentries hstatuses htotal
  exact ⟨m, hm, hstatuses, hentries, htotal (by decide), hqueue.mpr hplaced⟩

/-- A target with an interval as long as the clock goes loses its place in the due queue when its first report is processed.
A reload that leaves the target alone does not give it its place back. -/
theorem queue_lacks_entry_of_long_interval :
    let prober : Prober := fun t _ start _ => some (start, .reported (.success t.id ⟨0⟩ ⟨0, 0⟩))
    let target (id : TargetId) (seconds : Nat) : Target := ⟨id, ⟨"localhost", 1⟩, .tcp, .ofSeconds seconds, .ofSeconds 1⟩
    let es : Course := [(⟨0⟩, .dispatch), (⟨0⟩, .turn 0), (⟨0⟩, .complete),
      (⟨1⟩, .reload [target "a" (Nat.pow 2 63), target "b" 1] fun _ => 0)]
    ∃ m, Monitor.start (some ⟨0⟩) prober { jitterMs := 0 } [target "a" (Nat.pow 2 63)] (fun _ => 0) = .ok (.ok m) ∧
      (m.run es).roster.scheduler.entries.keys = ["a", "b"] ∧
      (m.run es).roster.scheduler.queue = [(⟨1⟩, "b")] ∧
      ¬ (m.run es).roster.scheduler.queue.Perm (m.run es).roster.scheduler.slots := by
  decide +kernel

end Monitor

end TargetHealth
