import TargetHealth.Proofs.Monitor.Unbroken

namespace TargetHealth

/-- Whether a probe was dispatched after the last reload that says anything of its target. -/
def isFresh (probe : ProbeLabel) : List Happening → Bool
  | [] => false
  | .dispatched probe' :: past => decide (probe = probe') || isFresh probe past
  | .reloaded diff :: past => !decide (diff.Touches probe.1) && isFresh probe past
  | .processed _ :: past | .lost _ :: past => isFresh probe past

/-- The results of a target that have counted since it was added, in the order in which they were processed. -/
def counted (id : TargetId) : List Happening → List ProbeResult
  | [] => []
  | .processed c :: past =>
    if c.result.targetId = id ∧ c.result.outcome ≠ .cancelled ∧ isFresh c.label past then
      counted id past ++ [c.result]
    else counted id past
  | .reloaded diff :: past => if id ∈ diff.added then [] else counted id past
  | .dispatched _ :: past | .lost _ :: past => counted id past

theorem isFresh_dispatched (probe : ProbeLabel) (batch : List (Target × Nat)) (past : List Happening) :
    isFresh probe ((batch.map fun b => .dispatched (batchLabel b)).reverse ++ past) =
      (decide (probe ∈ batch.map batchLabel) || isFresh probe past) := by
  induction batch generalizing past with
  | nil => simp
  | cons b batch ih =>
    rw [List.map_cons, List.reverse_cons, List.append_assoc, ih, List.singleton_append, isFresh, List.map_cons]
    simp only [List.mem_cons, Bool.decide_or]
    rw [Bool.or_left_comm, Bool.or_assoc]

theorem counted_dispatched (id : TargetId) (batch : List (Target × Nat)) (past : List Happening) :
    counted id ((batch.map fun b => .dispatched (batchLabel b)).reverse ++ past) = counted id past := by
  induction batch generalizing past with
  | nil => rfl
  | cons b batch ih => rw [List.map_cons, List.reverse_cons, List.append_assoc, ih, List.singleton_append, counted]

theorem isFresh_lost {α : Type} (probe : ProbeLabel) (label : α → ProbeLabel) (as : List α) (past : List Happening) :
    isFresh probe ((as.map fun a => .lost (label a)).reverse ++ past) = isFresh probe past := by
  induction as generalizing past with
  | nil => rfl
  | cons a as ih => rw [List.map_cons, List.reverse_cons, List.append_assoc, ih, List.singleton_append, isFresh]

theorem counted_lost {α : Type} (id : TargetId) (label : α → ProbeLabel) (as : List α) (past : List Happening) :
    counted id ((as.map fun a => .lost (label a)).reverse ++ past) = counted id past := by
  induction as generalizing past with
  | nil => rfl
  | cons a as ih => rw [List.map_cons, List.reverse_cons, List.append_assoc, ih, List.singleton_append, counted]

theorem TargetState.recordAll_concat (policy : HealthPolicy) (id : TargetId) (rs : List ProbeResult) (r : ProbeResult) :
    recordAll policy id (rs ++ [r]) = (recordAll policy id rs).record r policy := by
  rw [recordAll, List.foldl_append]
  rfl

namespace Chronicle

structure Timely (k : Chronicle) : Prop where
  matched : k.Matched
  timely : ∀ id n, k.monitor.roster.scheduler.inFlight.get? id = some n →
    k.monitor.roster.scheduler.epoch? id = some n → isFresh (id, n) k.past = true

/-- Only the probes whose marks bear the epochs of their targets are fresh, and the health of every target is made of the
results that count. -/
structure Told (policy : HealthPolicy) (k : Chronicle) : Prop extends k.Timely where
  policy_eq : k.monitor.roster.store.policy = policy
  fresh : ∀ id n, k.monitor.roster.scheduler.inFlight.get? id = some n →
    isFresh (id, n) k.past = true → k.monitor.roster.scheduler.epoch? id = some n
  health : ∀ id, k.monitor.roster.store.snapshot? id =
    (k.monitor.roster.registry.get? id).map fun _ => .recordAll policy id (counted id k.past)

variable {policy : HealthPolicy} {k : Chronicle}

theorem Timely.dispatch (h : k.Timely) (now : Instant) : (k.react now .dispatch).Timely := by
  obtain ⟨-, -, hepoch, hmarks, -⟩ := h.matched.aligned.marks_dispatchDue now
  refine ⟨h.matched.dispatch now, fun id n hm he => ?_⟩
  have he : (k.monitor.roster.dispatchDue now).2.scheduler.epoch? id = some n := he
  rw [hepoch] at he
  simp only [Chronicle.react, Monitor.happenings]
  rw [isFresh_dispatched, Bool.or_eq_true, decide_eq_true_eq]
  exact (hmarks id n hm).symm.imp_right fun hm => h.timely id n hm he

theorem Told.dispatch (h : k.Told policy) (now : Instant) : (k.react now .dispatch).Told policy := by
  obtain ⟨hreg, hst, hepoch, hmarks, hbatch⟩ := h.matched.aligned.marks_dispatchDue now
  refine ⟨h.toTimely.dispatch now, ?_, ?_, ?_⟩
  · exact (congrArg StateStore.policy hst).trans h.policy_eq
  · intro id n hm
    have hm := hmarks id n hm
    simp only [Chronicle.react, Monitor.react, Monitor.dispatchDue, Monitor.happenings]
    rw [isFresh_dispatched, hepoch, Bool.or_eq_true, decide_eq_true_eq]
    by_cases hb : (id, n) ∈ (k.monitor.roster.dispatchDue now).1.map batchLabel
    · exact fun _ => hbatch id n hb
    · rw [or_iff_right hb]
      exact h.fresh id n (hm.resolve_right hb)
  · intro id
    simp only [Chronicle.react, Monitor.react, Monitor.dispatchDue, Monitor.happenings]
    rw [counted_dispatched, hst, hreg]
    exact h.health id

/-- A completion in the channel counts exactly if its target has still the epoch of its probe. -/
theorem Told.isFresh_iff (h : k.Told policy) {c : Completion} (hc : c ∈ k.monitor.executor.completions) :
    isFresh c.label k.past = true ↔ k.monitor.roster.scheduler.epoch? c.result.targetId = some c.epoch :=
  have hm := h.matched.get?_of_mem hc
  ⟨h.fresh c.result.targetId c.epoch hm, h.timely c.result.targetId c.epoch hm⟩

theorem Told.health_complete (h : k.Told policy) {c : Completion} (hc : c ∈ k.monitor.executor.completions)
    (now : Instant) (id : TargetId) :
    (k.monitor.roster.complete c now).2.store.snapshot? id =
      ((k.monitor.roster.complete c now).2.registry.get? id).map fun _ =>
        .recordAll policy id (counted id (.processed c :: k.past)) := by
  have hget := h.matched.get?_of_mem hc
  have hfresh := h.isFresh_iff hc
  by_cases he : k.monitor.roster.scheduler.epoch? c.result.targetId = some c.epoch
  · obtain ⟨hreg, hst, -⟩ := Roster.complete_of_current hget he now
    rw [hreg, hst]
    by_cases hcancelled : c.result.outcome = .cancelled
    · rw [StateStore.apply_cancelled _ hcancelled, counted, if_neg fun hn => hn.2.1 hcancelled]
      exact h.health id
    · rw [StateStore.snapshot?_apply _ hcancelled, h.policy_eq, h.health id, counted]
      by_cases hid : id = c.result.targetId
      · rw [if_pos hid, if_pos ⟨hid.symm, hcancelled, hfresh.mpr he⟩, TargetState.recordAll_concat, Option.map_map]
        rfl
      · rw [if_neg hid, if_neg fun hn => hid hn.1.symm]
  · rw [Roster.complete_of_stale hget he now, counted, if_neg fun hn => he (hfresh.mp hn.2.2)]
    exact h.health id

theorem Matched.marks_complete (h : k.Matched) {c : Completion} (hc : c ∈ k.monitor.executor.completions) (now : Instant)
    {id : TargetId} {n : Nat} (hm : (k.monitor.roster.complete c now).2.scheduler.inFlight.get? id = some n) :
    k.monitor.roster.scheduler.inFlight.get? id = some n ∧
      (k.monitor.roster.complete c now).2.scheduler.epoch? id = k.monitor.roster.scheduler.epoch? id := by
  have hget := h.get?_of_mem hc
  rw [Roster.inFlight_complete hget, Table.get?_erase] at hm
  refine ⟨?_, Roster.epoch?_complete hget now id⟩
  split at hm
  · cases hm
  · exact hm

theorem Timely.complete (h : k.Timely) (now : Instant) : (k.react now .complete).Timely := by
  cases hc : k.monitor.executor.completions with
  | nil => exact (react_complete_of_nil hc now).symm ▸ h
  | cons c unread =>
    have hmatched := h.matched.complete now
    rw [react_complete_of_cons hc] at hmatched ⊢
    refine ⟨hmatched, fun id n hm he => ?_⟩
    obtain ⟨hold, hepoch⟩ := h.matched.marks_complete (hc ▸ List.mem_cons_self) now hm
    exact h.timely id n hold (hepoch ▸ he)

theorem Told.complete (h : k.Told policy) (now : Instant) : (k.react now .complete).Told policy := by
  cases hc : k.monitor.executor.completions with
  | nil => exact (react_complete_of_nil hc now).symm ▸ h
  | cons c unread =>
    have hmem : c ∈ k.monitor.executor.completions := hc ▸ List.mem_cons_self
    have htimely := h.toTimely.complete now
    rw [react_complete_of_cons hc] at htimely ⊢
    refine ⟨htimely, ?_, ?_, h.health_complete hmem now⟩
    · exact (Roster.policy_complete (h.matched.get?_of_mem hmem) now).trans h.policy_eq
    · intro id n hm hfresh
      obtain ⟨hold, hepoch⟩ := h.matched.marks_complete hmem now hm
      exact hepoch ▸ h.fresh id n hold hfresh

variable {diff : RegistryDiff} {r : Roster}

theorem isFresh_reloaded (probe : ProbeLabel) (diff : RegistryDiff) (past : List Happening) :
    isFresh probe (.reloaded diff :: past) = true ↔ ¬ diff.Touches probe.1 ∧ isFresh probe past = true := by
  simp only [isFresh, Bool.and_eq_true, Bool.not_eq_true', decide_eq_false_iff_not]

/-- A target that a reload touches loses the epoch that its mark bears. -/
theorem Matched.epoch?_ne_of_touches (h : k.Matched) (hr : Roster.Reloads diff k.monitor.roster r) {id : TargetId}
    {n : Nat} (hm : k.monitor.roster.scheduler.inFlight.get? id = some n) (ht : diff.Touches id) :
    r.scheduler.epoch? id ≠ some n := by
  rcases hr.cases id with ⟨hn, -⟩ | ⟨-, -, he, -⟩ | ⟨-, -, ⟨n', hn', hlt, -⟩, -⟩
  · exact absurd ht hn
  · rw [he]
    exact nofun
  · have hle : n ≤ k.monitor.roster.scheduler.lastEpoch := h.aligned.marked id n hm
    rw [hn', ne_eq, Option.some.injEq]
    exact (Nat.lt_of_le_of_lt hle hlt).ne'

theorem Timely.reload (h : k.Timely) (now : Instant) (targets : List Target) (pick : TargetId → Nat) :
    (k.react now (.reload targets pick)).Timely := by
  have hmatched := h.matched.reload now targets pick
  rcases k.react_reload now targets pick with ⟨diff, m, hm, heq⟩ | ⟨-, -, heq⟩ | ⟨fault, hm, heq⟩
  · have hr := Roster.reloads_reload (Monitor.reload_eq_ok hm).1
    rw [heq] at hmatched ⊢
    refine ⟨hmatched, fun id n hmark he => ?_⟩
    have hold : k.monitor.roster.scheduler.inFlight.get? id = some n := hr.inFlight ▸ hmark
    have hnot : ¬ diff.Touches id := fun ht => h.matched.epoch?_ne_of_touches hr hold ht he
    exact (isFresh_reloaded _ diff _).mpr ⟨hnot, h.timely id n hold ((hr.kept id hnot).1 ▸ he)⟩
  · rwa [heq]
  · have hr := Roster.reschedules_interruptReload (Monitor.reload_eq_error hm).2
    rw [heq] at hmatched ⊢
    refine ⟨hmatched, fun id n hmark he => ?_⟩
    have hold : k.monitor.roster.scheduler.inFlight.get? id = some n := hr.inFlight ▸ hmark
    -- a new epoch is no epoch of a mark
    have hle : n ≤ k.monitor.roster.scheduler.lastEpoch := h.matched.aligned.marked id n hold
    have hkept := (hr.epoch? he).resolve_right hle.not_gt
    exact h.timely id n hold ((congrArg (Option.map ScheduleEntry.epoch) hkept).symm.trans he)

theorem Told.health_reload (h : k.Told policy) (hr : Roster.Reloads diff k.monitor.roster r) (id : TargetId) :
    r.store.snapshot? id = (r.registry.get? id).map fun _ =>
      .recordAll policy id (counted id (.reloaded diff :: k.past)) := by
  have hold := h.health id
  have hadded : id ∈ diff.added ↔ _ := hr.diff_eq ▸ RegistryDiff.mem_added_iff _ _ id
  rw [counted]
  rcases hr.cases id with ⟨ht, hreg, -, hs⟩ | ⟨-, hreg, -, hs⟩ | ⟨-, hreg, -, hs⟩
  · rw [hs, hold, hreg, if_neg fun ha => ht (.inl ha)]
  · rw [hs, hreg]
    rfl
  · obtain ⟨t, ht⟩ := Option.isSome_iff_exists.mp hreg
    rw [hs, ht, h.policy_eq, Option.map_some, hold]
    by_cases ha : id ∈ diff.added
    · have hnone : k.monitor.roster.registry.get? id = none := (hadded.mp ha).1
      rw [hnone, if_pos ha]
      rfl
    · have hsome : k.monitor.roster.registry.get? id ≠ none := fun hn => ha (hadded.mpr ⟨hn, hreg⟩)
      obtain ⟨t', ht'⟩ := Option.ne_none_iff_exists'.mp hsome
      rw [ht', if_neg ha]
      rfl

theorem Told.reload (h : k.Told policy) {now : Instant} {targets : List Target} {pick : TargetId → Nat}
    (he : Monitor.Event.IsUnbroken k.monitor now (.reload targets pick)) :
    (k.react now (.reload targets pick)).Told policy := by
  have htimely := h.toTimely.reload now targets pick
  rcases k.react_reload now targets pick with ⟨diff, m, hm, heq⟩ | ⟨-, -, heq⟩ | ⟨fault, hm, -⟩
  · have hr := Roster.reloads_reload (Monitor.reload_eq_ok hm).1
    rw [heq] at htimely ⊢
    refine ⟨htimely, hr.policy.trans h.policy_eq, fun id n hmark hfresh => ?_, h.health_reload hr⟩
    obtain ⟨hnot, hfresh⟩ := (isFresh_reloaded _ diff _).mp hfresh
    exact (hr.kept id hnot).1.trans (h.fresh id n (hr.inFlight ▸ hmark) hfresh)
  · rwa [heq]
  · rw [Monitor.Event.IsUnbroken, hm] at he
    cases he

theorem Timely.of_lost {α : Type} (h : k.Timely) {k' : Chronicle} (hmatched : k'.Matched)
    (hr : k'.monitor.roster = k.monitor.roster) (label : α → ProbeLabel) (as : List α)
    (hpast : k'.past = (as.map fun a => .lost (label a)).reverse ++ k.past) : k'.Timely := by
  refine ⟨hmatched, fun id n hm he => ?_⟩
  rw [hpast, isFresh_lost]
  exact h.timely id n (hr ▸ hm) (hr ▸ he)

theorem Told.of_lost {α : Type} (h : k.Told policy) {k' : Chronicle} (hmatched : k'.Matched)
    (hr : k'.monitor.roster = k.monitor.roster) (label : α → ProbeLabel) (as : List α)
    (hpast : k'.past = (as.map fun a => .lost (label a)).reverse ++ k.past) : k'.Told policy := by
  refine ⟨h.toTimely.of_lost hmatched hr label as hpast, hr ▸ h.policy_eq, ?_, ?_⟩
  · intro id n hm
    rw [hpast, isFresh_lost, hr]
    exact h.fresh id n (hr ▸ hm)
  · intro id
    rw [hpast, counted_lost, hr]
    exact h.health id

theorem Timely.react (h : k.Timely) (now : Instant) (e : Monitor.Event) : (k.react now e).Timely := by
  have hm := h.matched.react now e
  cases e with
  | dispatch => exact h.dispatch now
  | complete => exact h.complete now
  | reload targets pick => exact h.reload now targets pick
  | turn number => exact h.of_lost hm rfl id _ rfl
  | halt phase => exact h.of_lost hm rfl ProbeTask.label _ rfl
  | cancel | arrange phase stopRequested scheduleChanged agenda => exact h.of_lost hm rfl id [] rfl

theorem Told.react (h : k.Told policy) {now : Instant} {e : Monitor.Event} (he : e.IsUnbroken k.monitor now) :
    (k.react now e).Told policy := by
  have hm := h.matched.react now e
  cases e with
  | dispatch => exact h.dispatch now
  | complete => exact h.complete now
  | reload targets pick => exact h.reload he
  | turn number => exact h.of_lost hm rfl id _ rfl
  | halt phase => exact h.of_lost hm rfl ProbeTask.label _ rfl
  | cancel | arrange phase stopRequested scheduleChanged agenda => exact h.of_lost hm rfl id [] rfl

theorem Told.run (h : k.Told policy) (es : Monitor.Course) (hes : k.monitor.Unbroken es) : (k.run es).Told policy := by
  induction es generalizing k with
  | nil => exact h
  | cons e es ih => exact ih (h.react hes.1) hes.2

theorem told_ofStart {now : Instant} {prober : Prober} {settings : Settings} {targets : List Target}
    {pick : TargetId → Nat} {m : Monitor} (h : Monitor.start (some now) prober settings targets pick = .ok (.ok m)) :
    (ofStart m).Told ⟨settings.failureThreshold, settings.latencyWindow, settings.backoff⟩ := by
  obtain ⟨-, registry, firstDue, hb, hr⟩ := Monitor.start_eq_ok h
  obtain ⟨-, -, -, hf, hp, hs⟩ := Roster.start_eq_ok (RegistrySnapshot.keyed_build hb) hr
  have hnone (id : TargetId) : (ofStart m).monitor.roster.scheduler.inFlight.get? id = none := by
    simp only [ofStart, hf, Table.get?_empty]
  refine ⟨⟨matched_ofStart h, fun id n hm => ?_⟩, hp, fun id n hm => ?_, fun id => ?_⟩
  · rw [hnone] at hm
    cases hm
  · rw [hnone] at hm
    cases hm
  · have hc : counted id (ofStart m).past = [] := by
      simp only [ofStart, counted]
      exact ite_self []
    rw [hc]
    exact hs id

/-- No reload is broken off where room can be reserved for a latency window. After every course of a monitor in which none is a
state is shown of exactly the targets, and it is what the results make of an unknown target that have counted since the target
was added. The processing of any other completion clears its mark, and changes nothing. -/
theorem snapshot?_eq_recordAll_counted (now : Instant) (prober : Prober) (settings : Settings) (targets : List Target)
    (pick : TargetId → Nat) (m : Monitor) (hm : Monitor.start (some now) prober settings targets pick = .ok (.ok m))
    (es : Monitor.Course) :
    let k := (ofStart m).run es
    let policy : HealthPolicy := ⟨settings.failureThreshold, settings.latencyWindow, settings.backoff⟩
    let r := k.monitor.roster
    (LatencyWindow.canReserve (max settings.latencyWindow 1) = true → m.Unbroken es) ∧
    (m.Unbroken es → ∀ id, r.store.snapshot? id =
      (r.registry.get? id).map fun _ => .recordAll policy id (counted id k.past)) ∧
    ∀ c ∈ k.monitor.executor.completions, isFresh c.label k.past = false → ∀ now,
      r.complete c now = (none, r.withMarks (r.scheduler.inFlight.erase c.result.targetId)) := by
  intro k policy r
  have htold : (ofStart m).Told policy := told_ofStart hm
  have h : k.Timely := run_preserves (fun _ now e hk => hk.react now e) es _ htold.toTimely
  refine ⟨fun hw => Monitor.unbroken_of_start hm hw es, fun hes => (htold.run es hes).health, ?_⟩
  intro c hc hstale now
  have hget := h.matched.get?_of_mem hc
  refine Roster.complete_of_stale hget (fun he => ?_) now
  have hfresh := h.timely c.result.targetId c.epoch hget he
  rw [Completion.label] at hstale
  rw [hfresh] at hstale
  cases hstale

/-- A target that has failed once is changed while its second probe runs: its health is kept, and the report of that probe
is stale. -/
theorem snapshot?_eq_recordAll_counted_changed :
    let prober : Prober := fun _ _ start _ => some (start, .reported (.failure "b" .timeout "connect" ⟨0, 0⟩))
    let target (seconds : Nat) : Target := ⟨"a", ⟨"localhost", 1⟩, .tcp, .ofSeconds seconds, .ofSeconds 1⟩
    let later : Instant := .after ⟨0⟩ (.ofSeconds 10)
    let es : Monitor.Course := [(⟨0⟩, .dispatch), (⟨0⟩, .turn 0), (⟨0⟩, .complete), (later, .dispatch),
      (later, .reload [target 2] fun _ => 0), (later, .turn 1)]
    let c : Completion := ⟨1, .failure "a" .timeout "connect" ⟨0, 0⟩, later⟩
    ∃ m, Monitor.start (some ⟨0⟩) prober { jitterMs := 0 } [target 1] (fun _ => 0) = .ok (.ok m) ∧
      ((ofStart m).run es).monitor.executor.completions = [c] ∧
      ((ofStart m).run es).monitor.roster.store.snapshot? "a" =
        some (.recordAll ⟨3, 32, ⟨2, 8, .ofSeconds 300⟩⟩ "a" [.failure "a" .timeout "connect" ⟨0, 0⟩]) ∧
      (((ofStart m).run es).monitor.roster.complete c later).2.store = ((ofStart m).run es).monitor.roster.store := by
  intro prober target later es c
  have hex : ∃ m, Monitor.start (some ⟨0⟩) prober { jitterMs := 0 } [target 1] (fun _ => 0) = .ok (.ok m) ∧
      ((ofStart m).run es).monitor.executor.completions = [c] ∧ isFresh c.label ((ofStart m).run es).past = false ∧
      counted "a" ((ofStart m).run es).past = [.failure "a" .timeout "connect" ⟨0, 0⟩] ∧
      (((ofStart m).run es).monitor.roster.registry.get? "a").isSome := by decide +kernel
  obtain ⟨m, hm, hc, hstale, hcounted, hreg⟩ := hex
  obtain ⟨hwhole, hhealth, hdrop⟩ := snapshot?_eq_recordAll_counted ⟨0⟩ prober { jitterMs := 0 } [target 1] (fun _ => 0) m hm es
  refine ⟨m, hm, hc, ?_, ?_⟩
  · obtain ⟨t, ht⟩ := Option.isSome_iff_exists.mp hreg
    rw [hhealth (hwhole (by decide)) "a", ht, hcounted]
    rfl
  · rw [hdrop c (hc ▸ List.mem_singleton_self c) hstale later, Roster.withMarks_store]

end Chronicle

end TargetHealth
