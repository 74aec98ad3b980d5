import TargetHealth.Proofs.Monitor.Steps

namespace TargetHealth

namespace RegistrySnapshot

/-- The entry that a target gets when targets are enrolled one after the other, after epoch `n`. -/
def renewed? (s : RegistrySnapshot) (firstDue : TargetId → Instant) : List TargetId → Nat → TargetId →
    Option ScheduleEntry
  | [], _, _ => none
  | id :: ids, n, id' =>
    match s.get? id with
    | none => renewed? s firstDue ids n id'
    | some t => (renewed? s firstDue ids (n + 1) id').or
        (if id' = id then some ⟨id, firstDue id, t.interval, t.interval, n + 1⟩ else none)

variable {s : RegistrySnapshot} {firstDue : TargetId → Instant} {id : TargetId}

theorem renewed?_eq_some {ids : List TargetId} {n : Nat} {e : ScheduleEntry}
    (h : s.renewed? firstDue ids n id = some e) :
    e.targetId = id ∧ e.nextDue = firstDue id ∧ n < e.epoch ∧ ∃ t, s.get? id = some t ∧ t.interval = e.baseInterval := by
  induction ids generalizing n with
  | nil => cases h
  | cons id' ids ih =>
    unfold renewed? at h
    split at h
    · exact ih h
    · rename_i t ht
      rcases Option.or_eq_some_iff.mp h with h | ⟨-, h⟩
      · obtain ⟨hid, hdue, hepoch, hbase⟩ := ih h
        exact ⟨hid, hdue, Nat.lt_of_succ_lt hepoch, hbase⟩
      · split at h
        · rename_i hid
          cases h
          exact ⟨hid.symm, hid ▸ rfl, Nat.lt_succ_self n, t, hid ▸ ht, rfl⟩
        · cases h

theorem isSome_renewed?_iff (firstDue : TargetId → Instant) {ids : List TargetId} (n : Nat) :
    (s.renewed? firstDue ids n id).isSome ↔ id ∈ ids ∧ (s.get? id).isSome := by
  induction ids generalizing n with
  | nil => simp [renewed?]
  | cons id' ids ih =>
    unfold renewed?
    split
    · rename_i hn
      rw [ih, List.mem_cons]
      refine and_congr_left fun hsome => (or_iff_right fun hid => ?_).symm
      rw [hid, hn] at hsome
      cases hsome
    · rename_i t ht
      rw [Option.isSome_or, Bool.or_eq_true, ih, List.mem_cons]
      by_cases hid : id = id' <;> simp [hid, ht]

end RegistrySnapshot

/-- What a roster holds of one target. -/
@[ext]
structure Holding where
  mark : Option Nat
  entry : Option ScheduleEntry
  /-- The due times at which the queue lists the target. -/
  places : Set Instant
  state : Option TargetState
  shown : Option Int × Option Nat

structure Frame where
  registry : Registry
  backoff : BackoffPolicy
  lastEpoch : Nat
  policy : HealthPolicy
  total : Int

namespace Holding

/-- The report of a probe clears its mark. The answer is whether the result still counts. -/
def report (h : Holding) (epoch : Nat) : Bool × Holding :=
  if h.mark = some epoch then (decide (h.entry.map (·.epoch) = some epoch), { h with mark := none }) else (false, h)

def apply (h : Holding) (policy : HealthPolicy) (result : ProbeResult) : Applied × Holding :=
  if result.outcome = .cancelled then (.droppedCancelled, h)
  else match h.state with
    | none => (.droppedUnknownTarget, h)
    | some state =>
      let state' := state.record result policy
      (.updated state.status state'.status state'.backoffMultiplier, { h with state := some state' })

def display (h : Holding) : Applied → Nat × Holding
  | .updated _ current multiplier => (multiplier, { h with shown := (some current.gauge, some multiplier) })
  | _ => ((h.state.map (·.backoffMultiplier)).getD 1, h)

def reschedule (h : Holding) (policy : BackoffPolicy) (now : Instant) (multiplier : Nat) : Holding :=
  match h.entry with
  | none => h
  | some e =>
    let interval := policy.interval e.baseInterval multiplier
    match now.add? interval with
    | .ok next => { h with entry := some { e with currentInterval := interval, nextDue := next }, places := {next} }
    | .error _ => { h with entry := some { e with currentInterval := interval }, places := ∅ }

def complete (h : Holding) (f : Frame) (c : Completion) (now : Instant) : Holding :=
  match h.report c.epoch with
  | (false, h) => h
  | (true, h) =>
    let (applied, h) := h.apply f.policy c.result
    let (multiplier, h) := h.display applied
    h.reschedule f.backoff now multiplier

def clear (h : Holding) : Holding := ⟨h.mark, none, ∅, none, (none, none)⟩

def enroll (h : Holding) (policy : HealthPolicy) (e : ScheduleEntry) : Holding :=
  { h with
    entry := some e
    places := {e.nextDue}
    state := some (h.state.getD (.recordAll policy e.targetId [])) }

def enroll? (h : Holding) (policy : HealthPolicy) : Option ScheduleEntry → Holding
  | none => h
  | some e => h.enroll policy e

def announce (h : Holding) : Holding := { h with shown := (some Status.unknown.gauge, some 1) }

/-- What is held of a target after a reload: of a removed one nothing, and a new entry of one that is added or changed. -/
def reload (h : Holding) (f : Frame) (diff : RegistryDiff) (snapshot : RegistrySnapshot) (firstDue : TargetId → Instant)
    (id : TargetId) : Holding :=
  let h := if id ∈ diff.removed then h.clear else h
  let h := h.enroll? f.policy (snapshot.renewed? firstDue (diff.added ++ diff.changed) f.lastEpoch id)
  if id ∈ diff.added then h.announce else h

theorem enroll_enroll (h : Holding) (policy : HealthPolicy) {e e' : ScheduleEntry} (he : e.targetId = e'.targetId) :
    (h.enroll policy e).enroll policy e' = h.enroll policy e' := by
  simp only [enroll, he, Option.getD_some]

end Holding

def Frame.reload (f : Frame) (diff : RegistryDiff) (snapshot : RegistrySnapshot) : Frame :=
  if diff.isEmpty then { f with registry := ⟨snapshot⟩ }
  else { f with
    registry := ⟨snapshot⟩
    lastEpoch := f.lastEpoch + (diff.added ++ diff.changed).countP fun id => (snapshot.get? id).isSome
    total := Int.bmod snapshot.size (Nat.pow 2 64) }

theorem Holding.reload_of_not_touches {s : RegistrySnapshot} {firstDue : TargetId → Instant} {diff : RegistryDiff}
    {id : TargetId} (h : Holding) (f : Frame) (ht : ¬ diff.Touches id) : h.reload f diff s firstDue id = h := by
  obtain ⟨ha, hr, hc⟩ := (diff.not_touches_iff id).mp ht
  have hnew : s.renewed? firstDue (diff.added ++ diff.changed) f.lastEpoch id = none := by
    rw [← Option.not_isSome_iff_eq_none, RegistrySnapshot.isSome_renewed?_iff]
    exact fun hlisted => (List.mem_append.mp hlisted.1).elim ha hc
  rw [reload, hnew, if_neg ha, if_neg hr]
  rfl

theorem Holding.reload_of_removed {s : RegistrySnapshot} {firstDue : TargetId → Instant} {diff : RegistryDiff}
    {id : TargetId} (h : Holding) (f : Frame) (hr : id ∈ diff.removed) (hac : id ∉ diff.added ++ diff.changed) :
    h.reload f diff s firstDue id = h.clear := by
  have hnew : s.renewed? firstDue (diff.added ++ diff.changed) f.lastEpoch id = none := by
    rw [← Option.not_isSome_iff_eq_none, RegistrySnapshot.isSome_renewed?_iff]
    exact fun hlisted => hac hlisted.1
  rw [reload, hnew, if_neg fun ha => hac (List.mem_append_left _ ha), if_pos hr]
  rfl

theorem Holding.reload_of_renewed {s : RegistrySnapshot} {diff : RegistryDiff} {id : TargetId} (f : Frame)
    (firstDue : TargetId → Instant) (hac : id ∈ diff.added ++ diff.changed) (hs : (s.get? id).isSome) :
    ∃ e, f.lastEpoch < e.epoch ∧ (∃ t, s.get? id = some t ∧ t.interval = e.baseInterval) ∧
      ∀ h : Holding, (h.reload f diff s firstDue id).entry = some e ∧ (h.reload f diff s firstDue id).places = {firstDue id} := by
  obtain ⟨e, he⟩ := Option.isSome_iff_exists.mp
    ((RegistrySnapshot.isSome_renewed?_iff firstDue f.lastEpoch).mpr ⟨hac, hs⟩)
  obtain ⟨-, hdue, hepoch, hbase⟩ := RegistrySnapshot.renewed?_eq_some he
  refine ⟨e, hepoch, hbase, fun h => ?_⟩
  rw [reload, he, ← hdue]
  split <;> exact ⟨rfl, rfl⟩

namespace Roster

def holding (r : Roster) (id : TargetId) : Holding :=
  ⟨r.scheduler.inFlight.get? id, r.scheduler.entry? id, {time | (time, id) ∈ r.scheduler.queue}, r.store.snapshot? id,
    r.gauges.shown? id⟩

def frame (r : Roster) : Frame :=
  ⟨r.registry, r.scheduler.policy, r.scheduler.lastEpoch, r.store.policy, r.gauges.total⟩

variable {r r' u : Roster} {id : TargetId}

/-- Tidy rosters that hold the same of each target, and the same besides, are the same. -/
theorem Tidy.ext (h : r.Tidy) (h' : r'.Tidy) (hframe : r.frame = r'.frame) (hold : ∀ id, r.holding id = r'.holding id) :
    r = r' := by
  obtain ⟨hreg, hbackoff, hlast, hpolicy, htotal⟩ := Frame.mk.inj hframe
  have hparts (id : TargetId) := Holding.mk.inj (hold id)
  have hentries := h.scheduler.entries.ext h'.scheduler.entries fun id => (hparts id).2.1
  have hmarks := h.scheduler.marks.ext h'.scheduler.marks fun id => (hparts id).1
  have hstates := h.states.ext h'.states fun id => (hparts id).2.2.2.1
  have hstatuses := h.gauges.statuses.ext h'.gauges.statuses fun id => congrArg Prod.fst (hparts id).2.2.2.2
  have hmultipliers := h.gauges.multipliers.ext h'.gauges.multipliers fun id => congrArg Prod.snd (hparts id).2.2.2.2
  have hqueue : r.scheduler.queue = r'.scheduler.queue := by
    refine DueQueue.eq_of_mem_iff h.scheduler.filed.sorted h'.scheduler.filed.sorted fun slot => ?_
    exact Set.ext_iff.mp (hparts slot.2).2.2.1 slot.1
  obtain ⟨registry, ⟨backoff, entries, queue, marks, lastEpoch⟩, ⟨policy, states⟩, ⟨statuses, multipliers, total⟩⟩ := r
  obtain ⟨registry', ⟨backoff', entries', queue', marks', lastEpoch'⟩, ⟨policy', states'⟩,
    ⟨statuses', multipliers', total'⟩⟩ := r'
  dsimp only at *
  subst hreg hbackoff hlast hpolicy htotal hentries hmarks hstates hstatuses hmultipliers hqueue
  rfl

/-- A change of what is held of one target and of nothing else, which leaves the roster tidy. -/
structure Changes (id : TargetId) (h : Holding) (r r' : Roster) : Prop where
  tidy : r'.Tidy
  frame : r'.frame = r.frame
  own : r'.holding id = h
  others : ∀ id', id' ≠ id → r'.holding id' = r.holding id'

theorem Changes.refl (h : r.Tidy) (id : TargetId) : Changes id (r.holding id) r r := ⟨h, rfl, rfl, fun _ _ => rfl⟩

theorem Changes.trans {h h' : Holding} (hc : Changes id h r u) (hc' : Changes id h' u r') : Changes id h' r r' :=
  ⟨hc'.tidy, hc'.frame.trans hc.frame, hc'.own, fun id' hid => (hc'.others id' hid).trans (hc.others id' hid)⟩

theorem Changes.eq_iff {h h' : Holding} {v : Roster} (hc : Changes id h r u) (hc' : Changes id h' r v) : u = v ↔ h = h' := by
  constructor
  · rintro rfl
    exact hc.own.symm.trans hc'.own
  · rintro rfl
    refine hc.tidy.ext hc'.tidy (hc.frame.trans hc'.frame.symm) fun id' => ?_
    by_cases hid : id' = id
    · rw [hid, hc.own, hc'.own]
    · rw [hc.others id' hid, hc'.others id' hid]

theorem finish_holding (h : r.Tidy) (c : Completion) :
    (r.finish c).1 = ((r.holding c.result.targetId).report c.epoch).1 ∧
      Changes c.result.targetId ((r.holding c.result.targetId).report c.epoch).2 r (r.finish c).2 := by
  have htidy : (r.finish c).2.Tidy := h.step (.finish r c)
  by_cases hm : r.scheduler.inFlight.get? c.result.targetId = some c.epoch
  · have hreport : (r.holding c.result.targetId).report c.epoch = (_, _) := if_pos hm
    have hfinish : r.finish c = (decide (r.scheduler.epoch? c.result.targetId = some c.epoch),
        r.withMarks (r.scheduler.inFlight.erase c.result.targetId)) := by
      rw [finish, Scheduler.finish_of_marked hm]
      rfl
    rw [hfinish] at htidy ⊢
    rw [hreport]
    refine ⟨rfl, htidy, rfl, ?_, fun id hid => ?_⟩
    · exact Holding.ext ((Table.get?_erase _ _ _).trans (if_pos rfl)) rfl rfl rfl rfl
    · exact Holding.ext ((Table.get?_erase _ _ _).trans (if_neg hid)) rfl rfl rfl rfl
  · have hreport : (r.holding c.result.targetId).report c.epoch = (_, _) := if_neg hm
    have hfinish : r.finish c = (false, r) := by
      rw [finish, Scheduler.finish, if_neg hm]
    rw [hfinish, hreport]
    exact ⟨rfl, .refl h _⟩

theorem apply_holding (h : r.Tidy) (c : Completion) :
    (r.apply c).1 = ((r.holding c.result.targetId).apply r.frame.policy c.result).1 ∧
      Changes c.result.targetId ((r.holding c.result.targetId).apply r.frame.policy c.result).2 r (r.apply c).2 := by
  have htidy : (r.apply c).2.Tidy := h.step (.apply r c)
  unfold Roster.apply StateStore.apply at htidy ⊢
  unfold Holding.apply
  by_cases hc : c.result.outcome = .cancelled
  · rw [if_pos hc, if_pos hc]
    exact ⟨rfl, .refl h _⟩
  · rw [if_neg hc] at htidy ⊢
    rw [if_neg hc]
    have hstate : (r.holding c.result.targetId).state = r.store.snapshot? c.result.targetId := rfl
    cases hs : r.store.snapshot? c.result.targetId with
    | none =>
      simp only [hstate, hs]
      exact ⟨trivial, .refl h _⟩
    | some state =>
      simp only [hs] at htidy
      simp only [hstate, hs]
      refine ⟨rfl, htidy, rfl, ?_, fun id hid => ?_⟩
      · exact Holding.ext rfl rfl rfl ((Table.get?_insert _ _ _ _).trans (if_pos rfl)) rfl
      · exact Holding.ext rfl rfl rfl ((Table.get?_insert _ _ _ _).trans (if_neg hid)) rfl

theorem display_holding (h : r.Tidy) (id : TargetId) (applied : Applied) :
    (r.display id applied).1 = ((r.holding id).display applied).1 ∧
      Changes id ((r.holding id).display applied).2 r (r.display id applied).2 := by
  cases applied with
  | updated previous current multiplier =>
    refine ⟨rfl, h.step (.display r id (.updated previous current multiplier)), rfl, ?_, fun id' hid => ?_⟩
    · exact Holding.ext rfl rfl rfl rfl ((TargetMetrics.shown?_update _ _ _ _ _).trans (if_pos rfl))
    · exact Holding.ext rfl rfl rfl rfl ((TargetMetrics.shown?_update _ _ _ _ _).trans (if_neg hid))
  | droppedCancelled | droppedUnknownTarget => exact ⟨rfl, .refl h _⟩

theorem changes_of_moved {e : ScheduleEntry} {queue : DueQueue} {place : Set Instant}
    (htidy : Tidy { r with scheduler := { r.scheduler with entries := r.scheduler.entries.insert id e, queue := queue } })
    (hq : ∀ slot, slot ∈ queue ↔ (slot.1 ∈ place ∧ slot.2 = id) ∨ slot ∈ r.scheduler.queue ∧ slot.2 ≠ id) :
    Changes id { r.holding id with entry := some e, places := place } r
      { r with scheduler := { r.scheduler with entries := r.scheduler.entries.insert id e, queue := queue } } := by
  refine ⟨htidy, rfl, ?_, fun id' hid => ?_⟩
  · refine Holding.ext rfl ((Table.get?_insert _ _ _ _).trans (if_pos rfl)) (Set.ext fun time => ?_) rfl rfl
    exact (hq (time, id)).trans (by simp)
  · refine Holding.ext rfl ((Table.get?_insert _ _ _ _).trans (if_neg hid)) (Set.ext fun time => ?_) rfl rfl
    exact (hq (time, id')).trans (by simp [hid, holding])

theorem changes_reschedule (h : r.Tidy) (id : TargetId) (now : Instant) (multiplier : Nat) :
    Changes id ((r.holding id).reschedule r.frame.backoff now multiplier) r (r.reschedule id now multiplier).2 := by
  have htidy : (r.reschedule id now multiplier).2.Tidy := h.step (.reschedule r id now multiplier)
  have hfiled := h.scheduler.filed
  have hentry : (r.holding id).entry = r.scheduler.entry? id := rfl
  have hbackoff : r.frame.backoff = r.scheduler.policy := rfl
  unfold Roster.reschedule Scheduler.reschedule at htidy ⊢
  unfold Holding.reschedule
  cases he : r.scheduler.entry? id with
  | none =>
    simp only [hentry, he]
    exact .refl h id
  | some e =>
    simp only [he] at htidy
    simp only [hentry, hbackoff, he]
    cases hnext : now.add? (r.scheduler.policy.interval e.baseInterval multiplier) with
    | ok next =>
      simp only [hnext] at htidy
      refine changes_of_moved htidy fun slot => DueQueue.mem_insert_iff.trans (or_congr ?_ (hfiled.mem_erase_iff he))
      exact Prod.ext_iff
    | error fault =>
      simp only [hnext, Scheduler.interrupt, he] at htidy ⊢
      refine changes_of_moved htidy fun slot => (hfiled.mem_erase_iff he).trans (or_iff_right ?_).symm
      exact fun hplace => hplace.1

variable {h : Holding} {c : Completion}

theorem Changes.apply (hc : Changes c.result.targetId h r u) :
    (u.apply c).1 = (h.apply r.frame.policy c.result).1 ∧
      Changes c.result.targetId (h.apply r.frame.policy c.result).2 r (u.apply c).2 := by
  obtain ⟨hanswer, hstep⟩ := apply_holding hc.tidy c
  rw [hc.own, hc.frame] at hanswer hstep
  exact ⟨hanswer, hc.trans hstep⟩

theorem Changes.display (hc : Changes id h r u) (applied : Applied) :
    (u.display id applied).1 = (h.display applied).1 ∧ Changes id (h.display applied).2 r (u.display id applied).2 := by
  obtain ⟨hanswer, hstep⟩ := display_holding hc.tidy id applied
  rw [hc.own] at hanswer hstep
  exact ⟨hanswer, hc.trans hstep⟩

theorem Changes.reschedule (hc : Changes id h r u) (now : Instant) (multiplier : Nat) :
    Changes id (h.reschedule r.frame.backoff now multiplier) r (u.reschedule id now multiplier).2 := by
  have hstep := changes_reschedule hc.tidy id now multiplier
  rw [hc.own, hc.frame] at hstep
  exact hc.trans hstep

/-- A completion works on what is held of its target. -/
theorem changes_complete (hr : r.Tidy) (c : Completion) (now : Instant) :
    Changes c.result.targetId ((r.holding c.result.targetId).complete r.frame c now) r (r.complete c now).2 := by
  obtain ⟨hcurrent, hfinish⟩ := finish_holding hr c
  unfold Roster.complete Holding.complete
  generalize (r.holding c.result.targetId).report c.epoch = reported at hcurrent hfinish ⊢
  generalize r.finish c = finished at hcurrent hfinish ⊢
  obtain ⟨current, h⟩ := reported
  obtain ⟨current', u⟩ := finished
  obtain rfl : current' = current := hcurrent
  cases current' with
  | false => exact hfinish
  | true =>
    dsimp only at hfinish
    obtain ⟨happlied, happly⟩ := hfinish.apply
    obtain ⟨hmultiplier, hdisplay⟩ := happly.display (h.apply r.frame.policy c.result).1
    change Changes _ _ r (((u.apply c).2.display c.result.targetId (u.apply c).1).2.reschedule c.result.targetId now
      ((u.apply c).2.display c.result.targetId (u.apply c).1).1).2
    rw [happlied, hmultiplier]
    exact hdisplay.reschedule now _

theorem changes_discard (h : r.Tidy) (id : TargetId) : Changes id (r.holding id).clear r (r.discard id) := by
  have hmarks : (r.discard id).scheduler.inFlight = r.scheduler.inFlight := Scheduler.inFlight_remove _ _
  have hslots {id' : TargetId} (time : Instant) :
      (time, id') ∈ (r.discard id).scheduler.queue ↔ (time, id') ∈ r.scheduler.queue ∧ id' ≠ id :=
    h.scheduler.filed.mem_queue_remove_iff
  refine ⟨h.steps (r.steps_discard id), ?_, ?_, fun id' hid => ?_⟩
  · have hbackoff : (r.discard id).scheduler.policy = r.scheduler.policy := Scheduler.policy_remove _ _
    have hlast : (r.discard id).scheduler.lastEpoch = r.scheduler.lastEpoch := Scheduler.lastEpoch_remove _ _
    rw [frame, hbackoff, hlast]
    rfl
  · refine Holding.ext (congrArg (Table.get? · id) hmarks) ?_ ?_ ?_ ?_
    · exact (Scheduler.entry?_remove _ _ _).trans (if_pos rfl)
    · exact Set.eq_empty_of_forall_notMem fun time hslot => ((hslots time).mp hslot).2 rfl
    · exact (StateStore.snapshot?_remove _ _ _).trans (if_pos rfl)
    · exact (TargetMetrics.shown?_remove _ _ _).trans (if_pos rfl)
  · refine Holding.ext (congrArg (Table.get? · id') hmarks) ?_ ?_ ?_ ?_
    · exact (Scheduler.entry?_remove _ _ _).trans (if_neg hid)
    · exact Set.ext fun time => (hslots time).trans (and_iff_left hid)
    · exact (StateStore.snapshot?_remove _ _ _).trans (if_neg hid)
    · exact (TargetMetrics.shown?_remove _ _ _).trans (if_neg hid)

theorem foldl_discard_holding (ids : List TargetId) (h : r.Tidy) :
    (ids.foldl discard r).frame = r.frame ∧
      ∀ id, (ids.foldl discard r).holding id = if id ∈ ids then (r.holding id).clear else r.holding id := by
  induction ids generalizing r with
  | nil => exact ⟨rfl, fun _ => rfl⟩
  | cons id ids ih =>
    have hc := changes_discard h id
    obtain ⟨hframe, hold⟩ := ih hc.tidy
    refine ⟨hframe.trans hc.frame, fun id' => ?_⟩
    rw [List.foldl_cons, hold]
    by_cases hid : id' = id
    · rw [hid, hc.own, if_pos List.mem_cons_self]
      exact ite_self _
    · simp only [hc.others id' hid, List.mem_cons, hid, false_or]

theorem enroll_holding {snapshot : RegistrySnapshot} {firstDue : Instant} {target : Target} (h : r.scheduler.Filed)
    (ht : snapshot.get? id = some target) (he : r.enroll snapshot firstDue id = .ok r') :
    r'.frame = { r.frame with lastEpoch := r.frame.lastEpoch + 1 } ∧
      ∀ id', r'.holding id' = if id' = id then (r.holding id).enroll r.frame.policy
        ⟨id, firstDue, target.interval, target.interval, r.frame.lastEpoch + 1⟩ else r.holding id' := by
  obtain ⟨store, hst, rfl⟩ := enroll_eq_ok ht he
  have hbackoff : (r.scheduler.insert id target.interval firstDue).policy = r.scheduler.policy :=
    Scheduler.policy_insert _ _ _ _
  have hlast : (r.scheduler.insert id target.interval firstDue).lastEpoch = r.scheduler.lastEpoch + 1 :=
    Scheduler.lastEpoch_insert _ _ _ _
  have hmarks : (r.scheduler.insert id target.interval firstDue).inFlight = r.scheduler.inFlight :=
    Scheduler.inFlight_insert _ _ _ _
  refine ⟨?_, fun id' => ?_⟩
  · simp only [frame, hbackoff, hlast, StateStore.policy_register hst]
  · have hslots (time : Instant) : (time, id') ∈ (r.scheduler.insert id target.interval firstDue).queue ↔ _ :=
      h.mem_queue_insert_iff
    by_cases hid : id' = id
    · rw [if_pos hid, hid]
      rw [hid] at hslots
      refine Holding.ext (congrArg (Table.get? · id) hmarks) ?_ ?_ ?_ rfl
      · exact (Scheduler.entry?_insert _ _ _ _ _).trans (if_pos rfl)
      · exact Set.ext fun time => (hslots time).trans (by simp [Holding.enroll])
      · exact (StateStore.snapshot?_register hst id).trans (if_pos rfl)
    · rw [if_neg hid]
      refine Holding.ext (congrArg (Table.get? · id') hmarks) ?_ ?_ ?_ rfl
      · exact (Scheduler.entry?_insert _ _ _ _ _).trans (if_neg hid)
      · exact Set.ext fun time => (hslots time).trans (by simp [hid, holding])
      · exact (StateStore.snapshot?_register hst id').trans (if_neg hid)

/-- Targets that are enrolled one after the other get an entry each, and nothing else changes. -/
theorem foldlM_enroll_holding {snapshot : RegistrySnapshot} {firstDue : TargetId → Instant} (ids : List TargetId)
    (h : r.Tidy) (hpos : ∀ id t, snapshot.get? id = some t → 0 < t.interval.nanos)
    (he : ids.foldlM (fun r id => r.enroll snapshot (firstDue id) id) r = .ok r') :
    r'.frame = { r.frame with lastEpoch := r.frame.lastEpoch + ids.countP fun id => (snapshot.get? id).isSome } ∧
      ∀ id, r'.holding id =
        (r.holding id).enroll? r.frame.policy (snapshot.renewed? firstDue ids r.frame.lastEpoch id) := by
  induction ids generalizing r with
  | nil =>
    cases he
    exact ⟨rfl, fun _ => rfl⟩
  | cons id ids ih =>
    rw [List.foldlM_cons] at he
    obtain ⟨u, hu, he⟩ := exists_of_bind_eq_ok he
    have htidy := h.steps ((withstands_steps hpos firstDue r).enroll hu .refl)
    obtain ⟨hframe, hold⟩ := ih htidy he
    rcases enroll_cases hu with ⟨ht, rfl⟩ | ⟨target, -, ht, -⟩
    · rw [List.countP_cons_of_neg (by simp [ht])]
      simp only [RegistrySnapshot.renewed?, ht]
      exact ⟨hframe, hold⟩
    · obtain ⟨huframe, huhold⟩ := enroll_holding h.scheduler.filed ht hu
      rw [huframe] at hframe hold
      refine ⟨?_, fun id' => ?_⟩
      · rw [hframe, List.countP_cons_of_pos (by simp [ht]), Nat.add_right_comm, Nat.add_assoc]
      · rw [hold id', huhold id']
        simp only [RegistrySnapshot.renewed?, ht]
        cases hn : snapshot.renewed? firstDue ids (r.frame.lastEpoch + 1) id' with
        | none =>
          rw [Option.none_or]
          by_cases hid : id' = id
          · rw [if_pos hid, if_pos hid, hid]
            rfl
          · rw [if_neg hid, if_neg hid]
        | some e =>
          rw [Option.some_or]
          by_cases hid : id' = id
          · rw [if_pos hid, hid]
            exact Holding.enroll_enroll _ _ ((hid ▸ RegistrySnapshot.renewed?_eq_some hn).1.symm)
          · rw [if_neg hid]

theorem announce_holding (r : Roster) (diff : RegistryDiff) (snapshot : RegistrySnapshot) :
    (r.announce diff snapshot).frame = { r.frame with total := Int.bmod snapshot.size (Nat.pow 2 64) } ∧
      ∀ id, (r.announce diff snapshot).holding id = if id ∈ diff.added then (r.holding id).announce else r.holding id := by
  have htotal : (r.announce diff snapshot).gauges.total = Int.bmod snapshot.size (Nat.pow 2 64) := by
    rw [announce, TargetMetrics.total_foldl_update, TargetMetrics.total_setTotal]
  refine ⟨?_, fun id => ?_⟩
  · rw [frame, htotal]
    rfl
  · have hshown : (r.announce diff snapshot).gauges.shown? id =
        if id ∈ diff.added then (some Status.unknown.gauge, some 1) else r.gauges.shown? id := by
      rw [announce, TargetMetrics.shown?_foldl_update, TargetMetrics.shown?_setTotal]
    split
    · rename_i hid
      exact Holding.ext rfl rfl rfl rfl (hshown.trans (if_pos hid))
    · rename_i hid
      exact Holding.ext rfl rfl rfl rfl (hshown.trans (if_neg hid))

variable {targets : List Target} {firstDue : TargetId → Instant} {diff : RegistryDiff} {snapshot : RegistrySnapshot}

theorem exists_next_of_reload (hr : r.reload targets firstDue = .ok (.ok (diff, r'))) :
    ∃ snapshot, r.registry.next targets = .ok (diff, snapshot) := by
  unfold reload at hr
  split at hr
  · cases hr
  · rename_i diff' snapshot hnext
    dsimp only at hr
    split at hr
    · cases hr
      exact ⟨snapshot, hnext⟩
    · obtain ⟨u, -, heq⟩ := exists_of_bind_eq_ok hr
      cases heq
      exact ⟨snapshot, hnext⟩

theorem reload_eq_ok_iff (hn : r.registry.next targets = .ok (diff, snapshot)) :
    r.reload targets firstDue = .ok (.ok (diff, r')) ↔
      if diff.isEmpty then r' = r.install snapshot
      else ∃ u, (r.install snapshot).follow diff snapshot firstDue = .ok u ∧ r' = u.announce diff snapshot := by
  simp only [reload, hn]
  split
  · exact ⟨fun h => by cases h; rfl, fun h => h ▸ rfl⟩
  · constructor
    · intro h
      obtain ⟨u, hu, heq⟩ := exists_of_bind_eq_ok h
      cases heq
      exact ⟨u, hu, rfl⟩
    · rintro ⟨u, hu, rfl⟩
      rw [hu]
      rfl

theorem reload_holding (h : r.Tidy) (ht : Monitor.checkTargets targets = .ok ())
    (hn : r.registry.next targets = .ok (diff, snapshot)) (hr : r.reload targets firstDue = .ok (.ok (diff, r'))) :
    r'.frame = r.frame.reload diff snapshot ∧
      ∀ id, r'.holding id = (r.holding id).reload r.frame diff snapshot firstDue id := by
  rw [reload_eq_ok_iff hn] at hr
  unfold Frame.reload
  split at hr
  · rename_i hempty
    rw [if_pos hempty, hr]
    exact ⟨rfl, fun id => (Holding.reload_of_not_touches _ _ (RegistryDiff.not_touches_of_isEmpty hempty id)).symm⟩
  · rename_i hempty
    obtain ⟨u, hu, rfl⟩ := hr
    have hpos := positive_of_build ht (Registry.next_eq_ok hn).1
    have hinstalled : (r.install snapshot).Tidy := h.step (.install r snapshot)
    have hremoved := hinstalled.steps (steps_foldl_discard diff.removed (r.install snapshot))
    obtain ⟨hframe, hold⟩ := foldl_discard_holding diff.removed hinstalled
    obtain ⟨hframe', hold'⟩ := foldlM_enroll_holding (diff.added ++ diff.changed) hremoved hpos hu
    obtain ⟨hframe'', hold''⟩ := u.announce_holding diff snapshot
    rw [hframe] at hframe' hold'
    rw [if_neg hempty, hframe'', hframe']
    refine ⟨rfl, fun id => ?_⟩
    rw [hold'', hold', hold]
    rfl

/-- Whether memory can be had for a target depends on the window that the policy asks for and on whether the store tracks
the target already. -/
structure Alike (r u : Roster) : Prop where
  policy : u.store.policy = r.store.policy
  tracked : ∀ id, (u.store.snapshot? id).isSome = (r.store.snapshot? id).isSome

theorem Alike.discard (h : Alike r u) (id : TargetId) : Alike (r.discard id) (u.discard id) := by
  refine ⟨h.policy, fun id' => ?_⟩
  have hremove (s : StateStore) : ((s.remove id).snapshot? id').isSome =
      if id' = id then false else (s.snapshot? id').isSome := by
    rw [StateStore.snapshot?_remove]
    split <;> rfl
  exact (hremove u.store).trans ((ite_congr rfl (fun _ => rfl) fun _ => h.tracked id').trans (hremove r.store).symm)

theorem Alike.enroll {due : Instant} (h : Alike r u) (he : r.enroll snapshot due id = .ok r') :
    ∃ u', u.enroll snapshot due id = .ok u' ∧ Alike r' u' := by
  cases ht : snapshot.get? id with
  | none =>
    simp only [Roster.enroll, ht] at he ⊢
    cases he
    exact ⟨u, rfl, h⟩
  | some target =>
    obtain ⟨store, hst, rfl⟩ := enroll_eq_ok ht he
    have hregister : ∃ store', u.store.register id = .ok store' := by
      have hcontains : u.store.states.contains id = r.store.states.contains id := h.tracked id
      unfold StateStore.register at hst ⊢
      rw [hcontains, h.policy]
      split at hst
      · exact ⟨u.store, if_pos ‹_›⟩
      · obtain ⟨window, hw, -⟩ := exists_of_bind_eq_ok hst
        rw [if_neg ‹_›, hw]
        exact ⟨_, rfl⟩
    obtain ⟨store', hst'⟩ := hregister
    refine ⟨_, by simp only [Roster.enroll, ht, hst']; rfl, ?_, fun id' => ?_⟩
    · exact (StateStore.policy_register hst').trans (h.policy.trans (StateStore.policy_register hst).symm)
    · dsimp only
      rw [StateStore.snapshot?_register hst', StateStore.snapshot?_register hst]
      split
      · rfl
      · exact h.tracked id'

theorem Alike.foldl_discard (ids : List TargetId) (h : Alike r u) :
    Alike (ids.foldl Roster.discard r) (ids.foldl Roster.discard u) := by
  induction ids generalizing r u with
  | nil => exact h
  | cons id ids ih => exact ih (h.discard id)

theorem Alike.foldlM_enroll (ids : List TargetId) (h : Alike r u)
    (he : ids.foldlM (fun r id => r.enroll snapshot (firstDue id) id) r = .ok r') :
    ∃ u', ids.foldlM (fun r id => r.enroll snapshot (firstDue id) id) u = .ok u' := by
  induction ids generalizing r u with
  | nil => exact ⟨u, rfl⟩
  | cons id ids ih =>
    rw [List.foldlM_cons] at he ⊢
    obtain ⟨v, hv, he⟩ := exists_of_bind_eq_ok he
    obtain ⟨w, hw, halike⟩ := h.enroll hv
    rw [hw]
    exact ih halike he

/-- A reload is accepted of every roster that has the same targets and tracks the same ones. -/
theorem Alike.reload (h : Alike r u) (hreg : u.registry = r.registry)
    (hr : r.reload targets firstDue = .ok (.ok (diff, r'))) :
    ∃ u', u.reload targets firstDue = .ok (.ok (diff, u')) := by
  obtain ⟨snapshot, hn⟩ := exists_next_of_reload hr
  rw [reload_eq_ok_iff hn] at hr
  simp only [reload_eq_ok_iff (r := u) (hreg ▸ hn)]
  split at hr
  · rename_i hempty
    exact ⟨u.install snapshot, by rw [if_pos hempty]⟩
  · rename_i hempty
    obtain ⟨v, hv, -⟩ := hr
    have hinstalled : Alike (r.install snapshot) (u.install snapshot) := ⟨h.policy, h.tracked⟩
    obtain ⟨w, hw⟩ := (hinstalled.foldl_discard diff.removed).foldlM_enroll _ hv
    refine ⟨w.announce diff snapshot, ?_⟩
    rw [if_neg hempty]
    exact ⟨w, hw, rfl⟩

end Roster

end TargetHealth
