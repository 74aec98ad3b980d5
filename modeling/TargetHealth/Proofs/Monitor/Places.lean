import TargetHealth.Proofs.Monitor.Steps

namespace TargetHealth

namespace Scheduler

variable {s t : Scheduler} {id : TargetId} {P Q : TargetId → Prop}

/-- A schedule in which certain targets have an entry and no place in the due queue, and all others have both or neither. -/
structure Lacks (P : TargetId → Prop) (s : Scheduler) : Prop where
  places : ∀ id e, s.entry? id = some e → ((e.nextDue, id) ∈ s.queue ↔ ¬ P id)
  known : ∀ id, P id → (s.entry? id).isSome

theorem Lacks.congr (h : s.Lacks P) (hiff : ∀ id, P id ↔ Q id) : s.Lacks Q where
  places id e he := (h.places id e he).trans (not_congr (hiff id))
  known id hid := h.known id ((hiff id).mpr hid)

theorem Lacks.of_eq (h : s.Lacks P) (he : t.entries = s.entries) (hq : t.queue = s.queue) : t.Lacks P where
  places id e hid := by
    rw [Scheduler.entry?, he] at hid
    rw [hq]
    exact h.places id e hid
  known id hid := by
    rw [Scheduler.entry?, he]
    exact h.known id hid

theorem Queued.lacks (h : s.Queued) : s.Lacks fun _ => False where
  places id e he := by simpa using (h.mem_queue_iff e.nextDue id).mpr ⟨e, he, rfl⟩
  known _ hid := hid.elim

theorem Lacks.remove (h : s.Lacks P) (hf : s.Filed) (id : TargetId) : (s.remove id).Lacks fun id' => P id' ∧ id' ≠ id where
  places id' e he := by
    rw [entry?_remove] at he
    split at he
    · cases he
    · rename_i hne
      rw [hf.mem_queue_remove_iff, h.places id' e he]
      simp [hne]
  known id' hid := by
    rw [entry?_remove, if_neg hid.2]
    exact h.known id' hid.1

theorem Lacks.insert (h : s.Lacks P) (hf : s.Filed) (id : TargetId) (base : Duration) (due : Instant) :
    (s.insert id base due).Lacks fun id' => P id' ∧ id' ≠ id where
  places id' e he := by
    rw [entry?_insert] at he
    rw [hf.mem_queue_insert_iff]
    split at he
    · rename_i hid
      cases he
      simp [hid]
    · rename_i hne
      rw [h.places id' e he]
      simp [hne]
  known id' hid := by
    rw [entry?_insert, if_neg hid.2]
    exact h.known id' hid.1

theorem Lacks.reschedule {now : Instant} {multiplier : Nat} {entry : Option ScheduleEntry} (h : s.Lacks P) (hf : s.Filed)
    (hp : ¬ P id) (hr : s.reschedule id now multiplier = .ok (entry, t)) : t.Lacks P := by
  rcases reschedule_eq_ok hr with ⟨-, -, rfl⟩ | ⟨e, e', he, -, -, -, ht⟩
  · exact h
  · have hentries : t.entries = s.entries.insert id e' := congrArg Scheduler.entries ht
    have hqueue : t.queue = DueQueue.insert (e'.nextDue, id) (DueQueue.erase (e.nextDue, id) s.queue) :=
      congrArg Scheduler.queue ht
    refine ⟨fun id' f hid => ?_, fun id' hid => ?_⟩
    · rw [entry?_insert_entry hentries] at hid
      rw [hqueue, DueQueue.mem_insert_iff, hf.mem_erase_iff he]
      split at hid
      · rename_i heq
        cases hid
        simp [heq, hp]
      · rename_i hne
        rw [h.places id' f hid]
        simp [hne]
    · have hne : id' ≠ id := fun heq => hp (heq ▸ hid)
      rw [entry?_insert_entry hentries, if_neg hne]
      exact h.known id' hid

theorem Lacks.interrupt (h : s.Lacks P) (hf : s.Filed) (he : (s.entry? id).isSome) (multiplier : Nat) :
    (s.interrupt id multiplier).Lacks fun id' => P id' ∨ id' = id := by
  obtain ⟨e, he⟩ := Option.isSome_iff_exists.mp he
  unfold Scheduler.interrupt
  rw [he]
  refine ⟨fun id' f hid => ?_, fun id' hid => ?_⟩
  · rw [entry?_insert_entry rfl] at hid
    rw [hf.mem_erase_iff he]
    split at hid
    · rename_i heq
      simp [heq]
    · rename_i hne
      rw [h.places id' f hid]
      simp [hne]
  · rw [entry?_insert_entry rfl]
    split
    · rfl
    · rename_i hne
      exact h.known id' (hid.resolve_right hne)

/-- A schedule that has lost entries and has got others anew. Who lacked a place and has kept the entry lacks it still. -/
structure Follows (P : TargetId → Prop) (s t : Scheduler) : Prop where
  filed : t.Filed
  lastEpoch : s.lastEpoch ≤ t.lastEpoch
  lacks : t.Lacks fun id => P id ∧ t.epoch? id = s.epoch? id

theorem Follows.remove (h : Follows P s t) (hknown : ∀ id, P id → (s.epoch? id).isSome) (id : TargetId) :
    Follows P s (t.remove id) where
  filed := h.filed.remove id
  lastEpoch := lastEpoch_remove t id ▸ h.lastEpoch
  lacks := by
    refine (h.lacks.remove h.filed id).congr fun id' => ?_
    rw [epoch?_remove]
    split
    · rename_i hid
      refine iff_of_false (fun hid' => hid'.2 hid) fun hid' => ?_
      have hsome := hknown id' hid'.1
      rw [← hid'.2] at hsome
      cases hsome
    · rename_i hne
      exact and_iff_left hne

theorem Follows.insert (h : Follows P s t) (hopened : ∀ id n, s.epoch? id = some n → n ≤ s.lastEpoch) (id : TargetId)
    {base : Duration} (hbase : 0 < base.nanos) (due : Instant) : Follows P s (t.insert id base due) where
  filed := h.filed.insert id hbase due
  lastEpoch := lastEpoch_insert t id base due ▸ h.lastEpoch.trans (Nat.le_succ _)
  lacks := by
    refine (h.lacks.insert h.filed id base due).congr fun id' => ?_
    rw [epoch?_insert]
    split
    · rename_i hid
      refine iff_of_false (fun hid' => hid'.2 hid) fun hid' => ?_
      exact absurd (h.lastEpoch.trans_lt (Nat.lt_succ_self _)) (hopened id' _ hid'.2.symm).not_gt
    · rename_i hne
      exact and_iff_left hne

theorem nodup_slots (h : s.entries.Ascending) : s.slots.Nodup := by
  have hids : (s.slots.map Prod.snd).Nodup := by
    rw [slots, List.map_map]
    exact h.nodup
  exact hids.of_map _

theorem Lacks.perm_filter {ids : List TargetId} (h : s.Lacks (· ∈ ids)) (hf : s.Filed) (ha : s.entries.Ascending) :
    s.queue.Perm (s.slots.filter fun slot => slot.2 ∉ ids) := by
  refine (List.perm_ext_iff_of_nodup (DueQueue.nodup_of_pairwise hf.sorted) ((nodup_slots ha).filter _)).mpr ?_
  rintro ⟨time, id⟩
  rw [List.mem_filter, mem_slots_iff ha, decide_eq_true_eq]
  constructor
  · intro hplace
    obtain ⟨e, he, rfl⟩ := hf.placed time id hplace
    exact ⟨⟨e, he, rfl⟩, (h.places id e he).mp hplace⟩
  · rintro ⟨⟨e, he, rfl⟩, hid⟩
    exact (h.places id e he).mpr hid

theorem Lacks.perm_iff {ids : List TargetId} (h : s.Lacks (· ∈ ids)) (hf : s.Filed) (ha : s.entries.Ascending) :
    s.queue.Perm s.slots ↔ ids = [] := by
  constructor
  · intro hperm
    refine List.eq_nil_iff_forall_not_mem.mpr fun id hid => ?_
    obtain ⟨e, he⟩ := Option.isSome_iff_exists.mp (h.known id hid)
    have hslot : (e.nextDue, id) ∈ s.slots := (mem_slots_iff ha _ _).mpr ⟨e, he, rfl⟩
    exact (h.places id e he).mp (hperm.mem_iff.mpr hslot) hid
  · rintro rfl
    simpa using h.perm_filter hf ha

end Scheduler

namespace Roster

variable {r r' : Roster} {P : TargetId → Prop}

/-- Some targets lack their place in the due queue, and are not in flight under their epochs. -/
structure Strands (P : TargetId → Prop) (r : Roster) : Prop where
  lacks : r.scheduler.Lacks P
  idle : ∀ id n, P id → r.scheduler.inFlight.get? id = some n → r.scheduler.epoch? id ≠ some n

theorem Strands.congr {Q : TargetId → Prop} (h : r.Strands P) (hiff : ∀ id, P id ↔ Q id) : r.Strands Q :=
  ⟨h.lacks.congr hiff, fun id n hid => h.idle id n ((hiff id).mpr hid)⟩

theorem Strands.isSome_epoch? (h : r.Strands P) (id : TargetId) (hid : P id) : (r.scheduler.epoch? id).isSome := by
  rw [Scheduler.epoch?, Option.isSome_map]
  exact h.lacks.known id hid

theorem Strands.dispatchDue (h : r.Strands P) (ha : r.Aligned) (hf : r.scheduler.Filed) (now : Instant) :
    (r.dispatchDue now).2.Strands P := by
  have hkeeps := ha.dispatchDue_eq now
  refine ⟨h.lacks.of_eq (congrArg (·.scheduler.entries) hkeeps) (congrArg (·.scheduler.queue) hkeeps), ?_⟩
  intro id n hid hm
  rw [congrArg (·.scheduler.epoch? id) hkeeps]
  rcases (ha.inFlight_dispatchDue_iff (hf.nodup_due now) n).mp hm with ⟨hdue, -⟩ | hold
  · obtain ⟨time, hplace, -⟩ := (hf.mem_due_iff now id).mp hdue
    obtain ⟨e, he, rfl⟩ := hf.placed time id hplace
    exact absurd hid ((h.lacks.places id e he).mp hplace)
  · exact h.idle id n hid hold

theorem Strands.complete {c : Completion} (h : r.Strands P) (hf : r.scheduler.Filed)
    (hm : r.scheduler.inFlight.get? c.result.targetId = some c.epoch) (now : Instant) :
    (r.complete c now).2.Strands fun id => P id ∨ (r.complete c now).1.isSome ∧ id = c.result.targetId := by
  have hidle (id : TargetId) (n : Nat) (hid : P id ∨ (r.complete c now).1.isSome ∧ id = c.result.targetId)
      (hmark : (r.complete c now).2.scheduler.inFlight.get? id = some n) :
      (r.complete c now).2.scheduler.epoch? id ≠ some n := by
    rw [inFlight_complete hm, Table.get?_erase] at hmark
    rw [epoch?_complete hm]
    split at hmark
    · cases hmark
    · rename_i hne
      exact h.idle id n (hid.resolve_right fun hid => hne hid.2) hmark
  refine ⟨?_, hidle⟩
  by_cases he : r.scheduler.epoch? c.result.targetId = some c.epoch
  · have hp : ¬ P c.result.targetId := fun hp => h.idle _ _ hp hm he
    obtain ⟨u, -, hsch, -, heq⟩ := complete_eq_reschedule hm he
    have hu : u.scheduler.Filed := hsch ▸ hf.withMarks _
    have hlacks : u.scheduler.Lacks P := hsch ▸ h.lacks.of_eq rfl rfl
    have hknown : (u.scheduler.entry? c.result.targetId).isSome := by
      rw [hsch]
      exact (Option.isSome_map (f := ScheduleEntry.epoch)).symm.trans (Option.isSome_of_eq_some he)
    rw [heq]
    unfold Roster.reschedule
    split
    · rename_i hr
      exact (hlacks.reschedule hu hp hr).congr fun id => by simp
    · exact (hlacks.interrupt hu hknown _).congr fun id => by simp
  · have hold : (r.withMarks (r.scheduler.inFlight.erase c.result.targetId)).scheduler.Lacks P := h.lacks.of_eq rfl rfl
    rw [complete_of_stale hm he]
    exact hold.congr fun id => by simp

section Reload

variable {targets : List Target} {firstDue : TargetId → Instant}

theorem Strands.follows_install (h : r.Strands P) (hf : r.scheduler.Filed) (snapshot : RegistrySnapshot)
    (ids : List TargetId) : r.scheduler.Follows P (ids.foldl discard (r.install snapshot)).scheduler := by
  have hstart : r.scheduler.Follows P (r.install snapshot).scheduler :=
    ⟨hf, Nat.le_refl _, h.lacks.congr fun id => (and_iff_left rfl).symm⟩
  exact List.foldlRecOn (motive := fun u : Roster => r.scheduler.Follows P u.scheduler) ids _ hstart
    fun _ hu id _ => hu.remove h.isSome_epoch? id

theorem withstands_follows {snapshot : RegistrySnapshot} (hpos : ∀ id t, snapshot.get? id = some t → 0 < t.interval.nanos)
    (ha : r.Aligned) (firstDue : TargetId → Instant) :
    Withstands snapshot firstDue fun u => r.scheduler.Follows P u.scheduler where
  schedule _ id t ht hu := hu.insert ha.opened id (hpos id t ht) (firstDue id)
  register _ _ _ _ _ _ hu := hu

theorem Strands.of_follows (h : r.Strands P) (hf : r.scheduler.Follows P r'.scheduler)
    (hm : r'.scheduler.inFlight = r.scheduler.inFlight) :
    r'.Strands fun id => P id ∧ r'.scheduler.epoch? id = r.scheduler.epoch? id where
  lacks := hf.lacks
  idle id n hid hmark := hid.2 ▸ h.idle id n hid.1 (hm ▸ hmark)

/-- A reload leaves a target without its place exactly if it leaves its entry alone. -/
theorem Strands.reload {diff : RegistryDiff} (h : r.Strands P) (hf : r.scheduler.Filed) (ha : r.Aligned)
    (ht : Monitor.checkTargets targets = .ok ()) (hr : r.reload targets firstDue = .ok (.ok (diff, r'))) :
    r'.Strands fun id => P id ∧ r'.scheduler.epoch? id = r.scheduler.epoch? id := by
  refine h.of_follows ?_ (reloads_reload hr).inFlight
  obtain ⟨snapshot, hb, rfl, ⟨-, rfl⟩ | ⟨u, hu, rfl⟩⟩ := reload_eq_ok hr
  · exact h.follows_install hf snapshot []
  · have hfollows := (withstands_follows (positive_of_build ht hb) ha firstDue).follow hu (h.follows_install hf snapshot _)
    exact hfollows

theorem Strands.interruptReload {fault : Fault} (h : r.Strands P) (hf : r.scheduler.Filed) (ha : r.Aligned)
    (ht : Monitor.checkTargets targets = .ok ()) (hr : r.reload targets firstDue = .error fault) :
    (r.interruptReload targets firstDue).Strands fun id =>
      P id ∧ (r.interruptReload targets firstDue).scheduler.epoch? id = r.scheduler.epoch? id := by
  refine h.of_follows ?_ (reschedules_interruptReload hr).inFlight
  obtain ⟨snapshot, hb, -, heq⟩ := interruptReload_eq hr
  rw [heq]
  exact (withstands_follows (positive_of_build ht hb) ha firstDue).enrollSome _ _ (h.follows_install hf snapshot _)

end Reload

end Roster

namespace Monitor

/-- The targets without a place in the due queue after an event, if `ids` are those before it. A target loses its place when
a report of its probe is processed and its next due time lies past the end of the clock. It is out of the list once a
reload makes its entry anew or takes it out. -/
def Event.unplaced (m : Monitor) (now : Instant) (ids : List TargetId) : Event → List TargetId
  | .complete =>
    match m.executor.completions with
    | [] => ids
    | c :: _ => if (m.roster.complete c now).1.isSome then c.result.targetId :: ids else ids
  | .reload targets pick =>
    let after := (m.react now (.reload targets pick)).roster.scheduler
    ids.filter fun id => after.epoch? id = m.roster.scheduler.epoch? id
  | _ => ids

/-- The targets without a place in the due queue after a course. -/
def unplaced (m : Monitor) (ids : List TargetId) : Course → List TargetId
  | [] => ids
  | (now, e) :: es => unplaced (m.react now e) (e.unplaced m now ids) es

end Monitor

namespace Chronicle

variable {k : Chronicle} {ids : List TargetId}

theorem Matched.strands_react (hm : k.Matched) (hf : k.monitor.roster.scheduler.Filed)
    (h : k.monitor.roster.Strands (· ∈ ids)) (now : Instant) (e : Monitor.Event) :
    (k.react now e).monitor.roster.Strands (· ∈ e.unplaced k.monitor now ids) := by
  cases e with
  | dispatch => exact h.dispatchDue hm.aligned hf now
  | complete =>
    cases hc : k.monitor.executor.completions with
    | nil =>
      rw [react_complete_of_nil hc, Monitor.Event.unplaced, hc]
      exact h
    | cons c unread =>
      have hafter := h.complete hf (hm.get?_of_mem (hc ▸ List.mem_cons_self)) now
      rw [react_complete_of_cons hc, Monitor.Event.unplaced, hc]
      refine hafter.congr fun id => ?_
      dsimp only
      split
      · rename_i hfault
        simp [hfault, or_comm]
      · rename_i hfault
        simp [hfault]
  | reload targets pick =>
    have hafter : (k.react now (.reload targets pick)).monitor.roster.Strands fun id => id ∈ ids ∧
        (k.react now (.reload targets pick)).monitor.roster.scheduler.epoch? id =
          k.monitor.roster.scheduler.epoch? id := by
      rcases k.react_reload now targets pick with ⟨diff, m, hr, heq⟩ | ⟨-, -, heq⟩ | ⟨fault, hr, heq⟩
      · rw [heq]
        exact h.reload hf hm.aligned (Monitor.checkTargets_of_reload hr) (Monitor.reload_eq_ok hr).1
      · rw [heq]
        exact h.congr fun id => (and_iff_left rfl).symm
      · obtain ⟨ht, hroster⟩ := Monitor.reload_eq_error hr
        rw [heq]
        exact h.interruptReload hf hm.aligned ht hroster
    refine hafter.congr fun id => ?_
    rw [Monitor.Event.unplaced, List.mem_filter, decide_eq_true_eq]
    rfl
  | cancel | turn number | halt phase | arrange phase stopRequested scheduleChanged agenda => exact h

theorem Matched.strands_run (hm : k.Matched) (ht : k.monitor.roster.Tidy) (h : k.monitor.roster.Strands (· ∈ ids))
    (es : Monitor.Course) : (k.run es).monitor.roster.Strands (· ∈ k.monitor.unplaced ids es) := by
  induction es generalizing k ids with
  | nil => exact h
  | cons e es ih =>
    exact ih (hm.react e.1 e.2) (ht.steps (k.monitor.steps_react e.1 e.2))
      (hm.strands_react ht.scheduler.filed h e.1 e.2)

end Chronicle

namespace Monitor

theorem strands_run {now : Instant} {prober : Prober} {settings : Settings} {targets : List Target}
    {pick : TargetId → Nat} {m : Monitor} (hm : start (some now) prober settings targets pick = .ok (.ok m))
    (es : Course) :
    (m.run es).roster.Strands (· ∈ m.unplaced [] es) := by
  have hqueued : m.roster.scheduler.Lacks fun id => id ∈ ([] : List TargetId) :=
    (viewed_of_start hm).queued.lacks.congr fun id => by simp
  have hrun := (Chronicle.matched_ofStart hm).strands_run (tidy_of_start hm) ⟨hqueued, fun _ _ hid => nomatch hid⟩ es
  rwa [Chronicle.monitor_run] at hrun

end Monitor

end TargetHealth
