import TargetHealth.Proofs.Monitor.Alignment
import TargetHealth.Proofs.Monitor.Course

namespace TargetHealth

namespace Happening

def dispatched? : Happening → Option ProbeLabel
  | dispatched probe => some probe
  | _ => none

def processed? : Happening → Option ProbeLabel
  | processed c => some c.label
  | _ => none

def lost? : Happening → Option ProbeLabel
  | lost probe => some probe
  | _ => none

end Happening

open Happening

def dispatchedIn (past : List Happening) : List ProbeLabel := past.filterMap dispatched?

def processedIn (past : List Happening) : List ProbeLabel := past.filterMap processed?

def lostIn (past : List Happening) : List ProbeLabel := past.filterMap lost?

theorem filterMap_record {α : Type} {f : Happening → Option ProbeLabel} {g : α → Happening} {label : α → ProbeLabel}
    (h : ∀ a, f (g a) = some (label a)) (as : List α) (past : List Happening) :
    (((as.map g).reverse ++ past).filterMap f : Multiset ProbeLabel) =
      (as.map label : Multiset ProbeLabel) + (past.filterMap f : Multiset ProbeLabel) := by
  have hmap : (as.map g).filterMap f = as.map label := by
    rw [List.filterMap_map, ← List.filterMap_eq_map]
    exact List.filterMap_congr fun a _ => h a
  rw [List.filterMap_append, List.filterMap_reverse, hmap, ← Multiset.coe_add, Multiset.coe_reverse]

theorem filterMap_record_of_none {α : Type} {f : Happening → Option ProbeLabel} {g : α → Happening}
    (h : ∀ a, f (g a) = none) (as : List α) (past : List Happening) :
    ((as.map g).reverse ++ past).filterMap f = past.filterMap f := by
  have hnil : (as.map g).filterMap f = [] := by
    rw [List.filterMap_map]
    exact List.filterMap_eq_nil_iff.mpr fun a _ => h a
  rw [List.filterMap_append, List.filterMap_reverse, hnil, List.reverse_nil, List.nil_append]

namespace Executor

theorem Numbered.foldl_dispatch (batch : List (Target × Nat)) (now : Instant) {x : Executor} (h : x.Numbered) :
    (batch.foldl (fun x b => x.dispatch b.1 b.2 now) x).Numbered := by
  induction batch generalizing x with
  | nil => exact h
  | cons b batch ih => exact ih (h.dispatch b.1 b.2 now)

theorem halted_foldl_dispatch (batch : List (Target × Nat)) (now : Instant) {x : Executor} (h : x.Numbered) :
    (batch.foldl (fun x b => x.dispatch b.1 b.2 now) x).halted = x.halted := by
  induction batch generalizing x with
  | nil => rfl
  | cons b batch ih => exact (ih (h.dispatch b.1 b.2 now)).trans (halted_dispatch h b.1 b.2 now)

theorem accounted_foldl_dispatch (batch : List (Target × Nat)) (now : Instant) {x : Executor} (h : x.Numbered) :
    (batch.foldl (fun x b => x.dispatch b.1 b.2 now) x).accounted =
      (batch.map batchLabel : Multiset ProbeLabel) + x.accounted := by
  induction batch generalizing x with
  | nil => simp
  | cons b batch ih =>
    rw [List.foldl_cons, ih (h.dispatch b.1 b.2 now), accounted_dispatch h, List.map_cons, ← Multiset.cons_coe,
      Multiset.cons_add, Multiset.add_cons]
    rfl

end Executor

theorem Roster.Aligned.dispatchDue {r : Roster} (h : r.Aligned) (now : Instant) :
    (r.dispatchDue now).2.Aligned ∧
      ((r.dispatchDue now).2.scheduler.inFlight.entries : Multiset ProbeLabel) =
        ((r.dispatchDue now).1.map batchLabel : Multiset ProbeLabel) +
          (r.scheduler.inFlight.entries : Multiset ProbeLabel) := by
  refine dispatchAll_induction (P := fun batch u => u.Aligned ∧
    (u.scheduler.inFlight.entries : Multiset ProbeLabel) =
      (batch.map batchLabel : Multiset ProbeLabel) + (r.scheduler.inFlight.entries : Multiset ProbeLabel))
    ?_ (r.scheduler.due now) [] r ⟨h, by simp⟩
  rintro batch u id ⟨hu, hmarks⟩
  rcases hu.dispatchOne id with heq | ⟨t, n, rfl, he, hf, heq⟩
  · rw [heq]
    exact ⟨hu, by simpa using hmarks⟩
  · rw [heq]
    refine ⟨hu.insert_mark he hf, ?_⟩
    have hadd : ((u.scheduler.inFlight.insert t.id n).entries : Multiset ProbeLabel) =
        (t.id, n) ::ₘ (u.scheduler.inFlight.entries : Multiset ProbeLabel) := Table.entries_insert _ _ n hf
    rw [withMarks, hadd, hmarks, Option.toList_some, List.map_append, ← Multiset.coe_add, add_right_comm,
      List.map_singleton, Multiset.coe_singleton, ← Multiset.singleton_add, add_comm]
    rfl

namespace Chronicle

/-- The marks are the probes that are accounted for and the lost ones, and together with the processed ones they are all
that were dispatched. Whoever was aborted is lost. -/
structure Matched (k : Chronicle) : Prop where
  aligned : k.monitor.roster.Aligned
  numbered : k.monitor.executor.Numbered
  marks : (k.monitor.roster.scheduler.inFlight.entries : Multiset ProbeLabel) =
    k.monitor.executor.accounted + (lostIn k.past : Multiset ProbeLabel)
  balance : (dispatchedIn k.past : Multiset ProbeLabel) =
    (k.monitor.roster.scheduler.inFlight.entries : Multiset ProbeLabel) + (processedIn k.past : Multiset ProbeLabel)
  halted : k.monitor.executor.halted ≤ (lostIn k.past : Multiset ProbeLabel)

variable {k : Chronicle}

/-- Every task, and every completion that has not been read, bears the label of a mark of its own. -/
theorem Matched.le_marks (h : k.Matched) :
    (k.monitor.executor.tasks.map ProbeTask.label : Multiset ProbeLabel) + k.monitor.executor.unread ≤
      (k.monitor.roster.scheduler.inFlight.entries : Multiset ProbeLabel) := by
  rw [h.marks, ← k.monitor.executor.pending_add_halted, Executor.accounted, add_right_comm]
  exact Multiset.add_le_add_left h.halted

theorem Matched.get?_of_label (h : k.Matched) {probe : ProbeLabel}
    (hp : probe ∈ (k.monitor.executor.tasks.map ProbeTask.label : Multiset ProbeLabel) + k.monitor.executor.unread) :
    k.monitor.roster.scheduler.inFlight.get? probe.1 = some probe.2 :=
  (Table.get?_eq_some_iff h.aligned.unique _ _).mpr (Multiset.mem_coe.mp (Multiset.mem_of_le h.le_marks hp))

theorem Matched.get?_of_mem (h : k.Matched) {c : Completion} (hc : c ∈ k.monitor.executor.completions) :
    k.monitor.roster.scheduler.inFlight.get? c.result.targetId = some c.epoch :=
  h.get?_of_label (Multiset.mem_add.mpr (.inr (Multiset.mem_coe.mpr (List.mem_map_of_mem hc))))

theorem Matched.get?_of_task (h : k.Matched) {t : ProbeTask} (ht : t ∈ k.monitor.executor.tasks) :
    k.monitor.roster.scheduler.inFlight.get? t.target.id = some t.epoch :=
  h.get?_of_label (Multiset.mem_add.mpr (.inl (Multiset.mem_coe.mpr (List.mem_map_of_mem ht))))

theorem Matched.nodup_accounted (h : k.Matched) : (k.monitor.executor.accounted.map Prod.fst).Nodup := by
  have hle : k.monitor.executor.accounted ≤ (k.monitor.roster.scheduler.inFlight.entries : Multiset ProbeLabel) :=
    h.marks ▸ Multiset.le_add_right _ _
  exact Multiset.nodup_of_le (Multiset.map_le_map hle) h.aligned.unique

theorem Matched.nodup_ids (h : k.Matched) :
    (k.monitor.executor.tasks.map (fun t => t.target.id) ++
      k.monitor.executor.completions.map (fun c => c.result.targetId)).Nodup := by
  have hmarks : ((k.monitor.roster.scheduler.inFlight.entries : Multiset ProbeLabel).map Prod.fst).Nodup := h.aligned.unique
  have hnodup := Multiset.nodup_of_le (Multiset.map_le_map h.le_marks) hmarks
  rw [Executor.unread, Multiset.map_add, Multiset.map_coe, Multiset.map_coe, List.map_map, List.map_map, Multiset.coe_add,
    Multiset.coe_nodup] at hnodup
  exact hnodup

theorem Matched.eq_of_tasks (h : k.Matched) {t u : ProbeTask} (ht : t ∈ k.monitor.executor.tasks)
    (hu : u ∈ k.monitor.executor.tasks) (hid : u.target.id = t.target.id) : u = t :=
  List.inj_on_of_nodup_map (List.nodup_append.mp h.nodup_ids).1 hu ht hid

theorem Matched.eq_of_completions (h : k.Matched) {c c' : Completion} (hc : c ∈ k.monitor.executor.completions)
    (hc' : c' ∈ k.monitor.executor.completions) (hid : c'.result.targetId = c.result.targetId) : c' = c :=
  List.inj_on_of_nodup_map (List.nodup_append.mp h.nodup_ids).2.1 hc' hc hid

theorem Matched.ne_of_task_of_completion (h : k.Matched) {t : ProbeTask} {c : Completion}
    (ht : t ∈ k.monitor.executor.tasks) (hc : c ∈ k.monitor.executor.completions) :
    c.result.targetId ≠ t.target.id := fun hid =>
  (List.nodup_append.mp h.nodup_ids).2.2 t.target.id (List.mem_map.mpr ⟨t, ht, rfl⟩) c.result.targetId
    (List.mem_map.mpr ⟨c, hc, rfl⟩) hid.symm

theorem Matched.dispatch (h : k.Matched) (now : Instant) : (k.react now .dispatch).Matched := by
  obtain ⟨ha, hmarks⟩ := h.aligned.dispatchDue now
  refine ⟨ha, h.numbered.foldl_dispatch _ now, ?_, ?_, ?_⟩
  · simp only [react, Monitor.react, Monitor.dispatchDue, Monitor.happenings, lostIn]
    rw [filterMap_record_of_none fun _ => rfl, hmarks, Executor.accounted_foldl_dispatch _ now h.numbered, h.marks, add_assoc]
    rfl
  · simp only [react, Monitor.react, Monitor.dispatchDue, Monitor.happenings, dispatchedIn, processedIn]
    rw [filterMap_record fun _ => rfl, filterMap_record_of_none fun _ => rfl, hmarks, add_assoc]
    exact congrArg _ h.balance
  · simp only [react, Monitor.react, Monitor.dispatchDue, Monitor.happenings, lostIn]
    rw [filterMap_record_of_none fun _ => rfl, Executor.halted_foldl_dispatch _ now h.numbered]
    exact h.halted

theorem react_complete_of_nil (hc : k.monitor.executor.completions = []) (now : Instant) : k.react now .complete = k := by
  simp only [react, Monitor.react, Monitor.happenings, hc, List.take_nil, List.map_nil, List.reverse_nil, List.nil_append]

theorem react_complete_of_cons {c : Completion} {unread : List Completion}
    (hc : k.monitor.executor.completions = c :: unread) (now : Instant) :
    k.react now .complete = ⟨{ k.monitor with
      roster := (k.monitor.roster.complete c now).2
      executor := { k.monitor.executor with completions := unread } }, .processed c :: k.past⟩ := by
  simp only [react, Monitor.react, Monitor.happenings, hc]
  rfl

theorem Matched.complete (h : k.Matched) (now : Instant) : (k.react now .complete).Matched := by
  cases hc : k.monitor.executor.completions with
  | nil => exact (react_complete_of_nil hc now).symm ▸ h
  | cons c unread =>
    have hget := h.get?_of_mem (hc ▸ List.mem_cons_self)
    have hread := k.monitor.executor.accounted_read
    rw [hc, add_comm] at hread
    have herase := Table.entries_erase _ _ _ h.aligned.unique hget
    rw [react_complete_of_cons hc]
    refine ⟨h.aligned.complete hget now, h.numbered.of_tasks rfl rfl rfl, ?_, ?_, h.halted⟩
    · refine (Multiset.cons_inj_right c.label).mp ?_
      dsimp only
      rw [Roster.inFlight_complete hget, ← Multiset.cons_add]
      exact herase.symm.trans (h.marks.trans (congrArg (· + _) hread))
    · dsimp only
      have hp : processedIn (.processed c :: k.past) = c.label :: processedIn k.past := rfl
      rw [Roster.inFlight_complete hget, hp, ← Multiset.cons_coe, Multiset.add_cons, ← Multiset.cons_add]
      exact h.balance.trans (congrArg (· + _) herase)

theorem Matched.reload (h : k.Matched) (now : Instant) (targets : List Target) (pick : TargetId → Nat) :
    (k.react now (.reload targets pick)).Matched := by
  rcases k.react_reload now targets pick with ⟨diff, m, hm, heq⟩ | ⟨-, -, heq⟩ | ⟨fault, hm, heq⟩
  · obtain ⟨hroster, agenda, hx⟩ := Monitor.reload_eq_ok hm
    have hr := Roster.reloads_reload hroster
    rw [heq]
    refine ⟨h.aligned.reload hroster, hx ▸ h.numbered.of_tasks rfl rfl rfl, ?_, ?_, hx ▸ h.halted⟩
    · dsimp only
      rw [hr.inFlight, hx]
      exact h.marks
    · dsimp only
      rw [hr.inFlight]
      exact h.balance
  · rwa [heq]
  · have hroster := (Monitor.reload_eq_error hm).2
    have hmarks : (k.monitor.interruptReload targets now pick).roster.scheduler.inFlight = _ :=
      (Roster.reschedules_interruptReload hroster).inFlight
    rw [heq]
    refine ⟨h.aligned.interruptReload hroster, h.numbered, ?_, ?_, h.halted⟩
    · rw [hmarks]
      exact h.marks
    · rw [hmarks]
      exact h.balance

theorem Matched.turn (h : k.Matched) (now : Instant) (number : Nat) : (k.react now (.turn number)).Matched := by
  have hstep := Executor.accounted_stepNumber h.numbered number now
  have hkeeps := Executor.keeps_stepNumber k.monitor.executor number now
  refine ⟨h.aligned, hkeeps.numbered h.numbered, ?_, ?_, ?_⟩
  · simp only [react, Monitor.react, Monitor.happenings, lostIn]
    rw [filterMap_record fun _ => rfl, List.map_id', ← add_assoc, ← hstep]
    exact h.marks
  · simp only [react, Monitor.react, Monitor.happenings, dispatchedIn, processedIn]
    rw [filterMap_record_of_none fun _ => rfl, filterMap_record_of_none fun _ => rfl]
    exact h.balance
  · simp only [react, Monitor.react, Monitor.happenings, lostIn]
    rw [filterMap_record fun _ => rfl]
    exact (hkeeps.halted_le.trans h.halted).trans (Multiset.le_add_left _ _)

theorem Matched.halt (h : k.Matched) (now : Instant) (phase : MonitorPhase) : (k.react now (.halt phase)).Matched := by
  refine ⟨h.aligned, h.numbered.abortAll, ?_, ?_, ?_⟩
  · simp only [react, Monitor.react, Monitor.halt, Monitor.happenings, lostIn]
    rw [filterMap_record fun _ => rfl, ← add_assoc, ← Executor.accounted_abortAll h.numbered]
    exact h.marks
  · simp only [react, Monitor.react, Monitor.halt, Monitor.happenings, dispatchedIn, processedIn]
    rw [filterMap_record_of_none fun _ => rfl, filterMap_record_of_none fun _ => rfl]
    exact h.balance
  · simp only [react, Monitor.react, Monitor.halt, Monitor.happenings, lostIn]
    rw [filterMap_record fun _ => rfl, Executor.halted_abortAll h.numbered]
    exact Multiset.add_le_add_left h.halted

theorem Matched.react (h : k.Matched) (now : Instant) (e : Monitor.Event) : (k.react now e).Matched := by
  cases e with
  | dispatch => exact h.dispatch now
  | complete => exact h.complete now
  | reload targets pick => exact h.reload now targets pick
  | turn number => exact h.turn now number
  | halt phase => exact h.halt now phase
  | cancel => exact ⟨h.aligned, h.numbered.of_tasks rfl rfl rfl, h.marks, h.balance, h.halted⟩
  | arrange phase stopRequested scheduleChanged agenda =>
    exact ⟨h.aligned, h.numbered.of_tasks rfl rfl rfl, h.marks, h.balance, h.halted⟩

theorem matched_ofStart {now : Instant} {prober : Prober} {settings : Settings} {targets : List Target}
    {pick : TargetId → Nat} {m : Monitor} (h : Monitor.start (some now) prober settings targets pick = .ok (.ok m)) :
    (ofStart m).Matched := by
  obtain ⟨⟨agenda, hx⟩, registry, firstDue, hb, hr⟩ := Monitor.start_eq_ok h
  obtain ⟨ha, -, -, hf, -, -⟩ := Roster.start_eq_ok (RegistrySnapshot.keyed_build hb) hr
  have hn : m.executor.Numbered := hx ▸ (Executor.numbered_idle prober settings.executorConfig).of_tasks rfl rfl rfl
  have hacc : m.executor.accounted = 0 := hx ▸ rfl
  have hhalted : m.executor.halted = 0 := hx ▸ rfl
  refine ⟨ha, hn, ?_, ?_, hhalted ▸ Multiset.zero_le _⟩
  · simp only [ofStart, hf, hacc]
    rfl
  · simp only [ofStart, hf]
    rfl

theorem Matched.run (h : k.Matched) (es : Monitor.Course) : (k.run es).Matched :=
  run_preserves (fun _ now e hk => hk.react now e) es _ h

theorem Matched.leadsTo {m m' : Monitor} (h : ∃ past, (⟨m, past⟩ : Chronicle).Matched) (hl : m.LeadsTo m') :
    ∃ past, (⟨m', past⟩ : Chronicle).Matched := by
  obtain ⟨past, hm⟩ := h
  obtain ⟨es, rfl⟩ := hl
  refine ⟨(Chronicle.run ⟨m, past⟩ es).past, ?_⟩
  rw [← monitor_run ⟨m, past⟩ es]
  exact hm.run es

theorem matched_run {now : Instant} {prober : Prober} {settings : Settings} {targets : List Target}
    {pick : TargetId → Nat} {m : Monitor} (h : Monitor.start (some now) prober settings targets pick = .ok (.ok m))
    (es : Monitor.Course) : ((ofStart m).run es).Matched := (matched_ofStart h).run es

theorem aligned_run {now : Instant} {prober : Prober} {settings : Settings} {targets : List Target}
    {pick : TargetId → Nat} {m : Monitor} (h : Monitor.start (some now) prober settings targets pick = .ok (.ok m))
    (es : Monitor.Course) : (m.run es).roster.Aligned := by
  have ha := (matched_run h es).aligned
  rwa [monitor_run] at ha

theorem lostIn_react_eq_nil_iff (k : Chronicle) (now : Instant) (e : Monitor.Event) :
    lostIn (k.react now e).past = [] ↔ lostIn k.past = [] ∧ e.Spares k.monitor now := by
  have hlost (labels : List ProbeLabel) :
      lostIn ((labels.map .lost).reverse ++ k.past) = [] ↔ lostIn k.past = [] ∧ labels = [] := by
    rw [← Multiset.coe_eq_zero, lostIn, filterMap_record fun _ => rfl, List.map_id', Multiset.coe_add,
      Multiset.coe_eq_zero, List.append_eq_nil_iff, and_comm]
    rfl
  have hkeeps {α : Type} {g : α → Happening} (h : ∀ a, lost? (g a) = none) (as : List α) :
      lostIn ((as.map g).reverse ++ k.past) = [] ↔ lostIn k.past = [] ∧ True := by
    rw [lostIn, filterMap_record_of_none h, and_true]
    rfl
  cases e with
  | dispatch => exact hkeeps (fun _ => rfl) _
  | complete => exact hkeeps (fun _ => rfl) _
  | cancel | arrange phase stopRequested scheduleChanged agenda => exact (and_true _).symm.to_iff
  | reload targets pick =>
    simp only [react, Monitor.happenings, Monitor.Event.Spares]
    split
    · exact (and_true _).symm.to_iff
    · exact (and_true _).symm.to_iff
  | turn number =>
    rw [Monitor.Event.Spares, ← Executor.lostBy_eq_nil_iff]
    exact hlost _
  | halt phase =>
    have h := hlost (k.monitor.executor.live.map ProbeTask.label)
    rw [List.map_map, List.map_eq_nil_iff] at h
    exact h

/-- Probes are lost to aborts and to the end of the clock, and to nothing else. -/
theorem lostIn_run_eq_nil_iff (k : Chronicle) (es : Monitor.Course) :
    lostIn (k.run es).past = [] ↔ lostIn k.past = [] ∧ k.monitor.Spares es := by
  induction es generalizing k with
  | nil => exact (and_true _).symm.to_iff
  | cons e es ih => rw [run, ih, lostIn_react_eq_nil_iff, and_assoc]; rfl

/-- After every course of a monitor no target is marked twice, and the marks are the dispatched probes less the processed
ones. They are the probes that wait, run or have reported exactly if the course has stopped no task, and has begun no
probe when the clock had no room for its deadline. -/
theorem inFlight_eq_unprocessed (now : Instant) (prober : Prober) (settings : Settings) (targets : List Target)
    (pick : TargetId → Nat) (m : Monitor) (hm : Monitor.start (some now) prober settings targets pick = .ok (.ok m))
    (es : Monitor.Course) :
    let k := (ofStart m).run es
    let marks := k.monitor.roster.scheduler.inFlight
    marks.keys.Nodup ∧
    (marks.entries : Multiset ProbeLabel) + (processedIn k.past : Multiset ProbeLabel) =
      (dispatchedIn k.past : Multiset ProbeLabel) ∧
    ((marks.entries : Multiset ProbeLabel) = k.monitor.executor.pending + k.monitor.executor.unread ↔ m.Spares es) := by
  intro k marks
  have h : k.Matched := matched_run hm es
  have hlost : lostIn k.past = [] ↔ m.Spares es :=
    (lostIn_run_eq_nil_iff (ofStart m) es).trans ⟨And.right, fun h => ⟨rfl, h⟩⟩
  refine ⟨h.aligned.unique, h.balance.symm, ?_⟩
  rw [h.marks, ← Executor.accounted, add_eq_left, Multiset.coe_eq_zero, hlost]

/-- A target that is taken out and put in again while its probe runs is not dispatched a second time. -/
theorem inFlight_eq_unprocessed_put_back :
    let target : Target := ⟨"a", ⟨"localhost", 1⟩, .tcp, .ofSeconds 1, .ofSeconds 1⟩
    let es : Monitor.Course := [(⟨0⟩, .dispatch), (⟨0⟩, .turn 0), (⟨1⟩, .reload [] fun _ => 0),
      (⟨2⟩, .reload [target] fun _ => 0), (⟨3⟩, .dispatch)]
    ∃ m, Monitor.start (some ⟨0⟩) (fun _ _ _ _ => none) { jitterMs := 0 } [target] (fun _ => 0) = .ok (.ok m) ∧
      ((ofStart m).run es).monitor.executor.pending + ((ofStart m).run es).monitor.executor.unread = {("a", 1)} := by
  intro target es
  have hex : ∃ m, Monitor.start (some ⟨0⟩) (fun _ _ _ _ => none) { jitterMs := 0 } [target] (fun _ => 0) =
      .ok (.ok m) ∧ m.Spares es ∧ ((ofStart m).run es).monitor.roster.scheduler.inFlight.entries = [("a", 1)] := by
    decide +kernel
  obtain ⟨m, hm, hspares, hmarks⟩ := hex
  obtain ⟨-, -, hiff⟩ := inFlight_eq_unprocessed ⟨0⟩ (fun _ _ _ _ => none) { jitterMs := 0 } [target] (fun _ => 0) m hm es
  refine ⟨m, hm, ?_⟩
  rw [← hiff.mpr hspares, hmarks]
  rfl

/-- A probe whose deadline lies past the end of the clock is lost when it begins: nothing of it is left but its mark. -/
theorem inFlight_of_overflowing_deadline :
    let target : Target := ⟨"a", ⟨"localhost", 1⟩, .tcp, .ofSeconds 1, .ofSeconds (Nat.pow 2 64 - 1)⟩
    let es : Monitor.Course := [(⟨0⟩, .dispatch), (⟨0⟩, .turn 0)]
    ∃ m, Monitor.start (some ⟨0⟩) (fun _ _ _ _ => none) { jitterMs := 0 } [target] (fun _ => 0) = .ok (.ok m) ∧
      ((ofStart m).run es).monitor.roster.scheduler.inFlight.entries = [("a", 1)] ∧
      ((ofStart m).run es).monitor.executor.tasks = [] ∧ ((ofStart m).run es).monitor.executor.completions = [] := by
  decide +kernel

end Chronicle

end TargetHealth
