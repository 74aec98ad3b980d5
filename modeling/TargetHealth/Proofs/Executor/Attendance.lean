import TargetHealth.Proofs.Executor.Rest
import TargetHealth.Proofs.Time.Agenda

namespace TargetHealth

namespace Executor

/-- A task waits for its turn, for a permit that it still wants, or for the end of a probe that knows of the cancellation, if
there was one. A task that was aborted has its turn coming. -/
def Attends (x : Executor) (t : ProbeTask) : Prop :=
  .task t.number ∈ x.agenda.ready ∨ x.aborted t = false ∧ (t.state = .queued ∧ x.cancelled = false ∨
    ∃ p, t.state = .running p ∧ (x.cancelled = true → p.cancelledAt ≠ none) ∧
      (p.endsAt x.prober x.config.grace t.target, .task t.number) ∈ x.agenda.alarms)

/-- Everyone is waited for but the party that acts: the tasks, and the reader, who wants to know of completions at once and has
an alarm beside. -/
structure Attended (x : Executor) (wakeup? : Option Instant) (acting : Option Party) (now : Instant) : Prop where
  upcoming : x.agenda.Upcoming now
  tasks : ∀ t ∈ x.tasks, acting ≠ some (.task t.number) → x.Attends t
  reader : acting ≠ some .reader →
    .reader ∈ x.agenda.ready ∨ x.completions = [] ∧ ∃ wakeup ∈ wakeup?, (wakeup, .reader) ∈ x.agenda.alarms

variable {x y : Executor} {t u : ProbeTask} {wakeup? : Option Instant} {acting : Option Party} {now : Instant} {number : Nat}

theorem Attends.keeps (h : x.Attends u) (hk : Agenda.Keeps (.task u.number) x.agenda y.agenda)
    (hp : y.prober = x.prober) (hc : y.config = x.config) (hx : y.cancelled = x.cancelled)
    (hb : y.abortedBelow = x.abortedBelow) : y.Attends u := by
  have hlive : y.aborted u = x.aborted u := by rw [aborted, aborted, hb]
  rcases h with hready | ⟨ha, ⟨hqueued, hopen⟩ | ⟨p, hstate, hnoted, halarm⟩⟩
  · exact .inl (hk.ready hready)
  · exact .inr ⟨hlive.trans ha, .inl ⟨hqueued, hx.trans hopen⟩⟩
  · refine .inr ⟨hlive.trans ha, .inr ⟨p, hstate, hx ▸ hnoted, hk.alarms _ ?_⟩⟩
    rw [hp, hc]
    exact halarm

theorem Attended.reader_of_keeps {g : Agenda Party} (h : x.Attended wakeup? acting now) (hk : Agenda.Keeps .reader x.agenda g)
    (hne : acting ≠ some .reader) :
    .reader ∈ g.ready ∨ x.completions = [] ∧ ∃ wakeup ∈ wakeup?, (wakeup, .reader) ∈ g.alarms :=
  (h.reader hne).imp hk.ready fun ⟨hnil, wakeup, hwakeup, halarm⟩ => ⟨hnil, wakeup, hwakeup, hk.alarms _ halarm⟩

theorem Attended.of_eq (h : x.Attended wakeup? acting now) (ha : y.agenda = x.agenda) (ht : y.tasks = x.tasks)
    (hc : y.completions = x.completions) (hp : y.prober = x.prober) (hconfig : y.config = x.config)
    (hx : y.cancelled = x.cancelled) (hb : y.abortedBelow = x.abortedBelow) : y.Attended wakeup? acting now where
  upcoming := ha ▸ h.upcoming
  tasks u hu hne := (h.tasks u (ht ▸ hu) hne).keeps (ha ▸ .refl _ _) hp hconfig hx hb
  reader hne := by
    rw [ha, hc]
    exact h.reader hne

theorem Attended.of_reader {next? : Option Instant} (h : x.Attended wakeup? (some .reader) now) (ha : y.agenda = x.agenda)
    (ht : y.tasks = x.tasks) (hp : y.prober = x.prober) (hconfig : y.config = x.config) (hx : y.cancelled = x.cancelled)
    (hb : y.abortedBelow = x.abortedBelow) : y.Attended next? (some .reader) now where
  upcoming := ha ▸ h.upcoming
  tasks u hu hne := (h.tasks u (ht ▸ hu) hne).keeps (ha ▸ .refl _ _) hp hconfig hx hb
  reader hne := absurd rfl hne

theorem Attended.sleep {wakeup : Instant} (h : x.Attended wakeup? (some .reader) now) (hc : x.completions = [])
    (hw : now < wakeup) :
    Attended { x with agenda := x.agenda.setAlarm .reader wakeup } (some wakeup) none now where
  upcoming := h.upcoming.setAlarm _ hw
  tasks u hu _ := (h.tasks u hu (by simp)).keeps (Agenda.keeps_setAlarm (by simp) _ _) rfl rfl rfl rfl
  reader _ := .inr ⟨hc, wakeup, rfl, Agenda.mem_alarms_setAlarm _ _ _⟩

theorem Attended.act {a : Party} {rest : List Party} (h : x.Attended wakeup? none now) (hready : x.agenda.ready = a :: rest) :
    Attended { x with agenda := { x.agenda with ready := rest } } wakeup? (some a) now := by
  have hkeeps (b : Party) (hne : some a ≠ some b) : Agenda.Keeps b x.agenda { x.agenda with ready := rest } := by
    refine ⟨fun hb => ?_, fun _ => id⟩
    rw [hready] at hb
    exact (List.mem_cons.mp hb).resolve_left fun heq => hne (congrArg some heq.symm)
  refine ⟨⟨h.upcoming.sorted, h.upcoming.later⟩, fun t ht hne => ?_, fun hne => ?_⟩
  · exact (h.tasks t ht (by simp)).keeps (hkeeps _ hne) rfl rfl rfl rfl
  · exact (h.reader (by simp)).imp_left (hkeeps _ hne).ready

theorem Attended.drop (h : x.Attended wakeup? (some (.task number)) now) : (x.drop number).Attended wakeup? none now where
  upcoming := h.upcoming.forget _
  tasks u hu _ := by
    obtain ⟨hold, hne⟩ := List.mem_filter.mp hu
    have hother : Party.task u.number ≠ .task number := fun heq => of_decide_eq_true hne (Party.task.inj heq)
    exact (h.tasks u hold fun heq => hother (Option.some.inj heq).symm).keeps (Agenda.keeps_forget hother _) rfl rfl rfl rfl
  reader _ := h.reader_of_keeps (Agenda.keeps_forget (by simp) _) (by simp)

theorem Attended.handOver (h : x.Attended wakeup? none now) : x.handOver.Attended wakeup? none now := by
  unfold Executor.handOver
  split
  · rename_i v hv
    refine ⟨h.upcoming.wake _, fun u hu _ => ?_, fun _ => h.reader_of_keeps (Agenda.keeps_wake _ _ _) (by simp)⟩
    obtain ⟨w, hw, rfl⟩ := List.mem_map.mp hu
    by_cases hnumber : w.number = v.number
    · rw [if_pos hnumber]
      exact .inl (Agenda.mem_ready_wake.mpr (.inr (congrArg Party.task hnumber)))
    · rw [if_neg hnumber]
      exact (h.tasks w hw (by simp)).keeps (Agenda.keeps_wake _ _ _) rfl rfl rfl rfl
  · exact h

theorem Attended.send (h : x.Attended wakeup? acting now) (epoch : Nat) (r : ProbeResult) (sentAt : Instant) :
    (x.send epoch r sentAt).Attended wakeup? acting now where
  upcoming := h.upcoming.wake _
  tasks u hu hne := (h.tasks u hu hne).keeps (Agenda.keeps_wake _ _ _) rfl rfl rfl rfl
  reader _ := .inl (Agenda.mem_ready_wake.mpr (.inr rfl))

theorem Attended.proceed (h : x.Attended wakeup? (some (.task t.number)) now)
    (hn : (x.tasks.map ProbeTask.number).Nodup) (ht : t ∈ x.live) {p : RunningProbe}
    (hnoted : x.cancelled = true → p.cancelledAt ≠ none) : (x.proceed t p now).Attended wakeup? none now := by
  unfold Executor.proceed
  split
  · have hfinished : Attended { x with metrics := x.metrics.finished } wakeup? (some (.task t.number)) now :=
      h.of_eq rfl rfl rfl rfl rfl rfl rfl
    exact hfinished.drop.handOver.send _ _ _
  · rename_i hr
    refine ⟨h.upcoming.setAlarm _ (RunningProbe.result?_eq_none_iff.mp hr), fun u hu _ => ?_,
      fun _ => h.reader_of_keeps (Agenda.keeps_setAlarm (by simp) _ _) (by simp)⟩
    obtain ⟨w, hw, rfl⟩ := List.mem_map.mp hu
    by_cases hnumber : w.number = t.number
    · obtain rfl := List.inj_on_of_nodup_map hn hw (mem_live_iff.mp ht).1 hnumber
      rw [if_pos rfl]
      exact .inr ⟨(mem_live_iff.mp ht).2, .inr ⟨p, rfl, hnoted, Agenda.mem_alarms_setAlarm _ _ _⟩⟩
    · rw [if_neg hnumber]
      have hother : Party.task w.number ≠ .task t.number := fun heq => hnumber (Party.task.inj heq)
      exact (h.tasks w hw fun heq => hother (Option.some.inj heq).symm).keeps (Agenda.keeps_setAlarm hother _ _) rfl rfl rfl rfl

theorem Attended.begin (h : x.Attended wakeup? (some (.task t.number)) now)
    (hn : (x.tasks.map ProbeTask.number).Nodup) (ht : t ∈ x.live) : (x.begin t now).Attended wakeup? none now := by
  unfold Executor.begin
  split
  · exact h.drop.handOver
  · split
    · exact h.drop.handOver
    · apply Attended.proceed
      · exact h.of_eq rfl rfl rfl rfl rfl rfl rfl
      · exact hn
      · exact ht
      · intro hc
        dsimp only at hc
        simp [hc]

theorem Attended.step (h : x.Attended wakeup? (some (.task t.number)) now)
    (hn : (x.tasks.map ProbeTask.number).Nodup) (ht : t ∈ x.live) : (x.step t now).Attended wakeup? none now := by
  have hless : Attended { x with waiting := x.waiting - 1 } wakeup? (some (.task t.number)) now :=
    h.of_eq rfl rfl rfl rfl rfl rfl rfl
  unfold Executor.step
  split
  · rename_i hqueued
    split
    · exact hless.drop.send _ _ _
    · rename_i hopen
      refine ⟨h.upcoming, fun u hu _ => ?_, fun _ => h.reader (by simp)⟩
      by_cases hnumber : u.number = t.number
      · obtain rfl := List.inj_on_of_nodup_map hn hu (mem_live_iff.mp ht).1 hnumber
        exact .inr ⟨(mem_live_iff.mp ht).2, .inl ⟨hqueued, Bool.not_eq_true _ ▸ hopen⟩⟩
      · exact h.tasks u hu fun heq => hnumber (Party.task.inj (Option.some.inj heq)).symm
  · split
    · exact hless.drop.handOver.send _ _ _
    · exact hless.begin hn ht
  · exact h.begin hn ht
  · refine h.proceed hn ht fun hc => ?_
    split
    · exact Option.some_ne_none _
    · rename_i hknown
      exact fun hnone => hknown ⟨hc, hnone⟩

theorem Attended.discard (h : x.Attended wakeup? (some (.task t.number)) now) :
    (x.discard t).Attended wakeup? none now := by
  unfold Executor.discard
  split
  · exact h.drop
  · exact h.drop.handOver
  · have hfinished : Attended { x with metrics := x.metrics.finished } wakeup? (some (.task t.number)) now :=
      h.of_eq rfl rfl rfl rfl rfl rfl rfl
    exact hfinished.drop.handOver

theorem Attended.stepNumber (h : x.Attended wakeup? (some (.task number)) now) (hn : x.Numbered) :
    (x.stepNumber number now).Attended wakeup? none now := by
  unfold Executor.stepNumber
  split
  · rename_i t ht
    obtain ⟨hmem, rfl⟩ := task?_some ht
    split
    · exact h.discard
    · rename_i ha
      exact h.step hn.nodup (mem_live_iff.mpr ⟨hmem, Bool.eq_false_iff.mpr ha⟩)
  · rename_i hnone
    refine ⟨h.upcoming, fun u hu _ => h.tasks u hu fun heq => ?_, fun _ => h.reader (by simp)⟩
    have hfound := hn.task?_eq hu
    rw [← Party.task.inj (Option.some.inj heq), hnone] at hfound
    cases hfound

theorem Attended.spawn (h : x.Attended wakeup? acting now) (target : Target) (epoch : Nat) (state : TaskState) :
    (x.spawn target epoch state).Attended wakeup? acting now where
  upcoming := h.upcoming.wake _
  tasks u hu hne := by
    rcases List.mem_append.mp hu with hu | hu
    · exact (h.tasks u hu hne).keeps (Agenda.keeps_wake _ _ _) rfl rfl rfl rfl
    · rw [List.mem_singleton.mp hu]
      exact .inl (Agenda.mem_ready_wake.mpr (.inr rfl))
  reader := h.reader_of_keeps (Agenda.keeps_wake _ _ _)

theorem Attended.dispatch (h : x.Attended wakeup? acting now) (target : Target) (epoch : Nat) (sentAt : Instant) :
    (x.dispatch target epoch sentAt).Attended wakeup? acting now := by
  unfold Executor.dispatch
  split
  · exact h.send _ _ _
  · split
    · exact h.spawn _ _ _
    · split
      · exact h.send _ _ _
      · refine Attended.spawn ?_ _ _ _
        exact h.of_eq rfl rfl rfl rfl rfl rfl rfl

theorem Attended.foldl_dispatch (h : x.Attended wakeup? acting now) (batch : List (Target × Nat)) (sentAt : Instant) :
    (batch.foldl (fun x b => x.dispatch b.1 b.2 sentAt) x).Attended wakeup? acting now :=
  List.foldlRecOn (motive := fun x : Executor => x.Attended wakeup? acting now) batch _ h
    fun _ hx b _ => hx.dispatch b.1 b.2 sentAt

theorem Attended.cancel {next? : Option Instant} (h : x.Attended wakeup? acting now) :
    x.cancel.Attended next? (some .reader) now where
  upcoming := h.upcoming.wakeAll _
  tasks _ hu _ := .inl (Agenda.mem_ready_wakeAll.mpr (.inr (List.mem_map_of_mem hu)))
  reader hne := absurd rfl hne

theorem Attended.clock {later : Instant} (h : x.Attended wakeup? acting now) (hlater : ∀ e ∈ x.agenda.alarms, later < e.1) :
    x.Attended wakeup? acting later := { h with upcoming := ⟨h.upcoming.sorted, hlater⟩ }

theorem Attended.ring (h : x.Attended wakeup? none now) (later : Instant) :
    Attended { x with agenda := x.agenda.ring later } wakeup? none later where
  upcoming := h.upcoming.ring later
  tasks u hu hne := by
    rcases h.tasks u hu hne with hready | ⟨ha, hqueued | ⟨p, hstate, hnoted, halarm⟩⟩
    · exact .inl (Agenda.mem_ready_ring.mpr (.inl hready))
    · exact .inr ⟨ha, .inl hqueued⟩
    · exact (Agenda.ring_cases halarm later).imp_right fun halarm => ⟨ha, .inr ⟨p, hstate, hnoted, halarm⟩⟩
  reader hne := by
    rcases h.reader hne with hready | ⟨hnil, wakeup, hwakeup, halarm⟩
    · exact .inl (Agenda.mem_ready_ring.mpr (.inl hready))
    · exact (Agenda.ring_cases halarm later).imp_right fun halarm => ⟨hnil, wakeup, hwakeup, halarm⟩

theorem setIn_self {ts : List ProbeTask} (hn : (ts.map ProbeTask.number).Nodup) (ht : t ∈ ts) :
    setIn t.number t.state ts = ts := by
  refine (List.map_congr_left fun u hu => ?_).trans (List.map_id ts)
  by_cases hnumber : u.number = t.number
  · obtain rfl := List.inj_on_of_nodup_map hn hu ht hnumber
    exact if_pos rfl
  · exact if_neg hnumber

/-- When nobody is ready, no task can act before the next alarm. -/
theorem Attended.quiescent (h : x.Attended wakeup? none now) (hn : x.Numbered) (hready : x.agenda.ready = []) {u : Instant}
    (hbefore : ∀ e ∈ x.agenda.alarms, u < e.1) : x.Quiescent u := by
  refine (x.quiescent_iff u).mpr fun t ht => ?_
  rcases h.tasks t ht (by simp) with hmem | ⟨ha, hattends⟩
  · rw [hready] at hmem
    cases hmem
  rw [hn.stepNumber_of_live (mem_live_iff.mpr ⟨ht, ha⟩)]
  rcases hattends with ⟨hqueued, hopen⟩ | ⟨p, hstate, hnoted, halarm⟩
  · simp only [Executor.step, hqueued, hopen, Bool.false_eq_true, if_false]
  · have hnone : p.result? x.prober x.config.grace t.target u = none :=
      RunningProbe.result?_eq_none_iff.mpr (hbefore _ halarm)
    have hknown : ¬ (x.cancelled = true ∧ p.cancelledAt = none) := fun hnew => hnoted hnew.1 hnew.2
    simp only [Executor.step, hstate, if_neg hknown, Executor.proceed, hnone]
    exact hstate ▸ setIn_self hn.nodup ht

def effortOf : TaskState → Nat
  | .queued => 3
  | .admitted _ | .running _ => 2

theorem effortOf_mem (state : TaskState) : 2 ≤ effortOf state ∧ effortOf state ≤ 3 := by
  cases state <;> simp [effortOf]

def effortIn : List ProbeTask → Nat
  | [] => 0
  | t :: ts => effortOf t.state + effortIn ts

/-- What tasks have left to do, completions that are to be read, and turns that are to be taken. A probe that ends sends a
completion and wakes the reader, and hands its permit to a task that then has one thing less to wait for. -/
def effort (x : Executor) : Nat := effortIn x.tasks + x.completions.length + x.agenda.ready.length

theorem effortIn_cons (t : ProbeTask) (ts : List ProbeTask) : effortIn (t :: ts) = effortOf t.state + effortIn ts := rfl

theorem effortIn_perm {ts ts' : List ProbeTask} (h : ts.Perm ts') : effortIn ts = effortIn ts' := by
  induction h with
  | nil => rfl
  | cons t _ ih => rw [effortIn_cons, effortIn_cons, ih]
  | swap t u ts =>
    simp only [effortIn_cons]
    omega
  | trans _ _ ih ih' => exact ih.trans ih'

theorem effort_send (x : Executor) (epoch : Nat) (r : ProbeResult) (now : Instant) :
    (x.send epoch r now).effort ≤ x.effort + 2 := by
  have hready := x.agenda.length_ready_wake .reader
  have hsent : (x.send epoch r now).completions.length = x.completions.length + 1 := List.length_append
  unfold effort
  rw [hsent]
  change effortIn x.tasks + _ + (x.agenda.wake .reader).ready.length ≤ _
  omega

theorem effort_drop (hn : (x.tasks.map ProbeTask.number).Nodup) (ht : t ∈ x.tasks) :
    (x.drop t.number).effort + effortOf t.state ≤ x.effort := by
  have htasks := effortIn_perm (perm_dropIn hn ht)
  have hready : (x.drop t.number).agenda.ready.length ≤ x.agenda.ready.length := List.length_filter_le _ _
  rw [effortIn_cons] at htasks
  unfold effort
  change effortIn (dropIn t.number x.tasks) + x.completions.length + _ + _ ≤ _
  omega

theorem effort_handOver (hn : (x.tasks.map ProbeTask.number).Nodup) : x.handOver.effort ≤ x.effort := by
  unfold handOver
  split
  · rename_i v hv
    have hmem : v ∈ x.tasks := List.mem_of_find?_eq_some hv
    have hqueued : v.state = .queued := by simpa using List.find?_some hv
    have hold := effortIn_perm (perm_dropIn hn hmem)
    have hnew := effortIn_perm (perm_setIn hn hmem (.admitted true))
    have hready := x.agenda.length_ready_wake (.task v.number)
    rw [effortIn_cons, hqueued] at hold
    rw [effortIn_cons] at hnew
    unfold effort
    change effortIn (setIn v.number (.admitted true) x.tasks) + x.completions.length + (x.agenda.wake _).ready.length ≤ _
    simp only [effortOf] at hold hnew
    omega
  · exact Nat.le_refl _

theorem effort_release (hn : (x.tasks.map ProbeTask.number).Nodup) (ht : t ∈ x.tasks) :
    (x.release t.number).effort + 2 ≤ x.effort := by
  have hrest : ((x.drop t.number).tasks.map ProbeTask.number).Nodup := hn.sublist (List.filter_sublist.map _)
  have hover : (x.release t.number).effort ≤ (x.drop t.number).effort := effort_handOver hrest
  have hdrop := effort_drop hn ht
  have htwo := (effortOf_mem t.state).1
  omega

theorem effort_proceed (hn : (x.tasks.map ProbeTask.number).Nodup) (ht : t ∈ x.tasks) (p : RunningProbe) (now : Instant) :
    (x.proceed t p now).effort ≤ x.effort := by
  unfold proceed
  split
  · rename_i r hr
    have hrelease : ((Executor.release { x with metrics := x.metrics.finished } t.number)).effort + 2 ≤ x.effort :=
      effort_release (x := { x with metrics := x.metrics.finished }) hn ht
    exact (effort_send _ _ _ _).trans hrelease
  · have hold := effortIn_perm (perm_dropIn hn ht)
    have hnew := effortIn_perm (perm_setIn hn ht (.running p))
    have htwo := (effortOf_mem t.state).1
    rw [effortIn_cons] at hold hnew
    unfold effort
    change effortIn (setIn t.number (.running p) x.tasks) + x.completions.length + x.agenda.ready.length ≤ _
    simp only [effortOf] at hnew
    omega

theorem effort_begin (hn : (x.tasks.map ProbeTask.number).Nodup) (ht : t ∈ x.tasks) (now : Instant) :
    (x.begin t now).effort ≤ x.effort := by
  have hrelease := effort_release hn ht
  unfold begin
  split
  · omega
  · split
    · omega
    · apply effort_proceed
      · exact hn
      · exact ht

/-- No turn adds to what is left to do. -/
theorem effort_step (hn : (x.tasks.map ProbeTask.number).Nodup) (ht : t ∈ x.tasks) (now : Instant) :
    (x.step t now).effort ≤ x.effort := by
  have htwo := (effortOf_mem t.state).1
  unfold step
  split
  · split
    · have hdrop := effort_drop (x := { x with waiting := x.waiting - 1 }) hn ht
      exact (effort_send _ _ _ _).trans (Nat.le_trans (Nat.add_le_add_left htwo _) hdrop)
    · exact Nat.le_refl _
  · split
    · have hrelease := effort_release (x := { x with waiting := x.waiting - 1 }) hn ht
      exact (effort_send _ _ _ _).trans hrelease
    · exact effort_begin (x := { x with waiting := x.waiting - 1 }) hn ht now
  · exact effort_begin hn ht now
  · exact effort_proceed hn ht _ now

theorem effort_discard (hn : (x.tasks.map ProbeTask.number).Nodup) (ht : t ∈ x.tasks) : (x.discard t).effort ≤ x.effort := by
  unfold discard
  split
  · exact Nat.le_trans (Nat.le_add_right _ _) (effort_drop hn ht)
  · exact Nat.le_trans (Nat.le_add_right _ _) (effort_release hn ht)
  · exact Nat.le_trans (Nat.le_add_right _ _) (effort_release (x := { x with metrics := x.metrics.finished }) hn ht)

theorem effort_stepNumber (hn : x.Numbered) (number : Nat) (now : Instant) : (x.stepNumber number now).effort ≤ x.effort := by
  unfold stepNumber
  split
  · rename_i t ht
    split
    · exact effort_discard hn.nodup (task?_some ht).1
    · exact effort_step hn.nodup (task?_some ht).1 now
  · exact Nat.le_refl _

theorem effort_spawn (x : Executor) (target : Target) (epoch : Nat) (state : TaskState) :
    (x.spawn target epoch state).effort ≤ x.effort + 4 := by
  have hready := x.agenda.length_ready_wake (.task x.dispatched)
  have htasks := effortIn_perm (List.perm_append_singleton (⟨x.dispatched, target, epoch, state⟩ : ProbeTask) x.tasks)
  have hthree := (effortOf_mem state).2
  rw [effortIn_cons] at htasks
  dsimp only at htasks
  unfold effort
  change effortIn (x.tasks ++ [_]) + x.completions.length + (x.agenda.wake _).ready.length ≤ _
  omega

theorem dispatch_adds (x : Executor) (target : Target) (epoch : Nat) (now : Instant) :
    (x.dispatch target epoch now).cancelled = x.cancelled ∧ (x.dispatch target epoch now).effort ≤ x.effort + 4 ∧
      (x.dispatch target epoch now).completions.length ≤ x.completions.length + 1 := by
  have hsent (r : ProbeResult) : (x.send epoch r now).effort ≤ x.effort + 4 ∧
      (x.send epoch r now).completions.length ≤ x.completions.length + 1 :=
    ⟨(x.effort_send epoch r now).trans (Nat.add_le_add_left (by decide) _), Nat.le_of_eq List.length_append⟩
  unfold dispatch
  split
  · exact ⟨rfl, hsent _⟩
  · split
    · exact ⟨rfl, x.effort_spawn _ _ _, Nat.le_succ _⟩
    · split
      · exact ⟨rfl, hsent _⟩
      · exact ⟨rfl, effort_spawn _ _ _ _, Nat.le_succ _⟩

theorem foldl_dispatch_adds (batch : List (Target × Nat)) (now : Instant) (x : Executor) :
    let y := batch.foldl (fun x b => x.dispatch b.1 b.2 now) x
    y.cancelled = x.cancelled ∧ y.effort ≤ x.effort + 4 * batch.length ∧
      y.completions.length ≤ x.completions.length + batch.length := by
  induction batch generalizing x with
  | nil => exact ⟨rfl, Nat.le_refl _, Nat.le_refl _⟩
  | cons b batch ih =>
    obtain ⟨hcancelled, heffort, hlength⟩ := x.dispatch_adds b.1 b.2 now
    obtain ⟨hcancelled', heffort', hlength'⟩ := ih (x.dispatch b.1 b.2 now)
    rw [List.foldl_cons, List.length_cons]
    exact ⟨hcancelled'.trans hcancelled, by omega, by omega⟩

theorem effort_cancel (x : Executor) : x.cancel.effort ≤ x.effort + x.tasks.length := by
  have hready := x.agenda.length_ready_wakeAll (x.tasks.map fun t => .task t.number)
  rw [List.length_map] at hready
  unfold effort
  change effortIn x.tasks + x.completions.length + (x.agenda.wakeAll _).ready.length ≤ _
  omega

theorem effortIn_le (ts : List ProbeTask) : effortIn ts ≤ 3 * ts.length := by
  induction ts with
  | nil => exact Nat.le_refl _
  | cons t ts ih =>
    have hthree := (effortOf_mem t.state).2
    rw [effortIn_cons, List.length_cons]
    omega

end Executor

end TargetHealth
