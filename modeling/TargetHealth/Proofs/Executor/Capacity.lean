import TargetHealth.Proofs.Executor.Course

namespace TargetHealth

/-- A task waits from its dispatch without a permit until its first turn with one. -/
def TaskState.waits : TaskState → Bool
  | .queued | .admitted true => true
  | _ => false

namespace Executor

def dropIn (number : Nat) (ts : List ProbeTask) : List ProbeTask := ts.filter (fun t => t.number ≠ number)

def setIn (number : Nat) (state : TaskState) (ts : List ProbeTask) : List ProbeTask :=
  ts.map (fun t => if t.number = number then { t with state := state } else t)

def handOverIn (ts : List ProbeTask) : List ProbeTask :=
  match ts.find? (fun t => t.state == .queued) with
  | some t => setIn t.number (.admitted true) ts
  | none => ts

variable {ts : List ProbeTask} {t : ProbeTask} (hn : (ts.map ProbeTask.number).Nodup) (ht : t ∈ ts)

include hn ht in
theorem perm_dropIn : ts.Perm (t :: dropIn t.number ts) := Multiset.coe_eq_coe.mp (filter_number_ne hn ht)

theorem setIn_dropIn (number : Nat) (state : TaskState) (ts : List ProbeTask) :
    setIn number state (dropIn number ts) = dropIn number ts := by
  refine List.map_congr_left (g := id) (fun u hu => ?_) |>.trans (List.map_id _)
  have hne : u.number ≠ number := of_decide_eq_true (List.mem_filter.mp hu).2
  exact if_neg hne

include hn ht in
theorem perm_setIn (state : TaskState) :
    (setIn t.number state ts).Perm ({ t with state := state } :: dropIn t.number ts) := by
  have h := (perm_dropIn hn ht).map (fun u => if u.number = t.number then { u with state := state } else u)
  rw [List.map_cons, if_pos rfl] at h
  exact h.trans (.of_eq (congrArg _ (setIn_dropIn t.number state ts)))

/-- A permit that is handed over goes to a task that waits, and its wait lasts until its turn. -/
theorem handOverIn_cases (hn : (ts.map ProbeTask.number).Nodup) :
    ((∀ u ∈ ts, u.state ≠ .queued) ∧ handOverIn ts = ts) ∨
    ∃ u ∈ ts, u.state = .queued ∧ ts.Perm (u :: dropIn u.number ts) ∧
      (handOverIn ts).Perm ({ u with state := .admitted true } :: dropIn u.number ts) := by
  unfold handOverIn
  cases hf : ts.find? (fun t => t.state == .queued) with
  | none =>
    refine .inl ⟨fun u hu hq => ?_, rfl⟩
    have hnot := List.find?_eq_none.mp hf u hu
    rw [hq] at hnot
    exact hnot rfl
  | some u =>
    have hu : u ∈ ts := List.mem_of_find?_eq_some hf
    have hq : u.state = .queued := by simpa using List.find?_some hf
    exact .inr ⟨u, hu, hq, perm_dropIn hn hu, perm_setIn hn hu _⟩

variable {x y : Executor}

theorem tasks_handOver (x : Executor) : x.handOver.tasks = handOverIn x.tasks := by
  unfold handOver handOverIn
  cases x.tasks.find? (fun t => t.state == .queued) <;> rfl

theorem waiting_handOver (x : Executor) : x.handOver.waiting = x.waiting := by
  unfold handOver
  split <;> rfl

/-- The turn of a task that holds a permit: its probe runs on, or gives the permit back. -/
structure Proceeds (x : Executor) (t : ProbeTask) (y : Executor) : Prop where
  waiting : y.waiting = x.waiting
  tasks : y.tasks = handOverIn (dropIn t.number x.tasks) ∨ ∃ probe, y.tasks = setIn t.number (.running probe) x.tasks

theorem proceeds_release (x : Executor) (t : ProbeTask) : x.Proceeds t (x.release t.number) :=
  ⟨waiting_handOver _, .inl (tasks_handOver _)⟩

theorem proceeds_proceed (x : Executor) (t : ProbeTask) (probe : RunningProbe) (now : Instant) :
    x.Proceeds t (x.proceed t probe now) := by
  unfold proceed
  split
  · have h := proceeds_release { x with metrics := x.metrics.finished } t
    exact ⟨h.waiting, h.tasks⟩
  · exact ⟨rfl, .inr ⟨probe, rfl⟩⟩

theorem proceeds_begin (x : Executor) (t : ProbeTask) (now : Instant) : x.Proceeds t (x.begin t now) := by
  unfold begin
  split
  · exact proceeds_release x t
  · split
    · exact proceeds_release x t
    · exact ⟨(proceeds_proceed _ t _ now).waiting, (proceeds_proceed _ t _ now).tasks⟩

theorem step_cases (x : Executor) (t : ProbeTask) (now : Instant) :
    (t.state = .queued ∧ (x.step t now = x ∨
      (x.step t now).waiting = x.waiting - 1 ∧ (x.step t now).tasks = dropIn t.number x.tasks)) ∨
    (t.state = .admitted true ∧ Proceeds { x with waiting := x.waiting - 1 } t (x.step t now)) ∨
    (t.state.holdsPermit = true ∧ t.state.waits = false ∧ x.Proceeds t (x.step t now)) := by
  cases hs : t.state with
  | queued =>
    refine .inl ⟨rfl, ?_⟩
    simp only [step, hs]
    split
    · exact .inr ⟨rfl, rfl⟩
    · exact .inl rfl
  | admitted waited =>
    cases waited with
    | false =>
      refine .inr (.inr ⟨rfl, rfl, ?_⟩)
      simp only [step, hs]
      exact proceeds_begin x t now
    | true =>
      refine .inr (.inl ⟨rfl, ?_⟩)
      simp only [step, hs]
      split
      · have h := proceeds_release { x with waiting := x.waiting - 1 } t
        exact ⟨h.waiting, h.tasks⟩
      · exact proceeds_begin _ t now
  | running probe =>
    refine .inr (.inr ⟨rfl, rfl, ?_⟩)
    simp only [step, hs]
    exact proceeds_proceed x t _ now

theorem discard_cases (x : Executor) (t : ProbeTask) :
    (t.state = .queued ∧ (x.discard t).waiting = x.waiting ∧ (x.discard t).tasks = dropIn t.number x.tasks) ∨
    (t.state.holdsPermit = true ∧ (x.discard t).waiting = x.waiting ∧
      (x.discard t).tasks = handOverIn (dropIn t.number x.tasks)) := by
  cases hs : t.state with
  | queued =>
    rw [discard, hs]
    exact .inl ⟨rfl, rfl, rfl⟩
  | admitted waited | running probe =>
    rw [discard, hs]
    exact .inr ⟨rfl, waiting_handOver _, tasks_handOver _⟩

/-- The tasks that wait, each until its first turn with a permit. -/
def waits (x : Executor) : Nat := x.live.countP (·.state.waits)

def awaits (x : Executor) (t : ProbeTask) : Bool := t.state.waits && !x.aborted t

theorem waits_eq (x : Executor) : x.waits = x.tasks.countP x.awaits := List.countP_filter

theorem awaits_congr (h : y.abortedBelow = x.abortedBelow) : y.awaits = x.awaits := by
  funext t
  rw [awaits, awaits, aborted, aborted, h]

/-- Permits and places are not exceeded, and all permits are held while a task is without one. A place is taken by each
task that waits, and some are taken without a task: an abort that stops a task leaves its place taken. -/
structure Tallied (x : Executor) (stranded : Nat) : Prop where
  numbered : x.Numbered
  counted : x.waiting = x.waits + stranded
  permits : x.running ≤ x.config.maxConcurrency
  places : x.waiting ≤ x.config.maxPending
  busy : ∀ t ∈ x.tasks, t.state = .queued → x.running = x.config.maxConcurrency

theorem tallied_idle (prober : Prober) (config : ExecutorConfig) : (idle prober config).Tallied 0 where
  numbered := numbered_idle prober config
  counted := rfl
  permits := Nat.zero_le _
  places := Nat.zero_le _
  busy _ h := nomatch h

variable {stranded : Nat}

theorem Tallied.of_tasks (h : x.Tallied stranded) (ht : y.tasks = x.tasks) (hw : y.waiting = x.waiting)
    (hc : y.config = x.config) (hd : y.dispatched = x.dispatched) (hb : y.abortedBelow = x.abortedBelow) :
    y.Tallied stranded where
  numbered := h.numbered.of_tasks ht hd hb
  counted := by rw [hw, h.counted, waits_eq, waits_eq, ht, awaits_congr hb]
  permits := by rw [running, ht, hc]; exact h.permits
  places := by rw [hw, hc]; exact h.places
  busy t hmem hq := by rw [running, ht, hc]; exact h.busy t (ht ▸ hmem) hq

theorem Tallied.leave (h : x.Tallied stranded) (ht : t ∈ x.tasks) (hq : t.state = .queued) (hk : x.Keeps y)
    (hw : y.waiting = x.waiting - (if x.awaits t then 1 else 0)) (htasks : y.tasks = dropIn t.number x.tasks) :
    y.Tallied stranded := by
  have hp := perm_dropIn h.numbered.nodup ht
  have hwaits : x.waits = y.waits + if x.awaits t then 1 else 0 := by
    rw [waits_eq, waits_eq, htasks, hp.countP_eq, List.countP_cons, awaits_congr hk.abortedBelow]
  have hrunning : x.running = y.running := by
    rw [running, running, htasks, hp.countP_eq, List.countP_cons_of_neg (by rw [hq]; exact Bool.false_ne_true)]
  have hcounted := h.counted
  have hplaces := h.places
  refine ⟨hk.numbered h.numbered, by omega, by rw [hk.config, ← hrunning]; exact h.permits, by rw [hk.config]; omega, ?_⟩
  intro u hu hqu
  rw [hk.config, ← hrunning]
  exact h.busy u (List.mem_of_mem_filter (htasks ▸ hu)) hqu

theorem counts_of_proceeds (hn : (x.tasks.map ProbeTask.number).Nodup) (ht : t ∈ x.tasks)
    (hpermit : t.state.holdsPermit = true) (hb : y.abortedBelow = x.abortedBelow)
    (htasks : y.tasks = handOverIn (dropIn t.number x.tasks) ∨
      ∃ probe, y.tasks = setIn t.number (.running probe) x.tasks) :
    y.waits + (if x.awaits t then 1 else 0) = x.waits ∧ y.running ≤ x.running ∧
      ∀ u ∈ y.tasks, u.state = .queued → u ∈ x.tasks ∧ y.running = x.running := by
  have hp := perm_dropIn hn ht
  have hmem : ∀ u ∈ dropIn t.number x.tasks, u ∈ x.tasks := fun u hu => List.mem_of_mem_filter hu
  have hwaits : x.waits = (dropIn t.number x.tasks).countP x.awaits + if x.awaits t then 1 else 0 := by
    rw [waits_eq, hp.countP_eq, List.countP_cons]
  have hrunning : x.running = (dropIn t.number x.tasks).countP (·.state.holdsPermit) + 1 := by
    rw [running, hp.countP_eq, List.countP_cons, if_pos hpermit]
  have hrest : ((dropIn t.number x.tasks).map ProbeTask.number).Nodup := hn.sublist (List.filter_sublist.map _)
  have hset (probe : RunningProbe) := perm_setIn hn ht (.running probe)
  have hcount : y.waits = y.tasks.countP x.awaits := by rw [waits_eq, awaits_congr hb]
  generalize dropIn t.number x.tasks = rest at hmem hwaits hrunning hrest hset htasks
  rcases htasks with htasks | ⟨probe, htasks⟩
  · rcases handOverIn_cases hrest with ⟨hnone, heq⟩ | ⟨u, hu, hq, hold, hnew⟩
    · have hy : y.tasks = rest := htasks.trans heq
      rw [hcount, running, hy]
      exact ⟨hwaits.symm, by omega, fun u hu hqu => absurd hqu (hnone u hu)⟩
    · have hsame : x.awaits { u with state := .admitted true } = x.awaits u := by rw [awaits, awaits, hq]; rfl
      have hw : y.waits = rest.countP x.awaits := by
        rw [hcount, htasks, hnew.countP_eq, hold.countP_eq, List.countP_cons, List.countP_cons, hsame]
      have hr : y.running = rest.countP (·.state.holdsPermit) + 1 := by
        rw [running, htasks, hnew.countP_eq, hold.countP_eq, List.countP_cons_of_pos rfl,
          List.countP_cons_of_neg (by rw [hq]; exact Bool.false_ne_true)]
      refine ⟨by omega, by omega, fun v hv hqv => ⟨?_, by omega⟩⟩
      rcases List.mem_cons.mp (hnew.subset (htasks ▸ hv)) with rfl | hv
      · cases hqv
      · exact hmem v (List.mem_of_mem_filter hv)
  · have hw : y.waits = rest.countP x.awaits := by
      rw [hcount, htasks, (hset probe).countP_eq, List.countP_cons_of_neg Bool.false_ne_true]
    have hr : y.running = rest.countP (·.state.holdsPermit) + 1 := by
      rw [running, htasks, (hset probe).countP_eq, List.countP_cons_of_pos rfl]
    refine ⟨by omega, by omega, fun v hv hqv => ⟨?_, by omega⟩⟩
    rcases List.mem_cons.mp ((hset probe).subset (htasks ▸ hv)) with rfl | hv
    · cases hqv
    · exact hmem v hv

theorem Tallied.proceed (h : x.Tallied stranded) (ht : t ∈ x.tasks) (hpermit : t.state.holdsPermit = true)
    (hk : x.Keeps y) (hw : y.waiting = x.waiting - (if x.awaits t then 1 else 0))
    (htasks : y.tasks = handOverIn (dropIn t.number x.tasks) ∨
      ∃ probe, y.tasks = setIn t.number (.running probe) x.tasks) : y.Tallied stranded := by
  obtain ⟨hwaits, hrunning, hqueued⟩ := counts_of_proceeds h.numbered.nodup ht hpermit hk.abortedBelow htasks
  have hcounted := h.counted
  have hpermits := h.permits
  have hplaces := h.places
  refine ⟨hk.numbered h.numbered, by omega, by rw [hk.config]; omega, by rw [hk.config]; omega, ?_⟩
  intro u hu hqu
  obtain ⟨hold, heq⟩ := hqueued u hu hqu
  rw [heq, hk.config]
  exact h.busy u hold hqu

theorem Tallied.step (h : x.Tallied stranded) (ht : t ∈ x.live) (now : Instant) :
    (x.step t now).Tallied stranded := by
  have hk := keeps_step x t now
  obtain ⟨hmem, ha⟩ := mem_live_iff.mp ht
  have hawaits : x.awaits t = t.state.waits := by rw [awaits, ha, Bool.not_false, Bool.and_true]
  rcases step_cases x t now with ⟨hq, heq | ⟨hw, htasks⟩⟩ | ⟨hs, hp⟩ | ⟨hpermit, hwaits, hp⟩
  · exact heq.symm ▸ h
  · refine h.leave hmem hq hk ?_ htasks
    rw [hw, hawaits, hq]
    rfl
  · refine h.proceed hmem (by rw [hs]; rfl) hk ?_ hp.tasks
    rw [hp.waiting, hawaits, hs]
    rfl
  · refine h.proceed hmem hpermit hk ?_ hp.tasks
    rw [hp.waiting, hawaits, hwaits]
    rfl

/-- A task that was aborted leaves what it holds to others, but not its place. -/
theorem Tallied.discard (h : x.Tallied stranded) (ht : t ∈ x.tasks) (ha : x.aborted t = true) :
    (x.discard t).Tallied stranded := by
  have hk := keeps_discard x t
  have hawaits : x.awaits t = false := by rw [awaits, ha, Bool.not_true, Bool.and_false]
  rcases discard_cases x t with ⟨hq, hw, htasks⟩ | ⟨hpermit, hw, htasks⟩
  · exact h.leave ht hq hk (by rw [hw, hawaits]; rfl) htasks
  · exact h.proceed ht hpermit hk (by rw [hw, hawaits]; rfl) (.inl htasks)

theorem Tallied.stepNumber (h : x.Tallied stranded) (number : Nat) (now : Instant) :
    (x.stepNumber number now).Tallied stranded := by
  unfold Executor.stepNumber
  split
  · rename_i t ht
    have hmem := (task?_some ht).1
    split
    · rename_i ha
      exact h.discard hmem ha
    · rename_i ha
      exact h.step (mem_live_iff.mpr ⟨hmem, Bool.eq_false_iff.mpr ha⟩) now
  · exact h

theorem Tallied.dispatch_cases (h : x.Tallied stranded) (hc : x.cancelled = false) (target : Target) (epoch : Nat)
    (now : Instant) :
    (x.running < x.config.maxConcurrency ∧ x.dispatch target epoch now = x.spawn target epoch (.admitted false)) ∨
    (x.running = x.config.maxConcurrency ∧ x.waits + stranded < x.config.maxPending ∧
      x.dispatch target epoch now = { x with waiting := x.waiting + 1 }.spawn target epoch .queued) ∨
    (x.running = x.config.maxConcurrency ∧ x.waits + stranded = x.config.maxPending ∧
      x.dispatch target epoch now = x.send epoch (.skipped target.id "probe queue full" now.wallClock) now) := by
  have hpermits := h.permits
  have hplaces := h.places
  rw [h.counted] at hplaces
  unfold dispatch
  rw [if_neg (by simp [hc])]
  split
  · rename_i hfree
    exact .inl ⟨hfree, rfl⟩
  · rename_i hfree
    have hfull : x.running = x.config.maxConcurrency := by omega
    rw [h.counted]
    split
    · rename_i hqueue
      exact .inr (.inr ⟨hfull, by omega, rfl⟩)
    · rename_i hqueue
      exact .inr (.inl ⟨hfull, by omega, rfl⟩)

theorem Tallied.spawn (h : x.Tallied stranded) (target : Target) (epoch : Nat) (state : TaskState)
    (hd : y.dispatched = x.dispatched) (hb : y.abortedBelow = x.abortedBelow) (ht : y.tasks = x.tasks)
    (hc : y.config = x.config) (hw : y.waiting = x.waiting + if state.waits then 1 else 0)
    (hpermits : x.running + (if state.holdsPermit then 1 else 0) ≤ x.config.maxConcurrency)
    (hplaces : y.waiting ≤ x.config.maxPending)
    (hbusy : (state = .queued ∨ ∃ t ∈ x.tasks, t.state = .queued) →
      x.running + (if state.holdsPermit then 1 else 0) = x.config.maxConcurrency) :
    (y.spawn target epoch state).Tallied stranded := by
  have htasks : (y.spawn target epoch state).tasks = x.tasks ++ [⟨y.dispatched, target, epoch, state⟩] := by
    rw [Executor.spawn, ht]
  have hrunning : (y.spawn target epoch state).running = x.running + if state.holdsPermit then 1 else 0 := by
    rw [running, htasks, List.countP_append, List.countP_singleton]
    rfl
  have hnumbered : y.Numbered := h.numbered.of_tasks ht hd hb
  have hwaits : (y.spawn target epoch state).waits = x.waits + if state.waits then 1 else 0 := by
    have hlive : y.live = x.live := by rw [live, live, ht]; exact List.filter_congr fun t _ => by rw [aborted, aborted, hb]
    rw [waits, live_spawn hnumbered.fresh, List.countP_append, List.countP_singleton, hlive]
    rfl
  refine ⟨hnumbered.spawn target epoch state, ?_, ?_, ?_, ?_⟩
  · rw [hwaits, Nat.add_right_comm, ← h.counted]
    exact hw
  · rw [hrunning]
    exact hc ▸ hpermits
  · exact hc ▸ hplaces
  · intro t hmem hq
    have hconfig : (y.spawn target epoch state).config = x.config := hc
    rw [hrunning, hconfig]
    apply hbusy
    rcases List.mem_append.mp (htasks ▸ hmem) with hmem | hmem
    · exact .inr ⟨t, hmem, hq⟩
    · rw [List.mem_singleton.mp hmem] at hq
      exact .inl hq

theorem Tallied.dispatch (h : x.Tallied stranded) (target : Target) (epoch : Nat) (now : Instant) :
    (x.dispatch target epoch now).Tallied stranded := by
  cases hc : x.cancelled with
  | true =>
    rw [Executor.dispatch, if_pos hc]
    exact h.of_tasks rfl rfl rfl rfl rfl
  | false =>
    have hcounted := h.counted
    rcases h.dispatch_cases hc target epoch now with ⟨hfree, heq⟩ | ⟨hfull, hqueue, heq⟩ | ⟨-, -, heq⟩
    · rw [heq]
      refine h.spawn target epoch (.admitted false) rfl rfl rfl rfl rfl hfree h.places ?_
      rintro (hq | ⟨t, ht, hq⟩)
      · cases hq
      · exact absurd (h.busy t ht hq) (Nat.ne_of_lt hfree)
    · rw [heq]
      refine h.spawn target epoch .queued rfl rfl rfl rfl rfl (Nat.le_of_eq hfull) ?_ fun _ => hfull
      show x.waiting + 1 ≤ _
      omega
    · rw [heq]
      exact h.of_tasks rfl rfl rfl rfl rfl

/-- No place is taken without a task: the count of waiting probes is right. -/
abbrev Staffed (x : Executor) : Prop := x.Tallied 0

theorem Tallied.react_of_ne_abort (h : x.Tallied stranded) (now : Instant) {e : Event} (ha : e ≠ .abort) :
    (x.react now e).Tallied stranded := by
  cases e with
  | dispatch target epoch => exact h.dispatch target epoch now
  | turn number => exact h.stepNumber number now
  | cancel | read | arrange agenda => exact h.of_tasks rfl rfl rfl rfl rfl
  | abort => exact absurd rfl ha

theorem Staffed.run (h : x.Staffed) (es : Course) (ha : ∀ e ∈ es, e.2 ≠ .abort) : (x.run es).Staffed := by
  induction es generalizing x with
  | nil => exact h
  | cons e es ih =>
    exact ih (h.react_of_ne_abort e.1 (ha e List.mem_cons_self)) fun e he => ha e (List.mem_cons_of_mem _ he)

theorem config_react (x : Executor) (now : Instant) (e : Event) : (x.react now e).config = x.config := by
  cases e with
  | dispatch target epoch => exact (x.fixed_dispatch target epoch now).2.1
  | turn number => exact (keeps_stepNumber x number now).config
  | cancel | read | arrange agenda | abort => rfl

theorem config_run (x : Executor) (es : Course) : (x.run es).config = x.config := by
  induction es generalizing x with
  | nil => rfl
  | cons e es ih => exact (ih _).trans (config_react x e.1 e.2)

/-- No task would do anything with a turn. -/
def Quiescent (x : Executor) (now : Instant) : Prop := ∀ number, (x.stepNumber number now).tasks = x.tasks

theorem quiescent_iff (x : Executor) (now : Instant) :
    x.Quiescent now ↔ ∀ t ∈ x.tasks, (x.stepNumber t.number now).tasks = x.tasks := by
  refine ⟨fun h t _ => h t.number, fun h number => ?_⟩
  cases ht : x.task? number with
  | none => rw [stepNumber, ht]
  | some t =>
    obtain ⟨hmem, rfl⟩ := task?_some ht
    exact h t hmem

instance (x : Executor) (now : Instant) : Decidable (x.Quiescent now) := decidable_of_iff' _ (x.quiescent_iff now)

theorem Numbered.task?_eq (h : x.Numbered) (ht : t ∈ x.tasks) : x.task? t.number = some t := by
  have hsome : (x.task? t.number).isSome := List.find?_isSome.mpr ⟨t, ht, beq_self_eq_true _⟩
  obtain ⟨u, hu⟩ := Option.isSome_iff_exists.mp hsome
  obtain ⟨hmem, hnumber⟩ := task?_some hu
  rw [hu, List.inj_on_of_nodup_map h.nodup hmem ht hnumber]

theorem Numbered.stepNumber_of_live (h : x.Numbered) (ht : t ∈ x.live) (now : Instant) :
    x.stepNumber t.number now = x.step t now := by
  obtain ⟨hmem, ha⟩ := mem_live_iff.mp ht
  rw [stepNumber, h.task?_eq hmem]
  exact if_neg (Bool.eq_false_iff.mp ha)

theorem Proceeds.not_mem (hp : x.Proceeds t y) (hn : (x.tasks.map ProbeTask.number).Nodup) (ht : t ∈ x.tasks)
    (hr : t.state.isRunning = false) : t ∉ y.tasks := by
  have hdrop (ts : List ProbeTask) : t ∉ dropIn t.number ts := fun h => of_decide_eq_true (List.mem_filter.mp h).2 rfl
  intro hmem
  rcases hp.tasks with htasks | ⟨probe, htasks⟩
  · have hrest : ((dropIn t.number x.tasks).map ProbeTask.number).Nodup := hn.sublist (List.filter_sublist.map _)
    rw [htasks] at hmem
    rcases handOverIn_cases hrest with ⟨-, heq⟩ | ⟨u, hu, -, -, hnew⟩
    · exact hdrop _ (heq ▸ hmem)
    · rcases List.mem_cons.mp (hnew.subset hmem) with heq | hmem
      · have hnumber : u.number ≠ t.number := of_decide_eq_true (List.mem_filter.mp hu).2
        exact hnumber (congrArg ProbeTask.number heq).symm
      · exact hdrop _ (List.mem_of_mem_filter hmem)
  · rw [htasks] at hmem
    rcases List.mem_cons.mp ((perm_setIn hn ht _).subset hmem) with heq | hmem
    · rw [heq] at hr
      cases hr
    · exact hdrop _ hmem

theorem Tallied.running_eq_of_quiescent (h : x.Tallied stranded) {now : Instant} (hq : x.Quiescent now)
    (hw : 0 < x.waits) : x.running = x.config.maxConcurrency := by
  obtain ⟨t, ht, hwaits⟩ := List.countP_pos_iff.mp hw
  have hturn := hq t.number
  rw [h.numbered.stepNumber_of_live ht] at hturn
  have hmem := (mem_live_iff.mp ht).1
  rcases step_cases x t now with ⟨hqueued, -⟩ | ⟨hs, hp⟩ | ⟨-, hnot, -⟩
  · exact h.busy t hmem hqueued
  · refine absurd hmem ?_
    rw [← hturn]
    exact hp.not_mem h.numbered.nodup hmem (by rw [hs]; rfl)
  · rw [hnot] at hwaits
    cases hwaits

theorem new_eq_ok {config : ExecutorConfig} (prober : Prober) (hpos : 1 ≤ config.maxConcurrency)
    (hle : config.maxConcurrency ≤ ExecutorConfig.permitLimit) : Executor.new prober config = .ok (idle prober config) := by
  have hcheck : config.check = .ok () := by
    rw [ExecutorConfig.check, if_neg (by omega), if_neg (by omega)]
  rw [Executor.new, hcheck]
  rfl

theorem Tallied.answer_dispatch (h : x.Tallied stranded) (hc : x.cancelled = false) (target : Target) (epoch : Nat)
    (now : Instant) :
    let y := x.dispatch target epoch now
    let task (state : TaskState) : ProbeTask := ⟨x.dispatched, target, epoch, state⟩
    (y.completions = x.completions ++ [⟨epoch, .skipped target.id "probe queue full" now.wallClock, now⟩] ↔
      x.running = x.config.maxConcurrency ∧ x.waits + stranded = x.config.maxPending) ∧
    (x.running < x.config.maxConcurrency → y.completions = x.completions ∧
      y.tasks = x.tasks ++ [task (.admitted false)] ∧
      ∀ later, y.stepNumber x.dispatched later = y.begin (task (.admitted false)) later) ∧
    (x.running = x.config.maxConcurrency → x.waits + stranded < x.config.maxPending → y.completions = x.completions ∧
      y.tasks = x.tasks ++ [task .queued] ∧ ∀ later, y.stepNumber x.dispatched later = y) := by
  intro y task
  have hy : y.Numbered := h.numbered.dispatch target epoch now
  have hturn (state : TaskState) (htasks : y.tasks = x.tasks ++ [task state]) (later : Instant) :
      y.stepNumber x.dispatched later = y.step (task state) later := by
    have hmem : task state ∈ y.tasks := htasks ▸ List.mem_append_right _ (List.mem_singleton_self _)
    have hbelow : y.abortedBelow ≤ x.dispatched := (x.fixed_dispatch target epoch now).2.2.2 ▸ h.numbered.fresh
    exact hy.stepNumber_of_live (mem_live_iff.mpr ⟨hmem, decide_eq_false (Nat.not_lt.mpr hbelow)⟩) later
  -- a channel that has stayed as it was holds no answer to this dispatch
  have hne (c : Completion) : x.completions ≠ x.completions ++ [c] := fun heq =>
    absurd (congrArg List.length heq) (by simp)
  rcases h.dispatch_cases hc target epoch now with ⟨hfree, heq⟩ | ⟨hfull, hqueue, heq⟩ | ⟨hfull, hqueue, heq⟩
  · have hcompletions : y.completions = x.completions := (congrArg Executor.completions heq).trans rfl
    have htasks : y.tasks = x.tasks ++ [task (.admitted false)] := (congrArg Executor.tasks heq).trans rfl
    refine ⟨⟨fun hskip => absurd (hcompletions.symm.trans hskip) (hne _), fun hfull => by omega⟩,
      fun _ => ⟨hcompletions, htasks, fun later => ?_⟩, fun hfull => by omega⟩
    rw [hturn _ htasks]
    rfl
  · have hcompletions : y.completions = x.completions := (congrArg Executor.completions heq).trans rfl
    have htasks : y.tasks = x.tasks ++ [task .queued] := (congrArg Executor.tasks heq).trans rfl
    have hcancelled : y.cancelled = false := (congrArg Executor.cancelled heq).trans hc
    refine ⟨⟨fun hskip => absurd (hcompletions.symm.trans hskip) (hne _), fun hfull => by omega⟩,
      fun hfree => by omega, fun _ _ => ⟨hcompletions, htasks, fun later => ?_⟩⟩
    rw [hturn _ htasks]
    simp only [Executor.step, task, hcancelled, Bool.false_eq_true, if_false]
  · have hcompletions := congrArg Executor.completions heq
    exact ⟨⟨fun _ => ⟨hfull, hqueue⟩, fun _ => hcompletions⟩, fun hfree => by omega, fun _ hplace => by omega⟩

/-- After every course without an abort no more probes hold a permit than there are permits and no more wait than there are
places, and if no task can act one waits only if all permits are held. As long as nothing is cancelled, a dispatch is
skipped exactly if all permits are held and all places are taken. With a free permit its probe begins on its first turn,
and without one it waits. -/
theorem running_le_and_waits_le (prober : Prober) (config : ExecutorConfig) (hpos : 1 ≤ config.maxConcurrency)
    (hle : config.maxConcurrency ≤ ExecutorConfig.permitLimit) :
    ∃ x, Executor.new prober config = .ok x ∧ ∀ es : Course, (∀ e ∈ es, e.2 ≠ .abort) →
      let y := x.run es
      y.running ≤ config.maxConcurrency ∧ y.waits ≤ config.maxPending ∧ y.waiting = y.waits ∧
      (∀ now, y.Quiescent now → 0 < y.waits → y.running = config.maxConcurrency) ∧
      ∀ target epoch now, y.cancelled = false →
        let z := y.dispatch target epoch now
        let task (state : TaskState) : ProbeTask := ⟨y.dispatched, target, epoch, state⟩
        (z.completions = y.completions ++ [⟨epoch, .skipped target.id "probe queue full" now.wallClock, now⟩] ↔
          y.running = config.maxConcurrency ∧ y.waits = config.maxPending) ∧
        (y.running < config.maxConcurrency → z.completions = y.completions ∧
          z.tasks = y.tasks ++ [task (.admitted false)] ∧
          ∀ later, z.stepNumber y.dispatched later = z.begin (task (.admitted false)) later) ∧
        (y.running = config.maxConcurrency → y.waits < config.maxPending → z.completions = y.completions ∧
          z.tasks = y.tasks ++ [task .queued] ∧ ∀ later, z.stepNumber y.dispatched later = z) := by
  refine ⟨idle prober config, new_eq_ok prober hpos hle, fun es ha => ?_⟩
  intro y
  have h : y.Staffed := Staffed.run (tallied_idle prober config) es ha
  have hconfig : y.config = config := config_run (idle prober config) es
  rw [← hconfig]
  have hcounted : y.waiting = y.waits := h.counted
  refine ⟨h.permits, hcounted ▸ h.places, hcounted, fun now hq hw => h.running_eq_of_quiescent hq hw, ?_⟩
  exact fun target epoch now hc => h.answer_dispatch hc target epoch now

/-- One permit and one place: the first probe hangs, the second waits, and when nothing can act any more the third is
skipped. -/
theorem running_le_and_waits_le_third_skipped :
    let prober : Prober := fun _ _ _ _ => none
    let target (id : TargetId) : Target := ⟨id, ⟨"localhost", 1⟩, .tcp, .ofSeconds 1, .ofSeconds 1⟩
    let config : ExecutorConfig := ⟨1, 1, .ofMillis 500⟩
    let es : Course := [(⟨0⟩, .dispatch (target "a") 1), (⟨0⟩, .dispatch (target "b") 2), (⟨1⟩, .turn 0)]
    1 ≤ config.maxConcurrency ∧ config.maxConcurrency ≤ ExecutorConfig.permitLimit ∧ (∀ e ∈ es, e.2 ≠ .abort) ∧
      ∃ x, Executor.new prober config = .ok x ∧ (x.run es).Quiescent ⟨1⟩ ∧ 0 < (x.run es).waits ∧ (x.run es).running = 1 ∧
        ((x.run es).dispatch (target "c") 3 ⟨2⟩).completions =
          [⟨3, .skipped "c" "probe queue full" (Instant.wallClock ⟨2⟩), ⟨2⟩⟩] := by
  intro prober target config es
  have hpos : 1 ≤ config.maxConcurrency := Nat.le_refl 1
  have hle : config.maxConcurrency ≤ ExecutorConfig.permitLimit := by decide
  have ha : ∀ e ∈ es, e.2 ≠ .abort := by simp [es]
  obtain ⟨x, hx, hall⟩ := running_le_and_waits_le prober config hpos hle
  obtain rfl : x = idle prober config := eq_idle_of_new hx
  obtain ⟨-, -, -, hbusy, hdispatch⟩ := hall es ha
  have hquiescent : ((idle prober config).run es).Quiescent ⟨1⟩ := by decide +kernel
  have hwaits : 0 < ((idle prober config).run es).waits := by decide +kernel
  have hrunning := hbusy ⟨1⟩ hquiescent hwaits
  have hfull : ((idle prober config).run es).waits = config.maxPending := by decide +kernel
  have hcancelled : ((idle prober config).run es).cancelled = false := by decide +kernel
  have hskip := (hdispatch (target "c") 3 ⟨2⟩ hcancelled).1.mpr ⟨hrunning, hfull⟩
  have hempty : ((idle prober config).run es).completions = [] := by decide +kernel
  rw [hempty, List.nil_append] at hskip
  exact ⟨hpos, hle, ha, _, hx, hquiescent, hwaits, hrunning, hskip⟩

end Executor

end TargetHealth
