import TargetHealth.Proofs.Executor.Rest

namespace TargetHealth.Executor

variable {x y : Executor} {t : ProbeTask} {now : Instant} {stranded : Nat}

/-- The gauge shows how many probes have begun and not ended. -/
structure Gauged (x : Executor) : Prop where
  numbered : x.Numbered
  exact : x.metrics.inFlight = x.active

theorem gauged_idle (prober : Prober) (config : ExecutorConfig) : (idle prober config).Gauged :=
  ⟨numbered_idle prober config, rfl⟩

theorem metrics_release (x : Executor) (number : Nat) : (x.release number).metrics = x.metrics := by
  unfold release handOver
  split <;> rfl

theorem active_release (hn : x.Numbered) (number : Nat) :
    (x.release number).active = (dropIn number x.tasks).countP (·.state.isRunning) := by
  have hrest : ((dropIn number x.tasks).map ProbeTask.number).Nodup := hn.nodup.sublist (List.filter_sublist.map _)
  have htasks : (x.release number).tasks = handOverIn (dropIn number x.tasks) := tasks_handOver _
  rw [active, htasks]
  rcases handOverIn_cases hrest with ⟨-, heq⟩ | ⟨u, -, hq, hold, hnew⟩
  · rw [heq]
  · rw [hnew.countP_eq, hold.countP_eq, List.countP_cons_of_neg Bool.false_ne_true,
      List.countP_cons_of_neg (by rw [hq]; exact Bool.false_ne_true)]

theorem active_eq (hn : x.Numbered) (ht : t ∈ x.tasks) :
    x.active = (dropIn t.number x.tasks).countP (·.state.isRunning) + if t.state.isRunning then 1 else 0 := by
  rw [active, (perm_dropIn hn.nodup ht).countP_eq, List.countP_cons]

theorem inFlight_finished (hn : x.Numbered) (number : Nat)
    (hg : x.metrics.inFlight = (dropIn number x.tasks).countP (·.state.isRunning) + 1) :
    (release { x with metrics := x.metrics.finished } number).metrics.inFlight =
      (release { x with metrics := x.metrics.finished } number).active := by
  let ended : Executor := { x with metrics := x.metrics.finished }
  have hactive : (ended.release number).active = (dropIn number x.tasks).countP (·.state.isRunning) :=
    active_release (x := ended) (hn.of_tasks rfl rfl rfl) number
  have hmetrics : (ended.release number).metrics.inFlight = x.metrics.inFlight - 1 :=
    congrArg ProbeMetrics.inFlight (metrics_release ended number)
  change (ended.release number).metrics.inFlight = (ended.release number).active
  rw [hmetrics, hactive, hg, Int.add_sub_cancel]

theorem inFlight_proceed (hn : x.Numbered) (ht : t ∈ x.tasks)
    (hg : x.metrics.inFlight = (dropIn t.number x.tasks).countP (·.state.isRunning) + 1) (probe : RunningProbe)
    (now : Instant) : (x.proceed t probe now).metrics.inFlight = (x.proceed t probe now).active := by
  unfold proceed
  split
  · exact inFlight_finished hn t.number hg
  · have hactive : (setIn t.number (.running probe) x.tasks).countP (·.state.isRunning) =
        (dropIn t.number x.tasks).countP (·.state.isRunning) + 1 := by
      rw [(perm_setIn hn.nodup ht (.running probe)).countP_eq, List.countP_cons_of_pos rfl]
    exact hg.trans (congrArg Nat.cast hactive.symm)

theorem Gauged.inFlight_release (h : x.Gauged) (ht : t ∈ x.tasks) (hs : t.state.isRunning = false) :
    (x.release t.number).metrics.inFlight = (x.release t.number).active := by
  rw [metrics_release, active_release h.numbered, h.exact, active_eq h.numbered ht, hs]
  rfl

theorem Gauged.inFlight_begin (h : x.Gauged) (ht : t ∈ x.tasks) (hs : t.state.isRunning = false) (now : Instant) :
    (x.begin t now).metrics.inFlight = (x.begin t now).active := by
  by_cases hf : t.target.FitsClock x.config.grace now
  · rw [begin_of_fits hf]
    refine inFlight_proceed ?_ ?_ ?_ _ now
    · exact h.numbered.of_tasks rfl rfl rfl
    · exact ht
    · have hactive := active_eq h.numbered ht
      rw [hs] at hactive
      show x.metrics.inFlight + 1 = _
      rw [h.exact, hactive]
      rfl
  · rw [begin_of_not_fits hf]
    exact h.inFlight_release ht hs

theorem Gauged.of_tasks (h : x.Gauged) (ht : y.tasks = x.tasks) (hm : y.metrics.inFlight = x.metrics.inFlight)
    (hd : y.dispatched = x.dispatched) (hb : y.abortedBelow = x.abortedBelow) : y.Gauged :=
  ⟨h.numbered.of_tasks ht hd hb, by rw [hm, h.exact, active, active, ht]⟩

theorem Gauged.discard (h : x.Gauged) (ht : t ∈ x.tasks) : (x.discard t).Gauged := by
  refine ⟨(keeps_discard x t).numbered h.numbered, ?_⟩
  have hactive := active_eq h.numbered ht
  cases hs : t.state with
  | queued =>
    rw [hs] at hactive
    simp only [Executor.discard, hs]
    exact h.exact.trans (congrArg Nat.cast hactive)
  | admitted waited =>
    simp only [Executor.discard, hs]
    exact h.inFlight_release ht (by rw [hs]; rfl)
  | running probe =>
    rw [hs] at hactive
    simp only [Executor.discard, hs]
    exact inFlight_finished h.numbered t.number (h.exact.trans (congrArg Nat.cast hactive))

theorem Gauged.step (h : x.Gauged) (ht : t ∈ x.tasks) (now : Instant) : (x.step t now).Gauged := by
  refine ⟨(keeps_step x t now).numbered h.numbered, ?_⟩
  have hleft : ({ x with waiting := x.waiting - 1 } : Executor).Gauged := h.of_tasks rfl rfl rfl rfl
  cases hs : t.state with
  | queued =>
    simp only [Executor.step, hs]
    split
    · have hactive := active_eq h.numbered ht
      rw [hs] at hactive
      exact h.exact.trans (congrArg Nat.cast hactive)
    · exact h.exact
  | admitted waited =>
    have hidle : t.state.isRunning = false := by rw [hs]; rfl
    cases waited with
    | false =>
      simp only [Executor.step, hs]
      exact h.inFlight_begin ht hidle now
    | true =>
      simp only [Executor.step, hs]
      split
      · exact hleft.inFlight_release ht hidle
      · exact hleft.inFlight_begin ht hidle now
  | running probe =>
    simp only [Executor.step, hs]
    refine inFlight_proceed h.numbered ht ?_ _ now
    have hactive := active_eq h.numbered ht
    rw [hs] at hactive
    exact h.exact.trans (congrArg Nat.cast hactive)

theorem Gauged.dispatch (h : x.Gauged) (target : Target) (epoch : Nat) (now : Instant) :
    (x.dispatch target epoch now).Gauged := by
  refine ⟨h.numbered.dispatch target epoch now, ?_⟩
  have hspawn (y : Executor) (state : TaskState) (ht : y.tasks = x.tasks) (hm : y.metrics = x.metrics)
      (hs : state.isRunning = false) :
      (y.spawn target epoch state).metrics.inFlight = (y.spawn target epoch state).active := by
    have hactive : (y.spawn target epoch state).active = x.active := by
      rw [active, spawn, ht, List.countP_append, List.countP_singleton, hs]
      rfl
    rw [hactive, ← h.exact, ← hm]
    rfl
  unfold Executor.dispatch
  split
  · exact h.exact
  · split
    · exact hspawn x _ rfl rfl rfl
    · split
      · exact h.exact
      · exact hspawn _ _ rfl rfl rfl

/-- Whatever happens to an executor, an abort included, leaves the gauge right. -/
theorem Gauged.react (h : x.Gauged) (now : Instant) (e : Event) : (x.react now e).Gauged := by
  cases e with
  | dispatch target epoch => exact h.dispatch target epoch now
  | turn number =>
    change (x.stepNumber number now).Gauged
    unfold stepNumber
    split
    · rename_i t ht
      split
      · exact h.discard (task?_some ht).1
      · exact h.step (task?_some ht).1 now
    · exact h
  | cancel | read | arrange agenda => exact h.of_tasks rfl rfl rfl rfl
  | abort => exact ⟨h.numbered.abortAll, h.exact⟩

theorem Gauged.run (h : x.Gauged) (es : Course) : (x.run es).Gauged := by
  induction es generalizing x with
  | nil => exact h
  | cons e es ih => exact ih (h.react e.1 e.2)

/-- The places in the queue that an event leaves taken without a task. -/
def Event.strands (x : Executor) : Event → Nat
  | abort => x.waits
  | _ => 0

def strandedIn (x : Executor) : Course → Nat
  | [] => 0
  | (now, e) :: es => e.strands x + strandedIn (x.react now e) es

theorem Tallied.react (h : x.Tallied stranded) (now : Instant) (e : Event) :
    (x.react now e).Tallied (stranded + e.strands x) := by
  cases e with
  | dispatch target epoch => exact h.dispatch target epoch now
  | turn number => exact h.stepNumber number now
  | cancel | read | arrange agenda => exact h.of_tasks rfl rfl rfl rfl rfl
  | abort =>
    have hwaits : x.abortAll.waits = 0 := by rw [waits, live_abortAll h.numbered]; rfl
    refine ⟨h.numbered.abortAll, ?_, h.permits, h.places, h.busy⟩
    show x.waiting = x.abortAll.waits + (stranded + x.waits)
    rw [h.counted, hwaits, Nat.zero_add, Nat.add_comm]

theorem Tallied.run (h : x.Tallied stranded) (es : Course) : (x.run es).Tallied (stranded + strandedIn x es) := by
  induction es generalizing x stranded with
  | nil => exact h
  | cons e es ih =>
    have hrest := ih (h.react e.1 e.2)
    rw [Nat.add_assoc] at hrest
    exact hrest

/-- No place stays taken exactly if no abort meets a task that waits. -/
theorem strandedIn_eq_zero_iff (x : Executor) (es : Course) :
    strandedIn x es = 0 ↔ ∀ before time after, es = before ++ (time, .abort) :: after → (x.run before).waits = 0 := by
  induction es generalizing x with
  | nil => exact iff_of_true rfl fun before _ _ heq => by cases before <;> cases heq
  | cons e es ih =>
    rw [strandedIn, Nat.add_eq_zero_iff, ih]
    constructor
    · rintro ⟨hfirst, hrest⟩ before time after heq
      cases before with
      | nil =>
        obtain ⟨rfl, -⟩ := List.cons.inj heq
        exact hfirst
      | cons e' before =>
        obtain ⟨rfl, hes⟩ := List.cons.inj heq
        exact hrest before time after hes
    · intro h
      refine ⟨?_, fun before time after heq => h (e :: before) time after (congrArg (e :: ·) heq)⟩
      obtain ⟨now, e⟩ := e
      cases e with
      | abort => exact h [] now es rfl
      | dispatch target epoch => rfl
      | turn number => rfl
      | cancel | read | arrange agenda => rfl

/-- Tasks that are without a permit. -/
def queued (x : Executor) : Nat := x.tasks.countP (·.state == .queued)

/-- When no task can act, every permit is held by a probe that runs, and who waits is without one. -/
theorem Quiescent.counts (hq : x.Quiescent now) (hn : x.Numbered) : x.running = x.active ∧ x.waits = x.queued := by
  have hstate (t : ProbeTask) (ht : t ∈ x.tasks) : t.state = .queued ∨ ∃ p, t.state = .running p :=
    (hq.task_cases hn ht).imp (fun h => h.1) fun ⟨p, hp, _⟩ => ⟨p, hp⟩
  rw [waits, hq.live_eq hn]
  refine ⟨List.countP_congr fun t ht => ?_, List.countP_congr fun t ht => ?_⟩
  · rcases hstate t ht with hs | ⟨p, hs⟩ <;> simp [hs, TaskState.holdsPermit, TaskState.isRunning]
  · rcases hstate t ht with hs | ⟨p, hs⟩ <;> simp [hs, TaskState.waits]

theorem react_of_live_eq_nil (hn : x.Numbered) (hx : x.live = []) (now : Instant) {e : Event} (he : e.dispatches = []) :
    (x.react now e).live = [] ∧ (x.react now e).waiting = x.waiting := by
  cases e with
  | dispatch target epoch => cases he
  | cancel | read | arrange agenda => exact ⟨hx, rfl⟩
  | abort => exact ⟨live_abortAll hn, rfl⟩
  | turn number =>
    refine ⟨(keeps_stepNumber x number now).live_eq_nil hx, ?_⟩
    change (x.stepNumber number now).waiting = x.waiting
    unfold stepNumber
    split
    · rename_i t ht
      rw [if_pos (live_eq_nil_iff.mp hx t (task?_some ht).1)]
      rcases discard_cases x t with ⟨-, h, -⟩ | ⟨-, h, -⟩ <;> exact h
    · rfl

theorem run_of_live_eq_nil (hn : x.Numbered) (hx : x.live = []) (es : Course) (hes : ∀ e ∈ es, e.2.dispatches = []) :
    (x.run es).live = [] ∧ (x.run es).waiting = x.waiting := by
  induction es generalizing x with
  | nil => exact ⟨hx, rfl⟩
  | cons e es ih =>
    obtain ⟨hlive, hwaiting⟩ := react_of_live_eq_nil hn hx e.1 (hes e List.mem_cons_self)
    have hrest := ih (hn.react e.1 e.2) hlive fun e he => hes e (List.mem_cons_of_mem _ he)
    exact ⟨hrest.1, hrest.2.trans hwaiting⟩

/-- After every course, aborts included: when no task can act, nobody is left who was aborted, as many permits are held and
the gauge is as high as probes run, and the count of waiting probes is that of the tasks without a permit and of those that
an abort stopped while they waited. So the count is right exactly if no abort met a task that waited. As long as nothing is
dispatched after an abort, no task is left to report and the count stays where the abort found it, and when no task can act
there is none, no permit is held and the gauge is at zero. A dispatch is skipped exactly if all permits are held, those
included that an aborted task holds until its turn, and all places are taken, by tasks or by those that were stopped. -/
theorem counts_after_aborts (prober : Prober) (config : ExecutorConfig) (x : Executor)
    (hx : Executor.new prober config = .ok x) (es : Course) :
    let y := x.run es
    (∀ now, y.Quiescent now → y.live = y.tasks ∧ y.metrics.inFlight = y.running ∧
      y.waiting = y.queued + strandedIn x es ∧
      (y.waiting = y.queued ↔
        ∀ before time after, es = before ++ (time, .abort) :: after → (x.run before).waits = 0)) ∧
    (∀ before time after, es = before ++ (time, .abort) :: after → (∀ e ∈ after, e.2.dispatches = []) →
      y.live = [] ∧ y.waiting = (x.run before).waiting ∧
      ∀ now, y.Quiescent now → y.tasks = [] ∧ y.running = 0 ∧ y.metrics.inFlight = 0) ∧
    ∀ target epoch now, y.cancelled = false →
      ((y.dispatch target epoch now).completions =
          y.completions ++ [⟨epoch, .skipped target.id "probe queue full" now.wallClock, now⟩] ↔
        y.running = config.maxConcurrency ∧ y.waits + strandedIn x es = config.maxPending) := by
  intro y
  obtain rfl : x = idle prober config := eq_idle_of_new hx
  have hgauged : y.Gauged := (gauged_idle prober config).run es
  have htallied : y.Tallied (strandedIn (idle prober config) es) := by
    have h := (tallied_idle prober config).run es
    rwa [Nat.zero_add] at h
  have hconfig : y.config = config := config_run (idle prober config) es
  refine ⟨fun now hq => ?_, fun before time after hes hafter => ?_, fun target epoch now hc => ?_⟩
  · obtain ⟨hrunning, hwaits⟩ := hq.counts hgauged.numbered
    have hcounted : y.waiting = y.queued + strandedIn (idle prober config) es := hwaits ▸ htallied.counted
    refine ⟨hq.live_eq hgauged.numbered, by rw [hgauged.exact, hrunning], hcounted, ?_⟩
    rw [← strandedIn_eq_zero_iff, hcounted]
    omega
  · have hy : y = (((idle prober config).run before).abortAll).run after := by
      show (idle prober config).run es = _
      rw [hes, run_append]
      rfl
    have hbefore : ((idle prober config).run before).Numbered := ((gauged_idle prober config).run before).numbered
    obtain ⟨hlive, hwaiting⟩ := run_of_live_eq_nil hbefore.abortAll (live_abortAll hbefore) after hafter
    rw [← hy] at hlive hwaiting
    refine ⟨hlive, hwaiting, fun now hq => ?_⟩
    have htasks : y.tasks = [] := (hq.live_eq hgauged.numbered).symm.trans hlive
    have hactive : y.active = 0 := by rw [active, htasks]; rfl
    exact ⟨htasks, by rw [running, htasks]; rfl, by rw [hgauged.exact, hactive]; rfl⟩
  · have hskip := (htallied.answer_dispatch hc target epoch now).1
    rwa [hconfig] at hskip

/-- One permit and one place: a probe that hangs is stopped while nobody waits, and holds its permit until its turn. The
next waits for it and begins, the one after it waits and is the only one counted, and the third is skipped. -/
theorem counts_after_aborts_running :
    let prober : Prober := fun _ _ _ _ => none
    let target (id : TargetId) : Target := ⟨id, ⟨"localhost", 1⟩, .tcp, .ofSeconds 60, .ofSeconds 60⟩
    let config : ExecutorConfig := ⟨1, 1, .ofMillis 500⟩
    let stopped : Course := [(⟨0⟩, .dispatch (target "a") 1), (⟨0⟩, .turn 0), (⟨1⟩, .abort)]
    let ended : Course := stopped ++ [(⟨1⟩, .turn 0)]
    let es : Course := stopped ++ [(⟨1⟩, .dispatch (target "b") 2), (⟨1⟩, .turn 0), (⟨1⟩, .turn 1),
      (⟨1⟩, .dispatch (target "c") 2)]
    let x := idle prober config
    Executor.new prober config = .ok x ∧ (x.run es).Quiescent ⟨1⟩ ∧
      (∀ before time after, es = before ++ (time, .abort) :: after → (x.run before).waits = 0) ∧
      (x.run es).metrics.inFlight = 1 ∧ (x.run es).waiting = (x.run es).queued ∧ (x.run es).cancelled = false ∧
      ((x.run es).dispatch (target "d") 2 ⟨1⟩).completions =
        [⟨2, .skipped "d" "probe queue full" (Instant.wallClock ⟨1⟩), ⟨1⟩⟩] ∧
      (x.run stopped).live = [] ∧ (x.run stopped).running = 1 ∧ (x.run ended).Quiescent ⟨1⟩ ∧ (x.run ended).tasks = [] ∧
      (x.run ended).metrics.inFlight = 0 := by
  intro prober target config stopped ended es x
  have hx : Executor.new prober config = .ok x := rfl
  obtain ⟨hrest, -, hskips⟩ := counts_after_aborts prober config x hx es
  obtain ⟨-, hstopped, -⟩ := counts_after_aborts prober config x hx stopped
  obtain ⟨-, hended, -⟩ := counts_after_aborts prober config x hx ended
  have hq : (x.run es).Quiescent ⟨1⟩ := by decide +kernel
  have hnone : ∀ before time after, es = before ++ (time, .abort) :: after → (x.run before).waits = 0 :=
    (strandedIn_eq_zero_iff x es).mp (by decide +kernel)
  obtain ⟨-, hgauge, -, hwaiting⟩ := hrest ⟨1⟩ hq
  have hc : (x.run es).cancelled = false := by decide +kernel
  have hfull : (x.run es).running = 1 ∧ (x.run es).waits + strandedIn x es = 1 := by decide +kernel
  have hskip := (hskips (target "d") 2 ⟨1⟩ hc).mpr hfull
  have hempty : (x.run es).completions = [] := by decide +kernel
  rw [hempty, List.nil_append] at hskip
  let before : Course := [(⟨0⟩, .dispatch (target "a") 1), (⟨0⟩, .turn 0)]
  obtain ⟨hlive, -⟩ := hstopped before ⟨1⟩ [] rfl (by simp)
  obtain ⟨-, -, hgone⟩ := hended before ⟨1⟩ [(⟨1⟩, .turn 0)] rfl (by simp [Event.dispatches])
  have hqended : (x.run ended).Quiescent ⟨1⟩ := by decide +kernel
  obtain ⟨htasks, -, hzero⟩ := hgone ⟨1⟩ hqended
  exact ⟨hx, hq, hnone, by rw [hgauge, hfull.1]; rfl, hwaiting.mpr hnone, hc, hskip, hlive, by decide +kernel, hqended,
    htasks, hzero⟩

/-- One permit and one place: two probes that hang are stopped. Once both have had their turn the permit is free, the gauge
is at zero and no task is left, but one probe is still counted as waiting. The next probe takes the permit, and the one
after it is skipped although no probe waits. -/
theorem waiting_of_aborted_queue :
    let prober : Prober := fun _ _ _ _ => none
    let target (id : TargetId) : Target := ⟨id, ⟨"localhost", 1⟩, .tcp, .ofSeconds 60, .ofSeconds 60⟩
    let es : Course := [(⟨0⟩, .dispatch (target "a") 1), (⟨0⟩, .dispatch (target "b") 1), (⟨0⟩, .turn 0), (⟨1⟩, .abort),
      (⟨1⟩, .turn 0), (⟨1⟩, .turn 1)]
    let x := idle prober ⟨1, 1, .ofMillis 500⟩
    let y := x.run es
    let z := y.run [(⟨1⟩, .dispatch (target "c") 2), (⟨1⟩, .turn 2)]
    Executor.new prober ⟨1, 1, .ofMillis 500⟩ = .ok x ∧ y.Quiescent ⟨1⟩ ∧ y.tasks = [] ∧ y.running = 0 ∧
      y.metrics.inFlight = 0 ∧ y.waiting = 1 ∧ z.Quiescent ⟨1⟩ ∧ z.queued = 0 ∧ z.running = 1 ∧
      (z.dispatch (target "d") 2 ⟨1⟩).completions =
        [⟨2, .skipped "d" "probe queue full" (Instant.wallClock ⟨1⟩), ⟨1⟩⟩] := by
  intro prober target es x y z
  refine ⟨rfl, ?_⟩
  decide +kernel

end TargetHealth.Executor
