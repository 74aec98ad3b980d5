import TargetHealth.Proofs.Executor.Aborts
import TargetHealth.Proofs.Executor.Verdict
import TargetHealth.Proofs.Metrics.Probes

namespace TargetHealth

/-- A prober that reports a latency exactly with its successes. -/
def Prober.TimesSuccesses (prober : Prober) : Prop :=
  ∀ target call start context t r, prober target call start context = some (t, .reported r) → r.Timed

theorem ProbeResult.timed_failure (id : TargetId) {outcome : Outcome} (ho : outcome ≠ .success) (message : String)
    (at_ : Timestamp) : (failure id outcome message at_).Timed := iff_of_false Bool.false_ne_true ho

theorem ProbeResult.timed_skipped (id : TargetId) (reason : String) (at_ : Timestamp) : (skipped id reason at_).Timed :=
  timed_failure id (by decide) reason at_

theorem ProbeResult.timed_cancelled (id : TargetId) (at_ : Timestamp) : (cancelled id at_).Timed :=
  iff_of_false Bool.false_ne_true nofun

/-- Whatever ends a probe, its result bears a latency exactly if it is a success. -/
theorem RunningProbe.timed_of_result? {p : RunningProbe} {prober : Prober} {grace : Duration} {target : Target}
    {now : Instant} {r : ProbeResult} (hp : prober.TimesSuccesses) (h : p.result? prober grace target now = some r) :
    r.Timed := by
  rcases result?_cases h with ⟨t, ending, hcall, -, rfl⟩ | ⟨-, rfl⟩ | ⟨t, -, -, rfl⟩
  · cases ending with
    | reported r => exact hp _ _ _ _ _ r hcall
    | panicked => exact ProbeResult.timed_skipped _ _ _
  · exact ProbeResult.timed_failure _ (by decide) _ _
  · exact ProbeResult.timed_cancelled _ _

namespace Executor

/-- From one state of an executor to another: what is sent in between, which is what is recorded. What the reader has
taken comes before what is left. -/
structure Sends (x : Executor) (read : List Completion) (y : Executor) (new : List Completion) : Prop where
  completions : read ++ y.completions = x.completions ++ new
  recorded : ∃ gauge, y.metrics = { (new.map Completion.result).foldl ProbeMetrics.record x.metrics with inFlight := gauge }
  timed : ∀ c ∈ new, c.result.Timed

variable {x y z : Executor} {read read' new : List Completion}

theorem sends_nothing (hc : read ++ y.completions = x.completions)
    (hm : ∃ gauge, y.metrics = { x.metrics with inFlight := gauge }) : x.Sends read y [] :=
  ⟨by rw [hc, List.append_nil], hm, fun _ h => nomatch h⟩

theorem sends_send (x : Executor) (epoch : Nat) {r : ProbeResult} (hr : r.Timed) (now : Instant) :
    x.Sends [] (x.send epoch r now) [⟨epoch, r, now⟩] where
  completions := rfl
  recorded := ⟨_, rfl⟩
  timed c hc := by
    cases List.mem_singleton.mp hc
    exact hr

theorem Sends.of_start (h : y.Sends [] z new) (hc : y.completions = x.completions)
    (hm : ∃ gauge, y.metrics = { x.metrics with inFlight := gauge }) : x.Sends [] z new where
  completions := hc ▸ h.completions
  recorded := by
    obtain ⟨gauge, hgauge⟩ := hm
    obtain ⟨gauge', hrecorded⟩ := h.recorded
    rw [hgauge, ProbeMetrics.foldl_record_withGauge] at hrecorded
    exact ⟨gauge', hrecorded⟩
  timed := h.timed

theorem exists_sends_proceed (hp : x.prober.TimesSuccesses) (t : ProbeTask) (p : RunningProbe) (now : Instant) :
    ∃ new, x.Sends [] (x.proceed t p now) new := by
  unfold proceed
  split
  · rename_i r hr
    refine ⟨_, (sends_send _ t.epoch (RunningProbe.timed_of_result? hp hr) now).of_start ?_ ?_⟩
    · exact completions_release _ _
    · exact ⟨_, metrics_release _ _⟩
  · exact ⟨[], sends_nothing rfl ⟨_, rfl⟩⟩

theorem exists_sends_begin (hp : x.prober.TimesSuccesses) (t : ProbeTask) (now : Instant) :
    ∃ new, x.Sends [] (x.begin t now) new := by
  by_cases hf : t.target.FitsClock x.config.grace now
  · rw [begin_of_fits hf]
    obtain ⟨new, hnew⟩ := exists_sends_proceed (x := { x with
      calls := x.calls.insert t.target.id ((x.calls.get? t.target.id).getD 0 + 1)
      peak := max x.peak (x.active + 1)
      metrics := x.metrics.started }) hp t _ now
    exact ⟨new, hnew.of_start rfl ⟨_, rfl⟩⟩
  · rw [begin_of_not_fits hf]
    exact ⟨[], sends_nothing (completions_release _ _) ⟨_, metrics_release _ _⟩⟩

theorem sends_giveUp (x : Executor) (t : ProbeTask) (now : Instant) :
    x.Sends [] (x.giveUp t now) [⟨t.epoch, .cancelled t.target.id now.wallClock, now⟩] :=
  sends_send x t.epoch (ProbeResult.timed_cancelled _ _) now

theorem exists_sends_step (hp : x.prober.TimesSuccesses) (t : ProbeTask) (now : Instant) :
    ∃ new, x.Sends [] (x.step t now) new := by
  cases hs : t.state with
  | queued =>
    simp only [step, hs]
    split
    · exact ⟨_, (sends_giveUp _ t now).of_start rfl ⟨_, rfl⟩⟩
    · exact ⟨[], sends_nothing rfl ⟨_, rfl⟩⟩
  | admitted waited =>
    cases waited with
    | false =>
      simp only [step, hs]
      exact exists_sends_begin hp t now
    | true =>
      simp only [step, hs]
      split
      · exact ⟨_, (sends_giveUp _ t now).of_start (completions_release _ _) ⟨_, metrics_release _ _⟩⟩
      · obtain ⟨new, hnew⟩ := exists_sends_begin (x := { x with waiting := x.waiting - 1 }) hp t now
        exact ⟨new, hnew.of_start rfl ⟨_, rfl⟩⟩
  | running probe =>
    simp only [step, hs]
    exact exists_sends_proceed hp t _ now

theorem sends_discard (x : Executor) (t : ProbeTask) : x.Sends [] (x.discard t) [] := by
  unfold discard
  split
  · exact sends_nothing rfl ⟨_, rfl⟩
  · exact sends_nothing (completions_release _ _) ⟨_, metrics_release _ _⟩
  · exact sends_nothing (completions_release _ _) ⟨_, metrics_release _ _⟩

theorem exists_sends_dispatch (x : Executor) (target : Target) (epoch : Nat) (now : Instant) :
    ∃ new, x.Sends [] (x.dispatch target epoch now) new := by
  unfold dispatch
  split
  · exact ⟨_, sends_send x epoch (ProbeResult.timed_cancelled _ _) now⟩
  · split
    · exact ⟨[], sends_nothing rfl ⟨_, rfl⟩⟩
    · split
      · exact ⟨_, sends_send x epoch (ProbeResult.timed_skipped _ _ _) now⟩
      · exact ⟨[], sends_nothing rfl ⟨_, rfl⟩⟩

theorem exists_sends_react (hp : x.prober.TimesSuccesses) (now : Instant) (e : Event) :
    ∃ new, x.Sends (e.reads x) (x.react now e) new := by
  cases e with
  | dispatch target epoch => exact exists_sends_dispatch x target epoch now
  | turn number =>
    change ∃ new, x.Sends [] (x.stepNumber number now) new
    unfold stepNumber
    split
    · split
      · exact ⟨[], sends_discard x _⟩
      · exact exists_sends_step hp _ now
    · exact ⟨[], sends_nothing rfl ⟨_, rfl⟩⟩
  | read =>
    have hread : x.completions.take 1 ++ x.completions.tail = x.completions := by
      rw [← List.drop_one, List.take_append_drop]
    exact ⟨[], sends_nothing hread ⟨_, rfl⟩⟩
  | cancel | arrange agenda | abort => exact ⟨[], sends_nothing rfl ⟨_, rfl⟩⟩

/-- Of all that has been sent it is recorded what it says, and nothing else is recorded. -/
structure Booked (x : Executor) (sent : List Completion) : Prop where
  tells : x.metrics.Tells (sent.map Completion.result)
  timed : ∀ c ∈ sent, c.result.Timed

theorem booked_idle (prober : Prober) (config : ExecutorConfig) : (idle prober config).Booked [] :=
  ⟨ProbeMetrics.tells_empty, fun _ h => nomatch h⟩

theorem Booked.sends (h : x.Booked (read ++ x.completions)) (hs : x.Sends read' y new) :
    y.Booked (read ++ read' ++ y.completions) := by
  rw [List.append_assoc, hs.completions, ← List.append_assoc]
  constructor
  · obtain ⟨gauge, hrecorded⟩ := hs.recorded
    rw [hrecorded, List.map_append]
    exact (ProbeMetrics.tells_foldl_record h.tells _).withGauge gauge
  · intro c hc
    exact (List.mem_append.mp hc).elim (h.timed c) (hs.timed c)

theorem Booked.run (read : List Completion) (h : x.Booked (read ++ x.completions)) (hp : x.prober.TimesSuccesses)
    (es : Course) : (x.run es).Booked (read ++ readsIn x es ++ (x.run es).completions) := by
  induction es generalizing x read with
  | nil => rwa [readsIn, List.append_nil]
  | cons e es ih =>
    obtain ⟨now, e⟩ := e
    obtain ⟨new, hnew⟩ := exists_sends_react hp now e
    have hrest := ih _ (h.sends hnew) ((prober_react x now e).symm ▸ hp)
    rwa [List.append_assoc read] at hrest

/-- After every course, aborts included: the metrics add up to all the completions that were sent in it, read or not, and
whenever no task can act, the gauge shows how many tasks hold a permit. -/
theorem metrics_add_up (prober : Prober) (config : ExecutorConfig) (x : Executor) (hx : Executor.new prober config = .ok x)
    (hp : prober.TimesSuccesses) (es : Course) :
    let y := x.run es
    y.metrics.AddUp ((readsIn x es ++ y.completions).map Completion.result) ∧
      ∀ now, y.Quiescent now → y.metrics.inFlight = y.running ∧
        y.metrics.inFlightFamily.samples = [⟨"", [], Float.ofInt y.running⟩] := by
  intro y
  obtain rfl : x = idle prober config := eq_idle_of_new hx
  have hgauged : y.Gauged := (gauged_idle prober config).run es
  have hbooked : y.Booked (readsIn (idle prober config) es ++ y.completions) :=
    Booked.run [] (booked_idle prober config) hp es
  refine ⟨hbooked.tells.addUp fun r hr => ?_, fun now hq => ?_⟩
  · obtain ⟨c, hc, rfl⟩ := List.mem_map.mp hr
    exact hbooked.timed c hc
  · have hgauge : y.metrics.inFlight = y.running := by rw [hgauged.exact, (hq.counts hgauged.numbered).1]
    exact ⟨hgauge, by rw [ProbeMetrics.inFlightFamily, hgauge]⟩

/-- Two permits and one place: a probe that succeeds under another id, one that breaks down, one that hangs and is stopped,
and one that is skipped. After the abort a probe begins, and one that comes after the cancellation does not. -/
theorem metrics_add_up_all_endings :
    let prober : Prober := fun target _ start _ =>
      if target.id = "a" then some (start, .reported (.success "other" (.ofMillis 20) start.wallClock))
      else if target.id = "b" then some (start, .panicked)
      else none
    let target (id : TargetId) : Target := ⟨id, ⟨"localhost", 1⟩, .tcp, .ofSeconds 1, .ofSeconds 1⟩
    let es : Course := [(⟨0⟩, .dispatch (target "a") 1), (⟨0⟩, .dispatch (target "b") 1), (⟨0⟩, .dispatch (target "c") 1),
      (⟨0⟩, .dispatch (target "d") 1), (⟨1⟩, .turn 0), (⟨1⟩, .turn 1), (⟨1⟩, .turn 2), (⟨2⟩, .read), (⟨2⟩, .abort), (⟨3⟩, .turn 2),
      (⟨3⟩, .dispatch (target "e") 2), (⟨3⟩, .turn 3), (⟨4⟩, .cancel), (⟨4⟩, .turn 3), (⟨4⟩, .dispatch (target "f") 2)]
    let x := idle prober ⟨2, 1, .ofMillis 500⟩
    let m := (x.run es).metrics
    Executor.new prober ⟨2, 1, .ofMillis 500⟩ = .ok x ∧ prober.TimesSuccesses ∧ (x.run es).Quiescent ⟨4⟩ ∧
      m.resultCount .success "a" = 1 ∧ m.resultCount .skipped "b" = 1 ∧ m.resultCount .skipped "d" = 1 ∧
      m.resultCount .cancelled "f" = 1 ∧ m.resultFamily.Shows "" [("outcome", "timeout"), ("target", "c")] 0 ∧
      m.inFlight = 1 := by
  intro prober target es x m
  have hx : Executor.new prober ⟨2, 1, .ofMillis 500⟩ = .ok x := rfl
  have hp : prober.TimesSuccesses := by
    intro target call start context t r h
    simp only [prober] at h
    split at h
    · cases h
      exact iff_of_true rfl rfl
    · split at h <;> cases h
  obtain ⟨hcounts, hgauge⟩ := metrics_add_up prober _ x hx hp es
  have hq : (x.run es).Quiescent ⟨4⟩ := by decide +kernel
  have hcounted : let rs := (readsIn x es ++ (x.run es).completions).map Completion.result
      countOf .success "a" rs = 1 ∧ countOf .skipped "b" rs = 1 ∧ countOf .skipped "d" rs = 1 ∧
        countOf .cancelled "f" rs = 1 ∧ countOf .timeout "c" rs = 0 ∧ (x.run es).running = 1 := by decide +kernel
  obtain ⟨ha, hb, hd, hf, hc, hrunning⟩ := hcounted
  refine ⟨hx, hp, hq, ?_, ?_, ?_, ?_, ?_, ?_⟩
  · rw [hcounts.results, ha]
  · rw [hcounts.results, hb]
  · rw [hcounts.results, hd]
  · rw [hcounts.results, hf]
  · exact hc ▸ hcounts.resultsShown .timeout "c"
  · rw [(hgauge ⟨4⟩ hq).1, hrunning]
    rfl

end Executor

end TargetHealth
