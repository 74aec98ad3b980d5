import TargetHealth.Proofs.Config.Acceptance
import TargetHealth.Proofs.Monitor.Order

namespace TargetHealth

namespace Monitor

theorem checkTargets_eq_ok {targets : List Target}
    (h : ∀ t ∈ targets, t.interval.isZero = false ∧ t.timeout.isZero = false) : checkTargets targets = .ok () := by
  induction targets with
  | nil => rfl
  | cons t targets ih =>
    obtain ⟨hinterval, htimeout⟩ := h t List.mem_cons_self
    unfold checkTargets
    rw [if_neg (by simp [hinterval]), if_neg (by simp [htimeout])]
    exact ih fun u hu => h u (List.mem_cons_of_mem _ hu)

theorem checkTargets_of_targetsOf {files : FileReader} {c : Config} {targets : List Target}
    (h : CommandLine.targetsOf files c = .ok targets) : checkTargets targets = .ok () := by
  refine checkTargets_eq_ok fun t ht => ?_
  obtain ⟨config, -, hmade⟩ := CommandLine.exists_of_mem_targetsOf h ht
  obtain ⟨hvalid, -, hinterval, htimeout⟩ := Target.of_ofConfig hmade
  obtain ⟨hseconds, hmillis⟩ := TargetConfig.positive_of_validate hvalid
  rw [hinterval, htimeout, Duration.not_isZero_iff, Duration.not_isZero_iff]
  exact ⟨Nat.mul_pos (Nat.pos_of_ne_zero hseconds) (by decide), Nat.mul_pos (Nat.pos_of_ne_zero hmillis) (by decide)⟩

variable {now : Instant} {prober : Prober} {settings : Settings} {targets : List Target} {pick : TargetId → Nat}

/-- Past the checks a start comes down to the permits and to the room for the windows. -/
theorem start_of_checks {registry : Registry} (hv : settings.validate = .ok ()) (ht : checkTargets targets = .ok ())
    (hr : Registry.new targets = .ok registry) (hc : settings.maxConcurrency ≠ 0) :
    start (some now) prober settings targets pick =
      if ExecutorConfig.permitLimit < settings.maxConcurrency then
        .ok (.error (.resourceExhausted (.tooManyPermits settings.maxConcurrency)))
      else (Roster.start registry ⟨settings.failureThreshold, settings.latencyWindow, settings.backoff⟩
        (firstDue now settings.jitter pick)).map fun roster => .ok ⟨roster,
          { Executor.idle prober settings.executorConfig with agenda := Agenda.empty.wake .reader },
          settings.jitter, settings.drainTimeout, .starting, false, false⟩ := by
  have hnew : Executor.new prober settings.executorConfig =
      if ExecutorConfig.permitLimit < settings.maxConcurrency then .error (.tooManyPermits settings.maxConcurrency)
      else .ok (.idle prober settings.executorConfig) := by
    have hcheck : settings.executorConfig.check = if ExecutorConfig.permitLimit < settings.maxConcurrency then
        .error (.tooManyPermits settings.maxConcurrency) else .ok () := if_neg hc
    rw [Executor.new, hcheck]
    split <;> rfl
  simp only [start, hv, ht, hnew, hr]
  by_cases hlimit : ExecutorConfig.permitLimit < settings.maxConcurrency
  · rw [if_pos hlimit, if_pos hlimit]
    rfl
  · rw [if_neg hlimit, if_neg hlimit]
    dsimp only
    cases Roster.start registry _ _ <;> rfl

theorem start_of_unreservable {registry : Registry} (hv : settings.validate = .ok ())
    (ht : checkTargets targets = .ok ()) (hr : Registry.new targets = .ok registry) (hc : settings.maxConcurrency ≠ 0)
    (hlimit : settings.maxConcurrency ≤ ExecutorConfig.permitLimit) (htargets : targets ≠ [])
    (hw : LatencyWindow.canReserve (max settings.latencyWindow 1) = false) :
    start (some now) prober settings targets pick = .error .windowCapacity := by
  have hids : registry.current.ids ≠ [] := by
    intro hnil
    have hlength := RegistrySnapshot.length_ids_build (Registry.new_eq_ok hr)
    rw [hnil, List.length_nil] at hlength
    exact htargets (List.length_eq_zero_iff.mp hlength.symm)
  have hstore := StateStore.withTargets_of_unreservable
    ⟨settings.failureThreshold, settings.latencyWindow, settings.backoff⟩ hids hw
  rw [start_of_checks hv ht hr hc, if_neg (Nat.not_lt.mpr hlimit), Roster.start, hstore]
  rfl

/-- A configuration that was accepted, from a text or from a file and an environment, with targets that were all made,
starts to monitor exactly if there are as many permits as it asks for and room for its windows. Of what else it says
nothing is refused. -/
theorem exists_start_iff_of_config (c : Config)
    (hc : (∃ format text, Config.parse format text = .ok c) ∨
      ∃ files environment path, Config.load files environment path = .ok c)
    (files : FileReader) (targets : List Target) (ht : CommandLine.targetsOf files c = .ok targets) (now : Instant)
    (prober : Prober) (pick : TargetId → Nat) :
    let answer := start (some now) prober c.settings targets pick
    let permits := c.settings.maxConcurrency
    let reservable := LatencyWindow.canReserve c.settings.latencyWindow
    ((∃ m, answer = .ok (.ok m)) ↔ permits ≤ ExecutorConfig.permitLimit ∧ reservable = true) ∧
    (ExecutorConfig.permitLimit < permits → answer = .ok (.error (.resourceExhausted (.tooManyPermits permits)))) ∧
    (permits ≤ ExecutorConfig.permitLimit → reservable = false → answer = .error .windowCapacity) := by
  intro answer permits reservable
  have haccepted : c.Accepted := by
    rcases hc with ⟨format, text, h⟩ | ⟨files, environment, path, h⟩
    · exact Config.accepted_of_parse h
    · exact Config.accepted_of_load h
  have hids := CommandLine.ids_of_targetsOf ht
  obtain ⟨snapshot, hb⟩ := RegistrySnapshot.exists_build 0 (hids ▸ haccepted.distinct)
  have hregistry : Registry.new targets = .ok ⟨snapshot⟩ := by rw [Registry.new, hb]; rfl
  have hanswer : answer = _ := start_of_checks haccepted.settings (checkTargets_of_targetsOf ht) hregistry
    haccepted.permits
  have hwindow : max c.settings.latencyWindow 1 = c.settings.latencyWindow :=
    Nat.max_eq_left (Settings.window_of_validate haccepted.settings)
  have htoomany (hlimit : ExecutorConfig.permitLimit < permits) :
      answer = .ok (.error (.resourceExhausted (.tooManyPermits permits))) := by rw [hanswer, if_pos hlimit]
  have hfull (hlimit : permits ≤ ExecutorConfig.permitLimit) (hw : reservable = false) :
      answer = .error .windowCapacity := by
    have htargets : targets ≠ [] := by
      rintro rfl
      exact haccepted.targets (List.map_eq_nil_iff.mp hids.symm)
    exact start_of_unreservable haccepted.settings (checkTargets_of_targetsOf ht) hregistry haccepted.permits hlimit
      htargets (by rw [hwindow]; exact hw)
  have hroom (hlimit : permits ≤ ExecutorConfig.permitLimit) (hw : reservable = true) : ∃ m, answer = .ok (.ok m) := by
    obtain ⟨store, hstore⟩ := StateStore.exists_foldlM_register snapshot.ids
      (.new ⟨c.settings.failureThreshold, c.settings.latencyWindow, c.settings.backoff⟩) (by
        change LatencyWindow.canReserve (max c.settings.latencyWindow 1) = true
        rw [hwindow]
        exact hw)
    have hseeded : StateStore.withTargets
        ⟨c.settings.failureThreshold, c.settings.latencyWindow, c.settings.backoff⟩ snapshot.ids = .ok store := hstore
    rw [hanswer, if_neg (Nat.not_lt.mpr hlimit), Roster.start, hseeded]
    exact ⟨_, rfl⟩
  refine ⟨⟨?_, fun h => hroom h.1 h.2⟩, htoomany, hfull⟩
  rintro ⟨m, hm⟩
  have hlimit : permits ≤ ExecutorConfig.permitLimit := by
    refine Nat.not_lt.mp fun hlimit => ?_
    rw [htoomany hlimit] at hm
    cases hm
  refine ⟨hlimit, ?_⟩
  by_contra hw
  rw [hfull hlimit (Bool.eq_false_iff.mpr hw)] at hm
  cases hm

/-- A configuration that leaves every setting at its default starts. -/
theorem exists_start_of_defaults :
    ∃ c targets m,
      Config.parse .yaml "targets:\n  - id: a\n    host: localhost\n    port: 1\n    protocol: tcp\n" = .ok c ∧
      CommandLine.targetsOf (fun _ => .error .notFound) c = .ok targets ∧
      start (some ⟨0⟩) (fun _ _ _ _ => none) c.settings targets (fun _ => 0) = .ok (.ok m) := by
  let c : Config := { targets := [{ id := "a", host := some "localhost", port := some 1, protocol := .tcp }] }
  let targets : List Target := [⟨"a", ⟨"localhost", 1⟩, .tcp, .ofSeconds 30, .ofMillis 5000⟩]
  have hc : Config.parse .yaml "targets:\n  - id: a\n    host: localhost\n    port: 1\n    protocol: tcp\n" = .ok c := by
    decide +kernel
  have ht : CommandLine.targetsOf (fun _ => .error .notFound) c = .ok targets := by decide +kernel
  obtain ⟨m, hm⟩ := (exists_start_iff_of_config c (.inl ⟨_, _, hc⟩) (fun _ => .error .notFound) targets ht ⟨0⟩
    (fun _ _ _ _ => none) (fun _ => 0)).1.mpr (by decide)
  exact ⟨c, targets, m, hc, ht, hm⟩

/-- One permit too many, or a window that no memory holds, is accepted in a configuration and stops the start: the first
with an error, the second with a fault. -/
theorem start_refused_of_config :
    let text (setting : String) := "settings:\n  " ++ setting ++
      "\ntargets:\n  - id: a\n    host: localhost\n    port: 1\n    protocol: tcp\n"
    let answer (c : Config) (targets : List Target) :=
      start (some ⟨0⟩) (fun _ _ _ _ => none) c.settings targets (fun _ => 0)
    (∃ c targets, Config.parse .yaml (text "max_concurrency: 2305843009213693952") = .ok c ∧
      CommandLine.targetsOf (fun _ => .error .notFound) c = .ok targets ∧
      answer c targets = .ok (.error (.resourceExhausted (.tooManyPermits 2305843009213693952)))) ∧
    ∃ c targets, Config.parse .yaml (text "latency_window: 576460752303423488") = .ok c ∧
      CommandLine.targetsOf (fun _ => .error .notFound) c = .ok targets ∧
      answer c targets = .error .windowCapacity := by
  intro text answer
  let entry : TargetConfig := { id := "a", host := some "localhost", port := some 1, protocol := .tcp }
  let targets : List Target := [⟨"a", ⟨"localhost", 1⟩, .tcp, .ofSeconds 30, .ofMillis 5000⟩]
  have hregistry : Registry.new targets = .ok ⟨⟨0, ⟨targets.map fun t => (t.id, t)⟩⟩⟩ := by decide +kernel
  refine ⟨⟨{ settings := { maxConcurrency := 2305843009213693952 }, targets := [entry] }, targets, ?_, ?_, ?_⟩,
    ⟨{ settings := { latencyWindow := 576460752303423488 }, targets := [entry] }, targets, ?_, ?_, ?_⟩⟩
  case refine_3 => exact (start_of_checks rfl rfl hregistry (by decide)).trans (if_pos (by decide))
  case refine_6 =>
    exact start_of_unreservable rfl rfl hregistry (by decide) (by decide) (List.cons_ne_nil _ _) (by decide)
  all_goals decide +kernel

end Monitor

end TargetHealth
