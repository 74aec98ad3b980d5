import TargetHealth.Proofs.Monitor.Clockwork
import TargetHealth.Proofs.Monitor.Hosting

namespace TargetHealth

namespace Monitor

theorem firstDue_of_not_jittered {settings : Settings} (h : settings.jitterMs = 0) (now : Instant) (pick : TargetId → Nat)
    (id : TargetId) : firstDue now settings.jitter pick id = now := by
  rw [firstDue, Settings.jitter, h]
  rfl

def Course.upTo (es : Course) (u : Instant) : Course := es.takeWhile (fun e => e.1 ≤ u)

theorem Course.append_upTo (es : Course) (u : Instant) : ∃ es', es = es.upTo u ++ es' :=
  ⟨_, List.takeWhile_append_dropWhile.symm⟩

/-- Nothing comes up before an instant: no probe is over, no completion is unread, and whoever is not in flight is due later. -/
def ComesToNothing (m : Monitor) (later : Instant) : Prop :=
  m.executor.LastsUntil later ∧ m.executor.completions = [] ∧
    ∀ slot ∈ m.roster.scheduler.queue, m.roster.scheduler.isInFlight slot.2 = false → later ≤ slot.1

instance (m : Monitor) (later : Instant) : Decidable (m.ComesToNothing later) :=
  inferInstanceAs (Decidable (m.executor.LastsUntil later ∧ m.executor.completions = [] ∧
    ∀ slot ∈ m.roster.scheduler.queue, m.roster.scheduler.isInFlight slot.2 = false → later ≤ slot.1))

/-- A run of a monitor with permits for all its targets, from its start to an instant at which nothing is left to do. Nobody
reloads or stops it, no due time lies past the end of the clock, and the clock waits until all is done that can be done. -/
structure Serves (settings : Settings) (now later : Instant) (prober : Prober) (targets : List Target) (m : Monitor)
    (es : Course) : Prop where
  started : ∃ pick, start (some now) prober settings targets pick = .ok (.ok m)
  permits : targets.length ≤ settings.maxConcurrency
  paced : Paced Chronicle.react Chronicle.RestsUntil (Chronicle.ofStart m) now es later
  routine : ∀ e ∈ es, e.2.Routine
  whole : m.Whole es
  rests : (m.run es).Rests later

/-- A monitor that is left to itself serves its targets, unless a due time lies past the end of the clock. -/
theorem exists_serves_runUntil {settings : Settings} {now later : Instant} {prober : Prober} {targets : List Target}
    {pick : TargetId → Nat} {m : Monitor} (hm : start (some now) prober settings targets pick = .ok (.ok m))
    (hpermits : targets.length ≤ settings.maxConcurrency) (hle : now ≤ later) :
    (m.runUntil now later).OutOfClock later ∨
      ∃ es, m.Serves settings now later prober targets es ∧ m.run es = m.runUntil now later := by
  refine (reaches_runUntil hm hle).imp_right fun ⟨hreaches, hrests⟩ => ?_
  obtain ⟨es, hpaced, hroutine, hwhole, hrun⟩ := hreaches.course
  exact ⟨es, ⟨⟨pick, hm⟩, hpermits, hpaced, hroutine, hwhole, hrun.symm ▸ hrests⟩, hrun⟩

end Monitor

namespace Chronicle

variable {k : Chronicle} {now later u : Instant} {es : Monitor.Course}

def Awaits (k : Chronicle) (now later : Instant) : Prop :=
  now ≤ later ∧ (now < later → k.monitor.executor.Quiescent now ∧ k.monitor.ComesToNothing later)

instance (k : Chronicle) (now later : Instant) : Decidable (k.Awaits now later) :=
  inferInstanceAs (Decidable (now ≤ later ∧
    (now < later → k.monitor.executor.Quiescent now ∧ k.monitor.ComesToNothing later)))

theorem Awaits.restsUntil (h : k.Awaits now later) : k.RestsUntil now later := by
  refine ⟨h.1, fun u hle hlt => ?_⟩
  obtain ⟨hq, hlasts, hempty, hqueue⟩ := h.2 (Nat.lt_of_le_of_lt hle hlt)
  refine ⟨hq.until hlasts hlt, hempty, List.map_eq_nil_iff.mpr ?_⟩
  refine List.filter_eq_nil_iff.mpr fun slot hslot hopen => ?_
  have hlater := hqueue slot (List.takeWhile_sublist _ |>.subset hslot) ((Bool.not_eq_true' _).mp hopen)
  have hcome := List.mem_takeWhile_imp (p := fun slot : Instant × TargetId => decide (slot.1 ≤ u)) hslot
  exact Nat.lt_irrefl _ (Nat.lt_of_lt_of_le hlt (Nat.le_trans hlater (of_decide_eq_true hcome)))

theorem paced_upTo (hpaced : Paced react RestsUntil k now es later) (hrests : (k.run es).monitor.Rests later)
    (hge : now ≤ u) (hle : u ≤ later) :
    Paced react RestsUntil k now (es.upTo u) u ∧ (k.run (es.upTo u)).monitor.Rests u := by
  induction es generalizing k now with
  | nil =>
    obtain ⟨-, hbefore⟩ := hpaced
    refine ⟨⟨hge, fun v hv hlt => hbefore v hv (Nat.lt_of_lt_of_le hlt hle)⟩, ?_⟩
    rcases Instant.lt_or_eq_of_le hle with hlt | rfl
    · exact hbefore u hge hlt
    · exact hrests
  | cons e es ih =>
    obtain ⟨hlets, hpaced⟩ := hpaced
    rw [Monitor.Course.upTo, List.takeWhile_cons]
    by_cases hcome : e.1 ≤ u
    · rw [if_pos (decide_eq_true hcome)]
      obtain ⟨hearlier, hthere⟩ := ih hpaced hrests hcome
      exact ⟨⟨hlets, hearlier⟩, hthere⟩
    · have hlt : u < e.1 := Nat.not_le.mp hcome
      rw [if_neg (by rw [decide_eq_true_eq]; exact hcome)]
      exact ⟨⟨hge, fun v hv hbefore => hlets.2 v hv (Nat.lt_trans hbefore hlt)⟩, hlets.2 u hge hlt⟩

end Chronicle

namespace Solo

/-- The target alone, from a start on, under some settings. -/
def ofStart (settings : Settings) (prober : Prober) (target : Target) (now : Instant) : Solo :=
  ⟨target, prober target, settings.grace, ⟨settings.failureThreshold, settings.latencyWindow, settings.backoff⟩, now⟩

variable {s : Solo} {prober : Prober} {config : ExecutorConfig} {limit n : Nat} {k : Chronicle} {now later : Instant}
  {times : List Instant} {settings : Settings} {targets : List Target} {target : Target} {pick : TargetId → Nat}
  {m : Monitor} {es : Monitor.Course}

theorem joined_ofStart (hm : Monitor.start (some now) prober settings targets pick = .ok (.ok m)) (ht : target ∈ targets)
    (hpermits : targets.length ≤ settings.maxConcurrency) :
    (ofStart settings prober target now).Joined prober settings.executorConfig targets.length (Chronicle.ofStart m) now := by
  obtain ⟨⟨agenda, hx⟩, registry, firstDue, hb, hr⟩ := Monitor.start_eq_ok hm
  obtain ⟨-, -, hreg, -⟩ := Roster.start_eq_ok (RegistrySnapshot.keyed_build hb) hr
  refine ⟨⟨rfl, rfl, hpermits⟩, Chronicle.roomy_ofStart hm, Chronicle.told_ofStart hm, Roster.viewed_start hb hr,
    Roster.policy_start hr, ?_, congrArg Executor.cancelled hx, congrArg Executor.abortedBelow hx⟩
  exact (congrArg (Registry.get? · target.id) hreg).trans ((RegistrySnapshot.get?_build_iff hb target.id target).mpr ⟨ht, rfl⟩)

theorem followed_ofStart (hm : Monitor.start (some now) prober settings targets pick = .ok (.ok m)) (ht : target ∈ targets)
    (hjitter : settings.jitterMs = 0) :
    (ofStart settings prober target now).Followed 0 (Chronicle.ofStart m) now [] := by
  obtain ⟨registry, roster, hb, hr, rfl⟩ := Monitor.eq_of_start hm
  have hregistered : registry.get? target.id = some target :=
    (RegistrySnapshot.get?_build_iff hb target.id target).mpr ⟨ht, rfl⟩
  obtain ⟨-, -, -, hfree, -⟩ := Roster.start_eq_ok (RegistrySnapshot.keyed_build hb) hr
  refine ⟨?_, ?_, fun _ hi => absurd hi (Nat.not_lt_zero _), .rests ?_ (Nat.le_refl _) rfl rfl⟩
  · refine (Roster.entry?_start hb hr target.id).trans ?_
    rw [hregistered, Option.map_some, Monitor.firstDue_of_not_jittered hjitter]
    rfl
  · rw [Chronicle.ofStart, counted]
    exact ite_self []
  · rw [Chronicle.ofStart, hfree]
    rfl

theorem Followed.run (h : s.Followed n k now times) (hj : s.Joined prober config limit k now)
    (hpaced : Paced Chronicle.react Chronicle.RestsUntil k now es later) (hes : ∀ e ∈ es, e.2.Routine)
    (hwhole : k.monitor.Whole es) :
    s.Joined prober config limit (k.run es) later ∧
      ∃ n', s.Followed n' (k.run es) later (times ++ Chronicle.dispatchTimes s.target.id k es) := by
  induction es generalizing n k now times with
  | nil =>
    rw [Chronicle.dispatchTimes, List.append_nil]
    exact ⟨hj.clock hpaced, n, h.clock hj hpaced⟩
  | cons e es ih =>
    obtain ⟨hlets, hpaced⟩ := hpaced
    have hthere := hj.clock hlets
    have he := hes e List.mem_cons_self
    obtain ⟨n', h'⟩ := (h.clock hj hlets).react hthere he hwhole.1
    rw [Chronicle.dispatchTimes, ← List.append_assoc]
    exact ih h' (hthere.react he hwhole.1) hpaced (fun e' he' => hes e' (List.mem_cons_of_mem _ he')) hwhole.2

/-- At every instant of a run, once all is done that can be done, the target stands there as it does on its own. -/
theorem settled_of_serves (h : m.Serves settings now later prober targets es) (ht : target ∈ targets)
    (hjitter : settings.jitterMs = 0) {u : Instant} (hge : now ≤ u) (hle : u ≤ later) :
    let s := ofStart settings prober target now
    let k := (Chronicle.ofStart m).run (es.upTo u)
    ∃ n, s.Settled n u ∧ s.Past n u ∧
      Chronicle.dispatchTimes target.id (Chronicle.ofStart m) (es.upTo u) =
        (if u < s.due n then s.dues n else s.dues (n + 1)) ∧
      k.monitor.roster.store.snapshot? target.id = some (.recordAll s.policy target.id (s.stand n).results) ∧
      (k.monitor.roster.scheduler.entry? target.id).map ScheduleEntry.unnumbered = some (s.entry n) := by
  intro s k
  obtain ⟨pick, hm⟩ := h.started
  obtain ⟨es', hsplit⟩ := es.append_upTo u
  have hrests : ((Chronicle.ofStart m).run es).monitor.Rests later := by
    rw [Chronicle.monitor_run]
    exact h.rests
  obtain ⟨hpaced, hthere⟩ := Chronicle.paced_upTo h.paced hrests hge hle
  have hroutine : ∀ e ∈ es.upTo u, e.2.Routine := fun e he => h.routine e (hsplit ▸ List.mem_append_left _ he)
  have hwhole : m.Whole (es.upTo u) := ((Monitor.whole_append m _ es').mp (hsplit ▸ h.whole)).1
  obtain ⟨hj, n, hf⟩ :=
    (followed_ofStart hm ht hjitter).run (joined_ofStart hm ht h.permits) hpaced hroutine hwhole
  obtain ⟨hsettled, htimes⟩ := hf.settled hj hthere
  exact ⟨n, hsettled, hf.past, htimes, hf.health_eq hj, hf.entry_eq⟩

end Solo

namespace Chronicle

/-- Two runs under the same settings share a target, and the prober makes the same calls for it. At every instant, once all is
done that can be done, the target has been dispatched at the same times in both, and has the same health and, but for its
epoch, the same entry in the schedule, whatever the other targets are and do. -/
theorem undisturbed (settings : Settings) (hjitter : settings.jitterMs = 0) (now later : Instant) (target : Target)
    (prober₁ prober₂ : Prober) (hcalls : prober₁ target = prober₂ target) (targets₁ targets₂ : List Target)
    (ht₁ : target ∈ targets₁) (ht₂ : target ∈ targets₂) (m₁ m₂ : Monitor) (es₁ es₂ : Monitor.Course)
    (h₁ : m₁.Serves settings now later prober₁ targets₁ es₁) (h₂ : m₂.Serves settings now later prober₂ targets₂ es₂)
    (u : Instant) (hge : now ≤ u) (hle : u ≤ later) :
    let r₁ := ((ofStart m₁).run (es₁.upTo u)).monitor.roster
    let r₂ := ((ofStart m₂).run (es₂.upTo u)).monitor.roster
    dispatchTimes target.id (ofStart m₁) (es₁.upTo u) = dispatchTimes target.id (ofStart m₂) (es₂.upTo u) ∧
    r₁.store.snapshot? target.id = r₂.store.snapshot? target.id ∧
    (r₁.scheduler.entry? target.id).map ScheduleEntry.unnumbered =
      (r₂.scheduler.entry? target.id).map ScheduleEntry.unnumbered := by
  intro r₁ r₂
  have hsame : Solo.ofStart settings prober₁ target now = Solo.ofStart settings prober₂ target now := by
    rw [Solo.ofStart, hcalls, Solo.ofStart]
  obtain ⟨n₁, hsettled₁, hpast₁, htimes₁, hhealth₁, hentry₁⟩ := Solo.settled_of_serves h₁ ht₁ hjitter hge hle
  obtain ⟨n₂, hsettled₂, hpast₂, htimes₂, hhealth₂, hentry₂⟩ := Solo.settled_of_serves h₂ ht₂ hjitter hge hle
  rw [hsame] at hsettled₁ hpast₁ htimes₁ hhealth₁ hentry₁
  obtain rfl := hsettled₁.unique hpast₁ hsettled₂ hpast₂
  exact ⟨htimes₁.trans htimes₂.symm, hhealth₁.trans hhealth₂.symm, hentry₁.trans hentry₂.symm⟩

/-- A target fails at once and then hangs. In one run it is beside a target that hangs, in the other beside one whose reports
bear its name. -/
theorem undisturbed_by_hang_or_false_name :
    let settings : Settings := { maxConcurrency := 2, jitterMs := 0 }
    let target : Target := ⟨"t", ⟨"localhost", 1⟩, .tcp, .ofSeconds 1, .ofSeconds 1⟩
    let other (id : TargetId) : Target := ⟨id, ⟨"localhost", 1⟩, .tcp, .ofSeconds 10, .ofSeconds 10⟩
    let calls : Nat → Instant → ProbeContext → Option (Instant × CallEnd) := fun call start _ =>
      if call = 0 then some (start, .reported (.failure "t" .timeout "connect" ⟨0, 0⟩)) else none
    let hangs : Prober := fun t => if t.id = "t" then calls else fun _ _ _ => none
    let lies : Prober := fun t => if t.id = "t" then calls else
      fun _ start _ => some (start, .reported (.success "t" (.ofMillis 1) ⟨0, 0⟩))
    let clock (seconds : Nat) : Instant := .after ⟨0⟩ (.ofSeconds seconds)
    let es₁ : Monitor.Course := [(clock 0, .dispatch), (clock 0, .turn 0), (clock 0, .turn 1), (clock 0, .complete),
      (clock 2, .dispatch), (clock 2, .turn 2)]
    let es₂ : Monitor.Course := [(clock 0, .dispatch), (clock 0, .turn 1), (clock 0, .turn 0), (clock 0, .complete),
      (clock 0, .complete), (clock 2, .dispatch), (clock 2, .turn 2)]
    ∃ m₁ m₂, m₁.Serves settings (clock 0) (clock 2) hangs [other "a", target] es₁ ∧
      m₂.Serves settings (clock 0) (clock 2) lies [target, other "z"] es₂ ∧
      dispatchTimes "t" (ofStart m₁) (es₁.upTo (clock 2)) = [clock 0, clock 2] ∧
      dispatchTimes "t" (ofStart m₂) (es₂.upTo (clock 2)) = [clock 0, clock 2] := by
  intro settings target other calls hangs lies clock es₁ es₂
  have hex₁ : ∃ m, Monitor.start (some (clock 0)) hangs settings [other "a", target] (fun _ => 0) = .ok (.ok m) ∧
      Paced react Awaits (ofStart m) (clock 0) es₁ (clock 2) ∧ m.Whole es₁ ∧ (m.run es₁).Rests (clock 2) ∧
      dispatchTimes "t" (ofStart m) (es₁.upTo (clock 2)) = [clock 0, clock 2] := by decide +kernel
  have hex₂ : ∃ m, Monitor.start (some (clock 0)) lies settings [target, other "z"] (fun _ => 0) = .ok (.ok m) ∧
      Paced react Awaits (ofStart m) (clock 0) es₂ (clock 2) ∧ m.Whole es₂ ∧ (m.run es₂).Rests (clock 2) := by
    decide +kernel
  obtain ⟨m₁, hm₁, hpaced₁, hwhole₁, hrests₁, htimes⟩ := hex₁
  obtain ⟨m₂, hm₂, hpaced₂, hwhole₂, hrests₂⟩ := hex₂
  have h₁ : m₁.Serves settings (clock 0) (clock 2) hangs [other "a", target] es₁ :=
    ⟨⟨_, hm₁⟩, by decide, hpaced₁.imp fun _ _ _ h => h.restsUntil, by decide, hwhole₁, hrests₁⟩
  have h₂ : m₂.Serves settings (clock 0) (clock 2) lies [target, other "z"] es₂ :=
    ⟨⟨_, hm₂⟩, by decide, hpaced₂.imp fun _ _ _ h => h.restsUntil, by decide, hwhole₂, hrests₂⟩
  obtain ⟨hsame, -⟩ := undisturbed settings rfl (clock 0) (clock 2) target hangs lies rfl [other "a", target]
    [target, other "z"] (by decide) (by decide) m₁ m₂ es₁ es₂ h₁ h₂ (clock 2) (by decide) (by decide)
  exact ⟨m₁, m₂, h₁, h₂, htimes, hsame.symm.trans htimes⟩

/-- Beside another target the entry of a target has another epoch. And when the next due time of the other target lies past the
end of the clock, the loop ends before it has read what the target has reported. -/
theorem disturbed_by_epoch_or_overflow :
    let settings : Settings := { jitterMs := 0 }
    let target (id : TargetId) (seconds : Nat) : Target := ⟨id, ⟨"localhost", 1⟩, .tcp, .ofSeconds seconds, .ofSeconds 1⟩
    let prober : Prober := fun t _ start _ => some (start, .reported (.success t.id (.ofMillis 1) ⟨0, 0⟩))
    let entry (epoch : Nat) : ScheduleEntry := ⟨"t", .after ⟨0⟩ (.ofSeconds 1), .ofSeconds 1, .ofSeconds 1, epoch⟩
    let es₁ : Monitor.Course := [(⟨0⟩, .dispatch), (⟨0⟩, .turn 0), (⟨0⟩, .complete)]
    let es₂ : Monitor.Course := [(⟨0⟩, .dispatch), (⟨0⟩, .turn 0), (⟨0⟩, .turn 1), (⟨0⟩, .complete), (⟨0⟩, .complete)]
    (∃ m : Monitor, m.Serves settings ⟨0⟩ ⟨0⟩ prober [target "t" 1] es₁ ∧ (m.run es₁).roster.scheduler.entry? "t" = some (entry 1) ∧
      ((m.run es₁).roster.store.snapshot? "t").map (·.status) = some .up) ∧
    (∃ m : Monitor, m.Serves settings ⟨0⟩ ⟨0⟩ prober [target "a" 1, target "t" 1] es₂ ∧
      (m.run es₂).roster.scheduler.entry? "t" = some (entry 2)) ∧
    ∃ m, Monitor.start (some ⟨0⟩) prober settings [target "a" (Nat.pow 2 64 - 1), target "t" 1] (fun _ => 0) = .ok (.ok m) ∧
      (Monitor.actors.settle ⟨0⟩ m).phase = .failed .clockRange ∧
      ((Monitor.actors.settle ⟨0⟩ m).roster.store.snapshot? "t").map (·.status) = some .unknown := by
  intro settings target prober entry es₁ es₂
  have hex₁ : ∃ m, Monitor.start (some ⟨0⟩) prober settings [target "t" 1] (fun _ => 0) = .ok (.ok m) ∧
      Paced react Awaits (ofStart m) ⟨0⟩ es₁ ⟨0⟩ ∧ m.Whole es₁ ∧ (m.run es₁).Rests ⟨0⟩ ∧
      (m.run es₁).roster.scheduler.entry? "t" = some (entry 1) ∧
      ((m.run es₁).roster.store.snapshot? "t").map (·.status) = some .up := by decide +kernel
  have hex₂ : ∃ m, Monitor.start (some ⟨0⟩) prober settings [target "a" 1, target "t" 1] (fun _ => 0) = .ok (.ok m) ∧
      Paced react Awaits (ofStart m) ⟨0⟩ es₂ ⟨0⟩ ∧ m.Whole es₂ ∧ (m.run es₂).Rests ⟨0⟩ ∧
      (m.run es₂).roster.scheduler.entry? "t" = some (entry 2) := by decide +kernel
  obtain ⟨m₁, hm₁, hpaced₁, hwhole₁, hrests₁, hentry₁, hstatus⟩ := hex₁
  obtain ⟨m₂, hm₂, hpaced₂, hwhole₂, hrests₂, hentry₂⟩ := hex₂
  refine ⟨⟨m₁, ⟨⟨_, hm₁⟩, by decide, hpaced₁.imp fun _ _ _ h => h.restsUntil, by decide, hwhole₁, hrests₁⟩, hentry₁, hstatus⟩,
    ⟨m₂, ⟨⟨_, hm₂⟩, by decide, hpaced₂.imp fun _ _ _ h => h.restsUntil, by decide, hwhole₂, hrests₂⟩, hentry₂⟩, ?_⟩
  decide +kernel

end Chronicle

end TargetHealth
