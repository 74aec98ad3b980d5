import TargetHealth.Proofs.Monitor.Order
import TargetHealth.Proofs.Time.Pace

namespace TargetHealth

def Prober.Reports (prober : Prober) (r : ProbeResult) : Prop :=
  ∃ target call start context t r', prober target call start context = some (t, .reported r') ∧
    r = { r' with targetId := target.id }

def Completion.HadRoom (prober : Prober) (c : Completion) : Prop :=
  c.result.outcome = .skipped → c.result.message = some "probe queue full" → prober.Reports c.result

theorem Completion.hadRoom_of_cancelled {c : Completion} (h : c.result.outcome = .cancelled) (prober : Prober) :
    c.HadRoom prober := by
  intro hs
  rw [h] at hs
  cases hs

theorem Executor.Turns.hadRoom {x y : Executor} {t : ProbeTask} {now : Instant} (h : x.Turns t now y)
    (hx : ∀ c ∈ x.completions, c.HadRoom x.prober) : ∀ c ∈ y.completions, c.HadRoom x.prober := by
  intro c hc
  rcases h.mem_completions hc with hold | ⟨-, -, hcancelled | ⟨p, -, hr⟩⟩
  · exact hx c hold
  · exact Completion.hadRoom_of_cancelled (by rw [hcancelled]; rfl) _
  · rcases RunningProbe.result?_cases hr with ⟨t', ending, hcall, -, hown⟩ | ⟨-, hover⟩ | ⟨_, -, -, hcancelled⟩
    · intro _ hmessage
      cases ending with
      | reported r => exact ⟨t.target, p.call, p.start, p.context, t', r, hcall, hown⟩
      | panicked =>
        rw [hown] at hmessage
        exact absurd (Option.some.inj hmessage) (by decide)
    · intro houtcome
      rw [hover] at houtcome
      cases houtcome
    · exact Completion.hadRoom_of_cancelled (by rw [hcancelled]; rfl) _

theorem Executor.hadRoom_stepNumber {x : Executor} (hx : ∀ c ∈ x.completions, c.HadRoom x.prober) (number : Nat)
    (now : Instant) : ∀ c ∈ (x.stepNumber number now).completions, c.HadRoom x.prober := by
  cases ht : x.task? number with
  | none => exact (stepNumber_of_none ht now).symm ▸ hx
  | some t => exact (turns_stepNumber ht now).hadRoom hx

namespace Monitor

/-- What happens once the loop dispatches no more. -/
def Event.Closes : Event → Prop
  | .dispatch | .reload _ _ => False
  | _ => True

instance : (e : Event) → Decidable e.Closes
  | .dispatch | .reload _ _ => .isFalse id
  | .complete | .cancel | .turn _ | .halt _ | .arrange _ _ _ _ => .isTrue trivial

end Monitor

namespace Chronicle

def HadRoom (prober : Prober) (k : Chronicle) : Prop :=
  ∀ c, c ∈ k.monitor.executor.completions ∨ .processed c ∈ k.past → c.HadRoom prober

/-- The clock moves on only when no task can act. -/
def LetsClock (k : Chronicle) (now t : Instant) : Prop := now ≤ t ∧ (now < t → k.monitor.executor.Quiescent now)

instance (k : Chronicle) (now t : Instant) : Decidable (k.LetsClock now t) :=
  inferInstanceAs (Decidable (now ≤ t ∧ (now < t → k.monitor.executor.Quiescent now)))

/-- A monitor of at most some number of targets, whose tasks and due targets are no more than those. -/
structure Roomy (prober : Prober) (config : ExecutorConfig) (limit : Nat) (k : Chronicle) (now : Instant) : Prop
    extends k.Orderly where
  prober_eq : k.monitor.executor.prober = prober
  config_eq : k.monitor.executor.config = config
  targets : k.monitor.roster.registry.current.ids.length ≤ limit
  room : k.monitor.executor.load + (k.monitor.roster.scheduler.due now).length ≤ limit
  hadRoom : k.HadRoom prober

variable {prober : Prober} {config : ExecutorConfig} {limit : Nat} {k : Chronicle} {now : Instant}

theorem processed_of_react {now : Instant} {e : Monitor.Event} {c : Completion} (h : .processed c ∈ (k.react now e).past) :
    .processed c ∈ k.past ∨ c ∈ k.monitor.executor.completions := by
  rcases List.mem_append.mp h with hnew | hold
  · right
    rw [List.mem_reverse] at hnew
    cases e with
    | dispatch | turn number | halt phase =>
      obtain ⟨_, -, heq⟩ := List.mem_map.mp hnew
      cases heq
    | complete =>
      obtain ⟨c', hc', heq⟩ := List.mem_map.mp hnew
      cases heq
      exact List.mem_of_mem_take hc'
    | reload targets pick =>
      dsimp only [Monitor.happenings] at hnew
      split at hnew
      · cases List.mem_singleton.mp hnew
      · cases hnew
    | cancel | arrange phase stopRequested scheduleChanged agenda => cases hnew
  · exact .inl hold

theorem Roomy.dispatch (h : k.Roomy prober config limit now) (hlimit : limit ≤ config.maxConcurrency + config.maxPending) :
    (k.react now .dispatch).Roomy prober config limit now ∧
      (k.monitor.executor.cancelled = false →
        (k.react now .dispatch).monitor.executor.completions = k.monitor.executor.completions) := by
  have hbatch := h.length_batch now
  have hroom := h.room
  have hfits : k.monitor.executor.load + (k.monitor.roster.dispatchDue now).1.length ≤
      k.monitor.executor.config.maxConcurrency + k.monitor.executor.config.maxPending := by
    rw [h.config_eq]
    omega
  obtain ⟨-, hload, hconfig, hprober, hkept, hsent⟩ :=
    h.staffed.foldl_dispatch (k.monitor.roster.dispatchDue now).1 now hfits
  refine ⟨⟨h.toOrderly.dispatch now, hprober.trans h.prober_eq, hconfig.trans h.config_eq, ?_, ?_, ?_⟩, hkept⟩
  · rw [h.registry_react now .dispatch trivial]
    exact h.targets
  · have hdue : (k.react now .dispatch).monitor.roster.scheduler.due now = [] := due_dispatchDue h.matched h.filed now
    rw [hdue]
    exact hload.trans (by omega)
  · rintro c (hc | hc)
    · rcases hsent c hc with hold | hcancelled
      · exact h.hadRoom c (.inl hold)
      · exact Completion.hadRoom_of_cancelled hcancelled prober
    · exact h.hadRoom c (processed_of_react hc).symm

theorem Roomy.complete (h : k.Roomy prober config limit now) : (k.react now .complete).Roomy prober config limit now := by
  cases hc : k.monitor.executor.completions with
  | nil => exact (react_complete_of_nil hc now).symm ▸ h
  | cons c unread =>
    have horderly := (h.toOrderly.complete now).1
    have hdue := h.length_due_complete now
    have htargets := h.targets
    rw [← h.registry_react now .complete trivial] at htargets
    have hpast : (k.react now .complete).HadRoom prober := by
      rintro c' (hc' | hc')
      · rw [react_complete_of_cons hc] at hc'
        exact h.hadRoom c' (.inl (hc ▸ List.mem_cons_of_mem _ hc'))
      · exact h.hadRoom c' (processed_of_react hc').symm
    rw [react_complete_of_cons hc] at horderly hdue hpast htargets ⊢
    exact ⟨horderly, h.prober_eq, h.config_eq, htargets, (Nat.add_le_add_left hdue _).trans h.room, hpast⟩

theorem Roomy.turn (h : k.Roomy prober config limit now) (number : Nat) :
    (k.react now (.turn number)).Roomy prober config limit now := by
  have hkeeps := Executor.keeps_stepNumber k.monitor.executor number now
  have hload := Executor.load_stepNumber_le h.staffed.numbered number now
  have hx : ∀ c ∈ k.monitor.executor.completions, c.HadRoom k.monitor.executor.prober :=
    fun c hc => h.prober_eq ▸ h.hadRoom c (.inl hc)
  refine ⟨h.toOrderly.react trivial, hkeeps.prober.trans h.prober_eq, hkeeps.config.trans h.config_eq, h.targets, ?_, ?_⟩
  · exact (Nat.add_le_add_right hload _).trans h.room
  · rintro c (hc | hc)
    · exact h.prober_eq ▸ Executor.hadRoom_stepNumber hx number now c hc
    · exact h.hadRoom c (processed_of_react hc).symm

/-- Whoever has a task is marked, whoever is due is not, and both are targets. -/
theorem Roomy.clock {t : Instant} (h : k.Roomy prober config limit now) (hlets : k.LetsClock now t) :
    k.Roomy prober config limit t := by
  obtain ⟨hle, hquiescent⟩ := hlets
  rcases Instant.lt_or_eq_of_le hle with hlt | rfl
  · refine { h with room := ?_ }
    rw [h.staffed.load_eq_of_quiescent (hquiescent hlt)]
    have hbusy : (k.monitor.executor.tasks.map fun u => u.target.id).Nodup :=
      (List.nodup_append.mp h.matched.nodup_ids).1
    have hnodup : (k.monitor.executor.tasks.map (fun u => u.target.id) ++ k.monitor.roster.scheduler.due t).Nodup := by
      refine hbusy.append (h.filed.nodup_due t) fun id hid hdue => ?_
      obtain ⟨u, hu, rfl⟩ := List.mem_map.mp hid
      have hopen := Roster.inFlight_of_mem_due hdue
      rw [h.matched.get?_of_task hu] at hopen
      cases hopen
    have hsub : k.monitor.executor.tasks.map (fun u => u.target.id) ++ k.monitor.roster.scheduler.due t ⊆
        k.monitor.roster.registry.current.ids := by
      intro id hid
      rcases List.mem_append.mp hid with hid | hid
      · obtain ⟨u, hu, rfl⟩ := List.mem_map.mp hid
        rw [RegistrySnapshot.mem_ids_iff]
        refine h.matched.aligned.scheduled u.target.id ?_
        rw [h.current _ _ (h.matched.get?_of_task hu)]
        rfl
      · exact h.matched.aligned.mem_ids_of_mem_due h.filed hid
    have hlength := (List.subperm_of_subset hnodup hsub).length_le
    rw [List.length_append, List.length_map] at hlength
    exact hlength.trans h.targets
  · exact h

theorem Roomy.react (h : k.Roomy prober config limit now) (hlimit : limit ≤ config.maxConcurrency + config.maxPending)
    {e : Monitor.Event} (he : e.Works) : (k.react now e).Roomy prober config limit now := by
  cases e with
  | dispatch => exact (h.dispatch hlimit).1
  | complete => exact h.complete
  | turn number => exact h.turn number
  | reload targets pick | halt phase => exact he.elim
  | cancel | arrange phase stopRequested scheduleChanged agenda =>
    exact { h with toOrderly := h.toOrderly.react trivial }

theorem Roomy.due_le (hf : k.monitor.roster.scheduler.Filed) (hm : k.Matched) (now : Instant) :
    (k.monitor.roster.scheduler.due now).length ≤ k.monitor.roster.registry.current.ids.length := by
  exact (List.subperm_of_subset (hf.nodup_due now) fun _ hid => hm.aligned.mem_ids_of_mem_due hf hid).length_le

theorem roomy_ofStart {now : Instant} {prober : Prober} {settings : Settings} {targets : List Target}
    {pick : TargetId → Nat} {m : Monitor} (hm : Monitor.start (some now) prober settings targets pick = .ok (.ok m)) :
    (ofStart m).Roomy prober settings.executorConfig targets.length now := by
  obtain ⟨⟨agenda, hx⟩, registry, firstDue, hb, hr⟩ := Monitor.start_eq_ok hm
  obtain ⟨-, -, hreg, -⟩ := Roster.start_eq_ok (RegistrySnapshot.keyed_build hb) hr
  have horderly := orderly_ofStart hm
  have hids : m.roster.registry.current.ids.length = targets.length := by
    rw [hreg]
    exact RegistrySnapshot.length_ids_build hb
  refine ⟨horderly, ?_, ?_, Nat.le_of_eq hids, ?_, ?_⟩
  · exact congrArg Executor.prober hx
  · exact congrArg Executor.config hx
  · have hload : (ofStart m).monitor.executor.load = 0 := congrArg Executor.load hx
    rw [hload, Nat.zero_add]
    exact (Roomy.due_le horderly.filed horderly.matched now).trans (Nat.le_of_eq hids)
  · rintro c (hc | hc)
    · rw [show (ofStart m).monitor.executor.completions = [] from congrArg Executor.completions hx] at hc
      cases hc
    · cases List.mem_singleton.mp hc

theorem HadRoom.react (h : k.HadRoom prober) (hprober : k.monitor.executor.prober = prober) {e : Monitor.Event}
    (he : e.Closes) : (k.react now e).HadRoom prober ∧ (k.react now e).monitor.executor.prober = prober := by
  have hpast (hx : ∀ c ∈ (k.react now e).monitor.executor.completions, c.HadRoom prober) :
      (k.react now e).HadRoom prober := by
    rintro c (hc | hc)
    · exact hx c hc
    · exact h c (processed_of_react hc).symm
  cases e with
  | dispatch | reload targets pick => exact he.elim
  | complete =>
    cases hc : k.monitor.executor.completions with
    | nil => exact (react_complete_of_nil hc now).symm ▸ ⟨h, hprober⟩
    | cons c unread =>
      refine ⟨hpast ?_, ?_⟩
      · rw [react_complete_of_cons hc]
        exact fun c' hc' => h c' (.inl (hc ▸ List.mem_cons_of_mem _ hc'))
      · rw [react_complete_of_cons hc]
        exact hprober
  | turn number =>
    refine ⟨hpast ?_, (Executor.keeps_stepNumber _ number now).prober.trans hprober⟩
    exact hprober ▸ Executor.hadRoom_stepNumber (fun c hc => hprober ▸ h c (.inl hc)) number now
  | cancel | halt phase | arrange phase stopRequested scheduleChanged agenda =>
    exact ⟨hpast fun c hc => h c (.inl hc), hprober⟩

/-- With permits and places for all targets, and a clock that moves on only when no task can act, a dispatch sends nothing
unless all probes are cancelled. Whether the loop goes on or ends, no completion says that the queue was full, unless the
prober has reported just that. -/
theorem no_dispatch_turned_away (now : Instant) (prober : Prober) (settings : Settings) (targets : List Target)
    (pick : TargetId → Nat) (m : Monitor) (hm : Monitor.start (some now) prober settings targets pick = .ok (.ok m))
    (hroom : targets.length ≤ settings.maxConcurrency + settings.maxPending) (es es' : Monitor.Course) (t : Instant)
    (hpaced : Paced Chronicle.react Chronicle.LetsClock (ofStart m) now es t) (hes : ∀ e ∈ es, e.2.Works)
    (hes' : ∀ e ∈ es', e.2.Closes) :
    let k := (ofStart m).run es
    (k.monitor.executor.cancelled = false →
      (k.react t .dispatch).monitor.executor.completions = k.monitor.executor.completions) ∧
    ∀ c, c ∈ (k.run es').monitor.executor.completions ∨ .processed c ∈ (k.run es').past →
      c.result.outcome = .skipped → c.result.message = some "probe queue full" → prober.Reports c.result := by
  intro k
  have hk : k.Roomy prober settings.executorConfig targets.length t := by
    rw [show k = _ from run_eq_foldl (ofStart m) es]
    refine hpaced.invariant (P := fun k now => k.Roomy prober settings.executorConfig targets.length now)
      (fun _ _ _ hlets h => h.clock hlets) (fun _ e he h => h.react hroom (hes e he)) (roomy_ofStart hm)
  have hlater : (k.run es').HadRoom prober ∧ (k.run es').monitor.executor.prober = prober := by
    rw [run_eq_foldl]
    exact List.foldlRecOn (motive := fun k : Chronicle => k.HadRoom prober ∧ k.monitor.executor.prober = prober) es' _
      ⟨hk.hadRoom, hk.prober_eq⟩ fun _ h e he => h.1.react h.2 (hes' e he)
  exact ⟨(hk.dispatch hroom).2, hlater.1⟩

/-- One permit and two places for three targets that hang. The first probe overruns, the second takes its permit while the
first target is not due yet, and the third waits until all are cancelled. -/
theorem no_dispatch_turned_away_three_hang :
    let prober : Prober := fun _ _ _ _ => none
    let settings : Settings := { maxConcurrency := 1, maxPending := 2, jitterMs := 0 }
    let target (id : TargetId) : Target := ⟨id, ⟨"localhost", 1⟩, .tcp, .ofSeconds 1, .ofSeconds 1⟩
    let later : Instant := .after ⟨0⟩ (.ofMillis 1500)
    let es : Monitor.Course := [(⟨0⟩, .dispatch), (⟨0⟩, .turn 0), (later, .turn 0), (later, .complete), (later, .turn 1)]
    let es' : Monitor.Course := [(later, .cancel), (later, .turn 2)]
    ∃ m, Monitor.start (some ⟨0⟩) prober settings [target "a", target "b", target "c"] (fun _ => 0) = .ok (.ok m) ∧
      Paced Chronicle.react Chronicle.LetsClock (ofStart m) ⟨0⟩ es later ∧
      (((ofStart m).run es).react later .dispatch).monitor.executor.completions = [] ∧
      ∀ c ∈ (((ofStart m).run es).run es').monitor.executor.completions,
        ¬ (c.result.outcome = .skipped ∧ c.result.message = some "probe queue full") := by
  intro prober settings target later es es'
  have hex : ∃ m, Monitor.start (some ⟨0⟩) prober settings [target "a", target "b", target "c"] (fun _ => 0) = .ok (.ok m) ∧
      Paced Chronicle.react Chronicle.LetsClock (ofStart m) ⟨0⟩ es later ∧
      ((ofStart m).run es).monitor.executor.cancelled = false ∧ ((ofStart m).run es).monitor.executor.completions = [] := by
    decide +kernel
  obtain ⟨m, hm, hpaced, hcancelled, hempty⟩ := hex
  obtain ⟨hkept, hall⟩ := no_dispatch_turned_away ⟨0⟩ prober settings [target "a", target "b", target "c"] (fun _ => 0) m hm
    (by decide) es es' later hpaced (by decide) (by decide)
  refine ⟨m, hm, hpaced, (hkept hcancelled).trans hempty, ?_⟩
  rintro c hc ⟨houtcome, hmessage⟩
  obtain ⟨_, _, _, _, _, _, hreported, -⟩ := hall c (.inl hc) houtcome hmessage
  cases hreported

end Chronicle

end TargetHealth
