import TargetHealth.Proofs.Executor.Batch
import TargetHealth.Proofs.Monitor.Abandonment
import TargetHealth.Proofs.Monitor.Clockwork
import TargetHealth.Proofs.Monitor.Steps

namespace TargetHealth

theorem Roster.Aligned.probe_of_mem_batch {r : Roster} (h : r.Aligned) {now : Instant}
    (hn : (r.scheduler.due now).Nodup) {b : Target × Nat} (hb : b ∈ (r.dispatchDue now).1) :
    r.registry.get? b.1.id = some b.1 ∧ r.scheduler.epoch? b.1.id = some b.2 := by
  rw [h.batch_eq hn] at hb
  obtain ⟨id, -, hprobe⟩ := List.mem_filterMap.mp hb
  obtain ⟨hreg, hepoch⟩ := probe?_eq_some_iff.mp hprobe
  have hid : b.1.id = id := h.keyed.id_eq hreg
  exact hid ▸ ⟨hreg, hepoch⟩

namespace Monitor

/-- What happens until the loop is asked to stop. -/
def Event.BeforeStop : Event → Prop
  | .cancel | .halt _ => False
  | _ => True

instance : (e : Event) → Decidable e.BeforeStop
  | .cancel | .halt _ => .isFalse id
  | .dispatch | .complete | .reload _ _ | .turn _ | .arrange _ _ _ _ => .isTrue trivial

theorem staffed_react {m : Monitor} (h : m.executor.Staffed) (now : Instant) {e : Event} (he : e.BeforeStop) :
    (m.react now e).executor.Staffed := by
  cases e with
  | dispatch => exact List.foldlRecOn (motive := Executor.Staffed) _ _ h fun _ hx b _ => hx.dispatch b.1 b.2 now
  | complete =>
    simp only [react]
    split
    · exact h
    · exact h.of_tasks rfl rfl rfl rfl rfl
  | reload targets pick =>
    simp only [react]
    split
    · rename_i hm
      obtain ⟨-, agenda, hx⟩ := reload_eq_ok hm
      rw [hx]
      exact h.of_tasks rfl rfl rfl rfl rfl
    · exact h
    · exact h
  | turn number => exact h.stepNumber number now
  | arrange phase stopRequested scheduleChanged agenda => exact h.of_tasks rfl rfl rfl rfl rfl
  | cancel | halt phase => exact he.elim

theorem staffed_run {m : Monitor} (h : m.executor.Staffed) (es : Course) (hes : ∀ e ∈ es, e.2.BeforeStop) :
    (m.run es).executor.Staffed := by
  induction es generalizing m with
  | nil => exact h
  | cons e es ih =>
    exact ih (staffed_react h e.1 (hes e List.mem_cons_self)) fun e he => hes e (List.mem_cons_of_mem _ he)

theorem abortedBelow_run (m : Monitor) (es : Course) (hes : ∀ e ∈ es, e.2.BeforeStop) :
    (m.run es).executor.abortedBelow = m.executor.abortedBelow := by
  induction es generalizing m with
  | nil => rfl
  | cons e es ih =>
    have hopen : ∀ phase, e.2 ≠ .halt phase := fun _ heq => by
      have h := hes e List.mem_cons_self
      rw [heq] at h
      exact h
    exact (ih _ fun e he => hes e (List.mem_cons_of_mem _ he)).trans (m.abortedBelow_react e.1 hopen)

theorem staffed_of_start {now : Instant} {prober : Prober} {settings : Settings} {targets : List Target}
    {pick : TargetId → Nat} {m : Monitor} (hm : start (some now) prober settings targets pick = .ok (.ok m)) :
    m.executor.Staffed ∧ m.executor.config = settings.executorConfig ∧ m.executor.abortedBelow = 0 := by
  obtain ⟨registry, roster, -, -, rfl⟩ := eq_of_start hm
  exact ⟨(Executor.tallied_idle prober settings.executorConfig).of_tasks rfl rfl rfl rfl rfl, rfl, rfl⟩

/-- One round of dispatches, in any state before the stop that was reached without a fault. The targets that are due are
those whose time has come and that are not in flight, by due time and id. Just these are marked, and their probes are
dispatched in this order: the first start on the permits that are free, the next ones wait in the places that are free,
and the others are skipped. Afterwards nobody is due, and the loop sleeps until a later instant. -/
theorem dispatch_round (start : Instant) (prober : Prober) (settings : Settings) (targets : List Target)
    (pick : TargetId → Nat) (m : Monitor) (hm : Monitor.start (some start) prober settings targets pick = .ok (.ok m))
    (es : Course) (hes : m.Whole es) (hbefore : ∀ e ∈ es, e.2.BeforeStop) (now : Instant) :
    let k := m.run es
    let s := k.roster.scheduler
    let x := k.executor
    let free := settings.maxConcurrency - x.running
    let room := settings.maxPending - x.waits
    let batch := (k.roster.dispatchDue now).1
    let started := Executor.tasksOf x.dispatched (.admitted false) (batch.take free)
    let queued := Executor.tasksOf (x.dispatched + started.length) .queued ((batch.drop free).take room)
    let next := k.dispatchDue now
    (∀ id, id ∈ s.due now ↔ ∃ e, s.entry? id = some e ∧ e.nextDue ≤ now ∧ s.inFlight.get? id = none) ∧
    ((s.due now).Pairwise fun a b => ∃ e f, s.entry? a = some e ∧ s.entry? b = some f ∧
      DueQueue.Before (e.nextDue, a) (f.nextDue, b)) ∧
    (∀ id n, next.roster.scheduler.inFlight.get? id = some n ↔
      (id ∈ s.due now ∧ s.epoch? id = some n) ∨ s.inFlight.get? id = some n) ∧
    batch.map (fun b => b.1.id) = s.due now ∧
    (∀ b ∈ batch, k.roster.registry.get? b.1.id = some b.1 ∧ s.epoch? b.1.id = some b.2) ∧
    next.executor.tasks = x.tasks ++ started ++ queued ∧
    next.executor.completions = x.completions ++ (batch.drop (free + room)).map (Executor.turnedAway now) ∧
    (∀ t ∈ started, ∀ later, next.executor.stepNumber t.number later = next.executor.begin t later) ∧
    (∀ t ∈ queued, ∀ later, next.executor.stepNumber t.number later = next.executor) ∧
    next.roster.scheduler.due now = [] ∧
    (∀ t, next.roster.scheduler.nextWakeup = some t → now < t) ∧
    ∃ wakeup, (k.goOn now).phase = .running wakeup ∧ now < wakeup := by
  intro k s x free room batch started queued next
  have hmatched : (⟨k, ((Chronicle.ofStart m).run es).past⟩ : Chronicle).Matched := by
    have h := Chronicle.matched_run hm es
    rwa [show (Chronicle.ofStart m).run es = ⟨k, _⟩ from congrArg (Chronicle.mk · _) (Chronicle.monitor_run _ es)] at h
  have ha : k.roster.Aligned := hmatched.aligned
  have hq : s.Queued := (viewed_run hm es hes).queued
  have hf : s.Filed := ((tidy_of_start hm).steps (m.steps_run es)).scheduler.filed
  obtain ⟨hstaffed₀, hconfig₀, hunaborted⟩ := staffed_of_start hm
  have hstaffed : x.Staffed := staffed_run hstaffed₀ es hbefore
  have hconfig : x.config = settings.executorConfig := (m.frame_run es).2.trans hconfig₀
  have hcancelled : x.cancelled = false :=
    (Drain.uncancelled_run hm es fun e he hcancel => by have h := hbefore e he; rw [hcancel] at h; exact h).1
  have hwaits : x.waiting = x.waits := hstaffed.counted
  have hfree : x.free = free := congrArg (·.maxConcurrency - x.running) hconfig
  have hroom : x.room = room := by rw [Executor.room, hconfig, hwaits]; rfl
  obtain ⟨hcancelled', htasks, hsent⟩ := Executor.foldl_dispatch_eq batch now hcancelled
  have hnumbered : next.executor.Numbered := hstaffed.numbered.foldl_dispatch batch now
  rw [hfree, hroom] at htasks
  rw [hfree, hroom] at hsent
  have hlive : next.executor.live = next.executor.tasks := by
    refine Executor.live_eq_tasks ((k.abortedBelow_react now (e := .dispatch) fun _ => nofun).trans ?_)
    exact (m.abortedBelow_run es hbefore).trans hunaborted
  have hrests : next.roster.scheduler.due now = [] := Chronicle.due_dispatchDue hmatched hf now
  have hq' : next.roster.scheduler.Queued := ha.queued_dispatchDue hq now
  obtain ⟨hwakeup, -⟩ := lt_wakeup_of_rests (m := next) hq' hrests
  refine ⟨hq.mem_due_iff now, hq.pairwise_due_ids now, ?_, ha.ids_batch hf now, ?_, htasks, hsent, ?_, ?_, hrests, ?_,
    ⟨_, rfl, hwakeup⟩⟩
  · exact fun id n => ha.inFlight_dispatchDue_iff (hq.nodup_due now) n
  · exact fun b hb => ha.probe_of_mem_batch (hq.nodup_due now) hb
  · intro t ht later
    have hmem : t ∈ next.executor.live := hlive ▸ htasks ▸ List.mem_append_left _ (List.mem_append_right _ ht)
    exact hnumbered.stepNumber_of_admitted hmem (Executor.state_of_mem_tasksOf ht) later
  · intro t ht later
    have hmem : t ∈ next.executor.live := hlive ▸ htasks ▸ List.mem_append_right _ ht
    exact hnumbered.stepNumber_of_queued hmem (Executor.state_of_mem_tasksOf ht) hcancelled' later
  · intro t ht
    rwa [wakeup, ht] at hwakeup

/-- Two permits and one place: while one target hangs, four more come in. The first of them starts, the second waits, and
the last two are skipped. -/
theorem dispatch_round_overloaded :
    let prober : Prober := fun _ _ _ _ => none
    let settings : Settings := { maxConcurrency := 2, maxPending := 1, jitterMs := 0 }
    let target (id : TargetId) : Target := ⟨id, ⟨"localhost", 1⟩, .tcp, .ofSeconds 1, .ofSeconds 1⟩
    let later : Instant := .after ⟨0⟩ (.ofMillis 500)
    let es : Course := [(⟨0⟩, .dispatch), (⟨0⟩, .turn 0),
      (later, .reload [target "e", target "d", target "c", target "b", target "a"] fun _ => 0)]
    ∃ m, Monitor.start (some ⟨0⟩) prober settings [target "a"] (fun _ => 0) = .ok (.ok m) ∧ m.Whole es ∧
      (∀ e ∈ es, e.2.BeforeStop) ∧ (m.run es).executor.Quiescent later ∧
      ((m.run es).dispatchDue later).executor.tasks = (m.run es).executor.tasks ++
        [⟨1, target "b", 2, .admitted false⟩] ++ [⟨2, target "c", 3, .queued⟩] ∧
      ((m.run es).dispatchDue later).executor.completions =
        [Executor.turnedAway later (target "d", 4), Executor.turnedAway later (target "e", 5)] ∧
      ((m.run es).dispatchDue later).roster.scheduler.due later = [] ∧
      ∀ t, ((m.run es).dispatchDue later).roster.scheduler.nextWakeup = some t → later < t := by
  intro prober settings target later es
  have hex : ∃ m, Monitor.start (some ⟨0⟩) prober settings [target "a"] (fun _ => 0) = .ok (.ok m) ∧ m.Whole es ∧
      (m.run es).executor.Quiescent later ∧
      ((m.run es).roster.dispatchDue later).1 =
        [(target "b", 2), (target "c", 3), (target "d", 4), (target "e", 5)] ∧
      (m.run es).executor.dispatched = 1 ∧ (m.run es).executor.running = 1 ∧ (m.run es).executor.waits = 0 ∧
      (m.run es).executor.completions = [] := by
    decide +kernel
  obtain ⟨m, hm, hes, hquiescent, hbatch, hnumber, hrunning, hwaits, hempty⟩ := hex
  have hbefore : ∀ e ∈ es, e.2.BeforeStop := by decide
  obtain ⟨-, -, -, -, -, htasks, hsent, -, -, hnone, hlate, -⟩ :=
    dispatch_round ⟨0⟩ prober settings [target "a"] (fun _ => 0) m hm es hes hbefore later
  rw [hbatch, hnumber, hrunning, hwaits] at htasks
  rw [hbatch, hrunning, hwaits, hempty] at hsent
  exact ⟨m, hm, hes, hbefore, hquiescent, htasks, hsent, hnone, hlate⟩

end Monitor

end TargetHealth
