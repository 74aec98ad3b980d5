import TargetHealth.Proofs.Executor.Attendance
import TargetHealth.Proofs.Monitor.Passing

namespace TargetHealth

def MonitorPhase.wakeup? : MonitorPhase → Option Instant
  | .running wakeup => some wakeup
  | _ => none

namespace Chronicle

theorem RestsUntil.refl (k : Chronicle) (now : Instant) : k.RestsUntil now now :=
  ⟨Nat.le_refl _, fun _ hge hlt => absurd hge (Nat.not_le.mpr hlt)⟩

theorem RestsUntil.trans {k : Chronicle} {now later last : Instant} (h : k.RestsUntil now later)
    (h' : k.RestsUntil later last) : k.RestsUntil now last := by
  refine ⟨Nat.le_trans h.1 h'.1, fun u hge hlt => ?_⟩
  by_cases hearly : u < later
  · exact h.2 u hge hearly
  · exact h'.2 u (Nat.not_lt.mp hearly) hlt

end Chronicle

namespace Monitor

/-- A monitor to which one that was started has come by an instant, without a fault and with a clock that waits. -/
structure Reaches (start : Monitor) (since : Instant) (m : Monitor) (now : Instant) : Prop where
  started : ∃ prober settings targets pick, Monitor.start (some since) prober settings targets pick = .ok (.ok start)
  course : ∃ es : Course, Paced Chronicle.react Chronicle.RestsUntil (Chronicle.ofStart start) since es now ∧
    (∀ e ∈ es, e.2.Routine) ∧ start.Whole es ∧ start.run es = m

variable {start m : Monitor} {since now later : Instant}

theorem Reaches.react (h : start.Reaches since m now) {e : Event} (he : e.Routine) (hwhole : e.IsWhole m now) :
    start.Reaches since (m.react now e) now := by
  obtain ⟨es, hpaced, hes, hes', rfl⟩ := h.course
  refine ⟨h.started, es ++ [(now, e)], hpaced.concat e Chronicle.RestsUntil.refl, fun e' he' => ?_, ?_, run_append _ _ _⟩
  · rcases List.mem_append.mp he' with he' | he'
    · exact hes e' he'
    · rwa [List.mem_singleton.mp he']
  · exact (whole_append _ _ _).mpr ⟨hes', hwhole, trivial⟩

theorem Reaches.arrange (h : start.Reaches since m now) (phase : MonitorPhase) (agenda : Agenda Party) :
    start.Reaches since { m with phase := phase, executor := { m.executor with agenda := agenda } } now :=
  h.react (e := .arrange phase m.stopRequested m.scheduleChanged agenda) trivial trivial

theorem Reaches.clock (h : start.Reaches since m now) (hle : now ≤ later)
    (hrests : ∀ u, now ≤ u → u < later → m.Rests u) : start.Reaches since m later := by
  obtain ⟨es, hpaced, hes, hwhole, rfl⟩ := h.course
  refine ⟨h.started, es, hpaced.later ?_ (fun _ _ _ _ => Chronicle.RestsUntil.trans), hes, hwhole, rfl⟩
  rw [← Chronicle.run_eq_foldl]
  exact ⟨hle, by rwa [Chronicle.monitor_run]⟩

theorem Reaches.orderly (h : start.Reaches since m now) : ∃ k : Chronicle, k.monitor = m ∧ k.Orderly := by
  obtain ⟨prober, settings, targets, pick, hstart⟩ := h.started
  obtain ⟨es, -, hes, -, rfl⟩ := h.course
  exact ⟨(Chronicle.ofStart start).run es, Chronicle.monitor_run _ _,
    (Chronicle.orderly_ofStart hstart).run fun e he => (hes e he).works⟩

theorem Reaches.queued (h : start.Reaches since m now) : m.roster.scheduler.Queued := by
  obtain ⟨prober, settings, targets, pick, hstart⟩ := h.started
  obtain ⟨es, -, -, hwhole, rfl⟩ := h.course
  exact (viewed_run hstart es hwhole).queued

theorem Reaches.numbered (h : start.Reaches since m now) : m.executor.Numbered := by
  obtain ⟨k, rfl, hk⟩ := h.orderly
  exact hk.staffed.numbered

/-- A monitor at work, of which nobody wants anything. Everyone is waited for but the party that acts. -/
structure AtWork (start : Monitor) (since : Instant) (m : Monitor) (acting : Option Party) (now : Instant) : Prop where
  reaches : start.Reaches since m now
  attended : m.executor.Attended m.phase.wakeup? acting now
  calm : m.stopRequested = false ∧ m.scheduleChanged = false ∧ m.executor.cancelled = false

/-- Besides, the loop waits no longer than until somebody is due. -/
structure OnTime (start : Monitor) (since : Instant) (m : Monitor) (acting : Option Party) (now : Instant) : Prop
    extends AtWork start since m acting now where
  waits : m.phase = .starting ∨ ∃ wakeup, m.phase = .running wakeup ∧ ∀ u < wakeup, m.roster.scheduler.due u = []

/-- The loop has ended because the next due time of a target, reckoned from some instant, lies past the end of the clock. -/
def OutOfClock (m : Monitor) (now : Instant) : Prop :=
  ∃ fault t id e, m.phase = .failed fault ∧ t ≤ now ∧ m.roster.scheduler.entry? id = some e ∧
    Instant.limit ≤ t.nanos + e.currentInterval.nanos

theorem OutOfClock.mono (h : m.OutOfClock now) (hle : now ≤ later) : m.OutOfClock later := by
  obtain ⟨fault, t, id, e, hphase, ht, he⟩ := h
  exact ⟨fault, t, id, e, hphase, Nat.le_trans ht hle, he⟩

theorem OutOfClock.isRunning (h : m.OutOfClock now) : m.isRunning = false := by
  obtain ⟨fault, t, id, e, hphase, -⟩ := h
  rw [Monitor.isRunning, hphase]

theorem rounds_of_not_running (h : m.isRunning = false) (now : Instant) (n : Nat) : rounds now n m = m := by
  cases n with
  | zero => rfl
  | succ n =>
    unfold rounds
    cases hphase : m.phase with
    | starting | running wakeup | draining deadline report =>
      rw [isRunning, hphase] at h
      cases h
    | stopped report | failed fault => rfl

theorem OutOfClock.act (h : m.OutOfClock now) (t : Instant) (a : Party) : (actors.act t a m).OutOfClock now := by
  cases a with
  | reader =>
    have hsame : actors.act t .reader m = m := rounds_of_not_running h.isRunning t m.roundLimit
    rwa [hsame]
  | task number => exact h

/-- What is left to do at an instant, for the tasks and the loop together. -/
def load (m : Monitor) (now : Instant) : Nat := m.executor.effort + 4 * (m.roster.scheduler.due now).length

theorem OnTime.act {a : Party} {rest : List Party} (h : OnTime start since m none now)
    (hready : m.executor.agenda.ready = a :: rest) :
    OnTime start since (actors.withAgenda m { m.executor.agenda with ready := rest }) (some a) now ∧
      (actors.withAgenda m { m.executor.agenda with ready := rest }).load now < m.load now := by
  refine ⟨⟨⟨h.reaches.arrange _ _, h.attended.act hready, h.calm⟩, h.waits⟩, ?_⟩
  have hlength : m.executor.agenda.ready.length = rest.length + 1 := by rw [hready]; rfl
  unfold load Executor.effort
  rw [hlength]
  exact Nat.add_lt_add_right (Nat.lt_succ_self _) _

theorem OnTime.turn {number : Nat} (h : OnTime start since m (some (.task number)) now) :
    OnTime start since (m.react now (.turn number)) none now ∧ (m.react now (.turn number)).load now ≤ m.load now := by
  have hn := h.reaches.numbered
  have hcancelled := (Executor.keeps_stepNumber m.executor number now).cancelled
  have hcalm := h.calm
  refine ⟨⟨⟨h.reaches.react trivial trivial, h.attended.stepNumber hn, ?_⟩, h.waits⟩, ?_⟩
  · exact ⟨hcalm.1, hcalm.2.1, hcancelled.trans hcalm.2.2⟩
  · exact Nat.add_le_add_right (Executor.effort_stepNumber hn number now) _

def roundsLeft (m : Monitor) (now : Instant) : Nat :=
  m.executor.completions.length + (m.roster.scheduler.due now).length +
    if m.phase.wakeup?.any (fun wakeup => now < wakeup) then 0 else 1

theorem lt_wakeup_of_rests (hq : m.roster.scheduler.Queued) (hrests : m.roster.scheduler.due now = []) :
    now < m.wakeup now ∧ ∀ u < m.wakeup now, m.roster.scheduler.due u = [] := by
  have hiff := hq.nextWakeup_le_iff
  unfold wakeup
  cases hn : m.roster.scheduler.nextWakeup with
  | none =>
    refine ⟨Nat.lt_add_of_pos_right (by decide), fun u _ => Decidable.byContradiction fun hne => ?_⟩
    obtain ⟨time, htime, -⟩ := (hiff u).mpr hne
    rw [hn] at htime
    cases htime
  | some wakeup =>
    have hlate (u : Instant) : wakeup ≤ u ↔ m.roster.scheduler.due u ≠ [] := by
      rw [← hiff u, hn]
      simp
    refine ⟨Nat.not_le.mp fun hle => (hlate now).mp hle hrests, fun u hlt => Decidable.byContradiction fun hne => ?_⟩
    exact absurd ((hlate u).mpr hne) (Nat.not_le.mpr hlt)

theorem AtWork.goOn (h : AtWork start since m (some .reader) now) :
    OnTime start since (m.goOn now) (some .reader) now ∧ (m.goOn now).load now ≤ m.load now ∧
      (m.goOn now).roundsLeft now ≤ m.executor.completions.length + (m.roster.scheduler.due now).length := by
  have hreaches : start.Reaches since (m.dispatchDue now) now := h.reaches.react (e := .dispatch) trivial trivial
  obtain ⟨k, rfl, hk⟩ := h.reaches.orderly
  have hdue : (k.monitor.dispatchDue now).roster.scheduler.due now = [] :=
    Chronicle.due_dispatchDue hk.matched hk.filed now
  obtain ⟨hlater, hnobody⟩ := lt_wakeup_of_rests hreaches.queued hdue
  obtain ⟨hcancelled, heffort, hcompletions⟩ :=
    Executor.foldl_dispatch_adds (k.monitor.roster.dispatchDue now).1 now k.monitor.executor
  rw [hk.length_batch now] at heffort hcompletions
  have hcalm := h.calm
  refine ⟨⟨⟨hreaches.arrange _ _, ?_, hcalm.1, hcalm.2.1, hcancelled.trans hcalm.2.2⟩, .inr ⟨_, rfl, hnobody⟩⟩, ?_, ?_⟩
  · exact Executor.Attended.of_reader (h.attended.foldl_dispatch _ now) rfl rfl rfl rfl rfl rfl
  · have hload : (k.monitor.goOn now).load now = (k.monitor.dispatchDue now).executor.effort :=
      congrArg (_ + 4 * List.length ·) hdue
    rw [hload]
    exact heffort
  · have hleft : (k.monitor.goOn now).roundsLeft now = (k.monitor.dispatchDue now).executor.completions.length := by
      have hwaits : ((k.monitor.goOn now).phase.wakeup?.any fun wakeup => now < wakeup) = true := decide_eq_true hlater
      unfold roundsLeft
      rw [if_pos hwaits]
      exact congrArg (_ + List.length ·) hdue
    rw [hleft]
    exact hcompletions

theorem AtWork.complete {c : Completion} {unread : List Completion} (h : AtWork start since m (some .reader) now)
    (hc : m.executor.completions = c :: unread) :
    (m.complete c unread now).OutOfClock now ∨
      AtWork start since (m.complete c unread now) (some .reader) now ∧
        (m.complete c unread now).phase = m.phase ∧ (m.complete c unread now).load now ≤ m.load now ∧
        (m.complete c unread now).executor.completions.length + ((m.complete c unread now).roster.scheduler.due now).length <
          m.executor.completions.length + (m.roster.scheduler.due now).length := by
  obtain ⟨k, rfl, hk⟩ := h.reaches.orderly
  rcases k.monitor.complete_cases c unread now with ⟨hnone, heq⟩ | ⟨fault, hfault, heq⟩
  · have hread : k.monitor.complete c unread now = k.monitor.react now .complete := heq.trans (react_complete hc now).symm
    have hwhole : Event.complete.IsWhole k.monitor now := by
      rw [Event.IsWhole, hc]
      exact hnone
    have hreaches := h.reaches.react (e := .complete) trivial hwhole
    have hdue : ((k.monitor.react now .complete).roster.scheduler.due now).length ≤ _ := hk.length_due_complete now
    have hlength : k.monitor.executor.completions.length = unread.length + 1 := by rw [hc]; rfl
    rw [react_complete hc] at hread hreaches hdue
    rw [hread]
    refine .inr ⟨⟨hreaches, h.attended.of_reader rfl rfl rfl rfl rfl rfl, h.calm⟩, rfl, ?_, ?_⟩
    · unfold load Executor.effort
      rw [hlength]
      dsimp only at hdue ⊢
      omega
    · rw [hlength]
      dsimp only at hdue ⊢
      omega
  · obtain ⟨e, he, hlimit⟩ := Roster.overflow_of_complete (hk.matched.get?_of_mem (hc ▸ List.mem_cons_self)) hfault
    rw [heq]
    exact .inl ⟨fault, now, c.result.targetId, e, rfl, Nat.le_refl _, he, hlimit⟩

theorem OnTime.sleep {wakeup : Instant} (h : OnTime start since m (some .reader) now) (hphase : m.phase = .running wakeup)
    (hc : m.executor.completions = []) (hlater : now < wakeup) : OnTime start since (m.setAlarm wakeup) none now := by
  have hattended := h.attended.sleep hc hlater
  refine ⟨⟨h.reaches.arrange _ _, ?_, h.calm⟩, h.waits⟩
  have hwakeup : m.phase.wakeup? = some wakeup := by rw [hphase]; rfl
  exact (congrArg (Executor.Attended _ · none now) hwakeup).mpr hattended

theorem OnTime.rounds (n : Nat) (h : OnTime start since m (some .reader) now) (hn : m.roundsLeft now < n) :
    (rounds now n m).OutOfClock now ∨
      OnTime start since (rounds now n m) none now ∧ (rounds now n m).load now ≤ m.load now := by
  -- every round but the last takes something off `roundsLeft`: a completion, or the wakeup that has come
  induction n generalizing m with
  | zero => exact absurd hn (Nat.not_lt_zero _)
  | succ n ih =>
    have hgo {m' : Monitor} (h' : AtWork start since m' (some .reader) now) (hload : m'.load now ≤ m.load now)
        (hleft : m'.executor.completions.length + (m'.roster.scheduler.due now).length < m.roundsLeft now) :
        (Monitor.rounds now n (m'.goOn now)).OutOfClock now ∨
          OnTime start since (Monitor.rounds now n (m'.goOn now)) none now ∧
            (Monitor.rounds now n (m'.goOn now)).load now ≤ m.load now := by
      obtain ⟨hon, hload', hleft'⟩ := h'.goOn
      refine (ih hon (by omega)).imp_right fun hrest => ⟨hrest.1, ?_⟩
      exact Nat.le_trans hrest.2 (Nat.le_trans hload' hload)
    unfold Monitor.rounds
    rcases h.waits with hphase | ⟨wakeup, hphase, -⟩
    · have hleft : m.executor.completions.length + (m.roster.scheduler.due now).length < m.roundsLeft now := by
        unfold roundsLeft
        rw [hphase]
        exact Nat.lt_succ_self _
      simp only [hphase, if_true]
      exact hgo h.toAtWork (Nat.le_refl _) hleft
    · simp only [hphase, round, h.calm.1, h.calm.2.1, Bool.false_eq_true, if_false]
      have hwakeup : m.phase.wakeup? = some wakeup := by rw [hphase]; rfl
      cases hc : m.executor.completions with
      | cons c unread =>
        rcases h.toAtWork.complete hc with hover | ⟨hwork, hsame, hload, hless⟩
        · simp only [hover.isRunning, Bool.false_eq_true, if_false]
          exact .inl hover
        · have hgoes : (m.complete c unread now).isRunning = true := by rw [isRunning, hsame, hphase]
          simp only [hgoes, if_true]
          exact hgo hwork hload (Nat.lt_of_lt_of_le hless (Nat.le_add_right _ _))
      | nil =>
        by_cases hdue : wakeup ≤ now
        · simp only [hdue, if_true]
          refine hgo h.toAtWork (Nat.le_refl _) ?_
          unfold roundsLeft
          rw [hwakeup, Option.any_some, if_neg (by rw [decide_eq_true_eq]; exact Nat.not_lt.mpr hdue)]
          exact Nat.lt_succ_self _
        · simp only [hdue, if_false, Bool.false_eq_true]
          exact .inr ⟨h.sleep hphase hc (Nat.not_le.mp hdue), Nat.le_refl _⟩

theorem OnTime.loopTurn (h : OnTime start since m (some .reader) now) :
    (m.turn now).OutOfClock now ∨
      OnTime start since (m.turn now) none now ∧ (m.turn now).load now ≤ m.load now := by
  refine h.rounds m.roundLimit ?_
  have hdue := h.reaches.queued.length_due_le now
  unfold roundsLeft roundLimit
  split <;> omega

/-- At an instant the parties take turns until nobody is ready, unless the loop ends with a fault. -/
theorem OnTime.settle (h : OnTime start since m none now) :
    (actors.settle now m).OutOfClock now ∨
      OnTime start since (actors.settle now m) none now ∧ (actors.settle now m).executor.agenda.ready = [] := by
  refine actors.takeTurns_rests (P := (OnTime start since · none now)) (Q := (OutOfClock · now)) now (load · now) ?_ ?_
    m.turns m (.inr ⟨h, ?_⟩)
  · intro a rest m' hover
    exact OutOfClock.act (m := actors.withAgenda m' { m'.executor.agenda with ready := rest }) hover now a
  · intro a rest m' h' hready
    obtain ⟨hacts, hless⟩ := h'.act hready
    cases a with
    | reader => exact hacts.loopTurn.imp_right fun hturn => ⟨hturn.1, Nat.lt_of_le_of_lt hturn.2 hless⟩
    | task number =>
      obtain ⟨hturn, hload⟩ := hacts.turn
      exact .inr ⟨hturn, Nat.lt_of_le_of_lt hload hless⟩
  · have hdue := h.reaches.queued.length_due_le now
    have htasks := Executor.effortIn_le m.executor.tasks
    unfold load Executor.effort turns
    omega

/-- When nobody is ready, nothing is left to do before the next alarm. -/
theorem OnTime.rests (h : OnTime start since m none now) (hready : m.executor.agenda.ready = []) {u : Instant}
    (hbefore : ∀ e ∈ m.executor.agenda.alarms, u < e.1) : m.Rests u := by
  rcases h.attended.reader (by simp) with hmem | ⟨hnil, wakeup, hwakeup, halarm⟩
  · rw [hready] at hmem
    cases hmem
  · refine ⟨h.attended.quiescent h.reaches.numbered hready hbefore, hnil, ?_⟩
    rcases h.waits with hphase | ⟨wakeup', hphase, hnobody⟩
    · rw [hphase] at hwakeup
      cases hwakeup
    · rw [hphase] at hwakeup
      cases hwakeup
      exact hnobody u (hbefore _ halarm)

theorem OnTime.clock (h : OnTime start since m none now) (hready : m.executor.agenda.ready = []) (hle : now ≤ later)
    (hbefore : ∀ e ∈ m.executor.agenda.alarms, later < e.1) : OnTime start since m none later where
  reaches := h.reaches.clock hle fun _ _ hlt => h.rests hready fun e he => Nat.lt_trans hlt (hbefore e he)
  attended := h.attended.clock hbefore
  calm := h.calm
  waits := h.waits

theorem OnTime.ring (h : OnTime start since m none now) (hready : m.executor.agenda.ready = [])
    (halarm : m.executor.agenda.nextAlarm? = some later) (hlater : now < later) :
    OnTime start since (actors.withAgenda m (m.executor.agenda.ring later)) none later := by
  have hfirst := h.attended.upcoming.nextAlarm?_le halarm
  have hclock := h.reaches.clock (Nat.le_of_lt hlater) fun u _ hlt =>
    h.rests hready fun e he => Nat.lt_of_lt_of_le hlt (hfirst e he)
  exact ⟨⟨hclock.arrange _ _, h.attended.ring later, h.calm⟩, h.waits⟩

theorem OnTime.exists_alarm (h : OnTime start since m none now) (hready : m.executor.agenda.ready = []) :
    ∃ later, m.executor.agenda.nextAlarm? = some later := by
  rcases h.attended.reader (by simp) with hmem | ⟨-, wakeup, -, halarm⟩
  · rw [hready] at hmem
    cases hmem
  · cases hagenda : m.executor.agenda.alarms with
    | nil =>
      rw [hagenda] at halarm
      cases halarm
    | cons e rest => exact ⟨e.1, by rw [Agenda.nextAlarm?, hagenda]; rfl⟩

theorem onTime_start {prober : Prober} {settings : Settings} {targets : List Target} {pick : TargetId → Nat}
    (hm : Monitor.start (some now) prober settings targets pick = .ok (.ok m)) : OnTime m now m none now := by
  have hreaches : m.Reaches now m now :=
    ⟨⟨prober, settings, targets, pick, hm⟩, [], .refl _ _, fun _ he => absurd he List.not_mem_nil, trivial, rfl⟩
  obtain ⟨registry, roster, -, -, rfl⟩ := eq_of_start hm
  refine ⟨⟨hreaches, ⟨⟨List.Pairwise.nil, fun _ he => absurd he List.not_mem_nil⟩,
    fun _ ht => absurd ht List.not_mem_nil, fun _ => .inl (List.mem_singleton_self _)⟩, rfl, rfl, rfl⟩, .inl rfl⟩

theorem OnTime.runUntil {limit : Instant} (h : OnTime start since m none now) (hle : now ≤ limit) :
    (m.runUntil now limit).OutOfClock limit ∨
      OnTime start since (m.runUntil now limit) none limit ∧ (m.runUntil now limit).executor.agenda.ready = [] := by
  unfold Monitor.runUntil
  fun_induction Actors.runUntil actors (fun _ => false) limit now m with
  | case1 now m s hdone => cases hdone
  | case2 now m s hdone hnone =>
    rcases h.settle with hover | ⟨hs, hready⟩
    · exact .inl (hover.mono hle)
    · obtain ⟨later, halarm⟩ := hs.exists_alarm hready
      cases hnone.symm.trans halarm
  | case3 now m s hdone later halarm hnext ih =>
    rcases h.settle with hover | ⟨hs, hready⟩
    · have hover := hover.mono hle
      refine .inl (actors.runUntil_preserves (P := (OutOfClock · limit)) _ limit later ?_ (fun _ _ => id) _ hover)
      exact fun t _ _ a _ hs => OutOfClock.act hs t a
    · exact ih (hs.ring hready halarm hnext.1) hnext.2
  | case4 now m s hdone later halarm hlast =>
    rcases h.settle with hover | ⟨hs, hready⟩
    · exact .inl (hover.mono hle)
    · have hupcoming := hs.attended.upcoming
      have hlimit : limit < later := Nat.not_le.mp fun hle' => hlast ⟨hupcoming.lt_nextAlarm? halarm, hle'⟩
      have hbefore : ∀ e ∈ s.executor.agenda.alarms, limit < e.1 := fun e he =>
        Nat.lt_of_lt_of_le hlimit (hupcoming.nextAlarm?_le halarm e he)
      exact .inr ⟨hs.clock hready hle hbefore, hready⟩

/-- A monitor that is left to itself gets through all that comes up, in the order of the clock, and rests at the end, unless
a due time lies past the end of the clock. -/
theorem reaches_runUntil {prober : Prober} {settings : Settings} {targets : List Target} {pick : TargetId → Nat}
    (hm : Monitor.start (some now) prober settings targets pick = .ok (.ok m)) (hle : now ≤ later) :
    (m.runUntil now later).OutOfClock later ∨ m.Reaches now (m.runUntil now later) later ∧ (m.runUntil now later).Rests later :=
  ((onTime_start hm).runUntil hle).imp_right fun ⟨h, hready⟩ => ⟨h.reaches, h.rests hready h.attended.upcoming.later⟩

end Monitor

end TargetHealth
