import TargetHealth.Proofs.Monitor.Abandonment
import TargetHealth.Proofs.Monitor.Clockwork

namespace TargetHealth

namespace Monitor

def patience? (m : Monitor) : Option Instant :=
  if m.roster.scheduler.inFlightCount = 0 then none else m.phase.deadline?

theorem drainRound_cases (m : Monitor) (deadline : Instant) (report : DrainReport) (now : Instant) :
    (∃ c unread, m.executor.completions = c :: unread ∧
      m.drainRound deadline report now = (true, m.drainOne deadline report c unread now)) ∨
    (m.roster.scheduler.inFlightCount ≠ 0 ∧ m.executor.completions = [] ∧ now < deadline ∧
      m.drainRound deadline report now = (false, m.setAlarm deadline)) ∨
    ∃ u, m.drainRound deadline report now = (false, u) ∧ u.isRunning = false := by
  unfold drainRound
  split
  · exact .inr (.inr ⟨_, rfl, rfl⟩)
  · rename_i hsome
    split
    · rename_i c unread hc
      exact .inl ⟨c, unread, hc, rfl⟩
    · rename_i hc
      split
      · refine .inr (.inr ⟨_, rfl, ?_⟩)
        rw [expire, hc]
        rfl
      · rename_i hearly
        exact .inr (.inl ⟨hsome, hc, Nat.not_le.mp hearly, rfl⟩)

theorem answer_stop (m : Monitor) (now : Instant) (loop : Nat) :
    (∀ report, (m.stop now loop).2.1.phase = .stopped report → (m.stop now loop).1 = .ok report) ∧
      ∀ fault, (m.stop now loop).2.1.phase = .failed fault →
        (m.stop now loop).1 = .error (.engineFailed ⟨loop, fault⟩) := by
  refine ⟨fun report hp => ?_, fun fault hp => ?_⟩
  · rw [stop_eq] at hp
    simp only [stop, hp]
  · rw [stop_eq] at hp
    simp only [stop, hp]

theorem Reaches.asked {start m : Monitor} {since now : Instant} (h : start.Reaches since m now) :
    start.Reaches since { m with stopRequested := true } now :=
  h.react (e := .arrange m.phase true m.scheduleChanged m.executor.agenda) trivial trivial

end Monitor

namespace Drain

variable {start m : Monitor} {stop now later : Instant} {acting : Option Party}

theorem LetsClock.trans {d : Drain} {a b c : Instant} (h : d.LetsClock a b) (h' : d.LetsClock b c) : d.LetsClock a c := by
  refine ⟨Nat.le_trans h.1 h'.1, fun hlt => ?_, fun u hge hlt => ?_⟩
  · rcases Instant.lt_or_eq_of_le h'.1 with hmoves | rfl
    · exact h'.2.1 hmoves
    · exact h.2.1 hlt
  · by_cases hearly : u < b
    · exact h.2.2 u hge hearly
    · exact h'.2.2 u (Nat.not_lt.mp hearly) hlt

/-- A monitor to which the drain of one that was asked to stop has come by an instant, with a clock that waits. -/
structure Comes (start : Monitor) (stop : Instant) (m : Monitor) (now : Instant) : Prop where
  matched : ∃ past, (⟨start, past⟩ : Chronicle).Matched
  path : ∃ steps, Paced Drain.next LetsClock (ofStop start stop) stop steps now ∧ ((ofStop start stop).run steps).monitor = m

theorem Comes.next (h : Comes start stop m now) (s : Monitor.DrainStep) : Comes start stop (m.drainStep now s) now := by
  obtain ⟨steps, hpaced, rfl⟩ := h.path
  refine ⟨h.matched, steps ++ [(now, s)], hpaced.concat s letsClock_self, ?_⟩
  rw [run, run, List.foldl_concat]
  rfl

theorem Comes.clock (h : Comes start stop m now) (hle : now ≤ later) (hidles : m.Idles later)
    (hquiet : ∀ u, now ≤ u → u < later → m.executor.Quiescent u) : Comes start stop m later := by
  obtain ⟨steps, hpaced, rfl⟩ := h.path
  exact ⟨h.matched, steps, hpaced.later ⟨hle, fun _ => hidles, hquiet⟩ fun _ _ _ _ => LetsClock.trans, rfl⟩

theorem Comes.balanced (h : Comes start stop m now) : ∃ drained, (⟨m, drained⟩ : Drain).Balanced
    (start.roster.scheduler.inFlight.entries : Multiset ProbeLabel) (stop.after start.drainTimeout) True := by
  obtain ⟨past, hpast⟩ := h.matched
  obtain ⟨steps, -, rfl⟩ := h.path
  exact ⟨_, ((balanced_ofStop hpast stop).run steps).mono fun _ => trivial⟩

theorem Comes.numbered (h : Comes start stop m now) : m.executor.Numbered := by
  obtain ⟨drained, hb⟩ := h.balanced
  exact hb.matched.elim fun _ hm => hm.numbered

/-- A loop that drains. Everyone is waited for but the party that acts. -/
structure Winding (start : Monitor) (stop : Instant) (m : Monitor) (acting : Option Party) (now : Instant) : Prop
    extends Comes start stop m now where
  attended : m.executor.Attended m.patience? acting now
  draining : ∃ report, m.phase = .draining (stop.after start.drainTimeout) report

structure Over (start : Monitor) (stop : Instant) (m : Monitor) (now : Instant) : Prop where
  ended : m.isRunning = false
  path : ∃ steps final, Paced Drain.next LetsClock (ofStop start stop) stop steps now ∧
    (∃ report, ((ofStop start stop).run steps).monitor.phase = .draining (stop.after start.drainTimeout) report) ∧
    Paced Drain.next LetsClock ((ofStop start stop).run steps) now final now ∧
    (((ofStop start stop).run steps).run final).monitor = m

theorem Winding.over (h : Winding start stop m acting now) {s : Monitor.DrainStep}
    (hended : (m.drainStep now s).isRunning = false) : Over start stop (m.drainStep now s) now := by
  obtain ⟨steps, hpaced, hmonitor⟩ := h.path
  refine ⟨hended, steps, [(now, s)], hpaced, hmonitor ▸ h.draining, ⟨letsClock_self _ _, letsClock_self _ _⟩, ?_⟩
  rw [← hmonitor]
  rfl

theorem Over.next (h : Over start stop m now) {s : Monitor.DrainStep} (hended : (m.drainStep now s).isRunning = false) :
    Over start stop (m.drainStep now s) now := by
  obtain ⟨steps, final, hpaced, hdrains, hfinal, rfl⟩ := h.path
  refine ⟨hended, steps, final ++ [(now, s)], hpaced, hdrains, hfinal.concat s letsClock_self, ?_⟩
  rw [run, run, run, List.foldl_concat]
  rfl

theorem Winding.act {a : Party} {rest : List Party} (h : Winding start stop m none now)
    (hready : m.executor.agenda.ready = a :: rest) :
    Winding start stop (Monitor.actors.withAgenda m { m.executor.agenda with ready := rest }) (some a) now ∧
      (Monitor.actors.withAgenda m { m.executor.agenda with ready := rest }).executor.effort < m.executor.effort := by
  refine ⟨⟨h.next (.arrange _), h.attended.act hready, h.draining⟩, ?_⟩
  have hlength : m.executor.agenda.ready.length = rest.length + 1 := by rw [hready]; rfl
  unfold Executor.effort
  rw [hlength]
  exact Nat.lt_succ_self _

theorem Winding.turn {number : Nat} (h : Winding start stop m (some (.task number)) now) :
    Winding start stop (m.drainStep now (.turn number)) none now ∧
      (m.drainStep now (.turn number)).executor.effort ≤ m.executor.effort :=
  ⟨⟨h.next (.turn number), h.attended.stepNumber h.numbered, h.draining⟩, Executor.effort_stepNumber h.numbered number now⟩

theorem Winding.complete {deadline : Instant} {report : DrainReport} {c : Completion} {unread : List Completion}
    (h : Winding start stop m (some .reader) now) (hphase : m.phase = .draining deadline report)
    (hc : m.executor.completions = c :: unread)
    (hround : m.drainRound deadline report now = (true, m.drainOne deadline report c unread now)) :
    Over start stop (m.drainOne deadline report c unread now) now ∨
      Winding start stop (m.drainOne deadline report c unread now) (some .reader) now ∧
        (m.drainOne deadline report c unread now).executor.effort ≤ m.executor.effort := by
  have hstep : m.drainStep now .round = m.drainOne deadline report c unread now := by
    simp only [Monitor.drainStep, hphase, hround]
  obtain ⟨report', hdraining⟩ := h.draining
  rcases Monitor.complete_cases { m with phase := .draining deadline (report.count c.result.outcome) } c unread now with
    ⟨-, heq⟩ | ⟨fault, -, heq⟩
  · obtain ⟨rfl, rfl⟩ : deadline = _ ∧ report = report' := by simpa using hphase.symm.trans hdraining
    have hcomes := h.next .round
    rw [hstep, Monitor.drainOne, heq] at hcomes
    rw [Monitor.drainOne, heq]
    refine .inr ⟨⟨hcomes, h.attended.of_reader rfl rfl rfl rfl rfl rfl, _, rfl⟩, ?_⟩
    have hlength : m.executor.completions.length = unread.length + 1 := by rw [hc]; rfl
    unfold Executor.effort
    rw [hlength]
    dsimp only
    omega
  · rw [← hstep]
    refine .inl (h.over ?_)
    rw [hstep, Monitor.drainOne, heq]
    rfl

theorem Winding.rounds (n : Nat) (h : Winding start stop m (some .reader) now) (hn : m.executor.completions.length < n) :
    Over start stop (Monitor.rounds now n m) now ∨
      Winding start stop (Monitor.rounds now n m) none now ∧
        (Monitor.rounds now n m).executor.effort ≤ m.executor.effort := by
  -- every round but the last reads a completion
  induction n generalizing m with
  | zero => exact absurd hn (Nat.not_lt_zero _)
  | succ n ih =>
    obtain ⟨report, hphase⟩ := h.draining
    have hstep : m.drainStep now .round = (m.drainRound (stop.after start.drainTimeout) report now).2 := by
      simp only [Monitor.drainStep, hphase]
    unfold Monitor.rounds
    rcases m.drainRound_cases (stop.after start.drainTimeout) report now with
      ⟨c, unread, hc, hround⟩ | ⟨hsome, hc, hearly, hround⟩ | ⟨u, hround, hended⟩
    · simp only [hphase, hround, if_true]
      rcases h.complete hphase hc hround with hover | ⟨hwinds, heffort⟩
      · rw [Monitor.rounds_of_not_running hover.ended]
        exact .inl hover
      · refine (ih hwinds ?_).imp_right fun hrest => ⟨hrest.1, Nat.le_trans hrest.2 heffort⟩
        rw [(m.drainOne_eq (stop.after start.drainTimeout) report c unread now).2.1]
        rw [hc, List.length_cons] at hn
        exact Nat.lt_of_succ_lt_succ hn
    · replace hstep := hstep.trans (congrArg Prod.snd hround)
      simp only [hphase, hround, Bool.false_eq_true, if_false]
      have hpatience : (m.setAlarm (stop.after start.drainTimeout)).patience? = some (stop.after start.drainTimeout) := by
        rw [Monitor.patience?, Monitor.setAlarm, if_neg hsome, hphase]
        rfl
      have hcomes := h.next .round
      rw [hstep] at hcomes
      refine .inr ⟨⟨hcomes, ?_, report, hphase⟩, Nat.le_refl _⟩
      rw [hpatience]
      exact h.attended.sleep hc hearly
    · replace hstep := hstep.trans (congrArg Prod.snd hround)
      simp only [hphase, hround, Bool.false_eq_true, if_false]
      have hover : Over start stop (m.drainStep now .round) now := h.over (by rwa [hstep])
      rw [hstep] at hover
      exact .inl hover

theorem Winding.loopTurn (h : Winding start stop m (some .reader) now) :
    Over start stop (m.turn now) now ∨
      Winding start stop (m.turn now) none now ∧ (m.turn now).executor.effort ≤ m.executor.effort := by
  refine h.rounds m.roundLimit ?_
  unfold Monitor.roundLimit
  omega

theorem Over.act (h : Over start stop m now) (a : Party) (rest : List Party) :
    Over start stop (Monitor.actors.turnOf now a rest m) now := by
  have hagenda := h.next (s := .arrange { m.executor.agenda with ready := rest }) h.ended
  cases a with
  | reader =>
    let u := Monitor.actors.withAgenda m { m.executor.agenda with ready := rest }
    have hsame : Monitor.actors.turnOf now .reader rest m = u :=
      Monitor.rounds_of_not_running (m := u) h.ended now u.roundLimit
    rw [hsame]
    exact hagenda
  | task number => exact hagenda.next (s := .turn number) h.ended

/-- At an instant the parties take turns until nobody is ready, unless the drain ends. -/
theorem Winding.takeTurns (n : Nat) (h : Over start stop m now ∨ Winding start stop m none now ∧ m.executor.effort < n) :
    Over start stop (Monitor.actors.takeTurns now n m) now ∨
      Winding start stop (Monitor.actors.takeTurns now n m) none now ∧
        (Monitor.actors.takeTurns now n m).executor.agenda.ready = [] := by
  refine Monitor.actors.takeTurns_rests (P := (Winding start stop · none now)) (Q := (Over start stop · now)) now
    (·.executor.effort) (fun a rest m' h' => h'.act a rest) ?_ n m h
  intro a rest m' h' hready
  obtain ⟨hacts, hless⟩ := h'.act hready
  cases a with
  | reader => exact hacts.loopTurn.imp_right fun hturn => ⟨hturn.1, Nat.lt_of_le_of_lt hturn.2 hless⟩
  | task number =>
    obtain ⟨hturn, heffort⟩ := hacts.turn
    exact .inr ⟨hturn, Nat.lt_of_le_of_lt heffort hless⟩

theorem Winding.settle (h : Winding start stop m none now) :
    Over start stop (Monitor.actors.settle now m) now ∨
      Winding start stop (Monitor.actors.settle now m) none now ∧
        (Monitor.actors.settle now m).executor.agenda.ready = [] := by
  refine Winding.takeTurns m.turns (.inr ⟨h, ?_⟩)
  have htasks := Executor.effortIn_le m.executor.tasks
  unfold Executor.effort Monitor.turns
  omega

theorem Winding.sleeps (h : Winding start stop m none now) (hready : m.executor.agenda.ready = []) :
    m.roster.scheduler.inFlightCount ≠ 0 ∧ m.executor.completions = [] ∧
      (stop.after start.drainTimeout, Party.reader) ∈ m.executor.agenda.alarms := by
  rcases h.attended.reader (by simp) with hmem | ⟨hnil, wakeup, hwakeup, halarm⟩
  · rw [hready] at hmem
    cases hmem
  · obtain ⟨report, hphase⟩ := h.draining
    unfold Monitor.patience? at hwakeup
    rw [hphase] at hwakeup
    split at hwakeup
    · cases hwakeup
    · rename_i hsome
      cases hwakeup
      exact ⟨hsome, hnil, halarm⟩

theorem Winding.ring (h : Winding start stop m none now) (hready : m.executor.agenda.ready = [])
    (halarm : m.executor.agenda.nextAlarm? = some later) (hlater : now < later) :
    Winding start stop (Monitor.actors.withAgenda m (m.executor.agenda.ring later)) none later := by
  obtain ⟨hsome, hnil, hdeadline⟩ := h.sleeps hready
  have hfirst := h.attended.upcoming.nextAlarm?_le halarm
  have hidles : m.Idles later := by
    obtain ⟨report, hphase⟩ := h.draining
    intro deadline hd
    rw [hphase] at hd
    cases hd
    exact ⟨hsome, hnil, hfirst _ hdeadline⟩
  have hclock := h.clock (Nat.le_of_lt hlater) hidles fun u _ hlt =>
    h.attended.quiescent h.numbered hready fun e he => Nat.lt_of_lt_of_le hlt (hfirst e he)
  exact ⟨hclock.next (.arrange _), h.attended.ring later, h.draining⟩

theorem Winding.runUntil (h : Over start stop (Monitor.actors.settle now m) now ∨
      Winding start stop (Monitor.actors.settle now m) none now ∧
        (Monitor.actors.settle now m).executor.agenda.ready = []) (hle : now ≤ stop.after start.drainTimeout) :
    let r := Monitor.actors.runUntil (fun m => !m.isRunning) (stop.after start.drainTimeout) now m
    Over start stop r.1 r.2 ∧ r.2 ≤ stop.after start.drainTimeout := by
  fun_induction Actors.runUntil Monitor.actors (fun m => !m.isRunning) (stop.after start.drainTimeout) now m with
  | case1 now m s hdone =>
    rcases h with hover | ⟨hs, -⟩
    · exact ⟨hover, hle⟩
    · obtain ⟨report, hphase⟩ := hs.draining
      rw [Monitor.isRunning, hphase] at hdone
      cases hdone
  | case2 now m s hdone hnone =>
    rcases h with hover | ⟨hs, hready⟩
    · exact absurd (by rw [hover.ended]; rfl) hdone
    · have halarm := (hs.sleeps hready).2.2
      have hnil := List.head?_eq_none_iff.mp (Option.map_eq_none_iff.mp hnone)
      exact absurd (hnil ▸ halarm) List.not_mem_nil
  | case3 now m s hdone later halarm hnext ih =>
    rcases h with hover | ⟨hs, hready⟩
    · exact absurd (by rw [hover.ended]; rfl) hdone
    · exact ih (hs.ring hready halarm hnext.1).settle hnext.2
  | case4 now m s hdone later halarm hlast =>
    rcases h with hover | ⟨hs, hready⟩
    · exact absurd (by rw [hover.ended]; rfl) hdone
    · have hupcoming := hs.attended.upcoming
      exact absurd ⟨hupcoming.lt_nextAlarm? halarm, hupcoming.nextAlarm?_le halarm _ (hs.sleeps hready).2.2⟩ hlast

theorem winding_beginDrain {wakeup? : Option Instant} (hm : ∃ past, (⟨start, past⟩ : Chronicle).Matched)
    (h : start.executor.Attended wakeup? acting stop) :
    Winding start stop (start.beginDrain stop) (some .reader) stop :=
  ⟨⟨hm, [], letsClock_self _ _, rfl⟩, h.cancel, _, rfl⟩

theorem settle_requestStop {first : Monitor} {since : Instant} (h : Monitor.OnTime first since m none stop)
    (hready : m.executor.agenda.ready = []) :
    let u := { m with stopRequested := true }
    Over u stop (Monitor.actors.settle stop m.requestStop) stop ∨
      Winding u stop (Monitor.actors.settle stop m.requestStop) none stop ∧
        (Monitor.actors.settle stop m.requestStop).executor.agenda.ready = [] := by
  intro u
  have hmatched : ∃ past, (⟨u, past⟩ : Chronicle).Matched := by
    obtain ⟨k, hk, horderly⟩ := h.reaches.asked.orderly
    have hu : u = k.monitor := hk.symm
    exact ⟨k.past, hu ▸ horderly.matched⟩
  obtain ⟨hnil, wakeup, hphase⟩ : m.executor.completions = [] ∧ ∃ wakeup, m.phase = .running wakeup := by
    rcases h.attended.reader (by simp) with hmem | ⟨hnil, wakeup, hwakeup, -⟩
    · rw [hready] at hmem
      cases hmem
    · rcases h.waits with hp | ⟨wakeup', hp, -⟩
      · rw [hp] at hwakeup
        cases hwakeup
      · exact ⟨hnil, wakeup', hp⟩
  have hwake : m.executor.agenda.wake .reader = { m.executor.agenda with ready := [.reader] } := by
    rw [Agenda.wake, hready]
    rfl
  have hwoken : (Monitor.actors.agenda m.requestStop).ready = [.reader] := congrArg Agenda.ready hwake
  have hturn : Monitor.actors.turnOf stop .reader [] m.requestStop = u.turn stop := by
    have hagenda : { m.executor.agenda.wake .reader with ready := [] } = m.executor.agenda := by
      rw [hwake, ← hready]
    exact congrArg (fun g => ({ u with executor := { m.executor with agenda := g } } : Monitor).turn stop) hagenda
  have hbegin : u.turn stop = Monitor.rounds stop (u.executor.completions.length + u.roster.scheduler.entries.size + 4)
      (u.beginDrain stop) := by
    change Monitor.rounds stop (u.executor.completions.length + u.roster.scheduler.entries.size + 4 + 1) u = _
    have hasked : u.phase = .running wakeup := hphase
    have hround : u.round wakeup stop = (true, u.beginDrain stop) := rfl
    rw [Monitor.rounds]
    simp only [hasked, hround, if_true]
  let more := 8 * (m.executor.tasks.length + 2 * m.roster.scheduler.entries.size + m.executor.completions.length) +
    m.requestStop.executor.agenda.ready.length + 7
  have hsettle : Monitor.actors.settle stop m.requestStop = Monitor.actors.takeTurns stop more (u.turn stop) := by
    rw [← hturn, ← Monitor.actors.takeTurns_cons hwoken]
    rfl
  have hfew : (u.beginDrain stop).executor.completions.length <
      u.executor.completions.length + u.roster.scheduler.entries.size + 4 := by
    change u.executor.completions.length < _
    omega
  have hrounds := (winding_beginDrain hmatched h.attended).rounds _ hfew
  rw [← hbegin] at hrounds
  rw [hsettle]
  refine Winding.takeTurns more (hrounds.imp_right fun hturned => ⟨hturned.1, Nat.lt_of_le_of_lt hturned.2 ?_⟩)
  have hcancel : (u.beginDrain stop).executor.effort ≤ m.executor.effort + m.executor.tasks.length := m.executor.effort_cancel
  have htasks := Executor.effortIn_le m.executor.tasks
  have heffort : m.executor.effort = Executor.effortIn m.executor.tasks := by
    rw [Executor.effort, hnil, hready]
    rfl
  omega

/-- A monitor that is left to itself and then asked to stop drains, and the drain is over at its deadline at the latest. -/
theorem over_stop {prober : Prober} {settings : Settings} {targets : List Target} {pick : TargetId → Nat}
    (hm : Monitor.start (some now) prober settings targets pick = .ok (.ok m)) (hle : now ≤ stop) (loop : Nat) :
    let u := { m.runUntil now stop with stopRequested := true }
    let ended := ((m.runUntil now stop).stop stop loop).2
    (m.runUntil now stop).OutOfClock stop ∨
      m.Reaches now u stop ∧ Over u stop ended.1 ended.2 ∧ ended.2 ≤ stop.after u.drainTimeout := by
  intro u ended
  refine ((Monitor.onTime_start hm).runUntil hle).imp_right fun h => ?_
  have hended : ended = _ := (m.runUntil now stop).stop_eq stop loop
  rw [hended]
  exact ⟨h.1.reaches.asked, Winding.runUntil (settle_requestStop h.1 h.2) (Nat.le_add_right _ _)⟩

/-- A monitor that is left to itself and then asked to stop answers with the report of its drain, if the drain outlasts the
grace and no next due time lies past the end of the clock. No probe is abandoned exactly if none began when the clock had no
room for its deadline, and then the answer comes before the grace is over. -/
theorem stop_within_grace {prober : Prober} {settings : Settings} {targets : List Target} {pick : TargetId → Nat}
    (hm : Monitor.start (some now) prober settings targets pick = .ok (.ok m))
    (hgrace : settings.graceMs < settings.drainTimeoutMs) (hle : now ≤ stop) (loop : Nat) :
    let u := { m.runUntil now stop with stopRequested := true }
    let answer := ((m.runUntil now stop).stop stop loop).1
    let ended := ((m.runUntil now stop).stop stop loop).2
    (m.runUntil now stop).OutOfClock stop ∨
      ∃ es steps, Paced Chronicle.react Chronicle.RestsUntil (Chronicle.ofStart m) now es stop ∧ m.run es = u ∧
        Paced Drain.next LetsClock (ofStop u stop) stop steps ended.2 ∧ ((ofStop u stop).run steps).monitor = ended.1 ∧
        ((∃ report, answer = .ok report ∧ (report.abandoned = 0 ↔ m.Spares es ∧ (ofStop u stop).Spares steps) ∧
            (report.abandoned = 0 → ended.2 ≤ stop.after settings.grace)) ∨
          ∃ fault id e, answer = .error (.engineFailed ⟨loop, fault⟩) ∧ ended.1.roster.scheduler.entry? id = some e ∧
            Instant.limit ≤ ended.2.nanos + e.currentInterval.nanos) := by
  intro u answer ended
  rcases over_stop hm hle loop with hout | ⟨hreaches, hover, -⟩
  · exact .inl hout
  obtain ⟨es, hcourse, hroutine, -, hrun⟩ := hreaches.course
  obtain ⟨steps, final, hpaced, ⟨report, hdrains⟩, hfinal, hended⟩ := hover.path
  have hall := hpaced.append hfinal fun _ _ _ _ => LetsClock.trans
  have hes : ∀ e ∈ es, e.2 ≠ .cancel := fun e he hcancel => by
    have hroutine := hroutine e he
    rwa [hcancel] at hroutine
  have hmonitor : ((ofStop u stop).run (steps ++ final)).monitor = ended.1 := by
    rw [run, List.foldl_append]
    exact hended
  obtain ⟨hconfig, hall'⟩ := punctual_run hm hgrace es hes stop (steps ++ final) (by rwa [hrun])
  obtain ⟨-, hdrain⟩ := punctual_run hm hgrace es hes stop steps (by rwa [hrun])
  rw [hrun] at hconfig hall' hdrain
  obtain ⟨hanswer, hfailure⟩ := (m.runUntil now stop).answer_stop stop loop
  refine .inr ⟨es, steps ++ final, hcourse, hrun, hall, hmonitor, ?_⟩
  rcases hall'.balanced.phase with hp | ⟨hp, -⟩ | ⟨fault, hp⟩
  · rw [hmonitor] at hp
    have hruns := hover.ended
    rw [Monitor.isRunning, hp] at hruns
    cases hruns
  · have hiff := hall'.abandoned_iff hp
    refine .inl ⟨_, hanswer _ (hmonitor ▸ hp), hiff, fun hnone => Nat.not_lt.mp fun hlate => ?_⟩
    obtain ⟨hspares, hspares'⟩ := hiff.mp hnone
    exact hdrain.late (hconfig ▸ hlate) ⟨hspares, ((spares_append _ _ _).mp hspares').1⟩ _ _ hdrains
  · obtain ⟨id, e, he, hlimit⟩ := hall'.overflow hp
    rw [hmonitor] at hp he
    exact .inr ⟨fault, id, e, hfailure fault hp, he, hlimit⟩

end Drain

end TargetHealth
