import TargetHealth.Monitor.Run
import TargetHealth.Proofs.Executor.Accounting
import TargetHealth.Proofs.Time.Agenda

namespace TargetHealth

namespace Monitor

/-- What can happen to a monitor. -/
inductive Event where
  | dispatch
  | complete
  | reload (targets : List Target) (pick : TargetId → Nat)
  | cancel
  | turn (number : Nat)
  /-- The loop ends, and its tasks are stopped. -/
  | halt (phase : MonitorPhase)
  /-- The loop turns to another phase, notes a request or the lack of one, or the agenda is arranged anew. -/
  | arrange (phase : MonitorPhase) (stopRequested scheduleChanged : Bool) (agenda : Agenda Party)

abbrev Course := List (Instant × Event)

/-- A monitor after an event. A reload that is refused leaves it as it is, and one that meets a fault is broken off. -/
def react (m : Monitor) (now : Instant) : Event → Monitor
  | .dispatch => m.dispatchDue now
  | .complete =>
    match m.executor.completions with
    | [] => m
    | c :: unread =>
      { m with roster := (m.roster.complete c now).2, executor := { m.executor with completions := unread } }
  | .reload targets pick =>
    match m.reload targets now pick with
    | .ok (.ok (_, m)) => m
    | .ok (.error _) => m
    | .error _ => m.interruptReload targets now pick
  | .cancel => { m with executor := m.executor.cancel }
  | .turn number => { m with executor := m.executor.stepNumber number now }
  | .halt phase => m.halt phase
  | .arrange phase stopRequested scheduleChanged agenda =>
    { m with
      phase := phase
      stopRequested := stopRequested
      scheduleChanged := scheduleChanged
      executor := { m.executor with agenda := agenda } }

def run (m : Monitor) : Course → Monitor
  | [] => m
  | (now, e) :: es => run (m.react now e) es

theorem run_append (m : Monitor) (es es' : Course) : m.run (es ++ es') = (m.run es).run es' := by
  induction es generalizing m with
  | nil => rfl
  | cons e es ih => exact ih _

/-- An event that stops no task, and begins no probe when the clock has no room for its deadline. -/
def Event.Spares (m : Monitor) (now : Instant) : Event → Prop
  | .turn number => m.executor.FitsTurn number now
  | .halt _ => m.executor.live = []
  | _ => True

def Spares (m : Monitor) : Course → Prop
  | [] => True
  | (now, e) :: es => e.Spares m now ∧ Spares (m.react now e) es

instance (m : Monitor) (now : Instant) : (e : Event) → Decidable (e.Spares m now)
  | .turn number => inferInstanceAs (Decidable (m.executor.FitsTurn number now))
  | .halt _ => inferInstanceAs (Decidable (m.executor.live = []))
  | .dispatch | .complete | .reload _ _ | .cancel | .arrange _ _ _ _ => .isTrue trivial

instance decidableSpares (m : Monitor) : (es : Course) → Decidable (m.Spares es)
  | [] => .isTrue trivial
  | (now, e) :: es =>
    have := decidableSpares (m.react now e) es
    inferInstanceAs (Decidable (e.Spares m now ∧ (m.react now e).Spares es))

def LeadsTo (m m' : Monitor) : Prop := ∃ es : Course, m' = m.run es

variable {m m' m'' : Monitor}

theorem LeadsTo.refl (m : Monitor) : m.LeadsTo m := ⟨[], rfl⟩

theorem LeadsTo.trans (h : m.LeadsTo m') (h' : m'.LeadsTo m'') : m.LeadsTo m'' := by
  obtain ⟨es, rfl⟩ := h
  obtain ⟨es', rfl⟩ := h'
  exact ⟨es ++ es', (run_append m es es').symm⟩

theorem leadsTo_react (m : Monitor) (now : Instant) (e : Event) : m.LeadsTo (m.react now e) := ⟨[(now, e)], rfl⟩

theorem leadsTo_arrange (m : Monitor) (phase : MonitorPhase) (stopRequested scheduleChanged : Bool)
    (agenda : Agenda Party) : m.LeadsTo { m with
      phase := phase
      stopRequested := stopRequested
      scheduleChanged := scheduleChanged
      executor := { m.executor with agenda := agenda } } :=
  leadsTo_react m ⟨0⟩ (.arrange phase stopRequested scheduleChanged agenda)

theorem leadsTo_setAlarm (m : Monitor) (t : Instant) : m.LeadsTo (m.setAlarm t) := leadsTo_arrange m _ _ _ _

theorem leadsTo_phase (m : Monitor) (phase : MonitorPhase) : m.LeadsTo { m with phase := phase } :=
  leadsTo_arrange m phase _ _ _

theorem leadsTo_halt (m : Monitor) (phase : MonitorPhase) : m.LeadsTo (m.halt phase) :=
  leadsTo_react m ⟨0⟩ (.halt phase)

theorem leadsTo_goOn (m : Monitor) (now : Instant) : m.LeadsTo (m.goOn now) :=
  (leadsTo_react m now .dispatch).trans (leadsTo_phase _ _)

theorem complete_cases (m : Monitor) (c : Completion) (unread : List Completion) (now : Instant) :
    ((m.roster.complete c now).1 = none ∧ m.complete c unread now = { m with
      roster := (m.roster.complete c now).2
      executor := { m.executor with completions := unread } }) ∨
    ∃ fault, (m.roster.complete c now).1 = some fault ∧ m.complete c unread now = halt { m with
      roster := (m.roster.complete c now).2
      executor := { m.executor with completions := unread } } (.failed fault) := by
  unfold complete
  dsimp only
  split
  · rename_i roster hr
    rw [hr]
    exact .inl ⟨rfl, rfl⟩
  · rename_i fault roster hr
    rw [hr]
    exact .inr ⟨fault, rfl, rfl⟩

theorem complete_eq (m : Monitor) (c : Completion) (unread : List Completion) (now : Instant) :
    (m.complete c unread now).roster = (m.roster.complete c now).2 ∧
      (m.complete c unread now).executor.completions = unread ∧
      ((m.complete c unread now).phase = m.phase ∨ ∃ fault, (m.complete c unread now).phase = .failed fault) := by
  rcases m.complete_cases c unread now with ⟨-, heq⟩ | ⟨fault, -, heq⟩
  · rw [heq]
    exact ⟨rfl, rfl, .inl rfl⟩
  · rw [heq]
    exact ⟨rfl, rfl, .inr ⟨fault, rfl⟩⟩

theorem react_complete {c : Completion} {unread : List Completion} (hc : m.executor.completions = c :: unread)
    (now : Instant) : m.react now .complete = { m with
      roster := (m.roster.complete c now).2
      executor := { m.executor with completions := unread } } := by
  simp only [react, hc]

theorem leadsTo_complete {c : Completion} {unread : List Completion} (hc : m.executor.completions = c :: unread)
    (now : Instant) : m.LeadsTo (m.complete c unread now) := by
  have h := leadsTo_react m now .complete
  rw [react_complete hc] at h
  rcases m.complete_cases c unread now with ⟨-, heq⟩ | ⟨fault, -, heq⟩
  · exact heq ▸ h
  · exact heq ▸ h.trans (leadsTo_halt _ _)

theorem leadsTo_beginDrain (m : Monitor) (now : Instant) : m.LeadsTo (m.beginDrain now) :=
  (leadsTo_react m now .cancel).trans (leadsTo_phase _ _)

theorem leadsTo_round (m : Monitor) (wakeup now : Instant) : m.LeadsTo (m.round wakeup now).2 := by
  unfold round
  split
  · exact leadsTo_beginDrain m now
  · split
    · rename_i c unread hc
      dsimp only
      split
      · exact (leadsTo_complete hc now).trans (leadsTo_goOn _ now)
      · exact leadsTo_complete hc now
    · split
      · exact (leadsTo_arrange m m.phase m.stopRequested false m.executor.agenda).trans (leadsTo_goOn _ now)
      · split
        · exact leadsTo_goOn m now
        · exact leadsTo_setAlarm m wakeup

theorem drainOne_eq (m : Monitor) (deadline : Instant) (report : DrainReport) (c : Completion) (unread : List Completion)
    (now : Instant) :
    (m.drainOne deadline report c unread now).roster = (m.roster.complete c now).2 ∧
      (m.drainOne deadline report c unread now).executor.completions = unread ∧
      ((m.drainOne deadline report c unread now).phase = .draining deadline (report.count c.result.outcome) ∨
        ∃ fault, (m.drainOne deadline report c unread now).phase = .failed fault) :=
  complete_eq _ c unread now

theorem leadsTo_drainOne (deadline : Instant) (report : DrainReport) {c : Completion} {unread : List Completion}
    (hc : m.executor.completions = c :: unread) (now : Instant) : m.LeadsTo (m.drainOne deadline report c unread now) := by
  refine (leadsTo_phase m (.draining deadline (report.count c.result.outcome))).trans (leadsTo_complete ?_ now)
  exact hc

theorem leadsTo_flush (deadline now : Instant) (unread : List Completion) (report : DrainReport) (m : Monitor)
    (hc : m.executor.completions = unread) : m.LeadsTo (flush deadline now unread report m) := by
  induction unread generalizing report m with
  | nil => exact leadsTo_halt m _
  | cons c unread ih =>
    have hone := leadsTo_drainOne deadline report hc now
    unfold flush
    dsimp only
    split
    · exact hone.trans (ih _ _ (drainOne_eq m deadline report c unread now).2.1)
    · exact hone

theorem leadsTo_expire (m : Monitor) (deadline : Instant) (report : DrainReport) (now : Instant) :
    m.LeadsTo (m.expire deadline report now) :=
  (leadsTo_halt m m.phase).trans (leadsTo_flush deadline now _ report _ rfl)

theorem leadsTo_drainRound (m : Monitor) (deadline : Instant) (report : DrainReport) (now : Instant) :
    m.LeadsTo (m.drainRound deadline report now).2 := by
  unfold drainRound
  split
  · exact leadsTo_halt m _
  · split
    · rename_i c unread hc
      exact leadsTo_drainOne deadline report hc now
    · split
      · exact leadsTo_expire m deadline report now
      · exact leadsTo_setAlarm m deadline

theorem leadsTo_rounds (now : Instant) (n : Nat) (m : Monitor) : m.LeadsTo (rounds now n m) := by
  induction n generalizing m with
  | zero => exact .refl m
  | succ n ih =>
    have continues (again : Bool) (m' : Monitor) (h : m.LeadsTo m') :
        m.LeadsTo (if again then rounds now n m' else m') := by
      cases again with
      | false => exact h
      | true => exact h.trans (ih m')
    unfold rounds
    split
    rename_i again m' h
    apply continues
    split at h
    · cases h
      exact leadsTo_goOn m now
    · rename_i wakeup _
      have hr := leadsTo_round m wakeup now
      rw [h] at hr
      exact hr
    · rename_i deadline report _
      have hr := leadsTo_drainRound m deadline report now
      rw [h] at hr
      exact hr
    · cases h
      exact .refl m

theorem leadsTo_turn (m : Monitor) (now : Instant) : m.LeadsTo (m.turn now) := leadsTo_rounds now _ m

theorem leadsTo_actors (done : Monitor → Bool) (limit now : Instant) (m : Monitor) :
    m.LeadsTo (actors.runUntil done limit now m).1 := by
  refine actors.runUntil_preserves (P := m.LeadsTo) done limit now ?_ ?_ m (.refl m)
  · intro t _ _ party m' h
    cases party with
    | reader => exact h.trans (leadsTo_turn m' t)
    | task number => exact h.trans (leadsTo_react m' t (.turn number))
  · intro agenda m' h
    exact h.trans (leadsTo_arrange m' _ _ _ agenda)

theorem leadsTo_runUntil (m : Monitor) (now limit : Instant) : m.LeadsTo (m.runUntil now limit) :=
  leadsTo_actors _ limit now m

theorem stop_eq (m : Monitor) (now : Instant) (loop : Nat) :
    (m.stop now loop).2 = actors.runUntil (fun m => !m.isRunning) (now.after m.drainTimeout) now m.requestStop := by
  unfold stop
  split
  rename_i u last heq
  rw [heq]
  split <;> rfl

theorem leadsTo_stop (m : Monitor) (now : Instant) (loop : Nat) : m.LeadsTo (m.stop now loop).2.1 := by
  rw [stop_eq]
  exact (leadsTo_arrange m m.phase true m.scheduleChanged (m.executor.agenda.wake .reader)).trans
    (leadsTo_actors (fun m => !m.isRunning) (now.after m.drainTimeout) now m.requestStop)

end Monitor

inductive Happening where
  | reloaded (diff : RegistryDiff)
  | dispatched (probe : ProbeLabel)
  | processed (c : Completion)
  | lost (probe : ProbeLabel)

def Monitor.happenings (m : Monitor) (now : Instant) : Monitor.Event → List Happening
  | .dispatch => (m.roster.dispatchDue now).1.map fun b => .dispatched (batchLabel b)
  | .complete => (m.executor.completions.take 1).map .processed
  | .reload targets pick =>
    match m.reload targets now pick with
    | .ok (.ok (diff, _)) => [.reloaded diff]
    | _ => []
  | .turn number => (m.executor.lostBy number now).map .lost
  | .halt _ => m.executor.live.map fun t => .lost t.label
  | .cancel | .arrange _ _ _ _ => []

/-- A monitor with its past, the latest first. -/
structure Chronicle where
  monitor : Monitor
  past : List Happening

namespace Chronicle

/-- The start of a monitor adds all its targets. -/
def ofStart (m : Monitor) : Chronicle := ⟨m, [.reloaded ⟨m.roster.registry.current.ids, [], []⟩]⟩

def react (k : Chronicle) (now : Instant) (e : Monitor.Event) : Chronicle :=
  ⟨k.monitor.react now e, (k.monitor.happenings now e).reverse ++ k.past⟩

def run (k : Chronicle) : Monitor.Course → Chronicle
  | [] => k
  | (now, e) :: es => run (k.react now e) es

theorem monitor_run (k : Chronicle) (es : Monitor.Course) : (k.run es).monitor = k.monitor.run es := by
  induction es generalizing k with
  | nil => rfl
  | cons e es ih => exact ih _

theorem run_eq_foldl (k : Chronicle) (es : Monitor.Course) : k.run es = es.foldl (fun k e => k.react e.1 e.2) k := by
  induction es generalizing k with
  | nil => rfl
  | cons e es ih => exact ih _

/-- A reload is accepted, refused or broken off. Only the first is told. -/
theorem react_reload (k : Chronicle) (now : Instant) (targets : List Target) (pick : TargetId → Nat) :
    (∃ diff m, k.monitor.reload targets now pick = .ok (.ok (diff, m)) ∧
      k.react now (.reload targets pick) = ⟨m, .reloaded diff :: k.past⟩) ∨
    (∃ error, k.monitor.reload targets now pick = .ok (.error error) ∧ k.react now (.reload targets pick) = k) ∨
    ∃ fault, k.monitor.reload targets now pick = .error fault ∧
      k.react now (.reload targets pick) = ⟨k.monitor.interruptReload targets now pick, k.past⟩ := by
  unfold react Monitor.react Monitor.happenings
  dsimp only
  cases k.monitor.reload targets now pick with
  | error fault => exact .inr (.inr ⟨fault, rfl, rfl⟩)
  | ok answer =>
    cases answer with
    | error error => exact .inr (.inl ⟨error, rfl, rfl⟩)
    | ok accepted => exact .inl ⟨accepted.1, accepted.2, rfl, rfl⟩

theorem run_preserves {P : Chronicle → Prop} (hstep : ∀ k now e, P k → P (k.react now e)) (es : Monitor.Course)
    (k : Chronicle) (h : P k) : P (k.run es) := by
  induction es generalizing k with
  | nil => exact h
  | cons e es ih => exact ih _ (hstep k e.1 e.2 h)

end Chronicle

end TargetHealth
