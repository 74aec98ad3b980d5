import TargetHealth.Proofs.Monitor.SingleFlight

namespace TargetHealth

namespace DrainReport

/-- The report of a drain that has read some completions and abandons a number of probes. -/
def ofDrained (inFlight : Nat) (drained : List Completion) (abandoned : Nat) : DrainReport where
  inFlight := inFlight
  cancelled := drained.countP (·.result.outcome = .cancelled)
  completed := drained.countP (·.result.outcome ≠ .cancelled)
  abandoned := abandoned

theorem count_ofDrained (inFlight : Nat) (drained : List Completion) (c : Completion) :
    (ofDrained inFlight drained 0).count c.result.outcome = ofDrained inFlight (drained ++ [c]) 0 := by
  by_cases hc : c.result.outcome = .cancelled <;> simp [count, ofDrained, List.countP_append, hc]

theorem cancelled_add_completed (inFlight : Nat) (drained : List Completion) (abandoned : Nat) :
    (ofDrained inFlight drained abandoned).cancelled + (ofDrained inFlight drained abandoned).completed =
      drained.length := by
  have h := List.length_eq_countP_add_countP (l := drained) (fun c => decide (c.result.outcome = .cancelled))
  simp only [decide_eq_true_eq] at h
  exact h.symm

end DrainReport

def MonitorPhase.drains : MonitorPhase → Bool
  | .draining _ _ | .stopped _ => true
  | .starting | .running _ | .failed _ => false

namespace Monitor

inductive DrainStep where
  /-- The loop looks whether a completion is there, and else at the clock. -/
  | round
  /-- The deadline comes up for the loop before it has read what was sent to it. -/
  | expire
  | turn (number : Nat)
  | arrange (agenda : Agenda Party)

def drainStep (m : Monitor) (now : Instant) : DrainStep → Monitor
  | .round =>
    match m.phase with
    | .draining deadline report => (m.drainRound deadline report now).2
    | _ => m
  | .expire =>
    match m.phase with
    | .draining deadline report =>
      if m.roster.scheduler.inFlightCount ≠ 0 ∧ deadline ≤ now then m.expire deadline report now else m
    | _ => m
  | .turn number => { m with executor := m.executor.stepNumber number now }
  | .arrange agenda => { m with executor := { m.executor with agenda := agenda } }

def readBy (m : Monitor) (now : Instant) (s : DrainStep) : List Completion :=
  match s with
  | .round | .expire =>
    m.executor.completions.take (m.executor.completions.length - (m.drainStep now s).executor.completions.length)
  | .turn _ | .arrange _ => []

end Monitor

/-- A monitor that drains, with the completions that it has read since it began to, the oldest first. -/
structure Drain where
  monitor : Monitor
  drained : List Completion

namespace Drain

def next (d : Drain) (now : Instant) (s : Monitor.DrainStep) : Drain :=
  ⟨d.monitor.drainStep now s, d.drained ++ d.monitor.readBy now s⟩

def run (d : Drain) (steps : List (Instant × Monitor.DrainStep)) : Drain := steps.foldl (fun d s => d.next s.1 s.2) d

def ofStop (m : Monitor) (now : Instant) : Drain := ⟨m.beginDrain now, []⟩

/-- Completions that were read and marks that are left make up the marks at the start, and the loop has counted the former.
It has marks left when it stops only if it was late. -/
structure Balanced (marks : Multiset ProbeLabel) (deadline : Instant) (late : Prop) (d : Drain) : Prop where
  matched : ∃ past, (⟨d.monitor, past⟩ : Chronicle).Matched
  balance : (d.drained.map Completion.label : Multiset ProbeLabel) +
    (d.monitor.roster.scheduler.inFlight.entries : Multiset ProbeLabel) = marks
  phase : d.monitor.phase = .draining deadline (.ofDrained marks.card d.drained 0) ∨
    (d.monitor.phase = .stopped (.ofDrained marks.card d.drained d.monitor.roster.scheduler.inFlightCount) ∧
      (d.monitor.roster.scheduler.inFlightCount ≠ 0 → late)) ∨
    ∃ fault, d.monitor.phase = .failed fault

variable {marks : Multiset ProbeLabel} {deadline now : Instant} {late late' : Prop} {d : Drain} {m : Monitor}
  {drained : List Completion}

theorem Balanced.mono (h : d.Balanced marks deadline late) (hlate : late → late') : d.Balanced marks deadline late' where
  matched := h.matched
  balance := h.balance
  phase := h.phase.imp_right (.imp_left (.imp_right fun hl hn => hlate (hl hn)))

theorem Balanced.matched_of_leadsTo (h : d.Balanced marks deadline late) (hl : d.monitor.LeadsTo m) :
    ∃ past, (⟨m, past⟩ : Chronicle).Matched :=
  Chronicle.Matched.leadsTo h.matched hl

theorem balanced_ofStop {k : Chronicle} (h : k.Matched) (now : Instant) :
    (ofStop k.monitor now).Balanced (k.monitor.roster.scheduler.inFlight.entries : Multiset ProbeLabel)
      (now.after k.monitor.drainTimeout) False where
  matched := ⟨k.past, h.aligned, h.numbered.of_tasks rfl rfl rfl, h.marks, h.balance, h.halted⟩
  balance := zero_add _
  phase := .inl rfl

/-- A completion that is read clears its mark and is counted, unless the loop meets a fault. -/
theorem Balanced.drainOne {c : Completion} {unread : List Completion}
    (h : (⟨m, drained⟩ : Drain).Balanced marks deadline late) (hc : m.executor.completions = c :: unread)
    (now : Instant) :
    (⟨m.drainOne deadline (.ofDrained marks.card drained 0) c unread now, drained ++ [c]⟩ : Drain).Balanced
      marks deadline late := by
  have hm := h.matched_of_leadsTo (Monitor.leadsTo_drainOne deadline (.ofDrained marks.card drained 0) hc now)
  obtain ⟨past, hpast⟩ := h.matched
  have hget : m.roster.scheduler.inFlight.get? c.result.targetId = some c.epoch :=
    hpast.get?_of_mem (c := c) (hc ▸ List.mem_cons_self)
  have herase := Table.entries_erase _ _ _ hpast.aligned.unique hget
  obtain ⟨hroster, -, hphase⟩ := m.drainOne_eq deadline (.ofDrained marks.card drained 0) c unread now
  refine ⟨hm, ?_, ?_⟩
  · have hb := h.balance
    dsimp only at hb ⊢
    rw [hroster, Roster.inFlight_complete hget, List.map_append, ← Multiset.coe_add, add_assoc,
      List.map_singleton, Multiset.coe_singleton, Multiset.singleton_add]
    rw [herase] at hb
    exact hb
  · rw [DrainReport.count_ofDrained] at hphase
    exact hphase.imp_right .inr

theorem Balanced.halt (h : (⟨m, drained⟩ : Drain).Balanced marks deadline late)
    (hlate : m.roster.scheduler.inFlightCount ≠ 0 → late') :
    (⟨m.halt (.stopped (.ofDrained marks.card drained m.roster.scheduler.inFlightCount)), drained⟩ : Drain).Balanced
      marks deadline late' where
  matched := h.matched_of_leadsTo (Monitor.leadsTo_halt m _)
  balance := h.balance
  phase := .inr (.inl ⟨rfl, hlate⟩)

theorem Balanced.of_tasks (h : (⟨m, drained⟩ : Drain).Balanced marks deadline late) (x : Executor)
    (hl : m.LeadsTo { m with executor := x }) :
    (⟨{ m with executor := x }, drained⟩ : Drain).Balanced marks deadline late where
  matched := h.matched_of_leadsTo hl
  balance := h.balance
  phase := h.phase

theorem Balanced.flush (unread : List Completion) (m : Monitor) (drained : List Completion)
    (h : (⟨m, drained⟩ : Drain).Balanced marks deadline late) (hc : m.executor.completions = unread) (hlate : late') :
    ∃ read, unread = read ++ (Monitor.flush deadline now unread (.ofDrained marks.card drained 0) m).executor.completions ∧
      (⟨Monitor.flush deadline now unread (.ofDrained marks.card drained 0) m, drained ++ read⟩ : Drain).Balanced
        marks deadline late' := by
  -- on what is left in the channel: with every completion that is read the report grows and a mark goes
  induction unread generalizing m drained with
  | nil =>
    refine ⟨[], hc.symm, ?_⟩
    rw [List.append_nil]
    exact h.halt fun _ => hlate
  | cons c unread ih =>
    have hone := h.drainOne hc now
    have hrest := (m.drainOne_eq deadline (.ofDrained marks.card drained 0) c unread now).2.1
    unfold Monitor.flush
    dsimp only
    split
    · obtain ⟨read, hread, hb⟩ := ih _ _ hone hrest
      rw [DrainReport.count_ofDrained]
      have happend : drained ++ [c] ++ read = drained ++ c :: read := (List.append_cons drained c read).symm
      exact ⟨c :: read, by rw [List.cons_append, ← hread], happend ▸ hb⟩
    · exact ⟨[c], by rw [hrest]; rfl, hone.mono fun _ => hlate⟩

theorem Balanced.expire (h : (⟨m, drained⟩ : Drain).Balanced marks deadline late) (hlate : late') (now : Instant) :
    ∃ read, m.executor.completions =
        read ++ (m.expire deadline (.ofDrained marks.card drained 0) now).executor.completions ∧
      (⟨m.expire deadline (.ofDrained marks.card drained 0) now, drained ++ read⟩ : Drain).Balanced
        marks deadline late' :=
  (h.of_tasks m.executor.abortAll (Monitor.leadsTo_halt m m.phase)).flush _ _ _ rfl hlate

theorem Balanced.drainRound (h : (⟨m, drained⟩ : Drain).Balanced marks deadline late) (now : Instant) :
    ∃ read, m.executor.completions =
        read ++ (m.drainRound deadline (.ofDrained marks.card drained 0) now).2.executor.completions ∧
      (⟨(m.drainRound deadline (.ofDrained marks.card drained 0) now).2, drained ++ read⟩ : Drain).Balanced
        marks deadline (late ∨ deadline ≤ now) := by
  unfold Monitor.drainRound
  split
  · rename_i hnone
    refine ⟨[], rfl, ?_⟩
    rw [List.append_nil, ← hnone]
    exact h.halt fun hsome => absurd hnone hsome
  · split
    · rename_i c unread hc
      refine ⟨[c], ?_, ?_⟩
      · rw [hc]
        exact congrArg (List.cons c) (m.drainOne_eq _ _ c unread now).2.1.symm
      · exact (h.drainOne hc now).mono .inl
    · rename_i hc
      split
      · rename_i hle
        exact h.expire (.inr hle) now
      · refine ⟨[], rfl, ?_⟩
        rw [List.append_nil]
        exact (h.of_tasks _ (Monitor.leadsTo_setAlarm m deadline)).mono .inl

theorem next_eq {m m' : Monitor} {s : Monitor.DrainStep} {read : List Completion} (hs : s = .round ∨ s = .expire)
    (hstep : m.drainStep now s = m') (hread : m.executor.completions = read ++ m'.executor.completions) :
    (⟨m, drained⟩ : Drain).next now s = ⟨m', drained ++ read⟩ := by
  have htake : m.executor.completions.take (m.executor.completions.length - m'.executor.completions.length) = read := by
    rw [hread, List.length_append, Nat.add_sub_cancel, List.take_left]
  rcases hs with rfl | rfl
  · rw [next, Monitor.readBy, hstep, htake]
  · rw [next, Monitor.readBy, hstep, htake]

theorem Balanced.next (h : d.Balanced marks deadline late) (now : Instant) (s : Monitor.DrainStep) :
    (d.next now s).Balanced marks deadline (late ∨ deadline ≤ now) := by
  obtain ⟨m, drained⟩ := d
  have hidle (hs : s = .round ∨ s = .expire) (hstep : m.drainStep now s = m) :
      ((⟨m, drained⟩ : Drain).next now s).Balanced marks deadline (late ∨ deadline ≤ now) := by
    have hread : m.executor.completions = [] ++ m.executor.completions := rfl
    rw [next_eq hs hstep hread, List.append_nil]
    exact h.mono .inl
  have hphase := h.phase
  dsimp only at hphase
  cases s with
  | turn number =>
    rw [Drain.next, Monitor.readBy, List.append_nil]
    exact (h.of_tasks _ (Monitor.leadsTo_react m now (.turn number))).mono .inl
  | arrange agenda =>
    rw [Drain.next, Monitor.readBy, List.append_nil]
    exact (h.of_tasks _ (Monitor.leadsTo_arrange m _ _ _ agenda)).mono .inl
  | round =>
    rcases hphase with hp | ⟨hp, -⟩ | ⟨fault, hp⟩
    · obtain ⟨read, hread, hb⟩ := h.drainRound now
      rwa [next_eq (.inl rfl) (by simp only [Monitor.drainStep, hp]) hread]
    · exact hidle (.inl rfl) (by simp only [Monitor.drainStep, hp])
    · exact hidle (.inl rfl) (by simp only [Monitor.drainStep, hp])
  | expire =>
    rcases hphase with hp | ⟨hp, -⟩ | ⟨fault, hp⟩
    · by_cases hdue : m.roster.scheduler.inFlightCount ≠ 0 ∧ deadline ≤ now
      · have hlate : late ∨ deadline ≤ now := .inr hdue.2
        obtain ⟨read, hread, hb⟩ := h.expire hlate now
        rwa [next_eq (.inr rfl) (by simp only [Monitor.drainStep, hp, if_pos hdue]) hread]
      · exact hidle (.inr rfl) (by simp only [Monitor.drainStep, hp, if_neg hdue])
    · exact hidle (.inr rfl) (by simp only [Monitor.drainStep, hp])
    · exact hidle (.inr rfl) (by simp only [Monitor.drainStep, hp])

theorem Balanced.run (h : d.Balanced marks deadline False) (steps : List (Instant × Monitor.DrainStep)) :
    (d.run steps).Balanced marks deadline (∃ s ∈ steps, deadline ≤ s.1) := by
  -- from the last step back, for lateness is about all steps so far
  induction steps using List.reverseRecOn with
  | nil => exact h.mono False.elim
  | append_singleton steps s ih =>
    rw [Drain.run, List.foldl_concat]
    refine (ih.next s.1 s.2).mono ?_
    rintro (⟨s', hs', hle⟩ | hle)
    · exact ⟨s', List.mem_append_left _ hs', hle⟩
    · exact ⟨s, List.mem_append_right _ (List.mem_singleton_self s), hle⟩

variable {prober : Prober} {settings : Settings} {targets : List Target} {pick : TargetId → Nat}

theorem balanced_run (hm : Monitor.start (some now) prober settings targets pick = .ok (.ok m)) (es : Monitor.Course)
    (stop : Instant) (steps : List (Instant × Monitor.DrainStep)) :
    ((ofStop (m.run es) stop).run steps).Balanced ((m.run es).roster.scheduler.inFlight.entries : Multiset ProbeLabel)
      (stop.after (m.run es).drainTimeout) (∃ s ∈ steps, stop.after (m.run es).drainTimeout ≤ s.1) := by
  have hstart := balanced_ofStop (Chronicle.matched_run hm es) stop
  rw [Chronicle.monitor_run] at hstart
  exact hstart.run steps

/-- What the loop makes of a monitor: it goes on, or it drains. -/
def Reaches (m m' : Monitor) : Prop :=
  m.LeadsTo m' ∧ m'.phase.drains = false ∨ ∃ es stop steps, m' = ((ofStop (m.run es) stop).run steps).monitor

variable {m' : Monitor}

theorem reaches_drainStep (es : Monitor.Course) (stop : Instant) (steps : List (Instant × Monitor.DrainStep))
    (now : Instant) (s : Monitor.DrainStep) :
    Reaches m (((ofStop (m.run es) stop).run steps).monitor.drainStep now s) := by
  refine .inr ⟨es, stop, steps ++ [(now, s)], ?_⟩
  rw [run, run, List.foldl_concat]
  rfl

theorem reaches_round {wakeup : Instant} (hl : m.LeadsTo m') (hp : m'.phase = .running wakeup) (now : Instant) :
    Reaches m (m'.round wakeup now).2 := by
  by_cases hstop : m'.stopRequested = true
  · obtain ⟨es, rfl⟩ := hl
    refine .inr ⟨es, now, [], ?_⟩
    rw [Monitor.round, if_pos hstop]
    rfl
  · refine .inl ⟨hl.trans (Monitor.leadsTo_round m' wakeup now), ?_⟩
    have hwaits : m'.phase.drains = false := by rw [hp]; rfl
    unfold Monitor.round
    rw [if_neg hstop]
    split
    · rename_i c unread hc
      dsimp only
      split
      · rfl
      · rcases (Monitor.complete_eq m' c unread now).2.2 with hphase | ⟨fault, hphase⟩
        · rw [hphase, hwaits]
        · rw [hphase]
          rfl
    · split
      · rfl
      · split
        · rfl
        · exact hwaits

theorem Reaches.rounds (h : Reaches m m') (hm : Monitor.start (some now) prober settings targets pick = .ok (.ok m))
    (now' : Instant) (n : Nat) : Reaches m (Monitor.rounds now' n m') := by
  induction n generalizing m' with
  | zero => exact h
  | succ n ih =>
    have continues (again : Bool) (u : Monitor) (hu : Reaches m u) :
        Reaches m (if again then Monitor.rounds now' n u else u) := by
      cases again with
      | false => exact hu
      | true => exact ih hu
    unfold Monitor.rounds
    rcases h with ⟨hl, hd⟩ | ⟨es, stop, steps, rfl⟩
    · cases hp : m'.phase with
      | starting => exact continues _ _ (.inl ⟨hl.trans (Monitor.leadsTo_goOn m' now'), rfl⟩)
      | running wakeup => exact continues _ _ (reaches_round hl hp now')
      | failed fault => exact continues _ _ (.inl ⟨hl, hd⟩)
      | draining deadline report | stopped report =>
        rw [hp] at hd
        cases hd
    · -- a drain does not go back to work
      rcases (balanced_run hm es stop steps).phase with hp | ⟨hp, -⟩ | ⟨fault, hp⟩
      · have hround := reaches_drainStep (m := m) es stop steps now' .round
        simp only [Monitor.drainStep, hp] at hround ⊢
        exact continues _ _ hround
      · simp only [hp]
        exact continues _ _ (.inr ⟨es, stop, steps, rfl⟩)
      · simp only [hp]
        exact continues _ _ (.inr ⟨es, stop, steps, rfl⟩)

theorem Reaches.arrange (h : Reaches m m') (agenda : Agenda Party) :
    Reaches m { m' with executor := { m'.executor with agenda := agenda } } := by
  rcases h with ⟨hl, hd⟩ | ⟨es, stop, steps, rfl⟩
  · exact .inl ⟨hl.trans (Monitor.leadsTo_arrange m' _ _ _ agenda), hd⟩
  · exact reaches_drainStep es stop steps ⟨0⟩ (.arrange agenda)

theorem Reaches.act (h : Reaches m m') (hm : Monitor.start (some now) prober settings targets pick = .ok (.ok m))
    (now' : Instant) (party : Party) : Reaches m (m'.act now' party) := by
  cases party with
  | reader => exact h.rounds hm now' _
  | task number =>
    rcases h with ⟨hl, hd⟩ | ⟨es, stop, steps, rfl⟩
    · exact .inl ⟨hl.trans (Monitor.leadsTo_react m' now' (.turn number)), hd⟩
    · exact reaches_drainStep es stop steps now' (.turn number)

/-- A monitor that stops because it was asked to has gone through a drain. -/
theorem exists_drain_of_stop (hm : Monitor.start (some now) prober settings targets pick = .ok (.ok m))
    (hl : m.LeadsTo m') (hd : m'.phase.drains = false) (stop : Instant) (loop : Nat) {report : DrainReport}
    (hr : (m'.stop stop loop).2.1.phase = .stopped report) :
    ∃ es begun steps, (m'.stop stop loop).2.1 = ((ofStop (m.run es) begun).run steps).monitor := by
  have hrequest : Reaches m m'.requestStop := .inl ⟨hl.trans (Monitor.leadsTo_arrange m' _ true _ _), hd⟩
  have hreached := Monitor.actors.runUntil_preserves (P := Reaches m) (fun m => !m.isRunning) (stop.after m'.drainTimeout)
    stop (fun t _ _ party _ hu => hu.act hm t party) (fun agenda _ hu => hu.arrange agenda) _ hrequest
  rw [← Monitor.stop_eq m' stop loop] at hreached
  rcases hreached with ⟨-, hworks⟩ | hdrained
  · rw [hr] at hworks
    cases hworks
  · exact hdrained

/-- The report of a drain, whatever was in flight when it began, and however the loop and the tasks take their turns. The
probes that were in flight have been drained or abandoned, the drained ones are counted each once by whether they were
cancelled, cancelled ones leave the health of all targets as it is, and none is abandoned before the deadline. -/
theorem report_adds_up (now : Instant) (prober : Prober) (settings : Settings) (targets : List Target)
    (pick : TargetId → Nat) (m : Monitor) (hm : Monitor.start (some now) prober settings targets pick = .ok (.ok m))
    (es : Monitor.Course) (stop : Instant) (steps : List (Instant × Monitor.DrainStep)) (report : DrainReport)
    (hreport : ((ofStop (m.run es) stop).run steps).monitor.phase = .stopped report) :
    let marks := (m.run es).roster.scheduler.inFlight
    let d := (ofStop (m.run es) stop).run steps
    report.inFlight = marks.size ∧
    report.inFlight = report.cancelled + report.completed + report.abandoned ∧
    (d.drained.map Completion.label : Multiset ProbeLabel) +
      (d.monitor.roster.scheduler.inFlight.entries : Multiset ProbeLabel) = (marks.entries : Multiset ProbeLabel) ∧
    report.cancelled = d.drained.countP (·.result.outcome = .cancelled) ∧
    report.completed = d.drained.countP (·.result.outcome ≠ .cancelled) ∧
    (∀ c ∈ d.drained, c.result.outcome = .cancelled → ∀ (r : Roster) t, (r.complete c t).2.store = r.store) ∧
    (report.abandoned ≠ 0 → ∃ s ∈ steps, stop.after (m.run es).drainTimeout ≤ s.1) := by
  intro marks d
  have h := balanced_run hm es stop steps
  obtain ⟨hstopped, hlate⟩ : report = .ofDrained marks.size d.drained d.monitor.roster.scheduler.inFlightCount ∧
      (d.monitor.roster.scheduler.inFlightCount ≠ 0 → ∃ s ∈ steps, stop.after (m.run es).drainTimeout ≤ s.1) := by
    rcases h.phase with hp | ⟨hp, hlate⟩ | ⟨fault, hp⟩
    · cases hreport.symm.trans hp
    · cases hreport.symm.trans hp
      exact ⟨rfl, hlate⟩
    · cases hreport.symm.trans hp
  have hcount : d.drained.length + d.monitor.roster.scheduler.inFlightCount = marks.size := by
    have hcard := congrArg Multiset.card h.balance
    rw [Multiset.card_add, Multiset.coe_card, Multiset.coe_card, Multiset.coe_card, List.length_map] at hcard
    exact hcard
  subst hstopped
  refine ⟨rfl, ?_, h.balance, rfl, rfl, ?_, hlate⟩
  · rw [DrainReport.cancelled_add_completed]
    exact hcount.symm
  · exact fun c _ hc r t => Roster.store_complete_of_cancelled hc r t

/-- One probe has reported when the stop request comes, one hangs, and one waits. -/
theorem report_adds_up_three_endings :
    let prober : Prober := fun t _ start _ =>
      if t.id = "a" then some (start, .reported (.failure "a" .timeout "connect" ⟨0, 0⟩)) else none
    let target (id : TargetId) : Target := ⟨id, ⟨"localhost", 1⟩, .tcp, .ofSeconds 60, .ofSeconds 60⟩
    let settings : Settings := { jitterMs := 0, maxConcurrency := 1 }
    let es : Monitor.Course := [(⟨0⟩, .dispatch), (⟨0⟩, .turn 0), (⟨0⟩, .turn 1)]
    let deadline : Instant := .after ⟨1⟩ settings.drainTimeout
    let steps : List (Instant × Monitor.DrainStep) := [(⟨1⟩, .round), (⟨2⟩, .turn 2), (⟨2⟩, .round), (deadline, .expire)]
    ∃ m report, Monitor.start (some ⟨0⟩) prober settings [target "a", target "b", target "c"] (fun _ => 0) =
        .ok (.ok m) ∧
      ((ofStop (m.run es) ⟨1⟩).run steps).monitor.phase = .stopped report ∧ report.inFlight = 3 ∧
      report.cancelled + report.completed + report.abandoned = 3 ∧ report.abandoned = 1 := by
  intro prober target settings es deadline steps
  have hex : ∃ m, Monitor.start (some ⟨0⟩) prober settings [target "a", target "b", target "c"] (fun _ => 0) =
        .ok (.ok m) ∧
      ((ofStop (m.run es) ⟨1⟩).run steps).monitor.phase = .stopped ⟨3, 1, 1, 1⟩ := by decide +kernel
  obtain ⟨m, hm, hreport⟩ := hex
  obtain ⟨-, hsum, -⟩ := report_adds_up ⟨0⟩ prober settings [target "a", target "b", target "c"] (fun _ => 0) m hm es ⟨1⟩
    steps _ hreport
  exact ⟨m, _, hm, hreport, rfl, hsum.symm, rfl⟩

end Drain

end TargetHealth
