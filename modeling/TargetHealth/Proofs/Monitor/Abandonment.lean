import TargetHealth.Proofs.Monitor.Drain
import TargetHealth.Proofs.Monitor.Rounds
import TargetHealth.Proofs.Time.Pace

namespace TargetHealth

/-- A step of a drain that begins no probe when the clock has no room for its deadline. -/
def Monitor.DrainStep.Spares (m : Monitor) (now : Instant) : Monitor.DrainStep → Prop
  | .turn number => m.executor.FitsTurn number now
  | .round | .expire | .arrange _ => True

instance (m : Monitor) (now : Instant) : (s : Monitor.DrainStep) → Decidable (s.Spares m now)
  | .turn number => inferInstanceAs (Decidable (m.executor.FitsTurn number now))
  | .round | .expire | .arrange _ => .isTrue trivial

namespace Drain

def Spares (d : Drain) : List (Instant × Monitor.DrainStep) → Prop
  | [] => True
  | (now, s) :: steps => s.Spares d.monitor now ∧ Spares (d.next now s) steps

instance decidableSpares (d : Drain) : (steps : List (Instant × Monitor.DrainStep)) → Decidable (d.Spares steps)
  | [] => .isTrue trivial
  | (now, s) :: steps =>
    have := decidableSpares (d.next now s) steps
    inferInstanceAs (Decidable (s.Spares d.monitor now ∧ (d.next now s).Spares steps))

theorem spares_append (d : Drain) (steps more : List (Instant × Monitor.DrainStep)) :
    d.Spares (steps ++ more) ↔ d.Spares steps ∧ (d.run steps).Spares more := by
  induction steps generalizing d with
  | nil => exact (true_and _).to_iff.symm
  | cons s steps ih => exact (and_congr_right' (ih _)).trans and_assoc.symm

/-- The clock moves on only while no task can act and the loop has nothing to do. -/
def LetsClock (d : Drain) (now later : Instant) : Prop :=
  now ≤ later ∧ (now < later → d.monitor.Idles later) ∧ ∀ u, now ≤ u → u < later → d.monitor.executor.Quiescent u

theorem letsClock_self (d : Drain) (now : Instant) : d.LetsClock now now :=
  ⟨Nat.le_refl _, fun hlt => absurd hlt (Nat.lt_irrefl _), fun _ hle hlt => absurd hlt (Nat.not_lt.mpr hle)⟩

theorem letsClock_of_lastsUntil {d : Drain} {now later : Instant} (hle : now ≤ later) (hidles : d.monitor.Idles later)
    (hq : d.monitor.executor.Quiescent now) (hlasts : d.monitor.executor.LastsUntil later) : d.LetsClock now later :=
  ⟨hle, fun _ => hidles, fun _ _ hlt => hq.until hlasts hlt⟩

/-- The drain of a monitor that was asked to stop. Whatever has been sent since was sent during the grace, and the targets whose
probe waited then have had no probe since. -/
structure Punctual (m : Monitor) (stop : Instant) (spared : Prop) (d : Drain) (now : Instant) : Prop where
  balanced : d.Balanced (m.roster.scheduler.inFlight.entries : Multiset ProbeLabel) (stop.after m.drainTimeout) True
  winds : d.monitor.executor.WindsDown stop now
  config_eq : d.monitor.executor.config = m.executor.config
  fares : d.monitor.Fares spared now
  late : stop.after m.executor.config.grace < now → spared → ∀ deadline report,
    d.monitor.phase ≠ .draining deadline report
  sent : ∀ c ∈ d.drained ++ d.monitor.executor.completions,
    c ∈ m.executor.completions ∨ stop ≤ c.sentAt ∧ c.sentAt ≤ stop.after m.executor.config.grace
  unbegun : ∀ t ∈ m.executor.tasks, t.state.waits = true →
    d.monitor.executor.Unbegun t.target.id (m.executor.calls.get? t.target.id) ∧
      ∀ c ∈ d.drained ++ d.monitor.executor.completions, c.result.targetId = t.target.id →
        c.result = .cancelled t.target.id c.sentAt.wallClock

variable {m m' : Monitor} {stop now later : Instant} {spared : Prop} {d : Drain}

theorem punctual_ofStop {k : Chronicle} (h : k.Matched) (hx : k.monitor.executor.Uncancelled)
    (hspared : k.monitor.Accounts ↔ spared) (stop : Instant) :
    (ofStop k.monitor stop).Punctual k.monitor stop spared stop where
  balanced := (balanced_ofStop h stop).mono False.elim
  winds := hx.windsDown h.numbered stop
  config_eq := rfl
  fares := hspared
  late hlate := absurd hlate (Nat.not_lt.mpr (Nat.le_add_right _ _))
  sent _ hc := .inl hc
  unbegun t ht hw := by
    refine ⟨⟨fun u hu hid => ?_, rfl⟩, fun c hc hid => ?_⟩
    · exact h.eq_of_tasks ht hu hid ▸ hw
    · exact absurd hid (h.ne_of_task_of_completion ht hc)

theorem Punctual.clock (h : d.Punctual m stop spared now) (hlets : d.LetsClock now later) :
    d.Punctual m stop spared later := by
  obtain ⟨hle, hidles, hrest⟩ := hlets
  have hwinds := h.winds.clock hle hrest
  refine { h with winds := hwinds, fares := ?_, late := ?_ }
  · have hfares := h.fares
    unfold Monitor.Fares at hfares ⊢
    split at hfares
    · exact hfares
    · exact hfares
    · obtain ⟨id, e, he, hlimit⟩ := hfares
      exact ⟨id, e, he, hlimit.trans (Nat.add_le_add_right hle _)⟩
    · exact hfares
    · exact hfares
  · intro hlate hspared deadline report hp
    have hnow : now ≤ stop.after m.executor.config.grace := Nat.not_lt.mp fun hlt => h.late hlt hspared deadline report hp
    have hfares := h.fares
    unfold Monitor.Fares at hfares
    rw [hp] at hfares
    obtain ⟨hsome, hempty, -⟩ := hidles (Nat.lt_of_le_of_lt hnow hlate) deadline (by rw [hp]; rfl)
    have htasks : d.monitor.executor.tasks = [] := by
      by_contra hne
      exact absurd hlate (Nat.not_lt.mpr (h.config_eq ▸ hwinds.inTime hne))
    have haccounts := hfares.mpr hspared
    rw [Monitor.Accounts, Executor.accounted, Executor.pending, Executor.unread, Executor.live, htasks, hempty] at haccounts
    exact hsome (List.length_eq_zero_iff.mpr ((Multiset.coe_eq_zero _).mp haccounts))

theorem Punctual.of_read (h : d.Punctual m stop spared now) {read : List Completion}
    (hread : d.monitor.executor.completions = read ++ m'.executor.completions)
    (hb : (⟨m', d.drained ++ read⟩ : Drain).Balanced (m.roster.scheduler.inFlight.entries : Multiset ProbeLabel)
      (stop.after m.drainTimeout) True)
    (hx : d.monitor.executor.Subsides m'.executor) (hfares : m'.Fares spared now)
    (hover : stop.after m.executor.config.grace < now → spared → ∀ deadline report, m'.phase ≠ .draining deadline report) :
    (⟨m', d.drained ++ read⟩ : Drain).Punctual m stop spared now := by
  have hnumbered : m'.executor.Numbered := hb.matched.elim fun _ hm => hm.numbered
  have hkept : d.drained ++ read ++ m'.executor.completions = d.drained ++ d.monitor.executor.completions := by
    rw [hread, List.append_assoc]
  refine ⟨hb, h.winds.subside hx hnumbered, hx.config.trans h.config_eq, hfares, hover, ?_, ?_⟩
  · rw [hkept]
    exact h.sent
  · intro t ht hw
    obtain ⟨hunbegun, hresults⟩ := h.unbegun t ht hw
    rw [hkept]
    exact ⟨hunbegun.subside hx, hresults⟩

theorem Punctual.turn (h : d.Punctual m stop spared now) (number : Nat) :
    (d.next now (.turn number)).Punctual m stop (spared ∧ d.monitor.executor.FitsTurn number now) now := by
  obtain ⟨past, hpast⟩ := h.balanced.matched
  have hnext : d.next now (.turn number) =
      ⟨{ d.monitor with executor := d.monitor.executor.stepNumber number now }, d.drained⟩ :=
    congrArg (Drain.mk _) (List.append_nil _)
  have hb := h.balanced.next now (.turn number)
  rw [hnext] at hb ⊢
  replace hb := hb.mono fun _ => trivial
  refine ⟨hb, h.winds.stepNumber number, (Executor.keeps_stepNumber _ number now).config.trans h.config_eq, ?_,
    fun hlate hspared => h.late hlate hspared.1, ?_, ?_⟩
  · have hturn := Monitor.accounts_react hpast now (.turn number)
    have hfares := h.fares
    unfold Monitor.Fares at hfares ⊢
    dsimp only
    split at hfares
    · exact hturn.trans (and_congr_left' hfares)
    · obtain ⟨hlive, hnone⟩ := hfares
      have hfits : d.monitor.executor.FitsTurn number now := fun t ht ha => by
        rw [Executor.live_eq_nil_iff.mp hlive t (Executor.task?_some ht).1] at ha
        cases ha
      exact ⟨(Executor.keeps_stepNumber _ number now).live_eq_nil hlive, hnone.trans (and_iff_left hfits).symm⟩
    · exact hfares
    · exact hfares
    · exact hfares
  · intro c hc
    rcases List.mem_append.mp hc with hread | hnew
    · exact h.sent c (List.mem_append_left _ hread)
    · rcases h.winds.sentAt_of_mem hnew with hold | hintime
      · exact h.sent c (List.mem_append_right _ hold)
      · exact .inr (h.config_eq ▸ hintime)
  · intro t ht hw
    obtain ⟨hunbegun, hresults⟩ := h.unbegun t ht hw
    obtain ⟨hunbegun', hnew⟩ := hunbegun.stepNumber h.winds.numbered h.winds.cancelled number now
    refine ⟨hunbegun', fun c hc hid => ?_⟩
    rcases List.mem_append.mp hc with hread | hc
    · exact hresults c (List.mem_append_left _ hread) hid
    · exact (hnew c hc).elim (fun hold => hresults c (List.mem_append_right _ hold) hid) fun himp => himp hid

theorem Punctual.congr {spared' : Prop} (h : d.Punctual m stop spared now) (hiff : spared ↔ spared') :
    d.Punctual m stop spared' now := propext hiff ▸ h

theorem Punctual.next (h : d.Punctual m stop spared now) (hgrace : m.executor.config.grace < m.drainTimeout)
    (s : Monitor.DrainStep) : (d.next now s).Punctual m stop (spared ∧ s.Spares d.monitor now) now := by
  obtain ⟨u, drained⟩ := d
  have hcalm {deadline : Instant} {report : DrainReport} (hp : u.phase = .draining deadline report) :
      u.Accounts ↔ spared := by
    have hfares := h.fares
    unfold Monitor.Fares at hfares
    rw [hp] at hfares
    exact hfares
  have hdue (hlate : stop.after m.drainTimeout ≤ now) : u.executor.tasks = [] := by
    by_contra hne
    have hintime : now.nanos ≤ stop.nanos + u.executor.config.grace.nanos := h.winds.inTime hne
    have hconfig : u.executor.config = m.executor.config := h.config_eq
    have hshort : m.executor.config.grace.nanos < m.drainTimeout.nanos := hgrace
    have hlate : stop.nanos + m.drainTimeout.nanos ≤ now.nanos := hlate
    rw [hconfig] at hintime
    omega
  have hidle (hs : s = .round ∨ s = .expire) (hstep : u.drainStep now s = u) :
      (⟨u, drained⟩ : Drain).next now s = ⟨u, drained⟩ := by
    have hread : u.executor.completions = [] ++ u.executor.completions := rfl
    rw [next_eq hs hstep hread, List.append_nil]
  have hphase := h.balanced.phase
  dsimp only at hphase
  cases s with
  | turn number => exact h.turn number
  | arrange agenda =>
    refine .congr ?_ (and_true spared).symm.to_iff
    have hread : u.executor.completions = [] ++ u.executor.completions := rfl
    exact h.of_read hread ((h.balanced.next now (.arrange agenda)).mono fun _ => trivial)
      ⟨rfl, rfl, rfl, rfl⟩ h.fares h.late
  | round =>
    refine .congr ?_ (and_true spared).symm.to_iff
    rcases hphase with hp | ⟨hp, -⟩ | ⟨fault, hp⟩
    · obtain ⟨read, hread, hb⟩ := h.balanced.drainRound now
      rw [next_eq (.inl rfl) (by simp only [Monitor.drainStep, hp]) hread]
      exact h.of_read hread (hb.mono fun _ => trivial) (u.subsides_drainRound _ _ now)
        (Monitor.fares_drainRound h.balanced.matched (hcalm hp) hp hdue)
        fun hlate hspared => absurd hp (h.late hlate hspared _ _)
    · rwa [hidle (.inl rfl) (by simp only [Monitor.drainStep, hp])]
    · rwa [hidle (.inl rfl) (by simp only [Monitor.drainStep, hp])]
  | expire =>
    refine .congr ?_ (and_true spared).symm.to_iff
    rcases hphase with hp | ⟨hp, -⟩ | ⟨fault, hp⟩
    · by_cases hcond : u.roster.scheduler.inFlightCount ≠ 0 ∧ stop.after m.drainTimeout ≤ now
      · obtain ⟨read, hread, hb⟩ := h.balanced.expire trivial now
        rw [next_eq (.inr rfl) (by simp only [Monitor.drainStep, hp, if_pos hcond]) hread]
        exact h.of_read hread hb (u.subsides_expire _ _ now)
          (Monitor.fares_expire h.balanced.matched (hcalm hp) (hdue hcond.2) _ now)
          fun hlate hspared => absurd hp (h.late hlate hspared _ _)
      · rwa [hidle (.inr rfl) (by simp only [Monitor.drainStep, hp, if_neg hcond])]
    · rwa [hidle (.inr rfl) (by simp only [Monitor.drainStep, hp])]
    · rwa [hidle (.inr rfl) (by simp only [Monitor.drainStep, hp])]

theorem Punctual.run (h : d.Punctual m stop spared now) (hgrace : m.executor.config.grace < m.drainTimeout)
    (steps : List (Instant × Monitor.DrainStep)) (hpaced : Paced Drain.next LetsClock d now steps later) :
    (d.run steps).Punctual m stop (spared ∧ d.Spares steps) later := by
  induction steps generalizing d now spared with
  | nil => exact (h.clock hpaced).congr (and_true spared).symm.to_iff
  | cons s steps ih =>
    obtain ⟨hlets, hpaced⟩ := hpaced
    exact (ih ((h.clock hlets).next hgrace s.2) hpaced).congr and_assoc

/-- A drain that has stopped abandons nobody exactly if the run has spared all probes. -/
theorem Punctual.abandoned_iff (h : d.Punctual m stop spared now) {report : DrainReport}
    (hp : d.monitor.phase = .stopped report) : report.abandoned = 0 ↔ spared := by
  have hfares := h.fares
  unfold Monitor.Fares at hfares
  rcases h.balanced.phase with hp' | ⟨hp', -⟩ | ⟨fault, hp'⟩
  · cases hp.symm.trans hp'
  · cases hp.symm.trans hp'
    rw [hp] at hfares
    exact hfares.2
  · cases hp.symm.trans hp'

theorem Punctual.overflow (h : d.Punctual m stop spared now) {fault : Fault} (hp : d.monitor.phase = .failed fault) :
    ∃ id e, d.monitor.roster.scheduler.entry? id = some e ∧ Instant.limit ≤ now.nanos + e.currentInterval.nanos := by
  have hfares := h.fares
  unfold Monitor.Fares at hfares
  rw [hp] at hfares
  exact hfares

variable {prober : Prober} {settings : Settings} {targets : List Target} {pick : TargetId → Nat}

theorem uncancelled_run (hm : Monitor.start (some now) prober settings targets pick = .ok (.ok m)) (es : Monitor.Course)
    (hes : ∀ e ∈ es, e.2 ≠ .cancel) : (m.run es).executor.Uncancelled := by
  obtain ⟨⟨agenda, hx⟩, -⟩ := Monitor.start_eq_ok hm
  have hstart : m.executor.Uncancelled := hx ▸ ⟨rfl, fun _ ht => nomatch ht⟩
  have hrun := List.foldlRecOn (motive := fun k : Chronicle => k.Matched ∧ k.monitor.executor.Uncancelled) es
    (fun k e => k.react e.1 e.2) ⟨Chronicle.matched_ofStart hm, hstart⟩ fun k h e he =>
      ⟨h.1.react e.1 e.2, Monitor.uncancelled_react h.2 h.1.numbered e.1 (hes e he)⟩
  rw [← Chronicle.run_eq_foldl, Chronicle.monitor_run] at hrun
  exact hrun.2

theorem punctual_run (hm : Monitor.start (some now) prober settings targets pick = .ok (.ok m))
    (hgrace : settings.graceMs < settings.drainTimeoutMs) (es : Monitor.Course) (hes : ∀ e ∈ es, e.2 ≠ .cancel)
    (stop : Instant) (steps : List (Instant × Monitor.DrainStep))
    (hpaced : Paced Drain.next LetsClock (ofStop (m.run es) stop) stop steps later) :
    (m.run es).executor.config.grace = settings.grace ∧
      ((ofStop (m.run es) stop).run steps).Punctual (m.run es) stop (m.Spares es ∧ (ofStop (m.run es) stop).Spares steps)
        later := by
  obtain ⟨registry, roster, -, -, heq⟩ := Monitor.eq_of_start hm
  obtain ⟨htimeout, hconfig⟩ := m.frame_run es
  have hgraceEq : (m.run es).executor.config.grace = settings.grace := by rw [hconfig, heq]; rfl
  have htimeoutEq : (m.run es).drainTimeout = settings.drainTimeout := by rw [htimeout, heq]
  have hshort : (m.run es).executor.config.grace < (m.run es).drainTimeout := by
    rw [hgraceEq, htimeoutEq]
    exact Nat.mul_lt_mul_of_pos_right hgrace (by decide)
  have hmatched := Chronicle.matched_run hm es
  have hspared : (Chronicle.run (.ofStart m) es).monitor.Accounts ↔ m.Spares es := by
    refine (Monitor.accounts_iff hmatched).trans ((Chronicle.lostIn_run_eq_nil_iff _ es).trans ?_)
    exact ⟨And.right, fun h => ⟨rfl, h⟩⟩
  have hmonitor : (Chronicle.run (.ofStart m) es).monitor = m.run es := Chronicle.monitor_run _ es
  have hstart := punctual_ofStop hmatched (hmonitor ▸ uncancelled_run hm es hes) hspared stop
  rw [hmonitor] at hstart
  exact ⟨hgraceEq, hstart.run hshort steps hpaced⟩

/-- A drain that outlasts the grace, whatever was in flight when it began. No probe is abandoned at its end exactly if none
began, before or since, when the clock had no room for its deadline, and none was stopped before. Then the drain is over when
the grace is, unless the next due time of a target lies past the end of the clock, and every probe in flight has reported.
Whoever reports does so during the grace, and probes that waited do so without a call of the prober. -/
theorem abandoned_eq_zero_iff (now : Instant) (prober : Prober) (settings : Settings) (targets : List Target)
    (pick : TargetId → Nat) (m : Monitor) (hm : Monitor.start (some now) prober settings targets pick = .ok (.ok m))
    (hgrace : settings.graceMs < settings.drainTimeoutMs) (es : Monitor.Course) (hes : ∀ e ∈ es, e.2 ≠ .cancel)
    (stop later : Instant) (steps : List (Instant × Monitor.DrainStep))
    (hpaced : Paced Drain.next LetsClock (ofStop (m.run es) stop) stop steps later) :
    let m' := m.run es
    let d := (ofStop m' stop).run steps
    let last := stop.after settings.grace
    (∀ report, d.monitor.phase = .stopped report →
      (report.abandoned = 0 ↔ m.Spares es ∧ (ofStop m' stop).Spares steps)) ∧
    (last < later → m.Spares es → (ofStop m' stop).Spares steps →
      (∃ report, d.monitor.phase = .stopped report ∧ report.abandoned = 0 ∧
        (d.drained.map Completion.label : Multiset ProbeLabel) =
          (m'.roster.scheduler.inFlight.entries : Multiset ProbeLabel)) ∨
      ∃ fault id e, d.monitor.phase = .failed fault ∧ d.monitor.roster.scheduler.entry? id = some e ∧
        Instant.limit ≤ later.nanos + e.currentInterval.nanos) ∧
    (∀ c ∈ d.drained, c ∈ m'.executor.completions ∨ stop ≤ c.sentAt ∧ c.sentAt ≤ last) ∧
    ∀ t ∈ m'.executor.tasks, t.state.waits = true →
      d.monitor.executor.calls.get? t.target.id = m'.executor.calls.get? t.target.id ∧
      ∀ c ∈ d.drained, c.result.targetId = t.target.id → c.result = .cancelled t.target.id c.sentAt.wallClock := by
  intro m' d last
  obtain ⟨hconfig, h⟩ : _ ∧ d.Punctual m' stop _ later := punctual_run hm hgrace es hes stop steps hpaced
  refine ⟨fun report hp => h.abandoned_iff hp, fun hlate hes' hsteps => ?_, fun c hc => ?_, fun t ht hw => ?_⟩
  · rcases h.balanced.phase with hp | ⟨hp, -⟩ | ⟨fault, hp⟩
    · exact absurd hp (h.late (hconfig ▸ hlate) ⟨hes', hsteps⟩ _ _)
    · have hnone := (h.abandoned_iff hp).mpr ⟨hes', hsteps⟩
      refine .inl ⟨_, hp, hnone, ?_⟩
      have hbalance := h.balanced.balance
      rw [show d.monitor.roster.scheduler.inFlight.entries = [] from List.length_eq_zero_iff.mp hnone, Multiset.coe_nil,
        add_zero] at hbalance
      exact hbalance
    · obtain ⟨id, e, he, hlimit⟩ := h.overflow hp
      exact .inr ⟨fault, id, e, hp, he, hlimit⟩
  · have hlast : stop.after m'.executor.config.grace = last := congrArg stop.after hconfig
    exact hlast ▸ h.sent c (List.mem_append_left _ hc)
  · obtain ⟨hunbegun, hresults⟩ := h.unbegun t ht hw
    exact ⟨hunbegun.calls_eq, fun c hc => hresults c (List.mem_append_left _ hc)⟩

/-- One probe hangs and heeds nothing, and one waits. The grace is over long before the deadline. -/
theorem abandoned_eq_zero_iff_hangs :
    let prober : Prober := fun _ _ _ _ => none
    let target (id : TargetId) : Target := ⟨id, ⟨"localhost", 1⟩, .tcp, .ofSeconds 60, .ofSeconds 60⟩
    let settings : Settings := { jitterMs := 0, maxConcurrency := 1 }
    let es : Monitor.Course := [(⟨0⟩, .dispatch), (⟨0⟩, .turn 0)]
    let last : Instant := .after ⟨1⟩ settings.grace
    let steps : List (Instant × Monitor.DrainStep) := [(⟨1⟩, .turn 0), (⟨1⟩, .turn 1), (⟨1⟩, .round), (last, .turn 0),
      (last, .round), (last, .round)]
    ∃ m report, Monitor.start (some ⟨0⟩) prober settings [target "a", target "b"] (fun _ => 0) = .ok (.ok m) ∧
      let d := (ofStop (m.run es) ⟨1⟩).run steps
      d.monitor.phase = .stopped report ∧ report.abandoned = 0 ∧
        (d.drained.map Completion.label : Multiset ProbeLabel) = {("a", 1), ("b", 2)} := by
  intro prober target settings es last steps
  let drain (m : Monitor) : Drain := ofStop (m.run es) ⟨1⟩
  let rests (m : Monitor) : Drain := (drain m).run [(⟨1⟩, .turn 0), (⟨1⟩, .turn 1), (⟨1⟩, .round)]
  have hex : ∃ m, Monitor.start (some ⟨0⟩) prober settings [target "a", target "b"] (fun _ => 0) = .ok (.ok m) ∧
      (rests m).monitor.Idles last ∧ (rests m).monitor.executor.Quiescent ⟨1⟩ ∧
      (rests m).monitor.executor.LastsUntil last ∧ ((drain m).run steps).monitor.Idles ⟨last.nanos + 1⟩ ∧
      ((drain m).run steps).monitor.executor.Quiescent last ∧
      ((drain m).run steps).monitor.executor.LastsUntil ⟨last.nanos + 1⟩ ∧ m.Spares es ∧ (drain m).Spares steps ∧
      ((drain m).run steps).monitor.phase.drains = true ∧
      (m.run es).roster.scheduler.inFlight.entries = [("a", 1), ("b", 2)] := by
    decide +kernel
  obtain ⟨m, hm, hidles, hquiet, hlasts, hidles', hquiet', hlasts', hes, hsteps, hdrains, hmarks⟩ := hex
  have hpaced : Paced Drain.next LetsClock (drain m) ⟨1⟩ steps ⟨last.nanos + 1⟩ :=
    ⟨letsClock_self _ _, letsClock_self _ _, letsClock_self _ _,
      letsClock_of_lastsUntil (by decide) hidles hquiet hlasts, letsClock_self _ _, letsClock_self _ _,
      letsClock_of_lastsUntil (Nat.le_succ _) hidles' hquiet' hlasts'⟩
  obtain ⟨-, hover, -⟩ := abandoned_eq_zero_iff ⟨0⟩ prober settings [target "a", target "b"] (fun _ => 0) m hm (by decide) es
    (by simp [es]) ⟨1⟩ ⟨last.nanos + 1⟩ steps hpaced
  rcases hover (Nat.lt_succ_self _) hes hsteps with ⟨report, hp, hnone, hread⟩ | ⟨fault, _, _, hp, -⟩
  · exact ⟨m, report, hm, hp, hnone, hread.trans (by rw [hmarks]; rfl)⟩
  · have hfailed : ((drain m).run steps).monitor.phase = .failed fault := hp
    rw [hfailed] at hdrains
    cases hdrains

/-- A probe whose deadline lies past the end of the clock is lost when it begins, and abandoned when the loop is asked to
stop, although no task is left. -/
theorem abandoned_of_overflowing_deadline :
    let target : Target := ⟨"a", ⟨"localhost", 1⟩, .tcp, .ofSeconds 1, .ofSeconds (Nat.pow 2 64 - 1)⟩
    let settings : Settings := { jitterMs := 0, graceMs := 500, drainTimeoutMs := 1000 }
    let es : Monitor.Course := [(⟨0⟩, .dispatch), (⟨0⟩, .turn 0)]
    let deadline : Instant := .after ⟨1⟩ settings.drainTimeout
    settings.graceMs < settings.drainTimeoutMs ∧
      ∃ m, Monitor.start (some ⟨0⟩) (fun _ _ _ _ => none) settings [target] (fun _ => 0) = .ok (.ok m) ∧
        Paced Drain.next LetsClock (ofStop (m.run es) ⟨1⟩) ⟨1⟩ [(deadline, .round)] deadline ∧
        ((ofStop (m.run es) ⟨1⟩).run [(deadline, .round)]).monitor.phase = .stopped ⟨1, 0, 0, 1⟩ := by
  intro target settings es deadline
  have hex : ∃ m, Monitor.start (some ⟨0⟩) (fun _ _ _ _ => none) settings [target] (fun _ => 0) = .ok (.ok m) ∧
      (ofStop (m.run es) ⟨1⟩).monitor.Idles deadline ∧ (ofStop (m.run es) ⟨1⟩).monitor.executor.Quiescent ⟨1⟩ ∧
      (ofStop (m.run es) ⟨1⟩).monitor.executor.LastsUntil deadline ∧
      ((ofStop (m.run es) ⟨1⟩).run [(deadline, .round)]).monitor.phase = .stopped ⟨1, 0, 0, 1⟩ := by
    decide +kernel
  obtain ⟨m, hm, hidles, hquiet, hlasts, hp⟩ := hex
  exact ⟨by decide, m, hm, ⟨letsClock_of_lastsUntil (by decide) hidles hquiet hlasts, letsClock_self _ _⟩, hp⟩

end Drain

end TargetHealth
