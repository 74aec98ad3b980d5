import TargetHealth.Proofs.Executor.WindDown
import TargetHealth.Proofs.Monitor.Entries

namespace TargetHealth

def MonitorPhase.deadline? : MonitorPhase → Option Instant
  | .draining deadline _ => some deadline
  | _ => none

namespace Monitor

variable {m m' : Monitor} {now : Instant}

def Accounts (m : Monitor) : Prop :=
  (m.roster.scheduler.inFlight.entries : Multiset ProbeLabel) = m.executor.accounted

theorem accounts_iff {past : List Happening} (h : (⟨m, past⟩ : Chronicle).Matched) : m.Accounts ↔ lostIn past = [] := by
  have hmarks := h.marks
  dsimp only at hmarks
  rw [Accounts, hmarks, add_eq_left, Multiset.coe_eq_zero]

theorem accounts_react {past : List Happening} (h : (⟨m, past⟩ : Chronicle).Matched) (now : Instant) (e : Event) :
    (m.react now e).Accounts ↔ m.Accounts ∧ e.Spares m now := by
  have h' := h.react now e
  rw [accounts_iff h, accounts_iff h']
  exact Chronicle.lostIn_react_eq_nil_iff ⟨m, past⟩ now e

theorem frame_react (m : Monitor) (now : Instant) (e : Event) :
    (m.react now e).drainTimeout = m.drainTimeout ∧ (m.react now e).executor.config = m.executor.config := by
  cases e with
  | dispatch =>
    refine ⟨rfl, ?_⟩
    exact List.foldlRecOn (motive := fun x : Executor => x.config = m.executor.config) _ _ rfl fun x hx b _ =>
      (Executor.config_react x now (.dispatch b.1 b.2)).trans hx
  | complete =>
    simp only [react]
    split <;> exact ⟨rfl, rfl⟩
  | reload targets pick =>
    simp only [react]
    split
    · rename_i hm'
      unfold reload at hm'
      split at hm'
      · cases hm'
      · obtain ⟨result, -, hm'⟩ := exists_of_bind_eq_ok hm'
        split at hm'
        · cases hm'
        · split at hm' <;> cases hm' <;> exact ⟨rfl, rfl⟩
    · exact ⟨rfl, rfl⟩
    · exact ⟨rfl, rfl⟩
  | turn number => exact ⟨rfl, (Executor.keeps_stepNumber m.executor number now).config⟩
  | cancel | halt phase | arrange phase stopRequested scheduleChanged agenda => exact ⟨rfl, rfl⟩

theorem frame_run (m : Monitor) (es : Course) :
    (m.run es).drainTimeout = m.drainTimeout ∧ (m.run es).executor.config = m.executor.config := by
  induction es generalizing m with
  | nil => exact ⟨rfl, rfl⟩
  | cons e es ih =>
    obtain ⟨htimeout, hconfig⟩ := frame_react m e.1 e.2
    exact ⟨(ih _).1.trans htimeout, (ih _).2.trans hconfig⟩

theorem uncancelled_react (h : m.executor.Uncancelled) (hn : m.executor.Numbered) (now : Instant) {e : Event}
    (he : e ≠ .cancel) : (m.react now e).executor.Uncancelled := by
  cases e with
  | dispatch =>
    exact List.foldlRecOn (motive := Executor.Uncancelled) _ _ h fun x hx b _ => hx.dispatch b.1 b.2 now
  | complete =>
    simp only [react]
    split <;> exact h
  | reload targets pick =>
    simp only [react]
    split
    · rename_i hm'
      obtain ⟨-, agenda, hx⟩ := reload_eq_ok hm'
      rw [hx]
      exact h
    · exact h
    · exact h
  | cancel => exact absurd rfl he
  | turn number => exact h.stepNumber hn number now
  | halt phase | arrange phase stopRequested scheduleChanged agenda => exact h

theorem subsides_complete (m : Monitor) (c : Completion) (unread : List Completion) (now : Instant) :
    m.executor.Subsides (m.complete c unread now).executor := by
  unfold complete
  dsimp only
  split <;> exact ⟨rfl, rfl, rfl, rfl⟩

theorem subsides_halt (m : Monitor) (phase : MonitorPhase) : m.executor.Subsides (m.halt phase).executor :=
  ⟨rfl, rfl, rfl, rfl⟩

theorem subsides_flush (deadline now : Instant) (unread : List Completion) (report : DrainReport) (m : Monitor) :
    m.executor.Subsides (flush deadline now unread report m).executor := by
  induction unread generalizing report m with
  | nil => exact subsides_halt m _
  | cons c unread ih =>
    have hone : m.executor.Subsides (m.drainOne deadline report c unread now).executor :=
      subsides_complete { m with phase := .draining deadline (report.count c.result.outcome) } c unread now
    unfold flush
    dsimp only
    split
    · exact hone.trans (ih _ _)
    · exact hone

theorem subsides_expire (m : Monitor) (deadline : Instant) (report : DrainReport) (now : Instant) :
    m.executor.Subsides (m.expire deadline report now).executor :=
  (subsides_halt m m.phase).trans (subsides_flush deadline now _ report _)

theorem subsides_drainRound (m : Monitor) (deadline : Instant) (report : DrainReport) (now : Instant) :
    m.executor.Subsides (m.drainRound deadline report now).2.executor := by
  unfold drainRound
  split
  · exact subsides_halt m _
  · split
    · rename_i c unread _
      exact subsides_complete { m with phase := .draining deadline (report.count c.result.outcome) } c unread now
    · split
      · exact subsides_expire m deadline report now
      · exact ⟨rfl, rfl, rfl, rfl⟩

/-- How a drain stands. While it goes on, all marks are accounted for if the run has spared all probes; once it is over, none
is left if it has. It fails only at the end of the clock. -/
def Fares (spared : Prop) (m : Monitor) (now : Instant) : Prop :=
  match m.phase with
  | .draining _ _ => m.Accounts ↔ spared
  | .stopped _ => m.executor.live = [] ∧ (m.roster.scheduler.inFlightCount = 0 ↔ spared)
  | .failed _ => ∃ id e, m.roster.scheduler.entry? id = some e ∧ Instant.limit ≤ now.nanos + e.currentInterval.nanos
  | .starting | .running _ => False

variable {spared : Prop} {deadline : Instant} {report : DrainReport}

theorem fares_halt {past : List Happening} (hm : (⟨m, past⟩ : Chronicle).Matched) (h : m.Accounts ↔ spared)
    (hx : m.executor.accounted = 0) (now : Instant) (report : DrainReport) :
    (m.halt (.stopped report)).Fares spared now := by
  refine ⟨Executor.live_abortAll hm.numbered, ?_⟩
  rw [← h, Accounts, hx, Multiset.coe_eq_zero]
  exact List.length_eq_zero_iff

theorem fares_drainOne (deadline : Instant) {past : List Happening} (hm : (⟨m, past⟩ : Chronicle).Matched) (h : m.Accounts ↔ spared)
    (report : DrainReport) {c : Completion} {unread : List Completion} (hc : m.executor.completions = c :: unread)
    (now : Instant) : (m.drainOne deadline report c unread now).Fares spared now := by
  have hmark := hm.get?_of_mem (c := c) (hc ▸ List.mem_cons_self)
  have hkept := (accounts_react hm now .complete).trans (and_true _).to_iff
  rcases complete_cases { m with phase := .draining deadline (report.count c.result.outcome) } c unread now with
    ⟨-, heq⟩ | ⟨fault, hfault, heq⟩
  · simp only [react, hc] at hkept
    rw [drainOne, heq]
    exact hkept.trans h
  · obtain ⟨e, he, hlimit⟩ := Roster.overflow_of_complete hmark hfault
    rw [drainOne, heq]
    exact ⟨_, e, he, hlimit⟩

theorem fares_flush (unread : List Completion) (report : DrainReport) (m : Monitor)
    (hm : ∃ past, (⟨m, past⟩ : Chronicle).Matched) (htasks : m.executor.tasks = [])
    (hc : m.executor.completions = unread) (h : m.Accounts ↔ spared) (now : Instant) :
    (flush deadline now unread report m).Fares spared now := by
  obtain ⟨past, hpast⟩ := hm
  induction unread generalizing report m past with
  | nil =>
    refine fares_halt hpast h ?_ now _
    rw [Executor.accounted, Executor.pending, Executor.unread, Executor.live, htasks, hc]
    rfl
  | cons c unread ih =>
    have hone := fares_drainOne deadline hpast h report hc now
    unfold flush
    dsimp only
    split
    · rename_i hruns
      obtain ⟨-, hrest, hphase⟩ := m.drainOne_eq deadline report c unread now
      have hnone : (m.drainOne deadline report c unread now).executor.tasks = [] :=
        (subsides_complete { m with phase := .draining deadline (report.count c.result.outcome) } c unread
          now).tasks.trans htasks
      obtain ⟨past', hpast'⟩ := Chronicle.Matched.leadsTo ⟨past, hpast⟩ (leadsTo_drainOne deadline report hc now)
      refine ih _ _ hnone hrest ?_ past' hpast'
      rcases hphase with hp | ⟨fault, hp⟩
      · unfold Fares at hone
        rw [hp] at hone
        exact hone
      · rw [isRunning, hp] at hruns
        cases hruns
    · exact hone

theorem fares_expire (hm : ∃ past, (⟨m, past⟩ : Chronicle).Matched) (h : m.Accounts ↔ spared)
    (htasks : m.executor.tasks = []) (report : DrainReport) (now : Instant) :
    (m.expire deadline report now).Fares spared now := by
  have hkept : m.executor.abortAll.accounted = m.executor.accounted := by
    obtain ⟨past, hpast⟩ := hm
    rw [Executor.accounted_abortAll hpast.numbered, Executor.live, htasks]
    exact (add_zero _).symm
  refine fares_flush m.executor.completions report { m with executor := m.executor.abortAll }
    (Chronicle.Matched.leadsTo hm (leadsTo_halt m m.phase)) htasks rfl ?_ now
  rw [← h, Accounts, Accounts, ← hkept]

theorem fares_drainRound (hm : ∃ past, (⟨m, past⟩ : Chronicle).Matched) (h : m.Accounts ↔ spared)
    (hp : m.phase = .draining deadline report) (hdue : deadline ≤ now → m.executor.tasks = []) :
    (m.drainRound deadline report now).2.Fares spared now := by
  unfold drainRound
  split
  · rename_i hnone
    obtain ⟨past, hpast⟩ := hm
    refine fares_halt hpast h ?_ now _
    have hmarks : (m.roster.scheduler.inFlight.entries : Multiset ProbeLabel) = 0 :=
      (Multiset.coe_eq_zero _).mpr (List.length_eq_zero_iff.mp hnone)
    rw [← Multiset.le_zero, ← hmarks, hpast.marks]
    exact Multiset.le_add_right _ _
  · split
    · rename_i c unread hc
      obtain ⟨past, hpast⟩ := hm
      exact fares_drainOne _ hpast h report hc now
    · rename_i hc
      split
      · rename_i hle
        exact fares_expire hm h (hdue hle) report now
      · unfold Fares
        rw [setAlarm, hp]
        exact h

def Idles (m : Monitor) (limit : Instant) : Prop :=
  ∀ deadline ∈ m.phase.deadline?,
    m.roster.scheduler.inFlightCount ≠ 0 ∧ m.executor.completions = [] ∧ limit ≤ deadline

instance (m : Monitor) (limit : Instant) : Decidable (m.Idles limit) :=
  inferInstanceAs (Decidable (∀ deadline ∈ m.phase.deadline?,
    m.roster.scheduler.inFlightCount ≠ 0 ∧ m.executor.completions = [] ∧ limit ≤ deadline))

end Monitor

end TargetHealth
