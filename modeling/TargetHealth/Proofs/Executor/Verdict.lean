import TargetHealth.Proofs.Executor.WindDown
import TargetHealth.Proofs.Time.Pace

namespace TargetHealth

/-- An instant up to which a probe that began when its permit was granted may last: the clock is not past the grace that follows
the deadline, and not past the grace that follows the cancellation, if there was one. -/
def Target.InTime (target : Target) (grace : Duration) (grant : Instant) (stop? : Option Instant) (now : Instant) : Prop :=
  now ≤ (grant.after target.timeout).after grace ∧ ∀ stop ∈ stop?, now ≤ stop.after grace

/-- The verdict on a probe that began when its permit was granted, given how its call ends. A call that ends in time counts, at
once if it was over when it began or when it was cancelled. Else the limit that comes first does, and the deadline if both come
at once. -/
structure Concludes (callEnd? : Option (Instant × CallEnd)) (grace : Duration) (target : Target) (grant : Instant)
    (stop? : Option Instant) (sentAt : Instant) (r : ProbeResult) : Prop where
  inTime : target.InTime grace grant stop? sentAt
  reported : ∀ t own, callEnd? = some (t, .reported own) → target.InTime grace grant stop? t →
    sentAt = max t (stop?.getD grant) ∧ r = { own with targetId := target.id }
  panicked : ∀ t, callEnd? = some (t, .panicked) → target.InTime grace grant stop? t →
    sentAt = max t (stop?.getD grant) ∧ r = .skipped target.id "probe panicked" sentAt.wallClock
  overran : (∀ t ending, callEnd? = some (t, ending) → (grant.after target.timeout).after grace < t) →
    (∀ stop ∈ stop?, (grant.after target.timeout).after grace ≤ stop.after grace) →
    sentAt = (grant.after target.timeout).after grace ∧
      r = .failure target.id .timeout "probe overran its deadline" sentAt.wallClock
  ignored : ∀ stop ∈ stop?, (∀ t ending, callEnd? = some (t, ending) → stop.after grace < t) →
    stop.after grace < (grant.after target.timeout).after grace →
    sentAt = stop.after grace ∧ r = .cancelled target.id sentAt.wallClock

/-- The cases leave nothing open: the end of the call determines when a verdict is sent, and which. -/
theorem Concludes.unique {callEnd? : Option (Instant × CallEnd)} {grace : Duration} {target : Target}
    {grant sentAt sentAt' : Instant} {stop? : Option Instant} {r r' : ProbeResult}
    (h : Concludes callEnd? grace target grant stop? sentAt r)
    (h' : Concludes callEnd? grace target grant stop? sentAt' r') : sentAt = sentAt' ∧ r = r' := by
  have hagree {s : Instant} (result : Instant → ProbeResult) (heq : sentAt = s ∧ r = result sentAt)
      (heq' : sentAt' = s ∧ r' = result sentAt') : sentAt = sentAt' ∧ r = r' := by
    obtain ⟨rfl, rfl⟩ := heq
    obtain ⟨rfl, rfl⟩ := heq'
    exact ⟨rfl, rfl⟩
  by_cases hcounts : ∃ t ending, callEnd? = some (t, ending) ∧ target.InTime grace grant stop? t
  · obtain ⟨t, ending, hend, hin⟩ := hcounts
    cases ending with
    | reported own => exact hagree (fun _ => _) (h.reported t own hend hin) (h'.reported t own hend hin)
    | panicked => exact hagree (fun s => .skipped _ _ s.wallClock) (h.panicked t hend hin) (h'.panicked t hend hin)
  · have hlate {t : Instant} {ending : CallEnd} (hend : callEnd? = some (t, ending))
        (hlimit : t ≤ (grant.after target.timeout).after grace) : ∃ stop ∈ stop?, stop.after grace < t := by
      by_contra hnone
      exact hcounts ⟨t, ending, hend, hlimit, fun stop hstop => Nat.not_lt.mp fun hlt => hnone ⟨stop, hstop, hlt⟩⟩
    by_cases hfirst : ∃ stop ∈ stop?, stop.after grace < (grant.after target.timeout).after grace
    · obtain ⟨stop, hstop, hlt⟩ := hfirst
      have hout : ∀ t ending, callEnd? = some (t, ending) → stop.after grace < t := by
        intro t ending hend
        refine Nat.not_le.mp fun hle => ?_
        obtain ⟨stop', hstop', hgrace⟩ := hlate hend (Nat.le_trans hle (Nat.le_of_lt hlt))
        exact absurd hle (Nat.not_le.mpr (Option.mem_unique hstop hstop' ▸ hgrace))
      exact hagree (fun s => .cancelled _ s.wallClock) (h.ignored stop hstop hout hlt) (h'.ignored stop hstop hout hlt)
    · have hstops : ∀ stop ∈ stop?, (grant.after target.timeout).after grace ≤ stop.after grace :=
        fun stop hstop => Nat.not_lt.mp fun hlt => hfirst ⟨stop, hstop, hlt⟩
      have hout : ∀ t ending, callEnd? = some (t, ending) → (grant.after target.timeout).after grace < t := by
        intro t ending hend
        refine Nat.not_le.mp fun hlimit => ?_
        obtain ⟨stop, hstop, hgrace⟩ := hlate hend hlimit
        exact hfirst ⟨stop, hstop, Nat.lt_of_lt_of_le hgrace hlimit⟩
      exact hagree (fun s => .failure _ _ _ s.wallClock) (h.overran hout hstops) (h'.overran hout hstops)

namespace RunningProbe

variable {p : RunningProbe} {prober : Prober} {grace : Duration} {target : Target} {now : Instant} {r : ProbeResult}

theorem le_endsAt_iff : now ≤ p.endsAt prober grace target ↔
    (∀ t ending, p.callEnd prober target = some (t, ending) → now ≤ t) ∧ now ≤ p.limit grace ∧
      ∀ stop ∈ p.cancelledAt, now ≤ stop.after grace := by
  have hmin (a b : Instant) : now ≤ min a b ↔ now ≤ a ∧ now ≤ b := Nat.le_min
  unfold endsAt
  rcases p.callEnd prober target with _ | ⟨t, e⟩ <;> cases p.cancelledAt <;> simp [hmin]

theorem result?_of_overrun (h : ∀ t ending, p.callEnd prober target = some (t, ending) → now < t)
    (hlimit : p.limit grace ≤ now) : p.result? prober grace target now = some (overrun target.id now) := by
  have hforced : p.forcedResult? grace target.id now = some (overrun target.id now) := if_pos hlimit
  unfold result?
  split
  · rename_i t ending hcall
    exact (if_neg (Nat.not_le.mpr (h t ending hcall))).trans hforced
  · exact hforced

theorem result?_of_finished {t : Instant} {ending : CallEnd} (h : p.callEnd prober target = some (t, ending))
    (hle : t ≤ now) : p.result? prober grace target now = some (ownResult target.id now ending) := by
  rw [result?, h]
  exact if_pos hle

/-- The probe of a target that began when its permit was granted. -/
def begun (target : Target) (call : Nat) (grant : Instant) (heard? : Option Instant) : RunningProbe :=
  ⟨call, grant, grant.after target.timeout, heard?⟩

variable {call : Nat} {grant : Instant} {stop? : Option Instant}

theorem concludes_begun (hr : (begun target call grant stop?).result? prober grace target now = some r)
    (hnow : now = max ((begun target call grant stop?).endsAt prober grace target) (stop?.getD grant))
    (hsince : target.InTime grace grant stop? (stop?.getD grant)) :
    Concludes (prober target call grant ⟨grant.after target.timeout, stop?⟩) grace target grant stop? now r := by
  have hfirst (u : Instant) : u ≤ (begun target call grant stop?).endsAt prober grace target ↔
      (∀ t ending, prober target call grant ⟨grant.after target.timeout, stop?⟩ = some (t, ending) → u ≤ t) ∧
        target.InTime grace grant stop? u := le_endsAt_iff
  generalize (begun target call grant stop?).endsAt prober grace target = last at hnow hfirst
  obtain ⟨hcall, hlimit, hgrace⟩ := (hfirst last).mp (Nat.le_refl _)
  have hcount {t : Instant} {ending : CallEnd}
      (hend : prober target call grant ⟨grant.after target.timeout, stop?⟩ = some (t, ending))
      (hin : target.InTime grace grant stop? t) :
      now = max t (stop?.getD grant) ∧ r = ownResult target.id now ending := by
    have hlast : last = t := by
      refine Instant.le_antisymm (hcall t ending hend) ((hfirst t).mpr ⟨fun t' ending' hend' => ?_, hin⟩)
      cases hend.symm.trans hend'
      exact Nat.le_refl _
    rw [hlast] at hnow
    refine ⟨hnow, ?_⟩
    rw [result?_of_finished (p := begun target call grant stop?) hend (hnow ▸ Instant.le_max_left _ _)] at hr
    exact (Option.some.inj hr).symm
  refine ⟨?_, fun t own => hcount, fun t => hcount, fun hlate hstops => ?_, fun stop hstop hlate hlt => ?_⟩
  · rw [hnow]
    exact ⟨Instant.max_le hlimit hsince.1, fun stop hstop => Instant.max_le (hgrace stop hstop) (hsince.2 stop hstop)⟩
  · have hlast : last = (grant.after target.timeout).after grace := Instant.le_antisymm hlimit
      ((hfirst _).mpr ⟨fun t ending hend => Nat.le_of_lt (hlate t ending hend), Nat.le_refl _, hstops⟩)
    rw [hlast, Instant.max_eq_left hsince.1] at hnow
    subst hnow
    refine ⟨rfl, ?_⟩
    rw [result?_of_overrun (p := begun target call grant stop?) hlate (Instant.le_of_eq rfl)] at hr
    exact (Option.some.inj hr).symm
  · have hlast : last = stop.after grace := by
      refine Instant.le_antisymm (hgrace stop hstop) ((hfirst _).mpr ⟨?_, Nat.le_of_lt hlt, fun stop' hstop' => ?_⟩)
      · exact fun t ending hend => Nat.le_of_lt (hlate t ending hend)
      · rw [Option.mem_unique hstop hstop']
        exact Nat.le_refl _
    rw [hlast, Instant.max_eq_left (hsince.2 stop hstop)] at hnow
    subst hnow
    rcases result?_cases hr with ⟨t, ending, hend, hle, -⟩ | ⟨hle, -⟩ | ⟨-, -, -, heq⟩
    · exact absurd hle (Nat.not_le.mpr (hlate t ending hend))
    · exact absurd hle (Nat.not_le.mpr hlt)
    · exact ⟨rfl, heq⟩

end RunningProbe

namespace Executor

/-- A task gets a permit in an event, and has not been aborted. -/
structure Grants (x : Executor) (now : Instant) (e : Event) (t : ProbeTask) : Prop where
  mem : t ∈ (x.react now e).live
  held : t.state.holdsPermit = true
  new : ∀ u ∈ x.tasks, u.number = t.number → u.state.holdsPermit = false

/-- A task that has held its permit up to its turn sends a completion in it and is gone. The permit goes to the first task that
waits for one, or comes free. -/
structure Ends (x : Executor) (t : ProbeTask) (now : Instant) (c : Completion) : Prop where
  held : ∃ state : TaskState, state.holdsPermit = true ∧ { t with state := state } ∈ x.tasks
  tasks : (x.stepNumber t.number now).tasks = handOverIn (dropIn t.number x.tasks)
  completions : (x.stepNumber t.number now).completions = x.completions ++ [c]
  sentAt : c.sentAt = now
  epoch : c.epoch = t.epoch

/-- What a task sends that got a permit: the verdict on its probe, or word that it was cancelled before it could begin one. -/
inductive Settles (prober : Prober) (config : ExecutorConfig) (t : ProbeTask) (grant : Instant) (x : Executor)
    (call? : Option Nat) (stop? : Option Instant) (c : Completion) : Prop
  | concludes {call : Nat} (hcall : call? = some call)
      (h : Concludes (prober t.target call grant ⟨grant.after t.target.timeout, stop?⟩) config.grace t.target grant stop?
        c.sentAt c.result)
  | givesUp (hs : t.state = .admitted true) (ht : t ∈ x.tasks) (hc : x.cancelled = true) (hnow : c.sentAt = grant)
      (hr : c.result = .cancelled t.target.id grant.wallClock)

structure Hosts (prober : Prober) (config : ExecutorConfig) (x : Executor) : Prop where
  numbered : x.Numbered
  prober_eq : x.prober = prober
  config_eq : x.config = config

/-- The clock moves on only while no task can act. -/
def LetsClock (x : Executor) (now later : Instant) : Prop := now ≤ later ∧ ∀ u, now ≤ u → u < later → x.Quiescent u

namespace Event

def stops (now : Instant) : Event → Option Instant
  | cancel => some now
  | _ => none

/-- The number of the call that a task makes in an event, if that is its first turn with a permit. -/
def calls (x : Executor) (t : ProbeTask) : Event → Option Nat
  | turn number => if number = t.number then some ((x.calls.get? t.target.id).getD 0) else none
  | _ => none

end Event

def cancelTime? (es : Course) : Option Instant := es.findSome? fun e => e.2.stops e.1

def callIn? (x : Executor) (t : ProbeTask) : Course → Option Nat
  | [] => none
  | (now, e) :: es => (e.calls x t).or (callIn? (x.react now e) t es)

variable {prober : Prober} {config : ExecutorConfig} {x y : Executor} {t u : ProbeTask} {now later grant : Instant} {e : Event}
  {call? : Option Nat} {stop? : Option Instant}

theorem cancelTime?_cons (now : Instant) (e : Event) (es : Course) :
    cancelTime? ((now, e) :: es) = (e.stops now).or (cancelTime? es) := by
  rw [cancelTime?, List.findSome?_cons]
  cases e <;> rfl

theorem prober_react (x : Executor) (now : Instant) (e : Event) : (x.react now e).prober = x.prober := by
  cases e with
  | dispatch target epoch => exact (x.fixed_dispatch target epoch now).1
  | turn number => exact (keeps_stepNumber x number now).prober
  | cancel | read | arrange agenda | abort => rfl

theorem cancelled_react (x : Executor) (now : Instant) (e : Event) :
    (x.react now e).cancelled = (x.cancelled || (e.stops now).isSome) := by
  cases e with
  | dispatch target epoch => exact (Bool.or_false _).symm ▸ (x.fixed_dispatch target epoch now).2.2.1
  | turn number => exact (Bool.or_false _).symm ▸ (keeps_stepNumber x number now).cancelled
  | cancel => exact (Bool.or_true _).symm
  | read | arrange agenda | abort => exact (Bool.or_false _).symm

theorem Hosts.react (h : x.Hosts prober config) (now : Instant) (e : Event) : (x.react now e).Hosts prober config where
  numbered := h.numbered.react now e
  prober_eq := (prober_react x now e).trans h.prober_eq
  config_eq := (config_react x now e).trans h.config_eq

theorem Hosts.run (h : x.Hosts prober config) (es : Course) : (x.run es).Hosts prober config := by
  induction es generalizing x with
  | nil => exact h
  | cons e es ih => exact ih (h.react e.1 e.2)

theorem mem_live_of_abortedBelow {state : TaskState} (ht : t ∈ x.live) (hmem : { t with state := state } ∈ y.tasks)
    (hb : y.abortedBelow = x.abortedBelow) : { t with state := state } ∈ y.live := by
  refine mem_live_iff.mpr ⟨hmem, ?_⟩
  rw [aborted, hb]
  exact (mem_live_iff.mp ht).2

theorem Numbered.mem_react (h : x.Numbered) (hlive : t ∈ x.live) (hpermit : t.state.holdsPermit = true) (ha : e ≠ .abort)
    (hturn : e ≠ .turn t.number) : t ∈ (x.react now e).live := by
  have ht := (mem_live_iff.mp hlive).1
  refine mem_live_of_abortedBelow hlive ?_ (abortedBelow_react x now ha)
  cases e with
  | dispatch target epoch =>
    rcases x.tasks_dispatch target epoch now with heq | ⟨state, heq, -⟩
    · exact heq.symm ▸ ht
    · exact heq.symm ▸ List.mem_append_left _ ht
  | turn number =>
    change t ∈ (x.stepNumber number now).tasks
    cases hu : x.task? number with
    | none => rwa [stepNumber_of_none hu]
    | some u =>
      obtain ⟨hmem, rfl⟩ := task?_some hu
      exact (turns_stepNumber hu now).mem_of_ne h.nodup hmem ht (fun heq => hturn (congrArg Event.turn heq.symm)) hpermit
  | cancel | read | arrange agenda => exact ht
  | abort => exact absurd rfl ha

/-- A permit is granted at a dispatch, unless all probes are cancelled, or to a task that waits for one. -/
theorem Grants.state_cases (h : x.Grants now e t) (hn : x.Numbered) :
    t.state = .admitted false ∧ (x.react now e).cancelled = false ∨ t.state = .admitted true := by
  have hold (ht : t ∈ x.tasks) : False := Bool.false_ne_true ((h.new t ht rfl).symm.trans h.held)
  have hmem := (mem_live_iff.mp h.mem).1
  cases e with
  | dispatch target epoch =>
    rcases x.tasks_dispatch target epoch now with heq | ⟨state, heq, hstate⟩
    · exact (hold (heq ▸ hmem)).elim
    · rcases List.mem_append.mp (heq ▸ hmem) with ht | ht
      · exact (hold ht).elim
      · obtain rfl := List.mem_singleton.mp ht
        rcases hstate with rfl | ⟨rfl, hopen⟩
        · exact absurd h.held Bool.false_ne_true
        · exact .inl ⟨rfl, (cancelled_react _ _ _).trans (by rw [hopen]; rfl)⟩
  | turn number =>
    cases hu : x.task? number with
    | none => exact (hold (stepNumber_of_none hu now ▸ hmem)).elim
    | some u =>
      have humem := (task?_some hu).1
      rcases (turns_stepNumber hu now).mem_tasks hn.nodup humem hmem with ht | ⟨v, -, -, rfl⟩ | ⟨p, rfl, hp, -⟩
      · exact (hold ht).elim
      · exact .inr rfl
      · -- a task that runs its probe after its turn had its permit before it
        have hfree := h.new u humem rfl
        rw [probeIn?] at hp
        split at hp
        · cases hp
        · rename_i hs
          rw [hs] at hfree
          cases hfree
        · rename_i hs
          rw [hs] at hfree
          cases hfree
  | cancel | read | arrange agenda | abort => exact (hold hmem).elim

/-- A task with a permit, at an instant up to which it has been in time: it begins at the instant of the grant, or runs a probe
that began then and that is not over before now. The task makes or has made a certain call, and there has been a certain
cancellation since the grant, or none. -/
inductive Holds (prober : Prober) (config : ExecutorConfig) (t : ProbeTask) (grant : Instant) (x : Executor) (now : Instant) :
    Option Nat → Option Instant → Prop
  | poised {waited : Bool} {stop? : Option Instant} (hs : t.state = .admitted waited) (ht : t ∈ x.live) (hnow : now = grant)
      (hstop : ∀ stop ∈ stop?, stop = grant) (hheard : x.cancelled = stop?.isSome ∨ waited = true ∧ x.cancelled = true) :
      Holds prober config t grant x now none stop?
  | runs {call : Nat} {heard? stop? : Option Instant}
      (ht : { t with state := .running (.begun t.target call grant heard?) } ∈ x.live)
      (hcancelled : x.cancelled = stop?.isSome) (hheard : heard? = stop? ∨ heard? = none ∧ stop? = some now)
      (hsince : heard?.getD grant ≤ now)
      (hends : now ≤ (RunningProbe.begun t.target call grant heard?).endsAt prober config.grace t.target) :
      Holds prober config t grant x now (some call) stop?

theorem inTime_grant (target : Target) (grace : Duration) (hstop : ∀ stop ∈ stop?, grant ≤ stop) :
    target.InTime grace grant stop? grant :=
  ⟨Nat.le_trans (Nat.le_add_right _ _) (Nat.le_add_right _ _),
    fun stop hmem => Nat.le_trans (hstop stop hmem) (Nat.le_add_right _ _)⟩

theorem Holds.inTime (h : x.Holds prober config t grant now call? stop?) : t.target.InTime config.grace grant stop? now := by
  cases h with
  | poised hs ht hnow hstop =>
    rw [hnow]
    exact inTime_grant _ _ fun stop hmem => Instant.le_of_eq (hstop stop hmem).symm
  | runs ht hcancelled hheard hsince hends =>
    obtain ⟨-, hlimit, hgrace⟩ := RunningProbe.le_endsAt_iff.mp hends
    refine ⟨hlimit, fun stop hstop => ?_⟩
    rcases hheard with rfl | ⟨-, rfl⟩
    · exact hgrace stop hstop
    · cases hstop
      exact Nat.le_add_right _ _

theorem Holds.exists_mem (h : x.Holds prober config t grant now call? stop?) :
    ∃ state : TaskState, state.holdsPermit = true ∧ { t with state := state } ∈ x.tasks := by
  cases h with
  | poised hs ht => exact ⟨t.state, by rw [hs]; rfl, (mem_live_iff.mp ht).1⟩
  | runs ht => exact ⟨_, rfl, (mem_live_iff.mp ht).1⟩

theorem Holds.clock (h : x.Holds prober config t grant now call? stop?) (hx : x.Hosts prober config)
    (hlets : x.LetsClock now later) : x.Holds prober config t grant later call? stop? := by
  obtain ⟨hle, hrest⟩ := hlets
  rcases Instant.lt_or_eq_of_le hle with hlt | rfl
  · have hnow := hrest now (Nat.le_refl _) hlt
    cases h with
    | poised hs ht =>
      rcases hnow.task_cases hx.numbered (mem_live_iff.mp ht).1 with ⟨hqueued, -⟩ | ⟨p, hp, -⟩
      · cases hs.symm.trans hqueued
      · cases hs.symm.trans hp
    | @runs call heard? stop? ht hcancelled hheard hsince hends =>
      have hrun (u : Instant) (hu : now ≤ u) (hbefore : u < later) : (x.cancelled = true → heard? ≠ none) ∧
          u < (RunningProbe.begun t.target call grant heard?).endsAt prober config.grace t.target := by
        rcases (hrest u hu hbefore).task_cases hx.numbered (mem_live_iff.mp ht).1 with ⟨hqueued, -⟩ | ⟨p, hp, hknown, hlast⟩
        · cases hqueued
        · cases hp
          rw [hx.prober_eq, hx.config_eq] at hlast
          exact ⟨hknown, hlast⟩
      refine .runs ht hcancelled (.inl ?_) (Nat.le_trans hsince hle) (Nat.not_lt.mp fun hlate => ?_)
      · refine hheard.resolve_right fun ⟨hnone, hsome⟩ => ?_
        exact (hrun now (Nat.le_refl _) hlt).1 (by rw [hcancelled, hsome]; rfl) hnone
      · exact Nat.lt_irrefl _ (hrun _ hends hlate).2
  · exact h

theorem probeIn?_of_begins (hs : ∃ waited, t.state = .admitted waited) (hbegins : t.state.begins x.cancelled = true)
    (hfits : t.target.FitsClock x.config.grace now) :
    x.probeIn? t now =
      some (.begun t.target ((x.calls.get? t.target.id).getD 0) now (if x.cancelled then some now else none)) := by
  obtain ⟨waited, hs⟩ := hs
  rw [hs] at hbegins
  simp only [probeIn?, hs]
  exact if_pos ⟨hbegins, hfits⟩

theorem heard_at_grant (hc : x.cancelled = stop?.isSome) (hstop : ∀ stop ∈ stop?, stop = grant) :
    (if x.cancelled then some grant else none) = stop? ∧ stop?.getD grant = grant := by
  rw [hc]
  cases stop? with
  | none => exact ⟨rfl, rfl⟩
  | some stop =>
    rw [hstop stop rfl]
    exact ⟨rfl, rfl⟩

/-- In the turn of a task its probe is the one that began at the grant, and knows of the cancellation. Only a task that was
cancelled while it waited has none. -/
theorem Holds.probe_cases (h : x.Holds prober config t grant now call? stop?) (hx : x.Hosts prober config)
    (hfits : t.target.FitsClock config.grace grant) :
    (t ∈ x.live ∧ t.state = .admitted true ∧ x.cancelled = true ∧ now = grant) ∨
    x.cancelled = stop?.isSome ∧ ∃ state : TaskState, ∃ call : Nat, { t with state := state } ∈ x.live ∧
      state.holdsPermit = true ∧ call?.or ((Event.turn t.number).calls x t) = some call ∧
      x.probeIn? { t with state := state } now = some (.begun t.target call grant stop?) ∧ stop?.getD grant ≤ now ∧
      (now = stop?.getD grant ∨
        now ≤ (RunningProbe.begun t.target call grant stop?).endsAt prober config.grace t.target) := by
  cases h with
  | @poised waited stop? hs ht hnow hstop hheard =>
    subst hnow
    rcases hheard with hc | ⟨rfl, hc⟩
    · by_cases hbegins : t.state.begins x.cancelled = true
      · obtain ⟨hknown, hsince⟩ := heard_at_grant hc hstop
        have hprobe := probeIn?_of_begins ⟨waited, hs⟩ hbegins (hx.config_eq.symm ▸ hfits)
        rw [hknown] at hprobe
        refine .inr ⟨hc, t.state, (x.calls.get? t.target.id).getD 0, ht, by rw [hs]; rfl, ?_, hprobe, ?_, .inl hsince.symm⟩
        · rw [Option.none_or, Event.calls, if_pos rfl]
        · exact Instant.le_of_eq hsince
      · refine .inl ⟨ht, ?_⟩
        rw [hs] at hbegins ⊢
        cases waited with
        | false => exact absurd rfl hbegins
        | true => exact ⟨rfl, by simpa [TaskState.begins] using hbegins, rfl⟩
    · exact .inl ⟨ht, hs, hc, rfl⟩
  | @runs call heard? stop? ht hcancelled hheard hsince hends =>
    refine .inr ⟨hcancelled, _, call, ht, rfl, rfl, ?_⟩
    rcases hheard with rfl | ⟨rfl, rfl⟩
    · have hknown : ¬ (x.cancelled = true ∧ heard? = none) := by
        rintro ⟨hc, hnone⟩
        rw [hcancelled, hnone] at hc
        cases hc
      exact ⟨congrArg some (if_neg hknown), hsince, .inr hends⟩
    · refine ⟨congrArg some ?_, Nat.le_refl _, .inl rfl⟩
      exact if_pos ⟨hcancelled, rfl⟩

theorem Turns.probe_cases (h : x.Turns t now y) (hlive : t ∈ x.live) {p : RunningProbe} (hp : x.probeIn? t now = some p) :
    (∃ r, p.result? x.prober x.config.grace t.target now = some r ∧ y.tasks = handOverIn (dropIn t.number x.tasks) ∧
      y.completions = x.completions ++ [⟨t.epoch, r, now⟩]) ∨
    p.result? x.prober x.config.grace t.target now = none ∧ y.tasks = setIn t.number (.running p) x.tasks := by
  cases h with
  | waits hqueued =>
    rw [probeIn?, hqueued] at hp
    cases hp
  | givesUp hwaits hc =>
    rw [probeIn?_of_waits hc hwaits] at hp
    cases hp
  | loses hbegins hnot =>
    rw [probeIn?] at hp
    split at hp
    · cases hp
    · rw [if_neg fun hand => hnot hand.2] at hp
      cases hp
    · rename_i hs
      rw [hs] at hbegins
      cases hbegins
  | reports q r hq hr tasks completions =>
    cases hp.symm.trans hq
    exact .inl ⟨r, hr, tasks, completions⟩
  | runsOn q hq hr tasks =>
    cases hp.symm.trans hq
    exact .inr ⟨hr, tasks⟩
  | leaves ha =>
    rw [(mem_live_iff.mp hlive).2] at ha
    cases ha

theorem step_of_cancelled (hs : t.state = .admitted true) (hc : x.cancelled = true) :
    x.step t now = ({ x with waiting := x.waiting - 1 }.release t.number).giveUp t now := by
  simp only [step, hs, hc, if_true]

theorem Holds.turn (h : x.Holds prober config t grant now call? stop?) (hx : x.Hosts prober config)
    (hfits : t.target.FitsClock config.grace grant) :
    let call?' := call?.or ((Event.turn t.number).calls x t)
    Holds prober config t grant (x.stepNumber t.number now) now call?' stop? ∨
      ∃ c, x.Ends t now c ∧ Settles prober config t grant x call?' stop? c := by
  rcases h.probe_cases hx hfits with ⟨ht, hs, hc, hnow⟩ |
    ⟨hcancelled, state, call, ht, hpermit, hcall, hprobe, hsince, hfirst⟩
  · have hstep : x.stepNumber t.number now = x.step t now := hx.numbered.stepNumber_of_live ht now
    rw [step_of_cancelled hs hc] at hstep
    refine .inr ⟨⟨t.epoch, .cancelled t.target.id now.wallClock, now⟩, ⟨h.exists_mem, ?_, ?_, rfl, rfl⟩, ?_⟩
    · rw [hstep]
      exact tasks_handOver _
    · rw [hstep]
      exact congrArg (· ++ _) (completions_release _ _)
    · exact .givesUp hs (mem_live_iff.mp ht).1 hc hnow (by rw [hnow])
  · have hstep : x.stepNumber t.number now = x.step { t with state := state } now :=
      hx.numbered.stepNumber_of_live ht now
    have hinTime := h.inTime
    rcases (turns_step x { t with state := state } now).probe_cases ht hprobe with
      ⟨r, hr, htasks, hsent⟩ | ⟨hr, htasks⟩
    · refine .inr ⟨⟨t.epoch, r, now⟩, ⟨⟨state, hpermit, (mem_live_iff.mp ht).1⟩, ?_, ?_, rfl, rfl⟩, .concludes hcall ?_⟩
      · rw [hstep]
        exact htasks
      · rw [hstep]
        exact hsent
      · rw [hx.prober_eq, hx.config_eq] at hr
        have hover := RunningProbe.result?_isSome_iff.mp (Option.isSome_of_eq_some hr)
        refine RunningProbe.concludes_begun hr ?_ ⟨Nat.le_trans hsince hinTime.1, fun stop hstop => ?_⟩
        · rcases hfirst with heq | hle
          · rw [← heq, Instant.max_eq_right hover]
          · rw [← Instant.le_antisymm hle hover, Instant.max_eq_left hsince]
        · exact Nat.le_trans hsince (hinTime.2 stop hstop)
    · rw [hx.prober_eq, hx.config_eq] at hr
      refine .inl (hcall ▸ .runs ?_ ?_ (.inl rfl) hsince (Nat.le_of_lt (RunningProbe.result?_eq_none_iff.mp hr)))
      · have hkept := keeps_stepNumber x t.number now
        refine mem_live_of_abortedBelow (t := { t with state := state }) ht ?_ hkept.abortedBelow
        rw [hstep, htasks]
        exact (perm_setIn hx.numbered.nodup (mem_live_iff.mp ht).1 _).symm.subset List.mem_cons_self
      · exact (keeps_stepNumber x t.number now).cancelled.trans hcancelled

theorem Event.stops_turn (number : Nat) (now : Instant) : (turn number).stops now = none := rfl

theorem Event.stops_cases (e : Event) (now : Instant) : e.stops now = none ∨ e.stops now = some now := by
  cases e with
  | cancel => exact .inr rfl
  | dispatch | turn | read | arrange | abort => exact .inl rfl

theorem Holds.other (h : x.Holds prober config t grant now call? stop?) (hx : x.Hosts prober config) (ha : e ≠ .abort)
    (hturn : e ≠ .turn t.number) : (x.react now e).Holds prober config t grant now call? (stop?.or (e.stops now)) := by
  have hcancelled (hc : x.cancelled = stop?.isSome) : (x.react now e).cancelled = (stop?.or (e.stops now)).isSome := by
    rw [cancelled_react, hc, Option.isSome_or]
  cases h with
  | poised hs ht hnow hstop hheard =>
    refine .poised hs (hx.numbered.mem_react ht (by rw [hs]; rfl) ha hturn) hnow (fun stop hmem => ?_) ?_
    · rcases Option.or_eq_some_iff.mp hmem with hold | ⟨-, hnew⟩
      · exact hstop stop hold
      · rcases e.stops_cases now with hnone | hsome
        · cases hnone.symm.trans hnew
        · cases hsome.symm.trans hnew
          exact hnow
    · refine hheard.imp hcancelled fun ⟨hwaited, hc⟩ => ⟨hwaited, ?_⟩
      rw [cancelled_react, hc, Bool.true_or]
  | @runs call heard? stop? ht hc hheard hsince hends =>
    refine .runs (hx.numbered.mem_react ht rfl ha hturn) (hcancelled hc) ?_ hsince hends
    rcases hheard with rfl | ⟨rfl, rfl⟩
    · cases heard? with
      | some stop => exact .inl rfl
      | none => exact (e.stops_cases now).imp (fun hnone => by rw [hnone]; rfl) fun hsome => ⟨rfl, by rw [hsome]; rfl⟩
    · exact .inr ⟨rfl, rfl⟩

theorem Holds.react (h : x.Holds prober config t grant now call? stop?) (hx : x.Hosts prober config)
    (hfits : t.target.FitsClock config.grace grant) (ha : e ≠ .abort) :
    (x.react now e).Holds prober config t grant now (call?.or (e.calls x t)) (stop?.or (e.stops now)) ∨
      e = .turn t.number ∧ ∃ c, x.Ends t now c ∧ Settles prober config t grant x (call?.or (e.calls x t)) stop? c := by
  by_cases hturn : e = .turn t.number
  · subst hturn
    rw [Event.stops_turn, Option.or_none]
    exact (h.turn hx hfits).imp_right fun hends => ⟨rfl, hends⟩
  · have hnone : e.calls x t = none := by
      cases e with
      | turn number => exact if_neg fun heq => hturn (congrArg Event.turn heq)
      | dispatch | cancel | read | arrange | abort => rfl
    rw [hnone, Option.or_none]
    exact .inl (h.other hx ha hturn)

theorem le_of_mem_cancelTime? {es : Course} (hpaced : Paced Executor.react LetsClock x now es later) {stop : Instant}
    (hstop : stop ∈ cancelTime? es) : now ≤ stop := by
  induction es generalizing x now with
  | nil => cases hstop
  | cons e es ih =>
    obtain ⟨hlets, hrest⟩ := hpaced
    rw [cancelTime?_cons] at hstop
    refine Nat.le_trans hlets.1 ?_
    rcases e.2.stops_cases e.1 with hnone | hsome
    · rw [hnone, Option.none_or] at hstop
      exact ih hrest hstop
    · rw [hsome] at hstop
      cases hstop
      exact Nat.le_refl _

/-- Up to an instant a task with a permit has been in time, or it has ended in one of its turns with a verdict. -/
theorem Holds.run {es : Course} (h : x.Holds prober config t grant now call? stop?) (hx : x.Hosts prober config)
    (hfits : t.target.FitsClock config.grace grant) (ha : ∀ e ∈ es, e.2 ≠ .abort)
    (hpaced : Paced Executor.react LetsClock x now es later) :
    (x.run es).Holds prober config t grant later (call?.or (x.callIn? t es)) (stop?.or (cancelTime? es)) ∨
    ∃ earlier s rest c, es = earlier ++ (s, .turn t.number) :: rest ∧ (x.run earlier).Ends t s c ∧
      t.target.InTime config.grace grant (stop?.or (cancelTime? es)) s ∧
      Settles prober config t grant (x.run earlier) (call?.or (x.callIn? t (earlier ++ [(s, .turn t.number)])))
        (stop?.or (cancelTime? earlier)) c := by
  induction es generalizing x now call? stop? with
  | nil =>
    rw [callIn?, cancelTime?, List.findSome?_nil, Option.or_none, Option.or_none]
    exact .inl (h.clock hx hpaced)
  | cons e es ih =>
    obtain ⟨s, e⟩ := e
    obtain ⟨hlets, hrest⟩ := hpaced
    have hthen := h.clock hx hlets
    rcases hthen.react hx hfits (ha _ List.mem_cons_self) with hgoes | ⟨rfl, c, hends, hsettles⟩
    · rw [callIn?, cancelTime?_cons, ← Option.or_assoc, ← Option.or_assoc]
      refine (ih hgoes (hx.react s e) (fun e' he' => ha e' (List.mem_cons_of_mem _ he')) hrest).imp_right ?_
      rintro ⟨earlier, s', rest, c, rfl, hends, hinTime, hsettles⟩
      refine ⟨(s, e) :: earlier, s', rest, c, rfl, hends, hinTime, ?_⟩
      rw [List.cons_append, callIn?, cancelTime?_cons, ← Option.or_assoc, ← Option.or_assoc]
      exact hsettles
    · refine .inr ⟨[], s, es, c, rfl, hends, ⟨hthen.inTime.1, fun stop hstop => ?_⟩, ?_⟩
      · rw [cancelTime?_cons, Event.stops_turn, Option.none_or] at hstop
        rcases Option.or_eq_some_iff.mp hstop with hold | ⟨-, hnew⟩
        · exact hthen.inTime.2 stop hold
        · exact Nat.le_trans (le_of_mem_cancelTime? hrest hnew) (Nat.le_add_right _ _)
      · rw [List.nil_append, callIn?, callIn?, Option.or_none, cancelTime?, List.findSome?_nil, Option.or_none]
        exact hsettles

/-- A task that gets a permit begins its probe at that instant, and gives the permit back with the verdict by the grace past the
deadline, which counts from the grant, and by the grace past the first cancellation. The verdict is that of the call if this
ends in time, and else that of the limit which comes first. -/
theorem verdict_of_grant (prober : Prober) (config : ExecutorConfig) (x : Executor)
    (hx : Executor.new prober config = .ok x) (before : Course) (grant : Instant) (e : Event) (t : ProbeTask)
    (hgrant : (x.run before).Grants grant e t) (hfits : t.target.FitsClock config.grace grant) (after : Course)
    (ha : ∀ e ∈ after, e.2 ≠ .abort) (now : Instant)
    (hpaced : Paced Executor.react LetsClock ((x.run before).react grant e) grant after now) :
    let y := (x.run before).react grant e
    (t.target.InTime config.grace grant (cancelTime? after) now ∧
      ∃ state : TaskState, state.holdsPermit = true ∧ { t with state := state } ∈ (y.run after).tasks) ∨
    ∃ earlier s later c, after = earlier ++ (s, .turn t.number) :: later ∧ (y.run earlier).Ends t s c ∧
      t.target.InTime config.grace grant (cancelTime? after) s ∧
      Settles prober config t grant (y.run earlier) (y.callIn? t (earlier ++ [(s, .turn t.number)])) (cancelTime? earlier) c := by
  intro y
  have hhosts : (x.run before).Hosts prober config := by
    rw [eq_idle_of_new hx]
    exact Hosts.run ⟨numbered_idle prober config, rfl, rfl⟩ before
  have hholds : y.Holds prober config t grant grant none none := by
    rcases hgrant.state_cases hhosts.numbered with ⟨hs, hopen⟩ | hs
    · exact .poised hs hgrant.mem rfl (fun _ hmem => nomatch hmem) (.inl hopen)
    · refine .poised hs hgrant.mem rfl (fun _ hmem => nomatch hmem) ?_
      cases hc : y.cancelled with
      | false => exact .inl rfl
      | true => exact .inr ⟨rfl, rfl⟩
  rcases hholds.run (hhosts.react grant e) hfits ha hpaced with hheld | hended
  · exact .inl ⟨hheld.inTime, hheld.exists_mem⟩
  · exact .inr hended

theorem letsClock_of_lastsUntil (h : now = later ∨ now ≤ later ∧ x.Quiescent now ∧ x.LastsUntil later) :
    x.LetsClock now later := by
  rcases h with rfl | ⟨hle, hq, hlasts⟩
  · exact ⟨Nat.le_refl _, fun _ hle hlt => absurd hlt (Nat.not_lt.mpr hle)⟩
  · exact ⟨hle, fun _ _ hlt => hq.until hlasts hlt⟩

/-- One permit: the first probe never ends, and the second gets the permit when the first has overrun its deadline. It hears of
a cancellation and reports soon after, under another id. -/
theorem verdict_of_grant_second :
    let prober : Prober := fun target _ start context =>
      if target.id = "a" then none
      else match context.cancelledAt with
        | none => some (start.after (.ofMillis 800), .reported (.success "z" (.ofMillis 800) start.wallClock))
        | some stop => some (stop.after (.ofMillis 100), .reported (.cancelled "z" stop.wallClock))
    let target (id : TargetId) : Target := ⟨id, ⟨"localhost", 1⟩, .tcp, .ofSeconds 1, .ofSeconds 1⟩
    let at_ (millis : Nat) : Instant := ⟨(Duration.ofMillis millis).nanos⟩
    let config : ExecutorConfig := ⟨1, 1, .ofMillis 500⟩
    let before : Course := [(at_ 0, .dispatch (target "a") 1), (at_ 0, .dispatch (target "b") 2), (at_ 0, .turn 0)]
    let t : ProbeTask := ⟨1, target "b", 2, .admitted true⟩
    let after : Course := [(at_ 1500, .turn 1), (at_ 1600, .cancel), (at_ 1600, .turn 1), (at_ 1700, .turn 1)]
    let x := (idle prober config).run before
    let y := x.react (at_ 1500) (.turn 0)
    Executor.new prober config = .ok (idle prober config) ∧ x.Grants (at_ 1500) (.turn 0) t ∧
      t.target.FitsClock config.grace (at_ 1500) ∧ (∀ e ∈ after, e.2 ≠ .abort) ∧
      Paced Executor.react LetsClock y (at_ 1500) after (at_ 2200) ∧
      ∃ earlier s later c, after = earlier ++ (s, .turn 1) :: later ∧ (y.run earlier).Ends t s c ∧
        t.target.InTime config.grace (at_ 1500) (some (at_ 1600)) s ∧
        Settles prober config t (at_ 1500) (y.run earlier) (y.callIn? t (earlier ++ [(s, .turn 1)])) (cancelTime? earlier) c := by
  intro prober target at_ config before t after x y
  have hx : Executor.new prober config = .ok (idle prober config) := rfl
  have hgrant : x.Grants (at_ 1500) (.turn 0) t := ⟨by decide +kernel, rfl, by decide +kernel⟩
  have hfits : t.target.FitsClock config.grace (at_ 1500) := by decide +kernel
  have ha : ∀ e ∈ after, e.2 ≠ .abort := by simp [after]
  have hpaced : Paced Executor.react LetsClock y (at_ 1500) after (at_ 2200) := by
    have hsteps : Paced Executor.react
        (fun z now later => now = later ∨ now ≤ later ∧ z.Quiescent now ∧ z.LastsUntil later) y (at_ 1500) after
        (at_ 2200) := by decide +kernel
    exact hsteps.imp fun _ _ _ => letsClock_of_lastsUntil
  refine ⟨hx, hgrant, hfits, ha, hpaced, ?_⟩
  rcases verdict_of_grant prober config _ hx before (at_ 1500) (.turn 0) t hgrant hfits after ha (at_ 2200) hpaced with
    ⟨hinTime, -⟩ | hended
  · exact absurd (hinTime.2 (at_ 1600) rfl) (by decide +kernel)
  · exact hended

end Executor

end TargetHealth
