import TargetHealth.Executor.Run
import TargetHealth.Proofs.Executor.Accounting
import TargetHealth.Proofs.Time.Agenda

namespace TargetHealth.Executor

inductive Event where
  | dispatch (target : Target) (epoch : Nat)
  | turn (number : Nat)
  | cancel
  | read
  /-- It is arranged anew who has the next turns, and when. -/
  | arrange (agenda : Agenda Party)
  | abort

abbrev Course := List (Instant × Event)

def react (x : Executor) (now : Instant) : Event → Executor
  | .dispatch target epoch => x.dispatch target epoch now
  | .turn number => x.stepNumber number now
  | .cancel => x.cancel
  | .read => { x with completions := x.completions.tail }
  | .arrange agenda => { x with agenda := agenda }
  | .abort => x.abortAll

namespace Event

def dispatches : Event → List ProbeLabel
  | dispatch target epoch => [(target.id, epoch)]
  | _ => []

def reads (x : Executor) : Event → List Completion
  | read => x.completions.take 1
  | _ => []

/-- The probes that an event takes away: those that an abort stops, and one that begins when the clock has no room for
it. -/
def loses (x : Executor) (now : Instant) : Event → List ProbeLabel
  | turn number => x.lostBy number now
  | abort => x.live.map ProbeTask.label
  | _ => []

/-- The clock has room for the probe that an event begins, if it begins one. -/
def FitsClock (x : Executor) (now : Instant) : Event → Prop
  | turn number => x.FitsTurn number now
  | _ => True

end Event

def run (x : Executor) : Course → Executor
  | [] => x
  | (now, e) :: es => run (x.react now e) es

def dispatchesIn (es : Course) : List ProbeLabel := es.flatMap (·.2.dispatches)

def readsIn (x : Executor) : Course → List Completion
  | [] => []
  | (now, e) :: es => e.reads x ++ readsIn (x.react now e) es

def lossesIn (x : Executor) : Course → List ProbeLabel
  | [] => []
  | (now, e) :: es => e.loses x now ++ lossesIn (x.react now e) es

/-- Every probe that begins in a course does so when the clock has room for its deadline and the grace past it. -/
def DeadlinesFit (x : Executor) : Course → Prop
  | [] => True
  | (now, e) :: es => e.FitsClock x now ∧ DeadlinesFit (x.react now e) es

instance (x : Executor) (now : Instant) : (e : Event) → Decidable (e.FitsClock x now)
  | .turn number => inferInstanceAs (Decidable (x.FitsTurn number now))
  | .dispatch _ _ | .cancel | .read | .arrange _ | .abort => .isTrue trivial

instance decidableDeadlinesFit (x : Executor) : (es : Course) → Decidable (x.DeadlinesFit es)
  | [] => .isTrue trivial
  | (now, e) :: es =>
    have := decidableDeadlinesFit (x.react now e) es
    inferInstanceAs (Decidable (e.FitsClock x now ∧ (x.react now e).DeadlinesFit es))

theorem Numbered.react {x : Executor} (h : x.Numbered) (now : Instant) (e : Event) : (x.react now e).Numbered := by
  cases e with
  | dispatch target epoch => exact h.dispatch target epoch now
  | turn number => exact (keeps_stepNumber x number now).numbered h
  | cancel => exact h.of_tasks rfl rfl rfl
  | read => exact h.of_tasks rfl rfl rfl
  | arrange agenda => exact h.of_tasks rfl rfl rfl
  | abort => exact h.abortAll

theorem accounted_react {x : Executor} (h : x.Numbered) (now : Instant) (e : Event) :
    x.accounted + (e.dispatches : Multiset ProbeLabel) =
      (x.react now e).accounted + ((e.reads x).map Completion.label : Multiset ProbeLabel) +
        (e.loses x now : Multiset ProbeLabel) := by
  cases e with
  | dispatch target epoch =>
    simp only [Event.dispatches, Event.reads, Event.loses, List.map_nil, Multiset.coe_nil, add_zero]
    rw [Multiset.coe_singleton, add_comm, Multiset.singleton_add]
    exact (accounted_dispatch h target epoch now).symm
  | turn number =>
    simp only [Event.dispatches, Event.reads, Event.loses, List.map_nil, Multiset.coe_nil, add_zero]
    exact accounted_stepNumber h number now
  | read =>
    simp only [Event.dispatches, Event.reads, Event.loses, Multiset.coe_nil, add_zero]
    exact accounted_read x
  | abort =>
    simp only [Event.dispatches, Event.reads, Event.loses, List.map_nil, Multiset.coe_nil, add_zero]
    exact accounted_abortAll h
  | cancel | arrange agenda =>
    simp only [Event.dispatches, Event.reads, Event.loses, List.map_nil, Multiset.coe_nil, add_zero]
    rfl

/-- Whatever is dispatched in a course is accounted for at its end, or was read or taken away in it. -/
theorem accounted_run {x : Executor} (h : x.Numbered) (es : Course) :
    x.accounted + (dispatchesIn es : Multiset ProbeLabel) =
      (x.run es).accounted + ((readsIn x es).map Completion.label : Multiset ProbeLabel) +
        (lossesIn x es : Multiset ProbeLabel) := by
  induction es generalizing x with
  | nil => simp only [dispatchesIn, List.flatMap_nil, run, readsIn, lossesIn, List.map_nil, Multiset.coe_nil, add_zero]
  | cons e es ih =>
    obtain ⟨now, e⟩ := e
    have hstep := accounted_react h now e
    have hrest := ih (h.react now e)
    have hd : dispatchesIn ((now, e) :: es) = e.dispatches ++ dispatchesIn es := List.flatMap_cons
    simp only [hd, run, readsIn, lossesIn, List.map_append, ← Multiset.coe_add]
    rw [← add_assoc, hstep, add_right_comm, add_right_comm (x.react now e).accounted, hrest]
    simp only [add_assoc, add_comm, add_left_comm]

theorem loses_eq_nil {x : Executor} {now : Instant} {e : Event} (hf : e.FitsClock x now) (ha : e ≠ .abort) :
    e.loses x now = [] := by
  cases e with
  | turn number => exact (lostBy_eq_nil_iff x number now).mpr hf
  | abort => exact absurd rfl ha
  | dispatch target epoch => rfl
  | cancel | read | arrange agenda => rfl

theorem lossesIn_eq_nil (x : Executor) (es : Course) (hf : x.DeadlinesFit es) (ha : ∀ e ∈ es, e.2 ≠ .abort) :
    lossesIn x es = [] := by
  induction es generalizing x with
  | nil => rfl
  | cons e es ih =>
    obtain ⟨now, e⟩ := e
    have he : e.loses x now = [] := loses_eq_nil hf.1 (ha (now, e) List.mem_cons_self)
    rw [lossesIn, he, List.nil_append]
    exact ih _ hf.2 fun e he => ha e (List.mem_cons_of_mem _ he)

theorem run_append (x : Executor) (es es' : Course) : x.run (es ++ es') = (x.run es).run es' := by
  induction es generalizing x with
  | nil => rfl
  | cons e es ih => exact ih _

def Event.IsOwn : Event → Prop
  | turn _ | arrange _ => True
  | _ => False

/-- An executor left to itself between two instants can become another. -/
def LeadsTo (now limit : Instant) (x y : Executor) : Prop :=
  ∃ es : Course, (∀ e ∈ es, now.nanos ≤ e.1.nanos ∧ e.1.nanos ≤ limit.nanos ∧ e.2.IsOwn) ∧ y = x.run es

theorem LeadsTo.react {now limit t : Instant} {x y : Executor} {e : Event} (h : x.LeadsTo now limit y) (he : e.IsOwn)
    (hge : now.nanos ≤ t.nanos) (hle : t.nanos ≤ limit.nanos) : x.LeadsTo now limit (y.react t e) := by
  obtain ⟨es, hes, rfl⟩ := h
  refine ⟨es ++ [(t, e)], ?_, by rw [run_append]; rfl⟩
  intro e' he'
  rcases List.mem_append.mp he' with he' | he'
  · exact hes e' he'
  · rw [List.mem_singleton.mp he']
    exact ⟨hge, hle, he⟩

theorem leadsTo_runUntil (x : Executor) (now limit : Instant) :
    x.LeadsTo now ⟨max now.nanos limit.nanos⟩ (x.runUntil now limit) := by
  have hx : x.LeadsTo now ⟨max now.nanos limit.nanos⟩ x := ⟨[], by simp, rfl⟩
  refine actors.runUntil_preserves (P := x.LeadsTo now ⟨max now.nanos limit.nanos⟩) _ limit now ?_ ?_ x hx
  · intro t hge hle party y hy
    cases party with
    | reader => exact hy
    | task number => exact hy.react (e := .turn number) trivial hge hle
  · intro agenda y hy
    exact hy.react (e := .arrange agenda) trivial (Nat.le_refl _) (Nat.le_max_left _ _)

theorem abortedBelow_react (x : Executor) (now : Instant) {e : Event} (ha : e ≠ .abort) :
    (x.react now e).abortedBelow = x.abortedBelow := by
  cases e with
  | dispatch target epoch => exact (x.fixed_dispatch target epoch now).2.2.2
  | turn number => exact (keeps_stepNumber x number now).abortedBelow
  | cancel | read | arrange agenda => rfl
  | abort => exact absurd rfl ha

theorem live_run_eq_tasks {x : Executor} (h : x.abortedBelow = 0) (es : Course) (ha : ∀ e ∈ es, e.2 ≠ .abort) :
    (x.run es).live = (x.run es).tasks := by
  induction es generalizing x with
  | nil => exact live_eq_tasks h
  | cons e es ih =>
    have hstep := (abortedBelow_react x e.1 (ha e List.mem_cons_self)).trans h
    exact ih hstep fun e he => ha e (List.mem_cons_of_mem _ he)

/-- Every dispatch leads to exactly one completion, of its own target and epoch: after every course without an abort in
which all deadlines fit the clock, the completions sent and the tasks that wait or run are the dispatches. -/
theorem one_completion_per_dispatch (prober : Prober) (config : ExecutorConfig) (x : Executor)
    (hx : Executor.new prober config = .ok x) (es : Course) (ha : ∀ e ∈ es, e.2 ≠ .abort) (hf : x.DeadlinesFit es) :
    ((readsIn x es ++ (x.run es).completions).map Completion.label : Multiset ProbeLabel) +
      ((x.run es).tasks.map ProbeTask.label : Multiset ProbeLabel) = (dispatchesIn es : Multiset ProbeLabel) := by
  have h := accounted_run (eq_idle_of_new hx ▸ numbered_idle prober config) es
  have h0 : x.accounted = 0 := eq_idle_of_new hx ▸ rfl
  rw [h0, zero_add, lossesIn_eq_nil x es hf ha, Multiset.coe_nil, add_zero] at h
  have hlive : (x.run es).live = (x.run es).tasks := live_run_eq_tasks (eq_idle_of_new hx ▸ rfl) es ha
  rw [h, accounted, pending, hlive, List.map_append, ← Multiset.coe_add, add_assoc, add_comm,
    add_comm (Multiset.ofList _) (Multiset.ofList _)]
  rfl

/-- One permit and one place to wait: the first probe panics, the second is cancelled when the permit comes to it, the
third finds the queue full, and the fourth comes after the cancellation. -/
theorem one_completion_per_dispatch_four_endings :
    let prober : Prober := fun _ _ start _ => some (start, .panicked)
    let target (id : TargetId) : Target := ⟨id, ⟨"localhost", 1⟩, .tcp, .ofSeconds 1, .ofSeconds 1⟩
    let es : Course := [(⟨0⟩, .dispatch (target "a") 1), (⟨0⟩, .dispatch (target "b") 2), (⟨0⟩, .dispatch (target "c") 3),
      (⟨1⟩, .turn 0), (⟨1⟩, .read), (⟨2⟩, .cancel), (⟨2⟩, .turn 1), (⟨3⟩, .dispatch (target "d") 4)]
    let x := idle prober ⟨1, 1, .ofMillis 500⟩
    Executor.new prober ⟨1, 1, .ofMillis 500⟩ = .ok x ∧ (∀ e ∈ es, e.2 ≠ .abort) ∧ x.DeadlinesFit es ∧
      ((readsIn x es ++ (x.run es).completions).map Completion.label : Multiset ProbeLabel) +
        ((x.run es).tasks.map ProbeTask.label : Multiset ProbeLabel) = {("a", 1), ("b", 2), ("c", 3), ("d", 4)} := by
  intro prober target es x
  have hx : Executor.new prober ⟨1, 1, .ofMillis 500⟩ = .ok x := rfl
  have ha : ∀ e ∈ es, e.2 ≠ .abort := by simp [es]
  have hf : x.DeadlinesFit es := by decide
  exact ⟨hx, ha, hf, one_completion_per_dispatch prober _ x hx es ha hf⟩

end TargetHealth.Executor
