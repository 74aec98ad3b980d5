import TargetHealth.Proofs.Executor.Capacity

namespace TargetHealth.Executor

variable {x : Executor}

/-- The tasks of dispatches that all end up alike, numbered on from some number. -/
def tasksOf (number : Nat) (state : TaskState) : List (Target × Nat) → List ProbeTask
  | [] => []
  | b :: batch => ⟨number, b.1, b.2, state⟩ :: tasksOf (number + 1) state batch

theorem state_of_mem_tasksOf {number : Nat} {state : TaskState} {batch : List (Target × Nat)} {t : ProbeTask}
    (h : t ∈ tasksOf number state batch) : t.state = state := by
  induction batch generalizing number with
  | nil => exact absurd h List.not_mem_nil
  | cons b batch ih =>
    rcases List.mem_cons.mp h with rfl | h
    · rfl
    · exact ih h

/-- The completion of a dispatch for which there is neither a permit nor a place. -/
def turnedAway (now : Instant) (b : Target × Nat) : Completion :=
  ⟨b.2, .skipped b.1.id "probe queue full" now.wallClock, now⟩

def free (x : Executor) : Nat := x.config.maxConcurrency - x.running

def room (x : Executor) : Nat := x.config.maxPending - x.waiting

theorem dispatch_of_free (hc : x.cancelled = false) {target : Target} {epoch : Nat} {now : Instant} (hfree : 0 < x.free) :
    x.dispatch target epoch now = x.spawn target epoch (.admitted false) := by
  have hlt : x.running < x.config.maxConcurrency := Nat.lt_of_sub_pos hfree
  rw [dispatch, if_neg (by rw [hc]; exact Bool.false_ne_true), if_pos hlt]

theorem dispatch_of_room (hc : x.cancelled = false) {target : Target} {epoch : Nat} {now : Instant} (hfree : x.free = 0)
    (hroom : 0 < x.room) :
    x.dispatch target epoch now = { x with waiting := x.waiting + 1 }.spawn target epoch .queued := by
  have hfull : ¬ x.running < x.config.maxConcurrency := Nat.not_lt.mpr (Nat.le_of_sub_eq_zero hfree)
  have hplace : ¬ x.config.maxPending ≤ x.waiting := Nat.not_le.mpr (Nat.lt_of_sub_pos hroom)
  rw [dispatch, if_neg (by rw [hc]; exact Bool.false_ne_true), if_neg hfull, if_neg hplace]

theorem dispatch_of_full (hc : x.cancelled = false) {target : Target} {epoch : Nat} {now : Instant} (hfree : x.free = 0)
    (hroom : x.room = 0) :
    x.dispatch target epoch now = x.send epoch (.skipped target.id "probe queue full" now.wallClock) now := by
  have hfull : ¬ x.running < x.config.maxConcurrency := Nat.not_lt.mpr (Nat.le_of_sub_eq_zero hfree)
  have hplace : x.config.maxPending ≤ x.waiting := Nat.le_of_sub_eq_zero hroom
  rw [dispatch, if_neg (by rw [hc]; exact Bool.false_ne_true), if_neg hfull, if_pos hplace]

theorem running_spawn (x : Executor) (target : Target) (epoch : Nat) (state : TaskState) :
    (x.spawn target epoch state).running = x.running + if state.holdsPermit then 1 else 0 := by
  rw [running, spawn, List.countP_append, List.countP_singleton]
  rfl

theorem free_spawn (x : Executor) (target : Target) (epoch : Nat) :
    (x.spawn target epoch (.admitted false)).free = x.free - 1 := by
  rw [free, free, running_spawn]
  exact Nat.sub_add_eq _ _ _

theorem room_queue (x : Executor) (target : Target) (epoch : Nat) :
    ({ x with waiting := x.waiting + 1 }.spawn target epoch .queued).free = x.free ∧
      ({ x with waiting := x.waiting + 1 }.spawn target epoch .queued).room = x.room - 1 := by
  refine ⟨?_, Nat.sub_add_eq _ _ _⟩
  rw [free, free, running_spawn]
  rfl

/-- A batch, dispatched one after another: who starts, who waits and who is turned away. -/
theorem foldl_dispatch_eq (batch : List (Target × Nat)) (now : Instant) (hc : x.cancelled = false) :
    let y := batch.foldl (fun x b => x.dispatch b.1 b.2 now) x
    let started := tasksOf x.dispatched (.admitted false) (batch.take x.free)
    y.cancelled = false ∧
    y.tasks = x.tasks ++ started ++
      tasksOf (x.dispatched + started.length) .queued ((batch.drop x.free).take x.room) ∧
    y.completions = x.completions ++ (batch.drop (x.free + x.room)).map (turnedAway now) := by
  induction batch generalizing x with
  | nil => simp [tasksOf, hc]
  | cons b batch ih =>
    rw [List.foldl_cons]
    rcases Nat.eq_zero_or_eq_succ_pred x.free with hfree | hfree
    · rcases Nat.eq_zero_or_eq_succ_pred x.room with hroom | hroom
      · -- nothing is left, and the counts stay as they are
        obtain ⟨hcancelled, htasks, hsent⟩ :=
          ih (x := x.send b.2 (.skipped b.1.id "probe queue full" now.wallClock) now) hc
        have hfree' : (x.send b.2 (.skipped b.1.id "probe queue full" now.wallClock) now).free = 0 := hfree
        have hroom' : (x.send b.2 (.skipped b.1.id "probe queue full" now.wallClock) now).room = 0 := hroom
        rw [hfree', hroom'] at htasks hsent
        rw [dispatch_of_full hc hfree hroom, hfree, hroom]
        refine ⟨hcancelled, htasks.trans ?_, hsent.trans ?_⟩
        · simp [tasksOf, Executor.send]
        · simp [turnedAway, Executor.send]
      · obtain ⟨hcancelled, htasks, hsent⟩ :=
          ih (x := { x with waiting := x.waiting + 1 }.spawn b.1 b.2 .queued) hc
        obtain ⟨hfree', hroom'⟩ := x.room_queue b.1 b.2
        rw [hfree', hroom', hfree] at htasks hsent
        rw [dispatch_of_room hc hfree (hroom ▸ Nat.succ_pos _), hfree, hroom]
        refine ⟨hcancelled, htasks.trans ?_, hsent.trans ?_⟩
        · simp [tasksOf, Executor.spawn]
        · simp [Executor.spawn]
    · obtain ⟨hcancelled, htasks, hsent⟩ := ih (x := x.spawn b.1 b.2 (.admitted false)) hc
      have hroom : (x.spawn b.1 b.2 (.admitted false)).room = x.room := rfl
      rw [x.free_spawn, hroom] at htasks hsent
      rw [dispatch_of_free hc (hfree ▸ Nat.succ_pos _), hfree]
      refine ⟨hcancelled, htasks.trans ?_, hsent.trans ?_⟩
      · simp [tasksOf, Executor.spawn, Nat.add_assoc, Nat.add_comm 1]
      · simp [Executor.spawn, Nat.add_right_comm _ 1]

theorem Numbered.stepNumber_of_admitted (h : x.Numbered) {t : ProbeTask} (ht : t ∈ x.live)
    (hs : t.state = .admitted false) (now : Instant) : x.stepNumber t.number now = x.begin t now := by
  simp only [h.stepNumber_of_live ht, step, hs]

theorem Numbered.stepNumber_of_queued (h : x.Numbered) {t : ProbeTask} (ht : t ∈ x.live) (hs : t.state = .queued)
    (hc : x.cancelled = false) (now : Instant) : x.stepNumber t.number now = x := by
  simp only [h.stepNumber_of_live ht, step, hs, hc, Bool.false_eq_true, if_false]

end TargetHealth.Executor
