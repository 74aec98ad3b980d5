import TargetHealth.Proofs.Executor.Rest

namespace TargetHealth

namespace Executor

variable {x y : Executor} {t : ProbeTask} {now : Instant}

/-- Probes that hold a permit and probes that wait. One that has yet to begin with its permit counts as both. -/
def loadIn (ts : List ProbeTask) : Nat := ts.countP (·.state.holdsPermit) + ts.countP (·.state.waits)

theorem loadIn_cons (t : ProbeTask) (ts : List ProbeTask) :
    loadIn (t :: ts) =
      loadIn ts + (if t.state.holdsPermit then 1 else 0) + if t.state.waits then 1 else 0 := by
  rw [loadIn, loadIn, List.countP_cons, List.countP_cons]
  omega

theorem lt_loadIn_cons (t : ProbeTask) (ts : List ProbeTask) : loadIn ts < loadIn (t :: ts) := by
  have hcounts : t.state.holdsPermit = true ∨ t.state.waits = true := by
    cases t.state with
    | queued => exact .inr rfl
    | admitted waited | running probe => exact .inl rfl
  rw [loadIn_cons]
  rcases hcounts with h | h
  · rw [if_pos h]
    omega
  · rw [if_pos h]
    omega

theorem loadIn_perm {ts ts' : List ProbeTask} (h : ts.Perm ts') : loadIn ts = loadIn ts' := by
  rw [loadIn, loadIn, h.countP_eq, h.countP_eq]

theorem loadIn_handOverIn_le {ts : List ProbeTask} (hn : (ts.map ProbeTask.number).Nodup) :
    loadIn (handOverIn ts) ≤ loadIn ts + 1 := by
  rcases handOverIn_cases hn with ⟨-, heq⟩ | ⟨u, -, hq, hold, hnew⟩
  · rw [heq]
    exact Nat.le_succ _
  · rw [loadIn_perm hnew, loadIn_perm hold, loadIn_cons, loadIn_cons, hq]
    exact Nat.le_refl _

def load (x : Executor) : Nat := loadIn x.tasks

theorem running_add_waits_le_load (x : Executor) : x.running + x.waits ≤ x.load :=
  Nat.add_le_add_left (List.filter_sublist.countP_le) _

theorem Turns.load_le (h : x.Turns t now y) (hn : (x.tasks.map ProbeTask.number).Nodup) (ht : t ∈ x.tasks) :
    y.load ≤ x.load := by
  have hdrop : loadIn (dropIn t.number x.tasks) < x.load := by
    rw [load, loadIn_perm (perm_dropIn hn ht)]
    exact lt_loadIn_cons t _
  have hover := loadIn_handOverIn_le (hn.sublist (List.filter_sublist (p := fun u => u.number ≠ t.number) |>.map _))
  have hset (p : RunningProbe) : loadIn (setIn t.number (.running p) x.tasks) ≤ x.load := by
    rw [loadIn_perm (perm_setIn hn ht (.running p)), loadIn_cons]
    exact hdrop
  cases h with
  | waits _ _ heq => rw [heq]
  | givesUp _ _ tasks | leaves _ tasks =>
    rcases tasks with htasks | htasks
    · rw [load, htasks]
      omega
    · rw [load, htasks]
      exact hover.trans hdrop
  | loses _ _ tasks | reports _ _ _ _ tasks =>
    rw [load, tasks]
    exact hover.trans hdrop
  | runsOn p _ _ tasks =>
    rw [load, tasks]
    exact hset p

theorem load_stepNumber_le (h : x.Numbered) (number : Nat) (now : Instant) : (x.stepNumber number now).load ≤ x.load := by
  cases ht : x.task? number with
  | none => rw [stepNumber, ht]
  | some t => exact (turns_stepNumber ht now).load_le h.nodup (task?_some ht).1

theorem loadIn_spawn (x : Executor) (target : Target) (epoch : Nat) {state : TaskState}
    (hs : state = .queued ∨ state = .admitted false) : (x.spawn target epoch state).load = x.load + 1 := by
  have hperm := loadIn_perm (List.perm_append_singleton (⟨x.dispatched, target, epoch, state⟩ : ProbeTask) x.tasks)
  rw [loadIn_cons] at hperm
  rcases hs with rfl | rfl
  · exact hperm
  · exact hperm

theorem Staffed.dispatch_of_room (h : x.Staffed) (target : Target) (epoch : Nat) (now : Instant)
    (hroom : x.load < x.config.maxConcurrency + x.config.maxPending) :
    let y := x.dispatch target epoch now
    y.load ≤ x.load + 1 ∧ y.config = x.config ∧ y.prober = x.prober ∧ y.cancelled = x.cancelled ∧
      (x.cancelled = false → y.completions = x.completions) ∧
      ∀ c ∈ y.completions, c ∈ x.completions ∨ c.result.outcome = .cancelled := by
  intro y
  cases hc : x.cancelled with
  | true =>
    have hy : y = x.send epoch (.cancelled target.id now.wallClock) now := if_pos hc
    rw [hy]
    refine ⟨Nat.le_succ _, rfl, rfl, hc, (fun hn => nomatch hn), fun c hmem => ?_⟩
    refine (List.mem_append.mp hmem).imp_right fun hnew => ?_
    rw [List.mem_singleton.mp hnew]
    rfl
  | false =>
    rcases h.dispatch_cases hc target epoch now with
      ⟨-, heq⟩ | ⟨-, -, heq⟩ | ⟨hrunning, hwaits, -⟩
    · rw [show y = _ from heq]
      exact ⟨Nat.le_of_eq (loadIn_spawn _ _ _ (.inr rfl)), rfl, rfl, hc, fun _ => rfl, fun _ hmem => .inl hmem⟩
    · rw [show y = _ from heq]
      exact ⟨Nat.le_of_eq (loadIn_spawn _ _ _ (.inl rfl)), rfl, rfl, hc, fun _ => rfl, fun _ hmem => .inl hmem⟩
    · have hload := x.running_add_waits_le_load
      omega

theorem Staffed.foldl_dispatch (batch : List (Target × Nat)) (now : Instant) (h : x.Staffed)
    (hroom : x.load + batch.length ≤ x.config.maxConcurrency + x.config.maxPending) :
    let y := batch.foldl (fun x b => x.dispatch b.1 b.2 now) x
    y.Staffed ∧ y.load ≤ x.load + batch.length ∧ y.config = x.config ∧ y.prober = x.prober ∧
      (x.cancelled = false → y.completions = x.completions) ∧
      ∀ c ∈ y.completions, c ∈ x.completions ∨ c.result.outcome = .cancelled := by
  induction batch generalizing x with
  | nil => exact ⟨h, Nat.le_refl _, rfl, rfl, fun _ => rfl, fun _ hc => .inl hc⟩
  | cons b batch ih =>
    rw [List.length_cons] at hroom
    obtain ⟨hload, hconfig, hprober, hcancelled, hkept, hsent⟩ := h.dispatch_of_room b.1 b.2 now (by omega)
    obtain ⟨hstaffed, hload', hconfig', hprober', hkept', hsent'⟩ :=
      ih (h.dispatch b.1 b.2 now) (by rw [hconfig]; omega)
    refine ⟨hstaffed, ?_, hconfig'.trans hconfig, hprober'.trans hprober, ?_, ?_⟩
    · rw [List.length_cons]
      exact hload'.trans (by omega)
    · exact fun hc => (hkept' (hcancelled.trans hc)).trans (hkept hc)
    · intro c hc
      exact (hsent' c hc).elim (hsent c) .inr

theorem Staffed.foldl_admit (batch : List (Target × Nat)) (now : Instant) (h : x.Staffed) (hc : x.cancelled = false)
    (hroom : x.load + batch.length ≤ x.config.maxConcurrency) :
    let y := batch.foldl (fun x b => x.dispatch b.1 b.2 now) x
    y.cancelled = false ∧ y.completions = x.completions ∧ y.calls = x.calls ∧ x.tasks ⊆ y.tasks ∧
      ∀ b ∈ batch, ∃ t ∈ y.tasks, t.target = b.1 ∧ t.epoch = b.2 ∧ t.state = .admitted false := by
  induction batch generalizing x with
  | nil => exact ⟨hc, rfl, rfl, List.Subset.refl _, fun _ hb => nomatch hb⟩
  | cons b batch ih =>
    rw [List.length_cons] at hroom
    have hfree : x.running < x.config.maxConcurrency := by
      have hload := x.running_add_waits_le_load
      omega
    have hone : x.dispatch b.1 b.2 now = x.spawn b.1 b.2 (.admitted false) := by
      rw [Executor.dispatch, if_neg (by rw [hc]; exact Bool.false_ne_true), if_pos hfree]
    have hstaffed := h.dispatch b.1 b.2 now
    rw [hone] at hstaffed
    have hload : (x.spawn b.1 b.2 (.admitted false)).load = x.load + 1 := loadIn_spawn x b.1 b.2 (.inr rfl)
    have hfits : x.load + 1 + batch.length ≤ x.config.maxConcurrency := by omega
    obtain ⟨hcancelled, hsent, hcalls, hkept, hadmitted⟩ := ih hstaffed hc (hload.symm ▸ hfits)
    dsimp only
    rw [List.foldl_cons, hone]
    refine ⟨hcancelled, hsent, hcalls, fun t ht => hkept (List.mem_append_left _ ht), fun b' hb' => ?_⟩
    rcases List.mem_cons.mp hb' with rfl | hb'
    · exact ⟨_, hkept (List.mem_append_right _ (List.mem_singleton_self _)), rfl, rfl, rfl⟩
    · exact hadmitted b' hb'

theorem Staffed.load_eq_of_quiescent (h : x.Staffed) {now : Instant} (hq : x.Quiescent now) :
    x.load = x.tasks.length := by
  have honce : ∀ t ∈ x.tasks, t.state ≠ .admitted true := by
    intro t ht hs
    rcases hq.task_cases h.numbered ht with ⟨hqueued, -⟩ | ⟨p, hrunning, -⟩
    · rw [hqueued] at hs
      cases hs
    · rw [hrunning] at hs
      cases hs
  rw [load]
  generalize x.tasks = ts at honce
  induction ts with
  | nil => rfl
  | cons t ts ih =>
    have ht := honce t List.mem_cons_self
    rw [loadIn_cons, ih fun u hu => honce u (List.mem_cons_of_mem _ hu)]
    cases hs : t.state with
    | admitted waited =>
      cases waited with
      | false => rfl
      | true => exact absurd hs ht
    | queued | running => rfl

end Executor

end TargetHealth
