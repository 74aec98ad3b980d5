import TargetHealth.Proofs.Monitor.Cadence
import TargetHealth.Proofs.Monitor.Room

namespace TargetHealth

namespace Monitor

def Event.Routine : Event → Prop
  | .reload _ _ | .cancel | .halt _ => False
  | _ => True

instance : (e : Event) → Decidable e.Routine
  | .reload _ _ | .cancel | .halt _ => .isFalse id
  | .dispatch | .complete | .turn _ | .arrange _ _ _ _ => .isTrue trivial

theorem Event.Routine.works {e : Event} (h : e.Routine) : e.Works := by
  cases e with
  | reload targets pick | halt phase => exact h
  | dispatch | complete | cancel | turn number | arrange phase stopRequested scheduleChanged agenda => exact trivial

/-- Nothing is left to do at an instant: no task can act, no completion is unread and no target is due. -/
def Rests (m : Monitor) (now : Instant) : Prop :=
  m.executor.Quiescent now ∧ m.executor.completions = [] ∧ m.roster.scheduler.due now = []

instance (m : Monitor) (now : Instant) : Decidable (m.Rests now) :=
  inferInstanceAs (Decidable (m.executor.Quiescent now ∧ m.executor.completions = [] ∧ m.roster.scheduler.due now = []))

end Monitor

namespace Chronicle

def dispatchedAt (id : TargetId) (k : Chronicle) (now : Instant) (e : Monitor.Event) : List Instant :=
  List.replicate ((dispatchedIn (k.monitor.happenings now e) |>.map Prod.fst).count id) now

def dispatchTimes (id : TargetId) (k : Chronicle) : Monitor.Course → List Instant
  | [] => []
  | (now, e) :: es => dispatchedAt id k now e ++ dispatchTimes id (k.react now e) es

def RestsUntil (k : Chronicle) (now later : Instant) : Prop :=
  now ≤ later ∧ ∀ u, now ≤ u → u < later → k.monitor.Rests u

/-- What happens from one chronicle to another has nothing to do with a target. -/
structure Passes (id : TargetId) (k k' : Chronicle) : Prop where
  entry : k'.monitor.roster.scheduler.entry? id = k.monitor.roster.scheduler.entry? id
  mark : k'.monitor.roster.scheduler.inFlight.get? id = k.monitor.roster.scheduler.inFlight.get? id
  counted : counted id k'.past = counted id k.past
  calls : k'.monitor.executor.calls.get? id = k.monitor.executor.calls.get? id
  tasks : ∀ t ∈ k.monitor.executor.tasks, t.target.id = id → t.state.holdsPermit = true → t ∈ k'.monitor.executor.tasks
  completions : ∀ c ∈ k.monitor.executor.completions, c.result.targetId = id → c ∈ k'.monitor.executor.completions
  accounted : ∀ probe ∈ k'.monitor.executor.accounted, probe.1 = id → probe ∈ k.monitor.executor.accounted

variable {id : TargetId} {k : Chronicle} {now : Instant}

theorem Passes.of_eq {k' : Chronicle} (hr : k'.monitor.roster = k.monitor.roster) (hp : k'.past = k.past)
    (ht : k'.monitor.executor.tasks = k.monitor.executor.tasks)
    (hb : k'.monitor.executor.abortedBelow = k.monitor.executor.abortedBelow)
    (hc : k'.monitor.executor.completions = k.monitor.executor.completions)
    (hcalls : k'.monitor.executor.calls = k.monitor.executor.calls) : Passes id k k' where
  entry := by rw [hr]
  mark := by rw [hr]
  counted := by rw [hp]
  calls := by rw [hcalls]
  tasks _ h _ _ := ht ▸ h
  completions _ h _ := hc ▸ h
  accounted _ h _ := by
    simp only [Executor.accounted, Executor.pending, Executor.unread, Executor.live, Executor.aborted, ht, hb, hc] at h
    exact h

theorem Matched.passes_turn (h : k.Matched) {number : Nat}
    (hother : ∀ t ∈ k.monitor.executor.task? number, t.target.id ≠ id) :
    Passes id k (k.react now (.turn number)) := by
  have hpast : counted id (k.react now (.turn number)).past = counted id k.past := counted_lost id (fun p => p) _ _
  have haccounted := Executor.accounted_stepNumber h.numbered number now
  cases ht : k.monitor.executor.task? number with
  | none =>
    have hsame : k.monitor.executor.stepNumber number now = k.monitor.executor := by rw [Executor.stepNumber, ht]
    have hlost : k.monitor.executor.lostBy number now = [] := by rw [Executor.lostBy, ht]
    refine .of_eq rfl ?_ (congrArg _ hsame) (congrArg _ hsame) (congrArg _ hsame) (congrArg _ hsame)
    simp only [Chronicle.react, Monitor.happenings, hlost]
    rfl
  | some t =>
    obtain ⟨hmem, -⟩ := Executor.task?_some ht
    have hne := hother t ht
    have hturns := Executor.turns_stepNumber ht now
    refine ⟨rfl, rfl, hpast, hturns.get?_calls fun hid => absurd hid hne, ?_, ?_, ?_⟩
    · rintro u hu rfl hpermit
      refine hturns.mem_of_ne h.numbered.nodup hmem hu (fun hnumber => hne ?_) hpermit
      exact congrArg (·.target.id) (List.inj_on_of_nodup_map h.numbered.nodup hmem hu hnumber.symm)
    · exact fun c hc _ => hturns.subset_completions hc
    · intro probe hprobe _
      rw [haccounted]
      exact Multiset.mem_add.mpr (.inl hprobe)

theorem Roomy.passes_complete {prober : Prober} {config : ExecutorConfig} {limit : Nat}
    (h : k.Roomy prober config limit now) (hother : ∀ c ∈ k.monitor.executor.completions.head?, c.result.targetId ≠ id) :
    Passes id k (k.react now .complete) := by
  cases hc : k.monitor.executor.completions with
  | nil =>
    rw [react_complete_of_nil hc]
    exact .of_eq rfl rfl rfl rfl rfl rfl
  | cons c unread =>
    have hne : c.result.targetId ≠ id := hother c (by rw [hc]; rfl)
    have hmark := h.matched.get?_of_mem (hc ▸ List.mem_cons_self)
    rw [react_complete_of_cons hc]
    refine ⟨(Roster.frame_complete hmark now).2 id hne.symm, ?_, if_neg fun hid => hne hid.1, rfl, fun _ ht _ _ => ht, ?_, ?_⟩
    · dsimp only
      rw [Roster.inFlight_complete hmark, Table.get?_erase, if_neg hne.symm]
    · rintro c' hc' rfl
      rw [hc] at hc'
      refine (List.mem_cons.mp hc').resolve_left ?_
      rintro rfl
      exact hne rfl
    · intro probe hprobe _
      refine (Multiset.mem_add.mp hprobe).elim (fun hp => Multiset.mem_add.mpr (.inl hp)) fun hu => ?_
      refine Multiset.mem_add.mpr (.inr ?_)
      rw [Executor.unread, hc, List.map_cons]
      exact List.mem_cons_of_mem _ hu

theorem dispatchedAt_eq_nil {e : Monitor.Event} (h : ∀ happening ∈ k.monitor.happenings now e, happening.dispatched? = none)
    (id : TargetId) : dispatchedAt id k now e = [] := by
  rw [dispatchedAt, dispatchedIn, List.filterMap_eq_nil_iff.mpr h]
  rfl

theorem Roomy.dispatchedAt_dispatch {prober : Prober} {config : ExecutorConfig} {limit : Nat}
    (h : k.Roomy prober config limit now) (id : TargetId) :
    dispatchedAt id k now .dispatch = if id ∈ k.monitor.roster.scheduler.due now then [now] else [] := by
  have hids : (dispatchedIn (k.monitor.happenings now .dispatch)).map Prod.fst = k.monitor.roster.scheduler.due now := by
    rw [← h.matched.aligned.ids_batch h.filed, dispatchedIn, Monitor.happenings, List.filterMap_map,
      List.map_filterMap]
    exact congrFun (List.filterMap_eq_map (f := fun b : Target × Nat => b.1.id)) _
  rw [dispatchedAt, hids]
  split
  · rename_i hid
    rw [List.count_eq_one_of_mem (h.filed.nodup_due now) hid]
    rfl
  · rename_i hid
    rw [List.count_eq_zero_of_not_mem hid]
    rfl

end Chronicle

end TargetHealth
