import TargetHealth.Proofs.Executor.Load
import TargetHealth.Proofs.Monitor.Entries
import TargetHealth.Proofs.Monitor.Views

namespace TargetHealth

namespace Roster

variable {r : Roster}

theorem filed_complete (h : r.scheduler.Filed) {c : Completion}
    (hm : r.scheduler.inFlight.get? c.result.targetId = some c.epoch)
    (he : r.scheduler.epoch? c.result.targetId = some c.epoch) (now : Instant) :
    (r.complete c now).2.scheduler.Filed ∧
      ∀ slot ∈ (r.complete c now).2.scheduler.queue, slot.1 ≤ now →
        slot ∈ r.scheduler.queue ∧ slot.2 ≠ c.result.targetId := by
  obtain ⟨u, -, hsch, -, heq⟩ := complete_eq_reschedule hm he
  have hu : u.scheduler.Filed := hsch ▸ h.withMarks _
  have hqueue : u.scheduler.queue = r.scheduler.queue := by rw [hsch]; rfl
  rw [heq, ← hqueue]
  unfold Roster.reschedule
  split
  · rename_i hr
    exact hu.reschedule hr
  · obtain ⟨hfiled, hold⟩ := hu.interrupt c.result.targetId ((u.store.backoffMultiplier? c.result.targetId).getD 1)
    exact ⟨hfiled, fun slot hslot _ => hold slot hslot⟩

end Roster

theorem Duration.not_isZero_iff {d : Duration} : d.isZero = false ↔ 0 < d.nanos := by
  rw [isZero, beq_eq_false_iff_ne, Nat.pos_iff_ne_zero]

namespace Monitor

/-- What happens while the loop works on one set of targets. -/
def Event.Works : Event → Prop
  | .reload _ _ | .halt _ => False
  | _ => True

instance : (e : Event) → Decidable e.Works
  | .reload _ _ | .halt _ => .isFalse id
  | .dispatch | .complete | .cancel | .turn _ | .arrange _ _ _ _ => .isTrue trivial

theorem abortedBelow_react (m : Monitor) (now : Instant) {e : Event} (he : ∀ phase, e ≠ .halt phase) :
    (m.react now e).executor.abortedBelow = m.executor.abortedBelow := by
  cases e with
  | dispatch =>
    exact List.foldlRecOn (motive := fun x : Executor => x.abortedBelow = m.executor.abortedBelow) _ _ rfl
      fun x hx b _ => (x.fixed_dispatch b.1 b.2 now).2.2.2.trans hx
  | complete =>
    simp only [react]
    split <;> rfl
  | reload targets pick =>
    simp only [react]
    split
    · rename_i hm
      obtain ⟨-, agenda, hx⟩ := reload_eq_ok hm
      rw [hx]
    · rfl
    · rfl
  | turn number => exact (Executor.keeps_stepNumber m.executor number now).abortedBelow
  | halt phase => exact absurd rfl (he phase)
  | cancel | arrange phase stopRequested scheduleChanged agenda => rfl

theorem positive_of_checkTargets {targets : List Target} (h : checkTargets targets = .ok ()) :
    ∀ t ∈ targets, 0 < t.interval.nanos := by
  induction targets with
  | nil => exact fun _ ht => nomatch ht
  | cons t targets ih =>
    unfold checkTargets at h
    split at h
    · cases h
    · rename_i hinterval
      split at h
      · cases h
      · intro u hu
        rcases List.mem_cons.mp hu with rfl | hu
        · exact Duration.not_isZero_iff.mp (Bool.eq_false_iff.mpr hinterval)
        · exact ih h u hu

end Monitor

namespace Chronicle

/-- Every mark is one of a probe and under the present epoch of its target, the due queue has no wrong place, and the executor
keeps to its permits. -/
structure Orderly (k : Chronicle) : Prop where
  matched : k.Matched
  filed : k.monitor.roster.scheduler.Filed
  current : ∀ id n, k.monitor.roster.scheduler.inFlight.get? id = some n →
    k.monitor.roster.scheduler.epoch? id = some n
  staffed : k.monitor.executor.Staffed

variable {k : Chronicle} {now : Instant}

theorem due_dispatchDue (hm : k.Matched) (hf : k.monitor.roster.scheduler.Filed) (now : Instant) :
    (k.monitor.roster.dispatchDue now).2.scheduler.due now = [] := by
  have hkeeps := hm.aligned.dispatchDue_eq now
  have hf' : (k.monitor.roster.dispatchDue now).2.scheduler.Filed := hkeeps ▸ hf.withMarks _
  have hqueue : (k.monitor.roster.dispatchDue now).2.scheduler.queue = k.monitor.roster.scheduler.queue :=
    congrArg (·.scheduler.queue) hkeeps
  refine List.eq_nil_iff_forall_not_mem.mpr fun id hid => ?_
  obtain ⟨time, hplace, hle, hopen⟩ := (hf'.mem_due_iff now id).mp hid
  rw [hqueue] at hplace
  have hmarks (n : Nat) : (k.monitor.roster.dispatchDue now).2.scheduler.inFlight.get? id = some n ↔ _ :=
    hm.aligned.inFlight_dispatchDue_iff (hf.nodup_due now) n
  have hunmarked : k.monitor.roster.scheduler.inFlight.get? id = none := by
    refine Option.eq_none_iff_forall_ne_some.mpr fun n hn => ?_
    rw [(hmarks n).mpr (.inr hn)] at hopen
    cases hopen
  have hdue := (hf.mem_due_iff now id).mpr ⟨time, hplace, hle, hunmarked⟩
  obtain ⟨-, n, -, hepoch⟩ := hm.aligned.exists_of_mem_due hf hdue
  rw [(hmarks n).mpr (.inl ⟨hdue, hepoch⟩)] at hopen
  cases hopen

theorem Orderly.registry_react (h : k.Orderly) (now : Instant) (e : Monitor.Event) (he : e.Works) :
    (k.react now e).monitor.roster.registry = k.monitor.roster.registry := by
  cases e with
  | dispatch => exact (h.matched.aligned.marks_dispatchDue now).1
  | complete =>
    cases hc : k.monitor.executor.completions with
    | nil => rw [react_complete_of_nil hc]
    | cons c unread =>
      have hmark := h.matched.get?_of_mem (hc ▸ List.mem_cons_self)
      rw [react_complete_of_cons hc]
      exact (Roster.complete_of_current hmark (h.current _ _ hmark) now).1
  | reload targets pick | halt phase => exact he.elim
  | cancel | turn number | arrange phase stopRequested scheduleChanged agenda => rfl

theorem Orderly.length_batch (h : k.Orderly) (now : Instant) :
    (k.monitor.roster.dispatchDue now).1.length = (k.monitor.roster.scheduler.due now).length := by
  rw [← h.matched.aligned.ids_batch h.filed, List.length_map]

theorem Orderly.dispatch (h : k.Orderly) (now : Instant) : (k.react now .dispatch).Orderly := by
  have hkeeps : (k.react now .dispatch).monitor.roster = k.monitor.roster.withMarks _ :=
    h.matched.aligned.dispatchDue_eq now
  refine ⟨h.matched.dispatch now, ?_, ?_, ?_⟩
  · rw [hkeeps]
    exact h.filed.withMarks _
  · intro id n hn
    have hepoch : (k.react now .dispatch).monitor.roster.scheduler.epoch? id = k.monitor.roster.scheduler.epoch? id :=
      congrArg (·.scheduler.epoch? id) hkeeps
    rw [hepoch]
    rcases (h.matched.aligned.inFlight_dispatchDue_iff (h.filed.nodup_due now) n).mp hn with ⟨-, hdue⟩ | hold
    · exact hdue
    · exact h.current id n hold
  · exact List.foldlRecOn (motive := Executor.Staffed) _ _ h.staffed fun _ hx b _ => hx.dispatch b.1 b.2 now

theorem Orderly.complete (h : k.Orderly) (now : Instant) :
    (k.react now .complete).Orderly ∧
      (k.react now .complete).monitor.roster.scheduler.due now ⊆ k.monitor.roster.scheduler.due now := by
  cases hc : k.monitor.executor.completions with
  | nil =>
    rw [react_complete_of_nil hc]
    exact ⟨h, List.Subset.refl _⟩
  | cons c unread =>
    have hmark := h.matched.get?_of_mem (hc ▸ List.mem_cons_self)
    have hmatched := h.matched.complete now
    obtain ⟨hfiled, hold⟩ := Roster.filed_complete h.filed hmark (h.current _ _ hmark) now
    rw [react_complete_of_cons hc] at hmatched ⊢
    refine ⟨⟨hmatched, hfiled, fun id n hn => ?_, h.staffed.of_tasks rfl rfl rfl rfl rfl⟩, fun id hid => ?_⟩
    · dsimp only at hn ⊢
      rw [Roster.inFlight_complete hmark, Table.get?_erase] at hn
      rw [Roster.epoch?_complete hmark]
      split at hn
      · cases hn
      · exact h.current id n hn
    · obtain ⟨time, hplace, hle, hopen⟩ := (hfiled.mem_due_iff now id).mp hid
      obtain ⟨hplace, hne⟩ := hold _ hplace hle
      rw [Roster.inFlight_complete hmark, Table.get?_erase, if_neg hne] at hopen
      exact (h.filed.mem_due_iff now id).mpr ⟨time, hplace, hle, hopen⟩

theorem Orderly.length_due_complete (h : k.Orderly) (now : Instant) :
    ((k.react now .complete).monitor.roster.scheduler.due now).length ≤ (k.monitor.roster.scheduler.due now).length := by
  obtain ⟨h', hsub⟩ := h.complete now
  exact (List.subperm_of_subset (h'.filed.nodup_due now) hsub).length_le

theorem Orderly.react (h : k.Orderly) {e : Monitor.Event} (he : e.Works) : (k.react now e).Orderly := by
  cases e with
  | dispatch => exact h.dispatch now
  | complete => exact (h.complete now).1
  | turn number => exact ⟨h.matched.turn now number, h.filed, h.current, h.staffed.stepNumber number now⟩
  | reload targets pick | halt phase => exact he.elim
  | cancel | arrange phase stopRequested scheduleChanged agenda =>
    exact ⟨h.matched.react now _, h.filed, h.current, h.staffed.of_tasks rfl rfl rfl rfl rfl⟩

theorem Orderly.run (h : k.Orderly) {es : Monitor.Course} (hes : ∀ e ∈ es, e.2.Works) : (k.run es).Orderly := by
  rw [run_eq_foldl]
  exact List.foldlRecOn (motive := Orderly) es _ h fun _ hk e he => hk.react (hes e he)

theorem orderly_ofStart {now : Instant} {prober : Prober} {settings : Settings} {targets : List Target}
    {pick : TargetId → Nat} {m : Monitor} (hm : Monitor.start (some now) prober settings targets pick = .ok (.ok m)) :
    (ofStart m).Orderly := by
  obtain ⟨⟨agenda, hx⟩, registry, firstDue, hb, hr⟩ := Monitor.start_eq_ok hm
  obtain ⟨-, -, hreg, hf, -, -⟩ := Roster.start_eq_ok (RegistrySnapshot.keyed_build hb) hr
  obtain ⟨-, hcheck⟩ := Monitor.accepted_of_start hm
  have hviewed : m.roster.Viewed := Roster.viewed_start hb hr
  have hpositive : ∀ id e, m.roster.scheduler.entry? id = some e → 0 < e.baseInterval.nanos := by
    intro id e he
    have hbase : (m.roster.registry.get? id).map (·.interval) = some e.baseInterval := by
      rw [← hviewed.based, Scheduler.base?, he]
      rfl
    obtain ⟨target, htarget, hinterval⟩ := Option.map_eq_some_iff.mp hbase
    rw [hreg] at htarget
    have hlisted := ((RegistrySnapshot.get?_build_iff hb id target).mp htarget).1
    exact hinterval ▸ Monitor.positive_of_checkTargets hcheck target hlisted
  refine ⟨matched_ofStart hm, hviewed.queued.filed hpositive, fun id n hn => ?_, ?_⟩
  · simp only [ofStart, hf, Table.get?_empty] at hn
    cases hn
  · exact hx ▸ (Executor.tallied_idle prober settings.executorConfig).of_tasks rfl rfl rfl rfl rfl

end Chronicle

end TargetHealth
