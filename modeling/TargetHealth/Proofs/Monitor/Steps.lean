import Mathlib.Logic.Relation
import TargetHealth.Proofs.Monitor.Order

namespace TargetHealth

namespace Scheduler

/-- A schedule whose tables are in order, whose queue has no wrong place, and whose epochs have all been opened. -/
structure Tidy (s : Scheduler) : Prop where
  entries : s.entries.Ascending
  marks : s.inFlight.Ascending
  filed : s.Filed
  opened : ∀ id n, s.epoch? id = some n → n ≤ s.lastEpoch

variable {s t : Scheduler}

theorem tidy_new (policy : BackoffPolicy) : (new policy).Tidy where
  entries := Table.ascending_empty
  marks := Table.ascending_empty
  filed := (queued_new policy).filed fun _ _ he => nomatch he
  opened _ _ he := nomatch he

theorem Tidy.withMarks (h : s.Tidy) {marks : Table TargetId Nat} (hmarks : marks.Ascending) :
    Tidy { s with inFlight := marks } := ⟨h.entries, hmarks, h.filed.withMarks marks, h.opened⟩

theorem Tidy.remove (h : s.Tidy) (id : TargetId) : (s.remove id).Tidy where
  entries := ascending_remove h.entries id
  marks := inFlight_remove s id ▸ h.marks
  filed := h.filed.remove id
  opened id' n he := by
    rw [epoch?_remove] at he
    rw [lastEpoch_remove]
    split at he
    · cases he
    · exact h.opened id' n he

theorem Tidy.insert (h : s.Tidy) (id : TargetId) {base : Duration} (hbase : 0 < base.nanos) (firstDue : Instant) :
    (s.insert id base firstDue).Tidy where
  entries := ascending_insert h.entries id base firstDue
  marks := inFlight_insert s id base firstDue ▸ h.marks
  filed := h.filed.insert id hbase firstDue
  opened id' n he := by
    rw [epoch?_insert] at he
    rw [lastEpoch_insert]
    split at he
    · exact (Option.some.inj he).symm.le
    · exact (h.opened id' n he).trans (Nat.le_succ _)

theorem Tidy.finish (h : s.Tidy) (id : TargetId) (epoch : Nat) : (s.finish id epoch).2.Tidy := by
  unfold Scheduler.finish
  split
  · exact h.withMarks (h.marks.erase id)
  · exact h

theorem Tidy.of_retimes (h : s.Tidy) (ht : s.Retimes t) (hentries : t.entries.Ascending) (hfiled : t.Filed) : t.Tidy where
  entries := hentries
  marks := ht.inFlight ▸ h.marks
  filed := hfiled
  opened id n he := ht.lastEpoch ▸ h.opened id n (ht.epochs id ▸ he)

theorem Tidy.reschedule {id : TargetId} {now : Instant} {multiplier : Nat} {entry : Option ScheduleEntry} (h : s.Tidy)
    (hr : s.reschedule id now multiplier = .ok (entry, t)) : t.Tidy :=
  h.of_retimes (retimes_reschedule hr) (ascending_reschedule h.entries hr) (h.filed.reschedule hr).1

theorem Tidy.interrupt (h : s.Tidy) (id : TargetId) (multiplier : Nat) : (s.interrupt id multiplier).Tidy :=
  h.of_retimes (retimes_interrupt s id multiplier) (ascending_interrupt h.entries id multiplier)
    (h.filed.interrupt id multiplier).1

end Scheduler

namespace Roster

structure Tidy (r : Roster) : Prop where
  scheduler : r.scheduler.Tidy
  states : r.store.states.Ascending
  gauges : r.gauges.Ordered

inductive Step : Roster → Roster → Prop
  | mark {r : Roster} {id : TargetId} {n : Nat} {s : Scheduler} (h : r.scheduler.markInFlight id = some (n, s)) :
    Step r { r with scheduler := s }
  | unschedule (r : Roster) (id : TargetId) : Step r { r with scheduler := r.scheduler.remove id }
  | schedule (r : Roster) (id : TargetId) {base : Duration} (h : 0 < base.nanos) (firstDue : Instant) :
    Step r { r with scheduler := r.scheduler.insert id base firstDue }
  | finish (r : Roster) (c : Completion) : Step r (r.finish c).2
  | reschedule (r : Roster) (id : TargetId) (now : Instant) (multiplier : Nat) :
    Step r (r.reschedule id now multiplier).2
  | register {r : Roster} {id : TargetId} {store : StateStore} (h : r.store.register id = .ok store) :
    Step r { r with store := store }
  | forget (r : Roster) (id : TargetId) : Step r { r with store := r.store.remove id }
  | apply (r : Roster) (c : Completion) : Step r (r.apply c).2
  | display (r : Roster) (id : TargetId) (applied : Applied) : Step r (r.display id applied).2
  | announce (r : Roster) (id : TargetId) : Step r { r with gauges := r.gauges.update id .unknown 1 }
  | hide (r : Roster) (id : TargetId) : Step r { r with gauges := r.gauges.remove id }
  | count (r : Roster) (n : Nat) : Step r { r with gauges := r.gauges.setTotal n }
  | install (r : Roster) (snapshot : RegistrySnapshot) : Step r (r.install snapshot)

abbrev Steps : Roster → Roster → Prop := Relation.ReflTransGen Step

variable {r r' : Roster}

theorem Tidy.step (h : r.Tidy) (hs : Step r r') : r'.Tidy := by
  cases hs with
  | mark hm =>
    obtain ⟨-, -, rfl⟩ := Scheduler.markInFlight_eq_some hm
    exact { h with scheduler := h.scheduler.withMarks (h.scheduler.marks.insert _ _) }
  | unschedule id => exact { h with scheduler := h.scheduler.remove id }
  | schedule id hbase firstDue => exact { h with scheduler := h.scheduler.insert id hbase firstDue }
  | finish c => exact { h with scheduler := h.scheduler.finish c.result.targetId c.epoch }
  | reschedule id now multiplier =>
    unfold Roster.reschedule
    split
    · rename_i hr
      exact { h with scheduler := h.scheduler.reschedule hr }
    · exact { h with scheduler := h.scheduler.interrupt id multiplier }
  | register hr => exact { h with states := StateStore.ascending_register h.states hr }
  | forget id => exact { h with states := h.states.erase id }
  | apply c =>
    unfold Roster.apply
    rcases r.store.apply_cases c.result with (heq | heq) | ⟨state, -, heq⟩
    · rw [heq]
      exact h
    · rw [heq]
      exact h
    · rw [heq]
      exact { h with states := h.states.insert _ _ }
  | display id applied =>
    unfold Roster.display
    split
    · exact { h with gauges := h.gauges.update id _ _ }
    · exact h
  | announce id => exact { h with gauges := h.gauges.update id _ _ }
  | hide id => exact { h with gauges := h.gauges.remove id }
  | count n => exact ⟨h.scheduler, h.states, h.gauges.setTotal n⟩
  | install snapshot => exact ⟨h.scheduler, h.states, h.gauges⟩

theorem Tidy.steps (h : r.Tidy) (hs : Steps r r') : r'.Tidy := by
  induction hs with
  | refl => exact h
  | tail _ hlast ih => exact ih.step hlast

theorem tidy_start {registry : Registry} {policy : HealthPolicy} {firstDue : TargetId → Instant}
    (hpos : ∀ t ∈ registry.current.targets.values, 0 < t.interval.nanos)
    (h : Roster.start registry policy firstDue = .ok r) : r.Tidy := by
  obtain ⟨store, hst, heq⟩ := exists_of_bind_eq_ok h
  cases heq
  exact ⟨List.foldlRecOn _ _ (Scheduler.tidy_new policy.backoff) fun _ hs t ht => hs.insert t.id (hpos t ht) _,
    StateStore.ascending_withTargets hst, (TargetMetrics.ordered_empty.setTotal _).foldl_update _⟩

theorem steps_dispatchOne (r : Roster) (id : TargetId) : Steps r (r.dispatchOne id).2 := by
  unfold dispatchOne
  split
  · exact .single (.unschedule r id)
  · split
    · rename_i hm
      exact .single (.mark hm)
    · exact .refl

theorem steps_dispatchDue (r : Roster) (now : Instant) : Steps r (r.dispatchDue now).2 := by
  have hstep (batch : List (Target × Nat)) (u : Roster) (id : TargetId) (hu : Steps r u) :
      Steps r (u.dispatchOne id).2 := hu.trans (u.steps_dispatchOne id)
  exact dispatchAll_induction (P := fun _ u => Steps r u) hstep (r.scheduler.due now) [] r Relation.ReflTransGen.refl

theorem steps_complete (r : Roster) (c : Completion) (now : Instant) : Steps r (r.complete c now).2 := by
  have hfinish : Steps r (r.finish c).2 := .single (.finish r c)
  unfold complete
  split
  · rename_i u hu
    rwa [hu] at hfinish
  · rename_i u hu
    rw [hu] at hfinish
    exact ((hfinish.tail (.apply u c)).tail (.display _ _ _)).tail (.reschedule _ _ now _)

theorem steps_discard (r : Roster) (id : TargetId) : Steps r (r.discard id) :=
  ((Relation.ReflTransGen.single (.unschedule r id)).tail (.forget _ id)).tail (.hide _ id)

theorem steps_foldl_discard (ids : List TargetId) (r : Roster) : Steps r (ids.foldl discard r) :=
  List.foldlRecOn (motive := Steps r) ids _ .refl fun u hu id _ => hu.trans (u.steps_discard id)

theorem withstands_steps {snapshot : RegistrySnapshot} (hpos : ∀ id t, snapshot.get? id = some t → 0 < t.interval.nanos)
    (firstDue : TargetId → Instant) (r : Roster) : Withstands snapshot firstDue (Steps r) where
  schedule u id t ht hu := hu.tail (.schedule u id (hpos id t ht) (firstDue id))
  register _ _ _ _ _ hst hu := hu.tail (.register hst)

theorem steps_announce (r : Roster) (diff : RegistryDiff) (snapshot : RegistrySnapshot) :
    Steps r (r.announce diff snapshot) := by
  have hcount : Steps r { r with gauges := r.gauges.setTotal snapshot.size } := .single (.count r snapshot.size)
  exact List.foldlRecOn (motive := fun g => Steps r { r with gauges := g }) diff.added _ hcount
    fun g hg id _ => hg.tail (.announce { r with gauges := g } id)

theorem positive_of_build {targets : List Target} {generation : Nat} {snapshot : RegistrySnapshot}
    (ht : Monitor.checkTargets targets = .ok ()) (hb : RegistrySnapshot.build generation targets = .ok snapshot) :
    ∀ id t, snapshot.get? id = some t → 0 < t.interval.nanos := fun id t hid =>
  Monitor.positive_of_checkTargets ht t ((RegistrySnapshot.get?_build_iff hb id t).mp hid).1

theorem steps_reload {targets : List Target} {firstDue : TargetId → Instant} {diff : RegistryDiff}
    (ht : Monitor.checkTargets targets = .ok ()) (h : r.reload targets firstDue = .ok (.ok (diff, r'))) : Steps r r' := by
  obtain ⟨snapshot, hb, -, ⟨-, rfl⟩ | ⟨u, hu, rfl⟩⟩ := reload_eq_ok h
  · exact .single (.install r snapshot)
  · exact (Relation.ReflTransGen.single (.install r snapshot)).trans
      (((withstands_steps (positive_of_build ht hb) firstDue _).follow hu (steps_foldl_discard _ _)).trans
        (steps_announce u _ snapshot))

theorem steps_interruptReload {targets : List Target} {firstDue : TargetId → Instant} {fault : Fault}
    (ht : Monitor.checkTargets targets = .ok ()) (h : r.reload targets firstDue = .error fault) :
    Steps r (r.interruptReload targets firstDue) := by
  obtain ⟨snapshot, hb, -, heq⟩ := interruptReload_eq h
  rw [heq]
  exact (withstands_steps (positive_of_build ht hb) firstDue r).enrollSome _ _
    ((Relation.ReflTransGen.single (.install r snapshot)).trans (steps_foldl_discard _ _))

end Roster

namespace Monitor

variable {m : Monitor}

theorem steps_react (m : Monitor) (now : Instant) (e : Event) : Roster.Steps m.roster (m.react now e).roster := by
  cases e with
  | dispatch => exact m.roster.steps_dispatchDue now
  | complete =>
    cases hc : m.executor.completions with
    | nil =>
      simp only [react, hc]
      exact .refl
    | cons c unread =>
      rw [react_complete hc]
      exact m.roster.steps_complete c now
  | reload targets pick =>
    cases hr : m.reload targets now pick with
    | error fault =>
      simp only [react, hr]
      obtain ⟨ht, hroster⟩ := reload_eq_error hr
      exact Roster.steps_interruptReload ht hroster
    | ok answer =>
      cases answer with
      | error e =>
        simp only [react, hr]
        exact .refl
      | ok answer =>
        simp only [react, hr]
        exact Roster.steps_reload (checkTargets_of_reload hr) (reload_eq_ok hr).1
  | cancel | turn number | halt phase | arrange phase stopRequested scheduleChanged agenda => exact .refl

theorem steps_run (m : Monitor) (es : Course) : Roster.Steps m.roster (m.run es).roster := by
  induction es generalizing m with
  | nil => exact .refl
  | cons e es ih => exact (m.steps_react e.1 e.2).trans (ih _)

theorem tidy_of_start {now : Instant} {prober : Prober} {settings : Settings} {targets : List Target}
    {pick : TargetId → Nat} (hm : start (some now) prober settings targets pick = .ok (.ok m)) : m.roster.Tidy := by
  obtain ⟨registry, roster, hb, hr, rfl⟩ := eq_of_start hm
  refine Roster.tidy_start (fun t ht => ?_) hr
  obtain ⟨e, he, rfl⟩ := List.mem_map.mp ht
  have hlisted : (e.1, e.2) ∈ targets.map fun t => (t.id, t) := (RegistrySnapshot.perm_build hb).mem_iff.mp he
  obtain ⟨t, ht, heq⟩ := List.mem_map.mp hlisted
  exact congrArg Prod.snd heq ▸ positive_of_checkTargets (accepted_of_start hm).2 t ht

end Monitor

end TargetHealth
