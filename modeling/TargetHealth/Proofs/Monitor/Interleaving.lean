import TargetHealth.Proofs.Monitor.Holdings

namespace TargetHealth

/-- The places between the steps of a completion. -/
inductive Gap where
  | finished
  | applied
  | displayed
deriving DecidableEq

namespace Roster

def reloaded? (targets : List Target) (firstDue : TargetId → Instant) (r : Roster) : Option Roster :=
  match r.reload targets firstDue with
  | .ok (.ok (_, r)) => some r
  | _ => none

/-- A completion with something else in between. Where the result counts no longer, the completion ends with its first
step. -/
def completeAround (r : Roster) (c : Completion) (now : Instant) (gap : Gap) (other : Roster → Option Roster) :
    Option Roster :=
  match r.finish c with
  | (false, r) => other r
  | (true, r) => do
    let r ← (if gap = .finished then other r else some r)
    let (applied, r) := r.apply c
    let r ← (if gap = .applied then other r else some r)
    let (multiplier, r) := r.display c.result.targetId applied
    let r ← (if gap = .displayed then other r else some r)
    some (r.reschedule c.result.targetId now multiplier).2

theorem completeAround_some (r : Roster) (c : Completion) (now : Instant) (gap : Gap) :
    r.completeAround c now gap some = some (r.complete c now).2 := by
  unfold completeAround complete
  generalize r.finish c = finished
  obtain ⟨current, u⟩ := finished
  cases current with
  | false => rfl
  | true => cases gap <;> rfl

end Roster

namespace Holding

/-- A completion at its target, with something else in between. -/
def completeAround (h : Holding) (f : Frame) (c : Completion) (now : Instant) (gap : Gap) (other : Holding → Holding) :
    Holding :=
  match h.report c.epoch with
  | (false, h) => other h
  | (true, h) =>
    let h := if gap = .finished then other h else h
    let (applied, h) := h.apply f.policy c.result
    let h := if gap = .applied then other h else h
    let (multiplier, h) := h.display applied
    let h := if gap = .displayed then other h else h
    h.reschedule f.backoff now multiplier

variable {h : Holding}

theorem state_report (h : Holding) (epoch : Nat) : (h.report epoch).2.state = h.state := by
  unfold report
  split <;> rfl

theorem isSome_state_apply (h : Holding) (policy : HealthPolicy) (result : ProbeResult) :
    (h.apply policy result).2.state.isSome = h.state.isSome := by
  unfold apply
  split
  · rfl
  · split
    · rfl
    · rename_i hs
      rw [hs]
      rfl

theorem state_display (h : Holding) (applied : Applied) : (h.display applied).2.state = h.state := by
  unfold display
  split <;> rfl

theorem entry_display (h : Holding) (applied : Applied) : (h.display applied).2.entry = h.entry := by
  unfold display
  split <;> rfl

theorem entry_apply (h : Holding) (policy : HealthPolicy) (result : ProbeResult) :
    (h.apply policy result).2.entry = h.entry := by
  unfold apply
  split
  · rfl
  · split <;> rfl

theorem state_reschedule (h : Holding) (policy : BackoffPolicy) (now : Instant) (multiplier : Nat) :
    (h.reschedule policy now multiplier).state = h.state := by
  unfold reschedule
  split
  · rfl
  · dsimp only
    split <;> rfl

theorem isSome_state_complete (h : Holding) (f : Frame) (c : Completion) (now : Instant) :
    (h.complete f c now).state.isSome = h.state.isSome := by
  have hreport := h.state_report c.epoch
  unfold complete
  split
  · rename_i h' heq
    rw [heq] at hreport
    exact congrArg Option.isSome hreport
  · rename_i h' heq
    rw [heq] at hreport
    dsimp only
    rw [state_reschedule, state_display, isSome_state_apply, hreport]

theorem completeAround_of_stale {c : Completion} (hstale : (h.report c.epoch).1 = false) (f : Frame) (now : Instant)
    (gap : Gap) (other : Holding → Holding) : h.completeAround f c now gap other = other (h.complete f c now) := by
  unfold completeAround complete
  generalize h.report c.epoch = reported at hstale ⊢
  obtain ⟨current, h⟩ := reported
  obtain rfl : current = false := hstale
  rfl

theorem completeAround_of_self (h : Holding) (f : Frame) (c : Completion) (now : Instant) (gap : Gap)
    {other : Holding → Holding} (hself : ∀ h, other h = h) : h.completeAround f c now gap other = h.complete f c now := by
  obtain rfl : other = id := funext hself
  unfold completeAround complete
  generalize h.report c.epoch = reported
  obtain ⟨current, h⟩ := reported
  cases current with
  | false => rfl
  | true => cases gap <;> rfl

theorem apply_clear (h : Holding) (policy : HealthPolicy) (result : ProbeResult) :
    ∃ applied, h.clear.apply policy result = (applied, h.clear) ∧ (h.clear.display applied).2 = h.clear := by
  unfold apply
  split
  · exact ⟨_, rfl, rfl⟩
  · exact ⟨_, rfl, rfl⟩

theorem reschedule_of_unscheduled (he : h.entry = none) (policy : BackoffPolicy) (now : Instant) (multiplier : Nat) :
    h.reschedule policy now multiplier = h := by
  rw [reschedule, he]

theorem clear_apply (h : Holding) (policy : HealthPolicy) (result : ProbeResult) :
    (h.apply policy result).2.clear = h.clear := by
  unfold apply
  split
  · rfl
  · split <;> rfl

theorem clear_display (h : Holding) (applied : Applied) : (h.display applied).2.clear = h.clear := by
  unfold display
  split <;> rfl

theorem clear_reschedule (h : Holding) (policy : BackoffPolicy) (now : Instant) (multiplier : Nat) :
    (h.reschedule policy now multiplier).clear = h.clear := by
  unfold reschedule
  split
  · rfl
  · dsimp only
    split <;> rfl

theorem clear_complete (h : Holding) (f : Frame) (c : Completion) (now : Instant) :
    (h.complete f c now).clear = (h.report c.epoch).2.clear := by
  unfold complete
  split
  · rename_i heq
    rw [heq]
  · rename_i heq
    rw [heq, clear_reschedule, clear_display, clear_apply]

/-- What a reload that takes the target out leaves of it when it comes between two steps of a completion. -/
theorem completeAround_clear {c : Completion} (hcurrent : (h.report c.epoch).1 = true) (f : Frame) (now : Instant)
    (gap : Gap) : h.completeAround f c now gap clear =
      if gap = .applied then ((h.complete f c now).clear.display ((h.report c.epoch).2.apply f.policy c.result).1).2
      else (h.complete f c now).clear := by
  rw [clear_complete]
  unfold completeAround
  generalize h.report c.epoch = reported at hcurrent ⊢
  obtain ⟨current, h⟩ := reported
  obtain rfl : current = true := hcurrent
  cases gap with
  | finished =>
    obtain ⟨applied, happly, hdisplay⟩ := h.apply_clear f.policy c.result
    simp only [reduceCtorEq, if_true, if_false, happly, hdisplay]
    exact reschedule_of_unscheduled rfl _ _ _
  | applied =>
    simp only [reduceCtorEq, if_true, if_false, clear_apply]
    exact reschedule_of_unscheduled (entry_display _ _) _ _ _
  | displayed =>
    simp only [reduceCtorEq, if_true, if_false, clear_display, clear_apply]
    exact reschedule_of_unscheduled rfl _ _ _

theorem display_of_dropped {policy : HealthPolicy} {result : ProbeResult}
    (hdropped : ¬ (result.outcome ≠ .cancelled ∧ h.state.isSome)) (h' : Holding) :
    (h'.display (h.apply policy result).1).2 = h' := by
  unfold apply
  split
  · rfl
  · rename_i hc
    split
    · rfl
    · rename_i hs
      exact absurd ⟨hc, hs ▸ rfl⟩ hdropped

theorem shown_display_of_applied {policy : HealthPolicy} {result : ProbeResult}
    (happlied : result.outcome ≠ .cancelled ∧ h.state.isSome) (h' : Holding) :
    ∃ status multiplier, (h'.display (h.apply policy result).1).2.shown = (some status, some multiplier) := by
  obtain ⟨state, hs⟩ := Option.isSome_iff_exists.mp happlied.2
  unfold apply
  rw [if_neg happlied.1, hs]
  exact ⟨_, _, rfl⟩

theorem completeAround_clear_of_dropped {c : Completion} {gap : Gap} (hcurrent : (h.report c.epoch).1 = true)
    (hdropped : gap = .applied → ¬ (c.result.outcome ≠ .cancelled ∧ h.state.isSome)) (f : Frame) (now : Instant) :
    h.completeAround f c now gap clear = (h.complete f c now).clear := by
  rw [completeAround_clear hcurrent]
  split
  · rename_i hgap
    exact display_of_dropped ((h.state_report c.epoch).symm ▸ hdropped hgap) _
  · rfl

theorem shown_completeAround_clear {c : Completion} (hcurrent : (h.report c.epoch).1 = true)
    (happlied : c.result.outcome ≠ .cancelled ∧ h.state.isSome) (f : Frame) (now : Instant) :
    ∃ status multiplier, (h.completeAround f c now .applied clear).shown = (some status, some multiplier) := by
  rw [completeAround_clear hcurrent, if_pos rfl]
  exact shown_display_of_applied ((h.state_report c.epoch).symm ▸ happlied) _

theorem report_clear (h : Holding) (epoch : Nat) : h.clear.report epoch = (false, (h.report epoch).2.clear) := by
  unfold report
  change (if h.mark = some epoch then _ else _) = _
  split <;> rfl

theorem complete_clear (h : Holding) (f f' : Frame) (c : Completion) (now : Instant) :
    h.clear.complete f' c now = (h.complete f c now).clear := by
  rw [clear_complete, complete, report_clear]

theorem notMem_places_reschedule {e : ScheduleEntry} (he : h.entry = some e) (hpos : 0 < e.baseInterval.nanos)
    (policy : BackoffPolicy) (now : Instant) (multiplier : Nat) : now ∉ (h.reschedule policy now multiplier).places := by
  rw [reschedule, he]
  dsimp only
  cases hnext : now.add? (policy.interval e.baseInterval multiplier) with
  | error fault => exact Set.notMem_empty now
  | ok next =>
    obtain ⟨-, rfl⟩ := Instant.add?_eq_ok hnext
    have hlater : now.nanos < now.nanos + (policy.interval e.baseInterval multiplier).nanos :=
      Nat.lt_add_of_pos_right (policy.interval_pos hpos multiplier)
    exact fun hmem => Nat.ne_of_lt hlater (congrArg Instant.nanos (Set.mem_singleton_iff.mp hmem))

/-- The last step of the completion puts off the target that the reload has made due. -/
theorem notMem_places_completeAround {e : ScheduleEntry} {other : Holding → Holding} {c : Completion}
    (hcurrent : (h.report c.epoch).1 = true) (he : ∀ h, (other h).entry = some e) (hpos : 0 < e.baseInterval.nanos)
    (f : Frame) (now : Instant) (gap : Gap) : now ∉ (h.completeAround f c now gap other).places := by
  unfold completeAround
  generalize h.report c.epoch = reported at hcurrent ⊢
  obtain ⟨current, h⟩ := reported
  obtain rfl : current = true := hcurrent
  cases gap with
  | finished => exact notMem_places_reschedule ((entry_display _ _).trans ((entry_apply _ _ _).trans (he h))) hpos _ _ _
  | applied => exact notMem_places_reschedule ((entry_display _ _).trans (he _)) hpos _ _ _
  | displayed => exact notMem_places_reschedule (he _) hpos _ _ _

theorem places_complete_of_stale {c : Completion} {e : ScheduleEntry} (he : h.entry = some e) (hne : e.epoch ≠ c.epoch)
    (f : Frame) (now : Instant) : (h.complete f c now).places = h.places := by
  have hother : h.entry.map (·.epoch) ≠ some c.epoch := by
    rw [he]
    exact fun heq => hne (Option.some.inj heq)
  unfold complete report
  rw [decide_eq_false hother]
  split
  · rename_i h' heq
    split at heq <;> cases heq <;> rfl
  · rename_i h' heq
    split at heq <;> cases heq

/-- How the two orders of a completion and a reload compare with a reload in between, at the target: there is a difference
just if the target is put off or brought back, and what the difference is. -/
structure Compares (now : Instant) (putsOff bringsBack : Prop) (before after around : Holding) : Prop where
  ordered : (around = before ∨ around = after) ↔ ¬ putsOff ∧ ¬ bringsBack
  due : putsOff → now ∈ after.places ∧ now ∉ around.places
  shown : bringsBack → after.shown = (none, none) ∧ ∃ status multiplier, around.shown = (some status, some multiplier)

variable {now : Instant} {putsOff bringsBack : Prop} {before after around : Holding}

theorem compares_of_eq (hputs : ¬ putsOff) (hbrings : ¬ bringsBack) (heq : around = after) :
    Compares now putsOff bringsBack before after around where
  ordered := ⟨fun _ => ⟨hputs, hbrings⟩, fun _ => .inr heq⟩
  due h := absurd h hputs
  shown h := absurd h hbrings

theorem compares_of_cleared {f f' : Frame} {c : Completion} {gap : Gap} (hputs : ¬ putsOff)
    (hcurrent : (h.report c.epoch).1 = true)
    (hiff : bringsBack ↔ gap = .applied ∧ c.result.outcome ≠ .cancelled ∧ h.state.isSome) :
    Compares now putsOff bringsBack (h.clear.complete f' c now) (h.complete f c now).clear
      (h.completeAround f c now gap clear) := by
  by_cases hbrings : bringsBack
  · obtain ⟨rfl, happlied⟩ := hiff.mp hbrings
    obtain ⟨status, multiplier, hback⟩ := shown_completeAround_clear hcurrent happlied f now
    have hne : h.completeAround f c now .applied clear ≠ (h.complete f c now).clear := by
      intro heq
      rw [heq] at hback
      cases hback
    refine ⟨iff_of_false ?_ fun h => h.2 hbrings, fun h => absurd h hputs, fun _ => ⟨rfl, status, multiplier, hback⟩⟩
    rw [h.complete_clear f, or_self]
    exact hne
  · exact compares_of_eq hputs hbrings
      (completeAround_clear_of_dropped hcurrent (fun hgap happlied => hbrings (hiff.mpr ⟨hgap, happlied⟩)) f now)

theorem compares_of_renewed {e : ScheduleEntry} {f f' : Frame} {c : Completion} {gap : Gap} {other : Holding → Holding}
    (hputs : putsOff) (hbrings : ¬ bringsBack) (hcurrent : (h.report c.epoch).1 = true)
    (he : ∀ h, (other h).entry = some e ∧ (other h).places = {now}) (hpos : 0 < e.baseInterval.nanos)
    (hnew : e.epoch ≠ c.epoch) :
    Compares now putsOff bringsBack ((other h).complete f' c now) (other (h.complete f c now))
      (h.completeAround f c now gap other) := by
  have hlater := notMem_places_completeAround hcurrent (fun h => (he h).1) hpos f now gap
  have hafter : now ∈ (other (h.complete f c now)).places := (he _).2 ▸ Set.mem_singleton now
  have hbefore : now ∈ ((other h).complete f' c now).places := by
    rw [places_complete_of_stale (he h).1 hnew, (he h).2]
    exact Set.mem_singleton now
  refine ⟨iff_of_false ?_ fun h => h.1 hputs, fun _ => ⟨hafter, hlater⟩, fun h => absurd h hbrings⟩
  rintro (heq | heq)
  · exact hlater (heq ▸ hbefore)
  · exact hlater (heq ▸ hafter)

end Holding

namespace Roster

variable {r r' u : Roster} {targets : List Target} {firstDue : TargetId → Instant} {diff : RegistryDiff}
  {snapshot : RegistrySnapshot} {id : TargetId} {h : Holding} {c : Completion} {now : Instant}

theorem reloaded?_eq_some (hr : r.reload targets firstDue = .ok (.ok (diff, r'))) :
    r.reloaded? targets firstDue = some r' := by
  rw [reloaded?, hr]

theorem Changes.reload (hc : Changes id h r u) (hr : r.Tidy) (ht : Monitor.checkTargets targets = .ok ())
    (hn : r.registry.next targets = .ok (diff, snapshot)) (hreload : r.reload targets firstDue = .ok (.ok (diff, r')))
    (hstate : h.state.isSome = (r.holding id).state.isSome) :
    ∃ u', u.reload targets firstDue = .ok (.ok (diff, u')) ∧
      Changes id (h.reload r.frame diff snapshot firstDue id) r' u' := by
  have hreg : u.registry = r.registry := congrArg Frame.registry hc.frame
  have htracked (id' : TargetId) : (u.store.snapshot? id').isSome = (r.store.snapshot? id').isSome := by
    by_cases hid : id' = id
    · rw [hid]
      exact (congrArg (·.state.isSome) hc.own).trans hstate
    · exact congrArg (·.state.isSome) (hc.others id' hid)
  obtain ⟨u', hu'⟩ := Alike.reload ⟨congrArg Frame.policy hc.frame, htracked⟩ hreg hreload
  obtain ⟨hframe, hold⟩ := reload_holding hr ht hn hreload
  obtain ⟨hframe', hold'⟩ := reload_holding hc.tidy ht (hreg ▸ hn) hu'
  rw [hc.frame] at hframe' hold'
  refine ⟨u', hu', hc.tidy.steps (steps_reload ht hu'), hframe'.trans hframe.symm, ?_, fun id' hid => ?_⟩
  · rw [hold', hc.own]
  · rw [hold', hold, hc.others id' hid]

theorem policies_reload (hr : r.Tidy) (ht : Monitor.checkTargets targets = .ok ())
    (hreload : r.reload targets firstDue = .ok (.ok (diff, r'))) :
    r'.frame.policy = r.frame.policy ∧ r'.frame.backoff = r.frame.backoff := by
  obtain ⟨snapshot, hn⟩ := exists_next_of_reload hreload
  rw [(reload_holding hr ht hn hreload).1, Frame.reload]
  split <;> exact ⟨rfl, rfl⟩

theorem changes_reload_complete (hr : r.Tidy) (ht : Monitor.checkTargets targets = .ok ())
    (hn : r.registry.next targets = .ok (diff, snapshot)) (hreload : r.reload targets firstDue = .ok (.ok (diff, r')))
    (c : Completion) (now : Instant) :
    ∃ u, (r.complete c now).2.reloaded? targets firstDue = some u ∧ Changes c.result.targetId
      (((r.holding c.result.targetId).complete r.frame c now).reload r.frame diff snapshot firstDue c.result.targetId)
      r' u := by
  obtain ⟨u, hu, hc⟩ := (changes_complete hr c now).reload hr ht hn hreload (Holding.isSome_state_complete _ _ _ _)
  exact ⟨u, reloaded?_eq_some hu, hc⟩

theorem changes_completeAround (hr : r.Tidy) (ht : Monitor.checkTargets targets = .ok ())
    (hn : r.registry.next targets = .ok (diff, snapshot)) (hreload : r.reload targets firstDue = .ok (.ok (diff, r')))
    (c : Completion) (now : Instant) (gap : Gap) :
    ∃ u, r.completeAround c now gap (reloaded? targets firstDue) = some u ∧
      Changes c.result.targetId ((r.holding c.result.targetId).completeAround r.frame c now gap
        fun h => h.reload r.frame diff snapshot firstDue c.result.targetId) r' u := by
  obtain ⟨hcurrent, hfinish⟩ := finish_holding hr c
  have hstate := (r.holding c.result.targetId).state_report c.epoch
  obtain ⟨hpolicy, hbackoff⟩ := policies_reload hr ht hreload
  unfold Roster.completeAround Holding.completeAround
  generalize (r.holding c.result.targetId).report c.epoch = reported at hcurrent hfinish hstate ⊢
  generalize r.finish c = finished at hcurrent hfinish ⊢
  obtain ⟨current, h⟩ := reported
  obtain ⟨current', u⟩ := finished
  obtain rfl : current' = current := hcurrent
  dsimp only at hfinish hstate ⊢
  cases current' with
  | false =>
    obtain ⟨v, hv, hc⟩ := hfinish.reload hr ht hn hreload (congrArg Option.isSome hstate)
    exact ⟨v, reloaded?_eq_some hv, hc⟩
  | true =>
    have hsame := (h.isSome_state_apply r.frame.policy c.result).trans (congrArg Option.isSome hstate)
    cases gap with
    | finished =>
      obtain ⟨v, hv, hc⟩ := hfinish.reload hr ht hn hreload (congrArg Option.isSome hstate)
      obtain ⟨happlied, happly⟩ := hc.apply
      obtain ⟨hmultiplier, hdisplay⟩ := happly.display (v.apply c).1
      simp only [reduceCtorEq, if_true, if_false, reloaded?_eq_some hv, Option.bind_eq_bind, Option.bind_some]
      rw [← hpolicy, ← hbackoff, ← happlied, ← hmultiplier]
      exact ⟨_, rfl, hdisplay.reschedule now _⟩
    | applied =>
      obtain ⟨happlied, happly⟩ := hfinish.apply
      obtain ⟨v, hv, hc⟩ := happly.reload hr ht hn hreload hsame
      obtain ⟨hmultiplier, hdisplay⟩ := hc.display (u.apply c).1
      simp only [reduceCtorEq, if_true, if_false, reloaded?_eq_some hv, Option.bind_eq_bind, Option.bind_some]
      rw [← hbackoff, ← happlied, ← hmultiplier]
      exact ⟨_, rfl, hdisplay.reschedule now _⟩
    | displayed =>
      obtain ⟨happlied, happly⟩ := hfinish.apply
      obtain ⟨hmultiplier, hdisplay⟩ := happly.display (u.apply c).1
      obtain ⟨v, hv, hc⟩ := hdisplay.reload hr ht hn hreload
        ((congrArg Option.isSome (Holding.state_display _ _)).trans hsame)
      simp only [reduceCtorEq, if_true, if_false, reloaded?_eq_some hv, Option.bind_eq_bind, Option.bind_some]
      rw [← hbackoff, ← happlied, ← hmultiplier]
      exact ⟨_, rfl, hc.reschedule now _⟩

/-- The result of a probe still counts, and the reload starts the schedule of its target anew. -/
def PutsOff (r : Roster) (diff : RegistryDiff) (c : Completion) : Prop :=
  (r.finish c).1 = true ∧ c.result.targetId ∈ diff.added ++ diff.changed

/-- The result of a probe still counts and has been applied, and the reload takes its target out. -/
def BringsBack (r : Roster) (diff : RegistryDiff) (c : Completion) (gap : Gap) : Prop :=
  (r.finish c).1 = true ∧ c.result.targetId ∈ diff.removed ∧ gap = .applied ∧ c.result.outcome ≠ .cancelled ∧
    (r.store.snapshot? c.result.targetId).isSome

instance (r : Roster) (diff : RegistryDiff) (c : Completion) : Decidable (r.PutsOff diff c) :=
  inferInstanceAs (Decidable (_ ∧ _))

instance (r : Roster) (diff : RegistryDiff) (c : Completion) (gap : Gap) : Decidable (r.BringsBack diff c gap) :=
  inferInstanceAs (Decidable (_ ∧ _))

variable {old new : RegistrySnapshot}

theorem cases_of_between (hdiff : diff = .between old new) (id : TargetId) :
    ¬ diff.Touches id ∨ id ∈ diff.removed ∧ id ∉ diff.added ++ diff.changed ∨
      id ∉ diff.removed ∧ id ∈ diff.added ++ diff.changed ∧ (new.get? id).isSome := by
  have hnew : id ∈ diff.added ++ diff.changed → (new.get? id).isSome := hdiff ▸ RegistryDiff.isSome_of_mem
  have hgone : id ∈ diff.removed → ¬ (new.get? id).isSome := by
    rw [hdiff, RegistryDiff.mem_removed_iff, Option.not_isSome_iff_eq_none]
    exact And.right
  by_cases hr : id ∈ diff.removed
  · exact .inr (.inl ⟨hr, fun hac => hgone hr (hnew hac)⟩)
  · by_cases hac : id ∈ diff.added ++ diff.changed
    · exact .inr (.inr ⟨hr, hac, hnew hac⟩)
    · refine .inl ((diff.not_touches_iff id).mpr ⟨fun ha => ?_, hr, fun hc => ?_⟩)
      · exact hac (List.mem_append_left _ ha)
      · exact hac (List.mem_append_right _ hc)

theorem epoch?_of_finish (h : (r.finish c).1 = true) : r.scheduler.epoch? c.result.targetId = some c.epoch := by
  by_cases hm : r.scheduler.inFlight.get? c.result.targetId = some c.epoch
  · rw [finish, Scheduler.finish_of_marked hm] at h
    exact of_decide_eq_true h
  · rw [finish, Scheduler.finish, if_neg hm] at h
    cases h

theorem compares_reload (hr : r.Tidy) (ht : Monitor.checkTargets targets = .ok ())
    (hn : r.registry.next targets = .ok (diff, snapshot)) (c : Completion) (now : Instant) (gap : Gap) (f' : Frame) :
    let h := r.holding c.result.targetId
    let reloaded (h : Holding) := h.reload r.frame diff snapshot (fun _ => now) c.result.targetId
    Holding.Compares now (r.PutsOff diff c) (r.BringsBack diff c gap) ((reloaded h).complete f' c now)
      (reloaded (h.complete r.frame c now)) (h.completeAround r.frame c now gap reloaded) := by
  intro h reloaded
  have hfinish : (r.finish c).1 = (h.report c.epoch).1 := (finish_holding hr c).1
  by_cases hcounts : (r.finish c).1 = true
  · have hcurrent := hfinish ▸ hcounts
    rcases cases_of_between (Registry.next_eq_ok hn).2 c.result.targetId with hkept | ⟨hremoved, hnac⟩ | ⟨hnr, hac, hsome⟩
    · have hself (h : Holding) : reloaded h = h := h.reload_of_not_touches r.frame hkept
      obtain ⟨hna, hnr, hnc⟩ := (diff.not_touches_iff _).mp hkept
      refine Holding.compares_of_eq (fun h => (List.mem_append.mp h.2).elim hna hnc) (fun h => hnr h.2.1) ?_
      rw [h.completeAround_of_self r.frame c now gap hself, hself]
    · have hclear : reloaded = Holding.clear := funext fun h => h.reload_of_removed r.frame hremoved hnac
      rw [hclear]
      exact Holding.compares_of_cleared (fun h => hnac h.2) hcurrent
        ⟨fun hb => hb.2.2, fun happlied => ⟨hcounts, hremoved, happlied⟩⟩
    · obtain ⟨e, hepoch, ⟨t, htarget, hbase⟩, hrenewed⟩ :=
        Holding.reload_of_renewed r.frame (fun _ => now) hac hsome
      have hpos : 0 < e.baseInterval.nanos := hbase ▸ positive_of_build ht (Registry.next_eq_ok hn).1 _ t htarget
      have hopened : c.epoch ≤ r.frame.lastEpoch := hr.scheduler.opened _ _ (epoch?_of_finish hcounts)
      exact Holding.compares_of_renewed ⟨hcounts, hac⟩ (fun h => hnr h.2.1) hcurrent hrenewed hpos
        (Nat.ne_of_gt (Nat.lt_of_le_of_lt hopened hepoch))
  · have hstale : (h.report c.epoch).1 = false := hfinish ▸ Bool.eq_false_iff.mpr hcounts
    exact Holding.compares_of_eq (fun h => hcounts h.1) (fun h => hcounts h.1)
      (Holding.completeAround_of_stale hstale r.frame now gap reloaded)

/-- Take any roster that steps in any order have led to, any completion and any reload that is accepted. Let the reload come
between two steps of the completion. The outcome is that of one after the other unless the reload starts the schedule of the
target anew, which is then not due at once, or takes the target out when its result is applied but not shown, so that the
target comes back to the gauges. -/
theorem completeAround_eq_iff (start : Instant) (prober : Prober) (settings : Settings) (targets : List Target)
    (pick : TargetId → Nat) (m : Monitor)
    (hm : Monitor.start (some start) prober settings targets pick = .ok (.ok m)) (r : Roster) (hr : Steps m.roster r)
    (c : Completion) (now : Instant) (gap : Gap) (targets' : List Target) (ht : Monitor.checkTargets targets' = .ok ())
    (diff : RegistryDiff) (r' : Roster) (hreload : r.reload targets' (fun _ => now) = .ok (.ok (diff, r'))) :
    ∃ after around,
      (r.complete c now).2.reloaded? targets' (fun _ => now) = some after ∧
      r.completeAround c now gap (reloaded? targets' fun _ => now) = some around ∧
      ((around = (r'.complete c now).2 ∨ around = after) ↔ ¬ r.PutsOff diff c ∧ ¬ r.BringsBack diff c gap) ∧
      (r.PutsOff diff c → (now, c.result.targetId) ∈ after.scheduler.queue ∧
        (now, c.result.targetId) ∉ around.scheduler.queue) ∧
      (r.BringsBack diff c gap → after.gauges.shown? c.result.targetId = (none, none) ∧
        ∃ status multiplier, around.gauges.shown? c.result.targetId = (some status, some multiplier)) := by
  have htidy := (Monitor.tidy_of_start hm).steps hr
  obtain ⟨snapshot, hn⟩ := exists_next_of_reload hreload
  obtain ⟨after, hafter, hca⟩ := changes_reload_complete htidy ht hn hreload c now
  obtain ⟨around, haround, hcx⟩ := changes_completeAround htidy ht hn hreload c now gap
  have hcb := changes_complete (htidy.steps (steps_reload ht hreload)) c now
  have hcompares := compares_reload htidy ht hn c now gap r'.frame
  dsimp only at hcompares
  rw [← (reload_holding htidy ht hn hreload).2, ← hca.own, ← hcx.own] at hcompares
  refine ⟨after, around, hafter, haround, ?_, hcompares.due, hcompares.shown⟩
  rw [hcx.eq_iff hca, hcx.eq_iff hcb, ← hca.own, ← hcx.own]
  exact hcompares.ordered

/-- A reload takes one target out and puts one in while the first result of a third is on its way from the store to the
gauges. -/
theorem completeAround_eq_iff_others :
    let prober : Prober := fun _ _ start _ => some (start, .reported (.failure "a" .timeout "connect" ⟨0, 0⟩))
    let target (id : TargetId) : Target := ⟨id, ⟨"localhost", 1⟩, .tcp, .ofSeconds 1, .ofSeconds 1⟩
    let es : Monitor.Course := [(⟨0⟩, .dispatch), (⟨0⟩, .turn 0)]
    let c : Completion := ⟨1, .failure "a" .timeout "connect" ⟨0, 0⟩, ⟨0⟩⟩
    ∃ m, Monitor.start (some ⟨0⟩) prober { jitterMs := 0 } [target "a", target "b"] (fun _ => 0) = .ok (.ok m) ∧
      (m.run es).executor.completions = [c] ∧
      ∃ p, (m.run es).roster.reload [target "a", target "c"] (fun _ => ⟨1⟩) = .ok (.ok p) ∧
        p.1 = ⟨["c"], ["b"], []⟩ ∧
        ∃ around, (m.run es).roster.completeAround c ⟨1⟩ .applied (reloaded? [target "a", target "c"] fun _ => ⟨1⟩) =
            some around ∧
          (around = (p.2.complete c ⟨1⟩).2 ∨
            ((m.run es).roster.complete c ⟨1⟩).2.reloaded? [target "a", target "c"] (fun _ => ⟨1⟩) = some around) := by
  intro prober target es c
  have hex : ∃ m, Monitor.start (some ⟨0⟩) prober { jitterMs := 0 } [target "a", target "b"] (fun _ => 0) = .ok (.ok m) ∧
      (m.run es).executor.completions = [c] ∧
      ∃ p, (m.run es).roster.reload [target "a", target "c"] (fun _ => ⟨1⟩) = .ok (.ok p) ∧
        p.1 = ⟨["c"], ["b"], []⟩ ∧ ¬ (m.run es).roster.PutsOff p.1 c ∧ ¬ (m.run es).roster.BringsBack p.1 c .applied := by
    decide +kernel
  obtain ⟨m, hm, hc, ⟨diff, r'⟩, hreload, hdiff, hputs, hbrings⟩ := hex
  obtain ⟨after, around, hafter, haround, hiff, -, -⟩ := completeAround_eq_iff ⟨0⟩ prober { jitterMs := 0 }
    [target "a", target "b"] (fun _ => 0) m hm _ (m.steps_run es) c ⟨1⟩ .applied [target "a", target "c"] (by decide)
    diff r' hreload
  refine ⟨m, hm, hc, ⟨diff, r'⟩, hreload, hdiff, around, haround, ?_⟩
  exact (hiff.mpr ⟨hputs, hbrings⟩).imp_right fun heq => hafter.trans (congrArg some heq.symm)

/-- A target is changed between the last two steps of its completion, and is not due at once. It is taken out between the
second and the third, and its gauges are back. Neither comes of the two in any order. -/
theorem completeAround_ne_of_changed_of_removed :
    let prober : Prober := fun _ _ start _ => some (start, .reported (.failure "a" .timeout "connect" ⟨0, 0⟩))
    let target (seconds : Nat) : Target := ⟨"a", ⟨"localhost", 1⟩, .tcp, .ofSeconds seconds, .ofSeconds 1⟩
    let es : Monitor.Course := [(⟨0⟩, .dispatch), (⟨0⟩, .turn 0)]
    let c : Completion := ⟨1, .failure "a" .timeout "connect" ⟨0, 0⟩, ⟨0⟩⟩
    let due (r : Option Roster) : Option (List TargetId) := r.map fun r => r.scheduler.due ⟨1⟩
    let gauges (r : Option Roster) : Option (List TargetId) := r.map fun r => r.gauges.statuses.keys
    ∃ m, Monitor.start (some ⟨0⟩) prober { jitterMs := 0 } [target 1] (fun _ => 0) = .ok (.ok m) ∧
      (m.run es).executor.completions = [c] ∧
      let r := (m.run es).roster
      let before (targets : List Target) := (r.reloaded? targets fun _ => ⟨1⟩).map fun r => (r.complete c ⟨1⟩).2
      let after (targets : List Target) := (r.complete c ⟨1⟩).2.reloaded? targets fun _ => ⟨1⟩
      let around (gap : Gap) (targets : List Target) := r.completeAround c ⟨1⟩ gap (reloaded? targets fun _ => ⟨1⟩)
      due (before [target 2]) = some ["a"] ∧ due (after [target 2]) = some ["a"] ∧
        due (around .displayed [target 2]) = some [] ∧
      gauges (before []) = some [] ∧ gauges (after []) = some [] ∧ gauges (around .applied []) = some ["a"] := by
  decide +kernel

end Roster

end TargetHealth
