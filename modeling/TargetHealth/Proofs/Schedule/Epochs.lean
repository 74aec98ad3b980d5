import TargetHealth.Proofs.Schedule.Timetable

namespace TargetHealth

abbrev ScheduleHistory := List (ScheduleCall × Except Fault ScheduleAnswer)

namespace ScheduleCall

/-- Whether a call ends the entry of a target: it takes the target out, or puts it in anew. -/
def renews (id : TargetId) : ScheduleCall → Bool
  | .insert id' _ _ => id = id'
  | .remove id' => id = id'
  | _ => false

/-- The mark of a target after a call: a granted dispatch sets it, and the report under its epoch clears it. -/
def markAfter (id : TargetId) (held : Option Nat) : ScheduleCall × Except Fault ScheduleAnswer → Option Nat
  | (.markInFlight id', .ok (.marked (some epoch))) => if id = id' then some epoch else held
  | (.finish id' epoch, _) => if id = id' ∧ held = some epoch then none else held
  | _ => held

end ScheduleCall

/-- The mark of a target, as its callers know it from the answers they were given. -/
def ScheduleHistory.mark? (history : ScheduleHistory) (id : TargetId) : Option Nat :=
  history.foldl (ScheduleCall.markAfter id) none

namespace Scheduler

variable {s t : Scheduler} {id : TargetId} {epoch : Nat} {call : ScheduleCall}

/-- The schedule after a call. A rescheduling that meets the end of the clock has begun by then. -/
def heed (s : Scheduler) (call : ScheduleCall) : Scheduler :=
  match s.respond call, call with
  | .ok (_, t), _ => t
  | .error _, .reschedule id _ multiplier => s.interrupt id multiplier
  | .error _, _ => s

def heedAll (s : Scheduler) (calls : List ScheduleCall) : Scheduler := calls.foldl heed s

def history (s : Scheduler) : List ScheduleCall → ScheduleHistory
  | [] => []
  | call :: calls => (call, (s.respond call).map (·.1)) :: (s.heed call).history calls

theorem retimes_setBaseInterval (s : Scheduler) (id : TargetId) (base : Duration) :
    s.Retimes (s.setBaseInterval id base) where
  epochs id' := by
    have h : entry? (s.setBaseInterval id base) id' =
        if id' = id then (s.entry? id').map fun e => { e with baseInterval := base } else s.entry? id' :=
      Table.get?_modify s.entries id id' _
    rw [epoch?, h, epoch?]
    split
    · rw [Option.map_map]
      rfl
    · rfl
  inFlight := rfl
  lastEpoch := rfl

theorem heed_markInFlight (s : Scheduler) (id : TargetId) :
    s.heed (.markInFlight id) = ((s.markInFlight id).map (·.2)).getD s := by
  cases h : s.markInFlight id <;> simp only [heed, respond, h, Option.map_none, Option.map_some, Option.getD]

theorem retimes_heed_reschedule (s : Scheduler) (id : TargetId) (now : Instant) (multiplier : Nat) :
    s.Retimes (s.heed (.reschedule id now multiplier)) := by
  cases h : s.reschedule id now multiplier with
  | error fault =>
    have ht : s.heed (.reschedule id now multiplier) = s.interrupt id multiplier := by
      simp only [heed, respond, h]
      rfl
    exact ht ▸ retimes_interrupt s id multiplier
  | ok p =>
    have ht : s.heed (.reschedule id now multiplier) = p.2 := by
      simp only [heed, respond, h]
      rfl
    exact ht ▸ retimes_reschedule h

theorem epochs_heed (s : Scheduler) (call : ScheduleCall) :
    (∃ id base firstDue, call = .insert id base firstDue ∧ s.heed call = s.insert id base firstDue) ∨
    (∃ id, call = .remove id ∧ s.heed call = s.remove id) ∨
    (∀ id, call.renews id = false) ∧ (∀ id, (s.heed call).epoch? id = s.epoch? id) ∧
      (s.heed call).lastEpoch = s.lastEpoch := by
  cases call with
  | insert id base firstDue => exact .inl ⟨id, base, firstDue, rfl, rfl⟩
  | remove id => exact .inr (.inl ⟨id, rfl, rfl⟩)
  | setBaseInterval id base =>
    exact .inr (.inr ⟨fun _ => rfl, (retimes_setBaseInterval s id base).epochs, rfl⟩)
  | due now => exact .inr (.inr ⟨fun _ => rfl, fun _ => rfl, rfl⟩)
  | markInFlight id =>
    refine .inr (.inr ⟨fun _ => rfl, ?_⟩)
    rw [heed_markInFlight]
    cases h : s.markInFlight id with
    | none => exact ⟨fun _ => rfl, rfl⟩
    | some p =>
      obtain ⟨-, -, ht⟩ := markInFlight_eq_some h
      rw [Option.map_some, Option.getD_some, ht]
      exact ⟨fun _ => rfl, rfl⟩
  | finish id epoch =>
    refine .inr (.inr ⟨fun _ => rfl, ?_⟩)
    change (∀ id', (s.finish id epoch).2.epoch? id' = _) ∧ (s.finish id epoch).2.lastEpoch = _
    unfold finish
    split <;> exact ⟨fun _ => rfl, rfl⟩
  | reschedule id now multiplier =>
    have h := retimes_heed_reschedule s id now multiplier
    exact .inr (.inr ⟨fun _ => rfl, h.epochs, h.lastEpoch⟩)
  | nextWakeup => exact .inr (.inr ⟨fun _ => rfl, fun _ => rfl, rfl⟩)

theorem get?_inFlight_heed (s : Scheduler) (call : ScheduleCall) (id : TargetId) :
    (s.heed call).inFlight.get? id =
      ScheduleCall.markAfter id (s.inFlight.get? id) (call, (s.respond call).map (·.1)) := by
  cases call with
  | insert id' base firstDue => exact congrArg (Table.get? · id) (inFlight_insert s id' base firstDue)
  | remove id' => exact congrArg (Table.get? · id) (inFlight_remove s id')
  | setBaseInterval id' base => rfl
  | due now => rfl
  | markInFlight id' =>
    rw [heed_markInFlight]
    cases h : s.markInFlight id' with
    | none =>
      have hr : s.respond (.markInFlight id') = .ok (.marked none, s) := by simp only [respond, h]
      rw [hr]
      rfl
    | some p =>
      obtain ⟨epoch, t⟩ := p
      have hr : s.respond (.markInFlight id') = .ok (.marked (some epoch), t) := by simp only [respond, h]
      obtain ⟨-, -, ht⟩ := markInFlight_eq_some h
      rw [hr, Option.map_some, Option.getD_some, ht]
      exact Table.get?_insert s.inFlight id' id epoch
  | finish id' epoch =>
    change (s.finish id' epoch).2.inFlight.get? id = if id = id' ∧ s.inFlight.get? id = some epoch then none else _
    unfold finish
    by_cases hmark : s.inFlight.get? id' = some epoch
    · rw [if_pos hmark]
      refine (Table.get?_erase s.inFlight id' id).trans ?_
      by_cases hid : id = id'
      · rw [if_pos hid, if_pos ⟨hid, hid ▸ hmark⟩]
      · rw [if_neg hid, if_neg (fun h => hid h.1)]
    · rw [if_neg hmark, if_neg]
      rintro ⟨rfl, h⟩
      exact hmark h
  | reschedule id' now multiplier =>
    rw [(retimes_heed_reschedule s id' now multiplier).inFlight]
    rfl
  | nextWakeup => rfl

theorem get?_inFlight_heedAll (s : Scheduler) (calls : List ScheduleCall) (id : TargetId) :
    (s.heedAll calls).inFlight.get? id =
      (s.history calls).foldl (ScheduleCall.markAfter id) (s.inFlight.get? id) := by
  induction calls generalizing s with
  | nil => rfl
  | cons call calls ih =>
    have h := ih (s.heed call)
    rw [get?_inFlight_heed] at h
    exact h

/-- Every entry was made under an epoch that the counter has reached. -/
def Counted (s : Scheduler) : Prop := ∀ id epoch, s.epoch? id = some epoch → epoch ≤ s.lastEpoch

theorem counted_new (policy : BackoffPolicy) : (new policy).Counted := fun _ _ h => nomatch h

theorem Counted.heed (h : s.Counted) (call : ScheduleCall) : (s.heed call).Counted := by
  intro id epoch he
  rcases epochs_heed s call with ⟨id', base, firstDue, -, ht⟩ | ⟨id', -, ht⟩ | ⟨-, hepoch, hlast⟩
  · rw [ht, epoch?_insert] at he
    rw [ht, lastEpoch_insert]
    split at he
    · exact Nat.le_of_eq (Option.some.inj he).symm
    · exact Nat.le_succ_of_le (h id epoch he)
  · rw [ht, epoch?_remove] at he
    rw [ht, lastEpoch_remove]
    split at he
    · cases he
    · exact h id epoch he
  · rw [hepoch] at he
    exact hlast ▸ h id epoch he

theorem Counted.heedAll (h : s.Counted) (calls : List ScheduleCall) : (s.heedAll calls).Counted := by
  induction calls generalizing s with
  | nil => exact h
  | cons call calls ih => exact ih (h.heed call)

/-- A dispatch under `epoch` that has not been reported. Its target has been renewed since or has not, and then its entry
is the one that was dispatched. -/
structure Outstanding (s : Scheduler) (id : TargetId) (epoch : Nat) (renewed : Bool) : Prop where
  marked : s.inFlight.get? id = some epoch
  counted : epoch ≤ s.lastEpoch
  current : s.epoch? id = some epoch ↔ renewed = false

theorem Counted.outstanding (h : s.Counted) (hm : s.markInFlight id = some (epoch, t)) :
    t.Outstanding id epoch false := by
  obtain ⟨-, hepoch, rfl⟩ := markInFlight_eq_some hm
  exact ⟨(Table.get?_insert s.inFlight id id epoch).trans (if_pos rfl), h id epoch hepoch, iff_of_true hepoch rfl⟩

theorem isInFlight_of_marked (hm : s.inFlight.get? id = some epoch) : s.isInFlight id = true := by
  rw [isInFlight, Table.contains, hm]
  rfl

theorem markInFlight_of_marked (hm : s.inFlight.get? id = some epoch) : s.markInFlight id = none := by
  rw [markInFlight, if_pos (isInFlight_of_marked hm)]

/-- Nothing but its own report clears a mark, and no second dispatch replaces it. -/
theorem get?_inFlight_heed_of_marked (hm : s.inFlight.get? id = some epoch) (hne : call ≠ .finish id epoch) :
    (s.heed call).inFlight.get? id = some epoch := by
  rw [get?_inFlight_heed, hm]
  unfold ScheduleCall.markAfter
  split
  · rename_i id' epoch' heq
    obtain ⟨rfl, hr⟩ := Prod.mk.inj heq
    split
    · rename_i hid
      subst hid
      have hrefused : s.respond (.markInFlight id) = .ok (.marked none, s) := by
        simp only [respond, markInFlight_of_marked hm]
      rw [hrefused] at hr
      cases hr
    · rfl
  · rename_i id' epoch' answer heq
    obtain ⟨rfl, -⟩ := Prod.mk.inj heq
    split
    · rename_i hreport
      obtain ⟨rfl, hepoch⟩ := hreport
      exact absurd (Option.some.inj hepoch ▸ rfl) hne
    · rfl
  · rfl

theorem Outstanding.heed {renewed : Bool} (h : s.Outstanding id epoch renewed) (hne : call ≠ .finish id epoch) :
    (s.heed call).Outstanding id epoch (renewed || call.renews id) := by
  have hmark := get?_inFlight_heed_of_marked h.marked hne
  have hle : epoch ≤ s.lastEpoch := h.counted
  rcases epochs_heed s call with ⟨id', base, firstDue, rfl, ht⟩ | ⟨id', rfl, ht⟩ | ⟨hkept, hepoch, hlast⟩
  · refine ⟨hmark, ?_, ?_⟩
    · rw [ht, lastEpoch_insert]
      exact Nat.le_succ_of_le hle
    · rw [ht, epoch?_insert]
      by_cases hid : id = id'
      · have hnew : s.lastEpoch + 1 ≠ epoch := by omega
        simp [ScheduleCall.renews, hid, hnew]
      · simpa [ScheduleCall.renews, hid] using h.current
  · refine ⟨hmark, ?_, ?_⟩
    · rw [ht, lastEpoch_remove]
      exact hle
    · rw [ht, epoch?_remove]
      by_cases hid : id = id'
      · simp [ScheduleCall.renews, hid]
      · simpa [ScheduleCall.renews, hid] using h.current
  · refine ⟨hmark, hlast ▸ hle, ?_⟩
    rw [hepoch, hkept, Bool.or_false]
    exact h.current

theorem Outstanding.heedAll {renewed : Bool} (h : s.Outstanding id epoch renewed) {calls : List ScheduleCall}
    (hnot : .finish id epoch ∉ calls) :
    (s.heedAll calls).Outstanding id epoch (renewed || calls.any (·.renews id)) := by
  induction calls generalizing s renewed with
  | nil =>
    rw [List.any_nil, Bool.or_false]
    exact h
  | cons call calls ih =>
    obtain ⟨hcall, hcalls⟩ := not_or.mp (mt List.mem_cons.mpr hnot)
    rw [List.any_cons, ← Bool.or_assoc]
    exact ih (h.heed (Ne.symm hcall)) hcalls

theorem not_mem_due_of_marked (hm : s.inFlight.get? id = some epoch) (now : Instant) : id ∉ s.due now := by
  intro hmem
  obtain ⟨slot, hslot, rfl⟩ := List.mem_map.mp hmem
  have hopen : (!s.isInFlight slot.2) = true := (List.mem_filter.mp hslot).2
  rw [isInFlight_of_marked hm] at hopen
  cases hopen

theorem nextWakeup_remove_of_marked (hm : s.inFlight.get? id = some epoch) :
    (s.remove id).nextWakeup = s.nextWakeup := by
  unfold remove
  split
  · rfl
  · rename_i e he
    change ((s.queue.filter (· ≠ (e.nextDue, id))).find? (fun slot => !s.isInFlight slot.2)).map (·.1) = _
    rw [List.find?_filter, nextWakeup]
    congr 2
    funext slot
    by_cases hslot : slot = (e.nextDue, id)
    · simp [hslot, isInFlight_of_marked hm]
    · simp [hslot]

/-- A schedule after any calls whatsoever. A report that is not the one its target's mark waits for counts for nothing and
changes nothing. A granted dispatch keeps its target out of further dispatches, of every list of due targets and of the
next wake-up, until it is reported under its epoch, whatever else is called in the meantime; that report clears the mark,
and it counts exactly if the target has been neither taken out nor put in since. -/
theorem mark_until_report (policy : BackoffPolicy) (calls : List ScheduleCall) :
    let s := (new policy).heedAll calls
    (∀ id epoch, ((new policy).history calls).mark? id ≠ some epoch → s.finish id epoch = (false, s)) ∧
    ∀ id epoch t, s.markInFlight id = some (epoch, t) → ∀ since, .finish id epoch ∉ since →
      let u := t.heedAll since
      u.markInFlight id = none ∧ (∀ now, id ∉ u.due now) ∧ u.nextWakeup = (u.remove id).nextWakeup ∧
      ((u.finish id epoch).1 = true ↔ ∀ call ∈ since, call.renews id = false) ∧
      (u.finish id epoch).2 = { u with inFlight := u.inFlight.erase id } ∧
      (u.finish id epoch).2.isInFlight id = false := by
  intro s
  refine ⟨?_, ?_⟩
  · intro id epoch hmark
    have hmarks : s.inFlight.get? id = ((new policy).history calls).mark? id :=
      get?_inFlight_heedAll (new policy) calls id
    rw [finish, if_neg (hmarks ▸ hmark)]
  · intro id epoch t ht since hsince u
    have hcounted : s.Counted := (counted_new policy).heedAll calls
    have hu : u.Outstanding id epoch (since.any (·.renews id)) := (hcounted.outstanding ht).heedAll hsince
    have hfinish := finish_of_marked hu.marked
    refine ⟨markInFlight_of_marked hu.marked, not_mem_due_of_marked hu.marked,
      (nextWakeup_remove_of_marked hu.marked).symm, ?_, ?_, ?_⟩
    · rw [hfinish, decide_eq_true_iff, hu.current, List.any_eq_false]
      simp only [Bool.not_eq_true]
    · rw [hfinish]
    · rw [hfinish, isInFlight_eq_false_iff]
      exact (Table.get?_erase u.inFlight id id).trans (if_pos rfl)

/-- A target is dispatched, taken out and put in again while its probe runs. Neither a report under its new epoch nor the
call of a second dispatch touches the mark; its own report clears it, and comes too late to count. -/
theorem mark_until_report_put_back :
    let policy : BackoffPolicy := ⟨2, 8, .ofSeconds 300⟩
    let calls : List ScheduleCall := [.insert "a" (.ofSeconds 10) ⟨3⟩]
    let since : List ScheduleCall := [.remove "a", .insert "a" (.ofSeconds 10) ⟨2⟩, .finish "a" 2, .markInFlight "a",
      .reschedule "a" ⟨7⟩ 1]
    let s := (new policy).heedAll calls
    ∃ t, s.markInFlight "a" = some (1, t) ∧ .finish "a" 1 ∉ since ∧ s.finish "a" 1 = (false, s) ∧
      (t.heedAll since).epoch? "a" = some 2 ∧ (t.heedAll since).markInFlight "a" = none ∧
      ((t.heedAll since).finish "a" 1).1 = false ∧ ((t.heedAll since).finish "a" 1).2.isInFlight "a" = false := by
  intro policy calls since s
  obtain ⟨hstray, hmark⟩ := mark_until_report policy calls
  have ht : s.markInFlight "a" = some (1, { s with inFlight := s.inFlight.insert "a" 1 }) := by decide +kernel
  have hsince : .finish "a" 1 ∉ since := by simp [since]
  obtain ⟨hrefused, -, -, hcounts, -, hcleared⟩ := hmark "a" 1 _ ht since hsince
  refine ⟨_, ht, hsince, hstray "a" 1 (by decide +kernel), by decide +kernel, hrefused, ?_, hcleared⟩
  rw [← Bool.not_eq_true, hcounts]
  exact fun h => absurd (h (.remove "a") (by simp [since])) (by decide)

end Scheduler

end TargetHealth
