import TargetHealth.Proofs.Schedule.Queue

namespace TargetHealth

structure Timetable where
  policy : BackoffPolicy
  entries : Table TargetId ScheduleEntry
  inFlight : Table TargetId Nat
  lastEpoch : Nat

namespace Timetable

def new (policy : BackoffPolicy) : Timetable := ⟨policy, .empty, .empty, 0⟩

def insert (t : Timetable) (id : TargetId) (base : Duration) (firstDue : Instant) : Timetable :=
  { t with
    entries := t.entries.insert id ⟨id, firstDue, base, base, t.lastEpoch + 1⟩
    lastEpoch := t.lastEpoch + 1 }

def remove (t : Timetable) (id : TargetId) : Timetable := { t with entries := t.entries.erase id }

def setBaseInterval (t : Timetable) (id : TargetId) (base : Duration) : Timetable :=
  { t with entries := t.entries.modify id (fun e => { e with baseInterval := base }) }

/-- The due times and ids of the targets that are not in flight. -/
def waiting (t : Timetable) : List (Instant × TargetId) :=
  (t.entries.entries.map Scheduler.slot).filter (fun slot => !t.inFlight.contains slot.2)

def due (t : Timetable) (now : Instant) : List TargetId :=
  ((t.waiting.filter (fun slot => slot.1 ≤ now)).mergeSort (fun a b => !decide (DueQueue.Before b a))).map (·.2)

def nextWakeup (t : Timetable) : Option Instant := (t.waiting.map (·.1)).min?

def markInFlight (t : Timetable) (id : TargetId) : Option (Nat × Timetable) :=
  if t.inFlight.contains id then none
  else (t.entries.get? id).map (fun e => (e.epoch, { t with inFlight := t.inFlight.insert id e.epoch }))

def finish (t : Timetable) (id : TargetId) (epoch : Nat) : Bool × Timetable :=
  if t.inFlight.get? id = some epoch then
    (decide ((t.entries.get? id).map (·.epoch) = some epoch), { t with inFlight := t.inFlight.erase id })
  else (false, t)

def reschedule (t : Timetable) (id : TargetId) (now : Instant) (multiplier : Nat) :
    Except Fault (Option ScheduleEntry × Timetable) :=
  match t.entries.get? id with
  | none => .ok (none, t)
  | some e => do
    let interval := t.policy.interval e.baseInterval multiplier
    let next ← now.add? interval
    let e' := { e with currentInterval := interval, nextDue := next }
    .ok (some e', { t with entries := t.entries.insert id e' })

end Timetable

inductive ScheduleCall where
  | insert (id : TargetId) (base : Duration) (firstDue : Instant)
  | remove (id : TargetId)
  | setBaseInterval (id : TargetId) (base : Duration)
  | due (now : Instant)
  | markInFlight (id : TargetId)
  | finish (id : TargetId) (epoch : Nat)
  | reschedule (id : TargetId) (now : Instant) (multiplier : Nat)
  | nextWakeup

inductive ScheduleAnswer where
  | done
  | removed (known : Bool)
  | due (ids : List TargetId)
  | marked (epoch? : Option Nat)
  | finished (current : Bool)
  | rescheduled (entry : Option ScheduleEntry)
  | wakeup (time? : Option Instant)
deriving DecidableEq

namespace Scheduler

def respond (s : Scheduler) : ScheduleCall → Except Fault (ScheduleAnswer × Scheduler)
  | .insert id base firstDue => .ok (.done, s.insert id base firstDue)
  | .remove id => .ok (.removed (s.contains id), s.remove id)
  | .setBaseInterval id base => .ok (.done, s.setBaseInterval id base)
  | .due now => .ok (.due (s.due now), s)
  | .markInFlight id =>
    match s.markInFlight id with
    | some (epoch, s) => .ok (.marked (some epoch), s)
    | none => .ok (.marked none, s)
  | .finish id epoch => .ok (.finished (s.finish id epoch).1, (s.finish id epoch).2)
  | .reschedule id now multiplier => (s.reschedule id now multiplier).map fun (e, s) => (.rescheduled e, s)
  | .nextWakeup => .ok (.wakeup s.nextWakeup, s)

end Scheduler

namespace Timetable

def respond (t : Timetable) : ScheduleCall → Except Fault (ScheduleAnswer × Timetable)
  | .insert id base firstDue => .ok (.done, t.insert id base firstDue)
  | .remove id => .ok (.removed (t.entries.contains id), t.remove id)
  | .setBaseInterval id base => .ok (.done, t.setBaseInterval id base)
  | .due now => .ok (.due (t.due now), t)
  | .markInFlight id =>
    match t.markInFlight id with
    | some (epoch, t) => .ok (.marked (some epoch), t)
    | none => .ok (.marked none, t)
  | .finish id epoch => .ok (.finished (t.finish id epoch).1, (t.finish id epoch).2)
  | .reschedule id now multiplier => (t.reschedule id now multiplier).map fun (e, t) => (.rescheduled e, t)
  | .nextWakeup => .ok (.wakeup t.nextWakeup, t)

end Timetable

/-- The answers to a sequence of calls. The first call that meets a fault is the last one. -/
def answers {σ : Type} (respond : σ → ScheduleCall → Except Fault (ScheduleAnswer × σ)) (s : σ) :
    List ScheduleCall → List (Except Fault ScheduleAnswer)
  | [] => []
  | call :: calls =>
    match respond s call with
    | .ok (answer, s) => .ok answer :: answers respond s calls
    | .error fault => [.error fault]

namespace Scheduler

/-- A schedule after a sequence of calls, if none of them meets a fault. -/
def after (s : Scheduler) (calls : List ScheduleCall) : Except Fault Scheduler :=
  calls.foldlM (fun s call => (s.respond call).map (·.2)) s

def timetable (s : Scheduler) : Timetable := ⟨s.policy, s.entries, s.inFlight, s.lastEpoch⟩

variable {s t : Scheduler}

def unmarked (s : Scheduler) : DueQueue := s.queue.filter (fun slot => !s.isInFlight slot.2)

theorem Queued.perm_waiting (h : s.Queued) : s.unmarked.Perm s.timetable.waiting := h.places.filter _

theorem Queued.due_eq_filter (h : s.Queued) (now : Instant) :
    s.due now = (s.unmarked.filter (fun slot => slot.1 ≤ now)).map (·.2) := by
  rw [Scheduler.due, DueQueue.takeWhile_eq_filter h.sorted, unmarked, List.filter_filter, List.filter_filter]
  simp only [Bool.and_comm]

theorem Queued.pairwise_due (h : s.Queued) (now : Instant) :
    (s.unmarked.filter (fun slot => slot.1 ≤ now)).Pairwise DueQueue.Before := (h.sorted.filter _).filter _

theorem Queued.due_eq (h : s.Queued) (now : Instant) : s.due now = s.timetable.due now := by
  let notAfter (a b : Instant × TargetId) : Bool := !decide (DueQueue.Before b a)
  let ready := s.timetable.waiting.filter (fun slot => slot.1 ≤ now)
  have hready : (s.unmarked.filter (fun slot => slot.1 ≤ now)).Perm ready := h.perm_waiting.filter _
  have hsort : (ready.mergeSort notAfter).Pairwise (fun a b => notAfter a b = true) := by
    refine List.pairwise_mergeSort ?_ ?_ ready
    · intro a b c hab hbc
      simp only [notAfter, Bool.not_eq_true', decide_eq_false_iff_not] at hab hbc ⊢
      intro hca
      rcases DueQueue.before_or_eq_or_before a b with hab' | rfl | hba
      · exact hbc (hca.trans hab')
      · exact hbc hca
      · exact hab hba
    · intro a b
      rcases DueQueue.before_or_eq_or_before a b with hab | rfl | hba
      · simp [notAfter, hab.asymm]
      · simp [notAfter, DueQueue.before_irrefl]
      · simp [notAfter, hba.asymm]
  have hperm : (s.unmarked.filter (fun slot => slot.1 ≤ now)).Perm (ready.mergeSort notAfter) :=
    hready.trans (List.mergeSort_perm ready notAfter).symm
  have hnodup : (ready.mergeSort notAfter).Nodup :=
    hperm.nodup_iff.mp (DueQueue.nodup_of_pairwise (h.pairwise_due now))
  have hsorted : (ready.mergeSort notAfter).Pairwise DueQueue.Before := by
    refine (hsort.and hnodup).imp ?_
    rintro a b ⟨hle, hne⟩
    have hnba : ¬ DueQueue.Before b a := by simpa [notAfter] using hle
    exact ((DueQueue.before_or_eq_or_before a b).resolve_right fun hr => hr.elim hne hnba)
  rw [h.due_eq_filter, DueQueue.eq_of_perm (h.pairwise_due now) hsorted hperm]
  rfl

theorem Queued.nextWakeup_eq (h : s.Queued) : s.nextWakeup = s.timetable.nextWakeup := by
  have hperm := h.perm_waiting
  have hsorted : s.unmarked.Pairwise DueQueue.Before := h.sorted.filter _
  have hfind : s.nextWakeup = s.unmarked.head?.map (·.1) := by rw [Scheduler.nextWakeup, unmarked, List.head?_filter]
  rw [hfind, Timetable.nextWakeup]
  cases hopen : s.unmarked with
  | nil =>
    rw [hopen] at hperm
    rw [hperm.nil_eq.symm]
    rfl
  | cons slot rest =>
    rw [hopen] at hperm hsorted
    have hmem : slot ∈ s.timetable.waiting := hperm.subset List.mem_cons_self
    refine (List.min?_eq_some_iff.mpr ⟨List.mem_map_of_mem hmem, ?_⟩).symm
    intro time htime
    obtain ⟨slot', hslot', rfl⟩ := List.mem_map.mp htime
    rcases List.mem_cons.mp (hperm.symm.subset hslot') with rfl | hrest
    · exact Nat.le_refl _
    · rcases List.rel_of_pairwise_cons hsorted hrest with hlt | ⟨heq, -⟩
      · exact Nat.le_of_lt hlt
      · exact Instant.le_of_eq heq

theorem isInFlight_eq_false_iff (s : Scheduler) (id : TargetId) : s.isInFlight id = false ↔ s.inFlight.get? id = none := by
  rw [isInFlight, Table.contains, Option.isSome_eq_false_iff, Option.isNone_iff_eq_none]

theorem Queued.mem_unmarked_iff (h : s.Queued) (time : Instant) (id : TargetId) :
    (time, id) ∈ s.unmarked ↔ (∃ e, s.entry? id = some e ∧ e.nextDue = time) ∧ s.inFlight.get? id = none := by
  rw [unmarked, List.mem_filter, h.mem_queue_iff, Bool.not_eq_true', isInFlight_eq_false_iff]

theorem Queued.mem_due_iff (h : s.Queued) (now : Instant) (id : TargetId) :
    id ∈ s.due now ↔ ∃ e, s.entry? id = some e ∧ e.nextDue ≤ now ∧ s.inFlight.get? id = none := by
  rw [h.due_eq_filter, List.mem_map]
  constructor
  · rintro ⟨⟨time, id'⟩, hmem, rfl⟩
    obtain ⟨hopen, hle⟩ := List.mem_filter.mp hmem
    obtain ⟨⟨e, he, rfl⟩, hf⟩ := (h.mem_unmarked_iff time id').mp hopen
    exact ⟨e, he, of_decide_eq_true hle, hf⟩
  · rintro ⟨e, he, hle, hf⟩
    have hopen : (e.nextDue, id) ∈ s.unmarked := (h.mem_unmarked_iff _ _).mpr ⟨⟨e, he, rfl⟩, hf⟩
    exact ⟨(e.nextDue, id), List.mem_filter.mpr ⟨hopen, decide_eq_true hle⟩, rfl⟩

theorem Queued.mem_due_iff_of_entry {id : TargetId} {e : ScheduleEntry} (h : s.Queued) (he : s.entry? id = some e)
    (hf : s.inFlight.get? id = none) (now : Instant) : id ∈ s.due now ↔ e.nextDue ≤ now := by
  rw [h.mem_due_iff]
  constructor
  · rintro ⟨e', he', hle, -⟩
    cases he.symm.trans he'
    exact hle
  · exact fun hle => ⟨e, he, hle, hf⟩

theorem Queued.pairwise_due_ids (h : s.Queued) (now : Instant) : (s.due now).Pairwise fun a b =>
    ∃ e f, s.entry? a = some e ∧ s.entry? b = some f ∧ DueQueue.Before (e.nextDue, a) (f.nextDue, b) := by
  rw [h.due_eq_filter, List.pairwise_map]
  refine (h.pairwise_due now).imp_of_mem ?_
  rintro ⟨time, a⟩ ⟨time', b⟩ ha hb hab
  obtain ⟨⟨e, he, rfl⟩, -⟩ := (h.mem_unmarked_iff _ _).mp (List.mem_of_mem_filter ha)
  obtain ⟨⟨f, hf, rfl⟩, -⟩ := (h.mem_unmarked_iff _ _).mp (List.mem_of_mem_filter hb)
  exact ⟨e, f, he, hf, hab⟩

theorem Queued.nodup_due (h : s.Queued) (now : Instant) : (s.due now).Nodup := by
  refine (h.pairwise_due_ids now).imp ?_
  rintro a b ⟨e, f, he, hf, hab⟩ rfl
  rw [he] at hf
  cases hf
  exact DueQueue.before_irrefl _ hab

theorem Queued.length_due_le (h : s.Queued) (now : Instant) : (s.due now).length ≤ s.entries.size := by
  have hplaces : s.queue.length = s.entries.size := h.places.length_eq.trans (List.length_map _)
  rw [← hplaces, Scheduler.due, List.length_map]
  exact (List.length_filter_le _ _).trans (List.takeWhile_sublist _).length_le

theorem Queued.nextWakeup_le_iff (h : s.Queued) (now : Instant) :
    (∃ time, s.nextWakeup = some time ∧ time ≤ now) ↔ s.due now ≠ [] := by
  have hmem (time : Instant) : time ∈ s.timetable.waiting.map (·.1) ↔ ∃ id, (time, id) ∈ s.unmarked := by
    simp only [List.mem_map, Prod.exists, exists_and_right, exists_eq_right, h.perm_waiting.mem_iff]
  rw [h.nextWakeup_eq, Timetable.nextWakeup]
  constructor
  · rintro ⟨time, htime, hle⟩ hnil
    obtain ⟨id, hopen⟩ := (hmem time).mp (List.min?_eq_some_iff.mp htime).1
    obtain ⟨⟨e, he, rfl⟩, hf⟩ := (h.mem_unmarked_iff time id).mp hopen
    have hdue : id ∈ s.due now := (h.mem_due_iff now id).mpr ⟨e, he, hle, hf⟩
    rw [hnil] at hdue
    cases hdue
  · intro hne
    obtain ⟨id, hid⟩ := List.exists_mem_of_ne_nil _ hne
    obtain ⟨e, he, hle, hf⟩ := (h.mem_due_iff now id).mp hid
    have htime := (hmem e.nextDue).mpr ⟨id, (h.mem_unmarked_iff _ _).mpr ⟨⟨e, he, rfl⟩, hf⟩⟩
    obtain ⟨time, hmin⟩ := Option.isSome_iff_exists.mp (List.isSome_min?_of_mem htime)
    have hleast : time.nanos ≤ e.nextDue.nanos := (List.min?_eq_some_iff.mp hmin).2 _ htime
    exact ⟨time, hmin, Nat.le_trans hleast hle⟩

theorem timetable_remove (s : Scheduler) (id : TargetId) : (s.remove id).timetable = s.timetable.remove id := by
  unfold remove
  split
  · rename_i hn
    have herase : s.timetable.entries.erase id = s.entries := Table.erase_of_get?_eq_none hn
    rw [Timetable.remove, herase]
    rfl
  · rfl

theorem Queued.timetable_insert (h : s.Queued) (id : TargetId) (base : Duration) (firstDue : Instant) :
    (s.insert id base firstDue).timetable = s.timetable.insert id base firstDue := by
  have hr := timetable_remove s id
  have hpolicy : (s.remove id).policy = s.policy := congrArg Timetable.policy hr
  have hentries : (s.remove id).entries = s.entries.erase id := congrArg Timetable.entries hr
  simp only [Scheduler.insert, timetable, Timetable.insert, hpolicy, hentries, inFlight_remove, lastEpoch_remove,
    Table.insert_erase h.ascending]

theorem timetable_markInFlight (s : Scheduler) (id : TargetId) :
    s.timetable.markInFlight id = (s.markInFlight id).map fun (n, s) => (n, s.timetable) := by
  unfold markInFlight Timetable.markInFlight
  change (if s.isInFlight id then none else (s.entry? id).map _) = _
  split
  · rfl
  · rw [Option.map_map]
    rfl

theorem timetable_finish (s : Scheduler) (id : TargetId) (epoch : Nat) :
    s.timetable.finish id epoch = ((s.finish id epoch).1, (s.finish id epoch).2.timetable) := by
  unfold finish Timetable.finish
  change (if s.inFlight.get? id = some epoch then _ else _) = _
  split <;> rfl

theorem timetable_reschedule (s : Scheduler) (id : TargetId) (now : Instant) (multiplier : Nat) :
    s.timetable.reschedule id now multiplier =
      (s.reschedule id now multiplier).map fun (e, s) => (e, s.timetable) := by
  unfold reschedule Timetable.reschedule
  change (match s.entry? id with | none => _ | some e => _) = _
  cases s.entry? id with
  | none => rfl
  | some e =>
    dsimp only [timetable]
    cases now.add? (s.policy.interval e.baseInterval multiplier) <;> rfl

/-- The schedule and its timetable answer alike, and go on alike. -/
theorem Queued.respond (h : s.Queued) (call : ScheduleCall) :
    (∃ fault, s.respond call = .error fault ∧ s.timetable.respond call = .error fault) ∨
    ∃ answer t, s.respond call = .ok (answer, t) ∧ s.timetable.respond call = .ok (answer, t.timetable) ∧ t.Queued := by
  cases call with
  | insert id base firstDue =>
    refine .inr ⟨_, _, rfl, ?_, h.insert id base firstDue⟩
    rw [h.timetable_insert]
    rfl
  | remove id =>
    refine .inr ⟨_, _, rfl, ?_, h.remove id⟩
    rw [timetable_remove]
    rfl
  | setBaseInterval id base => exact .inr ⟨_, _, rfl, rfl, h.setBaseInterval id base⟩
  | due now =>
    refine .inr ⟨_, _, rfl, ?_, h⟩
    rw [h.due_eq]
    rfl
  | markInFlight id =>
    have ht := timetable_markInFlight s id
    cases hm : s.markInFlight id with
    | none =>
      rw [hm] at ht
      refine .inr ⟨.marked none, s, by simp only [Scheduler.respond, hm], ?_, h⟩
      simp only [Timetable.respond, ht, Option.map_none]
    | some p =>
      obtain ⟨n, t⟩ := p
      rw [hm] at ht
      refine .inr ⟨.marked (some n), t, by simp only [Scheduler.respond, hm], ?_, h.markInFlight hm⟩
      simp only [Timetable.respond, ht, Option.map_some]
  | finish id epoch =>
    refine .inr ⟨_, _, rfl, ?_, h.finish id epoch⟩
    rw [Timetable.respond, timetable_finish]
  | reschedule id now multiplier =>
    have ht := timetable_reschedule s id now multiplier
    cases hr : s.reschedule id now multiplier with
    | error fault =>
      rw [hr] at ht
      exact .inl ⟨fault, by simp only [Scheduler.respond, hr]; rfl, by simp only [Timetable.respond, ht]; rfl⟩
    | ok p =>
      obtain ⟨e, t⟩ := p
      rw [hr] at ht
      exact .inr ⟨.rescheduled e, t, by simp only [Scheduler.respond, hr]; rfl,
        by simp only [Timetable.respond, ht]; rfl, h.reschedule hr⟩
  | nextWakeup =>
    refine .inr ⟨_, _, rfl, ?_, h⟩
    rw [h.nextWakeup_eq]
    rfl

theorem Queued.answers_eq (h : s.Queued) (calls : List ScheduleCall) :
    answers Scheduler.respond s calls = answers Timetable.respond s.timetable calls := by
  induction calls generalizing s with
  | nil => rfl
  | cons call calls ih =>
    rcases h.respond call with ⟨fault, hs, ht⟩ | ⟨answer, t, hs, ht, hq⟩
    · simp only [answers, hs, ht]
    · simp only [answers, hs, ht, ih hq]

theorem Queued.after (h : s.Queued) (calls : List ScheduleCall) (ht : s.after calls = .ok t) : t.Queued := by
  have hstep (call : ScheduleCall) (s u : Scheduler) (hu : (s.respond call).map (·.2) = .ok u) (hs : s.Queued) :
      u.Queued := by
    obtain ⟨p, hp, rfl⟩ := exists_of_map_eq_ok hu
    rcases hs.respond call with ⟨fault, hr, -⟩ | ⟨answer, u, hr, -, hq⟩
    · rw [hr] at hp
      cases hp
    · rw [hr] at hp
      cases hp
      exact hq
  exact foldlM_preserves calls (fun call _ => hstep call) ht h

/-- The schedule answers every sequence of calls as its timetable does, and they meet the end of the clock at the same call.
Whatever the calls were, the due targets are those whose time has come and that are not in flight, each once, by time and
id; and there is one exactly if the next wake-up is not later. -/
theorem answers_eq_answers_timetable (policy : BackoffPolicy) (calls : List ScheduleCall) :
    answers respond (new policy) calls = answers Timetable.respond (.new policy) calls ∧
    ∀ s, (new policy).after calls = .ok s → ∀ now,
      (∀ id, id ∈ s.due now ↔ ∃ e, s.entry? id = some e ∧ e.nextDue ≤ now ∧ s.inFlight.get? id = none) ∧
      (s.due now).Nodup ∧
      ((s.due now).Pairwise fun a b =>
        ∃ e f, s.entry? a = some e ∧ s.entry? b = some f ∧ DueQueue.Before (e.nextDue, a) (f.nextDue, b)) ∧
      ((∃ time, s.nextWakeup = some time ∧ time ≤ now) ↔ s.due now ≠ []) := by
  refine ⟨(queued_new policy).answers_eq calls, ?_⟩
  intro s hs now
  have h : s.Queued := (queued_new policy).after calls hs
  exact ⟨h.mem_due_iff now, h.nodup_due now, h.pairwise_due_ids now, h.nextWakeup_le_iff now⟩

/-- A target is put in again under another due time while its probe runs: it is passed over until the probe has reported,
and has one place from then on. -/
theorem answers_eq_answers_timetable_put_back :
    let policy : BackoffPolicy := ⟨2, 8, .ofSeconds 300⟩
    let calls : List ScheduleCall := [.insert "b" (.ofSeconds 10) ⟨3⟩, .insert "a" (.ofSeconds 10) ⟨3⟩, .due ⟨3⟩,
      .markInFlight "a", .insert "a" (.ofSeconds 10) ⟨2⟩, .due ⟨5⟩, .nextWakeup, .finish "a" 2, .due ⟨5⟩, .nextWakeup]
    ∃ s, (new policy).after calls = .ok s ∧
      answers Timetable.respond (.new policy) calls = [.ok .done, .ok .done, .ok (.due ["a", "b"]),
        .ok (.marked (some 2)), .ok .done, .ok (.due ["b"]), .ok (.wakeup (some ⟨3⟩)), .ok (.finished false),
        .ok (.due ["a", "b"]), .ok (.wakeup (some ⟨2⟩))] ∧
      (s.due ⟨5⟩).Nodup := by
  intro policy calls
  obtain ⟨heq, hdue⟩ := answers_eq_answers_timetable policy calls
  refine ⟨⟨policy, _, _, _, _⟩, rfl, ?_, ?_⟩
  · rw [← heq]
    rfl
  · exact (hdue _ rfl ⟨5⟩).2.1

end Scheduler

end TargetHealth
