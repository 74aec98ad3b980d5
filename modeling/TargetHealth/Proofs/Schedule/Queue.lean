import Mathlib.Data.List.Basic
import TargetHealth.Proofs.Schedule.Scheduler
import TargetHealth.Proofs.Time.Instant

namespace TargetHealth

namespace DueQueue

variable {a b c slot : Instant × TargetId} {q : DueQueue}

theorem before_irrefl (a : Instant × TargetId) : ¬ Before a a := by
  rintro (h | ⟨-, h⟩)
  · exact Nat.lt_irrefl _ h
  · exact String.lt_irrefl _ h

theorem Before.trans (hab : Before a b) (hbc : Before b c) : Before a c := by
  obtain ⟨s, i⟩ := a
  obtain ⟨t, j⟩ := b
  obtain ⟨u, k⟩ := c
  rcases hab with hab | ⟨rfl, hab⟩ <;> rcases hbc with hbc | ⟨rfl, hbc⟩
  · exact .inl (Nat.lt_trans hab hbc)
  · exact .inl hab
  · exact .inl hbc
  · exact .inr ⟨rfl, String.lt_trans hab hbc⟩

theorem Before.asymm (hab : Before a b) : ¬ Before b a := fun hba => before_irrefl a (hab.trans hba)

theorem before_or_eq_or_before (a b : Instant × TargetId) : Before a b ∨ a = b ∨ Before b a := by
  obtain ⟨⟨s⟩, i⟩ := a
  obtain ⟨⟨t⟩, j⟩ := b
  rcases Nat.lt_trichotomy s t with hst | rfl | hts
  · exact .inl (.inl hst)
  · by_cases hij : i < j
    · exact .inl (.inr ⟨rfl, hij⟩)
    · by_cases hji : j < i
      · exact .inr (.inr (.inr ⟨rfl, hji⟩))
      · have heq : i = j := Std.Trichotomous.trichotomous (r := (· < ·)) i j hij hji
        exact .inr (.inl (heq ▸ rfl))
  · exact .inr (.inr (.inl hts))

theorem mem_of_mem_insert (h : a ∈ insert slot q) : a = slot ∨ a ∈ q := by
  induction q with
  | nil => exact .inl (List.mem_singleton.mp h)
  | cons s rest ih =>
    unfold insert at h
    split at h
    · exact .inr h
    · split at h
      · exact List.mem_cons.mp h
      · rcases List.mem_cons.mp h with rfl | h
        · exact .inr List.mem_cons_self
        · exact (ih h).imp_right (List.mem_cons_of_mem _)

theorem mem_insert_iff : a ∈ insert slot q ↔ a = slot ∨ a ∈ q := by
  refine ⟨mem_of_mem_insert, fun h => ?_⟩
  induction q with
  | nil => exact List.mem_singleton.mpr (h.resolve_right List.not_mem_nil)
  | cons s rest ih =>
    unfold insert
    split
    · rename_i hs
      exact h.elim (fun h => List.mem_cons.mpr (.inl (h.trans hs))) id
    · split
      · exact List.mem_cons.mpr h
      · rw [List.mem_cons, or_left_comm] at h
        exact List.mem_cons.mpr (h.imp_right ih)

theorem pairwise_insert (h : q.Pairwise Before) (slot : Instant × TargetId) : (insert slot q).Pairwise Before := by
  induction q with
  | nil => exact List.pairwise_singleton _ _
  | cons s rest ih =>
    obtain ⟨hhead, htail⟩ := List.pairwise_cons.mp h
    unfold insert
    split
    · exact h
    · rename_i hne
      split
      · rename_i hb
        refine List.pairwise_cons.mpr ⟨?_, h⟩
        intro b hmem
        rcases List.mem_cons.mp hmem with rfl | hmem
        · exact hb
        · exact hb.trans (hhead b hmem)
      · rename_i hnb
        have hs : Before s slot := ((before_or_eq_or_before slot s).resolve_left hnb).resolve_left hne
        refine List.pairwise_cons.mpr ⟨?_, ih htail⟩
        intro b hmem
        rcases mem_of_mem_insert hmem with rfl | hmem
        · exact hs
        · exact hhead b hmem

theorem perm_insert (h : slot ∉ q) : (insert slot q).Perm (slot :: q) := by
  induction q with
  | nil => exact .refl _
  | cons s rest ih =>
    obtain ⟨hne, hrest⟩ : slot ≠ s ∧ slot ∉ rest := by simpa using h
    unfold insert
    rw [if_neg hne]
    split
    · exact .refl _
    · exact ((ih hrest).cons s).trans (.swap slot s rest)

theorem perm_erase (hn : q.Nodup) (h : slot ∈ q) : q.Perm (slot :: erase slot q) := by
  have herase : erase slot q = List.erase q slot := by
    rw [hn.erase_eq_filter]
    exact List.filter_congr fun s _ => by rw [bne, Bool.beq_eq_decide_eq, ← decide_not]
  rw [herase]
  exact List.perm_cons_erase h

theorem nodup_of_pairwise (h : q.Pairwise Before) : q.Nodup := by
  refine h.imp ?_
  rintro a b hab rfl
  exact before_irrefl a hab

/-- Two queues in order that list the same slots are the same. -/
theorem eq_of_perm {q' : DueQueue} (h : q.Pairwise Before) (h' : q'.Pairwise Before) (hp : q.Perm q') : q = q' :=
  hp.eq_of_pairwise (fun _ _ _ _ hab hba => absurd hba hab.asymm) h h'

theorem eq_of_mem_iff {q' : DueQueue} (h : q.Pairwise Before) (h' : q'.Pairwise Before)
    (hmem : ∀ slot, slot ∈ q ↔ slot ∈ q') : q = q' :=
  eq_of_perm h h' ((List.perm_ext_iff_of_nodup (nodup_of_pairwise h) (nodup_of_pairwise h')).mpr hmem)

theorem takeWhile_eq_filter (h : q.Pairwise Before) (now : Instant) :
    q.takeWhile (fun slot => slot.1 ≤ now) = q.filter (fun slot => slot.1 ≤ now) := by
  induction q with
  | nil => rfl
  | cons s rest ih =>
    obtain ⟨hhead, htail⟩ := List.pairwise_cons.mp h
    by_cases hs : s.1 ≤ now
    · rw [List.takeWhile_cons_of_pos (by simpa using hs), List.filter_cons_of_pos (by simpa using hs), ih htail]
    · have hlate : ∀ b ∈ rest, ¬ decide (b.1 ≤ now) = true := by
        intro b hb
        have hsn : ¬ s.1.nanos ≤ now.nanos := hs
        have hsb : s.1.nanos ≤ b.1.nanos := by
          rcases hhead b hb with hlt | ⟨heq, -⟩
          · exact Nat.le_of_lt hlt
          · exact Instant.le_of_eq heq
        have hbn : ¬ b.1.nanos ≤ now.nanos := by omega
        exact fun hle => hbn (of_decide_eq_true hle)
      rw [List.takeWhile_cons_of_neg (by simpa using hs), List.filter_cons_of_neg (by simpa using hs),
        List.filter_eq_nil_iff.mpr hlate]

end DueQueue

namespace Scheduler

def slot (e : TargetId × ScheduleEntry) : Instant × TargetId := (e.2.nextDue, e.1)

def slots (s : Scheduler) : List (Instant × TargetId) := s.entries.entries.map slot

/-- A schedule whose queue is in order and has one place for every entry. -/
structure Queued (s : Scheduler) : Prop where
  ascending : s.entries.Ascending
  sorted : s.queue.Pairwise DueQueue.Before
  places : s.queue.Perm s.slots

variable {s t : Scheduler} {id : TargetId}

theorem mem_slots_iff (h : s.entries.Ascending) (now : Instant) (id : TargetId) :
    (now, id) ∈ s.slots ↔ ∃ e, s.entry? id = some e ∧ e.nextDue = now := by
  simp only [slots, slot, List.mem_map, Prod.mk.injEq, Prod.exists]
  constructor
  · rintro ⟨id', e, hmem, hdue, rfl⟩
    exact ⟨e, (Table.get?_eq_some_iff h.nodup id' e).mpr hmem, hdue⟩
  · rintro ⟨e, he, hdue⟩
    exact ⟨id, e, Table.mem_of_get? he, hdue, rfl⟩

theorem Queued.mem_queue_iff (h : s.Queued) (now : Instant) (id : TargetId) :
    (now, id) ∈ s.queue ↔ ∃ e, s.entry? id = some e ∧ e.nextDue = now := by
  rw [h.places.mem_iff, mem_slots_iff h.ascending]

theorem queued_new (policy : BackoffPolicy) : (new policy).Queued where
  ascending := Table.ascending_empty
  sorted := List.Pairwise.nil
  places := .refl _

theorem Queued.of_eq (h : s.Queued) (he : t.entries = s.entries) (hq : t.queue = s.queue) : t.Queued where
  ascending := he ▸ h.ascending
  sorted := hq ▸ h.sorted
  places := by rw [hq, slots, he]; exact h.places

theorem Queued.take {e : ScheduleEntry} (h : s.Queued) (he : s.entry? id = some e) (ht : t.entries = s.entries.erase id)
    (hq : t.queue = DueQueue.erase (e.nextDue, id) s.queue) : t.Queued := by
  have hplace : (e.nextDue, id) ∈ s.queue := (h.mem_queue_iff _ _).mpr ⟨e, he, rfl⟩
  have hqueue := DueQueue.perm_erase (DueQueue.nodup_of_pairwise h.sorted) hplace
  have hentries : s.entries.entries.Perm ((id, e) :: (s.entries.erase id).entries) :=
    Multiset.coe_eq_coe.mp (Table.entries_erase _ _ _ h.ascending.nodup he)
  have hslots : s.slots.Perm ((e.nextDue, id) :: t.slots) := by
    rw [slots, slots, ht]
    exact hentries.map slot
  refine ⟨ht ▸ h.ascending.erase id, hq ▸ h.sorted.filter _, ?_⟩
  rw [hq]
  exact (hqueue.symm.trans (h.places.trans hslots)).cons_inv

theorem Queued.put {e : ScheduleEntry} (h : s.Queued) (hn : s.entry? id = none) (ht : t.entries = s.entries.insert id e)
    (hq : t.queue = DueQueue.insert (e.nextDue, id) s.queue) : t.Queued := by
  have hplace : (e.nextDue, id) ∉ s.queue := by
    rw [h.mem_queue_iff]
    rintro ⟨e', he', -⟩
    rw [hn] at he'
    cases he'
  have hentries : (s.entries.insert id e).entries.Perm ((id, e) :: s.entries.entries) :=
    Multiset.coe_eq_coe.mp (Table.entries_insert _ _ e hn)
  have hslots : t.slots.Perm ((e.nextDue, id) :: s.slots) := by
    rw [slots, slots, ht]
    exact hentries.map slot
  refine ⟨ht ▸ h.ascending.insert id e, hq ▸ DueQueue.pairwise_insert h.sorted _, ?_⟩
  rw [hq]
  exact (DueQueue.perm_insert hplace).trans ((h.places.cons _).trans hslots.symm)

theorem Queued.remove (h : s.Queued) (id : TargetId) : (s.remove id).Queued := by
  unfold Scheduler.remove
  split
  · exact h
  · rename_i e he
    exact h.take he rfl rfl

theorem Queued.insert (h : s.Queued) (id : TargetId) (base : Duration) (firstDue : Instant) :
    (s.insert id base firstDue).Queued := by
  have hn : entry? (s.remove id) id = none := by rw [entry?_remove, if_pos rfl]
  exact (h.remove id).put hn rfl rfl

theorem Queued.setBaseInterval (h : s.Queued) (id : TargetId) (base : Duration) :
    (s.setBaseInterval id base).Queued where
  ascending := h.ascending.modify id _
  sorted := h.sorted
  places := by
    have hslots : (s.setBaseInterval id base).slots = s.slots := by
      simp only [slots, Scheduler.setBaseInterval, Table.modify, List.map_map]
      refine List.map_congr_left fun e _ => ?_
      simp only [Function.comp_apply]
      split <;> rfl
    rw [hslots]
    exact h.places

theorem Queued.finish (h : s.Queued) (id : TargetId) (epoch : Nat) : (s.finish id epoch).2.Queued := by
  unfold Scheduler.finish
  split
  · exact h.of_eq rfl rfl
  · exact h

theorem Queued.markInFlight {n : Nat} (h : s.Queued) (hm : s.markInFlight id = some (n, t)) : t.Queued := by
  obtain ⟨-, -, rfl⟩ := markInFlight_eq_some hm
  exact h.of_eq rfl rfl

theorem reschedule_eq_ok {now : Instant} {multiplier : Nat} {entry : Option ScheduleEntry}
    (h : s.reschedule id now multiplier = .ok (entry, t)) :
    (s.entry? id = none ∧ entry = none ∧ t = s) ∨
    ∃ e e' : ScheduleEntry, s.entry? id = some e ∧ entry = some e' ∧ e'.nextDue.nanos < Instant.limit ∧
      e' = { e with
        currentInterval := s.policy.interval e.baseInterval multiplier
        nextDue := now.after (s.policy.interval e.baseInterval multiplier) } ∧
      t = { s with
        entries := s.entries.insert id e'
        queue := DueQueue.insert (e'.nextDue, id) (DueQueue.erase (e.nextDue, id) s.queue) } := by
  unfold reschedule at h
  cases he : s.entry? id with
  | none =>
    simp only [he, Except.ok.injEq, Prod.mk.injEq] at h
    exact .inl ⟨rfl, h.1.symm, h.2.symm⟩
  | some e =>
    simp only [he] at h
    obtain ⟨next, hnext, heq⟩ := exists_of_bind_eq_ok h
    obtain ⟨hfits, rfl⟩ := Instant.add?_eq_ok hnext
    cases heq
    exact .inr ⟨e, _, rfl, rfl, hfits, rfl, rfl⟩

theorem Queued.reschedule {now : Instant} {multiplier : Nat} {entry : Option ScheduleEntry} (h : s.Queued)
    (hr : s.reschedule id now multiplier = .ok (entry, t)) : t.Queued := by
  rcases reschedule_eq_ok hr with ⟨-, -, rfl⟩ | ⟨e, e', he, -, -, -, rfl⟩
  · exact h
  · -- the entry is taken out and put in again, though the table only sees it replaced
    have htaken : (⟨s.policy, s.entries.erase id, DueQueue.erase (e.nextDue, id) s.queue, s.inFlight,
        s.lastEpoch⟩ : Scheduler).Queued := h.take he rfl rfl
    refine htaken.put ?_ (Table.insert_erase h.ascending id e').symm rfl
    exact (Table.get?_erase s.entries id id).trans (if_pos rfl)

end Scheduler

end TargetHealth
