import TargetHealth.Proofs.Time.Instant
import TargetHealth.Time.Agenda

namespace TargetHealth

namespace Agenda

variable {α : Type} [DecidableEq α] {g : Agenda α} {a b : α} {now t : Instant}

theorem mem_ready_wake : b ∈ (g.wake a).ready ↔ b ∈ g.ready ∨ b = a := by
  unfold wake
  split
  · rename_i ha
    exact ⟨.inl, fun h => h.elim id fun heq => heq ▸ ha⟩
  · rw [List.mem_append, List.mem_singleton]

theorem alarms_wake (g : Agenda α) (a : α) : (g.wake a).alarms = g.alarms := by
  unfold wake
  split <;> rfl

theorem length_ready_wake (g : Agenda α) (a : α) : (g.wake a).ready.length ≤ g.ready.length + 1 := by
  unfold wake
  split
  · exact Nat.le_succ _
  · exact Nat.le_of_eq List.length_append

theorem mem_ready_wakeAll {as : List α} : b ∈ (g.wakeAll as).ready ↔ b ∈ g.ready ∨ b ∈ as := by
  induction as generalizing g with
  | nil => simp [wakeAll]
  | cons a as ih =>
    rw [wakeAll, List.foldl_cons, ← wakeAll, ih, mem_ready_wake, List.mem_cons, or_assoc]

theorem alarms_wakeAll (g : Agenda α) (as : List α) : (g.wakeAll as).alarms = g.alarms := by
  induction as generalizing g with
  | nil => rfl
  | cons a as ih => exact (ih _).trans (alarms_wake g a)

theorem length_ready_wakeAll (g : Agenda α) (as : List α) : (g.wakeAll as).ready.length ≤ g.ready.length + as.length := by
  induction as generalizing g with
  | nil => exact Nat.le_refl _
  | cons a as ih =>
    have hone := g.length_ready_wake a
    rw [wakeAll, List.foldl_cons, ← wakeAll, List.length_cons]
    exact Nat.le_trans (ih _) (by omega)

omit [DecidableEq α] in
theorem perm_insertAlarm (t : Instant) (a : α) (alarms : List (Instant × α)) :
    (insertAlarm t a alarms).Perm ((t, a) :: alarms) := by
  induction alarms with
  | nil => exact .refl _
  | cons e rest ih =>
    unfold insertAlarm
    split
    · exact .refl _
    · exact (ih.cons e).trans (.swap _ _ _)

omit [DecidableEq α] in
theorem pairwise_insertAlarm {alarms : List (Instant × α)} (h : alarms.Pairwise (·.1 ≤ ·.1)) (t : Instant) (a : α) :
    (insertAlarm t a alarms).Pairwise (·.1 ≤ ·.1) := by
  induction alarms with
  | nil => exact List.pairwise_singleton _ _
  | cons e rest ih =>
    obtain ⟨hfirst, hrest⟩ := List.pairwise_cons.mp h
    unfold insertAlarm
    split
    · rename_i hlt
      refine List.pairwise_cons.mpr ⟨fun e' he' => ?_, h⟩
      rcases List.mem_cons.mp he' with rfl | he'
      · exact Nat.le_of_lt hlt
      · exact Nat.le_trans (Nat.le_of_lt hlt) (hfirst e' he')
    · rename_i hlt
      refine List.pairwise_cons.mpr ⟨fun e' he' => ?_, ih hrest⟩
      rcases List.mem_cons.mp ((perm_insertAlarm t a rest).subset he') with rfl | he'
      · exact Nat.not_lt.mp hlt
      · exact hfirst e' he'

structure Keeps (b : α) (g g' : Agenda α) : Prop where
  ready : b ∈ g.ready → b ∈ g'.ready
  alarms : ∀ t, (t, b) ∈ g.alarms → (t, b) ∈ g'.alarms

omit [DecidableEq α] in
theorem Keeps.refl (b : α) (g : Agenda α) : Keeps b g g := ⟨id, fun _ => id⟩

theorem keeps_wake (b : α) (g : Agenda α) (a : α) : Keeps b g (g.wake a) where
  ready h := mem_ready_wake.mpr (.inl h)
  alarms _ h := (alarms_wake g a).symm ▸ h

theorem keeps_setAlarm (h : b ≠ a) (g : Agenda α) (t : Instant) : Keeps b g (g.setAlarm a t) where
  ready := id
  alarms _ ht := (perm_insertAlarm t a _).symm.subset
    (List.mem_cons_of_mem _ (List.mem_filter.mpr ⟨ht, decide_eq_true h⟩))

theorem keeps_forget (h : b ≠ a) (g : Agenda α) : Keeps b g (g.forget a) where
  ready hb := List.mem_filter.mpr ⟨hb, decide_eq_true h⟩
  alarms _ ht := List.mem_filter.mpr ⟨ht, decide_eq_true h⟩

theorem mem_alarms_setAlarm (g : Agenda α) (a : α) (t : Instant) : (t, a) ∈ (g.setAlarm a t).alarms :=
  (perm_insertAlarm t a _).symm.subset List.mem_cons_self

structure Upcoming (g : Agenda α) (now : Instant) : Prop where
  sorted : g.alarms.Pairwise (·.1 ≤ ·.1)
  later : ∀ e ∈ g.alarms, now < e.1

theorem Upcoming.wake (h : g.Upcoming now) (a : α) : (g.wake a).Upcoming now := by
  have halarms := alarms_wake g a
  exact ⟨halarms ▸ h.sorted, halarms ▸ h.later⟩

theorem Upcoming.wakeAll (h : g.Upcoming now) (as : List α) : (g.wakeAll as).Upcoming now := by
  have halarms := alarms_wakeAll g as
  exact ⟨halarms ▸ h.sorted, halarms ▸ h.later⟩

theorem Upcoming.forget (h : g.Upcoming now) (a : α) : (g.forget a).Upcoming now :=
  ⟨h.sorted.filter _, fun e he => h.later e (List.mem_filter.mp he).1⟩

theorem Upcoming.setAlarm (h : g.Upcoming now) (a : α) (ht : now < t) : (g.setAlarm a t).Upcoming now where
  sorted := pairwise_insertAlarm (h.sorted.filter _) t a
  later e he := by
    rcases List.mem_cons.mp ((perm_insertAlarm t a _).subset he) with rfl | he
    · exact ht
    · exact h.later e (List.mem_filter.mp he).1

omit [DecidableEq α] in
theorem Upcoming.lt_nextAlarm? (h : g.Upcoming now) (ht : g.nextAlarm? = some t) : now < t := by
  obtain ⟨first, hfirst, rfl⟩ := Option.map_eq_some_iff.mp ht
  exact h.later first (List.mem_of_head? hfirst)

omit [DecidableEq α] in
theorem Upcoming.nextAlarm?_le (h : g.Upcoming now) (ht : g.nextAlarm? = some t) : ∀ e ∈ g.alarms, t ≤ e.1 := by
  obtain ⟨first, hfirst, rfl⟩ := Option.map_eq_some_iff.mp ht
  obtain ⟨rest, heq⟩ := List.head?_eq_some_iff.mp hfirst
  intro e he
  rw [heq] at he
  rcases List.mem_cons.mp he with rfl | he
  · exact Nat.le_refl _
  · exact (List.pairwise_cons.mp (heq ▸ h.sorted)).1 e he

theorem alarms_ring (g : Agenda α) (t : Instant) : (g.ring t).alarms = g.alarms.filter (fun e => !decide (e.1 ≤ t)) := by
  rw [ring, List.partition_eq_filter_filter]
  exact alarms_wakeAll _ _

theorem mem_ready_ring : b ∈ (g.ring t).ready ↔ b ∈ g.ready ∨ ∃ u, (u, b) ∈ g.alarms ∧ u ≤ t := by
  rw [ring, List.partition_eq_filter_filter]
  simp only [mem_ready_wakeAll, List.mem_map, List.mem_filter, decide_eq_true_eq, Prod.exists, exists_eq_right]

theorem Upcoming.ring (h : g.Upcoming now) (t : Instant) : (g.ring t).Upcoming t := by
  refine ⟨alarms_ring g t ▸ h.sorted.filter _, fun e he => ?_⟩
  rw [alarms_ring] at he
  have hlater := (List.mem_filter.mp he).2
  rw [Bool.not_eq_true', decide_eq_false_iff_not] at hlater
  exact Instant.not_le_iff.mp hlater

theorem ring_cases {u : Instant} (h : (u, b) ∈ g.alarms) (t : Instant) :
    b ∈ (g.ring t).ready ∨ (u, b) ∈ (g.ring t).alarms := by
  by_cases hle : u ≤ t
  · exact .inl (mem_ready_ring.mpr (.inr ⟨u, h, hle⟩))
  · rw [alarms_ring]
    exact .inr (List.mem_filter.mpr ⟨h, by simpa using hle⟩)

end Agenda

namespace Actors

variable {σ α : Type} [DecidableEq α] (w : Actors σ α) {P Q : σ → Prop}

omit [DecidableEq α] in
theorem takeTurns_preserves (now : Instant) (hact : ∀ a s, P s → P (w.act now a s))
    (hagenda : ∀ g s, P s → P (w.withAgenda s g)) (n : Nat) (s : σ) (hs : P s) : P (w.takeTurns now n s) := by
  induction n generalizing s with
  | zero => exact hs
  | succ n ih =>
    unfold takeTurns
    split
    · exact hs
    · exact ih _ (hact _ _ (hagenda _ _ hs))

/-- Turns are taken between the instant at which a run begins and its limit, or at the former if that is later. -/
theorem runUntil_preserves (done : σ → Bool) (limit now : Instant)
    (hact : ∀ t : Instant, now.nanos ≤ t.nanos → t.nanos ≤ max now.nanos limit.nanos → ∀ a s, P s → P (w.act t a s))
    (hagenda : ∀ g s, P s → P (w.withAgenda s g)) (s : σ) (hs : P s) : P (w.runUntil done limit now s).1 := by
  fun_induction runUntil w done limit now s with
  | case1 now s u hd =>
    exact w.takeTurns_preserves now (hact now (Nat.le_refl _) (Nat.le_max_left _ _)) hagenda _ _ hs
  | case2 now s u hd hn =>
    exact w.takeTurns_preserves now (hact now (Nat.le_refl _) (Nat.le_max_left _ _)) hagenda _ _ hs
  | case3 now s u hd t ht hlt ih =>
    obtain ⟨hlt, hle⟩ : now.nanos < t.nanos ∧ t.nanos ≤ limit.nanos := hlt
    have hu : P u := w.takeTurns_preserves now (hact now (Nat.le_refl _) (Nat.le_max_left _ _)) hagenda _ _ hs
    refine ih ?_ (hagenda _ _ hu)
    intro t' hge hle'
    exact hact t' (by omega) (by omega)
  | case4 now s u hd t ht hlt =>
    exact w.takeTurns_preserves now (hact now (Nat.le_refl _) (Nat.le_max_left _ _)) hagenda _ _ hs

def turnOf (now : Instant) (a : α) (rest : List α) (s : σ) : σ :=
  w.act now a (w.withAgenda s { w.agenda s with ready := rest })

omit [DecidableEq α] in
theorem takeTurns_cons {now : Instant} {s : σ} {a : α} {rest : List α} (h : (w.agenda s).ready = a :: rest) (n : Nat) :
    w.takeTurns now (n + 1) s = w.takeTurns now n (w.turnOf now a rest s) := by
  simp only [takeTurns, h, turnOf]

omit [DecidableEq α] in
/-- When every turn takes something off a load, and as many turns are allowed, in the end nobody is ready, unless the system
has ended before. -/
theorem takeTurns_rests (now : Instant) (load : σ → Nat) (hended : ∀ a rest s, Q s → Q (w.turnOf now a rest s))
    (hturn : ∀ a rest s, P s → (w.agenda s).ready = a :: rest →
      Q (w.turnOf now a rest s) ∨ P (w.turnOf now a rest s) ∧ load (w.turnOf now a rest s) < load s)
    (n : Nat) (s : σ) (hs : Q s ∨ P s ∧ load s < n) :
    Q (w.takeTurns now n s) ∨ P (w.takeTurns now n s) ∧ (w.agenda (w.takeTurns now n s)).ready = [] := by
  induction n generalizing s with
  | zero => exact hs.imp_right fun h => absurd h.2 (Nat.not_lt_zero _)
  | succ n ih =>
    unfold takeTurns
    split
    · rename_i hnobody
      exact hs.imp_right fun h => ⟨h.1, hnobody⟩
    · rename_i a rest hready
      refine ih _ ?_
      rcases hs with hq | ⟨hp, hlt⟩
      · exact .inl (hended a rest s hq)
      · exact (hturn a rest s hp hready).imp_right fun h => ⟨h.1, Nat.lt_of_lt_of_le h.2 (Nat.le_of_lt_succ hlt)⟩

end Actors

end TargetHealth
