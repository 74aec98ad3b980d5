import Mathlib.Algebra.Order.Group.Multiset
import TargetHealth.Executor.Executor
import TargetHealth.Proofs.Fault

namespace TargetHealth

/-- What a probe is known by: its target, and the epoch under which it was dispatched. -/
abbrev ProbeLabel := TargetId × Nat

def batchLabel (b : Target × Nat) : ProbeLabel := (b.1.id, b.2)

def ProbeTask.label (t : ProbeTask) : ProbeLabel := (t.target.id, t.epoch)

def Completion.label (c : Completion) : ProbeLabel := (c.result.targetId, c.epoch)

/-- The clock has room for a probe that begins at an instant, up to its deadline and the grace past it. -/
def Target.FitsClock (t : Target) (grace : Duration) (now : Instant) : Prop :=
  now.nanos + t.timeout.nanos + grace.nanos < Instant.limit

instance (t : Target) (grace : Duration) (now : Instant) : Decidable (t.FitsClock grace now) :=
  inferInstanceAs (Decidable (now.nanos + t.timeout.nanos + grace.nanos < Instant.limit))

/-- Whether a task begins its probe when it has its turn. -/
def TaskState.begins (cancelled : Bool) : TaskState → Bool
  | .queued => false
  | .admitted waited => !(waited && cancelled)
  | .running _ => false

theorem RunningProbe.targetId_of_result? {p : RunningProbe} {prober : Prober} {grace : Duration} {target : Target}
    {now : Instant} {r : ProbeResult} (h : p.result? prober grace target now = some r) : r.targetId = target.id := by
  have hforced : ∀ r, p.forcedResult? grace target.id now = some r → r.targetId = target.id := by
    intro r hr
    unfold forcedResult? at hr
    split at hr
    · cases hr; rfl
    · split at hr
      · split at hr
        · cases hr; rfl
        · cases hr
      · cases hr
  unfold result? at h
  split at h
  · split at h
    · rename_i ending _ _
      cases h
      cases ending <;> rfl
    · exact hforced r h
  · exact hforced r h

namespace Executor

def pending (x : Executor) : Multiset ProbeLabel := x.live.map ProbeTask.label

/-- The labels of the tasks that were aborted and have not had their turn since. -/
def halted (x : Executor) : Multiset ProbeLabel := (x.tasks.filter x.aborted).map ProbeTask.label

def unread (x : Executor) : Multiset ProbeLabel := x.completions.map Completion.label

/-- The labels of all probes that have not been reported to the reader. -/
def accounted (x : Executor) : Multiset ProbeLabel := x.pending + x.unread

def roll (x : Executor) : List (Nat × Target × Nat) := x.tasks.map (fun t => (t.number, t.target, t.epoch))

/-- Tasks are numbered in the order of their dispatch, and the next number is free and has not been aborted. -/
structure Numbered (x : Executor) : Prop where
  ascending : x.roll.Pairwise (fun a b => a.1 < b.1)
  below : ∀ a ∈ x.roll, a.1 < x.dispatched
  fresh : x.abortedBelow ≤ x.dispatched

/-- An executor that was left to its tasks: some may have ended, and none has come. -/
structure Keeps (x y : Executor) : Prop where
  roll : y.roll.Sublist x.roll
  dispatched : y.dispatched = x.dispatched
  abortedBelow : y.abortedBelow = x.abortedBelow
  prober : y.prober = x.prober
  config : y.config = x.config
  cancelled : y.cancelled = x.cancelled

variable {x y z : Executor}

theorem Keeps.refl (x : Executor) : x.Keeps x := ⟨.refl _, rfl, rfl, rfl, rfl, rfl⟩

theorem Keeps.trans (h : x.Keeps y) (h' : y.Keeps z) : x.Keeps z where
  roll := h'.roll.trans h.roll
  dispatched := h'.dispatched.trans h.dispatched
  abortedBelow := h'.abortedBelow.trans h.abortedBelow
  prober := h'.prober.trans h.prober
  config := h'.config.trans h.config
  cancelled := h'.cancelled.trans h.cancelled

theorem Keeps.numbered (k : x.Keeps y) (h : x.Numbered) : y.Numbered where
  ascending := h.ascending.sublist k.roll
  below a ha := k.dispatched ▸ h.below a (k.roll.subset ha)
  fresh := k.dispatched ▸ k.abortedBelow ▸ h.fresh

theorem Numbered.of_tasks (h : x.Numbered) (ht : y.tasks = x.tasks) (hd : y.dispatched = x.dispatched)
    (hb : y.abortedBelow = x.abortedBelow) : y.Numbered where
  ascending := by rw [roll, ht]; exact h.ascending
  below a ha := by rw [roll, ht] at ha; exact hd ▸ h.below a ha
  fresh := hd ▸ hb ▸ h.fresh

theorem numbered_idle (prober : Prober) (config : ExecutorConfig) : (idle prober config).Numbered :=
  ⟨List.Pairwise.nil, fun _ h => (by cases h), Nat.le_refl 0⟩

theorem eq_idle_of_new {prober : Prober} {config : ExecutorConfig} {x : Executor}
    (h : Executor.new prober config = .ok x) : x = idle prober config := by
  obtain ⟨u, -, hx⟩ := exists_of_bind_eq_ok h
  exact (Except.ok.inj hx).symm

theorem Numbered.nodup (h : x.Numbered) : (x.tasks.map ProbeTask.number).Nodup := by
  have hn : (x.roll.map (·.1)).Pairwise (· < ·) := List.pairwise_map.mpr h.ascending
  rw [roll, List.map_map] at hn
  exact hn.imp Nat.ne_of_lt

theorem task?_some {number : Nat} {t : ProbeTask} (h : x.task? number = some t) : t ∈ x.tasks ∧ t.number = number :=
  ⟨List.mem_of_find?_eq_some h, by simpa using List.find?_some h⟩

theorem mem_live_iff {t : ProbeTask} : t ∈ x.live ↔ t ∈ x.tasks ∧ x.aborted t = false := by
  rw [live, List.mem_filter, Bool.not_eq_true']

theorem live_eq_nil_iff : x.live = [] ↔ ∀ t ∈ x.tasks, x.aborted t = true := by
  simp [live]

theorem live_eq_tasks (h : x.abortedBelow = 0) : x.live = x.tasks := by
  refine List.filter_eq_self.mpr fun t _ => ?_
  rw [aborted, h]
  rfl

theorem keeps_send (x : Executor) (epoch : Nat) (r : ProbeResult) (now : Instant) : x.Keeps (x.send epoch r now) :=
  ⟨.refl _, rfl, rfl, rfl, rfl, rfl⟩

theorem accounted_send (x : Executor) (epoch : Nat) (r : ProbeResult) (now : Instant) :
    (x.send epoch r now).accounted = (r.targetId, epoch) ::ₘ x.accounted := by
  have hu : (x.send epoch r now).unread = x.unread + {(r.targetId, epoch)} := by
    simp only [unread, send, List.map_append, ← Multiset.coe_add]
    rfl
  rw [accounted, hu, ← add_assoc, add_comm, Multiset.singleton_add]
  rfl

theorem roll_setState (x : Executor) (number : Nat) (state : TaskState) : (x.setState number state).roll = x.roll := by
  simp only [roll, setState, List.map_map]
  refine List.map_congr_left fun t _ => ?_
  simp only [Function.comp_apply]
  split <;> rfl

theorem keeps_setState (x : Executor) (number : Nat) (state : TaskState) : x.Keeps (x.setState number state) :=
  ⟨by rw [roll_setState], rfl, rfl, rfl, rfl, rfl⟩

theorem pending_eq_roll (x : Executor) : x.pending =
    ((x.roll.filter (fun a => !decide (a.1 < x.abortedBelow))).map (fun a => (a.2.1.id, a.2.2)) : List ProbeLabel) := by
  rw [pending, live, roll, List.filter_map, List.map_map]
  rfl

theorem halted_eq_roll (x : Executor) : x.halted =
    ((x.roll.filter (fun a => decide (a.1 < x.abortedBelow))).map (fun a => (a.2.1.id, a.2.2)) : List ProbeLabel) := by
  rw [halted, roll, List.filter_map, List.map_map]
  rfl

theorem pending_add_halted (x : Executor) : x.pending + x.halted = (x.tasks.map ProbeTask.label : Multiset ProbeLabel) := by
  have hp := (List.filter_append_perm x.aborted x.tasks).map ProbeTask.label
  rw [List.map_append] at hp
  rw [add_comm, pending, halted, Multiset.coe_add, Multiset.coe_eq_coe]
  exact hp

theorem Keeps.halted_le (h : x.Keeps y) : y.halted ≤ x.halted := by
  rw [halted_eq_roll, halted_eq_roll, h.abortedBelow]
  exact Multiset.coe_le.mpr ((h.roll.filter _).map _).subperm

theorem Keeps.live_eq_nil (h : x.Keeps y) (hx : x.live = []) : y.live = [] := by
  have hroll (z : Executor) : z.live = [] ↔ ∀ a ∈ z.roll, a.1 < z.abortedBelow := by
    simp [live, Executor.roll, aborted]
  rw [hroll, h.abortedBelow]
  exact fun a ha => (hroll x).mp hx a (h.roll.subset ha)

theorem accounted_setState (x : Executor) (number : Nat) (state : TaskState) :
    (x.setState number state).accounted = x.accounted := by
  rw [accounted, pending_eq_roll, roll_setState]
  exact congrArg (· + x.unread) (pending_eq_roll x).symm

theorem keeps_handOver (x : Executor) : x.Keeps x.handOver := by
  unfold handOver
  split
  · rename_i t _
    refine .trans (keeps_setState x t.number (.admitted true)) ?_
    exact ⟨.refl _, rfl, rfl, rfl, rfl, rfl⟩
  · exact .refl x

theorem accounted_handOver (x : Executor) : x.handOver.accounted = x.accounted := by
  unfold handOver
  split
  · exact accounted_setState x _ _
  · rfl

theorem filter_number_ne {t : ProbeTask} {ts : List ProbeTask} (h : (ts.map ProbeTask.number).Nodup) (ht : t ∈ ts) :
    (ts : Multiset ProbeTask) = t ::ₘ (ts.filter (fun u => u.number ≠ t.number) : Multiset ProbeTask) := by
  induction ts with
  | nil => simp at ht
  | cons u ts ih =>
    simp only [List.map_cons, List.nodup_cons] at h
    rcases List.mem_cons.mp ht with rfl | ht
    · have hrest : ts.filter (fun u => decide (u.number ≠ t.number)) = ts := by
        refine List.filter_eq_self.mpr fun u hu => ?_
        have : u.number ≠ t.number := fun he => h.1 (he ▸ List.mem_map_of_mem hu)
        simpa using this
      rw [List.filter_cons_of_neg (by simp), hrest]
      rfl
    · have hne : u.number ≠ t.number := fun he => h.1 (he ▸ List.mem_map_of_mem ht)
      rw [List.filter_cons_of_pos (by simpa using hne), ← Multiset.cons_coe, ← Multiset.cons_coe,
        Multiset.cons_swap, ← ih h.2 ht]

theorem keeps_drop (x : Executor) (number : Nat) : x.Keeps (x.drop number) where
  roll := by rw [roll, drop]; exact List.filter_sublist.map _
  dispatched := rfl
  abortedBelow := rfl
  prober := rfl
  config := rfl
  cancelled := rfl

theorem perm_live_drop (h : x.Numbered) {t : ProbeTask} (ht : t ∈ x.tasks) :
    x.live.Perm ((if x.aborted t then [] else [t]) ++ (x.drop t.number).live) := by
  have hp := (Multiset.coe_eq_coe.mp (filter_number_ne h.nodup ht)).filter (fun u => !x.aborted u)
  cases ha : x.aborted t with
  | true =>
    rw [List.filter_cons_of_neg (by simp [ha])] at hp
    exact hp
  | false =>
    rw [List.filter_cons_of_pos (by simp [ha])] at hp
    exact hp

theorem accounted_drop (h : x.Numbered) {t : ProbeTask} (ht : t ∈ x.live) :
    x.accounted = t.label ::ₘ (x.drop t.number).accounted := by
  obtain ⟨hmem, ha⟩ := mem_live_iff.mp ht
  have hp := Multiset.coe_eq_coe.mpr ((perm_live_drop h hmem).map ProbeTask.label)
  rw [ha] at hp
  rw [accounted, pending, hp]
  rfl

/-- An aborted task was lost when it was aborted. -/
theorem accounted_drop_of_aborted (h : x.Numbered) {t : ProbeTask} (ht : t ∈ x.tasks) (ha : x.aborted t = true) :
    (x.drop t.number).accounted = x.accounted := by
  have hp := Multiset.coe_eq_coe.mpr ((perm_live_drop h ht).map ProbeTask.label)
  rw [ha] at hp
  rw [accounted, accounted, pending, pending, hp]
  rfl

theorem keeps_release (x : Executor) (number : Nat) : x.Keeps (x.release number) :=
  (keeps_drop x number).trans (keeps_handOver _)

theorem accounted_release (h : x.Numbered) {t : ProbeTask} (ht : t ∈ x.live) :
    x.accounted = t.label ::ₘ (x.release t.number).accounted := by
  rw [release, accounted_handOver]
  exact accounted_drop h ht

/-- The label of a probe that the turn of a task loses: it begins at an instant from which the clock has no room for it. -/
def lostBy (x : Executor) (number : Nat) (now : Instant) : List ProbeLabel :=
  match x.task? number with
  | some t =>
    if x.aborted t = false ∧ t.state.begins x.cancelled ∧ ¬ t.target.FitsClock x.config.grace now then [t.label] else []
  | none => []

def FitsTurn (x : Executor) (number : Nat) (now : Instant) : Prop :=
  ∀ t ∈ x.task? number, x.aborted t = false → t.state.begins x.cancelled = true → t.target.FitsClock x.config.grace now

instance (x : Executor) (number : Nat) (now : Instant) : Decidable (x.FitsTurn number now) :=
  inferInstanceAs (Decidable (∀ t ∈ x.task? number, x.aborted t = false →
    t.state.begins x.cancelled = true → t.target.FitsClock x.config.grace now))

theorem lostBy_eq_nil_iff (x : Executor) (number : Nat) (now : Instant) :
    x.lostBy number now = [] ↔ x.FitsTurn number now := by
  unfold lostBy FitsTurn
  cases x.task? number with
  | none => simp
  | some t => simp

theorem accounted_proceed (h : x.Numbered) {t : ProbeTask} (ht : t ∈ x.live) (probe : RunningProbe) (now : Instant) :
    (x.proceed t probe now).accounted = x.accounted := by
  unfold proceed
  split
  · rename_i r hr
    have hid : r.targetId = t.target.id := RunningProbe.targetId_of_result? hr
    have hx : ({ x with metrics := x.metrics.finished } : Executor).Numbered := h.of_tasks rfl rfl rfl
    rw [accounted_send, hid]
    exact (accounted_release hx ht).symm
  · exact accounted_setState x _ _

theorem keeps_proceed (x : Executor) (t : ProbeTask) (probe : RunningProbe) (now : Instant) :
    x.Keeps (x.proceed t probe now) := by
  unfold proceed
  split
  · refine .trans ?_ ((keeps_release _ t.number).trans (keeps_send _ _ _ _))
    exact ⟨.refl _, rfl, rfl, rfl, rfl, rfl⟩
  · refine .trans (keeps_setState x t.number (.running probe)) ?_
    exact ⟨.refl _, rfl, rfl, rfl, rfl, rfl⟩

theorem begin_of_fits {t : ProbeTask} {now : Instant} (hf : t.target.FitsClock x.config.grace now) :
    x.begin t now = proceed
      { x with
        calls := x.calls.insert t.target.id ((x.calls.get? t.target.id).getD 0 + 1)
        peak := max x.peak (x.active + 1)
        metrics := x.metrics.started } t
      ⟨(x.calls.get? t.target.id).getD 0, now, now.after t.target.timeout, if x.cancelled then some now else none⟩ now := by
  unfold Target.FitsClock at hf
  have h1 : now.add? t.target.timeout = .ok (now.after t.target.timeout) := by
    rw [Instant.add?, if_pos (by omega)]
  have h2 : (now.after t.target.timeout).add? x.config.grace =
      .ok ((now.after t.target.timeout).after x.config.grace) := by
    rw [Instant.add?, if_pos (by simpa [Instant.after] using hf)]
  simp only [begin, h1, h2]

theorem begin_of_not_fits {t : ProbeTask} {now : Instant} (hf : ¬ t.target.FitsClock x.config.grace now) :
    x.begin t now = x.release t.number := by
  unfold Target.FitsClock at hf
  unfold begin
  by_cases h1 : now.nanos + t.target.timeout.nanos < Instant.limit
  · have ha : now.add? t.target.timeout = .ok (now.after t.target.timeout) := by rw [Instant.add?, if_pos h1]
    have hb : (now.after t.target.timeout).add? x.config.grace = .error .clockRange := by
      rw [Instant.add?, if_neg (by simpa [Instant.after] using hf)]
    simp only [ha, hb]
  · have ha : now.add? t.target.timeout = .error .clockRange := by rw [Instant.add?, if_neg h1]
    simp only [ha]

theorem keeps_begin (x : Executor) (t : ProbeTask) (now : Instant) : x.Keeps (x.begin t now) := by
  unfold begin
  split
  · exact keeps_release x t.number
  · split
    · exact keeps_release x t.number
    · refine .trans ?_ (keeps_proceed _ t _ now)
      exact ⟨.refl _, rfl, rfl, rfl, rfl, rfl⟩

theorem accounted_begin (h : x.Numbered) {t : ProbeTask} (ht : t ∈ x.live) (now : Instant) :
    x.accounted = (x.begin t now).accounted + if t.target.FitsClock x.config.grace now then 0 else {t.label} := by
  by_cases hf : t.target.FitsClock x.config.grace now
  · rw [if_pos hf, add_zero, begin_of_fits hf, accounted_proceed]
    · rfl
    · exact h.of_tasks rfl rfl rfl
    · exact ht
  · rw [if_neg hf, begin_of_not_fits hf, accounted_release h ht, add_comm, Multiset.singleton_add]

theorem accounted_giveUp (x : Executor) (t : ProbeTask) (now : Instant) :
    (x.giveUp t now).accounted = t.label ::ₘ x.accounted :=
  accounted_send x t.epoch _ now

theorem accounted_step_of_begins (h : x.Numbered) {t : ProbeTask} (ht : t ∈ x.live) (now : Instant)
    (hb : t.state.begins x.cancelled = true) :
    x.accounted = (x.step t now).accounted + if t.target.FitsClock x.config.grace now then 0 else {t.label} := by
  cases hs : t.state with
  | queued => simp [hs, TaskState.begins] at hb
  | running probe => simp [hs, TaskState.begins] at hb
  | admitted waited =>
    cases waited with
    | false =>
      simp only [step, hs]
      exact accounted_begin h ht now
    | true =>
      have hc : x.cancelled = false := by simpa [hs, TaskState.begins] using hb
      simp only [step, hs]
      rw [if_neg (by simp [hc])]
      exact accounted_begin (h.of_tasks rfl rfl rfl : ({ x with waiting := x.waiting - 1 } : Executor).Numbered) ht now

theorem accounted_step_of_not_begins (h : x.Numbered) {t : ProbeTask} (ht : t ∈ x.live) (now : Instant)
    (hb : t.state.begins x.cancelled = false) : (x.step t now).accounted = x.accounted := by
  have hw : ({ x with waiting := x.waiting - 1 } : Executor).Numbered := h.of_tasks rfl rfl rfl
  cases hs : t.state with
  | queued =>
    cases hc : x.cancelled with
    | false => simp [step, hs, hc]
    | true =>
      simp only [step, hs]
      rw [if_pos hc, accounted_giveUp]
      exact (accounted_drop hw ht).symm
  | running probe =>
    simp only [step, hs]
    exact accounted_proceed h ht _ now
  | admitted waited =>
    obtain ⟨rfl, hc⟩ : waited = true ∧ x.cancelled = true := by simpa [hs, TaskState.begins] using hb
    simp only [step, hs]
    rw [if_pos hc, accounted_giveUp]
    exact (accounted_release hw ht).symm

theorem keeps_step (x : Executor) (t : ProbeTask) (now : Instant) : x.Keeps (x.step t now) := by
  have hw : x.Keeps { x with waiting := x.waiting - 1 } := ⟨.refl _, rfl, rfl, rfl, rfl, rfl⟩
  unfold step
  split
  · split
    · exact hw.trans ((keeps_drop _ t.number).trans (keeps_send _ _ _ _))
    · exact .refl x
  · split
    · exact hw.trans ((keeps_release _ t.number).trans (keeps_send _ _ _ _))
    · exact hw.trans (keeps_begin _ t now)
  · exact keeps_begin x t now
  · exact keeps_proceed x t _ now

theorem keeps_discard (x : Executor) (t : ProbeTask) : x.Keeps (x.discard t) := by
  unfold discard
  split
  · exact keeps_drop x t.number
  · exact keeps_release x t.number
  · refine .trans ?_ (keeps_release _ t.number)
    exact ⟨.refl _, rfl, rfl, rfl, rfl, rfl⟩

theorem keeps_stepNumber (x : Executor) (number : Nat) (now : Instant) : x.Keeps (x.stepNumber number now) := by
  unfold stepNumber
  split
  · split
    · exact keeps_discard x _
    · exact keeps_step x _ now
  · exact .refl x

theorem accounted_discard (h : x.Numbered) {t : ProbeTask} (ht : t ∈ x.tasks) (ha : x.aborted t = true) :
    (x.discard t).accounted = x.accounted := by
  have hdrop := accounted_drop_of_aborted h ht ha
  unfold discard
  split
  · exact hdrop
  · exact (accounted_handOver _).trans hdrop
  · exact (accounted_handOver _).trans hdrop

theorem accounted_stepNumber (h : x.Numbered) (number : Nat) (now : Instant) :
    x.accounted = (x.stepNumber number now).accounted + (x.lostBy number now : Multiset ProbeLabel) := by
  unfold stepNumber lostBy
  cases ht : x.task? number with
  | none => simp
  | some t =>
    have hm := (task?_some ht).1
    cases ha : x.aborted t with
    | true => simp [ha, accounted_discard h hm ha]
    | false =>
      have hlive := mem_live_iff.mpr ⟨hm, ha⟩
      cases hb : t.state.begins x.cancelled with
      | false => simp [ha, hb, accounted_step_of_not_begins h hlive now hb]
      | true =>
        have hl := accounted_step_of_begins h hlive now hb
        by_cases hf : t.target.FitsClock x.config.grace now
        · simpa [ha, hb, hf] using hl
        · simpa [ha, hb, hf] using hl

theorem accounted_read (x : Executor) :
    x.accounted = ({ x with completions := x.completions.tail } : Executor).accounted +
      ((x.completions.take 1).map Completion.label : Multiset ProbeLabel) := by
  have hu : x.unread = ((x.completions.take 1).map Completion.label : Multiset ProbeLabel) +
      (x.completions.tail.map Completion.label : Multiset ProbeLabel) := by
    rw [Multiset.coe_add, ← List.map_append, ← List.drop_one, List.take_append_drop]
    rfl
  rw [accounted, hu, ← add_assoc, add_right_comm]
  rfl

theorem live_abortAll (h : x.Numbered) : x.abortAll.live = [] := by
  refine List.filter_eq_nil_iff.mpr fun t ht => ?_
  have hlt : t.number < x.dispatched := h.below _ (List.mem_map_of_mem ht)
  simp [aborted, abortAll, hlt]

theorem accounted_abortAll (h : x.Numbered) :
    x.accounted = x.abortAll.accounted + (x.live.map ProbeTask.label : Multiset ProbeLabel) := by
  have hnone : x.abortAll.pending = 0 := by rw [pending, live_abortAll h]; rfl
  rw [accounted, accounted, hnone, zero_add, add_comm]
  rfl

theorem halted_abortAll (h : x.Numbered) : x.abortAll.halted = x.pending + x.halted := by
  have hnone : x.abortAll.pending = 0 := by rw [pending, live_abortAll h]; rfl
  have hall := x.abortAll.pending_add_halted
  rw [hnone, zero_add] at hall
  exact hall.trans x.pending_add_halted.symm

theorem Numbered.abortAll (h : x.Numbered) : x.abortAll.Numbered := ⟨h.ascending, h.below, Nat.le_refl _⟩

theorem live_spawn (h : x.abortedBelow ≤ x.dispatched) (target : Target) (epoch : Nat) (state : TaskState) :
    (x.spawn target epoch state).live = x.live ++ [⟨x.dispatched, target, epoch, state⟩] := by
  have hnew : x.aborted ⟨x.dispatched, target, epoch, state⟩ = false := by simpa [aborted] using h
  have hlast : [(⟨x.dispatched, target, epoch, state⟩ : ProbeTask)].filter (fun t => !x.aborted t) =
      [⟨x.dispatched, target, epoch, state⟩] := List.filter_cons_of_pos (by rw [hnew]; rfl)
  exact (List.filter_append _ _).trans (congrArg _ hlast)

theorem accounted_spawn (h : x.abortedBelow ≤ x.dispatched) (target : Target) (epoch : Nat) (state : TaskState) :
    (x.spawn target epoch state).accounted = (target.id, epoch) ::ₘ x.accounted := by
  have hp : (x.spawn target epoch state).pending = x.pending + {(target.id, epoch)} := by
    rw [pending, live_spawn h, List.map_append, ← Multiset.coe_add]
    rfl
  rw [accounted, hp, add_comm x.pending, add_assoc, Multiset.singleton_add]
  rfl

theorem roll_spawn (x : Executor) (target : Target) (epoch : Nat) (state : TaskState) :
    (x.spawn target epoch state).roll = x.roll ++ [(x.dispatched, target, epoch)] := by
  simp only [roll, spawn, List.map_append, List.map_cons, List.map_nil]

theorem Numbered.spawn (h : x.Numbered) (target : Target) (epoch : Nat) (state : TaskState) :
    (x.spawn target epoch state).Numbered where
  ascending := by
    rw [roll_spawn]
    refine List.pairwise_append.mpr ⟨h.ascending, List.pairwise_singleton _ _, ?_⟩
    intro a ha b hb
    rw [List.mem_singleton.mp hb]
    exact h.below a ha
  below a ha := by
    rw [roll_spawn] at ha
    rcases List.mem_append.mp ha with ha | ha
    · exact Nat.lt_succ_of_lt (h.below a ha)
    · rw [List.mem_singleton.mp ha]
      exact Nat.lt_succ_self _
  fresh := Nat.le_succ_of_le h.fresh

theorem tasks_dispatch (x : Executor) (target : Target) (epoch : Nat) (now : Instant) :
    (x.dispatch target epoch now).tasks = x.tasks ∨ ∃ state, (x.dispatch target epoch now).tasks =
      x.tasks ++ [⟨x.dispatched, target, epoch, state⟩] ∧
        (state = .queued ∨ state = .admitted false ∧ x.cancelled = false) := by
  unfold dispatch
  split
  · exact .inl rfl
  · rename_i hopen
    split
    · exact .inr ⟨_, rfl, .inr ⟨rfl, Bool.eq_false_iff.mpr hopen⟩⟩
    · split
      · exact .inl rfl
      · exact .inr ⟨_, rfl, .inl rfl⟩

theorem fixed_dispatch (x : Executor) (target : Target) (epoch : Nat) (now : Instant) :
    (x.dispatch target epoch now).prober = x.prober ∧ (x.dispatch target epoch now).config = x.config ∧
      (x.dispatch target epoch now).cancelled = x.cancelled ∧
      (x.dispatch target epoch now).abortedBelow = x.abortedBelow := by
  unfold dispatch
  split
  · exact ⟨rfl, rfl, rfl, rfl⟩
  · split
    · exact ⟨rfl, rfl, rfl, rfl⟩
    · split <;> exact ⟨rfl, rfl, rfl, rfl⟩

theorem accounted_dispatch (h : x.Numbered) (target : Target) (epoch : Nat) (now : Instant) :
    (x.dispatch target epoch now).accounted = (target.id, epoch) ::ₘ x.accounted := by
  unfold dispatch
  split
  · exact accounted_send x epoch _ now
  · split
    · exact accounted_spawn h.fresh target epoch _
    · split
      · exact accounted_send x epoch _ now
      · exact accounted_spawn (x := { x with waiting := x.waiting + 1 }) h.fresh target epoch _

theorem halted_dispatch (h : x.Numbered) (target : Target) (epoch : Nat) (now : Instant) :
    (x.dispatch target epoch now).halted = x.halted := by
  have hbelow := (x.fixed_dispatch target epoch now).2.2.2
  have hcongr (u : ProbeTask) : (x.dispatch target epoch now).aborted u = x.aborted u := by rw [aborted, aborted, hbelow]
  rw [halted, halted, funext hcongr]
  rcases x.tasks_dispatch target epoch now with heq | ⟨state, heq, -⟩
  · rw [heq]
  · have hnew : ¬ x.aborted ⟨x.dispatched, target, epoch, state⟩ = true := by simpa [aborted] using h.fresh
    rw [heq, List.filter_append, List.filter_cons_of_neg hnew, List.filter_nil, List.append_nil]

theorem Numbered.dispatch (h : x.Numbered) (target : Target) (epoch : Nat) (now : Instant) :
    (x.dispatch target epoch now).Numbered := by
  unfold Executor.dispatch
  split
  · exact h.of_tasks rfl rfl rfl
  · split
    · exact h.spawn target epoch _
    · split
      · exact h.of_tasks rfl rfl rfl
      · exact (h.of_tasks rfl rfl rfl : ({ x with waiting := x.waiting + 1 } : Executor).Numbered).spawn target epoch _

end Executor

end TargetHealth
