import TargetHealth.Proofs.Executor.Capacity

namespace TargetHealth

/-- A probe ends with its prober, at its limit, or when the grace after its cancellation is over. -/
theorem RunningProbe.result?_cases {p : RunningProbe} {prober : Prober} {grace : Duration} {target : Target}
    {now : Instant} {r : ProbeResult} (h : p.result? prober grace target now = some r) :
    (∃ t ending, p.callEnd prober target = some (t, ending) ∧ t ≤ now ∧ r = ownResult target.id now ending) ∨
    (p.limit grace ≤ now ∧ r = overrun target.id now) ∨
    ∃ t, p.cancelledAt = some t ∧ t.after grace ≤ now ∧ r = .cancelled target.id now.wallClock := by
  have hforced (hf : p.forcedResult? grace target.id now = some r) : (p.limit grace ≤ now ∧ r = overrun target.id now) ∨
      ∃ t, p.cancelledAt = some t ∧ t.after grace ≤ now ∧ r = .cancelled target.id now.wallClock := by
    unfold forcedResult? at hf
    split at hf
    · rename_i hlimit
      exact .inl ⟨hlimit, (Option.some.inj hf).symm⟩
    · split at hf
      · rename_i t ht
        split at hf
        · rename_i hgrace
          exact .inr ⟨t, ht, hgrace, (Option.some.inj hf).symm⟩
        · cases hf
      · cases hf
  unfold result? at h
  split at h
  · rename_i t ending hcall
    split at h
    · rename_i hle
      exact .inl ⟨t, ending, hcall, hle, (Option.some.inj h).symm⟩
    · exact .inr (hforced h)
  · exact .inr (hforced h)

namespace Executor

/-- The probe that a task has in its turn, if it begins one then or has begun one before. -/
def probeIn? (x : Executor) (t : ProbeTask) (now : Instant) : Option RunningProbe :=
  match t.state with
  | .queued => none
  | .admitted _ =>
    if t.state.begins x.cancelled ∧ t.target.FitsClock x.config.grace now then
      some ⟨(x.calls.get? t.target.id).getD 0, now, now.after t.target.timeout, if x.cancelled then some now else none⟩
    else none
  | .running p => some (if x.cancelled ∧ p.cancelledAt = none then { p with cancelledAt := some now } else p)

def callsIn (x : Executor) (t : ProbeTask) : Table TargetId Nat :=
  if t.state.begins x.cancelled then x.calls.insert t.target.id ((x.calls.get? t.target.id).getD 0 + 1) else x.calls

inductive Turns (x : Executor) (t : ProbeTask) (now : Instant) (y : Executor) : Prop
  | waits (hq : t.state = .queued) (hc : x.cancelled = false) (heq : y = x)
  | givesUp (hw : t.state.waits = true) (hc : x.cancelled = true)
      (tasks : y.tasks = dropIn t.number x.tasks ∨ y.tasks = handOverIn (dropIn t.number x.tasks))
      (completions : y.completions = x.completions ++ [⟨t.epoch, .cancelled t.target.id now.wallClock, now⟩])
      (calls : y.calls = x.calls)
  | loses (hb : t.state.begins x.cancelled = true) (hf : ¬ t.target.FitsClock x.config.grace now)
      (tasks : y.tasks = handOverIn (dropIn t.number x.tasks)) (completions : y.completions = x.completions)
      (calls : y.calls = x.calls)
  | reports (p : RunningProbe) (r : ProbeResult) (hp : x.probeIn? t now = some p)
      (hr : p.result? x.prober x.config.grace t.target now = some r)
      (tasks : y.tasks = handOverIn (dropIn t.number x.tasks))
      (completions : y.completions = x.completions ++ [⟨t.epoch, r, now⟩]) (calls : y.calls = x.callsIn t)
  | runsOn (p : RunningProbe) (hp : x.probeIn? t now = some p)
      (hr : p.result? x.prober x.config.grace t.target now = none)
      (tasks : y.tasks = setIn t.number (.running p) x.tasks) (completions : y.completions = x.completions)
      (calls : y.calls = x.callsIn t)
  | leaves (ha : x.aborted t = true)
      (tasks : y.tasks = dropIn t.number x.tasks ∨ y.tasks = handOverIn (dropIn t.number x.tasks))
      (completions : y.completions = x.completions) (calls : y.calls = x.calls)

variable {x y : Executor} {t u : ProbeTask} {now : Instant}

theorem completions_release (x : Executor) (number : Nat) : (x.release number).completions = x.completions := by
  unfold release handOver
  split <;> rfl

theorem calls_release (x : Executor) (number : Nat) : (x.release number).calls = x.calls := by
  unfold release handOver
  split <;> rfl

theorem turns_proceed (y : Executor) {p : RunningProbe} (hp : x.probeIn? t now = some p) (hprober : y.prober = x.prober)
    (hconfig : y.config = x.config) (ht : y.tasks = x.tasks) (hc : y.completions = x.completions)
    (hcalls : y.calls = x.callsIn t) : x.Turns t now (y.proceed t p now) := by
  unfold proceed
  rw [hprober, hconfig]
  split
  · rename_i r hr
    refine .reports p r hp hr ?_ ?_ ?_
    · exact (tasks_handOver _).trans (congrArg (fun ts => handOverIn (dropIn t.number ts)) ht)
    · exact congrArg (· ++ _) ((completions_release _ _).trans hc)
    · exact (calls_release _ _).trans hcalls
  · rename_i hr
    exact .runsOn p hp hr (congrArg (setIn t.number _) ht) hc hcalls

theorem turns_begin (y : Executor) (hb : t.state.begins x.cancelled = true) (hprober : y.prober = x.prober)
    (hconfig : y.config = x.config) (ht : y.tasks = x.tasks) (hc : y.completions = x.completions)
    (hcalls : y.calls = x.calls) (hcancelled : y.cancelled = x.cancelled) : x.Turns t now (y.begin t now) := by
  by_cases hf : t.target.FitsClock x.config.grace now
  · rw [begin_of_fits (hconfig ▸ hf), hcalls, hcancelled]
    refine turns_proceed _ ?_ hprober hconfig ht hc ?_
    · cases hs : t.state with
      | queued | running => simp [hs, TaskState.begins] at hb
      | admitted waited =>
        rw [hs] at hb
        simp only [probeIn?, hs]
        exact if_pos ⟨hb, hf⟩
    · rw [callsIn, if_pos hb]
  · rw [begin_of_not_fits (hconfig ▸ hf)]
    refine .loses hb hf ?_ ((completions_release _ _).trans hc) ((calls_release _ _).trans hcalls)
    exact (tasks_handOver _).trans (congrArg (fun ts => handOverIn (dropIn t.number ts)) ht)

theorem turns_step (x : Executor) (t : ProbeTask) (now : Instant) : x.Turns t now (x.step t now) := by
  cases hs : t.state with
  | queued =>
    simp only [step, hs]
    split
    · rename_i hc
      exact .givesUp (by rw [hs]; rfl) hc (.inl rfl) rfl rfl
    · rename_i hc
      exact .waits hs (Bool.eq_false_iff.mpr hc) rfl
  | admitted waited =>
    cases waited with
    | false =>
      simp only [step, hs]
      exact turns_begin x (by rw [hs]; rfl) rfl rfl rfl rfl rfl rfl
    | true =>
      simp only [step, hs]
      split
      · rename_i hc
        refine .givesUp (by rw [hs]; rfl) hc (.inr (tasks_handOver _)) ?_ (calls_release _ _)
        exact congrArg (· ++ _) (completions_release _ _)
      · rename_i hc
        exact turns_begin { x with waiting := x.waiting - 1 } (by rw [hs, TaskState.begins]; simpa using hc)
          rfl rfl rfl rfl rfl rfl
  | running probe =>
    simp only [step, hs]
    refine turns_proceed x (by rw [probeIn?, hs]) rfl rfl rfl rfl ?_
    rw [callsIn, hs]
    rfl

theorem turns_discard (ha : x.aborted t = true) (now : Instant) : x.Turns t now (x.discard t) := by
  have hcases := discard_cases x t
  refine .leaves ha (hcases.imp (·.2.2) (·.2.2)) ?_ ?_
  · unfold discard
    split
    · rfl
    · exact completions_release x t.number
    · exact completions_release _ t.number
  · unfold discard
    split
    · rfl
    · exact calls_release x t.number
    · exact calls_release _ t.number

theorem turns_stepNumber {number : Nat} (ht : x.task? number = some t) (now : Instant) :
    x.Turns t now (x.stepNumber number now) := by
  rw [stepNumber, ht]
  dsimp only
  split
  · rename_i ha
    exact turns_discard ha now
  · exact turns_step x t now

theorem stepNumber_of_none {number : Nat} (ht : x.task? number = none) (now : Instant) : x.stepNumber number now = x := by
  rw [stepNumber, ht]

theorem mem_handOverIn {ts : List ProbeTask} (hn : (ts.map ProbeTask.number).Nodup) (hu : u ∈ handOverIn ts) :
    u ∈ ts ∨ ∃ v ∈ ts, v.state = .queued ∧ u = { v with state := .admitted true } := by
  rcases handOverIn_cases hn with ⟨-, heq⟩ | ⟨v, hv, hq, hold, hnew⟩
  · exact .inl (heq ▸ hu)
  · rcases List.mem_cons.mp (hnew.subset hu) with rfl | hu
    · exact .inr ⟨v, hv, hq, rfl⟩
    · exact .inl (List.mem_of_mem_filter hu)

/-- Where a task comes from that is there after a turn. It is as it was, or has been handed a permit, or has had the turn and
runs its probe. -/
theorem Turns.mem_tasks (h : x.Turns t now y) (hn : (x.tasks.map ProbeTask.number).Nodup) (ht : t ∈ x.tasks)
    (hu : u ∈ y.tasks) :
    u ∈ x.tasks ∨ (∃ v ∈ x.tasks, v.state = .queued ∧ u = { v with state := .admitted true }) ∨
      ∃ p, u = { t with state := .running p } ∧ x.probeIn? t now = some p ∧
        p.result? x.prober x.config.grace t.target now = none := by
  have hrest : ((dropIn t.number x.tasks).map ProbeTask.number).Nodup := hn.sublist (List.filter_sublist.map _)
  have hover (hu : u ∈ handOverIn (dropIn t.number x.tasks)) :
      u ∈ x.tasks ∨ ∃ v ∈ x.tasks, v.state = .queued ∧ u = { v with state := .admitted true } := by
    rcases mem_handOverIn hrest hu with hu | ⟨v, hv, hq, heq⟩
    · exact .inl (List.mem_of_mem_filter hu)
    · exact .inr ⟨v, List.mem_of_mem_filter hv, hq, heq⟩
  cases h with
  | waits _ _ heq => exact .inl (heq ▸ hu)
  | givesUp _ _ tasks | leaves _ tasks =>
    rcases tasks with htasks | htasks
    · exact .inl (List.mem_of_mem_filter (htasks ▸ hu))
    · exact (hover (htasks ▸ hu)).imp_right .inl
  | loses _ _ tasks | reports _ _ _ _ tasks => exact (hover (tasks ▸ hu)).imp_right .inl
  | runsOn p hp hr tasks =>
    rcases List.mem_cons.mp ((perm_setIn hn ht _).subset (tasks ▸ hu)) with heq | hu
    · exact .inr (.inr ⟨p, heq, hp, hr⟩)
    · exact .inl (List.mem_of_mem_filter hu)

theorem Turns.mem_completions (h : x.Turns t now y) {c : Completion} (hc : c ∈ y.completions) :
    c ∈ x.completions ∨ c.epoch = t.epoch ∧ c.sentAt = now ∧ (c.result = .cancelled t.target.id now.wallClock ∨
      ∃ p, x.probeIn? t now = some p ∧ p.result? x.prober x.config.grace t.target now = some c.result) := by
  cases h with
  | waits _ _ heq => exact .inl (heq ▸ hc)
  | loses _ _ _ completions | leaves _ _ completions => exact .inl (completions ▸ hc)
  | runsOn _ _ _ _ completions => exact .inl (completions ▸ hc)
  | givesUp _ _ _ completions =>
    refine (List.mem_append.mp (completions ▸ hc)).imp_right fun hnew => ?_
    cases List.mem_singleton.mp hnew
    exact ⟨rfl, rfl, .inl rfl⟩
  | reports p r hp hr _ completions =>
    refine (List.mem_append.mp (completions ▸ hc)).imp_right fun hnew => ?_
    cases List.mem_singleton.mp hnew
    exact ⟨rfl, rfl, .inr ⟨p, hp, hr⟩⟩

theorem mem_handOverIn_of_holdsPermit {ts : List ProbeTask} (hn : (ts.map ProbeTask.number).Nodup) (hu : u ∈ ts)
    (hpermit : u.state.holdsPermit = true) : u ∈ handOverIn ts := by
  rcases handOverIn_cases hn with ⟨-, heq⟩ | ⟨v, -, hv, hold, hnew⟩
  · exact heq.symm ▸ hu
  · refine hnew.symm.subset (List.mem_cons_of_mem _ ((List.mem_cons.mp (hold.subset hu)).resolve_left ?_))
    rintro rfl
    rw [hv] at hpermit
    cases hpermit

theorem Turns.mem_of_ne (h : x.Turns t now y) (hn : (x.tasks.map ProbeTask.number).Nodup) (ht : t ∈ x.tasks)
    (hu : u ∈ x.tasks) (hne : u.number ≠ t.number) (hpermit : u.state.holdsPermit = true) : u ∈ y.tasks := by
  have hrest : ((dropIn t.number x.tasks).map ProbeTask.number).Nodup := hn.sublist (List.filter_sublist.map _)
  have hdrop : u ∈ dropIn t.number x.tasks := List.mem_filter.mpr ⟨hu, decide_eq_true hne⟩
  have hover : u ∈ handOverIn (dropIn t.number x.tasks) := mem_handOverIn_of_holdsPermit hrest hdrop hpermit
  cases h with
  | waits _ _ heq => exact heq.symm ▸ hu
  | givesUp _ _ tasks | leaves _ tasks =>
    rcases tasks with htasks | htasks
    · exact htasks.symm ▸ hdrop
    · exact htasks.symm ▸ hover
  | loses _ _ tasks | reports _ _ _ _ tasks => exact tasks.symm ▸ hover
  | runsOn p _ _ tasks =>
    rw [tasks]
    exact (perm_setIn hn ht _).symm.subset (List.mem_cons_of_mem _ hdrop)

theorem Turns.subset_completions (h : x.Turns t now y) : x.completions ⊆ y.completions := by
  cases h with
  | waits _ _ heq => exact heq.symm ▸ List.Subset.refl _
  | loses _ _ _ completions | runsOn _ _ _ _ completions | leaves _ _ completions => exact completions.symm ▸ List.Subset.refl _
  | givesUp _ _ _ completions | reports _ _ _ _ _ completions => exact completions.symm ▸ List.subset_append_left _ _

theorem Turns.get?_calls (h : x.Turns t now y) {id : TargetId}
    (hid : t.target.id = id → t.state.begins x.cancelled = false) : y.calls.get? id = x.calls.get? id := by
  have hin : (x.callsIn t).get? id = x.calls.get? id := by
    unfold callsIn
    split
    · rename_i hbegins
      rw [Table.get?_insert, if_neg]
      intro heq
      rw [hid heq.symm] at hbegins
      cases hbegins
    · rfl
  cases h with
  | waits _ _ heq => rw [heq]
  | givesUp _ _ _ _ calls | loses _ _ _ _ calls | leaves _ _ _ calls => rw [calls]
  | reports _ _ _ _ _ _ calls | runsOn _ _ _ _ _ calls => rw [calls, hin]

end Executor

end TargetHealth
