import TargetHealth.Proofs.Monitor.Passing
import TargetHealth.Proofs.Monitor.Solo

namespace TargetHealth

namespace Solo

/-- A run that hosts a target: it makes the target's calls, with its grace, and has permits for all its targets. -/
structure Hosted (s : Solo) (prober : Prober) (config : ExecutorConfig) (limit : Nat) : Prop where
  calls : prober s.target = s.calls
  grace : config.grace = s.grace
  permits : limit ≤ config.maxConcurrency

structure Joined (s : Solo) (prober : Prober) (config : ExecutorConfig) (limit : Nat) (k : Chronicle) (now : Instant) :
    Prop extends s.Hosted prober config limit where
  roomy : k.Roomy prober config limit now
  told : k.Told s.policy
  viewed : k.monitor.roster.Viewed
  policy_eq : k.monitor.roster.scheduler.policy = s.policy.backoff
  registered : k.monitor.roster.registry.get? s.target.id = some s.target
  uncancelled : k.monitor.executor.cancelled = false
  unaborted : k.monitor.executor.abortedBelow = 0

/-- How far a target is with a probe that it is due for, or was, and when it has been dispatched so far. -/
inductive Stage (s : Solo) (n : Nat) (k : Chronicle) (now : Instant) (times : List Instant) : Prop
  | rests (hfree : k.monitor.roster.scheduler.inFlight.get? s.target.id = none) (hnow : now ≤ s.due n)
      (hcalls : (k.monitor.executor.calls.get? s.target.id).getD 0 = n) (htimes : times = s.dues n)
  | admitted (t : ProbeTask) (ht : t ∈ k.monitor.executor.tasks) (htarget : t.target = s.target)
      (hstate : t.state = .admitted false) (hnow : now = s.due n)
      (hcalls : (k.monitor.executor.calls.get? s.target.id).getD 0 = n) (htimes : times = s.dues (n + 1))
  | runs (t : ProbeTask) (ht : t ∈ k.monitor.executor.tasks) (htarget : t.target = s.target)
      (hstate : t.state = .running (s.probe n)) (hfits : s.Fits n) (hdue : s.due n ≤ now) (hnow : now ≤ s.ends n)
      (hcalls : (k.monitor.executor.calls.get? s.target.id).getD 0 = n + 1) (htimes : times = s.dues (n + 1))
  | reported (c : Completion) (hc : c ∈ k.monitor.executor.completions)
      (hresult : (s.probe n).result? s.prober s.grace s.target now = some c.result) (hfits : s.Fits n)
      (hnow : now = s.ends n) (hcalls : (k.monitor.executor.calls.get? s.target.id).getD 0 = n + 1)
      (htimes : times = s.dues (n + 1))
  | lost (hmark : k.monitor.roster.scheduler.inFlight.get? s.target.id ≠ none)
      (hgone : ∀ probe ∈ k.monitor.executor.accounted, probe.1 ≠ s.target.id) (hfits : ¬ s.Fits n) (hdue : s.due n ≤ now)
      (htimes : times = s.dues (n + 1))

/-- What a monitor knows of the target is what becomes of it on its own. -/
structure Followed (s : Solo) (n : Nat) (k : Chronicle) (now : Instant) (times : List Instant) : Prop where
  entry_eq : (k.monitor.roster.scheduler.entry? s.target.id).map ScheduleEntry.unnumbered = some (s.entry n)
  counted_eq : counted s.target.id k.past = (s.stand n).results
  past : s.Past n now
  stage : s.Stage n k now times

variable {s : Solo} {prober : Prober} {config : ExecutorConfig} {limit n : Nat} {k k' : Chronicle} {now later : Instant}
  {times : List Instant} {t : ProbeTask}

theorem Joined.admit (h : s.Joined prober config limit k now) :
    let y := (k.react now .dispatch).monitor.executor
    y.cancelled = false ∧ y.completions = k.monitor.executor.completions ∧ y.calls = k.monitor.executor.calls ∧
      k.monitor.executor.tasks ⊆ y.tasks ∧
      ∀ b ∈ (k.monitor.roster.dispatchDue now).1, ∃ t ∈ y.tasks, t.target = b.1 ∧ t.epoch = b.2 ∧ t.state = .admitted false := by
  have hbatch : (k.monitor.roster.dispatchDue now).1.length = (k.monitor.roster.scheduler.due now).length := by
    rw [← h.roomy.matched.aligned.ids_batch h.roomy.filed, List.length_map]
  have hroom := h.roomy.room
  have hpermits := h.permits
  refine h.roomy.staffed.foldl_admit (k.monitor.roster.dispatchDue now).1 now h.uncancelled ?_
  rw [h.roomy.config_eq]
  omega

theorem Joined.react (h : s.Joined prober config limit k now) {e : Monitor.Event} (he : e.Routine)
    (hwhole : e.IsWhole k.monitor now) : s.Joined prober config limit (k.react now e) now := by
  have hm := h.roomy.matched
  refine { h with
    roomy := h.roomy.react (h.permits.trans (Nat.le_add_right _ _)) he.works
    told := h.told.react hwhole.isUnbroken
    viewed := hm.viewed_react h.viewed hwhole
    policy_eq := (hm.policy_react now e).trans h.policy_eq
    registered := (congrArg (Registry.get? · s.target.id) (h.roomy.registry_react now e he.works)).trans h.registered
    uncancelled := ?_
    unaborted := (k.monitor.abortedBelow_react now fun _ heq => by rw [heq] at he; exact he).trans h.unaborted }
  cases e with
  | dispatch => exact h.admit.1
  | complete =>
    cases hc : k.monitor.executor.completions with
    | nil => rw [Chronicle.react_complete_of_nil hc]; exact h.uncancelled
    | cons c unread => rw [Chronicle.react_complete_of_cons hc]; exact h.uncancelled
  | reload targets pick | cancel | halt phase => exact he.elim
  | turn number => exact (Executor.keeps_stepNumber k.monitor.executor number now).cancelled.trans h.uncancelled
  | arrange phase stopRequested scheduleChanged agenda => exact h.uncancelled

theorem Joined.not_aborted (h : s.Joined prober config limit k now) (t : ProbeTask) :
    k.monitor.executor.aborted t = false := by
  rw [Executor.aborted, h.unaborted]
  rfl

theorem Joined.clock (h : s.Joined prober config limit k now) (hlets : k.RestsUntil now later) :
    s.Joined prober config limit k later :=
  { h with roomy := h.roomy.clock ⟨hlets.1, fun hlt => (hlets.2 now (Nat.le_refl _) hlt).1⟩ }

theorem Joined.result?_eq (h : s.Joined prober config limit k now) (htarget : t.target = s.target) (p : RunningProbe)
    (u : Instant) :
    p.result? k.monitor.executor.prober k.monitor.executor.config.grace t.target u =
      p.result? s.prober s.grace s.target u := by
  rw [h.roomy.prober_eq, h.roomy.config_eq, h.grace, htarget]
  exact RunningProbe.result?_congr h.calls

theorem Stage.pass (h : s.Stage n k now times) (hp : Chronicle.Passes s.target.id k k') : s.Stage n k' now times := by
  cases h with
  | rests hfree hnow hcalls htimes => exact .rests (hp.mark.trans hfree) hnow (hp.calls ▸ hcalls) htimes
  | admitted t ht htarget hstate hnow hcalls htimes =>
    have hkept := hp.tasks t ht (congrArg Target.id htarget) (by rw [hstate]; rfl)
    exact .admitted t hkept htarget hstate hnow (hp.calls ▸ hcalls) htimes
  | runs t ht htarget hstate hfits hdue hnow hcalls htimes =>
    have hkept := hp.tasks t ht (congrArg Target.id htarget) (by rw [hstate]; rfl)
    exact .runs t hkept htarget hstate hfits hdue hnow (hp.calls ▸ hcalls) htimes
  | reported c hc hresult hfits hnow hcalls htimes =>
    have hkept := hp.completions c hc (RunningProbe.targetId_of_result? hresult)
    exact .reported c hkept hresult hfits hnow (hp.calls ▸ hcalls) htimes
  | lost hmark hgone hfits hdue htimes =>
    exact .lost (hp.mark ▸ hmark) (fun probe hprobe hid => hgone probe (hp.accounted probe hprobe hid) hid) hfits hdue htimes

theorem Followed.pass (h : s.Followed n k now times) (hp : Chronicle.Passes s.target.id k k') :
    s.Followed n k' now times :=
  ⟨hp.entry ▸ h.entry_eq, hp.counted.trans h.counted_eq, h.past, h.stage.pass hp⟩

theorem Joined.passes_dispatch (h : s.Joined prober config limit k now)
    (hid : s.target.id ∉ k.monitor.roster.scheduler.due now) :
    Chronicle.Passes s.target.id k (k.react now .dispatch) := by
  have ha := h.roomy.matched.aligned
  have hn := h.roomy.filed.nodup_due now
  obtain ⟨-, hsent, hcalls, htasks, -⟩ := h.admit
  refine ⟨congrArg (·.scheduler.entry? s.target.id) (ha.dispatchDue_eq now), ?_, counted_dispatched _ _ _,
    congrArg (Table.get? · s.target.id) hcalls, fun t ht _ _ => htasks ht, fun c hc _ => hsent.symm ▸ hc, ?_⟩
  · refine Option.ext fun m => ?_
    exact (ha.inFlight_dispatchDue_iff hn m).trans (or_iff_right fun hdue => hid hdue.1)
  · rintro ⟨id, m⟩ hprobe rfl
    have hprobe : (s.target.id, m) ∈ ((k.monitor.roster.dispatchDue now).1.map batchLabel : Multiset ProbeLabel) +
        k.monitor.executor.accounted := Executor.accounted_foldl_dispatch _ _ h.roomy.matched.numbered ▸ hprobe
    refine (Multiset.mem_add.mp hprobe).resolve_left fun hbatch => hid ?_
    exact ((ha.mem_batch_iff hn m).mp (Multiset.mem_coe.mp hbatch)).1

theorem Followed.mem_due_iff (h : s.Followed n k now times) (hj : s.Joined prober config limit k now)
    (hfree : k.monitor.roster.scheduler.inFlight.get? s.target.id = none) (u : Instant) :
    s.target.id ∈ k.monitor.roster.scheduler.due u ↔ s.due n ≤ u := by
  obtain ⟨e, he, hstrip⟩ := Option.map_eq_some_iff.mp h.entry_eq
  have hdue : e.nextDue = s.due n := congrArg ScheduleEntry.nextDue hstrip
  rw [hj.viewed.queued.mem_due_iff_of_entry he hfree, hdue]

theorem Followed.dispatch (h : s.Followed n k now times) (hj : s.Joined prober config limit k now) :
    s.Followed n (k.react now .dispatch) now (times ++ Chronicle.dispatchedAt s.target.id k now .dispatch) := by
  rw [hj.roomy.dispatchedAt_dispatch]
  split
  · rename_i hid
    have hfree := Roster.inFlight_of_mem_due hid
    have hmarked {t : ProbeTask} (ht : t ∈ k.monitor.executor.tasks) (htarget : t.target = s.target) : False := by
      have hmark := hj.roomy.matched.get?_of_task ht
      rw [htarget, hfree] at hmark
      cases hmark
    cases h.stage with
    | rests _ hnow hcalls htimes =>
      have ha := hj.roomy.matched.aligned
      have hnow' : now = s.due n := Instant.le_antisymm hnow ((h.mem_due_iff hj hfree now).mp hid)
      obtain ⟨-, -, hcalls', -, hadmitted⟩ := hj.admit
      obtain ⟨e, he, -⟩ := Option.map_eq_some_iff.mp h.entry_eq
      have hbatch : (s.target, e.epoch) ∈ (k.monitor.roster.dispatchDue now).1 := by
        rw [ha.batch_eq (hj.roomy.filed.nodup_due now)]
        refine List.mem_filterMap.mpr ⟨_, hid, Roster.probe?_eq_some_iff.mpr ⟨hj.registered, ?_⟩⟩
        rw [Scheduler.epoch?, he]
        rfl
      obtain ⟨t, ht, htarget, -, hstate⟩ := hadmitted _ hbatch
      refine ⟨congrArg (Option.map _ <| ·.scheduler.entry? s.target.id) (ha.dispatchDue_eq now) |>.trans h.entry_eq,
        (counted_dispatched _ _ _).trans h.counted_eq, h.past, ?_⟩
      refine .admitted t ht htarget hstate hnow' ?_ ?_
      · rw [hcalls']
        exact hcalls
      · rw [htimes, s.dues_succ, hnow']
    | admitted t ht htarget => exact (hmarked ht htarget).elim
    | runs t ht htarget => exact (hmarked ht htarget).elim
    | reported c hc hresult =>
      have hmark := hj.roomy.matched.get?_of_mem hc
      rw [RunningProbe.targetId_of_result? hresult, hfree] at hmark
      cases hmark
    | lost hmark => exact absurd hfree hmark
  · rename_i hid
    rw [List.append_nil]
    exact h.pass (hj.passes_dispatch hid)

/-- The turn of a task with the target's probe: the probe is over at this very instant, or runs on. -/
theorem Joined.stage_turn (h : s.Joined prober config limit k now) (ht : t ∈ k.monitor.executor.tasks)
    (htarget : t.target = s.target) (hpermit : t.state.holdsPermit = true)
    (hkeeps : t.state.begins k.monitor.executor.cancelled = true → t.target.FitsClock k.monitor.executor.config.grace now)
    (hp : k.monitor.executor.probeIn? t now = some (s.probe n)) (hfits : s.Fits n) (hdue : s.due n ≤ now)
    (hnow : now ≤ s.ends n) (hcalls : ((k.monitor.executor.callsIn t).get? s.target.id).getD 0 = n + 1)
    (htimes : times = s.dues (n + 1)) : s.Stage n (k.react now (.turn t.number)) now times := by
  have hnumbered := h.roomy.staffed.numbered
  have hturns : k.monitor.executor.Turns t now (k.react now (.turn t.number)).monitor.executor :=
    Executor.turns_stepNumber (hnumbered.task?_eq ht) now
  cases hturns with
  | leaves haborted =>
    rw [h.not_aborted] at haborted
    cases haborted
  | waits hqueued =>
    rw [hqueued] at hpermit
    cases hpermit
  | givesUp _ hcancelled => exact absurd hcancelled (Bool.eq_false_iff.mp h.uncancelled)
  | loses hb hnot => exact absurd (hkeeps hb) hnot
  | reports p r hp' hr _ completions calls =>
    cases hp.symm.trans hp'
    rw [h.result?_eq htarget] at hr
    have hover : s.ends n ≤ now := (result?_probe_isSome_iff hdue).mp (by rw [hr]; rfl)
    refine .reported ⟨t.epoch, r, now⟩ ?_ hr hfits (Instant.le_antisymm hnow hover) ?_ htimes
    · rw [completions]
      exact List.mem_append_right _ (List.mem_singleton_self _)
    · rw [calls]
      exact hcalls
  | runsOn p hp' hr tasks _ calls =>
    cases hp.symm.trans hp'
    refine .runs { t with state := .running (s.probe n) } ?_ htarget rfl hfits hdue hnow ?_ htimes
    · rw [tasks]
      exact (Executor.perm_setIn hnumbered.nodup ht _).symm.subset List.mem_cons_self
    · rw [calls]
      exact hcalls

theorem Joined.stage_begin (h : s.Joined prober config limit k now) (ht : t ∈ k.monitor.executor.tasks)
    (htarget : t.target = s.target) (hstate : t.state = .admitted false) (hnow : now = s.due n)
    (hcalls : (k.monitor.executor.calls.get? s.target.id).getD 0 = n) (htimes : times = s.dues (n + 1)) :
    s.Stage n (k.react now (.turn t.number)) now times := by
  have hgrace : k.monitor.executor.config.grace = s.grace := h.roomy.config_eq ▸ h.grace
  have hfits : s.Fits n ↔ t.target.FitsClock k.monitor.executor.config.grace now := by rw [Fits, htarget, hgrace, hnow]
  have hbegins : t.state.begins k.monitor.executor.cancelled = true := by rw [hstate]; rfl
  have hdue : s.due n ≤ now := Instant.le_of_eq hnow.symm
  by_cases hfit : s.Fits n
  · refine h.stage_turn ht htarget (by rw [hstate]; rfl) (fun _ => hfits.mp hfit) ?_ hfit hdue
      (hnow ▸ s.due_le_ends n) ?_ htimes
    · simp only [Executor.probeIn?, hstate]
      rw [if_pos ⟨hstate ▸ hbegins, hfits.mp hfit⟩, h.uncancelled, htarget, hcalls, hnow]
      rfl
    · rw [Executor.callsIn, if_pos hbegins, htarget, Table.get?_insert, if_pos rfl, hcalls]
      rfl
  · have hm := h.roomy.matched
    refine .lost ?_ ?_ hfit hdue htimes
    · have hmark := hm.get?_of_task ht
      rw [htarget] at hmark
      rw [show (k.react now (.turn t.number)).monitor.roster = k.monitor.roster from rfl, hmark]
      exact Option.some_ne_none _
    · intro probe hprobe hid
      -- the label that is lost was the only one of the target
      have hlost : k.monitor.executor.lostBy t.number now = [t.label] := by
        rw [Executor.lostBy, h.roomy.staffed.numbered.task?_eq ht]
        exact if_pos ⟨h.not_aborted t, hbegins, fun hf => hfit (hfits.mpr hf)⟩
      have haccounted := Executor.accounted_stepNumber hm.numbered t.number now
      rw [hlost] at haccounted
      have hnodup := hm.nodup_accounted
      rw [haccounted, Multiset.map_add, Multiset.nodup_add] at hnodup
      refine Multiset.disjoint_left.mp hnodup.2.2 (Multiset.mem_map_of_mem Prod.fst hprobe) ?_
      rw [hid, ← htarget]
      exact Multiset.mem_coe.mpr (List.mem_singleton_self _)

theorem Followed.turn (h : s.Followed n k now times) (hj : s.Joined prober config limit k now) (number : Nat) :
    s.Followed n (k.react now (.turn number)) now times := by
  have hm := hj.roomy.matched
  by_cases hother : ∀ t ∈ k.monitor.executor.task? number, t.target.id ≠ s.target.id
  · exact h.pass (hm.passes_turn hother)
  push Not at hother
  obtain ⟨t, htask, hid⟩ := hother
  obtain ⟨hmem, rfl⟩ := Executor.task?_some htask
  refine ⟨h.entry_eq, (counted_lost _ (fun p => p) _ _).trans h.counted_eq, h.past, ?_⟩
  cases h.stage with
  | rests hfree =>
    have hmark := hm.get?_of_task hmem
    rw [hid, hfree] at hmark
    cases hmark
  | admitted u hu htarget hstate hnow hcalls htimes =>
    obtain rfl := hm.eq_of_tasks hu hmem (hid.trans (congrArg Target.id htarget).symm)
    exact hj.stage_begin hmem htarget hstate hnow hcalls htimes
  | runs u hu htarget hstate hfits hdue hnow hcalls htimes =>
    obtain rfl := hm.eq_of_tasks hu hmem (hid.trans (congrArg Target.id htarget).symm)
    refine hj.stage_turn hmem htarget (by rw [hstate]; rfl) ?_ ?_ hfits hdue hnow ?_ htimes
    · rw [hstate]
      exact fun heq => nomatch heq
    · rw [Executor.probeIn?, hstate, hj.uncancelled]
      rfl
    · rw [Executor.callsIn, hstate]
      exact hcalls
  | reported c hc hresult =>
    exact absurd ((RunningProbe.targetId_of_result? hresult).trans hid.symm) (hm.ne_of_task_of_completion hmem hc)
  | lost _ hgone =>
    have hlive := Executor.mem_live_iff.mpr ⟨hmem, hj.not_aborted t⟩
    exact absurd hid (hgone t.label (Multiset.mem_add.mpr (.inl (Multiset.mem_coe.mpr (List.mem_map_of_mem hlive)))))

theorem Followed.complete_own (h : s.Followed n k now times) (hj : s.Joined prober config limit k now) {c : Completion}
    {unread : List Completion} (hc : k.monitor.executor.completions = c :: unread)
    (hid : c.result.targetId = s.target.id) (hwhole : (k.monitor.roster.complete c now).1 = none)
    (hresult : (s.probe n).result? s.prober s.grace s.target now = some c.result) (hfits : s.Fits n) (hnow : now = s.ends n)
    (hcalls : (k.monitor.executor.calls.get? s.target.id).getD 0 = n + 1) (htimes : times = s.dues (n + 1)) :
    s.Followed (n + 1) (k.react now .complete) now times := by
  have hmem : c ∈ k.monitor.executor.completions := hc ▸ List.mem_cons_self
  have hmark := hj.roomy.matched.get?_of_mem hmem
  have hepoch := hj.roomy.current _ _ hmark
  have hstand : s.stand (n + 1) = s.next (s.stand n) (s.probe n) := rfl
  have hdue : s.due (n + 1) = now.after (s.stand (n + 1)).interval := by rw [hnow]; rfl
  have hinterval : (s.stand (n + 1)).interval = s.policy.backoff.interval s.target.interval
    (TargetState.recordAll s.policy s.target.id (s.stand (n + 1)).results).backoffMultiplier := rfl
  have hresultOf : s.resultOf (s.probe n) = some c.result := by rw [resultOf, ← hresult, hnow]; rfl
  have hcounted : counted s.target.id (.processed c :: k.past) = (s.stand (n + 1)).results := by
    rw [hstand, next, hresultOf, counted, h.counted_eq]
    by_cases hcancelled : c.result.outcome = .cancelled
    · rw [if_neg fun hn => hn.2.1 hcancelled]
      simp [hcancelled]
    · rw [if_pos ⟨hid, hcancelled, (hj.told.isFresh_iff hmem).mpr hepoch⟩]
      simp [hcancelled]
  have hreg : (k.monitor.roster.complete c now).2.registry.get? s.target.id = some s.target := by
    rw [(Roster.complete_of_current hmark hepoch now).1]
    exact hj.registered
  obtain ⟨e, he, hstrip⟩ := Option.map_eq_some_iff.mp h.entry_eq
  rw [← hid] at he
  have hlabel : e.epoch = c.epoch := by
    rw [Scheduler.epoch?, he] at hepoch
    exact Option.some.inj hepoch
  have hbase : e.baseInterval = s.target.interval := congrArg ScheduleEntry.baseInterval hstrip
  have hname : e.targetId = s.target.id := congrArg ScheduleEntry.targetId hstrip
  have hentry := (Roster.entry?_complete hmark he hlabel hwhole).2
  have hmultiplier : ((k.monitor.roster.complete c now).2.store.backoffMultiplier? c.result.targetId).getD 1 =
      (TargetState.recordAll s.policy s.target.id (s.stand (n + 1)).results).backoffMultiplier := by
    rw [StateStore.backoffMultiplier?, hid, hj.told.health_complete hmem now, hreg, hcounted]
    rfl
  rw [hmultiplier, hj.policy_eq, hbase, ← hinterval, ← hdue] at hentry
  rw [Chronicle.react_complete_of_cons hc]
  refine ⟨?_, hcounted, ?_, .rests ?_ ?_ hcalls htimes⟩
  · rw [← hid]
    dsimp only
    rw [hentry, Option.map_some, ScheduleEntry.unnumbered, hname]
    rfl
  · intro i hi
    rcases Nat.lt_succ_iff_lt_or_eq.mp hi with hlt | rfl
    · exact h.past i hlt
    · exact ⟨hfits, Instant.le_of_eq hnow.symm⟩
  · dsimp only
    rw [Roster.inFlight_complete hmark, Table.get?_erase, if_pos hid.symm]
  · rw [hdue]
    exact Nat.le_add_right _ _

theorem Followed.complete (h : s.Followed n k now times) (hj : s.Joined prober config limit k now)
    (hwhole : Monitor.Event.complete.IsWhole k.monitor now) : ∃ n', s.Followed n' (k.react now .complete) now times := by
  have hm := hj.roomy.matched
  by_cases hother : ∀ c ∈ k.monitor.executor.completions.head?, c.result.targetId ≠ s.target.id
  · exact ⟨n, h.pass (hj.roomy.passes_complete hother)⟩
  push Not at hother
  obtain ⟨c, hhead, hid⟩ := hother
  obtain ⟨unread, hc⟩ := List.head?_eq_some_iff.mp hhead
  have hmem : c ∈ k.monitor.executor.completions := hc ▸ List.mem_cons_self
  rw [Monitor.Event.IsWhole, hc] at hwhole
  cases h.stage with
  | rests hfree =>
    have hmark := hm.get?_of_mem hmem
    rw [hid, hfree] at hmark
    cases hmark
  | admitted t ht htarget | runs t ht htarget =>
    exact absurd (hid.trans (congrArg Target.id htarget).symm) (hm.ne_of_task_of_completion ht hmem)
  | reported c' hc' hresult hfits hnow hcalls htimes =>
    obtain rfl := hm.eq_of_completions hc' hmem (hid.trans (RunningProbe.targetId_of_result? hresult).symm)
    exact ⟨n + 1, h.complete_own hj hc hid hwhole hresult hfits hnow hcalls htimes⟩
  | lost _ hgone =>
    exact absurd hid (hgone c.label (Multiset.mem_add.mpr (.inr (Multiset.mem_coe.mpr (List.mem_map_of_mem hmem)))))

theorem Followed.react (h : s.Followed n k now times) (hj : s.Joined prober config limit k now) {e : Monitor.Event}
    (he : e.Routine) (hwhole : e.IsWhole k.monitor now) :
    ∃ n', s.Followed n' (k.react now e) now (times ++ Chronicle.dispatchedAt s.target.id k now e) := by
  cases e with
  | dispatch => exact ⟨n, h.dispatch hj⟩
  | complete =>
    rw [Chronicle.dispatchedAt_eq_nil, List.append_nil]
    · exact h.complete hj hwhole
    · intro happening hmem
      obtain ⟨c, -, rfl⟩ := List.mem_map.mp hmem
      rfl
  | turn number =>
    rw [Chronicle.dispatchedAt_eq_nil, List.append_nil]
    · exact ⟨n, h.turn hj number⟩
    · intro happening hmem
      obtain ⟨probe, -, rfl⟩ := List.mem_map.mp hmem
      rfl
  | arrange phase stopRequested scheduleChanged agenda =>
    rw [Chronicle.dispatchedAt_eq_nil, List.append_nil]
    · exact ⟨n, h.pass (.of_eq rfl rfl rfl rfl rfl rfl)⟩
    · intro happening hmem
      cases hmem
  | reload targets pick | cancel | halt phase => exact he.elim

theorem Followed.health_eq (h : s.Followed n k now times) (hj : s.Joined prober config limit k now) :
    k.monitor.roster.store.snapshot? s.target.id =
      some (.recordAll s.policy s.target.id (s.stand n).results) := by
  rw [hj.told.health, hj.registered, h.counted_eq]
  rfl

theorem Followed.lt_due_of_rests (h : s.Followed n k now times) (hj : s.Joined prober config limit k now)
    (hfree : k.monitor.roster.scheduler.inFlight.get? s.target.id = none) {u : Instant} (hrests : k.monitor.Rests u) :
    u < s.due n := by
  refine Nat.not_le.mp fun hle => ?_
  have hmem := (h.mem_due_iff hj hfree u).mpr hle
  rw [hrests.2.2] at hmem
  cases hmem

theorem Joined.lt_ends_of_rests (h : s.Joined prober config limit k now) (ht : t ∈ k.monitor.executor.tasks)
    (htarget : t.target = s.target) (hstate : t.state = .running (s.probe n)) {u : Instant} (hdue : s.due n ≤ u)
    (hrests : k.monitor.Rests u) : u < s.ends n := by
  refine Nat.not_le.mp fun hle => ?_
  rcases hrests.1.task_cases h.roomy.staffed.numbered ht with ⟨hqueued, -⟩ | ⟨p, hp, -, hends⟩
  · cases hstate.symm.trans hqueued
  · cases hstate.symm.trans hp
    have hover := (result?_probe_isSome_iff hdue).mpr hle
    rw [← h.result?_eq htarget, RunningProbe.result?_eq_none_iff.mpr hends] at hover
    cases hover

theorem Joined.not_rests_of_admitted (h : s.Joined prober config limit k now) (ht : t ∈ k.monitor.executor.tasks)
    (hstate : t.state = .admitted false) (u : Instant) : ¬ k.monitor.Rests u := by
  intro hrests
  rcases hrests.1.task_cases h.roomy.staffed.numbered ht with ⟨hqueued, -⟩ | ⟨p, hp, -⟩
  · cases hstate.symm.trans hqueued
  · cases hstate.symm.trans hp

theorem Followed.clock (h : s.Followed n k now times) (hj : s.Joined prober config limit k now)
    (hlets : k.RestsUntil now later) : s.Followed n k later times := by
  obtain ⟨hle, hrests⟩ := hlets
  refine { h with past := fun i hi => ⟨(h.past i hi).1, Nat.le_trans (h.past i hi).2 hle⟩, stage := ?_ }
  rcases Instant.lt_or_eq_of_le hle with hlt | rfl
  swap
  · exact h.stage
  have hnow := hrests now (Nat.le_refl _) hlt
  cases h.stage with
  | rests hfree hdue hcalls htimes =>
    refine .rests hfree (Nat.not_lt.mp fun hlate => ?_) hcalls htimes
    exact Nat.lt_irrefl _ (h.lt_due_of_rests hj hfree (hrests (s.due n) hdue hlate))
  | admitted t ht _ hstate => exact absurd hnow (hj.not_rests_of_admitted ht hstate now)
  | runs t ht htarget hstate hfits hdue hends hcalls htimes =>
    refine .runs t ht htarget hstate hfits (Nat.le_trans hdue hle) (Nat.not_lt.mp fun hlate => ?_) hcalls htimes
    exact Nat.lt_irrefl _ (hj.lt_ends_of_rests ht htarget hstate (s.due_le_ends n) (hrests (s.ends n) hends hlate))
  | reported c hc =>
    rw [hnow.2.1] at hc
    cases hc
  | lost hmark hgone hfits hdue htimes => exact .lost hmark hgone hfits (Nat.le_trans hdue hle) htimes

/-- When the host rests, the clock says how the target stands. -/
theorem Followed.settled (h : s.Followed n k now times) (hj : s.Joined prober config limit k now)
    (hrests : k.monitor.Rests now) :
    s.Settled n now ∧ times = if now < s.due n then s.dues n else s.dues (n + 1) := by
  cases h.stage with
  | rests hfree _ _ htimes =>
    have hlt := h.lt_due_of_rests hj hfree hrests
    exact ⟨.rests hlt, htimes.trans (if_pos hlt).symm⟩
  | admitted t ht _ hstate => exact absurd hrests (hj.not_rests_of_admitted ht hstate now)
  | runs t ht htarget hstate hfits hdue _ _ htimes =>
    exact ⟨.runs hfits hdue (hj.lt_ends_of_rests ht htarget hstate hdue hrests),
      htimes.trans (if_neg (Nat.not_lt.mpr hdue)).symm⟩
  | reported c hc =>
    rw [hrests.2.1] at hc
    cases hc
  | lost hmark hgone hfits hdue htimes => exact ⟨.lost hfits hdue, htimes.trans (if_neg (Nat.not_lt.mpr hdue)).symm⟩

end Solo

end TargetHealth
