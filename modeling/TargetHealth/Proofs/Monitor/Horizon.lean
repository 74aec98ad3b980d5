import TargetHealth.Proofs.Config.Words
import TargetHealth.Proofs.Monitor.Cadence
import TargetHealth.Proofs.Monitor.Rounds
import TargetHealth.Proofs.Monitor.Steps

namespace TargetHealth

/-- The first instant after 2^32 seconds. -/
def Instant.horizon : Nat := Nat.pow 2 32 * Duration.nanosPerSecond

/-- The clock reaches past the horizon by the longest interval of a target, and by its timeout and the grace. -/
structure Target.FitsHorizon (t : Target) (s : Settings) : Prop where
  interval : Instant.horizon + (s.backoff.interval t.interval s.backoff.maxMultiplier).nanos ≤ Instant.limit
  deadline : Instant.horizon + t.timeout.nanos + s.grace.nanos ≤ Instant.limit

namespace Instant

variable {now : Instant}

theorem after_lt_limit {d : Duration} (hnow : now.nanos < horizon)
    (hd : d.nanos ≤ Nat.pow 2 64 * Duration.nanosPerMilli) : (now.after d).nanos < limit := by
  have hhorizon : horizon = 4294967296000000000 := rfl
  have hlimit : limit = 9223372036854775808000000000 := rfl
  have hmillis : Nat.pow 2 64 * Duration.nanosPerMilli = 18446744073709551616000000 := rfl
  change now.nanos + d.nanos < limit
  omega

/-- A jitter is less than 2^64 milliseconds, however far it may spread. -/
theorem firstDue_lt_limit (hnow : now.nanos < horizon) (spread : Duration) (pick : TargetId → Nat) (id : TargetId) :
    (Monitor.firstDue now spread pick id).nanos < limit := by
  refine after_lt_limit hnow ?_
  unfold TargetHealth.jitter
  dsimp only
  split
  · exact Nat.zero_le _
  · rename_i hchoices
    have hpick := Nat.mod_lt (pick id) (Nat.pos_of_ne_zero hchoices)
    have hwrap : spread.millis % Nat.pow 2 64 < Nat.pow 2 64 := Nat.mod_lt _ (by decide)
    exact Nat.mul_le_mul_right _ (hpick.trans hwrap).le

end Instant

theorem Settings.InRange.grace_le {s : Settings} (h : s.InRange) :
    s.grace.nanos ≤ Nat.pow 2 64 * Duration.nanosPerMilli :=
  Nat.mul_le_mul_right _ (h .graceMs).le

theorem Settings.InRange.drainTimeout_le {s : Settings} (h : s.InRange) :
    s.drainTimeout.nanos ≤ Nat.pow 2 64 * Duration.nanosPerMilli :=
  Nat.mul_le_mul_right _ (h .drainTimeoutMs).le

theorem Target.deadline_of_ofConfig {files : FileReader} {config : TargetConfig} {t : Target} {s : Settings}
    (ht : ofConfig files config = .ok t) (hconfig : config.InRange) (hs : s.InRange) :
    Instant.horizon + t.timeout.nanos + s.grace.nanos ≤ Instant.limit := by
  have hmillis : Nat.pow 2 64 * Duration.nanosPerMilli = 18446744073709551616000000 := rfl
  have hhorizon : Instant.horizon = 4294967296000000000 := rfl
  have hlimit : Instant.limit = 9223372036854775808000000000 := rfl
  have htimeout : t.timeout.nanos ≤ Nat.pow 2 64 * Duration.nanosPerMilli := by
    rw [(of_ofConfig ht).2.2.2]
    exact Nat.mul_le_mul_right _ hconfig.2.le
  have hgrace := hs.grace_le
  omega

theorem TargetState.multiplier_record_le {policy : HealthPolicy} (hmax : 1 ≤ policy.backoff.maxMultiplier) {s : TargetState}
    (h : s.backoffMultiplier ≤ policy.backoff.maxMultiplier) (r : ProbeResult) :
    (s.record r policy).backoffMultiplier ≤ policy.backoff.maxMultiplier := by
  unfold record
  cases r.outcome with
  | success => exact hmax
  | skipped | cancelled => exact h
  | timeout | connectionRefused | dnsFailure | tlsHandshakeFailure | certificateInvalid | protocolError =>
    exact BackoffPolicy.escalate_le_maxMultiplier _ _

namespace StateStore

variable {s t : StateStore} {policy : HealthPolicy}

structure Capped (policy : HealthPolicy) (s : StateStore) : Prop where
  policy_eq : s.policy = policy
  le : ∀ id state, s.snapshot? id = some state → state.backoffMultiplier ≤ policy.backoff.maxMultiplier

theorem Capped.getD_le (h : s.Capped policy) (hmax : 1 ≤ policy.backoff.maxMultiplier) (id : TargetId) :
    (s.backoffMultiplier? id).getD 1 ≤ policy.backoff.maxMultiplier := by
  rw [backoffMultiplier?]
  cases hs : s.snapshot? id with
  | none => exact hmax
  | some state => exact h.le id state hs

theorem Capped.register (h : s.Capped policy) (hmax : 1 ≤ policy.backoff.maxMultiplier) {id : TargetId}
    (ht : s.register id = .ok t) : t.Capped policy := by
  refine ⟨(policy_register ht).trans h.policy_eq, fun id' state hs => ?_⟩
  rw [snapshot?_register ht] at hs
  split at hs
  · cases hold : s.snapshot? id with
    | none =>
      rw [hold] at hs
      cases hs
      exact hmax
    | some old =>
      rw [hold] at hs
      cases hs
      exact h.le id old hold
  · exact h.le id' state hs

theorem Capped.remove (h : s.Capped policy) (id : TargetId) : (s.remove id).Capped policy := by
  refine ⟨h.policy_eq, fun id' state hs => ?_⟩
  rw [snapshot?_remove] at hs
  split at hs
  · cases hs
  · exact h.le id' state hs

theorem Capped.apply (h : s.Capped policy) (hmax : 1 ≤ policy.backoff.maxMultiplier) (r : ProbeResult) :
    (s.apply r).2.Capped policy := by
  by_cases hr : r.outcome = .cancelled
  · exact (apply_cancelled s hr).symm ▸ h
  · refine ⟨(policy_apply s r).trans h.policy_eq, fun id state hs => ?_⟩
    rw [snapshot?_apply s hr, h.policy_eq] at hs
    split at hs
    · obtain ⟨old, hold, rfl⟩ := Option.map_eq_some_iff.mp hs
      exact TargetState.multiplier_record_le hmax (h.le id old hold) r
    · exact h.le id state hs

end StateStore

namespace Executor

variable {x : Executor} {u : ProbeTask}

theorem mem_tasks_dispatch {target : Target} {epoch : Nat} {now : Instant}
    (hu : u ∈ (x.dispatch target epoch now).tasks) : u ∈ x.tasks ∨ u.target = target := by
  rcases x.tasks_dispatch target epoch now with heq | ⟨state, heq, -⟩
  · exact .inl (heq ▸ hu)
  · exact (List.mem_append.mp (heq ▸ hu)).imp_right fun hnew => congrArg ProbeTask.target (List.mem_singleton.mp hnew)

theorem target_of_stepNumber {number : Nat} {now : Instant} (hu : u ∈ (x.stepNumber number now).tasks) :
    ∃ t ∈ x.tasks, t.target = u.target := by
  have hroll : (u.number, u.target, u.epoch) ∈ x.roll :=
    (keeps_stepNumber x number now).roll.subset (List.mem_map_of_mem hu)
  obtain ⟨t, ht, heq⟩ := List.mem_map.mp hroll
  exact ⟨t, ht, congrArg (·.2.1) heq⟩

theorem accounted_stepNumber_iff (h : x.Numbered) (number : Nat) (now : Instant) :
    (x.stepNumber number now).accounted = x.accounted ↔ x.FitsTurn number now := by
  rw [← lostBy_eq_nil_iff, accounted_stepNumber h number now, left_eq_add, Multiset.coe_eq_zero]

end Executor

namespace Roster

variable {r r' : Roster} {P : Target → Prop} {policy : HealthPolicy}

theorem capped_step (hmax : 1 ≤ policy.backoff.maxMultiplier) (h : r.store.Capped policy) (hs : Step r r') :
    r'.store.Capped policy := by
  cases hs with
  | mark | unschedule | schedule | finish | announce | hide | count | install => exact h
  | reschedule id now multiplier => exact (store_reschedule r id now multiplier).1.symm ▸ h
  | register hr => exact h.register hmax hr
  | forget id => exact h.remove id
  | apply c => exact h.apply hmax c.result
  | display id applied =>
    unfold display
    split <;> exact h

theorem capped_steps (hmax : 1 ≤ policy.backoff.maxMultiplier) (h : r.store.Capped policy) (hs : Steps r r') :
    r'.store.Capped policy := by
  induction hs with
  | refl => exact h
  | tail _ hlast ih => exact capped_step hmax ih hlast

theorem capped_start {registry : Registry} {firstDue : TargetId → Instant} (hmax : 1 ≤ policy.backoff.maxMultiplier)
    (hk : registry.current.Keyed) (h : Roster.start registry policy firstDue = .ok r) : r.store.Capped policy := by
  obtain ⟨-, -, -, -, hpolicy, hsnapshot⟩ := start_eq_ok hk h
  refine ⟨hpolicy, fun id state hs => ?_⟩
  rw [hsnapshot id] at hs
  obtain ⟨-, -, rfl⟩ := Option.map_eq_some_iff.mp hs
  exact hmax

/-- All targets are of one kind, and every interval of the schedule is that of such a target. -/
structure Serves (P : Target → Prop) (r : Roster) : Prop where
  registered : ∀ id t, r.registry.get? id = some t → P t
  based : ∀ id base, r.scheduler.base? id = some base → ∃ t, P t ∧ t.interval = base

theorem Serves.withMarks (h : r.Serves P) (marks : Table TargetId Nat) : (r.withMarks marks).Serves P :=
  ⟨h.registered, h.based⟩

theorem mem_dispatchDue {now : Instant} (r : Roster) :
    ∀ b ∈ (r.dispatchDue now).1, ∃ id, r.registry.get? id = some b.1 := by
  refine And.right (dispatchAll_induction (P := fun batch u => u.registry = r.registry ∧
    ∀ b ∈ batch, ∃ id, r.registry.get? id = some b.1) ?_ (r.scheduler.due now) [] r ⟨rfl, fun _ h => nomatch h⟩)
  rintro batch u id ⟨hreg, hbatch⟩
  rcases u.dispatchOne_cases id with ⟨-, heq⟩ | heq | ⟨t, n, ht, -, -, heq⟩
  · rw [heq, Option.toList_none, List.append_nil]
    exact ⟨hreg, hbatch⟩
  · rw [heq, Option.toList_none, List.append_nil]
    exact ⟨hreg, hbatch⟩
  · rw [heq]
    refine ⟨hreg, fun b hb => ?_⟩
    rcases List.mem_append.mp hb with hb | hb
    · exact hbatch b hb
    · cases List.mem_singleton.mp hb
      exact ⟨id, hreg ▸ ht⟩

theorem Serves.complete (h : r.Serves P) {c : Completion}
    (hm : r.scheduler.inFlight.get? c.result.targetId = some c.epoch) (now : Instant) : (r.complete c now).2.Serves P := by
  by_cases he : r.scheduler.epoch? c.result.targetId = some c.epoch
  · obtain ⟨u, hreg, hsch, -, heq⟩ := complete_eq_reschedule hm he
    rw [heq]
    refine ⟨fun id t ht => h.registered id t ?_, fun id base hbase => h.based id base ?_⟩
    · rw [(store_reschedule _ _ _ _).2, hreg] at ht
      exact ht
    · rw [base?_reschedule, hsch] at hbase
      exact hbase
  · rw [complete_of_stale hm he]
    exact h.withMarks _

/-- Where a completion meets the end of the clock: its result counts still, and the interval that follows is too long. -/
theorem fault_complete_iff {c : Completion} (hm : r.scheduler.inFlight.get? c.result.targetId = some c.epoch)
    (now : Instant) (fault : Fault) :
    (r.complete c now).1 = some fault ↔ fault = .clockRange ∧
      ∃ e, r.scheduler.entry? c.result.targetId = some e ∧ e.epoch = c.epoch ∧
        Instant.limit ≤ now.nanos + (r.scheduler.policy.interval e.baseInterval
          (((r.store.apply c.result).2.backoffMultiplier? c.result.targetId).getD 1)).nanos := by
  by_cases he : r.scheduler.epoch? c.result.targetId = some c.epoch
  · obtain ⟨e, hentry, hepoch⟩ := Option.map_eq_some_iff.mp he
    obtain ⟨u, -, hsch, hst, heq⟩ := complete_eq_reschedule hm he
    have hu : u.scheduler.entry? c.result.targetId = some e := by rw [hsch]; exact hentry
    have hpolicy : u.scheduler.policy = r.scheduler.policy := by rw [hsch]; rfl
    rw [heq, hst, reschedule, Scheduler.reschedule, hu, hpolicy]
    generalize ((r.store.apply c.result).2.backoffMultiplier? c.result.targetId).getD 1 = multiplier
    by_cases hfits : now.nanos + (r.scheduler.policy.interval e.baseInterval multiplier).nanos < Instant.limit
    · have hnext := Instant.add?_of_lt hfits
      simp only [hnext, hentry]
      constructor
      · intro h
        cases h
      · rintro ⟨-, e', he', -, hover⟩
        cases he'
        exact absurd hfits (Nat.not_lt.mpr hover)
    · have hnext := Instant.add?_of_not_lt hfits
      simp only [hnext]
      constructor
      · intro h
        cases h
        exact ⟨rfl, e, hentry, hepoch, Nat.not_lt.mp hfits⟩
      · rintro ⟨rfl, -⟩
        rfl
  · rw [complete_of_stale hm he]
    constructor
    · intro h
      cases h
    · rintro ⟨-, e, hentry, hepoch, -⟩
      exact absurd (by rw [Scheduler.epoch?, hentry, ← hepoch]; rfl) he

theorem Serves.insert (h : r.Serves P) {t : Target} (ht : P t) (id : TargetId) (firstDue : Instant) :
    Serves P { r with scheduler := r.scheduler.insert id t.interval firstDue } := by
  refine ⟨h.registered, fun id' base hbase => ?_⟩
  dsimp only at hbase
  rw [Scheduler.base?_insert] at hbase
  split at hbase
  · cases hbase
    exact ⟨t, ht, rfl⟩
  · exact h.based id' base hbase

section Reload

variable {targets : List Target} {firstDue : TargetId → Instant} {snapshot : RegistrySnapshot}

theorem withstands_serves (hlisted : ∀ id t, snapshot.get? id = some t → P t) (firstDue : TargetId → Instant) :
    Withstands snapshot firstDue (Serves P) where
  schedule _ id t ht hu := hu.insert (hlisted id t ht) id (firstDue id)
  register _ _ _ _ _ _ hu := ⟨hu.registered, hu.based⟩

theorem Serves.install (h : r.Serves P) (hlisted : ∀ id t, snapshot.get? id = some t → P t) (ids : List TargetId) :
    (ids.foldl discard (r.install snapshot)).Serves P := by
  have hd := discards_foldl ids (r.install snapshot)
  refine ⟨fun id t ht => hlisted id t ?_, fun id base hid => ?_⟩
  · rw [hd.registry] at ht
    exact ht
  · obtain ⟨e, he, rfl⟩ := Option.map_eq_some_iff.mp hid
    rw [hd.entry?] at he
    split at he
    · cases he
    · exact h.based id e.baseInterval (Option.map_eq_some_iff.mpr ⟨e, he, rfl⟩)

theorem Serves.reload {diff : RegistryDiff} (h : r.Serves P) (htargets : ∀ t ∈ targets, P t)
    (hr : r.reload targets firstDue = .ok (.ok (diff, r'))) : r'.Serves P := by
  obtain ⟨snapshot, hb, -, hcases⟩ := reload_eq_ok hr
  have hlisted (id : TargetId) (t : Target) (ht : snapshot.get? id = some t) : P t :=
    htargets t ((RegistrySnapshot.get?_build_iff hb id t).mp ht).1
  rcases hcases with ⟨-, rfl⟩ | ⟨u, hu, rfl⟩
  · exact h.install hlisted []
  · have hu := (withstands_serves hlisted firstDue).follow hu (h.install hlisted _)
    exact ⟨hu.registered, hu.based⟩

theorem Serves.interruptReload {fault : Fault} (h : r.Serves P) (htargets : ∀ t ∈ targets, P t)
    (hr : r.reload targets firstDue = .error fault) : (r.interruptReload targets firstDue).Serves P := by
  obtain ⟨snapshot, hb, -, heq⟩ := interruptReload_eq hr
  have hlisted (id : TargetId) (t : Target) (ht : snapshot.get? id = some t) : P t :=
    htargets t ((RegistrySnapshot.get?_build_iff hb id t).mp ht).1
  rw [heq]
  exact (withstands_serves hlisted firstDue).enrollSome _ _ (h.install hlisted _)

end Reload

theorem serves_start {registry : Registry} {policy : HealthPolicy} {firstDue : TargetId → Instant} {targets : List Target}
    (hb : RegistrySnapshot.build 0 targets = .ok registry.current) (htargets : ∀ t ∈ targets, P t)
    (h : Roster.start registry policy firstDue = .ok r) : r.Serves P := by
  obtain ⟨-, -, hreg, -⟩ := start_eq_ok (RegistrySnapshot.keyed_build hb) h
  have hlisted : ∀ id t, r.registry.get? id = some t → P t := fun id t ht =>
    htargets t ((RegistrySnapshot.get?_build_iff hb id t).mp (hreg ▸ ht)).1
  refine ⟨hlisted, fun id base hbase => ?_⟩
  rw [(viewed_start hb h).based] at hbase
  obtain ⟨t, ht, hinterval⟩ := Option.map_eq_some_iff.mp hbase
  exact ⟨t, hlisted id t ht, hinterval⟩

end Roster

namespace Monitor

def Event.brings : Event → List Target
  | .reload targets _ => targets
  | _ => []

/-- An event in which nothing breaks at the end of the clock: a completion is processed, and a turn loses no probe; the
instants that dispatches, reloads and drains reckon with are within the clock. -/
def Event.InClock (m : Monitor) (now : Instant) : Event → Prop
  | .dispatch => (now.after idlePoll).nanos < Instant.limit
  | .complete => ∀ c ∈ m.executor.completions.head?, (m.roster.complete c now).1 = none
  | .reload targets pick => ∀ t ∈ targets, (firstDue now m.jitter pick t.id).nanos < Instant.limit
  | .cancel => (now.after m.drainTimeout).nanos < Instant.limit
  | .turn number => (m.executor.stepNumber number now).accounted = m.executor.accounted
  | .halt _ | .arrange _ _ _ _ => True

def InClock (m : Monitor) : Course → Prop
  | [] => True
  | (now, e) :: es => e.InClock m now ∧ InClock (m.react now e) es

end Monitor

namespace Chronicle

variable {k : Chronicle} {P : Target → Prop}

/-- A monitor all of whose targets and probes are of one kind. -/
structure Serves (P : Target → Prop) (k : Chronicle) : Prop where
  matched : k.Matched
  roster : k.monitor.roster.Serves P
  tasks : ∀ t ∈ k.monitor.executor.tasks, P t.target

theorem Serves.dispatch (h : k.Serves P) (now : Instant) : (k.react now .dispatch).Serves P := by
  refine ⟨h.matched.dispatch now, ?_, ?_⟩
  · have hserves := h.roster.withMarks (k.monitor.roster.dispatchDue now).2.scheduler.inFlight
    rw [← h.matched.aligned.dispatchDue_eq now] at hserves
    exact hserves
  · refine List.foldlRecOn (motive := fun x : Executor => ∀ t ∈ x.tasks, P t.target) _ _ h.tasks fun x hx b hb t ht => ?_
    rcases Executor.mem_tasks_dispatch ht with ht | heq
    · exact hx t ht
    · obtain ⟨id, hreg⟩ := k.monitor.roster.mem_dispatchDue b hb
      exact heq ▸ h.roster.registered id b.1 hreg

theorem Serves.reload (h : k.Serves P) (now : Instant) {targets : List Target} (htargets : ∀ t ∈ targets, P t)
    (pick : TargetId → Nat) : (k.react now (.reload targets pick)).Serves P := by
  have hmatched := h.matched.reload now targets pick
  rcases k.react_reload now targets pick with ⟨diff, m, hm, heq⟩ | ⟨-, -, heq⟩ | ⟨fault, hm, heq⟩
  · obtain ⟨hroster, agenda, hx⟩ := Monitor.reload_eq_ok hm
    rw [heq] at hmatched ⊢
    exact ⟨hmatched, h.roster.reload htargets hroster, hx ▸ h.tasks⟩
  · rwa [heq]
  · rw [heq] at hmatched ⊢
    exact ⟨hmatched, h.roster.interruptReload htargets (Monitor.reload_eq_error hm).2, h.tasks⟩

theorem Serves.react (h : k.Serves P) {now : Instant} {e : Monitor.Event} (he : ∀ t ∈ e.brings, P t) :
    (k.react now e).Serves P := by
  cases e with
  | dispatch => exact h.dispatch now
  | complete =>
    cases hc : k.monitor.executor.completions with
    | nil => exact (react_complete_of_nil hc now).symm ▸ h
    | cons c unread =>
      have hmatched := h.matched.complete now
      rw [react_complete_of_cons hc] at hmatched ⊢
      exact ⟨hmatched, h.roster.complete (h.matched.get?_of_mem (hc ▸ List.mem_cons_self)) now, h.tasks⟩
  | reload targets pick => exact h.reload now he pick
  | turn number =>
    refine ⟨h.matched.turn now number, h.roster, fun u hu => ?_⟩
    obtain ⟨t, ht, htarget⟩ := Executor.target_of_stepNumber hu
    exact htarget ▸ h.tasks t ht
  | cancel | halt phase | arrange phase stopRequested scheduleChanged agenda =>
    exact ⟨h.matched.react now _, h.roster, h.tasks⟩

theorem serves_ofStart {now : Instant} {prober : Prober} {settings : Settings} {targets : List Target}
    {pick : TargetId → Nat} {m : Monitor} (hm : Monitor.start (some now) prober settings targets pick = .ok (.ok m))
    (htargets : ∀ t ∈ targets, P t) : (ofStart m).Serves P := by
  obtain ⟨⟨agenda, hx⟩, registry, firstDue, hb, hr⟩ := Monitor.start_eq_ok hm
  have htasks : (ofStart m).monitor.executor.tasks = [] := by
    change m.executor.tasks = []
    rw [hx]
    rfl
  refine ⟨matched_ofStart hm, Roster.serves_start hb htargets hr, fun t ht => ?_⟩
  rw [htasks] at ht
  cases ht

theorem Serves.fault_complete_eq_none {settings : Settings} {policy : HealthPolicy} (h : k.Serves (·.FitsHorizon settings))
    (hstore : k.monitor.roster.store.Capped policy) (hbackoff : policy.backoff = settings.backoff)
    (hpolicy : k.monitor.roster.scheduler.policy = settings.backoff) {c : Completion}
    (hc : c ∈ k.monitor.executor.completions) {now : Instant} (hnow : now.nanos < Instant.horizon) :
    (k.monitor.roster.complete c now).1 = none := by
  refine Option.eq_none_iff_forall_ne_some.mpr fun fault hfault => ?_
  obtain ⟨-, e, he, -, hover⟩ := (Roster.fault_complete_iff (h.matched.get?_of_mem hc) now fault).mp hfault
  have hmax : 1 ≤ policy.backoff.maxMultiplier := hbackoff ▸ Nat.le_max_right _ _
  have hmul := (hstore.apply hmax c.result).getD_le hmax c.result.targetId
  rw [hbackoff] at hmul
  -- the interval at a multiplier up to the cap is no longer than the interval at the cap
  obtain ⟨t, ht, hinterval⟩ := h.roster.based c.result.targetId e.baseInterval (by rw [Scheduler.base?, he]; rfl)
  have hroom := ht.interval
  have hlongest := BackoffPolicy.interval_le (p := settings.backoff) e.baseInterval hmul
  rw [hpolicy] at hover
  rw [hinterval] at hroom
  omega

/-- No event of a run overflows as long as every target that comes in fits the clock. -/
theorem Serves.inClock {settings : Settings} {policy : HealthPolicy} (h : k.Serves (·.FitsHorizon settings))
    (hs : settings.InRange) (hstore : k.monitor.roster.store.Capped policy) (hbackoff : policy.backoff = settings.backoff)
    (hpolicy : k.monitor.roster.scheduler.policy = settings.backoff)
    (hdrain : k.monitor.drainTimeout = settings.drainTimeout) (hgrace : k.monitor.executor.config.grace = settings.grace)
    {now : Instant} (hnow : now.nanos < Instant.horizon) (e : Monitor.Event) : e.InClock k.monitor now := by
  cases e with
  | dispatch => exact Instant.after_lt_limit hnow (by decide)
  | complete => exact fun c hc => h.fault_complete_eq_none hstore hbackoff hpolicy (List.mem_of_mem_head? hc) hnow
  | reload targets pick => exact fun t _ => Instant.firstDue_lt_limit hnow _ pick t.id
  | cancel => exact Instant.after_lt_limit hnow (hdrain ▸ hs.drainTimeout_le)
  | turn number =>
    refine (Executor.accounted_stepNumber_iff h.matched.numbered number now).mpr fun t ht _ _ => ?_
    have hdeadline := (h.tasks t (Executor.task?_some ht).1).deadline
    change now.nanos + t.target.timeout.nanos + k.monitor.executor.config.grace.nanos < Instant.limit
    rw [hgrace]
    omega
  | halt phase | arrange phase stopRequested scheduleChanged agenda => trivial

theorem Serves.inClock_run {settings : Settings} {policy : HealthPolicy} (h : k.Serves (·.FitsHorizon settings))
    (hs : settings.InRange) (hstore : k.monitor.roster.store.Capped policy) (hbackoff : policy.backoff = settings.backoff)
    (hpolicy : k.monitor.roster.scheduler.policy = settings.backoff)
    (hdrain : k.monitor.drainTimeout = settings.drainTimeout) (hgrace : k.monitor.executor.config.grace = settings.grace)
    (es : Monitor.Course) (hes : ∀ e ∈ es, e.1.nanos < Instant.horizon)
    (hbrought : ∀ e ∈ es, ∀ t ∈ e.2.brings, t.FitsHorizon settings) : k.monitor.InClock es := by
  induction es generalizing k with
  | nil => trivial
  | cons e es ih =>
    refine ⟨h.inClock hs hstore hbackoff hpolicy hdrain hgrace (hes e List.mem_cons_self) e.2, ?_⟩
    obtain ⟨htimeout, hconfig⟩ := k.monitor.frame_react e.1 e.2
    have hmax : 1 ≤ policy.backoff.maxMultiplier := hbackoff ▸ Nat.le_max_right _ _
    refine ih (h.react (hbrought e List.mem_cons_self)) (Roster.capped_steps hmax hstore (k.monitor.steps_react e.1 e.2))
      ((h.matched.policy_react e.1 e.2).trans hpolicy) (htimeout.trans hdrain) ?_
      (fun e' he' => hes e' (List.mem_cons_of_mem _ he')) fun e' he' => hbrought e' (List.mem_cons_of_mem _ he')
    exact (congrArg ExecutorConfig.grace hconfig).trans hgrace

end Chronicle

namespace Monitor

/-- Where the clock can end on a monitor. In the first 2^32 seconds jitter, drain and idle loop are always within it, and so
are the deadlines of targets that were configured in milliseconds. A completion breaks the loop exactly if its result counts
and the interval that follows is too long, and a turn loses its probe exactly if it begins it and timeout and grace are too
long. No event of a run does either if all targets leave room for their longest interval, their timeout and the grace. -/
theorem inClock_of_fitsHorizon (now : Instant) (prober : Prober) (settings : Settings) (targets : List Target)
    (pick : TargetId → Nat) (m : Monitor) (hm : start (some now) prober settings targets pick = .ok (.ok m))
    (hs : settings.InRange) (es : Course) :
    let k := m.run es
    (∀ t : Instant, t.nanos < Instant.horizon → (∀ spread pick id, (firstDue t spread pick id).nanos < Instant.limit) ∧
      (t.after k.drainTimeout).nanos < Instant.limit ∧ (t.after idlePoll).nanos < Instant.limit ∧
      ∀ files (config : TargetConfig) target, Target.ofConfig files config = .ok target → config.InRange →
        target.FitsClock settings.grace t) ∧
    (∀ c ∈ k.executor.completions, ∀ t fault, (k.roster.complete c t).1 = some fault ↔ fault = .clockRange ∧
      ∃ e, k.roster.scheduler.entry? c.result.targetId = some e ∧ e.epoch = c.epoch ∧
        Instant.limit ≤ t.nanos + (settings.backoff.interval e.baseInterval
          (((k.roster.store.apply c.result).2.backoffMultiplier? c.result.targetId).getD 1)).nanos) ∧
    (∀ number t, (k.executor.stepNumber number t).accounted = k.executor.accounted ↔
      ∀ task ∈ k.executor.task? number, k.executor.aborted task = false →
        task.state.begins k.executor.cancelled = true →
          t.nanos + task.target.timeout.nanos + settings.grace.nanos < Instant.limit) ∧
    ((∀ e ∈ es, e.1.nanos < Instant.horizon) → (∀ t ∈ targets, t.FitsHorizon settings) →
      (∀ e ∈ es, ∀ t ∈ e.2.brings, t.FitsHorizon settings) → m.InClock es) := by
  intro k
  obtain ⟨registry, roster, hb, hr, heq⟩ := eq_of_start hm
  have hdrain : m.drainTimeout = settings.drainTimeout := by rw [heq]
  have hgrace : m.executor.config.grace = settings.grace := by rw [heq]; rfl
  obtain ⟨htimeout, hconfig⟩ := frame_run m es
  have hmatched : ((Chronicle.ofStart m).run es).Matched := Chronicle.matched_run hm es
  have hpolicy := Chronicle.policy_run hm es
  rw [Chronicle.monitor_run] at hpolicy
  refine ⟨fun t ht => ⟨fun spread pick id => Instant.firstDue_lt_limit ht spread pick id, ?_, ?_, ?_⟩, ?_, ?_, ?_⟩
  · exact Instant.after_lt_limit ht (by rw [htimeout, hdrain]; exact hs.drainTimeout_le)
  · exact Instant.after_lt_limit ht (by decide)
  · intro files config target htarget hwords
    have hdeadline := Target.deadline_of_ofConfig htarget hwords hs
    unfold Target.FitsClock
    omega
  · intro c hc t fault
    have hmark := hmatched.get?_of_mem (by rw [Chronicle.monitor_run]; exact hc)
    rw [Chronicle.monitor_run] at hmark
    have hiff := Roster.fault_complete_iff hmark t fault
    rw [hpolicy] at hiff
    exact hiff
  · intro number t
    have hnumbered : k.executor.Numbered := by
      have hn := hmatched.numbered
      rwa [Chronicle.monitor_run] at hn
    rw [Executor.accounted_stepNumber_iff hnumbered, Executor.FitsTurn]
    unfold Target.FitsClock
    rw [hconfig, hgrace]
  · intro hes htargets hbrought
    have hstore : m.roster.store.Capped ⟨settings.failureThreshold, settings.latencyWindow, settings.backoff⟩ := by
      rw [heq]
      exact Roster.capped_start (Nat.le_max_right _ _) (RegistrySnapshot.keyed_build hb) hr
    exact (Chronicle.serves_ofStart hm htargets).inClock_run hs hstore rfl (Chronicle.policy_run hm []) hdrain hgrace es
      hes hbrought

/-- A target with the usual times is probed, reports and is cancelled within the clock. -/
theorem inClock_of_fitsHorizon_second :
    let target : Target := ⟨"a", ⟨"localhost", 1⟩, .tcp, .ofSeconds 30, .ofSeconds 5⟩
    let prober : Prober := fun _ _ start _ => some (start, .reported (.failure "a" .timeout "connect" ⟨0, 0⟩))
    let es : Course := [(⟨0⟩, .dispatch), (⟨0⟩, .turn 0), (⟨1⟩, .complete), (⟨2⟩, .reload [target] fun _ => 0), (⟨3⟩, .cancel)]
    ∃ m, start (some ⟨0⟩) prober {} [target] (fun _ => 0) = .ok (.ok m) ∧ m.InClock es := by
  intro target prober es
  have hex : ∃ m, start (some ⟨0⟩) prober {} [target] (fun _ => 0) = .ok (.ok m) ∧ True := by decide +kernel
  obtain ⟨m, hm, -⟩ := hex
  have hfits : ∀ t ∈ [target], t.FitsHorizon {} := by
    intro t ht
    cases List.mem_singleton.mp ht
    exact ⟨by decide, by decide⟩
  have hevents : ∀ e ∈ es, e.1.nanos < Instant.horizon := by decide
  obtain ⟨-, -, -, hclock⟩ := inClock_of_fitsHorizon ⟨0⟩ prober {} [target] (fun _ => 0) m hm Settings.inRange_default es
  refine ⟨m, hm, hclock hevents hfits ?_⟩
  simpa [es, Event.brings] using hfits

/-- An interval of 2^63 seconds breaks the loop when its first result is processed, and a timeout of 2^64 - 1 seconds loses
its probe. -/
theorem not_inClock_of_long_times :
    let target (interval timeout : Nat) : Target := ⟨"a", ⟨"localhost", 1⟩, .tcp, .ofSeconds interval, .ofSeconds timeout⟩
    let prober : Prober := fun _ _ start _ => some (start, .reported (.failure "a" .timeout "connect" ⟨0, 0⟩))
    let es : Course := [(⟨0⟩, .dispatch), (⟨0⟩, .turn 0)]
    (∃ m, start (some ⟨0⟩) prober {} [target (Nat.pow 2 63) 1] (fun _ => 0) = .ok (.ok m) ∧
      ((m.run es).executor.completions.head?.bind fun c => ((m.run es).roster.complete c ⟨0⟩).1) = some .clockRange) ∧
    ∃ m, start (some ⟨0⟩) prober {} [target 1 (Nat.pow 2 64 - 1)] (fun _ => 0) = .ok (.ok m) ∧
      (m.run es).executor.tasks = [] ∧ (m.run es).executor.completions = [] ∧
      (m.run es).roster.scheduler.inFlight.entries = [("a", 1)] := by
  decide +kernel

end Monitor

end TargetHealth
