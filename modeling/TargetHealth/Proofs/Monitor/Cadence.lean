import TargetHealth.Proofs.Monitor.Staleness
import TargetHealth.Proofs.Monitor.Views

namespace TargetHealth

open ProbeResult

/-- The interval of a target after some failures in a row. -/
def Settings.stretched (s : Settings) (base : Duration) (failures : Nat) : Duration :=
  min ⟨base.nanos * min s.backoffCap (s.backoffFactor ^ failures)⟩ (max base s.maxInterval)

namespace Settings

variable {s : Settings}

theorem pos_of_validate (h : s.validate = .ok ()) : 1 ≤ s.backoffFactor ∧ 1 ≤ s.backoffCap := by
  unfold validate at h
  split at h
  · cases h
  · split at h
    · cases h
    · omega

theorem backoff_eq (h : s.validate = .ok ()) : s.backoff = ⟨s.backoffFactor, s.backoffCap, s.maxInterval⟩ := by
  obtain ⟨hf, hc⟩ := pos_of_validate h
  rw [backoff, Nat.max_eq_left hf, Nat.max_eq_left hc]

theorem le_stretched (h : s.validate = .ok ()) (base : Duration) (failures : Nat) : base ≤ s.stretched base failures := by
  obtain ⟨hf, hc⟩ := pos_of_validate h
  have hpow : 1 ≤ s.backoffFactor ^ failures := Nat.one_le_pow failures _ hf
  have hmul : 1 ≤ min s.backoffCap (s.backoffFactor ^ failures) := Nat.le_min.mpr ⟨hc, hpow⟩
  have hlong : base.nanos ≤ base.nanos * min s.backoffCap (s.backoffFactor ^ failures) := Nat.le_mul_of_pos_right _ hmul
  exact Nat.le_min.mpr ⟨hlong, Nat.le_max_left _ _⟩

theorem stretched_le (s : Settings) (base : Duration) (failures : Nat) :
    s.stretched base failures ≤ max base s.maxInterval := Nat.min_le_right _ _

end Settings

theorem BackoffPolicy.interval_eq_of_lt {p : BackoffPolicy} {base : Duration} {multiplier : Nat} (hm : 1 ≤ multiplier)
    (h : (p.interval base multiplier).nanos < Instant.limit) :
    p.interval base multiplier = min ⟨base.nanos * multiplier⟩ (max base p.maxInterval) := by
  have hlimit : Instant.limit ≤ Duration.limit - 1 := by decide
  refine congrArg Duration.mk ?_
  change (p.interval base multiplier).nanos = min (base.nanos * multiplier) (max base.nanos p.maxInterval.nanos)
  rw [nanos_interval, Nat.max_eq_left hm] at h ⊢
  omega

/-- The multiplier of a target goes by the failures since its last success; a cycle without a probe leaves it. -/
theorem TargetState.multiplier_recordAll {policy : HealthPolicy} (hf : 1 ≤ policy.backoff.factor)
    (hm : 1 ≤ policy.backoff.maxMultiplier) (hc : policy.backoff.maxMultiplier ≤ counterMax) (id : TargetId)
    (rs : List ProbeResult) :
    (recordAll policy id rs).backoffMultiplier = min policy.backoff.maxMultiplier (policy.backoff.factor ^ failureStreak rs) := by
  induction rs using List.reverseRecOn with
  | nil => exact (Nat.min_eq_right hm).symm
  | append_singleton rs r ih =>
    rw [recordAll_concat, failureStreak_concat, record]
    cases ho : r.outcome with
    | success => exact (Nat.min_eq_right hm).symm
    | skipped | cancelled => exact ih
    | timeout | connectionRefused | dnsFailure | tlsHandshakeFailure | certificateInvalid | protocolError =>
      have hclimb := policy.backoff.escalate_climbed hf hm hc (failureStreak rs)
      rw [← ih] at hclimb
      exact hclimb

theorem Roster.policy_start {registry : Registry} {policy : HealthPolicy} {firstDue : TargetId → Instant} {r : Roster}
    (h : Roster.start registry policy firstDue = .ok r) : r.scheduler.policy = policy.backoff := by
  obtain ⟨store, -, heq⟩ := exists_of_bind_eq_ok h
  cases heq
  exact List.foldlRecOn (motive := fun s : Scheduler => s.policy = policy.backoff) _ _ rfl
    fun _ hs _ _ => (Scheduler.policy_insert _ _ _ _).trans hs

namespace Chronicle

variable {k : Chronicle}

theorem Matched.policy_react (h : k.Matched) (now : Instant) (e : Monitor.Event) :
    (k.react now e).monitor.roster.scheduler.policy = k.monitor.roster.scheduler.policy := by
  cases e with
  | dispatch => exact congrArg (·.scheduler.policy) (h.aligned.dispatchDue_eq now)
  | complete =>
    cases hc : k.monitor.executor.completions with
    | nil => rw [react_complete_of_nil hc]
    | cons c unread =>
      rw [react_complete_of_cons hc]
      exact (Roster.frame_complete (h.get?_of_mem (hc ▸ List.mem_cons_self)) now).1
  | reload targets pick =>
    rcases k.react_reload now targets pick with ⟨diff, m, hm, heq⟩ | ⟨-, -, heq⟩ | ⟨fault, hm, heq⟩
    · rw [heq]
      exact (Roster.frame_reload (Monitor.reload_eq_ok hm).1).1
    · rw [heq]
    · rw [heq]
      exact (Roster.reschedules_interruptReload (Monitor.reload_eq_error hm).2).backoff
  | cancel | turn number | halt phase | arrange phase stopRequested scheduleChanged agenda => rfl

theorem Matched.epoch?_react (h : k.Matched) (now : Instant) (e : Monitor.Event) (id : TargetId) :
    k.monitor.roster.scheduler.lastEpoch ≤ (k.react now e).monitor.roster.scheduler.lastEpoch ∧
      ((k.react now e).monitor.roster.scheduler.epoch? id = k.monitor.roster.scheduler.epoch? id ∨
        ∀ n, (k.react now e).monitor.roster.scheduler.epoch? id = some n → k.monitor.roster.scheduler.lastEpoch < n) := by
  cases e with
  | dispatch =>
    have heq := h.aligned.dispatchDue_eq now
    have hlast : (k.react now .dispatch).monitor.roster.scheduler.lastEpoch = k.monitor.roster.scheduler.lastEpoch :=
      congrArg (·.scheduler.lastEpoch) heq
    exact ⟨Nat.le_of_eq hlast.symm, .inl (congrArg (·.scheduler.epoch? id) heq)⟩
  | complete =>
    cases hc : k.monitor.executor.completions with
    | nil => exact (react_complete_of_nil hc now).symm ▸ ⟨Nat.le_refl _, .inl rfl⟩
    | cons c unread =>
      have hm := h.get?_of_mem (hc ▸ List.mem_cons_self)
      rw [react_complete_of_cons hc]
      exact ⟨Nat.le_of_eq (Roster.lastEpoch_complete hm now).symm, .inl (Roster.epoch?_complete hm now id)⟩
  | reload targets pick =>
    rcases k.react_reload now targets pick with ⟨diff, m, hm, heq⟩ | ⟨-, -, heq⟩ | ⟨fault, hm, heq⟩
    · have hr := Roster.reloads_reload (Monitor.reload_eq_ok hm).1
      rw [heq]
      refine ⟨hr.lastEpoch, ?_⟩
      rcases hr.cases id with ⟨-, -, he, -⟩ | ⟨-, -, he, -⟩ | ⟨-, -, ⟨n, hn, hlt, -⟩, -⟩
      · exact .inl he
      · exact .inr fun n hn => by rw [he] at hn; cases hn
      · refine .inr fun n' hn' => ?_
        rw [hn] at hn'
        cases hn'
        exact hlt
    · exact heq.symm ▸ ⟨Nat.le_refl _, .inl rfl⟩
    · have hr := Roster.reschedules_interruptReload (Monitor.reload_eq_error hm).2
      rw [heq]
      refine ⟨hr.lastEpoch, or_iff_not_imp_right.mpr fun hnew => ?_⟩
      obtain ⟨n, hnew⟩ := not_forall.mp hnew
      obtain ⟨hn, hle⟩ := Classical.not_imp.mp hnew
      exact congrArg (Option.map (·.epoch)) ((hr.epoch? hn).resolve_right hle)
  | cancel | turn number | halt phase | arrange phase stopRequested scheduleChanged agenda =>
    exact ⟨Nat.le_refl _, .inl rfl⟩

theorem count_dispatchedIn_le (k : Chronicle) (now : Instant) (e : Monitor.Event) (probe : ProbeLabel) :
    (dispatchedIn k.past).count probe ≤ (dispatchedIn (k.react now e).past).count probe := by
  rw [Chronicle.react, dispatchedIn, dispatchedIn, List.filterMap_append, List.count_append]
  exact Nat.le_add_left _ _

theorem Matched.entry?_react (h : k.Matched) (now : Instant) (e : Monitor.Event) {id : TargetId} {n : Nat}
    (he : k.monitor.roster.scheduler.epoch? id = some n) (hf : k.monitor.roster.scheduler.inFlight.get? id = none) :
    (dispatchedIn k.past).count (id, n) < (dispatchedIn (k.react now e).past).count (id, n) ∨
    (k.react now e).monitor.roster.scheduler.epoch? id ≠ some n ∨
    Scheduler.entry? (k.react now e).monitor.roster.scheduler id = k.monitor.roster.scheduler.entry? id ∧
      (k.react now e).monitor.roster.scheduler.inFlight.get? id = none := by
  cases e with
  | dispatch =>
    by_cases hb : (id, n) ∈ (k.monitor.roster.dispatchDue now).1.map batchLabel
    · left
      have hperm : (dispatchedIn (k.react now .dispatch).past).Perm
          ((k.monitor.roster.dispatchDue now).1.map batchLabel ++ dispatchedIn k.past) :=
        Multiset.coe_eq_coe.mp (filterMap_record (fun _ => rfl) _ _)
      have hpos := List.count_pos_iff.mpr hb
      rw [hperm.count_eq, List.count_append]
      omega
    · refine .inr (.inr ⟨congrArg (·.scheduler.entry? id) (h.aligned.dispatchDue_eq now), ?_⟩)
      obtain ⟨-, -, -, hmarks, hbatch⟩ := h.aligned.marks_dispatchDue now
      refine Option.eq_none_iff_forall_ne_some.mpr fun n' hn' => ?_
      rcases hmarks id n' hn' with hold | hnew
      · rw [hf] at hold
        cases hold
      · have hepoch := hbatch id n' hnew
        rw [he] at hepoch
        cases hepoch
        exact hb hnew
  | complete =>
    cases hc : k.monitor.executor.completions with
    | nil => exact (react_complete_of_nil hc now).symm ▸ .inr (.inr ⟨rfl, hf⟩)
    | cons c unread =>
      have hm := h.get?_of_mem (hc ▸ List.mem_cons_self)
      have hne : id ≠ c.result.targetId := by
        rintro rfl
        rw [hf] at hm
        cases hm
      rw [react_complete_of_cons hc]
      refine .inr (.inr ⟨(Roster.frame_complete hm now).2 id hne, ?_⟩)
      dsimp only
      rw [Roster.inFlight_complete hm, Table.get?_erase, if_neg hne, hf]
  | reload targets pick =>
    rcases k.react_reload now targets pick with ⟨diff, m, hm, heq⟩ | ⟨-, -, heq⟩ | ⟨fault, hm, heq⟩
    · have hroster := (Monitor.reload_eq_ok hm).1
      have hr := Roster.reloads_reload hroster
      rw [heq]
      rcases hr.cases id with ⟨ht, -⟩ | ⟨-, -, hgone, -⟩ | ⟨-, -, ⟨n', hn', hlt, -⟩, -⟩
      · exact .inr (.inr ⟨(Roster.frame_reload hroster).2 id ht, hr.inFlight ▸ hf⟩)
      · refine .inr (.inl ?_)
        rw [hgone]
        exact (Option.some_ne_none n).symm
      · refine .inr (.inl ?_)
        have hle := h.aligned.opened id n he
        rw [hn']
        rintro ⟨⟩
        omega
    · exact heq.symm ▸ .inr (.inr ⟨rfl, hf⟩)
    · have hr := Roster.reschedules_interruptReload (Monitor.reload_eq_error hm).2
      rw [heq]
      by_cases hkept : (k.monitor.interruptReload targets now pick).roster.scheduler.epoch? id = some n
      · refine .inr (.inr ⟨(hr.epoch? hkept).resolve_right ?_, hr.inFlight ▸ hf⟩)
        exact Nat.not_lt.mpr (h.aligned.opened id n he)
      · exact .inr (.inl hkept)
  | cancel | turn number | halt phase | arrange phase stopRequested scheduleChanged agenda => exact .inr (.inr ⟨rfl, hf⟩)

theorem Matched.epoch?_run_ne {k : Chronicle} (h : k.Matched) (es : Monitor.Course) {id : TargetId} {n : Nat}
    (hle : n ≤ k.monitor.roster.scheduler.lastEpoch) (hne : k.monitor.roster.scheduler.epoch? id ≠ some n) :
    (k.run es).monitor.roster.scheduler.epoch? id ≠ some n := by
  induction es generalizing k with
  | nil => exact hne
  | cons e es ih =>
    obtain ⟨hlast, hepoch⟩ := h.epoch?_react e.1 e.2 id
    refine ih (h.react e.1 e.2) (hle.trans hlast) ?_
    rcases hepoch with hsame | hnew
    · exact hsame ▸ hne
    · intro hn
      have hlt := hnew n hn
      omega

theorem count_dispatchedIn_run_le (k : Chronicle) (es : Monitor.Course) (probe : ProbeLabel) :
    (dispatchedIn k.past).count probe ≤ (dispatchedIn (k.run es).past).count probe := by
  induction es generalizing k with
  | nil => exact Nat.le_refl _
  | cons e es ih => exact (count_dispatchedIn_le k e.1 e.2 probe).trans (ih _)

/-- A target that rests keeps its entry as long as it is not dispatched and not given another epoch. -/
theorem Matched.entry?_run {k : Chronicle} (h : k.Matched) (es : Monitor.Course) {id : TargetId} {n : Nat}
    (he : k.monitor.roster.scheduler.epoch? id = some n) (hf : k.monitor.roster.scheduler.inFlight.get? id = none)
    (hcount : (dispatchedIn (k.run es).past).count (id, n) = (dispatchedIn k.past).count (id, n))
    (hepoch : (k.run es).monitor.roster.scheduler.epoch? id = some n) :
    Scheduler.entry? (k.run es).monitor.roster.scheduler id = k.monitor.roster.scheduler.entry? id ∧
      (k.run es).monitor.roster.scheduler.inFlight.get? id = none := by
  induction es generalizing k with
  | nil => exact ⟨rfl, hf⟩
  | cons e es ih =>
    have hm := h.react e.1 e.2
    rcases h.entry?_react e.1 e.2 he hf with hlt | hne | ⟨hentry, hfree⟩
    · have hle := count_dispatchedIn_run_le (k.react e.1 e.2) es (id, n)
      rw [Chronicle.run] at hcount
      omega
    · have hopened := (h.aligned.opened id n he).trans (h.epoch?_react e.1 e.2 id).1
      exact absurd hepoch (hm.epoch?_run_ne es hopened hne)
    · have he' : (k.react e.1 e.2).monitor.roster.scheduler.epoch? id = some n := by
        rw [Scheduler.epoch?, hentry]
        exact he
      have hle := count_dispatchedIn_le k e.1 e.2 (id, n)
      have hle' := count_dispatchedIn_run_le (k.react e.1 e.2) es (id, n)
      rw [Chronicle.run] at hcount
      rw [← hentry]
      exact ih hm he' hfree (by omega) hepoch

theorem Told.multiplier_complete {policy : HealthPolicy} (h : k.Told policy) (hf : 1 ≤ policy.backoff.factor)
    (hm : 1 ≤ policy.backoff.maxMultiplier) (hcap : policy.backoff.maxMultiplier ≤ counterMax) {c : Completion}
    (hc : c ∈ k.monitor.executor.completions) (now : Instant) {id : TargetId} {target : Target}
    (ht : (k.monitor.roster.complete c now).2.registry.get? id = some target) :
    (k.monitor.roster.complete c now).2.store.backoffMultiplier? id = some (min policy.backoff.maxMultiplier
      (policy.backoff.factor ^ failureStreak (counted id (.processed c :: k.past)))) := by
  rw [StateStore.backoffMultiplier?, h.health_complete hc now id, ht, Option.map_some, Option.map_some,
    TargetState.multiplier_recordAll hf hm hcap]

theorem policy_run {now : Instant} {prober : Prober} {settings : Settings} {targets : List Target}
    {pick : TargetId → Nat} {m : Monitor} (hm : Monitor.start (some now) prober settings targets pick = .ok (.ok m))
    (es : Monitor.Course) : ((ofStart m).run es).monitor.roster.scheduler.policy = settings.backoff := by
  obtain ⟨-, registry, firstDue, -, hr⟩ := Monitor.start_eq_ok hm
  have hstart : (ofStart m).Matched ∧ (ofStart m).monitor.roster.scheduler.policy = settings.backoff :=
    ⟨matched_ofStart hm, Roster.policy_start hr⟩
  exact (run_preserves (P := fun k => k.Matched ∧ k.monitor.roster.scheduler.policy = settings.backoff)
    (fun k now e h => ⟨h.1.react now e, (h.1.policy_react now e).trans h.2⟩) es _ hstart).2

theorem Told.entry?_complete {settings : Settings} (hval : settings.validate = .ok ())
    (hcap : settings.backoffCap ≤ counterMax)
    (h : k.Told ⟨settings.failureThreshold, settings.latencyWindow, settings.backoff⟩) (hv : k.monitor.roster.Viewed)
    (hpolicy : k.monitor.roster.scheduler.policy = settings.backoff) {c : Completion}
    (hc : c ∈ k.monitor.executor.completions) (hfresh : isFresh c.label k.past = true) {t : Instant}
    (hwhole : (k.monitor.roster.complete c t).1 = none) :
    ∃ target e, k.monitor.roster.registry.get? c.result.targetId = some target ∧
      Scheduler.entry? (k.monitor.roster.complete c t).2.scheduler c.result.targetId = some e ∧
      e.nextDue = t.after e.currentInterval ∧
      e.currentInterval =
        settings.stretched target.interval (failureStreak (counted c.result.targetId (.processed c :: k.past))) := by
  obtain ⟨hfactor, hcapPos⟩ := Settings.pos_of_validate hval
  have hbackoff := Settings.backoff_eq hval
  have hmark := h.matched.get?_of_mem hc
  have hepoch := (h.isFresh_iff hc).mp hfresh
  obtain ⟨e, he, hlabel⟩ := Option.map_eq_some_iff.mp hepoch
  have hbase : (k.monitor.roster.registry.get? c.result.targetId).map (·.interval) = some e.baseInterval := by
    rw [← hv.based, Scheduler.base?, he]
    rfl
  obtain ⟨target, htarget, hinterval⟩ := Option.map_eq_some_iff.mp hbase
  obtain ⟨hfits, hentry⟩ := Roster.entry?_complete hmark he hlabel hwhole
  have hreg : (k.monitor.roster.complete c t).2.registry.get? c.result.targetId = some target := by
    rw [(Roster.complete_of_current hmark hepoch t).1]
    exact htarget
  rw [hbackoff] at h hpolicy
  have hmul := h.multiplier_complete hfactor hcapPos hcap hc t hreg
  rw [hmul, Option.getD_some, hpolicy] at hfits hentry
  generalize failureStreak (counted c.result.targetId (.processed c :: k.past)) = failures at hfits hentry ⊢
  have hpow : 1 ≤ settings.backoffFactor ^ failures := Nat.one_le_pow failures _ hfactor
  have hexact := BackoffPolicy.interval_eq_of_lt (p := ⟨settings.backoffFactor, settings.backoffCap, settings.maxInterval⟩)
    (Nat.le_min.mpr ⟨hcapPos, hpow⟩) (Nat.lt_of_le_of_lt (Nat.le_add_left _ _) hfits)
  refine ⟨target, _, htarget, hentry, rfl, ?_⟩
  rw [hinterval]
  exact hexact

theorem Told.free_of_complete {policy : HealthPolicy} (h : k.Told policy) {c : Completion} {unread : List Completion}
    (hc : k.monitor.executor.completions = c :: unread) (hfresh : isFresh c.label k.past = true) (t : Instant) :
    (k.react t .complete).monitor.roster.scheduler.epoch? c.result.targetId = some c.epoch ∧
      (k.react t .complete).monitor.roster.scheduler.inFlight.get? c.result.targetId = none := by
  have hmem : c ∈ k.monitor.executor.completions := hc ▸ List.mem_cons_self
  have hmark := h.matched.get?_of_mem hmem
  rw [react_complete_of_cons hc]
  dsimp only
  rw [Roster.epoch?_complete hmark, Roster.inFlight_complete hmark, Table.get?_erase, if_pos rfl]
  exact ⟨(h.isFresh_iff hmem).mp hfresh, rfl⟩

/-- When a result that counts is processed, its target is due again one interval later. The interval goes by the failures
since the last success, and lies between the interval of the target and the greatest one. As long as the target is not
dispatched and keeps its epoch nothing moves it, and it is dispatched as soon as that time has come. -/
theorem due_one_interval_after_completion (now : Instant) (prober : Prober) (settings : Settings) (targets : List Target)
    (pick : TargetId → Nat) (m : Monitor) (hm : Monitor.start (some now) prober settings targets pick = .ok (.ok m))
    (hcap : settings.backoffCap ≤ counterMax) (es es' : Monitor.Course) (t : Instant)
    (hes : m.Whole (es ++ (t, .complete) :: es')) (c : Completion)
    (hc : ((ofStart m).run es).monitor.executor.completions.head? = some c)
    (hfresh : isFresh c.label ((ofStart m).run es).past = true) :
    let k := (ofStart m).run es
    let k' := k.react t .complete
    let k'' := k'.run es'
    let id := c.result.targetId
    ∃ target e, k.monitor.roster.registry.get? id = some target ∧ k'.monitor.roster.scheduler.entry? id = some e ∧
      e.nextDue = t.after e.currentInterval ∧
      e.currentInterval = settings.stretched target.interval (failureStreak (counted id k'.past)) ∧
      target.interval ≤ e.currentInterval ∧ e.currentInterval ≤ max target.interval settings.maxInterval ∧
      ((dispatchedIn k''.past).count c.label = (dispatchedIn k'.past).count c.label →
        k''.monitor.roster.scheduler.epoch? id = some c.epoch →
        k''.monitor.roster.scheduler.entry? id = some e ∧
          ∀ t', c.label ∈ (k''.monitor.roster.dispatchDue t').1.map batchLabel ↔ e.nextDue ≤ t') := by
  intro k k' k'' id
  obtain ⟨hes, hwhole, hes'⟩ := (Monitor.whole_append _ _ _).mp hes
  obtain ⟨hval, -⟩ := Monitor.accepted_of_start hm
  obtain ⟨-, registry, firstDue, hb, hr⟩ := Monitor.start_eq_ok hm
  have htold : k.Told ⟨settings.failureThreshold, settings.latencyWindow, settings.backoff⟩ :=
    (told_ofStart hm).run es hes.unbroken
  have hviewed : k.monitor.roster.Viewed := viewed_run (matched_ofStart hm) (Roster.viewed_start hb hr) es hes
  have hrun : k.monitor = m.run es := monitor_run (ofStart m) es
  rw [← hrun] at hwhole hes'
  obtain ⟨unread, hcons⟩ := List.head?_eq_some_iff.mp hc
  have hmem : c ∈ k.monitor.executor.completions := hcons ▸ List.mem_cons_self
  have hk' : k' = _ := react_complete_of_cons hcons t
  have hclear : (k.monitor.roster.complete c t).1 = none := by
    have hhead := hwhole
    rw [Monitor.Event.IsWhole, hcons] at hhead
    exact hhead
  obtain ⟨target, e, htarget, hentry, hdue, hinterval⟩ :=
    htold.entry?_complete hval hcap hviewed (policy_run hm es) hmem hfresh hclear
  refine ⟨target, e, htarget, ?_, hdue, ?_, ?_, ?_, ?_⟩
  · rw [hk']
    exact hentry
  · rw [hk']
    exact hinterval
  · rw [hinterval]
    exact Settings.le_stretched hval _ _
  · rw [hinterval]
    exact Settings.stretched_le _ _ _
  · intro hcount hepoch
    have hmatched : k'.Matched := htold.matched.react t .complete
    obtain ⟨hepoch', hfree⟩ := htold.free_of_complete hcons hfresh t
    obtain ⟨hrest, hopen⟩ := hmatched.entry?_run es' hepoch' hfree hcount hepoch
    have hkept : k''.monitor.roster.scheduler.entry? id = some e := by
      rw [hrest, hk']
      exact hentry
    have hqueued : k''.monitor.roster.scheduler.Queued :=
      (viewed_run hmatched (htold.matched.viewed_react hviewed hwhole) es' hes').queued
    refine ⟨hkept, fun t' => ?_⟩
    have hbatch : c.label ∈ _ ↔ _ :=
      (hmatched.run es').aligned.mem_batch_iff (hqueued.nodup_due t') c.epoch
    rw [hbatch, and_iff_left hepoch, hqueued.mem_due_iff_of_entry hkept hopen]

/-- A target with an interval of a second fails, and its next probe breaks down. That changes nothing: it is due again
after two seconds, and not before. -/
theorem due_one_interval_after_completion_skipped :
    let prober : Prober := fun _ call start _ =>
      some (start, if call = 0 then .reported (.failure "a" .timeout "connect" ⟨0, 0⟩) else .panicked)
    let target : Target := ⟨"a", ⟨"localhost", 1⟩, .tcp, .ofSeconds 1, .ofSeconds 1⟩
    let clock (seconds : Nat) : Instant := .after ⟨0⟩ (.ofSeconds seconds)
    let es : Monitor.Course := [(clock 0, .dispatch), (clock 0, .turn 0), (clock 0, .complete), (clock 2, .dispatch),
      (clock 2, .turn 1)]
    ∃ m, Monitor.start (some (clock 0)) prober { jitterMs := 0 } [target] (fun _ => 0) = .ok (.ok m) ∧
      let k := (((ofStart m).run es).react (clock 2) .complete).run [(clock 3, .dispatch)]
      ∃ e, k.monitor.roster.scheduler.entry? "a" = some e ∧ e.nextDue = clock 4 ∧
        ∀ t, ("a", 1) ∈ (k.monitor.roster.dispatchDue t).1.map batchLabel ↔ clock 4 ≤ t := by
  intro prober target clock es
  let c : Completion := ⟨1, .skipped "a" "probe panicked" (clock 2).wallClock, clock 2⟩
  have hex : ∃ m, Monitor.start (some (clock 0)) prober { jitterMs := 0 } [target] (fun _ => 0) = .ok (.ok m) ∧
      m.Whole (es ++ (clock 2, .complete) :: [(clock 3, .dispatch)]) ∧
      ((ofStart m).run es).monitor.executor.completions.head? = some c ∧
      isFresh c.label ((ofStart m).run es).past = true ∧
      ((ofStart m).run es).monitor.roster.registry.get? "a" = some target ∧
      failureStreak (counted c.result.targetId (((ofStart m).run es).react (clock 2) .complete).past) = 1 ∧
      (let k' := ((ofStart m).run es).react (clock 2) .complete
      let k'' := k'.run [(clock 3, .dispatch)]
      (dispatchedIn k''.past).count c.label = (dispatchedIn k'.past).count c.label ∧
        k''.monitor.roster.scheduler.epoch? "a" = some 1) := by decide +kernel
  obtain ⟨m, hm, hes, hc, hfresh, htarget, hfailures, hcount, hepoch⟩ := hex
  obtain ⟨target', e, htarget', -, hdue, hinterval, -, -, hrest⟩ :=
    due_one_interval_after_completion (clock 0) prober { jitterMs := 0 } [target] (fun _ => 0) m hm (by decide) es
      [(clock 3, .dispatch)] (clock 2) hes c hc hfresh
  obtain ⟨hentry, hdispatched⟩ := hrest hcount hepoch
  cases htarget.symm.trans htarget'
  have hfour : e.nextDue = clock 4 := by
    have hstretched : (clock 2).after (Settings.stretched { jitterMs := 0 } target.interval 1) = clock 4 := by decide
    rw [hdue, hinterval, hfailures, hstretched]
  exact ⟨m, hm, e, hentry, hfour, fun t => hfour ▸ hdispatched t⟩

end Chronicle

end TargetHealth
