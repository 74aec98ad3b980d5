import TargetHealth.Proofs.Monitor.Entries

namespace TargetHealth

namespace Monitor

def Event.IsUnbroken (m : Monitor) (now : Instant) : Event → Prop
  | .reload targets pick => (m.reload targets now pick).isOk = true
  | _ => True

/-- Every reload of a course is accepted or refused. -/
def Unbroken (m : Monitor) : Course → Prop
  | [] => True
  | (now, e) :: es => e.IsUnbroken m now ∧ Unbroken (m.react now e) es

instance (m : Monitor) (now : Instant) : (e : Event) → Decidable (e.IsUnbroken m now)
  | .reload targets pick => inferInstanceAs (Decidable ((m.reload targets now pick).isOk = true))
  | .dispatch | .complete | .cancel | .turn _ | .halt _ | .arrange _ _ _ _ => .isTrue trivial

instance decidableUnbroken (m : Monitor) : (es : Course) → Decidable (m.Unbroken es)
  | [] => .isTrue trivial
  | (now, e) :: es =>
    have := decidableUnbroken (m.react now e) es
    inferInstanceAs (Decidable (e.IsUnbroken m now ∧ (m.react now e).Unbroken es))

end Monitor

namespace Chronicle

variable {k : Chronicle}

theorem Matched.full_react (h : k.Matched) (hf : k.monitor.roster.Full) {now : Instant} {e : Monitor.Event}
    (he : e.IsUnbroken k.monitor now) : (k.react now e).monitor.roster.Full := by
  cases e with
  | dispatch =>
    have hmarks := h.aligned.dispatchDue_eq now
    have hroster : (k.react now .dispatch).monitor.roster = (k.monitor.roster.dispatchDue now).2 := rfl
    rw [hroster, hmarks]
    exact hf.of_eq rfl (fun _ => rfl) fun _ => rfl
  | complete =>
    cases hc : k.monitor.executor.completions with
    | nil => exact (react_complete_of_nil hc now).symm ▸ hf
    | cons c unread =>
      have hm := h.get?_of_mem (hc ▸ List.mem_cons_self)
      rw [react_complete_of_cons hc]
      exact hf.complete hm now
  | reload targets pick =>
    rcases k.react_reload now targets pick with ⟨diff, m, hm, heq⟩ | ⟨-, -, heq⟩ | ⟨fault, hm, -⟩
    · rw [heq]
      exact hf.reload (Roster.reloads_reload (Monitor.reload_eq_ok hm).1)
    · rwa [heq]
    · rw [Monitor.Event.IsUnbroken, hm] at he
      cases he
  | cancel | turn number | halt phase | arrange phase stopRequested scheduleChanged agenda => exact hf

theorem Matched.full_run (h : k.Matched) (hf : k.monitor.roster.Full) (es : Monitor.Course)
    (hes : k.monitor.Unbroken es) : (k.run es).monitor.roster.Full := by
  induction es generalizing k with
  | nil => exact hf
  | cons e es ih => exact ih (h.react e.1 e.2) (h.full_react hf hes.1) hes.2

theorem Matched.healthPolicy_react (h : k.Matched) (now : Instant) (e : Monitor.Event) :
    (k.react now e).monitor.roster.store.policy = k.monitor.roster.store.policy := by
  cases e with
  | dispatch =>
    have hroster : (k.react now .dispatch).monitor.roster = (k.monitor.roster.dispatchDue now).2 := rfl
    rw [hroster, h.aligned.dispatchDue_eq now]
    rfl
  | complete =>
    cases hc : k.monitor.executor.completions with
    | nil => rw [react_complete_of_nil hc]
    | cons c unread =>
      rw [react_complete_of_cons hc]
      exact Roster.policy_complete (h.get?_of_mem (hc ▸ List.mem_cons_self)) now
  | reload targets pick =>
    rcases k.react_reload now targets pick with ⟨diff, m, hm, heq⟩ | ⟨-, -, heq⟩ | ⟨fault, hm, heq⟩
    · rw [heq]
      exact (Roster.reloads_reload (Monitor.reload_eq_ok hm).1).policy
    · rw [heq]
    · rw [heq]
      exact (Roster.reschedules_interruptReload (Monitor.reload_eq_error hm).2).policy
  | cancel | turn number | halt phase | arrange phase stopRequested scheduleChanged agenda => rfl

theorem Matched.healthPolicy_run (h : k.Matched) (es : Monitor.Course) :
    (k.run es).monitor.roster.store.policy = k.monitor.roster.store.policy := by
  induction es generalizing k with
  | nil => rfl
  | cons e es ih => exact (ih (h.react e.1 e.2)).trans (h.healthPolicy_react e.1 e.2)

theorem Matched.unbroken (h : k.Matched)
    (hw : LatencyWindow.canReserve (max k.monitor.roster.store.policy.latencyWindow 1) = true) (es : Monitor.Course) :
    k.monitor.Unbroken es := by
  induction es generalizing k with
  | nil => trivial
  | cons e es ih =>
    have hpolicy := h.healthPolicy_react e.1 e.2
    refine ⟨?_, ih (h.react e.1 e.2) (hpolicy ▸ hw)⟩
    obtain ⟨now, e⟩ := e
    cases e with
    | reload targets pick =>
      cases hm : k.monitor.reload targets now pick with
      | ok answer =>
        rw [Monitor.Event.IsUnbroken, hm]
        rfl
      | error fault =>
        rw [Roster.unreservable_of_reload (Monitor.reload_eq_error hm).2] at hw
        cases hw
    | dispatch | complete | cancel | turn number | halt phase
    | arrange phase stopRequested scheduleChanged agenda => trivial

end Chronicle

namespace Monitor

variable {now : Instant} {prober : Prober} {settings : Settings} {targets : List Target} {pick : TargetId → Nat}
  {m : Monitor}

theorem full_of_start (hm : start (some now) prober settings targets pick = .ok (.ok m)) : m.roster.Full := by
  obtain ⟨-, registry, firstDue, hb, hr⟩ := start_eq_ok hm
  exact (Roster.start_eq_ok (RegistrySnapshot.keyed_build hb) hr).2.1

theorem full_run (hm : start (some now) prober settings targets pick = .ok (.ok m)) (es : Course)
    (hes : m.Unbroken es) : (m.run es).roster.Full := by
  have h := (Chronicle.matched_ofStart hm).full_run (full_of_start hm) es hes
  rwa [Chronicle.monitor_run] at h

theorem healthPolicy_run (hm : start (some now) prober settings targets pick = .ok (.ok m)) (es : Course) :
    (m.run es).roster.store.policy = ⟨settings.failureThreshold, settings.latencyWindow, settings.backoff⟩ := by
  obtain ⟨-, registry, firstDue, hb, hr⟩ := start_eq_ok hm
  have hrun := (Chronicle.matched_ofStart hm).healthPolicy_run es
  rw [Chronicle.monitor_run] at hrun
  exact hrun.trans (Roster.start_eq_ok (RegistrySnapshot.keyed_build hb) hr).2.2.2.2.1

/-- Where room can be reserved for a latency window no reload is broken off. -/
theorem unbroken_of_start (hm : start (some now) prober settings targets pick = .ok (.ok m))
    (hw : LatencyWindow.canReserve (max settings.latencyWindow 1) = true) (es : Course) : m.Unbroken es := by
  have hpolicy : m.roster.store.policy = _ := healthPolicy_run hm []
  exact (Chronicle.matched_ofStart hm).unbroken (hpolicy ▸ hw) es

end Monitor

end TargetHealth
