import Mathlib.Tactic.ByContra
import TargetHealth.Probe.Transport
import TargetHealth.Proofs.Time.Instant

namespace TargetHealth

/-- When phases that follow one another from an instant on are over: after the sum of their times, unless one hangs. -/
def Phase.endAfter (start : Instant) (phases : List Phase) : Option Instant :=
  (phases.mapM Phase.work).map fun times => start.after ⟨times.foldr (fun d rest => d.nanos + rest) 0⟩

namespace Phase

theorem endAfter_cons (start : Instant) (phase : Phase) (rest : List Phase) :
    endAfter start (phase :: rest) = phase.work.bind fun d => endAfter (start.after d) rest := by
  unfold endAfter
  rw [List.mapM_cons]
  cases phase.work with
  | none => rfl
  | some d =>
    cases rest.mapM Phase.work with
    | none => rfl
    | some times => simp [Instant.after, Nat.add_assoc]

theorem le_of_endAfter {start e : Instant} {phases : List Phase} (h : endAfter start phases = some e) : start ≤ e := by
  obtain ⟨times, -, rfl⟩ := Option.map_eq_some_iff.mp h
  exact Nat.le_add_right _ _

theorem endAfter_append (start : Instant) (phases rest : List Phase) :
    endAfter start (phases ++ rest) = (endAfter start phases).bind fun e => endAfter e rest := by
  induction phases generalizing start with
  | nil => rfl
  | cons phase phases ih =>
    rw [List.cons_append, endAfter_cons, endAfter_cons, Option.bind_assoc]
    exact Option.bind_congr fun d _ => ih (start.after d)

theorem exists_of_endAfter_append {start e : Instant} (phases rest : List Phase)
    (h : endAfter start (phases ++ rest) = some e) : ∃ s, endAfter start phases = some s ∧ s ≤ e := by
  rw [endAfter_append] at h
  obtain ⟨s, hs, he⟩ := Option.bind_eq_some_iff.mp h
  exact ⟨s, hs, le_of_endAfter he⟩

end Phase

namespace ProbeContext

variable {c : ProbeContext} {start : Instant}

/-- Whether both limits let pass what ends at an instant: the deadline by then, a cancellation before. -/
def Allows (c : ProbeContext) (e : Instant) : Prop := e ≤ c.deadline ∧ ∀ t, c.cancelledAt = some t → e < t

/-- The limit that comes first: what it says of the phase that it meets, and when. -/
def stop (c : ProbeContext) (phase : String) : Verdict × Instant :=
  match c.cancelledAt with
  | some t => if t ≤ c.deadline then (.error .cancelled, t) else (.error (.timeout phase), c.deadline)
  | none => (.error (.timeout phase), c.deadline)

def begun (c : ProbeContext) (start : Instant) : List Phase → List (Phase × Instant)
  | [] => []
  | phase :: rest =>
    (phase, start) :: match c.run phase.name start phase.work with
      | (.ok (), t) => c.begun t rest
      | _ => []

theorem Allows.mono {s e : Instant} (h : c.Allows e) (hse : s ≤ e) : c.Allows s :=
  ⟨Nat.le_trans hse h.1, fun t ht => Nat.lt_of_le_of_lt hse (h.2 t ht)⟩

theorem stop_eq_error (c : ProbeContext) (phase : String) : ∃ e t, c.stop phase = (.error e, t) := by
  unfold stop
  repeat' split
  all_goals exact ⟨_, _, rfl⟩

theorem raceDeadline_of_le {d : Duration} (h : start.after d ≤ c.deadline) (phase : String) :
    c.raceDeadline phase start (some d) = (.ok (), start.after d) :=
  if_pos (Nat.le_trans h (Nat.le_max_right _ _))

theorem raceDeadline_of_lt {work : Option Duration} (hd : start ≤ c.deadline)
    (h : ∀ d, work = some d → c.deadline < start.after d) (phase : String) :
    c.raceDeadline phase start work = (.error (.timeout phase), c.deadline) := by
  have hmax : max start c.deadline = c.deadline := congrArg Instant.mk (Nat.max_eq_right hd)
  unfold raceDeadline
  rw [hmax]
  cases work with
  | none => rfl
  | some d => exact if_neg (Nat.not_le.mpr (h d rfl))

theorem run_of_allows {d : Duration} (h : c.Allows (start.after d)) (phase : String) :
    c.run phase start (some d) = (.ok (), start.after d) := by
  unfold run
  rw [raceDeadline_of_le h.1]
  cases hcancel : c.cancelledAt with
  | none => rfl
  | some t => exact if_neg (Nat.not_le.mpr (h.2 t hcancel))

/-- A phase that starts within the limits and ends in none of them meets the first one. -/
theorem run_of_not_allows {work : Option Duration} (hd : start ≤ c.deadline)
    (hc : ∀ t, c.cancelledAt = some t → start ≤ t) (h : ∀ d, work = some d → ¬ c.Allows (start.after d))
    (phase : String) : c.run phase start work = c.stop phase := by
  by_cases hready : ∃ d, work = some d ∧ start.after d ≤ c.deadline
  · obtain ⟨d, rfl, hle⟩ := hready
    -- the deadline lets it pass, so that it is the cancellation that does not
    obtain ⟨t, hcancel, hte⟩ : ∃ t, c.cancelledAt = some t ∧ t ≤ start.after d := by
      by_contra hnone
      refine h d rfl ⟨hle, fun t ht => Nat.lt_of_not_le fun hte => hnone ⟨t, ht, hte⟩⟩
    have hmax : max start t = t := congrArg Instant.mk (Nat.max_eq_right (hc t hcancel))
    have htd : t ≤ c.deadline := Nat.le_trans hte hle
    simp only [run, stop, raceDeadline_of_le hle, hcancel, if_pos hte, if_pos htd, hmax]
  · have hlate : ∀ d, work = some d → c.deadline < start.after d :=
      fun d hw => Nat.lt_of_not_le fun hle => hready ⟨d, hw, hle⟩
    simp only [run, stop, raceDeadline_of_lt hd hlate]
    cases hcancel : c.cancelledAt with
    | none => rfl
    | some t =>
      have hmax : max start t = t := congrArg Instant.mk (Nat.max_eq_right (hc t hcancel))
      dsimp only
      rw [hmax]

theorem runAll_cons_of_ok {phase : Phase} {t : Instant} (h : c.run phase.name start phase.work = (.ok (), t))
    (rest : List Phase) : c.runAll start (phase :: rest) = c.runAll t rest := by
  rw [runAll, h]

theorem runAll_cons_of_stop {phase : Phase} (h : c.run phase.name start phase.work = c.stop phase.name)
    (rest : List Phase) : c.runAll start (phase :: rest) = c.stop phase.name := by
  obtain ⟨e, t, hstop⟩ := c.stop_eq_error phase.name
  rw [runAll, h, hstop]

theorem begun_cons_of_ok {phase : Phase} {t : Instant} (h : c.run phase.name start phase.work = (.ok (), t))
    (rest : List Phase) : c.begun start (phase :: rest) = (phase, start) :: c.begun t rest := by
  rw [begun, h]

theorem begun_cons_of_stop {phase : Phase} (h : c.run phase.name start phase.work = c.stop phase.name)
    (rest : List Phase) : c.begun start (phase :: rest) = [(phase, start)] := by
  obtain ⟨e, t, hstop⟩ := c.stop_eq_error phase.name
  rw [begun, h, hstop]

/-- How a run ends that is stopped: there is a first phase whose end a limit does not allow. -/
structure StopsAt (c : ProbeContext) (start : Instant) (before : List Phase) (phase : Phase) (after : List Phase) :
    Prop where
  /-- The phases before it end in time, and it starts then. -/
  starts : ∃ s, Phase.endAfter start before = some s ∧ (before = [] ∨ c.Allows s)
  passes : ¬ ∃ e, Phase.endAfter start (before ++ [phase]) = some e ∧ c.Allows e
  /-- Whatever would come after it has no part in the end. -/
  runAll_eq : ∀ others, c.runAll start (before ++ phase :: others) = c.stop phase.name
  begun_eq : (c.begun start (before ++ phase :: after)).map (·.1) = before ++ [phase]

theorem runAll_cases (phases : List Phase) (hd : start ≤ c.deadline) (hc : ∀ t, c.cancelledAt = some t → start ≤ t) :
    (∃ e, Phase.endAfter start phases = some e ∧ (phases = [] ∨ c.Allows e) ∧ c.runAll start phases = (.ok (), e) ∧
      (c.begun start phases).map (·.1) = phases) ∨
    ∃ before phase after, phases = before ++ phase :: after ∧ c.StopsAt start before phase after := by
  induction phases generalizing start with
  | nil => exact .inl ⟨start, rfl, .inl rfl, rfl, rfl⟩
  | cons phase rest ih =>
    by_cases hready : ∃ d, phase.work = some d ∧ c.Allows (start.after d)
    · obtain ⟨d, hw, hallows⟩ := hready
      have hrun : c.run phase.name start phase.work = (.ok (), start.after d) := by
        rw [hw]
        exact run_of_allows hallows phase.name
      have hend (phases : List Phase) :
          Phase.endAfter start (phase :: phases) = Phase.endAfter (start.after d) phases := by
        rw [Phase.endAfter_cons, hw, Option.bind_some]
      obtain ⟨e, he, htime, hall, hbegun⟩ | ⟨before, last, after, rfl, hstops⟩ :=
        ih hallows.1 fun t ht => Nat.le_of_lt (hallows.2 t ht)
      · refine .inl ⟨e, (hend rest).trans he, .inr ?_, (runAll_cons_of_ok hrun rest).trans hall, ?_⟩
        · obtain rfl | htime := htime
          · cases he
            exact hallows
          · exact htime
        · rw [begun_cons_of_ok hrun, List.map_cons, hbegun]
      · obtain ⟨⟨s, hs, htime⟩, hpasses, hall, hbegun⟩ := hstops
        refine .inr ⟨phase :: before, last, after, rfl, ⟨⟨s, (hend before).trans hs, .inr ?_⟩, ?_, ?_, ?_⟩⟩
        · obtain rfl | htime := htime
          · cases hs
            exact hallows
          · exact htime
        · rw [List.cons_append, hend]
          exact hpasses
        · exact fun others => (runAll_cons_of_ok hrun _).trans (hall others)
        · rw [List.cons_append, begun_cons_of_ok hrun, List.map_cons, hbegun, List.cons_append]
    · have hrun := run_of_not_allows hd hc (fun d hw hallows => hready ⟨d, hw, hallows⟩) phase.name
      refine .inr ⟨[], phase, rest, rfl, ⟨⟨start, rfl, .inl rfl⟩, ?_, runAll_cons_of_stop hrun, ?_⟩⟩
      · rintro ⟨e, he, hallows⟩
        rw [List.nil_append, Phase.endAfter_cons] at he
        obtain ⟨d, hw, hlast⟩ := Option.bind_eq_some_iff.mp he
        cases hlast
        exact hready ⟨d, hw, hallows⟩
      · rw [List.nil_append, begun_cons_of_stop hrun]
        rfl

end ProbeContext

namespace Network

variable (network : Network)

def attempts : List Endpoint → List Phase
  | [] => []
  | endpoint :: rest =>
    ⟨"connect", network.dialTime endpoint⟩ :: match network.dial endpoint with
      | .ok _ => []
      | .error _ => attempts rest

def reached (address : Address) : Option String → List Endpoint → Except ProbeError Server
  | failure, [] => .error (.connect (failure.getD ("no reachable address for " ++ address.text)))
  | _, endpoint :: rest =>
    match network.dial endpoint with
    | .ok server => .ok server
    | .error fault => reached address (some (endpoint.text ++ ": " ++ fault.message)) rest

/-- The phases of a connection: the look-up of a host that is no literal, and the attempts at what it gives. -/
def phases (address : Address) : List Phase :=
  match address.literal?, network.lookUp address with
  | some endpoint, _ => network.attempts [endpoint]
  | none, .ok endpoints => ⟨"resolve", network.lookUpTime address⟩ :: network.attempts endpoints
  | none, .error _ => [⟨"resolve", network.lookUpTime address⟩]

/-- What a connection comes to if no limit stops it. -/
def outcome (address : Address) : Except ProbeError Server :=
  (resolve address (.ok (network.lookUp address))).bind fun endpoints => network.reached address none endpoints

/-- The end of a run, with what it came to if it was not stopped. -/
def settle (ending : Verdict × Instant) (outcome : Except ProbeError Server) : Except ProbeError Server × Instant :=
  (ending.1.bind fun _ => outcome, ending.2)

theorem settle_cons (c : ProbeContext) (start : Instant) (phase : Phase) (rest : List Phase)
    (outcome : Except ProbeError Server) : settle (c.runAll start (phase :: rest)) outcome =
      match c.run phase.name start phase.work with
      | (.ok (), t) => settle (c.runAll t rest) outcome
      | (.error e, t) => (.error e, t) := by
  rw [ProbeContext.runAll]
  cases c.run phase.name start phase.work with
  | mk verdict t => cases verdict <;> rfl

theorem dialAny_eq (c : ProbeContext) (address : Address) (endpoints : List Endpoint) (start : Instant)
    (failure : Option String) : network.dialAny c address start failure endpoints =
      settle (c.runAll start (network.attempts endpoints)) (network.reached address failure endpoints) := by
  induction endpoints generalizing start failure with
  | nil => rfl
  | cons endpoint rest ih =>
    unfold dialAny attempts reached
    rw [settle_cons]
    cases c.run "connect" start (network.dialTime endpoint) with
    | mk verdict t =>
      cases verdict with
      | error e => rfl
      | ok =>
        cases network.dial endpoint with
        | ok server => rfl
        | error fault => exact ih t _

/-- A connection is a run of its phases, and what it comes to is known once they have completed. -/
theorem connect_eq (c : ProbeContext) (start : Instant) (address : Address) : network.connect c start address =
    settle (c.runAll start (network.phases address)) (network.outcome address) := by
  unfold connect phases outcome resolve
  cases address.literal? with
  | some endpoint => exact network.dialAny_eq c address [endpoint] start none
  | none =>
    cases network.lookUp address with
    | error reason =>
      rw [settle_cons]
      cases c.run "resolve" start (network.lookUpTime address) with
      | mk verdict t => cases verdict <;> rfl
    | ok endpoints =>
      rw [settle_cons]
      cases c.run "resolve" start (network.lookUpTime address) with
      | mk verdict t =>
        cases verdict with
        | error e => rfl
        | ok =>
          cases endpoints with
          | nil => rfl
          | cons endpoint rest => exact network.dialAny_eq c address (endpoint :: rest) t none

end Network

/-- Phases share one deadline and one cancellation, however many they are. All of them complete if the sum of their
times ends by the deadline and before the cancellation. Else the first whose end would pass the earlier of the two is
stopped by it, at its instant, and none after it begins. A connection is such a run: a look-up, and then attempts at any
number of endpoints. -/
theorem ProbeContext.phases_share_limits (c : ProbeContext) (start : Instant) (phases : List Phase)
    (hd : start ≤ c.deadline) (hc : ∀ t, c.cancelledAt = some t → start ≤ t) :
    let completes := phases = [] ∨ ∃ e, Phase.endAfter start phases = some e ∧ c.Allows e
    ((c.runAll start phases).1 = .ok () ↔ completes) ∧
    (completes → (∃ e, Phase.endAfter start phases = some e ∧ c.runAll start phases = (.ok (), e)) ∧
      (c.begun start phases).map (·.1) = phases) ∧
    (¬ completes → ∃ before phase after, phases = before ++ phase :: after ∧ c.StopsAt start before phase after) ∧
    ∀ (network : Network) (address : Address), network.connect c start address =
      Network.settle (c.runAll start (network.phases address)) (network.outcome address) := by
  intro completes
  obtain ⟨e, he, htime, hall, hbegun⟩ | ⟨before, phase, after, rfl, hstops⟩ := runAll_cases phases hd hc
  · have hcompletes : completes := htime.imp_right fun h => ⟨e, he, h⟩
    refine ⟨iff_of_true (congrArg Prod.fst hall) hcompletes, fun _ => ⟨⟨e, he, hall⟩, hbegun⟩,
      fun h => (h hcompletes).elim, fun network address => network.connect_eq c start address⟩
  · have hstopped : (c.runAll start (before ++ phase :: after)).1 ≠ .ok () := by
      obtain ⟨e, t, hstop⟩ := c.stop_eq_error phase.name
      rw [hstops.runAll_eq, hstop]
      exact fun h => nomatch h
    have hnot : ¬ completes := by
      rintro (hnil | ⟨e, he, hallows⟩)
      · exact List.append_ne_nil_of_right_ne_nil _ (List.cons_ne_nil _ _) hnil
      · obtain ⟨s, hs, hle⟩ := Phase.exists_of_endAfter_append (before ++ [phase]) after (by simpa using he)
        exact hstops.passes ⟨s, hs, hallows.mono hle⟩
    exact ⟨iff_of_false hstopped hnot, fun h => (hnot h).elim, fun _ => ⟨before, phase, after, rfl, hstops⟩,
      fun network address => network.connect_eq c start address⟩

/-- Five seconds of work: a deadline after five seconds lets them pass, one after four stops the third phase, and a
cancellation before that stops the second. -/
theorem ProbeContext.phases_share_limits_stopped :
    let phases : List Phase := [⟨"resolve", some (.ofSeconds 1)⟩, ⟨"connect", some (.ofSeconds 2)⟩,
      ⟨"tls handshake", some (.ofSeconds 2)⟩, ⟨"request", some .zero⟩]
    let under (deadline : Nat) (cancelledAt : Option Instant) : ProbeContext :=
      ⟨Instant.origin.after (.ofSeconds deadline), cancelledAt⟩
    let halfway : Instant := ⟨2500000000⟩
    (under 5 none).Allows (Instant.origin.after (.ofSeconds 5)) ∧
    ((under 5 none).begun .origin phases).map (·.1) = phases ∧
    (under 4 none).runAll .origin phases = (.error (.timeout "tls handshake"), Instant.origin.after (.ofSeconds 4)) ∧
    (∃ before phase after, phases = before ++ phase :: after ∧ (under 4 none).StopsAt .origin before phase after) ∧
    (under 4 (some halfway)).runAll .origin phases = (.error .cancelled, halfway) ∧
    ∃ before phase after, phases = before ++ phase :: after ∧
      (under 4 (some halfway)).StopsAt .origin before phase after := by
  intro phases under halfway
  have hallows : (under 5 none).Allows (Instant.origin.after (.ofSeconds 5)) := ⟨by decide, fun _ h => nomatch h⟩
  obtain ⟨-, hall, -⟩ := phases_share_limits (under 5 none) .origin phases (by decide) (fun _ h => nomatch h)
  obtain ⟨hlate, -, hstops, -⟩ := phases_share_limits (under 4 none) .origin phases (by decide) (fun _ h => nomatch h)
  obtain ⟨hcancelled, -, hstops', -⟩ := phases_share_limits (under 4 (some halfway)) .origin phases (by decide)
    (fun t h => by cases h; decide)
  have htimeout : (under 4 none).runAll .origin phases =
      (.error (.timeout "tls handshake"), Instant.origin.after (.ofSeconds 4)) := rfl
  have hcancel : (under 4 (some halfway)).runAll .origin phases = (.error .cancelled, halfway) := rfl
  refine ⟨hallows, (hall (.inr ⟨_, rfl, hallows⟩)).2, htimeout, hstops fun h => ?_, hcancel, hstops' fun h => ?_⟩
  · exact nomatch htimeout ▸ hlate.mpr h
  · exact nomatch hcancel ▸ hcancelled.mpr h

end TargetHealth
