import TargetHealth.Proofs.Executor.Rest
import TargetHealth.Proofs.Health.Store
import TargetHealth.Proofs.Schedule.Entries

namespace TargetHealth

structure Solo where
  target : Target
  /-- When and how the calls end that the prober makes for the target. -/
  calls : Nat → Instant → ProbeContext → Option (Instant × CallEnd)
  grace : Duration
  policy : HealthPolicy
  first : Instant

/-- How a target stands before a probe: when it is due, after which interval, and which results it has. -/
structure Stand where
  due : Instant
  interval : Duration
  results : List ProbeResult

namespace Solo

variable (s : Solo)

def prober : Prober := fun _ => s.calls

def probeFrom (n : Nat) (due : Instant) : RunningProbe := ⟨n, due, due.after s.target.timeout, none⟩

def endOf (p : RunningProbe) : Instant := max p.start (p.endsAt s.prober s.grace s.target)

def resultOf (p : RunningProbe) : Option ProbeResult := p.result? s.prober s.grace s.target (s.endOf p)

/-- The stand after a probe. A cancelled one leaves no result. -/
def next (a : Stand) (p : RunningProbe) : Stand :=
  let results := a.results ++ (s.resultOf p).toList.filter (·.outcome ≠ .cancelled)
  let health := TargetState.recordAll s.policy s.target.id results
  let interval := s.policy.backoff.interval s.target.interval health.backoffMultiplier
  ⟨(s.endOf p).after interval, interval, results⟩

def stand : Nat → Stand
  | 0 => ⟨s.first, s.target.interval, []⟩
  | n + 1 => s.next (stand n) (s.probeFrom n (stand n).due)

def due (n : Nat) : Instant := (s.stand n).due

def probe (n : Nat) : RunningProbe := s.probeFrom n (s.due n)

def ends (n : Nat) : Instant := s.endOf (s.probe n)

def dues (n : Nat) : List Instant := (List.range n).map s.due

def entry (n : Nat) : ScheduleEntry := ⟨s.target.id, s.due n, s.target.interval, (s.stand n).interval, 0⟩

def Fits (n : Nat) : Prop := s.target.FitsClock s.grace (s.due n)

def Past (n : Nat) (now : Instant) : Prop := ∀ i < n, s.Fits i ∧ s.ends i ≤ now

/-- What the target does at an instant: it waits for its due time, has a probe running, or has lost its probe. -/
inductive Settled (n : Nat) (now : Instant) : Prop
  | rests (hnow : now < s.due n)
  | runs (hfits : s.Fits n) (hdue : s.due n ≤ now) (hnow : now < s.ends n)
  | lost (hfits : ¬ s.Fits n) (hdue : s.due n ≤ now)

variable {s} {n n' : Nat} {now : Instant}

theorem due_le_ends (s : Solo) (n : Nat) : s.due n ≤ s.ends n := Nat.le_max_left _ _

theorem dues_succ (s : Solo) (n : Nat) : s.dues (n + 1) = s.dues n ++ [s.due n] := by
  rw [dues, dues, List.range_succ, List.map_append, List.map_singleton]

theorem result?_probe_isSome_iff (hdue : s.due n ≤ now) :
    ((s.probe n).result? s.prober s.grace s.target now).isSome ↔ s.ends n ≤ now :=
  RunningProbe.result?_isSome_iff.trans ⟨fun h => Nat.max_le.mpr ⟨hdue, h⟩, fun h => (Nat.max_le.mp h).2⟩

theorem Settled.not_lt (h : s.Settled n now) (hpast : s.Past n' now) : ¬ n < n' := by
  intro hlt
  obtain ⟨hfits, hends⟩ := hpast n hlt
  cases h with
  | rests hnow => exact absurd hnow (Nat.not_lt.mpr (Nat.le_trans (s.due_le_ends n) hends))
  | runs _ _ hnow => exact absurd hnow (Nat.not_lt.mpr hends)
  | lost hnot => exact hnot hfits

/-- The clock alone says how many probes a target has had. -/
theorem Settled.unique (h : s.Settled n now) (hpast : s.Past n now) (h' : s.Settled n' now) (hpast' : s.Past n' now) :
    n = n' :=
  Nat.le_antisymm (Nat.not_lt.mp (h'.not_lt hpast)) (Nat.not_lt.mp (h.not_lt hpast'))

end Solo

end TargetHealth
