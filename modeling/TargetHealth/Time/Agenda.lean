import TargetHealth.Time.Instant

namespace TargetHealth

/-- Who acts next. Parties that are ready act in the order in which they became ready. When none is, the clock moves on to
the next alarm; alarms for one instant ring in the order in which they were set. -/
structure Agenda (α : Type) where
  ready : List α
  /-- Earliest first. A party has at most one alarm. -/
  alarms : List (Instant × α)
deriving DecidableEq, Repr

namespace Agenda

variable {α : Type}

def empty : Agenda α := ⟨[], []⟩

instance : Inhabited (Agenda α) := ⟨empty⟩

variable [DecidableEq α]

def wake (g : Agenda α) (a : α) : Agenda α := if a ∈ g.ready then g else { g with ready := g.ready ++ [a] }

def wakeAll (g : Agenda α) (as : List α) : Agenda α := as.foldl wake g

def dropAlarm (g : Agenda α) (a : α) : Agenda α := { g with alarms := g.alarms.filter (fun e => e.2 ≠ a) }

def insertAlarm (t : Instant) (a : α) : List (Instant × α) → List (Instant × α)
  | [] => [(t, a)]
  | e :: rest => if t < e.1 then (t, a) :: e :: rest else e :: insertAlarm t a rest

def setAlarm (g : Agenda α) (a : α) (t : Instant) : Agenda α :=
  { g with alarms := insertAlarm t a (g.dropAlarm a).alarms }

def forget (g : Agenda α) (a : α) : Agenda α := { g.dropAlarm a with ready := g.ready.filter (· ≠ a) }

def nextAlarm? (g : Agenda α) : Option Instant := g.alarms.head?.map (·.1)

def ring (g : Agenda α) (t : Instant) : Agenda α :=
  let (rung, later) := g.alarms.partition (fun e => e.1 ≤ t)
  wakeAll { g with alarms := later } (rung.map (·.2))

end Agenda

structure Actors (σ α : Type) where
  agenda : σ → Agenda α
  withAgenda : σ → Agenda α → σ
  /-- What a party does with its turn at an instant. -/
  act : Instant → α → σ → σ
  /-- More turns than the parties can take before the clock has to move on. -/
  turns : σ → Nat

namespace Actors

variable {σ α : Type} [DecidableEq α]

def takeTurns (w : Actors σ α) (now : Instant) : Nat → σ → σ
  | 0, s => s
  | n + 1, s =>
    match (w.agenda s).ready with
    | [] => s
    | a :: rest => takeTurns w now n (w.act now a (w.withAgenda s { w.agenda s with ready := rest }))

def settle (w : Actors σ α) (now : Instant) (s : σ) : σ := w.takeTurns now (w.turns s) s

/-- Let everything happen up to an instant, the instant included, or until the system is done. The answer holds the
instant at which the clock stands then. -/
def runUntil (w : Actors σ α) (done : σ → Bool) (limit now : Instant) (s : σ) : σ × Instant :=
  let s := w.settle now s
  if done s then (s, now)
  else
    match (w.agenda s).nextAlarm? with
    | none => (s, limit)
    | some t =>
      if now < t ∧ t ≤ limit then w.runUntil done limit t (w.withAgenda s ((w.agenda s).ring t)) else (s, limit)
termination_by limit.nanos - now.nanos
decreasing_by
  rename_i h
  have h1 : now.nanos < t.nanos := h.1
  have h2 : t.nanos ≤ limit.nanos := h.2
  omega

end Actors

end TargetHealth
