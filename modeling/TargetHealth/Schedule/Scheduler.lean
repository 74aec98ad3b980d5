import TargetHealth.Schedule.Backoff
import TargetHealth.Time.Instant
import TargetHealth.Probe.Result
import TargetHealth.Table

namespace TargetHealth

structure ScheduleEntry where
  targetId : TargetId
  nextDue : Instant
  baseInterval : Duration
  currentInterval : Duration
  epoch : Nat
deriving DecidableEq, Repr, Inhabited

def ScheduleEntry.toJson (e : ScheduleEntry) : Json :=
  .object [
    ("target_id", .string e.targetId),
    ("base_interval", Json.ofDuration e.baseInterval),
    ("current_interval", Json.ofDuration e.currentInterval)]

abbrev DueQueue := List (Instant × TargetId)

namespace DueQueue

def Before (a b : Instant × TargetId) : Prop := a.1 < b.1 ∨ a.1 = b.1 ∧ a.2 < b.2

instance (a b : Instant × TargetId) : Decidable (Before a b) :=
  inferInstanceAs (Decidable (a.1 < b.1 ∨ a.1 = b.1 ∧ a.2 < b.2))

def insert (slot : Instant × TargetId) : DueQueue → DueQueue
  | [] => [slot]
  | s :: rest =>
    if slot = s then s :: rest
    else if Before slot s then slot :: s :: rest
    else s :: insert slot rest

def erase (slot : Instant × TargetId) (q : DueQueue) : DueQueue := q.filter (· ≠ slot)

end DueQueue

/-- When each target is probed next. Entries are queued by due time and id, so equal due times come out in id order. A
dispatched target stays in the schedule but is marked in flight and passed over until its probe reports back; only then is
its next due time computed. Every insertion opens a new epoch, and a probe that reports under an older epoch is stale. -/
structure Scheduler where
  policy : BackoffPolicy
  entries : Table TargetId ScheduleEntry
  queue : DueQueue
  /-- The epoch under which each probe in flight was dispatched. -/
  inFlight : Table TargetId Nat
  lastEpoch : Nat
deriving DecidableEq, Repr, Inhabited

namespace Scheduler

def new (policy : BackoffPolicy) : Scheduler := ⟨policy, .empty, [], .empty, 0⟩

/-- Drop a target. Its in-flight mark stays until its probe reports. -/
def remove (s : Scheduler) (id : TargetId) : Scheduler :=
  match s.entries.get? id with
  | none => s
  | some e => { s with entries := s.entries.erase id, queue := DueQueue.erase (e.nextDue, id) s.queue }

/-- Add a target, due first at `firstDue`, under a new epoch. -/
def insert (s : Scheduler) (id : TargetId) (base : Duration) (firstDue : Instant) : Scheduler :=
  let s := s.remove id
  let epoch := s.lastEpoch + 1
  { s with
    entries := s.entries.insert id ⟨id, firstDue, base, base, epoch⟩
    queue := DueQueue.insert (firstDue, id) s.queue
    lastEpoch := epoch }

def setBaseInterval (s : Scheduler) (id : TargetId) (base : Duration) : Scheduler :=
  { s with entries := s.entries.modify id (fun e => { e with baseInterval := base }) }

def entry? (s : Scheduler) (id : TargetId) : Option ScheduleEntry := s.entries.get? id

def contains (s : Scheduler) (id : TargetId) : Bool := s.entries.contains id

def isInFlight (s : Scheduler) (id : TargetId) : Bool := s.inFlight.contains id

def inFlightCount (s : Scheduler) : Nat := s.inFlight.size

def due (s : Scheduler) (now : Instant) : List TargetId :=
  ((s.queue.takeWhile (fun slot => slot.1 ≤ now)).filter (fun slot => !s.isInFlight slot.2)).map (·.2)

/-- Mark a target as dispatched, and give the epoch to report back with. Nothing happens to a target that is
unknown or in flight already. -/
def markInFlight (s : Scheduler) (id : TargetId) : Option (Nat × Scheduler) :=
  if s.isInFlight id then none
  else (s.entry? id).map (fun e => (e.epoch, { s with inFlight := s.inFlight.insert id e.epoch }))

/-- Clear the in-flight mark made under `epoch`. The answer is whether the schedule entry is still the one
that was dispatched. -/
def finish (s : Scheduler) (id : TargetId) (epoch : Nat) : Bool × Scheduler :=
  if s.inFlight.get? id = some epoch then
    (decide ((s.entry? id).map (·.epoch) = some epoch), { s with inFlight := s.inFlight.erase id })
  else (false, s)

/-- Schedule the next probe one stretched interval after `now`. -/
def reschedule (s : Scheduler) (id : TargetId) (now : Instant) (multiplier : Nat) :
    Except Fault (Option ScheduleEntry × Scheduler) :=
  match s.entry? id with
  | none => .ok (none, s)
  | some e => do
    let interval := s.policy.interval e.baseInterval multiplier
    let next ← now.add? interval
    let e' := { e with currentInterval := interval, nextDue := next }
    .ok (some e', { s with
      entries := s.entries.insert id e'
      queue := DueQueue.insert (next, id) (DueQueue.erase (e.nextDue, id) s.queue) })

/-- The schedule as a rescheduling leaves it that meets the end of the clock: the target has its new interval, and no
place in the queue. -/
def interrupt (s : Scheduler) (id : TargetId) (multiplier : Nat) : Scheduler :=
  match s.entry? id with
  | none => s
  | some e => { s with
      entries := s.entries.insert id { e with currentInterval := s.policy.interval e.baseInterval multiplier }
      queue := DueQueue.erase (e.nextDue, id) s.queue }

def nextWakeup (s : Scheduler) : Option Instant :=
  (s.queue.find? (fun slot => !s.isInFlight slot.2)).map (·.1)

end Scheduler

end TargetHealth
