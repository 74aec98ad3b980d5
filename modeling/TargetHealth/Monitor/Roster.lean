import TargetHealth.Config.Settings
import TargetHealth.Executor.Executor
import TargetHealth.Health.Store
import TargetHealth.Metrics.Targets
import TargetHealth.Schedule.Scheduler
import TargetHealth.Target.Registry

namespace TargetHealth

/-- What a monitor knows of its targets: which they are, when each is due, how each fares, and what is shown of it. A
completion is processed in four steps and a reload in three; each step is atomic, so that steps of one may come between steps
of the other. -/
structure Roster where
  registry : Registry
  scheduler : Scheduler
  store : StateStore
  gauges : TargetMetrics
deriving DecidableEq

namespace Roster

def start (registry : Registry) (policy : HealthPolicy) (firstDue : TargetId → Instant) : Except Fault Roster := do
  let targets := registry.current.targets.values
  let ids := registry.current.ids
  let store ← StateStore.withTargets policy ids
  .ok ⟨registry,
    targets.foldl (fun s t => s.insert t.id t.interval (firstDue t.id)) (Scheduler.new policy.backoff),
    store,
    ids.foldl (fun g id => g.update id .unknown 1) (TargetMetrics.empty.setTotal ids.length)⟩

/-- Clear the in-flight mark of a probe. The answer is whether its result still counts. -/
def finish (r : Roster) (c : Completion) : Bool × Roster :=
  let (current, scheduler) := r.scheduler.finish c.result.targetId c.epoch
  (current, { r with scheduler := scheduler })

def apply (r : Roster) (c : Completion) : Applied × Roster :=
  let (applied, store) := r.store.apply c.result
  (applied, { r with store := store })

/-- Bring the gauges of a target up to date. The answer is the multiplier of its interval. -/
def display (r : Roster) (id : TargetId) : Applied → Nat × Roster
  | .updated _ current multiplier => (multiplier, { r with gauges := r.gauges.update id current multiplier })
  | _ => ((r.store.backoffMultiplier? id).getD 1, r)

/-- Schedule the next probe of a target. The answer is the fault that was met, if there was one. -/
def reschedule (r : Roster) (id : TargetId) (now : Instant) (multiplier : Nat) : Option Fault × Roster :=
  match r.scheduler.reschedule id now multiplier with
  | .ok (_, scheduler) => (none, { r with scheduler := scheduler })
  | .error fault => (some fault, { r with scheduler := r.scheduler.interrupt id multiplier })

/-- Process a completion. The result of a probe that was dispatched under an older epoch is dropped. A fault ends the
processing at its last step. -/
def complete (r : Roster) (c : Completion) (now : Instant) : Option Fault × Roster :=
  match r.finish c with
  | (false, r) => (none, r)
  | (true, r) =>
    let (applied, r) := r.apply c
    let (multiplier, r) := r.display c.result.targetId applied
    r.reschedule c.result.targetId now multiplier

def install (r : Roster) (snapshot : RegistrySnapshot) : Roster := { r with registry := ⟨snapshot⟩ }

/-- Take out a target that is monitored no longer. Its in-flight mark stays until its probe reports. -/
def discard (r : Roster) (id : TargetId) : Roster :=
  { r with scheduler := r.scheduler.remove id, store := r.store.remove id, gauges := r.gauges.remove id }

/-- Start the schedule of a target anew. Health that is known is kept. -/
def enroll (r : Roster) (snapshot : RegistrySnapshot) (firstDue : Instant) (id : TargetId) : Except Fault Roster :=
  match snapshot.get? id with
  | none => .ok r
  | some target => do
    let store ← r.store.register id
    .ok { r with scheduler := r.scheduler.insert id target.interval firstDue, store := store }

def follow (r : Roster) (diff : RegistryDiff) (snapshot : RegistrySnapshot) (firstDue : TargetId → Instant) :
    Except Fault Roster :=
  (diff.added ++ diff.changed).foldlM (fun r id => r.enroll snapshot (firstDue id) id) (diff.removed.foldl discard r)

def announce (r : Roster) (diff : RegistryDiff) (snapshot : RegistrySnapshot) : Roster :=
  { r with gauges := diff.added.foldl (fun g id => g.update id .unknown 1) (r.gauges.setTotal snapshot.size) }

/-- Put a new set of targets in the place of the old one. Added targets start unknown, and so does their schedule; removed
targets lose their state; changed targets keep their health and start their schedule anew. -/
def reload (r : Roster) (targets : List Target) (firstDue : TargetId → Instant) :
    Except Fault (Except TargetId (RegistryDiff × Roster)) :=
  match r.registry.next targets with
  | .error id => .ok (.error id)
  | .ok (diff, snapshot) =>
    let r := r.install snapshot
    if diff.isEmpty then .ok (.ok (diff, r))
    else do
      let r ← r.follow diff snapshot firstDue
      .ok (.ok (diff, r.announce diff snapshot))

def restart (r : Roster) (snapshot : RegistrySnapshot) (firstDue : Instant) (id : TargetId) : Roster :=
  match snapshot.get? id with
  | none => r
  | some target => { r with scheduler := r.scheduler.insert id target.interval firstDue }

/-- Enroll targets up to the first that meets a fault. That one has its place in the schedule, and no health. -/
def enrollSome (snapshot : RegistrySnapshot) (firstDue : TargetId → Instant) : List TargetId → Roster → Roster
  | [], r => r
  | id :: ids, r =>
    match r.enroll snapshot (firstDue id) id with
    | .ok r => enrollSome snapshot firstDue ids r
    | .error _ => r.restart snapshot (firstDue id) id

/-- A roster as a reload leaves it that meets a fault: the registry has the new targets, and the rest follows in part. -/
def interruptReload (r : Roster) (targets : List Target) (firstDue : TargetId → Instant) : Roster :=
  match r.registry.next targets with
  | .error _ => r
  | .ok (diff, snapshot) =>
    enrollSome snapshot firstDue (diff.added ++ diff.changed) (diff.removed.foldl discard (r.install snapshot))

/-- Mark a target that is due as in flight, and take it out of the schedule if it is monitored no longer. -/
def dispatchOne (r : Roster) (id : TargetId) : Option (Target × Nat) × Roster :=
  match r.registry.get? id with
  | none => (none, { r with scheduler := r.scheduler.remove id })
  | some target =>
    match r.scheduler.markInFlight id with
    | some (epoch, scheduler) => (some (target, epoch), { r with scheduler := scheduler })
    | none => (none, r)

def dispatchAll (r : Roster) : List TargetId → List (Target × Nat) × Roster
  | [] => ([], r)
  | id :: rest =>
    let (one, r) := r.dispatchOne id
    let (batch, r) := r.dispatchAll rest
    (one.toList ++ batch, r)

/-- Mark all targets that are due, and list them with their epochs in the order in which they came up. -/
def dispatchDue (r : Roster) (now : Instant) : List (Target × Nat) × Roster := r.dispatchAll (r.scheduler.due now)

end Roster

end TargetHealth
