import TargetHealth.Health.State
import TargetHealth.Table

namespace TargetHealth

inductive Applied where
  | updated (previous current : Status) (backoffMultiplier : Nat)
  /-- Cancelled probes carry no health signal. -/
  | droppedCancelled
  /-- The target was removed while its probe was in flight. -/
  | droppedUnknownTarget
deriving DecidableEq, Repr, Inhabited

def Applied.transitioned : Applied → Bool
  | .updated previous current _ => previous != current
  | _ => false

/-- The health of every registered target. The only way to change a target's health is to apply a result. -/
structure StateStore where
  policy : HealthPolicy
  states : Table TargetId TargetState
deriving DecidableEq, Inhabited

namespace StateStore

def new (policy : HealthPolicy) : StateStore := ⟨policy, .empty⟩

/-- Track a target, unknown at first. The state of a target that is tracked already is kept. -/
def register (s : StateStore) (id : TargetId) : Except Fault StateStore :=
  if s.states.contains id then .ok s
  else do
    let window ← LatencyWindow.new? s.policy.latencyWindow
    .ok { s with states := s.states.insert id (.new id window) }

def withTargets (policy : HealthPolicy) (ids : List TargetId) : Except Fault StateStore :=
  ids.foldlM register (new policy)

def remove (s : StateStore) (id : TargetId) : StateStore := { s with states := s.states.erase id }

def contains (s : StateStore) (id : TargetId) : Bool := s.states.contains id

def snapshot? (s : StateStore) (id : TargetId) : Option TargetState := s.states.get? id

def snapshotAll (s : StateStore) : List TargetState := s.states.values

def backoffMultiplier? (s : StateStore) (id : TargetId) : Option Nat :=
  (s.snapshot? id).map (·.backoffMultiplier)

def apply (s : StateStore) (r : ProbeResult) : Applied × StateStore :=
  if r.outcome = .cancelled then (.droppedCancelled, s)
  else match s.snapshot? r.targetId with
    | none => (.droppedUnknownTarget, s)
    | some state =>
      let state' := state.record r s.policy
      (.updated state.status state'.status state'.backoffMultiplier,
        { s with states := s.states.insert r.targetId state' })

def size (s : StateStore) : Nat := s.states.size

def statusCounts (s : StateStore) : List (Status × Nat) :=
  (Status.all.map (fun status => (status, s.snapshotAll.countP (·.status == status)))).filter (·.2 != 0)

end StateStore

end TargetHealth
