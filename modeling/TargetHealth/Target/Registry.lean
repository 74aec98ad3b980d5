import TargetHealth.Table
import TargetHealth.Target.Target

namespace TargetHealth

structure RegistrySnapshot where
  generation : Nat
  targets : Table TargetId Target
deriving DecidableEq, Repr

namespace RegistrySnapshot

def get? (s : RegistrySnapshot) (id : TargetId) : Option Target := s.targets.get? id

def contains (s : RegistrySnapshot) (id : TargetId) : Bool := s.targets.contains id

def ids (s : RegistrySnapshot) : List TargetId := s.targets.keys

def size (s : RegistrySnapshot) : Nat := s.targets.size

/-- Add targets to a table; the answer is the first id that comes twice, if there is one. -/
def addAll (table : Table TargetId Target) : List Target → Except TargetId (Table TargetId Target)
  | [] => .ok table
  | t :: rest => if table.contains t.id then .error t.id else addAll (table.insert t.id t) rest

def build (generation : Nat) (targets : List Target) : Except TargetId RegistrySnapshot :=
  (addAll .empty targets).map (fun table => ⟨generation, table⟩)

end RegistrySnapshot

structure RegistryDiff where
  added : List TargetId
  removed : List TargetId
  changed : List TargetId
deriving DecidableEq, Repr, Inhabited

namespace RegistryDiff

def isEmpty (d : RegistryDiff) : Bool := d.added.isEmpty && d.removed.isEmpty && d.changed.isEmpty

def between (old new : RegistrySnapshot) : RegistryDiff where
  added := new.ids.filter (fun id => !old.contains id)
  removed := old.ids.filter (fun id => !new.contains id)
  changed := new.ids.filter (fun id => old.contains id && decide (old.get? id ≠ new.get? id))

end RegistryDiff

def duplicateTargetMessage (id : TargetId) : String := "duplicate target id: " ++ id

/-- The set of monitored targets. A reload puts a new snapshot in the place of the old one and never changes a snapshot, so
whoever holds one keeps seeing the targets it started with. -/
structure Registry where
  current : RegistrySnapshot
deriving DecidableEq, Repr

namespace Registry

def new (targets : List Target) : Except TargetId Registry :=
  (RegistrySnapshot.build 0 targets).map Registry.mk

def get? (r : Registry) (id : TargetId) : Option Target := r.current.get? id

def next (r : Registry) (targets : List Target) : Except TargetId (RegistryDiff × RegistrySnapshot) := do
  let snapshot ← RegistrySnapshot.build (r.current.generation + 1) targets
  .ok (.between r.current snapshot, snapshot)

/-- Install a new set of targets. On an error the registry stays as it is. -/
def replace (r : Registry) (targets : List Target) : Except TargetId (RegistryDiff × Registry) :=
  (r.next targets).map (fun (diff, snapshot) => (diff, ⟨snapshot⟩))

end Registry

end TargetHealth
