import TargetHealth.Executor.Executor

namespace TargetHealth.Executor

def act (now : Instant) (x : Executor) : Party → Executor
  | .reader => x
  | .task number => x.stepNumber number now

/-- More turns than the tasks can take at one instant: a task begins, is handed a permit and is cancelled at most once
each. -/
def turns (x : Executor) : Nat := 4 * x.tasks.length + x.agenda.ready.length + 1

def actors : Actors Executor Party where
  agenda := agenda
  withAgenda x g := { x with agenda := g }
  act now party x := x.act now party
  turns := turns

def settle (x : Executor) (now : Instant) : Executor := actors.settle now x

def runUntil (x : Executor) (now limit : Instant) : Executor := (actors.runUntil (fun _ => false) limit now x).1

end TargetHealth.Executor
