import TargetHealth.Monitor.Monitor

namespace TargetHealth.Monitor

def act (now : Instant) (m : Monitor) : Party → Monitor
  | .reader => m.turn now
  | .task number => { m with executor := m.executor.stepNumber number now }

/-- More turns than can be taken at one instant: every target is dispatched at most twice, and a task has at most four
turns and wakes the loop at most twice. -/
def turns (m : Monitor) : Nat :=
  8 * (m.executor.tasks.length + 2 * m.roster.scheduler.entries.size + m.executor.completions.length) +
    m.executor.agenda.ready.length + 8

def actors : Actors Monitor Party where
  agenda m := m.executor.agenda
  withAgenda m g := { m with executor := { m.executor with agenda := g } }
  act now party m := m.act now party
  turns := turns

def runUntil (m : Monitor) (now limit : Instant) : Monitor := (actors.runUntil (fun _ => false) limit now m).1

/-- Ask the monitor to stop and let the clock run until it has. The answer holds the instant at which that was. `loop` is
the number of the task that the loop runs in, which tells its failure from others. -/
def stop (m : Monitor) (now : Instant) (loop : Nat := 1) : Except MonitorError DrainReport × Monitor × Instant :=
  let (m, now) := actors.runUntil (fun m => !m.isRunning) (now.after m.drainTimeout) now m.requestStop
  match m.phase with
  | .failed fault => (.error (.engineFailed ⟨loop, fault⟩), m, now)
  | .stopped report => (.ok report, m, now)
  | .draining _ report => (.ok report, m, now)
  | _ => (.ok ⟨m.roster.scheduler.inFlightCount, 0, 0, 0⟩, m, now)

end TargetHealth.Monitor
