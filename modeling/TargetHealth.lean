import TargetHealth.Executor.Run
import TargetHealth.Main
import TargetHealth.Metrics.Endpoint
import TargetHealth.Probe.Script
import TargetHealth.Proofs.Config.Acceptance
import TargetHealth.Proofs.Config.Overrides
import TargetHealth.Proofs.Config.Variables
import TargetHealth.Proofs.Config.Words
import TargetHealth.Proofs.Decimal.Reading
import TargetHealth.Proofs.Executor.Aborts
import TargetHealth.Proofs.Executor.Attendance
import TargetHealth.Proofs.Executor.Capacity
import TargetHealth.Proofs.Executor.Course
import TargetHealth.Proofs.Executor.Recording
import TargetHealth.Proofs.Executor.Rest
import TargetHealth.Proofs.Executor.Turns
import TargetHealth.Proofs.Executor.Verdict
import TargetHealth.Proofs.Executor.WindDown
import TargetHealth.Proofs.Health.Mean
import TargetHealth.Proofs.Health.Store
import TargetHealth.Proofs.Health.Stretching
import TargetHealth.Proofs.Http.Authority
import TargetHealth.Proofs.Http.Exchange
import TargetHealth.Proofs.Metrics.Probes
import TargetHealth.Proofs.Metrics.Targets
import TargetHealth.Proofs.Monitor.Abandonment
import TargetHealth.Proofs.Monitor.Agreement
import TargetHealth.Proofs.Monitor.Alignment
import TargetHealth.Proofs.Monitor.Batches
import TargetHealth.Proofs.Monitor.Cadence
import TargetHealth.Proofs.Monitor.Clockwork
import TargetHealth.Proofs.Monitor.Course
import TargetHealth.Proofs.Monitor.Drain
import TargetHealth.Proofs.Monitor.Entries
import TargetHealth.Proofs.Monitor.Holdings
import TargetHealth.Proofs.Monitor.Horizon
import TargetHealth.Proofs.Monitor.Interleaving
import TargetHealth.Proofs.Monitor.Interruption
import TargetHealth.Proofs.Monitor.Isolation
import TargetHealth.Proofs.Monitor.Places
import TargetHealth.Proofs.Monitor.Reloads
import TargetHealth.Proofs.Monitor.Replacement
import TargetHealth.Proofs.Monitor.Room
import TargetHealth.Proofs.Monitor.Roster
import TargetHealth.Proofs.Monitor.Shutdown
import TargetHealth.Proofs.Monitor.SingleFlight
import TargetHealth.Proofs.Monitor.Staleness
import TargetHealth.Proofs.Monitor.Startup
import TargetHealth.Proofs.Monitor.Steps
import TargetHealth.Proofs.Monitor.Unbroken
import TargetHealth.Proofs.Monitor.Views
import TargetHealth.Proofs.Net.Literals
import TargetHealth.Proofs.Probe.Phases
import TargetHealth.Proofs.Schedule.Epochs
import TargetHealth.Proofs.Schedule.Queue
import TargetHealth.Proofs.Schedule.Scheduler
import TargetHealth.Proofs.Schedule.Timetable
import TargetHealth.Proofs.Stomp.Body
import TargetHealth.Proofs.Stomp.Head
import TargetHealth.Proofs.Table
import TargetHealth.Proofs.Target.Digest
import TargetHealth.Proofs.Target.Registry
import TargetHealth.Proofs.Target.Requests
import TargetHealth.Proofs.Target.Succession
import TargetHealth.Proofs.Target.Trust
import TargetHealth.Proofs.Text.Utf8
import TargetHealth.Proofs.Time.Instant
import TargetHealth.Proofs.Tls.Connectors
