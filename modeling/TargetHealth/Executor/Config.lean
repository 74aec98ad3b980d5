import TargetHealth.Config.Settings

namespace TargetHealth

structure ExecutorConfig where
  maxConcurrency : Nat
  /-- Probes that may wait for a permit before further dispatches are skipped. -/
  maxPending : Nat
  /-- How long a probe may run past its deadline, or past its cancellation. -/
  grace : Duration
deriving DecidableEq, Repr

def Settings.executorConfig (s : Settings) : ExecutorConfig := ⟨s.maxConcurrency, s.maxPending, s.grace⟩

inductive ExecutorError where
  | zeroConcurrency
  | tooManyPermits (requested : Nat)
deriving DecidableEq, Repr

namespace ExecutorConfig

def permitLimit : Nat := Nat.pow 2 61 - 1

def check (c : ExecutorConfig) : Except ExecutorError Unit :=
  if c.maxConcurrency = 0 then .error .zeroConcurrency
  else if permitLimit < c.maxConcurrency then .error (.tooManyPermits c.maxConcurrency)
  else .ok ()

end ExecutorConfig

def ExecutorError.message : ExecutorError → String
  | .zeroConcurrency => "max_concurrency must be at least 1"
  | .tooManyPermits requested =>
    "max_concurrency " ++ toString requested ++ " exceeds the supported maximum of " ++
      toString ExecutorConfig.permitLimit

end TargetHealth
