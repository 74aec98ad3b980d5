import TargetHealth.CommandLine.Arguments
import TargetHealth.Config.Load
import TargetHealth.Monitor.Run
import TargetHealth.Target.Target

namespace TargetHealth.CommandLine

def programName : String := "network-monitor"
def programVersion : String := "0.1.0"
def defaultConfigPath : String := "config.yaml"

def versionText : String := programName ++ " " ++ programVersion ++ "\n"

def helpText : String :=
  "Probe network targets and track their health\n\nUsage: " ++ programName ++ " [OPTIONS]\n\nOptions:\n" ++
  "  -c, --config <CONFIG>    Configuration file (YAML or JSON) [default: " ++ defaultConfigPath ++ "]\n" ++
  "  -r, --runtime <SECONDS>  Stop after this many seconds instead of waiting for a signal\n" ++
  "  -h, --help               Print help\n" ++
  "  -V, --version            Print version\n"

structure Exit where
  status : Nat
  output : String := ""
  errors : String := ""
deriving DecidableEq, Repr

namespace Exit

def success : Exit := ⟨0, "", ""⟩

def badArguments (e : ArgumentError) : Exit := ⟨2, "", "error: " ++ e.message ++ "\n"⟩

def failure (message : String) : Exit := ⟨1, "", "Error: " ++ message ++ "\n"⟩

def fault (f : Fault) : Exit := ⟨101, "", "thread 'main' panicked: " ++ f.message ++ "\n"⟩

def firstError? (e : Exit) : Option String :=
  if e.errors.isEmpty then none else (e.errors.splitOn "\n").head?

end Exit

def flagText : Flag → String
  | .help => helpText
  | .version => versionText

structure Run where
  monitor : Monitor
  runtime : Option Nat

def configPath (options : Options) : String := options.configPath.getD defaultConfigPath

def targetsOf (files : FileReader) (config : Config) : Except ConfigError (List Target) :=
  config.targets.mapM (Target.ofConfig files)

def startMonitor (config : Config) (targets : List Target) (prober : Prober) (now : Instant) (pick : TargetId → Nat) :
    Except Exit Monitor :=
  match Monitor.start (some now) prober config.settings targets pick with
  | .error f => .error (.fault f)
  | .ok (.error e) => .error (.failure e.message)
  | .ok (.ok monitor) => .ok monitor

def startWith (files : FileReader) (environment : List (String × String)) (options : Options) (prober : Prober)
    (now : Instant) (pick : TargetId → Nat) : Except Exit Run :=
  match Config.load files environment (configPath options) with
  | .error e => .error (.failure e.message)
  | .ok config =>
    match targetsOf files config with
    | .error e => .error (.failure e.message)
    | .ok targets => (startMonitor config targets prober now pick).map (fun monitor => ⟨monitor, options.runtime⟩)

def start (files : FileReader) (environment : List (String × String)) (arguments : List String) (prober : Prober)
    (now : Instant) (pick : TargetId → Nat) : Except Exit Run :=
  match demand arguments with
  | .error e => .error (.badArguments e)
  | .ok (.display flag) => .error ⟨0, flagText flag, ""⟩
  | .ok (.run options) => startWith files environment options prober now pick

def Run.finish (r : Run) (now : Instant) (seconds : Nat) : Exit :=
  let later := now.after (.ofSeconds seconds)
  match ((r.monitor.runUntil now later).stop later).1 with
  | .error e => .failure e.message
  | .ok _ => .success

/-- The files that the arguments and a configuration name: the configuration, and the certificates in it. -/
def pathsOf (files : FileReader) (environment : List (String × String)) (arguments : List String) : List String :=
  match demand arguments with
  | .ok (.run options) =>
    let path := configPath options
    match Config.load files environment path with
    | .ok config => path :: config.targets.filterMap (fun t => t.tls.bind (·.caCertPath))
    | .error _ => [path]
  | _ => []

end TargetHealth.CommandLine
