import TargetHealth.Config.Decode
import TargetHealth.Config.Environment
import TargetHealth.Config.Format.Json
import TargetHealth.Config.Format.Yaml
import TargetHealth.Files
import TargetHealth.Json.Reader
import TargetHealth.Yaml.Document

namespace TargetHealth

inductive ConfigFormat where
  | yaml
  | json
deriving DecidableEq, Repr, Inhabited

namespace ConfigFormat

def fileName? (path : List Char) : Option (List Char) :=
  match (FileTree.names path).getLast? with
  | some name => if name = ['.', '.'] then none else some name
  | none => none

/-- What stands behind the last dot of a file name that has something in front of it. -/
def extension? (name : List Char) : Option (List Char) :=
  let behind := (name.reverse.takeWhile (· != '.')).reverse
  if behind.length + 1 < name.length then some behind else none

/-- Files named `.yaml` or `.yml` hold YAML, all others JSON. -/
def ofPath (path : String) : ConfigFormat :=
  match (fileName? path.toList).bind extension? with
  | some e => if e = "yaml".toList ∨ e = "yml".toList then yaml else json
  | none => json

def name : ConfigFormat → String
  | yaml => "YAML"
  | json => "JSON"

end ConfigFormat

inductive LoadError where
  | unreadable (path : String)
  | unparsable (format : ConfigFormat)
  | badEnvironment
  | invalid (error : ConfigError)
deriving DecidableEq, Repr, Inhabited

def LoadError.message : LoadError → String
  | .unreadable path => "Failed to read config file " ++ path
  | .unparsable format => "Failed to parse " ++ format.name ++ " config"
  | .badEnvironment => "Failed to read environment overrides"
  | .invalid error => error.message

namespace Config

def ofText? (format : ConfigFormat) (text : String) : Option Config :=
  match format with
  | .yaml => (Yaml.read? text).bind (Config.decode? Yaml.format)
  | .json => (Json.read? text).bind (Config.decode? Json.format)

def check (c : Config) : Except LoadError Config :=
  match c.validate with
  | .ok () => .ok c
  | .error e => .error (.invalid e)

def parse (format : ConfigFormat) (text : String) : Except LoadError Config :=
  match ofText? format text with
  | some c => c.check
  | none => .error (.unparsable format)

def override (c : Config) (o : SettingsOverrides) : Config := { c with settings := c.settings.override o }

def load (files : FileReader) (environment : List (String × String)) (path : String) :
    Except LoadError Config := do
  let text ← match files path with
    | .ok bytes =>
      match Utf8.toString? bytes with
      | some text => .ok text
      | none => .error (.unreadable path)
    | .error _ => .error (LoadError.unreadable path)
  let c ← parse (.ofPath path) text
  match Environment.overrides? environment with
  | none => .error .badEnvironment
  | some o => (c.override o).check

end Config

end TargetHealth
