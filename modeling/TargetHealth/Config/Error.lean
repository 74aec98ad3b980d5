namespace TargetHealth

inductive ConfigError where
  | noTargets
  | duplicateTarget (id : String)
  | invalidTarget (id reason : String)
  | invalidSettings (reason : String)
deriving DecidableEq, Repr, Inhabited

def ConfigError.message : ConfigError → String
  | .noTargets => "no targets configured"
  | .duplicateTarget id => "duplicate target id: " ++ id
  | .invalidTarget id reason => "target " ++ id ++ ": " ++ reason
  | .invalidSettings reason => "invalid settings: " ++ reason

end TargetHealth
