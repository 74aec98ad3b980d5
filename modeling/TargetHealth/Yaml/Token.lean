namespace TargetHealth.Yaml

/-- How a scalar is written. Only plain scalars can be anything but text. -/
inductive ScalarStyle where
  | plain
  | quoted
deriving DecidableEq, Repr, Inhabited

inductive Token where
  | versionDirective (major minor : Nat)
  | tagDirective (handle tagStart : String)
  | documentStart
  | documentEnd
  | blockSequenceStart
  | blockMappingStart
  | blockEnd
  | flowSequenceStart
  | flowSequenceEnd
  | flowMappingStart
  | flowMappingEnd
  | flowEntry
  | blockEntry
  | key
  | value
  | alias (name : String)
  | anchor (name : String)
  | tag (handle suffix : String)
  | scalar (text : String) (style : ScalarStyle)
deriving DecidableEq, Repr, Inhabited

end TargetHealth.Yaml
