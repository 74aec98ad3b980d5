import TargetHealth.Decimal.Shortest

namespace TargetHealth

inductive MetricKind where
  | counter
  | gauge
  | histogram
deriving DecidableEq, Repr

def MetricKind.name : MetricKind → String
  | .counter => "counter"
  | .gauge => "gauge"
  | .histogram => "histogram"

structure Sample where
  suffix : String := ""
  labels : List (String × String) := []
  value : Float
deriving Repr

structure MetricFamily where
  name : String
  help : String
  kind : MetricKind
  samples : List Sample
deriving Repr

namespace Exposition

def escapeLabel (s : String) : String :=
  String.ofList (s.toList.flatMap fun c =>
    if c = '\\' then ['\\', '\\'] else if c = '\n' then ['\\', 'n'] else if c = '"' then ['\\', '"'] else [c])

def labelText (label : String × String) : String := label.1 ++ "=\"" ++ escapeLabel label.2 ++ "\""

def labelsText : List (String × String) → String
  | [] => ""
  | labels => "\x7b" ++ ",".intercalate (labels.map labelText) ++ "\x7d"

def sampleLine (family : String) (s : Sample) : String :=
  family ++ s.suffix ++ labelsText s.labels ++ " " ++ Decimal.text s.value ++ "\n"

def familyText (f : MetricFamily) : String :=
  "# HELP " ++ f.name ++ " " ++ f.help ++ "\n# TYPE " ++ f.name ++ " " ++ f.kind.name ++ "\n" ++
    String.join (f.samples.map (sampleLine f.name))

/-- Families without samples are left out. -/
def text (families : List MetricFamily) : String :=
  String.join ((families.filter (fun f => !f.samples.isEmpty)).map familyText)

end Exposition

end TargetHealth
