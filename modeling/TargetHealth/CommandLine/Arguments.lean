import TargetHealth.Decimal.Reading

namespace TargetHealth.CommandLine

structure Options where
  configPath : Option String := none
  /-- Seconds after which to stop. -/
  runtime : Option Nat := none
deriving DecidableEq, Repr

inductive ValueOption where
  | config
  | runtime
deriving DecidableEq, Repr

def ValueOption.text : ValueOption → String
  | config => "--config <CONFIG>"
  | runtime => "--runtime <SECONDS>"

inductive Flag where
  | help
  | version
deriving DecidableEq, Repr

def Flag.text : Flag → String
  | help => "--help"
  | version => "--version"

inductive ArgumentError where
  | unexpected (argument : String)
  | unexpectedValue (value : String) (flag : Flag)
  | missingValue (option : ValueOption)
  | repeated (option : ValueOption)
  | invalidValue (value : String) (option : ValueOption) (reason : String)
deriving DecidableEq, Repr

def ArgumentError.message : ArgumentError → String
  | unexpected argument => "unexpected argument '" ++ argument ++ "' found"
  | unexpectedValue value flag =>
    "unexpected value '" ++ value ++ "' for '" ++ flag.text ++ "' found; no more were expected"
  | missingValue option => "a value is required for '" ++ option.text ++ "' but none was supplied"
  | repeated option => "the argument '" ++ option.text ++ "' cannot be used multiple times"
  | invalidValue value option reason => "invalid value '" ++ value ++ "' for '" ++ option.text ++ "': " ++ reason

inductive Demand where
  | run (options : Options)
  | display (flag : Flag)
deriving DecidableEq, Repr

/-- Seconds are a number below 2^64, in front of which a plus sign may stand. -/
def maxSeconds : Nat := Nat.pow 2 64 - 1

def addDigit (n : Nat) (c : Char) : Except String Nat :=
  if !c.isDigit then .error "invalid digit found in string"
  else if maxSeconds < 10 * n + (c.toNat - 48) then .error "number too large to fit in target type"
  else .ok (10 * n + (c.toNat - 48))

def seconds (value : String) : Except String Nat :=
  let digits := match value.toList with
    | ['+'] => ['+']
    | '+' :: rest => rest
    | cs => cs
  if digits.isEmpty then .error "cannot parse integer from empty string" else digits.foldlM addDigit 0

namespace Options

def set (o : Options) (option : ValueOption) (value : String) : Except ArgumentError Options :=
  match option with
  | .config => if o.configPath.isSome then .error (.repeated option) else .ok { o with configPath := some value }
  | .runtime =>
    if o.runtime.isSome then .error (.repeated option)
    else
      match seconds value with
      | .ok n => .ok { o with runtime := some n }
      | .error reason => .error (.invalidValue value option reason)

end Options

structure Pending where
  option : ValueOption
  value : Option String
deriving DecidableEq, Repr

structure Progress where
  options : Options := {}
  pending : Option Pending := none
deriving DecidableEq, Repr

namespace Progress

def settle (p : Progress) : Except ArgumentError Options :=
  match p.pending with
  | none => .ok p.options
  | some ⟨option, none⟩ => .error (.missingValue option)
  | some ⟨option, some value⟩ => p.options.set option value

def begin (p : Progress) (option : ValueOption) (value : Option String) : Except ArgumentError Progress :=
  match p.settle with
  | .error e => .error e
  | .ok options =>
    match value with
    | none => .ok ⟨options, some ⟨option, none⟩⟩
    | some value => (options.set option value).map (fun options => ⟨options, none⟩)

end Progress

inductive Step where
  | next (p : Progress)
  | stop (flag : Flag)

def readFlag (p : Progress) (flag : Flag) : Except ArgumentError Step := p.settle.map (fun _ => .stop flag)

def readOption (p : Progress) (option : ValueOption) (value : Option String) : Except ArgumentError Step :=
  (p.begin option value).map .next

def readLong (p : Progress) (cs : List Char) : Except ArgumentError Step :=
  let name := String.ofList (cs.takeWhile (· != '='))
  let value := match cs.dropWhile (· != '=') with
    | [] => none
    | _ :: value => some (String.ofList value)
  let flag (f : Flag) : Except ArgumentError Step :=
    match value with
    | none => readFlag p f
    | some value => .error (.unexpectedValue value f)
  if name = "config" then readOption p .config value
  else if name = "runtime" then readOption p .runtime value
  else if name = "help" then flag .help
  else if name = "version" then flag .version
  else .error (.unexpected ("--" ++ name))

def attached : List Char → Option String
  | [] => none
  | '=' :: cs => some (String.ofList cs)
  | cs => some (String.ofList cs)

/-- An argument that begins with one dash. Only its first letter counts, as none can be followed by another one. -/
def readShort (p : Progress) (letter : Char) (rest : List Char) : Except ArgumentError Step :=
  if letter = 'c' then readOption p .config (attached rest)
  else if letter = 'r' then readOption p .runtime (attached rest)
  else if letter = 'h' then readFlag p .help
  else if letter = 'V' then readFlag p .version
  else .error (.unexpected (String.ofList ['-', letter]))

def readValue (p : Progress) (argument : String) : Except ArgumentError Step :=
  match p.pending with
  | some ⟨option, none⟩ => .ok (.next { p with pending := some ⟨option, some argument⟩ })
  | _ => .error (.unexpected argument)

def readArgument (p : Progress) (argument : String) : Except ArgumentError Step :=
  match argument.toList with
  | '-' :: '-' :: cs => readLong p cs
  | '-' :: letter :: rest => readShort p letter rest
  | _ => readValue p argument

def readAll (p : Progress) : List String → Except ArgumentError Demand
  | [] => p.settle.map .run
  | "--" :: argument :: _ => .error (.unexpected argument)
  | "--" :: [] => p.settle.map .run
  | argument :: rest =>
    match readArgument p argument with
    | .error e => .error e
    | .ok (.stop flag) => .ok (.display flag)
    | .ok (.next p) => readAll p rest

def demand (arguments : List String) : Except ArgumentError Demand := readAll {} arguments

end TargetHealth.CommandLine
