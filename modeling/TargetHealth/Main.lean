import TargetHealth.CommandLine.Program
import TargetHealth.Probe.Transport

namespace TargetHealth.CommandLine

def faultOf : IO.Error → FileError
  | .noFileOrDirectory .. => .notFound
  | .inappropriateType _ code details =>
    if code = 21 then .isDirectory else if code = 20 then .notDirectory else .other details
  | e => .other (toString e)

def readFile (path : String) : IO (Except FileError Bytes) := do
  match ← (IO.FS.readBinFile path).toBaseIO with
  | .ok bytes => return .ok bytes.toList
  | .error e => return .error (faultOf e)

def readFiles (paths : List String) : IO FileReader := do
  let found ← paths.mapM (fun path => return (path, ← readFile path))
  return fun path => (found.lookup path).getD (.error .notFound)

def assignment? (entry : List Char) : Option (String × String) :=
  match Text.cut '=' entry with
  | (name, some value) => some (String.ofList name, String.ofList value)
  | (_, none) => none

def environmentOf (listing : Bytes) : List (String × String) :=
  (Text.pieces '\x00' (Utf8.decodeLossy listing)).filterMap assignment?

def readEnvironment : IO (List (String × String)) := do
  match ← readFile "/proc/self/environ" with
  | .ok listing => return environmentOf listing
  | .error _ => return []

def finish (exit : Exit) : IO UInt32 := do
  (← IO.getStdout).putStr exit.output
  (← IO.getStderr).putStr exit.errors
  return UInt32.ofNat exit.status

def waitSeconds (seconds : Nat) : IO Unit := do
  for _ in [0:seconds] do IO.sleep 1000

partial def waitForever : IO Unit := do
  IO.sleep 1000
  waitForever

def wait : Option Nat → IO Nat
  | some seconds => do
    waitSeconds seconds
    return seconds
  | none => do
    waitForever
    return 0

def run (arguments : List String) : IO UInt32 := do
  let environment ← readEnvironment
  let first ← readFiles (pathsOf (fun _ => .error .notFound) environment arguments)
  let files ← readFiles (pathsOf first environment arguments)
  let nonce ← IO.getRandomBytes 16
  let now := Instant.origin
  match start files environment arguments (.overNetwork .unreachable ⟨nonce.toList, 0⟩) now (fun _ => 0) with
  | .error exit => finish exit
  | .ok r => finish (r.finish now (← wait r.runtime))

end TargetHealth.CommandLine

def main (arguments : List String) : IO UInt32 := TargetHealth.CommandLine.run arguments
