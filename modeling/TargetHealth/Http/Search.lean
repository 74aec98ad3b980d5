import TargetHealth.Net.Wire

namespace TargetHealth.Http

def maxSearch : Nat := 65536

inductive SearchProgress where
  | found
  /-- The part that is searched does not hold the text. -/
  | exhausted
  | more (seen : Bytes)
deriving DecidableEq, Repr

def searchChunk (needle seen chunk : Bytes) : SearchProgress :=
  let seen := seen ++ chunk.take (maxSearch - seen.length)
  if Wire.occursIn needle seen then .found
  else if maxSearch ≤ seen.length then .exhausted
  else .more seen

def searchChunks (needle : Bytes) : Bytes → List Bytes → Bool
  | _, [] => false
  | seen, chunk :: rest =>
    match searchChunk needle seen chunk with
    | .found => true
    | .exhausted => false
    | .more seen => searchChunks needle seen rest

def bodyContains (needle : Bytes) (chunks : List Bytes) : Bool := searchChunks needle [] chunks

end TargetHealth.Http
