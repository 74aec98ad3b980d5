import TargetHealth.Http.Head
import TargetHealth.Text.Pieces

namespace TargetHealth.Http

def maxLength : Nat := Nat.pow 2 64 - 3
def maxChunkSize : Nat := Nat.pow 2 64 - 1
def maxExtension : Nat := 16384

inductive ChunkState where
  | start
  | size (value : Nat)
  /-- Blanks behind a size. -/
  | afterSize (value : Nat)
  | extension (value : Nat)
  | sizeLineFeed (value : Nat)
  | data (left : Nat)
  | dataReturn
  | dataLineFeed
  | trailer
  | trailerLineFeed
  | endReturn
  | endLineFeed
  | finished
deriving DecidableEq, Repr

inductive BodyState where
  | sized (left : Nat)
  | chunked (state : ChunkState) (extensionBytes : Nat)
  | untilClose
deriving DecidableEq, Repr

inductive BodyProgress where
  | more (state : BodyState)
  | finished
  | broken
deriving DecidableEq, Repr

namespace ChunkState

def hexValue? (b : UInt8) : Option Nat :=
  if 48 ≤ b && b ≤ 57 then some (b.toNat - 48)
  else if 97 ≤ b && b ≤ 102 then some (b.toNat - 87)
  else if 65 ≤ b && b ≤ 70 then some (b.toNat - 55)
  else none

def addDigit? (value digit : Nat) : Option ChunkState :=
  if value * 16 + digit ≤ maxChunkSize then some (size (value * 16 + digit)) else none

def behindSize? (value : Nat) (b : UInt8) : Option ChunkState :=
  if Wire.isBlank b then some (afterSize value)
  else if b = Wire.semicolon then some (extension value)
  else if b = Wire.carriageReturn then some (sizeLineFeed value)
  else none

def expect (expected : UInt8) (b : UInt8) (next : ChunkState) : Option ChunkState :=
  if b = expected then some next else none

def step? (s : ChunkState) (b : UInt8) : Option ChunkState :=
  match s with
  | start => (hexValue? b).map size
  | size value =>
    match hexValue? b with
    | some digit => addDigit? value digit
    | none => behindSize? value b
  | afterSize value => behindSize? value b
  | extension value =>
    if b = Wire.carriageReturn then some (sizeLineFeed value)
    else if b = Wire.lineFeed then none
    else some (extension value)
  | sizeLineFeed value => expect Wire.lineFeed b (if value = 0 then endReturn else data value)
  | data left => some (if left ≤ 1 then dataReturn else data (left - 1))
  | dataReturn => expect Wire.carriageReturn b dataLineFeed
  | dataLineFeed => expect Wire.lineFeed b start
  | trailer => some (if b = Wire.carriageReturn then trailerLineFeed else trailer)
  | trailerLineFeed => expect Wire.lineFeed b endReturn
  | endReturn => some (if b = Wire.carriageReturn then endLineFeed else trailer)
  | endLineFeed => expect Wire.lineFeed b finished
  | finished => some finished

def isData : ChunkState → Bool
  | data _ => true
  | _ => false

def isExtension : ChunkState → Bool
  | extension _ => true
  | _ => false

/-- Read what has arrived. The data found so far is held in reverse. -/
def readAll : ChunkState → Nat → Bytes → Bytes → Bytes × BodyProgress
  | s, extensionBytes, found, [] =>
    (found.reverse, if s = finished then .finished else .more (.chunked s extensionBytes))
  | s, extensionBytes, found, b :: rest =>
    if s = finished then (found.reverse, .finished)
    else
      match step? s b with
      | none => (found.reverse, .broken)
      | some next =>
        let extensionBytes := if next.isExtension && s.isExtension then extensionBytes + 1 else extensionBytes
        if maxExtension ≤ extensionBytes then (found.reverse, .broken)
        else readAll next extensionBytes (if s.isData then b :: found else found) rest

end ChunkState

namespace BodyState

def read (s : BodyState) (bs : Bytes) : Bytes × BodyProgress :=
  match s with
  | sized left =>
    let data := bs.take left
    (data, if data.length < left then .more (sized (left - data.length)) else .finished)
  | chunked state extensionBytes => state.readAll extensionBytes [] bs
  | untilClose => (bs, .more untilClose)

def mayEnd : BodyState → Bool
  | sized left => left = 0
  | chunked state _ => state = .finished
  | untilClose => true

end BodyState

def length? (digits : Bytes) : Option Nat :=
  if digits.isEmpty || !digits.all Wire.isDigit then none
  else
    let n := digits.foldl (fun n b => 10 * n + Head.digitValue b) 0
    if n ≤ maxLength then some n else none

def comma : UInt8 := 44

def Head.items? (h : Head) (name : String) : Option (List Bytes) :=
  ((h.all name).mapM Header.text?).map (fun values => (values.flatMap (Text.pieces comma)).map Wire.trim)

def Head.contentLength? (h : Head) : Option Nat :=
  ((h.items? "content-length").bind (List.mapM length?)).bind fun lengths =>
    match lengths with
    | [] => none
    | n :: rest => if rest.all (· == n) then some n else none

def Head.isChunked (h : Head) : Bool :=
  match (h.all "transfer-encoding").getLast? with
  | none => false
  | some header =>
    match header.text? with
    | none => false
    | some value =>
      Wire.equalIgnoringCase (Wire.trim ((Text.pieces comma value).getLastD [])) (Utf8.ofString "chunked")

def Head.isBodiless (h : Head) (method : String) : Bool :=
  h.status = 101 || h.status = 204 || h.status = 304 || method == "HEAD" ||
    (method == "CONNECT" && 200 ≤ h.status && h.status < 300)

/-- How the body of a response is delimited; none if the head contradicts itself. -/
def Head.body? (h : Head) (method : String) : Option BodyState :=
  if h.isBodiless method then some (.sized 0)
  else if !(h.all "transfer-encoding").isEmpty then
    if h.minorVersion = 0 then none
    else some (if h.isChunked then .chunked .start 0 else .untilClose)
  else if !(h.all "content-length").isEmpty then h.contentLength?.map .sized
  else some .untilClose

end TargetHealth.Http
