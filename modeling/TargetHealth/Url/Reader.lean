import TargetHealth.Url.Url

namespace TargetHealth.Url

/-- Controls and blanks around a URL, and tabs and line ends inside it, are not part of it. -/
def strip (cs : List Char) : List Char :=
  let trimmed := (((cs.dropWhile (·.toNat ≤ 0x20)).reverse).dropWhile (·.toNat ≤ 0x20)).reverse
  trimmed.filter (fun c => c != '\t' && c != '\n' && c != '\r')

def isSchemeChar (c : Char) : Bool := c.isAlphanum || c == '+' || c == '-' || c == '.'

def scheme? (cs : List Char) : Option (String × List Char) :=
  match cs.head?, (cs.dropWhile isSchemeChar) with
  | some c, ':' :: rest =>
    if c.isAlpha then some (String.ofList ((cs.takeWhile isSchemeChar).map Char.toLower), rest) else none
  | _, _ => none

def isSlash (special : Bool) (c : Char) : Bool := c == '/' || (special && c == '\\')

def endsAuthority (special : Bool) (c : Char) : Bool := isSlash special c || c == '?' || c == '#'

def cutLastAt (cs : List Char) : Option (List Char) × List Char :=
  if cs.contains '@' then
    let behind := (cs.reverse.takeWhile (· != '@')).reverse
    (some (cs.take (cs.length - behind.length - 1)), behind)
  else (none, cs)

def userinfoText (cs : List Char) : String :=
  let (name, password) := Text.cut ':' cs
  let password := password.getD []
  String.ofList (Percent.encode .userinfo name ++
    (if password.isEmpty then [] else ':' :: Percent.encode .userinfo password))

def cutHost (inside : Bool) : List Char → List Char × List Char
  | [] => ([], [])
  | c :: rest =>
    if c == ':' && !inside then ([], c :: rest)
    else
      let (host, rest) := cutHost (if c == '[' then true else if c == ']' then false else inside) rest
      (c :: host, rest)

def readPort? (scheme : String) (digits : List Char) : Option (Option Nat) :=
  if !digits.all (·.isDigit) || 65535 < Decimal.ofDigits digits then none
  else if digits.isEmpty || defaultPort? scheme = some (Decimal.ofDigits digits) then some none
  else some (some (Decimal.ofDigits digits))

def readAuthority? (scheme : String) (cs : List Char) : Option Authority := do
  let special := isSpecial scheme
  let (userinfo, behind) := cutLastAt cs
  let userinfo := userinfoText (userinfo.getD [])
  let (hostText, rest) := cutHost false behind
  let port ← match rest with
    | ':' :: digits => if hostText.isEmpty then none else readPort? scheme digits
    | _ => some none
  if hostText.isEmpty then
    if special || !userinfo.isEmpty then none else some ⟨userinfo, none, port⟩
  else
    let host ← if special then Host.read? hostText else Host.readOpaque? hostText
    some ⟨userinfo, some host, port⟩

def isDriveLetter : List Char → Bool
  | [a, b] => a.isAlpha && (b == ':' || b == '|')
  | _ => false

/-- The host of a `file` URL: none if it is empty, `localhost` or in truth the letter of a drive. -/
def readFileHost? (cs : List Char) : Option (Option Host) :=
  if cs.isEmpty then some none
  else (Host.read? cs).map (fun h => if h = .domain "localhost" then none else some h)

def isSingleDot (segment : List Char) : Bool :=
  segment = ".".toList || segment.map Char.toLower = "%2e".toList

def isDoubleDot (segment : List Char) : Bool :=
  let s := segment.map Char.toLower
  s = "..".toList || s = ".%2e".toList || s = "%2e.".toList || s = "%2e%2e".toList

/-- Leave the last segment, but never the letter of a drive. -/
def shorten (file : Bool) (done : List (List Char)) : List (List Char) :=
  match done with
  | [s] => if file && isDriveLetter s then done else []
  | _ => done.dropLast

def pushSegment (file : Bool) (done : List (List Char)) (s : List Char) : List (List Char) :=
  match s with
  | [a, _] => if file && done.isEmpty && isDriveLetter s then [[a, ':']] else done ++ [s]
  | _ => done ++ [s]

def resolve (file : Bool) (done : List (List Char)) : List (List Char) → List (List Char)
  | [] => done
  | s :: rest =>
    let ended := fun (d : List (List Char)) => if rest.isEmpty then d ++ [[]] else d
    if isDoubleDot s then resolve file (ended (shorten file done)) rest
    else if isSingleDot s then resolve file (ended done) rest
    else resolve file (pushSegment file done s) rest

def normalPath (special file : Bool) (cs : List Char) : String :=
  let segments := Text.pieces '/' ((cs.map (fun c => if isSlash special c then '/' else c)))
  let segments := resolve file [] (segments.map (Percent.encode .path))
  let segments := if file then
      let kept := segments.dropWhile (·.isEmpty)
      if kept.isEmpty then [[]] else kept
    else segments
  String.ofList ('/' :: ['/'].intercalate segments)

def isPathEnd (c : Char) : Bool := c == '?' || c == '#'

def tail (special : Bool) (cs : List Char) : Option String × Option String :=
  let fragment (f : List Char) := String.ofList (Percent.encode .fragment f)
  match cs with
  | '?' :: rest =>
    let (query, rest) := Text.cut '#' rest
    (some (String.ofList (Percent.encode (if special then .specialQuery else .query) query)),
      rest.map fragment)
  | '#' :: rest => (none, some (fragment rest))
  | _ => (none, none)

def assemble (scheme : String) (authority : Option Authority) (path : String) (behind : List Char) : Url :=
  let (query, fragment) := tail (isSpecial scheme) behind
  ⟨scheme, authority, path, query, fragment⟩

/-- A URL of a well-known scheme other than `file`: any number of slashes, the authority, the path. -/
def readSpecial? (scheme : String) (cs : List Char) : Option Url := do
  let cs := cs.dropWhile (isSlash true)
  let authority ← readAuthority? scheme (cs.takeWhile (fun c => !endsAuthority true c))
  let rest := cs.dropWhile (fun c => !endsAuthority true c)
  let path := rest.takeWhile (fun c => !isPathEnd c)
  some (assemble scheme (some authority) (normalPath true false (path.drop 1))
    (rest.dropWhile (fun c => !isPathEnd c)))

def readFile? (cs : List Char) : Option Url := do
  let withHost := (cs.take 2).length == 2 && (cs.take 2).all (isSlash true)
  let hostText := if withHost then (cs.drop 2).takeWhile (fun c => !endsAuthority true c) else []
  let drive := isDriveLetter hostText
  let host ← if drive then some none else readFileHost? hostText
  let rest := if withHost then (cs.drop 2).drop (if drive then 0 else hostText.length) else cs
  let path := rest.takeWhile (fun c => !isPathEnd c)
  let path := normalPath true true (if path.head?.any (isSlash true) then path.drop 1 else path)
  let host := if isDriveLetter ((path.toList.drop 1).takeWhile (· != '/')) then none else host
  some (assemble "file" (some ⟨"", host, none⟩) path (rest.dropWhile (fun c => !isPathEnd c)))

def readOther? (scheme : String) (cs : List Char) : Option Url :=
  match cs with
  | '/' :: '/' :: cs => do
    let authority ← readAuthority? scheme (cs.takeWhile (fun c => !endsAuthority false c))
    let rest := cs.dropWhile (fun c => !endsAuthority false c)
    let path := rest.takeWhile (fun c => !isPathEnd c)
    some (assemble scheme (some authority) (if path.isEmpty then "" else normalPath false false (path.drop 1))
      (rest.dropWhile (fun c => !isPathEnd c)))
  | '/' :: cs =>
    some (assemble scheme none (normalPath false false (cs.takeWhile (fun c => !isPathEnd c)))
      (cs.dropWhile (fun c => !isPathEnd c)))
  | cs =>
    let path := cs.takeWhile (fun c => !isPathEnd c)
    some (assemble scheme none (String.ofList (Percent.encode .opaquePath path))
      (cs.dropWhile (fun c => !isPathEnd c)))

def read? (s : String) : Option Url := do
  let (scheme, rest) ← scheme? (strip s.toList)
  if scheme == "file" then readFile? rest
  else if isSpecial scheme then readSpecial? scheme rest
  else readOther? scheme rest

end TargetHealth.Url
