import TargetHealth.Text.Utf8

namespace TargetHealth.Http

/-- Request targets: a path with a query, an authority, a whole address with a scheme, or `*`. A fragment is dropped, and
nothing is decoded or normalised but the case of the schemes `http` and `https`. Where the caller allows it, path and query
may hold characters beyond ASCII. -/
structure Uri where
  scheme : Option String
  authority : String
  path : String
  query : Option String
deriving DecidableEq, Repr

namespace Uri

def maxLength : Nat := 65534
def maxSchemeLength : Nat := 64

inductive Charset where
  | ascii
  | unicode
deriving DecidableEq, Repr

def Charset.allows (charset : Charset) (c : Char) : Bool := charset = .unicode && 0x7f ≤ c.toNat

def isPathChar (c : Char) : Bool :=
  let n := c.toNat
  n == 0x21 || n == 0x22 || (0x24 ≤ n && n ≤ 0x3b) || n == 0x3d || (0x40 ≤ n && n ≤ 0x5f) || (0x61 ≤ n && n ≤ 0x7e)

def isQueryChar (c : Char) : Bool :=
  let n := c.toNat
  n == 0x21 || (0x24 ≤ n && n ≤ 0x3b) || n == 0x3d || (0x3f ≤ n && n ≤ 0x7e)

def isSchemeChar (c : Char) : Bool := c.isAlphanum || c == '+' || c == '-' || c == '.' || c == '~'

def isHash (c : Char) : Bool := c == '#'

/-- A path with its query. What follows a `#` is a fragment, and may hold anything. -/
def pathAndQuery? (charset : Charset) (cs : List Char) : Option (String × Option String) :=
  let cs := cs.takeWhile (fun c => !isHash c)
  let path := cs.takeWhile (· != '?')
  let behind := cs.dropWhile (· != '?')
  if !path.all (fun c => isPathChar c || charset.allows c) then none
  else
    match behind with
    | [] => some (String.ofList path, none)
    | _ :: query =>
      if query.all (fun c => isQueryChar c || charset.allows c) then
        some (String.ofList path, some (String.ofList query))
      else none

def endsAuthority (c : Char) : Bool := c == '/' || c == '?' || c == '#'

def isAuthorityChar (c : Char) : Bool := c.isAlphanum || "!$&'()*+,-.:;=@[]_~%".toList.contains c

/-- What has been seen of an authority. Colons and percent signs before an `@` belong to the user and colons within
brackets to an address, and neither count any more. -/
structure AuthorityScan where
  colons : Nat := 0
  opened : Bool := false
  closed : Bool := false
  percent : Bool := false
  endsInAt : Bool := false

namespace AuthorityScan

def maxColons : Nat := 8

def step? (s : AuthorityScan) (c : Char) : Option AuthorityScan :=
  if !isAuthorityChar c then none
  else if c == '@' then some { s with colons := 0, percent := false, endsInAt := true }
  else
    let s := { s with endsInAt := false }
    if c == ':' then
      if s.colons < maxColons then some { s with colons := s.colons + 1 } else none
    else if c == '[' then
      if s.percent || s.opened then none else some { s with opened := true }
    else if c == ']' then
      if !s.opened || s.closed then none else some { s with closed := true, colons := 0, percent := false }
    else if c == '%' then some { s with percent := true }
    else some s

/-- Whether an authority may end here: with brackets in pairs, one colon at most, for the port, something behind the
user, and no percent sign in the host. -/
def isComplete (s : AuthorityScan) : Bool :=
  s.opened == s.closed && s.colons ≤ 1 && !s.endsInAt && !s.percent

end AuthorityScan

def isAuthority (cs : List Char) : Bool :=
  match cs.foldlM AuthorityScan.step? {} with
  | some s => s.isComplete
  | none => false

def scheme? (cs : List Char) : Option (List Char) :=
  let name := cs.takeWhile isSchemeChar
  if (cs.drop name.length).take 3 == [':', '/', '/'] then some name else none

def schemeText (name : List Char) : String :=
  let lower := String.ofList (name.map Char.toLower)
  if lower = "http" || lower = "https" then lower else String.ofList name

def ofAuthority? (cs : List Char) : Option Uri :=
  if isAuthority cs then some ⟨none, String.ofList cs, "", none⟩ else none

def ofRest? (charset : Charset) (scheme : String) (cs : List Char) : Option Uri :=
  let authority := cs.takeWhile (fun c => !endsAuthority c)
  if authority.isEmpty || !isAuthority authority then none
  else
    (pathAndQuery? charset (cs.drop authority.length)).map fun (path, query) =>
      ⟨some scheme, String.ofList authority, path, query⟩

def parse? (charset : Charset) (s : String) : Option Uri :=
  let cs := s.toList
  if cs.isEmpty || maxLength < s.utf8ByteSize then none
  else if cs == ['*'] then some ⟨none, "", "*", none⟩
  else if cs.head? == some '/' then
    (pathAndQuery? charset cs).map fun (path, query) => ⟨none, "", path, query⟩
  else
    match scheme? cs with
    | some name =>
      if maxSchemeLength < name.length then none else ofRest? charset (schemeText name) (cs.drop (name.length + 3))
    | none => ofAuthority? cs

def queryText (u : Uri) : String := match u.query with
  | some query => "?" ++ query
  | none => ""

/-- The path. Behind a scheme an empty path stands for `/`. -/
def resource (u : Uri) : String := if u.scheme.isSome && u.path.isEmpty then "/" else u.path

def pathAndQuery (u : Uri) : String :=
  let text := u.path ++ u.queryText
  if text.isEmpty then "/" else text

def schemeMark (u : Uri) : String := match u.scheme with
  | some scheme => scheme ++ "://"
  | none => ""

def text (u : Uri) : String := u.schemeMark ++ u.authority ++ u.resource ++ u.queryText

end Uri

end TargetHealth.Http
