import TargetHealth.Text.Pieces
import TargetHealth.Url.Host

namespace TargetHealth

structure Url.Authority where
  /-- User name and password, percent-encoded, without the `@`. -/
  userinfo : String
  host : Option Host
  port : Option Nat
deriving DecidableEq, Repr, Inhabited

/-- URLs after the WHATWG URL Standard, read without a base. Reading normalizes: the scheme and the host come out in lower
case, dot segments are resolved, default ports are dropped and characters that cannot stand in a part of the URL are
percent-encoded. -/
structure Url where
  scheme : String
  authority : Option Url.Authority
  path : String
  query : Option String
  fragment : Option String
deriving DecidableEq, Repr, Inhabited

namespace Url

def defaultPort? : String → Option Nat
  | "http" => some 80
  | "ws" => some 80
  | "https" => some 443
  | "wss" => some 443
  | "ftp" => some 21
  | _ => none

/-- The schemes whose URLs have a host, and in which a backslash separates like a slash. -/
def isSpecial (scheme : String) : Bool := scheme == "file" || (defaultPort? scheme).isSome

def host? (u : Url) : Option Host := u.authority.bind (·.host)

def port? (u : Url) : Option Nat := (u.authority.bind (·.port)).or (defaultPort? u.scheme)

def pathAndQuery (u : Url) : String :=
  u.path ++ (match u.query with
    | some q => "?" ++ q
    | none => "")

def Authority.text (a : Authority) : String :=
  "//" ++ (if a.userinfo.isEmpty then "" else a.userinfo ++ "@") ++
    (match a.host with
      | some h => h.urlText
      | none => "") ++
    (match a.port with
      | some p => ":" ++ toString p
      | none => "")

/-- The URL in its normal form. Without an authority, a path that starts with two slashes is marked by `/.`, so
that it does not read as one. -/
def text (u : Url) : String :=
  u.scheme ++ ":" ++
    (match u.authority with
      | some a => a.text
      | none => if "//".toList.isPrefixOf u.path.toList then "/." else "") ++
    u.pathAndQuery ++
    (match u.fragment with
      | some f => "#" ++ f
      | none => "")

end Url

end TargetHealth
