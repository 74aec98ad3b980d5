import TargetHealth.Text.Composition
import TargetHealth.Text.Lowercase
import TargetHealth.Text.Pieces
import TargetHealth.Url.Punycode

namespace TargetHealth.Domain

def isIgnored (c : Char) : Bool :=
  let n := c.toNat
  n == 0xad || n == 0x34f || n == 0x200b || n == 0x2060 || n == 0x2064 || n == 0xfeff ||
    (0x180b ≤ n && n ≤ 0x180f) || (0xfe00 ≤ n && n ≤ 0xfe0f)

/-- Dots of other scripts separate labels as well, and full-width forms stand for the ASCII characters. -/
def foldWidth (c : Char) : Char :=
  let n := c.toNat
  if n = 0x3002 ∨ n = 0xff61 then '.'
  else if 0xff01 ≤ n ∧ n ≤ 0xff5e then Char.ofNat (n - 0xfee0)
  else c

def fold (cs : List Char) : List Char :=
  Text.compose (Text.lowerAll ((cs.filter (fun c => !isIgnored c)).map foldWidth))

def isDenied (c : Char) : Bool :=
  c.toNat ≤ 0x20 || c.toNat == 0x7f || " #%/:<>?@[\\]^|".toList.contains c

/-- Characters outside ASCII that no host name holds: controls, joiners and marks of direction, unusual
blanks, private-use characters and specials. -/
def isForbidden (c : Char) : Bool :=
  let n := c.toNat
  (0x80 ≤ n && n ≤ 0xa0) || n == 0x1680 || (0x2000 ≤ n && n ≤ 0x200f) || (0x2028 ≤ n && n ≤ 0x202f) ||
    (0x205f ≤ n && n ≤ 0x206f) || n == 0x3000 || (0xe000 ≤ n && n ≤ 0xf8ff) || (0xfdd0 ≤ n && n ≤ 0xfdef) ||
    (0xfff0 ≤ n && n ≤ 0xffff) || 0xe0000 ≤ n

def isMark (c : Char) : Bool :=
  let n := c.toNat
  (0x300 ≤ n && n ≤ 0x36f) || (0x483 ≤ n && n ≤ 0x489) || (0x591 ≤ n && n ≤ 0x5bd) ||
    (0x64b ≤ n && n ≤ 0x65f) || (0x1ab0 ≤ n && n ≤ 0x1aff) || (0x1dc0 ≤ n && n ≤ 0x1dff) ||
    (0x20d0 ≤ n && n ≤ 0x20ff) || (0x302a ≤ n && n ≤ 0x302f) || n == 0x3099 || n == 0x309a ||
    (0xfe20 ≤ n && n ≤ 0xfe2f)

def isAscii (cs : List Char) : Bool := cs.all (fun c => c.toNat < 0x80)

def isValidLabel (label : List Char) : Bool :=
  !label.any isForbidden && !(label.head?.any isMark)

/-- A label that starts with `xn--` has to be the Punycode of a folded label that is not all ASCII. -/
def asciiLabel? (label : List Char) : Option (List Char) :=
  if "xn--".toList.isPrefixOf label then do
    if !isAscii label then none
    else
      let plain ← Punycode.decode? (label.drop 4)
      if isAscii plain || fold plain != plain || !isValidLabel plain then none
      else some label
  else if isAscii label then some label
  else if isValidLabel label then some ("xn--".toList ++ Punycode.encode label)
  else none

def toAscii? (cs : List Char) : Option (List Char) := do
  let folded := fold cs
  if folded.any isDenied then none
  else
    let labels ← (Text.pieces '.' folded).mapM asciiLabel?
    some (['.'].intercalate labels)

end TargetHealth.Domain
