namespace TargetHealth.Yaml

structure Cursor where
  rest : List Char
  index : Nat
  line : Nat
  column : Nat
deriving Repr, Inhabited

def isBreak (c : Char) : Bool :=
  c == '\n' || c == '\r' || c == '\x85' || c == '\u2028' || c == '\u2029'

def isBlank (c : Char) : Bool := c == ' ' || c == '\t'

def isNameChar (c : Char) : Bool := c.isAlphanum || c == '_' || c == '-'

def isByteOrderMark (c : Char) : Bool := c == '\ufeff'

def isPrintable (c : Char) : Bool :=
  let n := c.toNat
  n == 0x09 || n == 0x0a || n == 0x0d || (0x20 ≤ n && n ≤ 0x7e) || n == 0x85 || (0xa0 ≤ n && n ≤ 0xd7ff) ||
    (0xe000 ≤ n && n ≤ 0xfffd) || 0x10000 ≤ n

namespace Cursor

def start (cs : List Char) : Cursor := ⟨cs, 0, 0, 0⟩

def peek (c : Cursor) (n : Nat) : Option Char := c.rest[n]?

def atEnd (c : Cursor) : Bool := c.rest.isEmpty

def sees (c : Cursor) (p : Char → Bool) : Bool := c.rest.head?.any p

def endsWord (c : Cursor) (n : Nat) : Bool :=
  match c.peek n with
  | none => true
  | some ch => isBlank ch || isBreak ch

def advance (c : Cursor) (n : Nat) : Cursor :=
  { c with rest := c.rest.drop n, index := c.index + n, column := c.column + n }

def advanceWhile (c : Cursor) (p : Char → Bool) : Cursor := c.advance (c.rest.takeWhile p).length

/-- Move over a line end, if one stands here. The answer is what it contributes to content. -/
def takeBreak (c : Cursor) : List Char × Cursor :=
  match c.rest with
  | '\r' :: '\n' :: rest => (['\n'], ⟨rest, c.index + 2, c.line + 1, 0⟩)
  | ch :: rest =>
    if isBreak ch then
      ([if ch == '\u2028' || ch == '\u2029' then ch else '\n'], ⟨rest, c.index + 1, c.line + 1, 0⟩)
    else ([], c)
  | [] => ([], c)

def atMark (c : Cursor) (mark : String) : Bool :=
  c.column == 0 && mark.toList.isPrefixOf c.rest && c.endsWord 3

def atDocumentMark (c : Cursor) : Bool := c.atMark "---" || c.atMark "..."

end Cursor

end TargetHealth.Yaml
