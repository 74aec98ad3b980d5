import TargetHealth.Yaml.Token.Scalar
import TargetHealth.Yaml.Token.Tag

namespace TargetHealth.Yaml

structure KeyPlace where
  required : Bool
  tokens : Nat
  index : Nat
  line : Nat
  column : Nat
deriving Repr, Inhabited

/-- A lexer of YAML texts. In block context, a change of indentation opens or closes collections. A mapping key without
`?` is known as one only when its colon is met; until then the place at which it may have started is kept, one per level of
flow collections, and the token that opens it is put there afterwards. Such a key stands on one line and is at most 1024
characters long. -/
structure Lexer where
  cursor : Cursor
  tokens : Array Token
  /-- The indentation of the innermost block collection, and those around it. -/
  indents : List Nat
  keyAllowed : Bool
  /-- Possible keys, innermost level first. -/
  keys : List (Option KeyPlace)
deriving Inhabited

namespace Lexer

def start (cs : List Char) : Lexer := ⟨Cursor.start cs, #[], [], true, [none]⟩

def inFlow (l : Lexer) : Bool := 1 < l.keys.length

def push (l : Lexer) (t : Token) : Lexer := { l with tokens := l.tokens.push t }

def pushMark (l : Lexer) (t : Token) (n : Nat) : Lexer :=
  { l with tokens := l.tokens.push t, cursor := l.cursor.advance n }

def allowKey (l : Lexer) (allowed : Bool) : Lexer := { l with keyAllowed := allowed }

def dropKey? (l : Lexer) : Option Lexer :=
  match l.keys with
  | some k :: rest => if k.required then none else some { l with keys := none :: rest }
  | _ => some l

def noteKey? (l : Lexer) : Option Lexer :=
  if l.keyAllowed then do
    let l ← l.dropKey?
    let c := l.cursor
    let required := !l.inFlow && l.indents.head? == some c.column
    some { l with keys := some ⟨required, l.tokens.size, c.index, c.line, c.column⟩ :: l.keys.drop 1 }
  else some l

def dropStale? (l : Lexer) : Option Lexer := do
  let keys ← l.keys.mapM fun key => match key with
    | some k =>
      if k.line < l.cursor.line || k.index + 1024 < l.cursor.index then
        if k.required then none else some none
      else some (some k)
    | none => some none
  some { l with keys := keys }

/-- Open a block collection if the column lies right of the current one. Its token is put at place `at_`. -/
def indent (l : Lexer) (column at_ : Nat) (t : Token) : Lexer :=
  if l.inFlow || l.indents.head?.any (column ≤ ·) then l
  else { l with indents := column :: l.indents, tokens := l.tokens.insertIdxIfInBounds at_ t }

def dedent (l : Lexer) (column : Nat) : Lexer :=
  if l.inFlow then l
  else
    let closed := l.indents.takeWhile (column < ·)
    { l with
      indents := l.indents.drop closed.length
      tokens := l.tokens ++ (closed.map (fun _ => Token.blockEnd)).toArray }

def closeAll (l : Lexer) : Lexer :=
  if l.inFlow then l
  else { l with indents := [], tokens := l.tokens ++ (l.indents.map (fun _ => Token.blockEnd)).toArray }

/-- Move to the next token, over blanks, comments and line ends, and over a byte order mark that begins a line, which
takes up a column. Where a key may start in block context, a tab does not count as a blank. -/
def toNext : Nat → Lexer → Lexer
  | 0, l => l
  | fuel + 1, l =>
    let c := if l.cursor.column == 0 && l.cursor.sees isByteOrderMark then l.cursor.advance 1 else l.cursor
    let c := c.advanceWhile (fun ch => ch == ' ' || (ch == '\t' && (l.inFlow || !l.keyAllowed)))
    let c := if c.sees (· == '#') then c.advanceWhile (fun ch => !isBreak ch) else c
    if c.sees isBreak then
      toNext fuel { l with cursor := c.takeBreak.2, keyAllowed := l.keyAllowed || !l.inFlow }
    else { l with cursor := c }

def readDirective (l : Lexer) : Option Lexer := do
  let l ← l.closeAll.dropKey?
  let (token, c) ← readDirective? l.cursor
  some { l.push token with cursor := c, keyAllowed := false }

def readDocumentMark (l : Lexer) (t : Token) : Option Lexer := do
  let l ← l.closeAll.dropKey?
  some ((l.pushMark t 3).allowKey false)

def openFlow (l : Lexer) (t : Token) : Option Lexer := do
  let l ← l.noteKey?
  some { (l.pushMark t 1).allowKey true with keys := none :: l.keys }

def closeFlow (l : Lexer) (t : Token) : Option Lexer := do
  let l ← l.dropKey?
  some { (l.pushMark t 1).allowKey false with keys := if l.inFlow then l.keys.drop 1 else l.keys }

def readFlowEntry (l : Lexer) : Option Lexer := do
  let l ← l.dropKey?
  some ((l.pushMark .flowEntry 1).allowKey true)

def readBlockEntry (l : Lexer) : Option Lexer := do
  if !l.inFlow && !l.keyAllowed then none
  else
    let l ← (l.indent l.cursor.column l.tokens.size .blockSequenceStart).dropKey?
    some ((l.pushMark .blockEntry 1).allowKey true)

def readKey (l : Lexer) : Option Lexer := do
  if !l.inFlow && !l.keyAllowed then none
  else
    let l ← (l.indent l.cursor.column l.tokens.size .blockMappingStart).dropKey?
    some ((l.pushMark .key 1).allowKey (!l.inFlow))

/-- A colon makes the possible key a key. Without one it starts a mapping whose key is empty. -/
def readValue (l : Lexer) : Option Lexer :=
  match l.keys with
  | some k :: rest =>
    let l := { l with tokens := l.tokens.insertIdxIfInBounds k.tokens .key, keys := none :: rest }
    some (((l.indent k.column k.tokens .blockMappingStart).pushMark .value 1).allowKey false)
  | _ =>
    if !l.inFlow && !l.keyAllowed then none
    else
      let l := l.indent l.cursor.column l.tokens.size .blockMappingStart
      some ((l.pushMark .value 1).allowKey (!l.inFlow))

def readAnchor (l : Lexer) (token : String → Token) : Option Lexer := do
  let l ← l.noteKey?
  let (name, c) ← readAnchorName? l.cursor
  some { l.push (token name) with cursor := c, keyAllowed := false }

def readTag (l : Lexer) : Option Lexer := do
  let l ← l.noteKey?
  let (token, c) ← readTag? l.inFlow l.cursor
  some { l.push token with cursor := c, keyAllowed := false }

def readBlockScalar (l : Lexer) (literal : Bool) : Option Lexer := do
  let l ← l.dropKey?
  let (text, c) ← readBlock? literal l.indents.head? (l.cursor.advance 1)
  some { l.push (.scalar (String.ofList text) .quoted) with cursor := c, keyAllowed := true }

def readQuotedScalar (l : Lexer) (single : Bool) : Option Lexer := do
  let l ← l.noteKey?
  let c := l.cursor.advance 1
  let (text, c) ← readQuoted? (c.rest.length + 1) single [] c
  some { l.push (.scalar (String.ofList text) .quoted) with cursor := c, keyAllowed := false }

def readPlainScalar (l : Lexer) : Option Lexer := do
  let l ← l.noteKey?
  let limit := match l.indents.head? with
    | some n => n + 1
    | none => 0
  let (text, broken, c) ← readPlain? (l.cursor.rest.length + 1) l.inFlow limit [] .none l.cursor
  some { l.push (.scalar (String.ofList text) .plain) with cursor := c, keyAllowed := broken }

def startsPlain (l : Lexer) : Bool :=
  match l.cursor.rest.head? with
  | none => false
  | some ch =>
    if ch == '-' then !(l.cursor.peek 1).any isBlank
    else if ch == '?' || ch == ':' then !l.inFlow && !l.cursor.endsWord 1
    else !(isBlank ch || isBreak ch || ",[]\x7b\x7d#&*!|>'\"%@`".toList.contains ch)

def readToken (l : Lexer) : Option Lexer :=
  let c := l.cursor
  if c.column == 0 && c.sees (· == '%') then l.readDirective
  else if c.atMark "---" then l.readDocumentMark .documentStart
  else if c.atMark "..." then l.readDocumentMark .documentEnd
  else
    match c.rest.head? with
    | some '[' => l.openFlow .flowSequenceStart
    | some '\x7b' => l.openFlow .flowMappingStart
    | some ']' => l.closeFlow .flowSequenceEnd
    | some '\x7d' => l.closeFlow .flowMappingEnd
    | some ',' => l.readFlowEntry
    | some '*' => l.readAnchor .alias
    | some '&' => l.readAnchor .anchor
    | some '!' => l.readTag
    | some '\'' => l.readQuotedScalar true
    | some '"' => l.readQuotedScalar false
    | some ch =>
      if ch == '-' && c.endsWord 1 then l.readBlockEntry
      else if ch == '?' && (l.inFlow || c.endsWord 1) then l.readKey
      else if ch == ':' && (l.inFlow || c.endsWord 1) then l.readValue
      else if ch == '|' && !l.inFlow then l.readBlockScalar true
      else if ch == '>' && !l.inFlow then l.readBlockScalar false
      else if l.startsPlain then l.readPlainScalar
      else none
    | none => none

def run : Nat → Lexer → Option Lexer
  | 0, _ => none
  | fuel + 1, l => do
    let l := l.toNext (l.cursor.rest.length + 1)
    let l ← l.dropStale?
    if l.cursor.atEnd then l.closeAll.dropKey?
    else
      let l ← (l.dedent l.cursor.column).readToken
      run fuel l

end Lexer

def tokens? (text : List Char) : Option (List Token) :=
  if text.all isPrintable then
    (Lexer.run (text.length + 2) (Lexer.start text)).map (fun l => l.tokens.toList)
  else none

end TargetHealth.Yaml
