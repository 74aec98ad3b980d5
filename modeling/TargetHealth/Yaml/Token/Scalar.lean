import TargetHealth.Text.Hex
import TargetHealth.Yaml.Cursor

namespace TargetHealth.Yaml

/-- Blanks and line ends between two words: the blanks, if no line ended; otherwise the first line end and
the others. -/
structure Gap where
  blanks : List Char
  firstBreak : List Char
  moreBreaks : List Char
  broken : Bool
deriving Repr, Inhabited

namespace Gap

def none : Gap := ⟨[], [], [], false⟩

def fold (g : Gap) : List Char :=
  if !g.broken then g.blanks
  else if g.firstBreak = ['\n'] then
    if g.moreBreaks.isEmpty then [' '] else g.moreBreaks
  else g.firstBreak ++ g.moreBreaks

/-- Read a gap. A tab left of `limit` on a continuation line is refused. -/
def read : Nat → Nat → Gap → Cursor → Option (Gap × Cursor)
  | 0, _, g, c => some (g, c)
  | fuel + 1, limit, g, c =>
    match c.rest with
    | [] => some (g, c)
    | ch :: _ =>
      if isBlank ch then
        if g.broken && c.column < limit && ch == '\t' then Option.none
        else read fuel limit (if g.broken then g else { g with blanks := g.blanks ++ [ch] }) (c.advance 1)
      else if isBreak ch then
        let (text, c) := c.takeBreak
        if g.broken then read fuel limit { g with moreBreaks := g.moreBreaks ++ text } c
        else read fuel limit { g with blanks := [], firstBreak := text, broken := true } c
      else some (g, c)

end Gap

def escaped? : Char → Option Char
  | '0' => some '\x00'
  | 'a' => some '\x07'
  | 'b' => some '\x08'
  | 't' => some '\t'
  | '\t' => some '\t'
  | 'n' => some '\n'
  | 'v' => some '\x0b'
  | 'f' => some '\x0c'
  | 'r' => some '\r'
  | 'e' => some '\x1b'
  | ' ' => some ' '
  | '"' => some '"'
  | '/' => some '/'
  | '\\' => some '\\'
  | 'N' => some '\x85'
  | '_' => some '\xa0'
  | 'L' => some '\u2028'
  | 'P' => some '\u2029'
  | _ => none

def escapeWidth? : Char → Option Nat
  | 'x' => some 2
  | 'u' => some 4
  | 'U' => some 8
  | _ => none

def charOfHex? (digits : List Char) : Option Char := do
  let n := (← digits.mapM Hex.value?).foldl (fun n d => 16 * n + d) 0
  if 0x10ffff < n ∨ (0xd800 ≤ n ∧ n ≤ 0xdfff) then none else some (Char.ofNat n)

def readEscape? (c : Cursor) : Option (Char × Cursor) := do
  let mark ← c.peek 1
  match escapeWidth? mark with
  | some width =>
    let digits := (c.rest.drop 2).take width
    if digits.length < width then none
    else some (← charOfHex? digits, c.advance (2 + width))
  | none => some (← escaped? mark, c.advance 2)

/-- The words of a quoted scalar up to a blank, a line end or the closing quote, and whether the scalar goes on
behind an escaped line end. -/
def readQuotedWord? : Nat → Bool → List Char → Cursor → Option (List Char × Bool × Cursor)
  | 0, _, _, _ => none
  | fuel + 1, single, done, c =>
    match c.rest with
    | [] => none
    | '\'' :: '\'' :: _ =>
      if single then readQuotedWord? fuel single ('\'' :: done) (c.advance 2)
      else readQuotedWord? fuel single ('\'' :: done) (c.advance 1)
    | '\\' :: next :: _ =>
      if single then readQuotedWord? fuel single ('\\' :: done) (c.advance 1)
      else if isBreak next then some (done, true, (c.advance 1).takeBreak.2)
      else do
        let (ch, c) ← readEscape? c
        readQuotedWord? fuel single (ch :: done) c
    | ch :: _ =>
      if ch == (if single then '\'' else '"') || isBlank ch || isBreak ch then some (done, false, c)
      else if ch == '\\' && !single then none
      else readQuotedWord? fuel single (ch :: done) (c.advance 1)

/-- A quoted scalar behind its opening quote. The characters read so far stand in reverse. -/
def readQuoted? : Nat → Bool → List Char → Cursor → Option (List Char × Cursor)
  | 0, _, _, _ => none
  | fuel + 1, single, done, c =>
    if c.atDocumentMark || c.atEnd then none
    else do
      let (done, continued, c) ← readQuotedWord? (c.rest.length + 1) single done c
      if !continued && c.sees (· == (if single then '\'' else '"')) then some (done.reverse, c.advance 1)
      else
        let start : Gap := { Gap.none with broken := continued }
        let (gap, c) ← Gap.read (c.rest.length + 1) 0 start c
        readQuoted? fuel single (gap.fold.reverse ++ done) c

def isFlowMark (c : Char) : Bool := c == ',' || c == '[' || c == ']' || c == '\x7b' || c == '\x7d'

def endsPlain (flow : Bool) (c : Cursor) : Bool :=
  (c.sees (· == ':') && c.endsWord 1) || (flow && c.sees isFlowMark)

/-- A word of a plain scalar. In a flow collection a colon in front of a mark is refused. -/
def readPlainWord? : Nat → Bool → List Char → Cursor → Option (List Char × Cursor)
  | 0, _, done, c => some (done, c)
  | fuel + 1, flow, done, c =>
    match c.rest with
    | [] => some (done, c)
    | ch :: rest =>
      if isBlank ch || isBreak ch then some (done, c)
      else if flow && ch == ':' && rest.head?.any (fun next => isFlowMark next || next == '?') then none
      else if endsPlain flow c then some (done, c)
      else readPlainWord? fuel flow (ch :: done) (c.advance 1)

/-- A plain scalar, whose continuation lines stand at column `limit` or further right. The gap in front of a
word counts only if a word follows. The answer tells whether the last gap held a line end. -/
def readPlain? : Nat → Bool → Nat → List Char → Gap → Cursor → Option (List Char × Bool × Cursor)
  | 0, _, _, done, gap, c => some (done.reverse, gap.broken, c)
  | fuel + 1, flow, limit, done, gap, c =>
    if c.atDocumentMark || c.sees (· == '#') then some (done.reverse, gap.broken, c)
    else do
      let (word, c) ← readPlainWord? (c.rest.length + 1) flow [] c
      let done := if word.isEmpty then done else word ++ gap.fold.reverse ++ done
      let gap := if word.isEmpty then gap else Gap.none
      if !c.sees (fun ch => isBlank ch || isBreak ch) then some (done.reverse, gap.broken, c)
      else
        let (gap, c) ← Gap.read (c.rest.length + 1) limit gap c
        if !flow && c.column < limit then some (done.reverse, gap.broken, c)
        else readPlain? fuel flow limit done gap c

inductive Chomping where
  | strip
  | clip
  | keep
deriving DecidableEq, Repr

/-- The indicators of a block scalar: at most one for chomping and one for indentation, in either order. -/
def readBlockHeader? (c : Cursor) : Option (Chomping × Option Nat × Cursor) :=
  let chomp? (c : Cursor) : Option Chomping :=
    if c.sees (· == '+') then some .keep else if c.sees (· == '-') then some .strip else none
  let digit? (c : Cursor) : Option Nat :=
    if c.sees (·.isDigit) then (c.peek 0).map (fun ch => ch.toNat - 48) else none
  match chomp? c with
  | some chomping =>
    match digit? (c.advance 1) with
    | some d => if d = 0 then none else some (chomping, some d, c.advance 2)
    | none => some (chomping, none, c.advance 1)
  | none =>
    match digit? c with
    | some d =>
      if d = 0 then none
      else
        match chomp? (c.advance 1) with
        | some chomping => some (chomping, some d, c.advance 2)
        | none => some (.clip, some d, c.advance 1)
    | none => some (.clip, none, c)

/-- Skip indentation and empty lines. Without a known indentation the widest one seen is noted. -/
def readBlockBreaks? : Nat → Option Nat → List Char → Nat → Cursor → Option (List Char × Nat × Cursor)
  | 0, _, breaks, widest, c => some (breaks, widest, c)
  | fuel + 1, indent, breaks, widest, c =>
    let room := match indent with
      | some n => n - c.column
      | none => c.rest.length
    let c := c.advance ((c.rest.take room).takeWhile (· == ' ')).length
    let widest := max widest c.column
    if indent.all (c.column < ·) && c.sees (· == '\t') then none
    else if c.sees isBreak then
      let (text, c) := c.takeBreak
      readBlockBreaks? fuel indent (breaks ++ text) widest c
    else some (breaks, widest, c)

/-- The lines of a block scalar. `lineEnd` is the end of the line before, `empty` the empty lines after it. -/
def readBlockLines? : Nat → Bool → Nat → List Char → List Char → List Char → Bool → Cursor →
    Option (List Char × List Char × List Char × Cursor)
  | 0, _, _, done, lineEnd, empty, _, c => some (done, lineEnd, empty, c)
  | fuel + 1, literal, indent, done, lineEnd, empty, wasBlank, c =>
    if c.column != indent || c.atEnd then some (done, lineEnd, empty, c)
    else
      let blank := c.sees isBlank
      let joint :=
        if !literal && lineEnd = ['\n'] && !wasBlank && !blank then (if empty.isEmpty then [' '] else [])
        else lineEnd
      let line := c.rest.takeWhile (fun ch => !isBreak ch)
      let (lineEnd, c) := (c.advance line.length).takeBreak
      do
        let (breaks, _, c) ← readBlockBreaks? (c.rest.length + 1) (some indent) [] 0 c
        readBlockLines? fuel literal indent (done ++ joint ++ empty ++ line) lineEnd breaks blank c

/-- A block scalar behind its first indicator, inside a collection indented by `outer` columns, or by none if
there is no collection. -/
def readBlock? (literal : Bool) (outer : Option Nat) (c : Cursor) : Option (List Char × Cursor) := do
  let (chomping, width, c) ← readBlockHeader? c
  let c := c.advanceWhile isBlank
  let c := if c.sees (· == '#') then c.advanceWhile (fun ch => !isBreak ch) else c
  if !c.atEnd && !c.sees isBreak then none
  else
    let c := c.takeBreak.2
    let indent := width.map (· + outer.getD 0)
    let (breaks, widest, c) ← readBlockBreaks? (c.rest.length + 1) indent [] 0 c
    let indent := indent.getD (max widest (max 1 (match outer with
      | some n => n + 1
      | none => 0)))
    let (text, lineEnd, empty, c) ← readBlockLines? (c.rest.length + 1) literal indent [] [] breaks false c
    some (text ++ (if chomping = .strip then [] else lineEnd) ++ (if chomping = .keep then empty else []), c)

end TargetHealth.Yaml
