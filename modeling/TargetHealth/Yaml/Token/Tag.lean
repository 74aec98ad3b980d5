import TargetHealth.Text.Utf8
import TargetHealth.Text.Hex
import TargetHealth.Yaml.Cursor
import TargetHealth.Yaml.Token

namespace TargetHealth.Yaml

def readAnchorName? (c : Cursor) : Option (String × Cursor) :=
  let c := c.advance 1
  let name := c.rest.takeWhile isNameChar
  let c := c.advance name.length
  if name.isEmpty then none
  else if c.endsWord 0 || c.sees (fun ch => "?:,]\x7d%@`".toList.contains ch) then
    some (String.ofList name, c)
  else none

def isTagChar (verbatim : Bool) (c : Char) : Bool :=
  isNameChar c || ";/?:@&=+$.%!~*'()".toList.contains c || (verbatim && ",[]".toList.contains c)

def decodeTag? : List Char → Option (List UInt8)
  | [] => some []
  | '%' :: a :: b :: rest => do
    let byte := UInt8.ofNat (16 * (← Hex.value? a) + (← Hex.value? b))
    some (byte :: (← decodeTag? rest))
  | c :: rest => if c = '%' then none else (decodeTag? rest).map (Utf8.encodeChar c ++ ·)

def readTagText? (verbatim : Bool) (c : Cursor) : Option (List Char × Cursor) := do
  let raw := c.rest.takeWhile (isTagChar verbatim)
  some (← Utf8.decode? (← decodeTag? raw), c.advance raw.length)

def readHandle? (c : Cursor) : Option (List Char × Cursor) :=
  if c.sees (· == '!') then
    let name := (c.rest.drop 1).takeWhile isNameChar
    let c := c.advance (1 + name.length)
    if c.sees (· == '!') then some ('!' :: name ++ ['!'], c.advance 1) else some ('!' :: name, c)
  else none

def isFullHandle (handle : List Char) : Bool := 2 ≤ handle.length && handle.getLast? == some '!'

/-- A tag, which has to be followed by a blank, by a line end or, in a flow collection, by a comma. -/
def readTag? (flow : Bool) (c : Cursor) : Option (Token × Cursor) := do
  let (token, c) ←
    if c.peek 1 = some '<' then do
      let (text, c) ← readTagText? true (c.advance 2)
      if text.isEmpty || !c.sees (· == '>') then none
      else some (Token.tag "" (String.ofList text), c.advance 1)
    else do
      let (handle, c) ← readHandle? c
      let (rest, c) ← readTagText? false c
      if isFullHandle handle then
        if rest.isEmpty then none
        else some (Token.tag (String.ofList handle) (String.ofList rest), c)
      else
        let suffix := handle.drop 1 ++ rest
        some (if suffix.isEmpty then Token.tag "" "!" else Token.tag "!" (String.ofList suffix), c)
  if c.endsWord 0 || (flow && c.sees (· == ',')) then some (token, c) else none

def readVersionNumber? (c : Cursor) : Option (Nat × Cursor) :=
  let digits := c.rest.takeWhile (·.isDigit)
  if digits.isEmpty || 9 < digits.length then none
  else some (digits.foldl (fun n d => 10 * n + (d.toNat - 48)) 0, c.advance digits.length)

def finishDirective? (c : Cursor) : Option Cursor :=
  let c := c.advanceWhile isBlank
  let c := if c.sees (· == '#') then c.advanceWhile (fun ch => !isBreak ch) else c
  if c.atEnd || c.sees isBreak then some c.takeBreak.2 else none

def readDirective? (c : Cursor) : Option (Token × Cursor) := do
  let c := c.advance 1
  let name := c.rest.takeWhile isNameChar
  let c := c.advance name.length
  if name.isEmpty || !c.endsWord 0 then none
  else
    let c := c.advanceWhile isBlank
    if name = "YAML".toList then
      let (major, c) ← readVersionNumber? c
      if !c.sees (· == '.') then none
      else
        let (minor, c) ← readVersionNumber? (c.advance 1)
        some (.versionDirective major minor, ← finishDirective? c)
    else if name = "TAG".toList then
      let (handle, c) ← readHandle? c
      if handle != ['!'] && !isFullHandle handle then none
      else if !c.sees isBlank then none
      else
        let (start, c) ← readTagText? true (c.advanceWhile isBlank)
        if start.isEmpty || !c.endsWord 0 then none
        else some (.tagDirective (String.ofList handle) (String.ofList start), ← finishDirective? c)
    else none

end TargetHealth.Yaml
