import TargetHealth.Yaml.Token

namespace TargetHealth.Yaml

/-- The tree that a YAML text stands for. Aliases are replaced by the node they name, and a node that is missing, such as the
value behind a colon at the end of a line, is an empty plain scalar. Mappings may repeat keys. -/
inductive Node where
  | scalar (tag : Option String) (text : String) (style : ScalarStyle)
  | sequence (tag : Option String) (items : List Node)
  | mapping (tag : Option String) (entries : List (Node × Node))
  /-- An alias for a node that contains it. -/
  | enclosing
deriving Inhabited, Repr

namespace Node

def empty : Node := .scalar none "" .plain

/-- The tokens still to be read, and the anchors and tag handles known so far. An anchor whose node is being read
has no node yet. -/
structure Reader where
  tokens : List Token
  anchors : List (String × Option Node)
  handles : List (String × String)
deriving Inhabited

namespace Reader

def drop (r : Reader) (n : Nat) : Reader := { r with tokens := r.tokens.drop n }

def tag? (r : Reader) (handle suffix : String) : Option String :=
  if handle.isEmpty then some suffix else (r.handles.lookup handle).map (· ++ suffix)

def properties? (r : Reader) : Option (Option String × Option String × Reader) :=
  match r.tokens with
  | .anchor a :: .tag h s :: _ => (r.tag? h s).map (fun t => (some a, some t, r.drop 2))
  | .tag h s :: .anchor a :: _ => (r.tag? h s).map (fun t => (some a, some t, r.drop 2))
  | .anchor a :: _ => some (some a, none, r.drop 1)
  | .tag h s :: _ => (r.tag? h s).map (fun t => (none, some t, r.drop 1))
  | _ => some (none, none, r)

def nameAnchor (r : Reader) (anchor : Option String) (node : Option Node) : Reader :=
  match anchor with
  | some a => { r with anchors := (a, node) :: r.anchors }
  | none => r

end Reader

/-- The tag of a scalar: the mark `!` alone in front of one says nothing. -/
def ownTag (tag : Option String) : Option String := if tag = some "!" then none else tag

def endsBlockItem : Token → Bool
  | .blockEntry | .blockEnd => true
  | _ => false

def endsIndentlessItem : Token → Bool
  | .blockEntry | .key | .value | .blockEnd => true
  | _ => false

def endsBlockPart : Token → Bool
  | .key | .value | .blockEnd => true
  | _ => false

def endsFlowPart (closing : Token) (t : Token) : Bool := t == .value || t == .flowEntry || t == closing

mutual

/-- A node. Sequences and mappings in block form are read only where `block` allows them, and sequences that are not
indented only where `indentless` does. -/
def read : Nat → Bool → Bool → Reader → Option (Node × Reader)
  | 0, _, _, _ => none
  | fuel + 1, block, indentless, r =>
    match r.tokens with
    | .alias name :: _ => do
      let node ← r.anchors.lookup name
      some (node.getD .enclosing, r.drop 1)
    | _ => do
      let (anchor, tag, r) ← r.properties?
      let named := r.nameAnchor anchor none
      let (node, r) ← match r.tokens with
        | .blockEntry :: _ =>
          if indentless then do
            let (items, r) ← readIndentless fuel named
            some (Node.sequence tag items, r)
          else if anchor.isSome || tag.isSome then some (Node.scalar tag "" .plain, named)
          else none
        | .scalar text style :: _ => some (Node.scalar (ownTag tag) text style, named.drop 1)
        | .flowSequenceStart :: _ => do
          let (items, r) ← readFlowItems fuel true (named.drop 1)
          some (Node.sequence tag items, r)
        | .flowMappingStart :: _ => do
          let (entries, r) ← readFlowEntries fuel true (named.drop 1)
          some (Node.mapping tag entries, r)
        | .blockSequenceStart :: _ =>
          if block then do
            let (items, r) ← readBlockItems fuel (named.drop 1)
            some (Node.sequence tag items, r)
          else if anchor.isSome || tag.isSome then some (Node.scalar tag "" .plain, named)
          else none
        | .blockMappingStart :: _ =>
          if block then do
            let (entries, r) ← readBlockEntries fuel (named.drop 1)
            some (Node.mapping tag entries, r)
          else if anchor.isSome || tag.isSome then some (Node.scalar tag "" .plain, named)
          else none
        | _ =>
          if anchor.isSome || tag.isSome then some (Node.scalar tag "" .plain, named) else none
      some (node, r.nameAnchor anchor (some node))

/-- A node, or an empty one if a token that satisfies `ends` comes instead. Where a dash does not end the part, it
starts a sequence that is not indented. -/
def readUnless : Nat → (Token → Bool) → Bool → Reader → Option (Node × Reader)
  | 0, _, _, _ => none
  | fuel + 1, ends, block, r =>
    match r.tokens with
    | [] => none
    | t :: _ => if ends t then some (empty, r) else read fuel block (block && !ends .blockEntry) r

def readBlockItems : Nat → Reader → Option (List Node × Reader)
  | 0, _ => none
  | fuel + 1, r =>
    match r.tokens with
    | .blockEntry :: _ => do
      let (item, r) ← readUnless fuel endsBlockItem true (r.drop 1)
      let (items, r) ← readBlockItems fuel r
      some (item :: items, r)
    | .blockEnd :: _ => some ([], r.drop 1)
    | _ => none

def readIndentless : Nat → Reader → Option (List Node × Reader)
  | 0, _ => none
  | fuel + 1, r =>
    match r.tokens with
    | .blockEntry :: _ => do
      let (item, r) ← readUnless fuel endsIndentlessItem true (r.drop 1)
      let (items, r) ← readIndentless fuel r
      some (item :: items, r)
    | _ => some ([], r)

def readBlockEntries : Nat → Reader → Option (List (Node × Node) × Reader)
  | 0, _ => none
  | fuel + 1, r =>
    match r.tokens with
    | .key :: _ => do
      let (key, r) ← readUnless fuel endsBlockPart true (r.drop 1)
      let (value, r) ← match r.tokens with
        | .value :: _ => readUnless fuel endsBlockPart true (r.drop 1)
        | _ => some (empty, r)
      let (entries, r) ← readBlockEntries fuel r
      some ((key, value) :: entries, r)
    | .blockEnd :: _ => some ([], r.drop 1)
    | _ => none

/-- The items of a flow sequence behind its opening bracket. An item may be a mapping of one entry. -/
def readFlowItems : Nat → Bool → Reader → Option (List Node × Reader)
  | 0, _, _ => none
  | fuel + 1, first, r => do
    if r.tokens.head? == some .flowSequenceEnd then some ([], r.drop 1)
    else
      let r ← if first then some r
        else if r.tokens.head? == some .flowEntry then some (r.drop 1)
        else none
      match r.tokens with
      | .flowSequenceEnd :: _ => some ([], r.drop 1)
      | .key :: _ =>
        let (entry, r) ← readFlowEntry fuel .flowSequenceEnd (r.drop 1)
        let (items, r) ← readFlowItems fuel false r
        some (Node.mapping none [entry] :: items, r)
      | _ =>
        let (item, r) ← read fuel false false r
        let (items, r) ← readFlowItems fuel false r
        some (item :: items, r)

def readFlowEntries : Nat → Bool → Reader → Option (List (Node × Node) × Reader)
  | 0, _, _ => none
  | fuel + 1, first, r => do
    if r.tokens.head? == some .flowMappingEnd then some ([], r.drop 1)
    else
      let r ← if first then some r
        else if r.tokens.head? == some .flowEntry then some (r.drop 1)
        else none
      match r.tokens with
      | .flowMappingEnd :: _ => some ([], r.drop 1)
      | .key :: _ =>
        let (entry, r) ← readFlowEntry fuel .flowMappingEnd (r.drop 1)
        let (entries, r) ← readFlowEntries fuel false r
        some (entry :: entries, r)
      | _ =>
        let (key, r) ← read fuel false false r
        let (entries, r) ← readFlowEntries fuel false r
        some ((key, empty) :: entries, r)

def readFlowEntry : Nat → Token → Reader → Option ((Node × Node) × Reader)
  | 0, _, _ => none
  | fuel + 1, closing, r => do
    let (key, r) ← readUnless fuel (endsFlowPart closing) false r
    match r.tokens with
    | .value :: _ =>
      let (value, r) ← readUnless fuel (fun t => t == .flowEntry || t == closing) false (r.drop 1)
      some ((key, value), r)
    | _ => some ((key, empty), r)

end

def defaultHandles : List (String × String) := [("!", "!"), ("!!", "tag:yaml.org,2002:")]

/-- Directives in front of a document: at most one version, 1.1 or 1.2, and no handle twice. -/
def directives? : Bool → List (String × String) → List Token → Option (List (String × String) × List Token)
  | versioned, handles, .versionDirective major minor :: rest =>
    if versioned || major != 1 || (minor != 1 && minor != 2) then none else directives? true handles rest
  | versioned, handles, .tagDirective handle start :: rest =>
    if (handles.lookup handle).isSome then none
    else directives? versioned (handles ++ [(handle, start)]) rest
  | _, handles, rest => some (handles ++ defaultHandles, rest)

def isDocumentEnd (t : Token) : Bool := t == .documentEnd

def bare? (handles : List (String × String)) (tokens : List Token) : Option (Node × List Token) :=
  (read (4 * tokens.length + 4) true false ⟨tokens, [], handles⟩).map (fun (n, r) => (n, r.tokens))

def content? (handles : List (String × String)) (tokens : List Token) : Option (Node × List Token) :=
  match tokens with
  | [] => some (empty, [])
  | .documentEnd :: _ | .documentStart :: _ | .versionDirective .. :: _ | .tagDirective .. :: _ =>
    some (empty, tokens)
  | _ => bare? handles tokens

/-- The node of a text with at most one document. Without one it is empty. Directives need a start mark. -/
def ofTokens? (tokens : List Token) : Option Node := do
  if tokens.isEmpty then some empty
  else
    let (handles, rest) ← directives? false [] tokens
    let (node, rest) ← match rest with
      | .documentStart :: rest => content? handles rest
      | rest => if rest.length < tokens.length then none else bare? handles rest
    if (rest.dropWhile isDocumentEnd).isEmpty then some node else none

end Node

end TargetHealth.Yaml
