import RecordQuery.Yaml.Token

/-!
# YAML documents

`Yaml.ofText?` reads a text that holds one document and gives the document's root.  A reference
stands for the node that carries its anchor; a text without a document is blank.
-/

namespace RecordQuery

namespace Yaml

/-- What is left to read of the tokens, and what the tokens before have defined. -/
structure Remaining where
  tokens : List Token
  /-- What the handles of tags stand for. -/
  handles : List (String × String)
  /-- The anchored nodes in the order of their anchors; a node that is still being read is a
  recurrence. -/
  anchors : List (String × Yaml) := []

/-- A reader of nodes from tokens. -/
abbrev NodeReader := StateT Remaining Option

namespace NodeReader

/-- The next token. -/
def peek : NodeReader (Option Token) := do return (← get).tokens.head?

/-- Passes over the next token. -/
def skip : NodeReader Unit := modify fun r => { r with tokens := r.tokens.tail }

/-- Passes over the next token if it is a given one. -/
def take (t : Token) : NodeReader Bool := do
  if (← peek) == some t then
    skip
    return true
  else return false

/-- One of some tokens comes next. -/
def isAt (ts : List Token) : NodeReader Bool := do return (← peek).any ts.contains

/-- The name of a tag. -/
def tagName (handle rest : String) : NodeReader String := do
  if handle.isEmpty then return rest
  else
    match (← get).handles.find? fun h => h.1 == handle with
    | some (_, lead) => return lead ++ rest
    | none => failure

/-- Reads an anchor if there is one. -/
def anchor? : NodeReader (Option String) := do
  match ← peek with
  | some (.anchor name) =>
    skip
    return some name
  | _ => return none

/-- Reads a tag if there is one. -/
def tag? : NodeReader (Option String) := do
  match ← peek with
  | some (.tag handle rest) =>
    skip
    return some (← tagName handle rest)
  | _ => return none

/-- Reads the anchor and the tag in front of a node, in any order. -/
def properties : NodeReader (Option String × Option String) := do
  let anchor ← anchor?
  let tag ← tag?
  match anchor with
  | some name => return (some name, tag)
  | none => return (← anchor?, tag)

/-- The node that carries an anchor; the last one does if there are several. -/
def lookup (name : String) : NodeReader Yaml := do
  match (← get).anchors.reverse.find? fun a => a.1 == name with
  | some (_, node) => return node
  | none => failure

/-- Reads a node that may carry an anchor. -/
def anchored (anchor : Option String) (content : NodeReader Yaml) : NodeReader Yaml := do
  match anchor with
  | none => content
  | some name =>
    let index := (← get).anchors.length
    modify fun r => { r with anchors := r.anchors ++ [(name, .recurrence)] }
    let node ← content
    modify fun r => { r with anchors := r.anchors.set index (name, node) }
    return node

end NodeReader

open NodeReader

/-- A place for a node. -/
inductive Place where
  /-- In flow style. -/
  | flow
  /-- In block style. -/
  | block
  /-- In an entry of a block mapping, where a sequence need not be indented. -/
  | member

mutual

/-- Reads a node. -/
def readNode (place : Place) : Nat → NodeReader Yaml
  | 0 => failure
  | fuel + 1 => do
    match ← peek with
    | some (.reference name) =>
      skip
      lookup name
    | _ =>
      let (anchor, tag) ← properties
      anchored anchor (readContent place (anchor.isSome || tag.isSome) tag fuel)

/-- Reads a node behind its anchor and tag; with one of these the node may be blank. -/
def readContent (place : Place) (mayBeBlank : Bool) (tag : Option String) : Nat → NodeReader Yaml
  | 0 => failure
  | fuel + 1 => do
    match place, ← peek with
    | .member, some .entry => return .sequence (← readEntries [.key, .value] fuel)
    | _, some (.scalar text style) =>
      skip
      return .scalar text style tag
    | _, some .flowSequence =>
      skip
      return .sequence (← readItems true fuel)
    | _, some .flowMapping =>
      skip
      return .mapping (← readMembers true fuel)
    | .flow, _ => if mayBeBlank then return .scalar "" .plain tag else failure
    | _, some .blockSequence =>
      skip
      let items ← readEntries [] fuel
      if ← take .blockEnd then return .sequence items else failure
    | _, some .blockMapping =>
      skip
      return .mapping (← readBlockMembers fuel)
    | _, _ => if mayBeBlank then return .scalar "" .plain tag else failure

/-- Reads a node, or nothing before some tokens. -/
def readOptional (place : Place) (stops : List Token) : Nat → NodeReader Yaml
  | 0 => failure
  | fuel + 1 => do if ← isAt stops then return blank else readNode place fuel

/-- Reads the value of a member, or nothing if no colon comes. -/
def readValue (place : Place) (stops : List Token) : Nat → NodeReader Yaml
  | 0 => failure
  | fuel + 1 => do if ← take .value then readOptional place stops fuel else return blank

/-- Reads the entries of a sequence in block style; an entry is nothing also before some more
tokens. -/
def readEntries (stops : List Token) : Nat → NodeReader (List Yaml)
  | 0 => failure
  | fuel + 1 => do
    if ← take .entry then
      let item ← readOptional .block (.entry :: .blockEnd :: stops) fuel
      return item :: (← readEntries stops fuel)
    else return []

/-- Reads the members of a mapping in block style. -/
def readBlockMembers : Nat → NodeReader (List (Yaml × Yaml))
  | 0 => failure
  | fuel + 1 => do
    if ← take .key then
      let key ← readOptional .member [.key, .value, .blockEnd] fuel
      let value ← readValue .member [.key, .value, .blockEnd] fuel
      return (key, value) :: (← readBlockMembers fuel)
    else if ← take .blockEnd then return []
    else failure

/-- Reads the items of a sequence in flow style.  A member without braces is a mapping of its own. -/
def readItems (first : Bool) : Nat → NodeReader (List Yaml)
  | 0 => failure
  | fuel + 1 => do
    let separated ← if first then pure true else take .comma
    if ← take .flowSequenceEnd then return []
    else if !separated then failure
    else
      let item ←
        if ← take .key then
          let key ← readNode .flow fuel
          let value ← readValue .flow [.comma, .flowSequenceEnd] fuel
          pure (.mapping [(key, value)])
        else readNode .flow fuel
      return item :: (← readItems false fuel)

/-- Reads the members of a mapping in flow style. -/
def readMembers (first : Bool) : Nat → NodeReader (List (Yaml × Yaml))
  | 0 => failure
  | fuel + 1 => do
    let separated ← if first then pure true else take .comma
    if ← take .flowMappingEnd then return []
    else if !separated then failure
    else
      let entry ←
        if ← take .key then
          let key ← readOptional .flow [.value, .comma, .flowMappingEnd] fuel
          let value ← readValue .flow [.comma, .flowMappingEnd] fuel
          pure (key, value)
        else pure (← readNode .flow fuel, blank)
      return entry :: (← readMembers false fuel)

end

/-- The handles that every document knows. -/
def standardHandles : List (String × String) := [("!", "!"), ("!!", "tag:yaml.org,2002:")]

/-- Reads the directives of a document: one version at most, which is 1.1 or 1.2, and handles that
differ from each other. -/
def readDirectives (versioned : Bool) (handles : List (String × String)) :
    List Token → Option (List (String × String) × List Token)
  | .version major minor :: ts =>
    if versioned || major != 1 || !(minor == 1 || minor == 2) then none
    else readDirectives true handles ts
  | .tagHandle handle lead :: ts =>
    if handles.any fun h => h.1 == handle then none
    else readDirectives versioned (handles ++ [(handle, lead)]) ts
  | ts => some (handles, ts)

/-- Reads the root of a document, and gives the tokens behind it. -/
def readRoot (handles : List (String × String)) (tokens : List Token) :
    Option (Yaml × List Token) :=
  ((readNode .block (4 * tokens.length + 4)).run { tokens, handles }).map fun (node, remaining) =>
    (node, remaining.tokens)

/-- Reads a document that begins with directives or with a mark; nothing may follow the mark. -/
def readMarked (tokens : List Token) : Option (Yaml × List Token) := do
  let (handles, tokens) ← readDirectives false [] tokens
  match tokens with
  | .documentStart :: [] => return (blank, [])
  | .documentStart :: .documentEnd :: ts => return (blank, .documentEnd :: ts)
  | .documentStart :: ts => readRoot (handles ++ standardHandles) ts
  | _ => none

/-- Reads the only document of some tokens. -/
def ofTokens? (tokens : List Token) : Option Yaml := do
  let (node, rest) ← match tokens with
    | [] => some (blank, [])
    | .version _ _ :: _ | .tagHandle _ _ :: _ | .documentStart :: _ => readMarked tokens
    | _ => readRoot standardHandles tokens
  if rest.all (· == .documentEnd) then some node else none

/-- The characters that a text may contain. -/
def isAllowed (c : Char) : Bool :=
  let n := c.toNat
  n == 0x09 || n == 0x0A || n == 0x0D || (0x20 ≤ n && n ≤ 0x7E) || n == 0x85
    || (0xA0 ≤ n && n ≤ 0xFFFD) || 0x10000 ≤ n

/-- The text with `\n` for every other way to end a line, apart from U+2028 and U+2029. -/
def plainBreaks : List Char → List Char
  | '\r' :: '\n' :: cs => '\n' :: plainBreaks cs
  | '\r' :: cs => '\n' :: plainBreaks cs
  | '\u0085' :: cs => '\n' :: plainBreaks cs
  | c :: cs => c :: plainBreaks cs
  | [] => []

/-- Reads a text of one document. -/
def ofText? (text : String) : Option Yaml :=
  if text.toList.all isAllowed then
    (Token.ofChars? (plainBreaks text.toList)).bind ofTokens?
  else none

end Yaml

end RecordQuery
