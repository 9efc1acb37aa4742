import RecordQuery.Yaml.Basic
import RecordQuery.Yaml.Scalar

/-!
# YAML tokens

A text is cut into tokens.  Indentation becomes tokens too: a collection in block style opens where
its first entry stands and closes before a line that is indented less.  A key is only recognized by
the colon behind it, so its token is put in afterwards; until then a `PossibleKey` remembers where
that would be.
-/

namespace RecordQuery

namespace Yaml

/-- A token of a YAML text. -/
inductive Token where
  /-- The version of YAML that a document declares. -/
  | version (major minor : Nat)
  /-- A handle for tags that a document declares, and what it stands for. -/
  | tagHandle (handle lead : String)
  | documentStart
  | documentEnd
  | blockSequence
  | blockMapping
  | blockEnd
  | flowSequence
  | flowSequenceEnd
  | flowMapping
  | flowMappingEnd
  | entry
  | comma
  | key
  | value
  | anchor (name : String)
  | reference (name : String)
  | tag (handle rest : String)
  | scalar (text : String) (style : Style)
deriving DecidableEq

/-- A place where a key begins if a colon follows. -/
structure PossibleKey where
  /-- How many tokens stand before it. -/
  index : Nat
  line : Nat
  column : Nat
  /-- The bytes of text before it. -/
  offset : Nat
  /-- Nothing but a key can stand there. -/
  required : Bool

/-- The state of cutting a text into tokens. -/
structure Scan where
  rest : List Char
  line : Nat := 0
  column : Nat := 0
  /-- The bytes of text so far. -/
  offset : Nat := 0
  /-- The tokens so far, the last one first. -/
  tokens : List Token := []
  /-- The columns of the open collections in block style, the innermost first. -/
  indents : List Nat := []
  /-- The possible key of the innermost collection. -/
  possible : Option PossibleKey := none
  /-- The possible keys around the open collections in flow style, the innermost first. -/
  around : List (Option PossibleKey) := []
  /-- A key or the indicator of an entry may come next. -/
  fresh : Bool := true

namespace Scan

/-- Some collection in flow style is open. -/
def inFlow (s : Scan) : Bool := !s.around.isEmpty

/-- Goes on to a later part of the text. -/
def moveTo (s : Scan) (rest : List Char) : Scan :=
  let passed := s.rest.take (s.rest.length - rest.length)
  { s with
    rest
    line := s.line + passed.countP isBreak
    column :=
      if passed.any isBreak then (passed.reverse.takeWhile fun c => !isBreak c).length
      else s.column + passed.length
    offset := passed.foldl (fun n c => n + c.utf8Size) s.offset }

/-- Adds a token. -/
def push (s : Scan) (t : Token) : Scan := { s with tokens := t :: s.tokens }

/-- Puts in a token behind the first `index` ones. -/
def insert (s : Scan) (index : Nat) (t : Token) : Scan :=
  let later := s.tokens.length - index
  { s with tokens := s.tokens.take later ++ t :: s.tokens.drop later }

/-! ### Keys and indentation -/

/-- Gives up the possible key. -/
def dropKey (s : Scan) : Option Scan :=
  if s.possible.any PossibleKey.required then none else some { s with possible := none }

/-- Remembers this place as a possible key. -/
def saveKey (s : Scan) : Option Scan :=
  if s.fresh then do
    let s ← s.dropKey
    return { s with possible := some {
      index := s.tokens.length, line := s.line, column := s.column, offset := s.offset
      required := !s.inFlow && s.indents.head? == some s.column } }
  else some s

/-- A possible key is given up behind its line, and after 1024 bytes. -/
def dropStaleKeys (s : Scan) : Option Scan :=
  let isStale := fun (k : PossibleKey) => k.line < s.line || k.offset + 1024 < s.offset
  let keep := fun (k : Option PossibleKey) => k.filter fun k => !isStale k
  if (s.possible :: s.around).any fun k => k.any fun k => isStale k && k.required then none
  else some { s with possible := keep s.possible, around := s.around.map keep }

/-- Opens a collection in block style with a token behind the first `index` ones, unless it is open
already. -/
def openBlock (s : Scan) (column index : Nat) (t : Token) : Scan :=
  if !s.inFlow && s.indents.head?.all (· < column) then
    { s.insert index t with indents := column :: s.indents }
  else s

/-- Closes the collections in block style that satisfy a predicate on their column. -/
def closeBlocks (s : Scan) (p : Nat → Bool) : Scan :=
  if s.inFlow then s
  else
    { s with
      tokens := List.replicate (s.indents.takeWhile p).length .blockEnd ++ s.tokens
      indents := s.indents.dropWhile p }

/-- Closes all that is open at the end of a document. -/
def closeAll (s : Scan) : Option Scan := do
  let s ← (s.closeBlocks fun _ => true).dropKey
  return { s with fresh := false }

/-! ### Between tokens -/

/-- What follows blanks, comments and line ends, and whether a line begins before it. -/
def skipGap (flow fresh comment : Bool) (column : Nat) : List Char → Bool × List Char
  | [] => (fresh, [])
  | c :: cs =>
    if isBreak c then skipGap flow (fresh || !flow) false 0 cs
    else if comment || c == ' ' || (c == '\t' && (flow || !fresh))
        || (c == '\ufeff' && column == 0) then
      skipGap flow fresh comment (column + 1) cs
    else if c == '#' then skipGap flow fresh true (column + 1) cs
    else (fresh, c :: cs)

/-- Goes on to the beginning of the next token. -/
def toToken (s : Scan) : Scan :=
  let (fresh, rest) := skipGap s.inFlow s.fresh false s.column s.rest
  { s.moveTo rest with fresh }

/-! ### Directives -/

/-- The characters of names. -/
def isNameChar (c : Char) : Bool := c.isAlphanum || c == '_' || c == '-'

/-- The characters of tags, apart from escapes. -/
def isTagChar (verbatim : Bool) (c : Char) : Bool :=
  isNameChar c || [';', '/', '?', ':', '@', '&', '=', '+', '$', '.', '!', '~', '*', '\x27', '(',
    ')'].contains c || (verbatim && [',', '[', ']'].contains c)

/-- Reads the characters of a tag; escapes are left as they are. -/
def takeTag (verbatim : Bool) : List Char → Option (List Char × List Char)
  | '%' :: a :: b :: cs =>
    if (Text.hexDigit? a).isSome && (Text.hexDigit? b).isSome then
      (takeTag verbatim cs).map fun (s, rest) => ('%' :: a :: b :: s, rest)
    else none
  | c :: cs =>
    if c == '%' then none
    else if isTagChar verbatim c then
      (takeTag verbatim cs).map fun (s, rest) => (c :: s, rest)
    else some ([], c :: cs)
  | [] => some ([], [])

/-- A number of at most nine digits. -/
def takeNumber (cs : List Char) : Option (Nat × List Char) :=
  let digits := cs.takeWhile Char.isDigit
  if digits.isEmpty || 9 < digits.length then none
  else some (Text.ofDigitsIn 10 (digits.map fun d => d.toNat - '0'.toNat), cs.drop digits.length)

/-- Reads a handle: `!`, or a name between two of them. -/
def takeHandle : List Char → Option (List Char × List Char)
  | '!' :: cs =>
    let name := cs.takeWhile isNameChar
    match cs.drop name.length with
    | '!' :: rest => some ('!' :: name ++ ['!'], rest)
    | rest => some ('!' :: name, rest)
  | _ => none

/-- Reads a directive after its percent sign. -/
def directive? (cs : List Char) : Option (Token × List Char) := do
  let name := cs.takeWhile isNameChar
  let cs := cs.drop name.length
  let behind := cs.dropWhile isInline
  if !atGap cs then none
  else if name == "YAML".toList then
    let (major, cs) ← takeNumber behind
    match cs with
    | '.' :: cs =>
      let (minor, cs) ← takeNumber cs
      return (.version major minor, ← skipLine? cs)
    | _ => none
  else if name == "TAG".toList then
    let (handle, cs) ← takeHandle behind
    if handle.length != 1 && handle.getLast? != some '!' then none
    else if !cs.head?.any isInline then none
    else
      let (lead, cs) ← takeTag true (cs.dropWhile isInline)
      if lead.isEmpty || !atGap cs then none
      else return (.tagHandle (String.ofList handle) (String.ofList lead), ← skipLine? cs)
  else none

/-! ### Tokens -/

/-- Reads the tag behind an exclamation mark; the mark is still in the text. -/
def tag? (flow : Bool) (cs : List Char) : Option (Token × List Char) := do
  let (token, rest) ← match cs with
    | '!' :: '<' :: cs =>
      match ← takeTag true cs with
      | (name, '>' :: rest) =>
        if name.isEmpty then none else some (Token.tag "" (String.ofList name), rest)
      | _ => none
    | cs => do
      let (handle, rest) ← takeHandle cs
      if 1 < handle.length && handle.getLast? == some '!' then
        let (name, rest) ← takeTag false rest
        if name.isEmpty then none
        else some (.tag (String.ofList handle) (String.ofList name), rest)
      else
        let (name, rest) ← takeTag false rest
        let name := handle.drop 1 ++ name
        if name.isEmpty then some (.tag "" "!", rest) else some (.tag "!" (String.ofList name), rest)
  if (flow && rest.head? == some ',') || atGap rest then some (token, rest) else none

/-- Reads the name of an anchor. -/
def anchorName? (cs : List Char) : Option (String × List Char) :=
  let name := cs.takeWhile isNameChar
  let rest := cs.drop name.length
  let ends := atGap rest
    || rest.head?.any fun c => ['?', ':', ',', ']', '}', '%', '@', '\x60'].contains c
  if !name.isEmpty && ends then some (String.ofList name, rest) else none

/-- Adds a token of a node, which may be a key, and goes on behind it. -/
def pushNode (s : Scan) (t : Token) (rest : List Char) : Option Scan :=
  s.saveKey.map fun s => { (s.moveTo rest).push t with fresh := false }

/-- Opens a collection in flow style. -/
def openFlow (s : Scan) (t : Token) (rest : List Char) : Option Scan :=
  s.saveKey.map fun s =>
    { (s.moveTo rest).push t with possible := none, around := s.possible :: s.around, fresh := true }

/-- Closes a collection in flow style. -/
def closeFlow (s : Scan) (t : Token) (rest : List Char) : Option Scan :=
  s.dropKey.map fun s =>
    { (s.moveTo rest).push t with
      possible := s.around.headD none, around := s.around.tail, fresh := false }

/-- Adds a token that begins an entry; in block style it opens a collection if there is none at its
column. -/
def pushEntry (s : Scan) (collection t : Token) (rest : List Char) : Option Scan :=
  if s.inFlow || s.fresh then
    (s.openBlock s.column s.tokens.length collection).dropKey.map fun s => (s.moveTo rest).push t
  else none

/-- Adds the token of a colon, and before it that of its key. -/
def pushValue (s : Scan) (rest : List Char) : Option Scan :=
  match s.possible with
  | some k =>
    let s := (s.insert k.index .key).openBlock k.column k.index .blockMapping
    some { (s.moveTo rest).push .value with possible := none, fresh := false }
  | none => (s.pushEntry .blockMapping .value rest).map fun s => { s with fresh := !s.inFlow }

/-- Adds the token that begins here. -/
def token (s : Scan) (c : Char) (cs : List Char) : Option Scan :=
  if s.column == 0 && c == '%' then do
    let s ← s.closeAll
    let (t, rest) ← directive? cs
    return (s.moveTo rest).push t
  else if s.column == 0 && atMark (c :: cs) then
    s.closeAll.map fun s =>
      (s.moveTo (cs.drop 2)).push (if c == '-' then .documentStart else .documentEnd)
  else
    match c with
    | '[' => s.openFlow .flowSequence cs
    | '{' => s.openFlow .flowMapping cs
    | ']' => s.closeFlow .flowSequenceEnd cs
    | '}' => s.closeFlow .flowMappingEnd cs
    | ',' => s.dropKey.map fun s => { (s.moveTo cs).push .comma with fresh := true }
    | '*' => do
      let (name, rest) ← anchorName? cs
      s.pushNode (.reference name) rest
    | '&' => do
      let (name, rest) ← anchorName? cs
      s.pushNode (.anchor name) rest
    | '!' => do
      let (t, rest) ← tag? s.inFlow (c :: cs)
      s.pushNode t rest
    | '\x27' => do
      let (text, rest) ← readSingle {} false cs
      s.pushNode (.scalar (String.ofList text) .quoted) rest
    | '"' => do
      let (text, rest) ← readDouble {} false cs
      s.pushNode (.scalar (String.ofList text) .quoted) rest
    | c =>
      if c == '-' && atGap cs then
        (s.pushEntry .blockSequence .entry cs).map fun s => { s with fresh := true }
      else if c == '?' && (s.inFlow || atGap cs) then
        (s.pushEntry .blockMapping .key cs).map fun s => { s with fresh := !s.inFlow }
      else if c == ':' && (s.inFlow || atGap cs) then s.pushValue cs
      else if !s.inFlow && (c == '|' || c == '>') then do
        let s ← s.dropKey
        let (text, rest) ← readBlock (c == '>') s.indents.head? cs
        let style := if c == '>' then .folded else .literal
        return { (s.moveTo rest).push (.scalar (String.ofList text) style) with fresh := true }
      else if startsPlain s.inFlow (c :: cs) then do
        let indent := s.indents.head?.elim 0 (· + 1)
        let (text, fresh, rest) ← readPlain s.inFlow indent {} s.column (c :: cs)
        let s ← s.pushNode (.scalar (String.ofList text) .plain) rest
        return { s with fresh }
      else none

/-- Cuts the rest of the text; `fuel` bounds the number of tokens. -/
def run : Nat → Scan → Option Scan
  | 0, _ => none
  | fuel + 1, s => do
    let s ← s.toToken.dropStaleKeys
    match s.rest with
    | [] => s.closeAll
    | c :: cs => run fuel (← (s.closeBlocks (s.column < ·)).token c cs)

end Scan

/-- The tokens of a text. -/
def Token.ofChars? (cs : List Char) : Option (List Token) :=
  (Scan.run (cs.length + 1) { rest := cs }).map fun s => s.tokens.reverse

end Yaml

end RecordQuery
