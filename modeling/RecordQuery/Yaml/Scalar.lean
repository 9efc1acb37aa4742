import RecordQuery.Text.Hexadecimal

/-!
# The text of scalars

Scalars are plain, quoted once or twice, or blocks of lines.  All but literal blocks may be broken
over lines: a gap with one line end reads as a blank, and of several line ends the first is dropped.
The functions here read a scalar off the front of a text and give its value and what follows.
-/

namespace RecordQuery

namespace Yaml

/-- Line ends.  The other ways to end a line are written as `\n` before a text is read. -/
def isBreak (c : Char) : Bool := c == '\n' || c == '\u2028' || c == '\u2029'

/-- Blanks inside a line. -/
def isInline (c : Char) : Bool := c == ' ' || c == '\t'

/-- Blanks and line ends. -/
def isGap (c : Char) : Bool := isInline c || isBreak c

/-- A blank, a line end or the end of the text comes next. -/
def atGap (cs : List Char) : Bool := cs.head?.all isGap

/-- A mark that begins or ends a document comes next: three dashes or dots on their own. -/
def atMark : List Char → Bool
  | a :: b :: c :: rest => a == b && b == c && (a == '-' || a == '.') && atGap rest
  | _ => false

/-! ### Gaps -/

/-- What stands between two words of a scalar. -/
structure Gap where
  /-- The blanks before the first line end. -/
  blanks : List Char := []
  breaks : List Char := []
  /-- An escaped line end stands in front of the gap. -/
  joined : Bool := false

namespace Gap

def isEmpty (g : Gap) : Bool := g.blanks.isEmpty && g.breaks.isEmpty

/-- The gap with one more character; blanks that begin a line are dropped. -/
def add (g : Gap) (c : Char) : Gap :=
  if isBreak c then { g with breaks := g.breaks ++ [c] }
  else if g.joined || !g.breaks.isEmpty then g
  else { g with blanks := g.blanks ++ [c] }

/-- What the gap reads as. -/
def text (g : Gap) : List Char :=
  if g.joined then g.breaks
  else
    match g.breaks with
    | [] => g.blanks
    | ['\n'] => [' ']
    | '\n' :: more => more
    | breaks => breaks

end Gap

/-! ### Quoted scalars -/

/-- Reads a single-quoted scalar after its opening quote; a quote inside it is written twice.
`fresh` says that a line begins here. -/
def readSingle (gap : Gap) (fresh : Bool) : List Char → Option (List Char × List Char)
  | [] => none
  | '\x27' :: '\x27' :: cs =>
    (readSingle {} false cs).map fun (s, rest) => (gap.text ++ '\x27' :: s, rest)
  | '\x27' :: cs => some (gap.text, cs)
  | c :: cs =>
    if isGap c then readSingle (gap.add c) (isBreak c) cs
    else if fresh && atMark (c :: cs) then none
    else (readSingle {} false cs).map fun (s, rest) => (gap.text ++ c :: s, rest)

/-- The character of an escape of one letter. -/
def escape? : Char → Option Char
  | '0' => some '\x00'
  | 'a' => some '\x07'
  | 'b' => some '\x08'
  | 't' => some '\t'
  | '\t' => some '\t'
  | 'n' => some '\n'
  | 'v' => some '\x0b'
  | 'f' => some '\x0c'
  | 'r' => some '\r'
  | 'e' => some '\x1b'
  | ' ' => some ' '
  | '"' => some '"'
  | '/' => some '/'
  | '\\' => some '\\'
  | 'N' => some '\u0085'
  | '_' => some '\u00a0'
  | 'L' => some '\u2028'
  | 'P' => some '\u2029'
  | _ => none

/-- The character of hexadecimal digits. -/
def hexChar? (digits : List Char) : Option Char := do
  let n ← Text.hexNumber? digits
  if n < 0xD800 || (0xDFFF < n && n < 0x110000) then some (Char.ofNat n) else none

/-- Reads a double-quoted scalar after its opening quote.  `fresh` says that a line begins here. -/
def readDouble (gap : Gap) (fresh : Bool) : List Char → Option (List Char × List Char)
  | [] => none
  | '"' :: cs => some (gap.text, cs)
  | '\\' :: 'x' :: a :: b :: cs => do
    let e ← hexChar? [a, b]
    let (s, rest) ← readDouble {} false cs
    return (gap.text ++ e :: s, rest)
  | '\\' :: 'u' :: a :: b :: c :: d :: cs => do
    let e ← hexChar? [a, b, c, d]
    let (s, rest) ← readDouble {} false cs
    return (gap.text ++ e :: s, rest)
  | '\\' :: 'U' :: a :: b :: c :: d :: e :: f :: g :: h :: cs => do
    let e ← hexChar? [a, b, c, d, e, f, g, h]
    let (s, rest) ← readDouble {} false cs
    return (gap.text ++ e :: s, rest)
  | '\\' :: c :: cs =>
    if isBreak c then
      (readDouble { joined := true } true cs).map fun (s, rest) => (gap.text ++ s, rest)
    else do
      let e ← escape? c
      let (s, rest) ← readDouble {} false cs
      return (gap.text ++ e :: s, rest)
  | c :: cs =>
    if isGap c then readDouble (gap.add c) (isBreak c) cs
    else if fresh && atMark (c :: cs) then none
    else (readDouble {} false cs).map fun (s, rest) => (gap.text ++ c :: s, rest)

/-! ### Plain scalars -/

/-- The characters that have a meaning of their own at the beginning of a scalar. -/
def isIndicator (c : Char) : Bool :=
  ['-', '?', ':', ',', '[', ']', '{', '}', '#', '&', '*', '!', '|', '>', '\x27', '"', '%', '@',
    '\x60'].contains c

/-- The brackets and the comma of flow collections. -/
def isFlowIndicator (c : Char) : Bool := [',', '[', ']', '{', '}'].contains c

/-- A plain scalar may begin here. -/
def startsPlain (flow : Bool) : List Char → Bool
  | [] => false
  | c :: cs =>
    if c == '-' then !atGap cs
    else if c == '?' || c == ':' then !flow && !atGap cs
    else !isGap c && !isIndicator c

/-- A plain scalar ends before this character. -/
def endsPlain (flow : Bool) : List Char → Bool
  | [] => true
  | c :: cs => (c == ':' && atGap cs) || (flow && isFlowIndicator c)

/-- A plain scalar does not go on behind a gap: before a comment or a mark, and before a line that
is not indented far enough. -/
def endsAfterGap (flow : Bool) (indent column : Nat) (cs : List Char) : Bool :=
  cs.head? == some '#' || (column == 0 && atMark cs) || (!flow && column < indent)

/-- Reads a plain scalar whose lines are indented by `indent` at least.  The result has its text,
whether a line end follows it, and the rest from the next character that is no blank. -/
def readPlain (flow : Bool) (indent : Nat) (gap : Gap) (column : Nat) :
    List Char → Option (List Char × Bool × List Char)
  | [] => some ([], !gap.breaks.isEmpty, [])
  | c :: cs =>
    if isBreak c then readPlain flow indent (gap.add c) 0 cs
    else if isInline c then
      if c == '\t' && !gap.breaks.isEmpty && column < indent then none
      else readPlain flow indent (gap.add c) (column + 1) cs
    else if (!gap.isEmpty && endsAfterGap flow indent column (c :: cs))
        || endsPlain flow (c :: cs) then
      some ([], !gap.breaks.isEmpty, c :: cs)
    else if flow && c == ':' && cs.head?.any (fun d => d == '?' || isFlowIndicator d) then none
    else
      (readPlain flow indent {} (column + 1) cs).map fun (s, after) => (gap.text ++ c :: s, after)

/-! ### Block scalars -/

/-- What becomes of the line ends at the end of a block scalar. -/
inductive Chomping where
  /-- None stays. -/
  | strip
  /-- The first stays. -/
  | clip
  /-- All stay. -/
  | keep
deriving DecidableEq

/-- The chomping of an indicator. -/
def Chomping.ofChar? : Char → Option Chomping
  | '-' => some .strip
  | '+' => some .keep
  | _ => none

/-- Reads the indicators behind the bar of a block scalar, in any order: its chomping, and how far
it is indented if this is given. -/
def readIndicators (cs : List Char) : Option (Chomping × Option Nat × List Char) :=
  let (chomping, cs) := takeChomping cs
  let (indent, cs) := match cs with
    | d :: r => if d.isDigit then (some (d.toNat - '0'.toNat), r) else (none, cs)
    | [] => (none, cs)
  let (chomping, cs) :=
    if chomping.isNone && indent.isSome then takeChomping cs else (chomping, cs)
  if indent == some 0 then none else some (chomping.getD .clip, indent, cs)
where
  takeChomping : List Char → Option Chomping × List Char
    | c :: r => match Chomping.ofChar? c with
      | some chomping => (some chomping, r)
      | none => (none, c :: r)
    | [] => (none, [])

/-- What follows the rest of a line with nothing but blanks and a comment. -/
def skipLine? (cs : List Char) : Option (List Char) :=
  match cs.dropWhile isInline with
  | '#' :: r => some ((r.dropWhile fun c => !isBreak c).drop 1)
  | [] => some []
  | c :: r => if isBreak c then some r else none

/-- The lines of a text, each with its line end. -/
def linesOf : List Char → List (List Char × List Char)
  | [] => []
  | c :: cs =>
    if isBreak c then ([], [c]) :: linesOf cs
    else
      match linesOf cs with
      | [] => [([c], [])]
      | (line, ending) :: lines => (c :: line, ending) :: lines

/-- How far a block is indented: as its first line that is not empty, or as an empty line before it
that is longer, and by `least` at least. -/
def blockIndent? (least : Nat) : List (List Char × List Char) → Option Nat
  | [] => some least
  | (line, ending) :: lines =>
    let width := max least (line.takeWhile (· == ' ')).length
    match line.dropWhile (· == ' ') with
    | [] => if ending.isEmpty then some width else blockIndent? width lines
    | c :: _ => if c == '\t' then none else some width

/-- The part of a block that has been read. -/
structure Block where
  text : List Char := []
  /-- The end of the last line. -/
  ending : List Char := []
  /-- The ends of the empty lines behind it. -/
  empties : List Char := []
  /-- The last line begins with a blank. -/
  spaced : Bool := false

namespace Block

/-- The block with one more line.  When it is folded, a line end between lines that begin without a
blank is treated as in a gap. -/
def add (folded : Bool) (b : Block) (line ending : List Char) : Block :=
  let spaced := line.head?.any isInline
  let between :=
    if folded && b.ending == ['\n'] && !b.spaced && !spaced then
      if b.empties.isEmpty then [' '] else b.empties
    else b.ending ++ b.empties
  { text := b.text ++ between ++ line, ending, empties := [], spaced }

/-- The value of the block. -/
def value (b : Block) : Chomping → List Char
  | .strip => b.text
  | .clip => b.text ++ b.ending
  | .keep => b.text ++ b.ending ++ b.empties

/-- Reads the lines of a block, up to one that is indented less. -/
def read (folded : Bool) (indent : Nat) (b : Block) :
    List (List Char × List Char) → Option (Block × List (List Char × List Char))
  | [] => some (b, [])
  | (line, ending) :: lines =>
    let width := min indent (line.takeWhile (· == ' ')).length
    match line.drop width with
    | [] =>
      if ending.isEmpty then some (b, (line, ending) :: lines)
      else read folded indent { b with empties := b.empties ++ ending } lines
    | c :: cs =>
      if width == indent then read folded indent (b.add folded (c :: cs) ending) lines
      else if c == '\t' then none
      else some (b, (line, ending) :: lines)

end Block

/-- Reads a block scalar after its bar.  The block around it is indented by `outer`, if there is
one. -/
def readBlock (folded : Bool) (outer : Option Nat) (cs : List Char) :
    Option (List Char × List Char) := do
  let (chomping, increment, cs) ← readIndicators cs
  let lines := linesOf (← skipLine? cs)
  let indent ← match increment with
    | some n => some (outer.getD 0 + n)
    | none => blockIndent? (max 1 (outer.elim 0 (· + 1))) lines
  let (block, rest) ← Block.read folded indent {} lines
  return (block.value chomping, rest.flatMap fun (line, ending) => line ++ ending)

end Yaml

end RecordQuery
