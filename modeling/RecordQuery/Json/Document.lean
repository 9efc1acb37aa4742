import RecordQuery.Json.Basic
import RecordQuery.Double.Reader
import RecordQuery.Text.Hexadecimal

/-!
# JSON documents

A `Document` is a JSON text as it is written: number literals, members in the order of the text,
keys as often as they occur.  `Document.read` gives the document of any text.  Where the text stops
being JSON the document holds the leaf `broken` and ends, so that what stands before that place can
still be looked at in order.  `Document.value?` gives the value that a document writes: it fails on
`broken`, on a string with a lone surrogate, on a number too large for a double, and on containers
nested deeper than the given limit.
-/

namespace RecordQuery

/-- A number literal: sign, whole digits, fraction digits and power of ten. -/
structure NumberLiteral where
  negative : Bool
  whole : List Char
  fraction : List Char
  exponent : Option (Bool × List Char)

/-- A JSON text as it is written.  A string is absent when it holds a lone surrogate. -/
inductive Document where
  | null
  | bool (b : Bool)
  | number (literal : NumberLiteral)
  | string (s : Option String)
  | array (items : List Document)
  | object (members : List (Option String × Document))
  | broken

/-- The nesting limit of documents from outside. -/
def nestingLimit : Nat := 127

/-! ### Numbers -/

namespace NumberLiteral

/-- A significand that stays below `2 ^ 64`: digits are taken in while they fit, and the first one
that does not ends it.  Gives the significand and the digits left over. -/
def gather (significand : Nat) : List Char → Nat × List Char
  | [] => (significand, [])
  | c :: cs =>
    let next := 10 * significand + (c.toNat - '0'.toNat)
    if next < UInt64.size then gather next cs else (significand, c :: cs)

/-- Scales by a power of ten, dividing or multiplying once by at most `10 ^ 308`, and before that
by `10 ^ 308` as often as needed.  A result beyond the largest double is none. -/
def scale : Nat → Double → Int → Option Double
  | 0, _, _ => none
  | fuel + 1, x, e =>
    if e.natAbs ≤ 308 then
      let power := Double.ofRatio false (Nat.pow 10 e.natAbs) 1
      if 0 ≤ e then
        let y := x.mul power
        if y.isInfinite then none else some y
      else some (x.div power)
    else if x.magnitude == 0 then some x
    else if 0 ≤ e then none
    else scale fuel (x.div (Double.ofRatio false (Nat.pow 10 308) 1)) (e + 308)

/-- The power of ten that the literal shows. -/
def shownExponent (l : NumberLiteral) : Int :=
  match l.exponent with
  | none => 0
  | some (negative, digits) => if negative then -(ofDigits digits : Int) else ofDigits digits

/-- The double that the literal writes. -/
def double? (l : NumberLiteral) : Option Double :=
  let (s, dropped) := gather 0 l.whole
  let (s, cut) := gather s l.fraction
  let e : Int := l.shownExponent + dropped.length - (l.fraction.length - cut.length : Nat)
  (scale 4 (Double.ofRatio false s 1) (max e (-2000))).map fun x =>
    if l.negative then x.negate else x

/-- The number that the literal writes.  Whole digits that fit 64 bits make a whole number, apart
from negative zero; all other literals are doubles. -/
def numeral? (l : NumberLiteral) : Option Numeral :=
  let n : Int := if l.negative then -(ofDigits l.whole : Int) else ofDigits l.whole
  if h : Int64.minValue.toInt ≤ n ∧ n < UInt64.size then
    if l.fraction.isEmpty && l.exponent.isNone && (!l.negative || n != 0) then
      some (.integer n h)
    else l.double?.map .float
  else l.double?.map .float

/-- Reads the power of ten at the front of a text.  A mark without digits is no JSON. -/
def readExponent : List Char → Option (Option (Bool × List Char) × List Char)
  | c :: cs =>
    if c == 'e' || c == 'E' then
      let (negative, rest) := takeSign cs
      let (digits, rest) := takeDigits rest
      if digits.isEmpty then none else some (some (negative, digits), rest)
    else some (none, c :: cs)
  | [] => some (none, [])

/-- Reads the fraction at the front of a text.  A point without digits is no JSON. -/
def readFraction : List Char → Option (List Char × List Char)
  | '.' :: cs =>
    let (digits, rest) := takeDigits cs
    if digits.isEmpty then none else some (digits, rest)
  | cs => some ([], cs)

/-- Reads the whole digits at the front of a text: a single zero, or digits that begin with
another. -/
def readWhole (cs : List Char) : Option (List Char × List Char) :=
  match takeDigits cs with
  | ([], _) => none
  | (['0'], rest) => some (['0'], rest)
  | ('0' :: _, _) => none
  | (digits, rest) => some (digits, rest)

/-- Reads the number literal at the front of a text. -/
def read (cs : List Char) : Option (NumberLiteral × List Char) := do
  let (negative, cs) := match cs with
    | '-' :: r => (true, r)
    | r => (false, r)
  let (whole, cs) ← readWhole cs
  let (fraction, cs) ← readFraction cs
  let (exponent, cs) ← readExponent cs
  return (⟨negative, whole, fraction, exponent⟩, cs)

end NumberLiteral

/-! ### Strings -/

namespace Document

/-- The character of an escape of one letter. -/
def shortEscape? : Char → Option Char
  | '"' => some '"'
  | '\\' => some '\\'
  | '/' => some '/'
  | 'b' => some '\x08'
  | 'f' => some '\x0c'
  | 'n' => some '\n'
  | 'r' => some '\r'
  | 't' => some '\t'
  | _ => none

/-- The units of a string up to its closing quote, and what follows.  A unit is a code point, a
surrogate among them when an escape writes one. -/
def readUnits : List Char → Option (List Nat × List Char)
  | [] => none
  | '"' :: cs => some ([], cs)
  | '\\' :: 'u' :: a :: b :: c :: d :: cs =>
    match Text.hexNumber? [a, b, c, d] with
    | none => none
    | some n => (readUnits cs).map fun (us, rest) => (n :: us, rest)
  | '\\' :: c :: cs =>
    match shortEscape? c with
    | none => none
    | some e => (readUnits cs).map fun (us, rest) => (e.toNat :: us, rest)
  | c :: cs =>
    if c.toNat < 0x20 || c == '\\' then none
    else (readUnits cs).map fun (us, rest) => (c.toNat :: us, rest)

/-- The characters of units: a high and a low surrogate make one character together, and any other
surrogate makes none. -/
def charsOfUnits : List Nat → Option (List Char)
  | [] => some []
  | [n] => if 0xD800 ≤ n && n ≤ 0xDFFF then none else some [Char.ofNat n]
  | n :: m :: us =>
    if 0xD800 ≤ n && n ≤ 0xDBFF then
      if 0xDC00 ≤ m && m ≤ 0xDFFF then
        (charsOfUnits us).map (Char.ofNat ((n - 0xD800) * 0x400 + (m - 0xDC00) + 0x10000) :: ·)
      else none
    else if 0xDC00 ≤ n && n ≤ 0xDFFF then none
    else (charsOfUnits (m :: us)).map (Char.ofNat n :: ·)

/-- Reads a string after its opening quote. -/
def readString (cs : List Char) : Option (Option String × List Char) :=
  (readUnits cs).map fun (us, rest) => ((charsOfUnits us).map String.ofList, rest)

/-! ### Documents -/

/-- The characters that may stand between the tokens of a document. -/
def isSpace (c : Char) : Bool := c == ' ' || c == '\n' || c == '\r' || c == '\t'

/-- What follows the spaces at the front of a text. -/
def skipSpace (cs : List Char) : List Char := cs.dropWhile isSpace

/-- What follows a given beginning of a text. -/
def dropWord? : List Char → List Char → Option (List Char)
  | [], cs => some cs
  | _ :: _, [] => none
  | w :: ws, c :: cs => if w == c then dropWord? ws cs else none

/-- A scalar or a broken document at the front of a text. -/
def readScalar (cs : List Char) : Document × Option (List Char) :=
  match cs with
  | 'n' :: r =>
    match dropWord? ['u', 'l', 'l'] r with
    | some rest => (.null, some rest)
    | none => (.broken, none)
  | 't' :: r =>
    match dropWord? ['r', 'u', 'e'] r with
    | some rest => (.bool true, some rest)
    | none => (.broken, none)
  | 'f' :: r =>
    match dropWord? ['a', 'l', 's', 'e'] r with
    | some rest => (.bool false, some rest)
    | none => (.broken, none)
  | '"' :: r =>
    match readString r with
    | some (s, rest) => (.string s, some rest)
    | none => (.broken, none)
  | cs =>
    match NumberLiteral.read cs with
    | some (l, rest) => (.number l, some rest)
    | none => (.broken, none)

/-- Reads a key and the colon behind it. -/
def readKey (cs : List Char) : Option (Option String × List Char) :=
  match skipSpace cs with
  | '"' :: r =>
    match readString r with
    | some (key, rest) =>
      match skipSpace rest with
      | ':' :: rest => some (key, rest)
      | _ => none
    | none => none
  | _ => none

mutual

/-- The document at the front of a text, and what follows it unless the document is broken.  The
first argument bounds the work; two steps for each character suffice. -/
def readFrom : Nat → List Char → Document × Option (List Char)
  | 0, _ => (.broken, none)
  | fuel + 1, cs =>
    match skipSpace cs with
    | '[' :: r =>
      match skipSpace r with
      | ']' :: rest => (.array [], some rest)
      | r =>
        let (items, rest) := readItems fuel r
        (.array items, rest)
    | '{' :: r =>
      match skipSpace r with
      | '}' :: rest => (.object [], some rest)
      | r =>
        let (members, rest) := readMembers fuel r
        (.object members, rest)
    | cs => readScalar cs

/-- The items of an array up to its closing bracket. -/
def readItems : Nat → List Char → List Document × Option (List Char)
  | 0, _ => ([.broken], none)
  | fuel + 1, cs =>
    match readFrom fuel cs with
    | (d, none) => ([d], none)
    | (d, some r) =>
      match skipSpace r with
      | ',' :: r =>
        let (ds, rest) := readItems fuel r
        (d :: ds, rest)
      | ']' :: rest => ([d], some rest)
      | _ => ([d, .broken], none)

/-- The members of an object up to its closing brace. -/
def readMembers : Nat → List Char → List (Option String × Document) × Option (List Char)
  | 0, _ => ([(none, .broken)], none)
  | fuel + 1, cs =>
    match readKey cs with
    | none => ([(none, .broken)], none)
    | some (key, r) =>
      match readFrom fuel r with
      | (d, none) => ([(key, d)], none)
      | (d, some r) =>
        match skipSpace r with
        | ',' :: r =>
          let (ms, rest) := readMembers fuel r
          ((key, d) :: ms, rest)
        | '}' :: rest => ([(key, d)], some rest)
        | _ => ([(key, d), (none, .broken)], none)

end

/-- The document of a text, and whether the text ends with it. -/
def read (cs : List Char) : Document × Bool :=
  match readFrom (2 * cs.length + 2) cs with
  | (d, none) => (d, false)
  | (d, some rest) => (d, (skipSpace rest).isEmpty)

/-! ### Values -/

mutual

/-- The document is JSON to its end, whatever its strings and numbers are. -/
def isWhole : Document → Bool
  | .broken => false
  | .array items => itemsWhole items
  | .object members => membersWhole members
  | _ => true

/-- All items are JSON to their end. -/
def itemsWhole : List Document → Bool
  | [] => true
  | d :: ds => isWhole d && itemsWhole ds

/-- All members are JSON to their end. -/
def membersWhole : List (Option String × Document) → Bool
  | [] => true
  | (_, d) :: ms => isWhole d && membersWhole ms

end

mutual

/-- The value of a document with at most `levels` containers inside each other. -/
def value? (levels : Nat) : Document → Option Json
  | .null => some .null
  | .bool b => some (.bool b)
  | .number l => l.numeral?.map .number
  | .string s => s.map .string
  | .array items =>
    if levels = 0 then none else (itemValues? (levels - 1) items).map .array
  | .object members =>
    if levels = 0 then none else (memberValues? (levels - 1) [] members).map .object
  | .broken => none

/-- The values of items. -/
def itemValues? (levels : Nat) : List Document → Option (List Json)
  | [] => some []
  | d :: ds =>
    match value? levels d with
    | none => none
    | some j => (itemValues? levels ds).map (j :: ·)

/-- The values of members; of two members under one key the later one counts. -/
def memberValues? (levels : Nat) (acc : List (String × Json)) :
    List (Option String × Document) → Option (List (String × Json))
  | [] => some acc
  | (none, _) :: _ => none
  | (some key, d) :: ms =>
    match value? levels d with
    | none => none
    | some j => memberValues? levels (insertMember key j acc) ms

end

end Document

/-- The value that a text writes, with at most `levels` containers inside each other. -/
def Json.ofText? (levels : Nat) (text : String) : Option Json :=
  match Document.read text.toList with
  | (d, true) => d.value? levels
  | (_, false) => none

end RecordQuery
