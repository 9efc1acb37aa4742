import RecordQuery.Json.Basic
import RecordQuery.Double.Text

/-!
# JSON text

`Json.render` writes a value without spaces.  Strings escape the quote, the backslash and the
control characters below U+0020, and nothing else.  `Json.text?` is the text form under which
values are compared: strings as they are, numbers and booleans as rendered.
-/

namespace RecordQuery

/-- The digits of a number in a JSON text. -/
def Numeral.text : Numeral → String
  | .integer n _ => toString n
  | .float x => x.jsonText

namespace Json

/-- How a character is written inside a JSON string. -/
def escape (c : Char) : List Char :=
  match c with
  | '"' => ['\\', '"']
  | '\\' => ['\\', '\\']
  | '\n' => ['\\', 'n']
  | '\r' => ['\\', 'r']
  | '\t' => ['\\', 't']
  | '\x08' => ['\\', 'b']
  | '\x0c' => ['\\', 'f']
  | c =>
    if c.toNat < 0x20 then
      ['\\', 'u', '0', '0', Nat.digitChar (c.toNat / 16), Nat.digitChar (c.toNat % 16)]
    else [c]

/-- A JSON string with its quotes. -/
def renderString (s : String) : List Char :=
  '"' :: (s.toList.flatMap escape ++ ['"'])

mutual

/-- The characters of a value's JSON text. -/
def renderChars : Json → List Char
  | .null => ['n', 'u', 'l', 'l']
  | .bool true => ['t', 'r', 'u', 'e']
  | .bool false => ['f', 'a', 'l', 's', 'e']
  | .number n => n.text.toList
  | .string s => renderString s
  | .array [] => ['[', ']']
  | .array (x :: xs) => '[' :: (renderChars x ++ renderItems xs)
  | .object [] => ['{', '}']
  | .object ((k, x) :: ms) => '{' :: (renderString k ++ ':' :: (renderChars x ++ renderMembers ms))

/-- The rest of an array from the next comma on. -/
def renderItems : List Json → List Char
  | [] => [']']
  | x :: xs => ',' :: (renderChars x ++ renderItems xs)

/-- The rest of an object from the next comma on. -/
def renderMembers : List (String × Json) → List Char
  | [] => ['}']
  | (k, x) :: ms => ',' :: (renderString k ++ ':' :: (renderChars x ++ renderMembers ms))

end

/-- The JSON text of a value. -/
def render (j : Json) : String := String.ofList j.renderChars

/-- The text form of a value.  Null, arrays and objects have none. -/
def text? : Json → Option String
  | .string s => some s
  | .number n => some n.text
  | .bool b => some (if b then "true" else "false")
  | .null | .array _ | .object _ => none

end Json

end RecordQuery
