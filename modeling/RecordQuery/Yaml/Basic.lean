import RecordQuery.Text.Hexadecimal

/-!
# YAML nodes

The nodes of a YAML document.  A scalar is a text; whether it can also be a number or a truth value
depends on how it is written.
-/

namespace RecordQuery

namespace Yaml

/-- How a scalar is written. -/
inductive Style where
  | plain
  | quoted
  | literal
  | folded
deriving DecidableEq

end Yaml

/-- A YAML node. -/
inductive Yaml where
  | scalar (text : String) (style : Yaml.Style) (tag : Option String)
  | sequence (items : List Yaml)
  | mapping (entries : List (Yaml × Yaml))
  /-- A reference to a node from inside this node. -/
  | recurrence

namespace Yaml

/-- The node of nothing. -/
def blank : Yaml := .scalar "" .plain none

/-- There is nothing in the node. -/
def isBlank : Yaml → Bool
  | .scalar text style _ => text.isEmpty && style == .plain
  | _ => false

/-- The text of a scalar. -/
def text? : Yaml → Option String
  | .scalar text _ _ => some text
  | _ => none

/-- The text of a scalar that can be a value of a type: a plain scalar, or a literal one with the
tag of the type. -/
def typedText? (tag : String) : Yaml → Option String
  | .scalar text .plain _ => some text
  | .scalar text .literal (some own) => if own == tag then some text else none
  | _ => none

/-- The truth value of a scalar. -/
def bool? (node : Yaml) : Option Bool := do
  let text ← node.typedText? "tag:yaml.org,2002:bool"
  if ["true", "True", "TRUE"].contains text then some true
  else if ["false", "False", "FALSE"].contains text then some false
  else none

/-- Digits of a base, at least one. -/
def digits? (base : Nat) (cs : List Char) : Option Nat :=
  if cs.isEmpty then none
  else do
    let ds ← cs.mapM Text.hexDigit?
    if ds.all (· < base) then some (Text.ofDigitsIn base ds) else none

/-- The natural number of a scalar: decimal without leading zeros, hexadecimal, octal or binary,
with or without a plus. -/
def natural? (node : Yaml) : Option Nat := do
  let text ← node.typedText? "tag:yaml.org,2002:int"
  let cs := match text.toList with
    | '+' :: r => r
    | r => r
  match cs with
  | ['0'] => some 0
  | '0' :: 'x' :: r => digits? 16 r
  | '0' :: 'o' :: r => digits? 8 r
  | '0' :: 'b' :: r => digits? 2 r
  | '0' :: _ => none
  | r => digits? 10 r

end Yaml

end RecordQuery
