import RecordQuery.QueryError
import RecordQuery.Text.Ascii
import RecordQuery.Text.Blank

/-!
# Operators

An operator is one of twelve base comparisons with at most one modifier: a `*` behind it to ignore
case, or `len` in front of it to compare the number of characters or elements.  `Operator.ofText?`
reads an operator and `Operator.text` writes it.
-/

namespace RecordQuery

/-- A base comparison. -/
inductive Comparison where
  | eq
  | ne
  | ge
  | le
  | gt
  | lt
  | contains
  | startsWith
  | endsWith
  | notContains
  | notStartsWith
  | notEndsWith
deriving DecidableEq

namespace Comparison

/-- All comparisons. -/
def all : List Comparison :=
  [.eq, .ne, .ge, .le, .gt, .lt, .contains, .startsWith, .endsWith, .notContains, .notStartsWith,
    .notEndsWith]

/-- How a comparison is written. -/
def text : Comparison → String
  | .eq => "=="
  | .ne => "!="
  | .ge => ">="
  | .le => "<="
  | .gt => ">"
  | .lt => "<"
  | .contains => "@="
  | .startsWith => "_="
  | .endsWith => "_-="
  | .notContains => "!@="
  | .notStartsWith => "!_="
  | .notEndsWith => "!_-="

/-- The comparison that a text writes. -/
def ofText? (token : String) : Option Comparison := all.find? fun c => c.text == token

/-- The comparisons by order: equal, less, greater and their unions. -/
def isRelation : Comparison → Bool
  | .eq | .ne | .ge | .le | .gt | .lt => true
  | _ => false

/-- The comparisons that need an order: greater and less, with or without equality. -/
def isOrdering : Comparison → Bool
  | .ge | .le | .gt | .lt => true
  | _ => false

/-- The comparisons by text: contains, starts and ends, affirmed or denied. -/
def isText (c : Comparison) : Bool := !c.isRelation

/-- Whether the order of two values satisfies the comparison; a text comparison never does. -/
def holds : Comparison → Ordering → Bool
  | .eq, o => o == .eq
  | .ne, o => o != .eq
  | .gt, o => o == .gt
  | .ge, o => o != .lt
  | .lt, o => o == .lt
  | .le, o => o != .gt
  | _, _ => false

end Comparison

/-- How the comparisons with several operands are joined. -/
inductive Junction where
  | and
  | or
deriving DecidableEq

/-- A comparison with its modifiers. -/
structure Operator where
  base : Comparison
  ignoreCase : Bool
  length : Bool
deriving DecidableEq

namespace Operator

/-- The operator without modifiers. -/
def plain (base : Comparison) : Operator := ⟨base, false, false⟩

/-- Not equal holds when it holds for all operands, every other operator when it holds for one. -/
def junction (o : Operator) : Junction := if o.base == .ne then .and else .or

/-- How an operator is written. -/
def text (o : Operator) : String :=
  (if o.length then "len" else "") ++ o.base.text ++ (if o.ignoreCase then "*" else "")

/-- What follows `len`, in any case, at the front of a text. -/
def dropLength? : List Char → Option (List Char)
  | a :: b :: c :: rest =>
    if Text.foldAscii [a, b, c] == ['l', 'e', 'n'] then some rest else none
  | _ => none

/-- A text that asks for a length, apart from blanks around it. -/
def asksLength (token : String) : Bool := (dropLength? (Text.trim token.toList)).isSome

/-- What precedes a `*` at the end of a text. -/
def dropStar? (cs : List Char) : Option (List Char) :=
  if cs.getLast? == some '*' then some cs.dropLast else none

/-- Which modifiers a comparison may carry: a length only without `*` and on relations, a `*` only
where no order is asked for. -/
def isAllowed (o : Operator) : Bool :=
  !(o.length && (o.ignoreCase || o.base.isText)) && !(o.ignoreCase && o.base.isOrdering)

/-- Reads an operator; blanks around it do not count. -/
def ofText? (token : String) : Option Operator :=
  let cs := Text.trim token.toList
  let (length, cs) := match dropLength? cs with
    | some rest => (true, rest)
    | none => (false, cs)
  let (ignoreCase, cs) := match dropStar? cs with
    | some rest => (true, rest)
    | none => (false, cs)
  ((Comparison.ofText? (String.ofList cs)).map fun base => ⟨base, ignoreCase, length⟩).filter
    isAllowed

/-- Reads an operator, or reports the text as it stands. -/
def ofText (token : String) : Except QueryError Operator :=
  match ofText? token with
  | some operator => .ok operator
  | none => .error (.invalidOperator token)

end Operator

end RecordQuery
