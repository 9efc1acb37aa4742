import RecordQuery.Descriptor
import RecordQuery.JsonPath
import RecordQuery.Registry

/-!
# Sort chains

A sort chain is what sort descriptors compile to: keys, each with a direction.  The first key that
tells two records apart decides, and records that no key tells apart keep their order.

Keys are ordered as values are.  Where values have no order the keys do: NaN comes after all other
numbers, and values of different types come in a fixed order of types.
-/

namespace RecordQuery

/-- What a key of a chain reads. -/
inductive SortKey where
  | field (access : Access)
  | json (path : JsonPath)
  | custom (hook : SortHook)

/-- A key and its direction. -/
structure SortTerm where
  key : SortKey
  direction : Direction

/-- The terms of a chain, the deciding one first. -/
abbrev SortChain := List SortTerm

/-! ### The order of keys -/

namespace Number

/-- The number is a double that is no number. -/
def isNaN : Number → Bool
  | .float x => x.isNaN
  | _ => false

/-- The order of numbers as keys: NaN after all others. -/
def keyOrder (a b : Number) : Ordering :=
  match a.isNaN, b.isNaN with
  | true, true => .eq
  | true, false => .gt
  | false, true => .lt
  | false, false => (a.order? b).getD .eq

end Number

namespace Value

/-- The place of a value's type among all types. -/
def typeRank : Value → Nat
  | .scalar (.bool _) => 0
  | .scalar (.number _) => 1
  | .scalar (.string _) => 2
  | .scalar (.uuid _) => 3
  | .scalar (.dateTime _) => 4
  | .scalar (.date _) => 5
  | .scalar (.time _) => 6
  | .scalar (.duration _) => 7
  | .scalar (.enumeration _) => 8
  | .json _ | .record _ | .list _ => 9
  | .scalar .null => 10

/-- The order of values as keys. -/
def keyOrder (a b : Value) : Ordering :=
  match a, b with
  | .scalar (.number x), .scalar (.number y) => x.keyOrder y
  | a, b => (a.order? b).getD (compare a.typeRank b.typeRank)

end Value

namespace SortKey

/-- The value of a key for a record. -/
def read (key : SortKey) (r : Record) : Value :=
  match key with
  | .field access => access.read r
  | .json path => path.value r
  | .custom hook => .scalar (hook.key r)

/-- Equality of keys, hooks by registration. -/
def same : SortKey → SortKey → Bool
  | .field a, .field b => a == b
  | .json a, .json b => a == b
  | .custom a, .custom b => a.same b
  | _, _ => false

end SortKey

namespace SortTerm

/-- The order of two records by one term. -/
def order (term : SortTerm) (a b : Record) : Ordering :=
  term.direction.apply ((term.key.read a).keyOrder (term.key.read b))

/-- Equality of terms. -/
def same (a b : SortTerm) : Bool := a.key.same b.key && a.direction == b.direction

end SortTerm

namespace SortChain

/-- The order of two records: the first term that tells them apart decides. -/
def order (chain : SortChain) (a b : Record) : Ordering :=
  match chain with
  | [] => .eq
  | term :: rest => (term.order a b).then (order rest a b)

/-- Equality of chains, term by term. -/
def same : SortChain → SortChain → Bool
  | [], [] => true
  | a :: as, b :: bs => a.same b && same as bs
  | _, _ => false

/-! ### Sorting -/

/-- Puts a record into a list sorted from the last to the first: after it come all those, from the
front on, that it comes before. -/
def place (before : Record → Record → Bool) (r : Record) : List Record → List Record
  | [] => [r]
  | s :: rest => if before r s then s :: place before r rest else r :: s :: rest

/-- Sorts records; those that the chain ties keep their order. -/
def sort (chain : SortChain) (records : List Record) : List Record :=
  (records.foldl (fun sorted r => place (fun a b => chain.order a b == .lt) r sorted) []).reverse

end SortChain

end RecordQuery
