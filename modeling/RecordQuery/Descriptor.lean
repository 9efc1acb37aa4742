import RecordQuery.Json.Basic
import RecordQuery.Text.Ascii
import RecordQuery.Text.Blank

/-!
# Descriptors

What a client asks for, not yet checked against any schema: filters over dotted paths with operators
and operands as they were sent, sort keys, and a page.
-/

namespace RecordQuery

/-- A direction of sorting. -/
inductive Direction where
  | ascending
  | descending
deriving DecidableEq

namespace Direction

/-- How a direction is written. -/
def text : Direction → String
  | .ascending => "asc"
  | .descending => "desc"

/-- Reads a direction in any case, with blanks around it. -/
def ofText? (text : String) : Option Direction :=
  let word := String.ofList (Text.trim text.toList)
  if Text.agree word "asc" then some .ascending
  else if Text.agree word "desc" then some .descending
  else none

/-- The order in a direction. -/
def apply : Direction → Ordering → Ordering
  | .ascending, o => o
  | .descending, o => o.swap

end Direction

/-- A filter on one field. -/
structure FilterLeaf where
  /-- A dotted path, the name of a filter of its own, or a JSON path. -/
  field : String
  operator : String := "=="
  values : List Json := []
  /-- The field is a JSON path. -/
  json : Bool := false
  /-- The operands are terms of a full-text search. -/
  vector : Bool := false

/-- A filter: a leaf, or a group that holds when one of its children does. -/
inductive FilterDescriptor where
  | leaf (leaf : FilterLeaf)
  | group (children : List FilterDescriptor)

/-- A sort key. -/
structure SortDescriptor where
  /-- A dotted path, the name of a sort key of its own, or a JSON path. -/
  field : String
  direction : Direction := .ascending
  /-- The field is a JSON path. -/
  json : Bool := false
deriving DecidableEq

/-- Filters, sort keys and a page. -/
structure Query where
  page : Option Int64 := none
  pageSize : Option Int64 := none
  sorts : List SortDescriptor := []
  filters : List FilterDescriptor := []

/-- Equality of leaves, operands by structure. -/
def FilterLeaf.same (a b : FilterLeaf) : Bool :=
  a.field == b.field && a.operator == b.operator && Json.sameItems a.values b.values &&
    a.json == b.json && a.vector == b.vector

namespace FilterDescriptor

mutual

/-- Equality of filters. -/
def same : FilterDescriptor → FilterDescriptor → Bool
  | .leaf a, .leaf b => a.same b
  | .group as, .group bs => sameAll as bs
  | _, _ => false

/-- Equality of lists of filters, place by place. -/
def sameAll : List FilterDescriptor → List FilterDescriptor → Bool
  | [], [] => true
  | a :: as, b :: bs => same a b && sameAll as bs
  | _, _ => false

end

end FilterDescriptor

end RecordQuery
