import RecordQuery.Json.Basic
import RecordQuery.Kind
import RecordQuery.Scalar

/-!
# Records and values

`Stored` is what a field of a record holds, `Value` is what reading the field gives: options and
boxes disappear, and what is missing reads as null.  A record counts and visits the elements of a
field either in place, on what is stored, or through the value that it reads.
-/

namespace RecordQuery

/-- How a record counts and visits the elements of its fields. -/
inductive ElementAccess where
  /-- On what the field stores. -/
  | inPlace
  /-- On the value that reading the field gives. -/
  | throughValue
deriving DecidableEq

/-- What a field holds. -/
inductive Stored where
  /-- An option without content. -/
  | absent
  /-- An option with content. -/
  | present (content : Stored)
  /-- Content behind an indirection. -/
  | boxed (content : Stored)
  | scalar (s : Scalar)
  | json (doc : Json)
  | items (elements : List Stored)
  /-- A nested record: its identity, entity, way of access and fields. -/
  | record (identity : Nat) (entity : Entity) (access : ElementAccess)
      (fields : List (String × Stored))

/-- A record.  Two records are the same one exactly when their identities agree. -/
structure Record where
  identity : Nat
  entity : Entity
  access : ElementAccess
  fields : List (String × Stored)

/-- What reading a field gives. -/
inductive Value where
  | scalar (s : Scalar)
  | json (doc : Json)
  | record (r : Record)
  | list (elements : List Value)

namespace Stored

mutual

/-- The value that stored content reads as. -/
def value : Stored → Value
  | .absent => .scalar .null
  | .present content => content.value
  | .boxed content => content.value
  | .scalar s => .scalar s
  | .json .null => .scalar .null
  | .json doc => .json doc
  | .items elements => .list (values elements)
  | .record identity entity access fields => .record ⟨identity, entity, access, fields⟩

/-- The values of elements. -/
def values : List Stored → List Value
  | [] => []
  | x :: xs => x.value :: values xs

end

/-- The characters of a string or the elements of a collection, counted in place. -/
def cardinality? : Stored → Option Nat
  | .present content => content.cardinality?
  | .boxed content => content.cardinality?
  | .scalar (.string s) => some s.length
  | .items elements => some elements.length
  | _ => none

/-- The elements of a collection, visited in place. -/
def elements : Stored → List Value
  | .present content => content.elements
  | .boxed content => content.elements
  | .items xs => values xs
  | _ => []

theorem values_eq_map (xs : List Stored) : values xs = xs.map value := by
  induction xs with
  | nil => rfl
  | cons x xs ih => simp [values, ih]

end Stored

namespace Value

/-- Nothing there. -/
def isNull : Value → Bool
  | .scalar .null => true
  | _ => false

/-- The text of a string. -/
def string? : Value → Option String
  | .scalar (.string s) => some s
  | _ => none

/-- The record of a nested record. -/
def record? : Value → Option Record
  | .record r => some r
  | _ => none

/-- The characters of a string or the elements of a list. -/
def length? : Value → Option Nat
  | .scalar (.string s) => some s.length
  | .list elements => some elements.length
  | _ => none

/-- The elements of a list; other values have none. -/
def items : Value → List Value
  | .list elements => elements
  | _ => []

/-- The order of values: null after everything else, scalars within one type, nothing else. -/
def order? : Value → Value → Option Ordering
  | .scalar a, .scalar b => a.order? b
  | .scalar .null, _ => some .gt
  | _, .scalar .null => some .lt
  | _, _ => none

mutual

/-- Equality of values: documents by structure, records by identity, lists place by place, and
scalars when they compare as equal. -/
def same : Value → Value → Bool
  | .json a, .json b => a.same b
  | .record a, .record b => a.identity == b.identity
  | .list xs, .list ys => sameAll xs ys
  | .scalar a, .scalar b => a.order? b == some .eq
  | _, _ => false

/-- Equality of lists of values. -/
def sameAll : List Value → List Value → Bool
  | [], [] => true
  | x :: xs, y :: ys => same x y && sameAll xs ys
  | _, _ => false

end

end Value

namespace Record

/-- What a field of a record holds; nothing for a name that it does not know. -/
def stored (r : Record) (name : String) : Stored :=
  match r.fields.find? fun f => f.1 == name with
  | some f => f.2
  | none => .absent

/-- The value of a field. -/
def read (r : Record) (name : String) : Value := (r.stored name).value

/-- The number of characters or elements of a field. -/
def cardinality? (r : Record) (name : String) : Option Nat :=
  match r.access with
  | .inPlace => (r.stored name).cardinality?
  | .throughValue => (r.read name).length?

/-- The elements of a field, in the order in which a search visits them. -/
def elements (r : Record) (name : String) : List Value :=
  match r.access with
  | .inPlace => (r.stored name).elements
  | .throughValue => (r.read name).items

end Record

end RecordQuery
