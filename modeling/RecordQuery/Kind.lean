/-!
# Kinds

The kind of a field is the static type that paths are resolved and operands are coerced against.
An entity is a kind of record with a schema of its own; a kind refers to it by its identity, so
that entities may hold each other.
-/

namespace RecordQuery

/-- An entity, told apart by its number and shown by its name. -/
structure Entity where
  id : Nat
  name : String
deriving DecidableEq

/-- The static type of a field. -/
inductive Kind where
  | string
  | int
  | uint
  | float
  | bool
  | uuid
  | dateTime
  | date
  | time
  | duration
  /-- One of the named members, in order of declaration. -/
  | enumeration (members : List String)
  /-- A JSON document. -/
  | json
  /-- A nested record. -/
  | record (entity : Entity)
  /-- A collection. -/
  | list (element : Kind)
deriving DecidableEq

namespace Kind

/-- Kinds that hold a single comparable value. -/
def isScalar : Kind → Bool
  | .json | .record _ | .list _ => false
  | _ => true

/-- Kinds with a natural order. -/
def isOrdered (k : Kind) : Bool := k.isScalar && k != .bool

/-- The element kind of a collection. -/
def element? : Kind → Option Kind
  | .list element => some element
  | _ => none

/-- Collections are the lists; a string is none. -/
def isCollection (k : Kind) : Bool := k.element?.isSome

/-- The entity of a nested record. -/
def entity? : Kind → Option Entity
  | .record entity => some entity
  | _ => none

/-- The kind as messages show it. -/
def text : Kind → String
  | .string => "string"
  | .int => "int"
  | .uint => "uint"
  | .float => "float"
  | .bool => "bool"
  | .uuid => "uuid"
  | .dateTime => "datetime"
  | .date => "date"
  | .time => "time"
  | .duration => "duration"
  | .enumeration _ => "enum"
  | .json => "json"
  | .record entity => entity.name
  | .list element => "list<" ++ element.text ++ ">"

end Kind

end RecordQuery
