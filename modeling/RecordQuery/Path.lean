import RecordQuery.QueryError
import RecordQuery.Record
import RecordQuery.Schema
import RecordQuery.Text.Pieces

/-!
# Paths

A dotted path is resolved segment by segment.  `FieldPath` is the result: it ends on a field, and
before that goes through nested records or through the elements of collections of records.  An
`Access` is a chain of field names that is read from a record directly; where a record on the way
is missing there is nothing to read.
-/

namespace RecordQuery

/-- A chain of field names, read one after the other. -/
abbrev Access := List String

namespace Access

/-- The access as a dotted path. -/
def text (access : Access) : String := Text.dotted access

/-- The record that holds the last field of a chain, and the name of that field. -/
def locate? (r : Record) : Access → Option (Record × String)
  | [] => none
  | [name] => some (r, name)
  | name :: rest =>
    match r.read name with
    | .record next => locate? next rest
    | _ => none

/-- The value at the end of a chain; the empty chain reads the record itself. -/
def read (access : Access) (r : Record) : Value :=
  if access.isEmpty then .record r
  else
    match locate? r access with
    | some (parent, name) => parent.read name
    | none => .scalar .null

/-- The number of characters or elements at the end of a chain. -/
def cardinality? (access : Access) (r : Record) : Option Nat :=
  (locate? r access).bind fun (parent, name) => parent.cardinality? name

/-- The elements at the end of a chain. -/
def elements (access : Access) (r : Record) : List Value :=
  match locate? r access with
  | some (parent, name) => parent.elements name
  | none => []

end Access

/-- A path resolved against a schema. -/
inductive FieldPath where
  /-- The path ends on a field. -/
  | leaf (field : Field)
  /-- The path goes on in a nested record. -/
  | nested (field : Field) (rest : FieldPath)
  /-- The path goes on in each record of a collection. -/
  | each (field : Field) (element : Entity) (rest : FieldPath)
deriving DecidableEq

namespace FieldPath

/-- The field that a path ends on. -/
def last : FieldPath → Field
  | .leaf field => field
  | .nested _ rest => rest.last
  | .each _ _ rest => rest.last

/-- The names of the fields along a path. -/
def names : FieldPath → List String
  | .leaf field => [field.name]
  | .nested field rest => field.name :: rest.names
  | .each field _ rest => field.name :: rest.names

/-- The path in canonical spelling. -/
def text (path : FieldPath) : String := Text.dotted path.names

/-- The names up to the first collection that is crossed, or up to the end. -/
def access : FieldPath → Access
  | .leaf field => [field.name]
  | .nested field rest => field.name :: rest.access
  | .each field _ _ => [field.name]

/-- The element entity of the first collection that is crossed, and the path from there on. -/
def crossing? : FieldPath → Option (Entity × FieldPath)
  | .leaf _ => none
  | .nested _ rest => rest.crossing?
  | .each _ element rest => some (element, rest)

/-- A path that crosses a collection holds for a record when it holds for one of its elements. -/
def isExistential (path : FieldPath) : Bool := path.crossing?.isSome

/-- Resolves a field and the segments behind it. -/
def resolveSegments (catalog : Catalog) (schema : Schema) (segment : String) :
    List String → Except QueryError FieldPath
  | [] =>
    match schema.field? segment with
    | none => .error (.fieldNotFound segment schema.entity.name)
    | some field => .ok (.leaf field)
  | next :: rest =>
    match schema.field? segment with
    | none => .error (.fieldNotFound segment schema.entity.name)
    | some field =>
      match field.kind with
      | .record entity =>
        (resolveSegments catalog (catalog.schema entity) next rest).map (.nested field)
      | .list (.record entity) =>
        (resolveSegments catalog (catalog.schema entity) next rest).map (.each field entity)
      | .list element => .error (.fieldNotFound next element.text)
      | kind => .error (.fieldNotFound next kind.text)

/-- Resolves a dotted path. -/
def resolve (catalog : Catalog) (schema : Schema) (path : String) : Except QueryError FieldPath :=
  match Text.segments path with
  | [] => .error (.fieldNotFound path schema.entity.name)
  | segment :: rest => resolveSegments catalog schema segment rest

end FieldPath

end RecordQuery
