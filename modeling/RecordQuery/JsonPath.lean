import RecordQuery.Path

/-!
# JSON paths

A JSON path names a field that holds a document and then object keys inside the document.  Keys
match exactly, and what is found is compared by its text form.
-/

namespace RecordQuery

/-- A document and object keys below it. -/
structure JsonPath where
  member : Access
  keys : List String
deriving DecidableEq

namespace JsonPath

/-- The path as it is written. -/
def text (path : JsonPath) : String :=
  path.keys.foldl (fun written key => written ++ "." ++ key) path.member.text

/-- Splits a path into the field and the keys.  There is at least one key, and no segment is
empty. -/
def split? (path : String) : Option (String × List String) :=
  match Text.segments path with
  | member :: key :: keys =>
    if (member :: key :: keys).any String.isEmpty then none else some (member, key :: keys)
  | _ => none

/-- Splits a path, or reports it as malformed. -/
def split (path : String) : Except QueryError (String × List String) :=
  match split? path with
  | some parts => .ok parts
  | none => .error (.invalidJsonPath path)

/-- Resolves a path whose first segment is a document of the schema itself. -/
def resolve (schema : Schema) (path : String) : Except QueryError JsonPath := do
  let (member, keys) ← split path
  match schema.field? member with
  | none => throw (.fieldNotFound member schema.entity.name)
  | some field =>
    if field.kind == .json then return ⟨[field.name], keys⟩
    else throw (.notDocument field.name schema.entity.name)

/-- The node that a path leads to. -/
def node? (path : JsonPath) (r : Record) : Option Json :=
  match path.member.read r with
  | .json doc => doc.navigate path.keys
  | _ => none

/-- The text form of the node that a path leads to. -/
def text? (path : JsonPath) (r : Record) : Option String := (path.node? r).bind Json.text?

/-- The text form of the node as a value, null when there is none. -/
def value (path : JsonPath) (r : Record) : Value :=
  match path.text? r with
  | some s => .scalar (.string s)
  | none => .scalar .null

end JsonPath

end RecordQuery
