import RecordQuery.Kind
import RecordQuery.Text.Ascii

/-!
# Schemas

A schema is the table of an entity's fields.  A field is found by its exact name, and if there is
none of that name by the first name that agrees up to ASCII case.  A catalog holds the schemas of
all entities, so that nested kinds can be followed.
-/

namespace RecordQuery

/-- The first entry with exactly the given name, or else the first whose name agrees with it up to
ASCII case. -/
def lookupName {α : Type} (key : α → String) (name : String) (entries : List α) : Option α :=
  (entries.find? fun e => key e == name).or (entries.find? fun e => Text.agree (key e) name)

/-- One field of an entity. -/
structure Field where
  name : String
  kind : Kind
  nullable : Bool
deriving DecidableEq

/-- The fields of an entity in order of declaration. -/
structure Schema where
  entity : Entity
  fields : List Field

/-- The field of a name. -/
def Schema.field? (schema : Schema) (name : String) : Option Field :=
  lookupName Field.name name schema.fields

/-- The fields of every entity. -/
structure Catalog where
  fields : Entity → List Field

/-- The schema of an entity. -/
def Catalog.schema (catalog : Catalog) (entity : Entity) : Schema := ⟨entity, catalog.fields entity⟩

/-! ### Types of fields -/

/-- A member of an enumeration: the name it is declared with and the name that queries know. -/
structure EnumMember where
  declared : String
  queried : String := declared
deriving DecidableEq

/-- The types that a field can be declared with. -/
inductive FieldType where
  | string
  | int
  | uint
  | float
  /-- A float that holds single precision only. -/
  | single
  | bool
  | uuid
  | dateTime
  /-- A date-time that does not keep its offset. -/
  | utc
  | date
  | time
  | duration
  | enumeration (members : List EnumMember)
  | json
  | record (entity : Entity)
  | option (content : FieldType)
  | list (element : FieldType)
  | box (content : FieldType)

namespace FieldType

/-- The kind of a type: options and boxes are those of their content. -/
def kind : FieldType → Kind
  | .string => .string
  | .int => .int
  | .uint => .uint
  | .float | .single => .float
  | .bool => .bool
  | .uuid => .uuid
  | .dateTime | .utc => .dateTime
  | .date => .date
  | .time => .time
  | .duration => .duration
  | .enumeration members => .enumeration (members.map EnumMember.queried)
  | .json => .json
  | .record entity => .record entity
  | .option content => content.kind
  | .list element => .list element.kind
  | .box content => content.kind

/-- Types whose values may be missing. -/
def nullable : FieldType → Bool
  | .option _ => true
  | .box content => content.nullable
  | _ => false

end FieldType

/-- The field of a declared type. -/
def Field.ofType (name : String) (type : FieldType) : Field := ⟨name, type.kind, type.nullable⟩

end RecordQuery
