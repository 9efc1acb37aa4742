import RecordQuery.Text.Blank
import RecordQuery.Text.Property.Casing
import RecordQuery.Text.Property.Identifier

/-!
# Declarations

A declaration is the source of an entity: a type with named fields, or an enumeration whose members
carry no data.  `Declaration.derive` generates from it what a query needs: the schema, three tables
that say which field of the type answers to which name, and a constant for each name.  Attributes
rename fields and members, and leave fields out.
-/

namespace RecordQuery

/-! ### Attributes -/

/-- One item of an attribute. -/
inductive AttributeItem where
  | skip
  | rename (name : String)
  /-- A rename to something other than a string. -/
  | renameToOther
  | unknown
deriving DecidableEq

/-- The item that a source text writes, other than a rename.  A comma may follow it. -/
def AttributeItem.ofText (source : String) : AttributeItem :=
  match (Text.trim source.toList).reverse with
  | ',' :: rest => ofWord (Text.trimRight rest.reverse)
  | rest => ofWord rest.reverse
where
  /-- The item of a single word. -/
  ofWord (word : List Char) : AttributeItem :=
    if word == ['s', 'k', 'i', 'p'] then .skip else .unknown

/-- An attribute of a type, field or member. -/
inductive Attribute where
  /-- An attribute of some other tool. -/
  | foreign
  /-- An attribute without a list of items. -/
  | bare
  | list (items : List AttributeItem)
deriving DecidableEq

/-- Why nothing can be derived from a declaration. -/
inductive DeriveError where
  | generic
  | bareAttribute
  | invalidRename
  | renameNotString
  | unknownAttribute
  | unnamedFields
  | unsupportedShape
  | noMembers
  | memberWithData
  | skippedMember
  /-- The constant of a name would be no identifier. -/
  | invalidConstant (constant : String)
deriving DecidableEq

/-- The text of an error. -/
def DeriveError.message : DeriveError → String
  | .generic => "Entity cannot be derived for generic types"
  | .bareAttribute => "expected attribute arguments in parentheses: #[sieve(...)]"
  | .invalidRename => "rename must be a non-empty name without '.'"
  | .renameNotString => "rename must be a string literal"
  | .unknownAttribute => "unknown sieve attribute. Expected: skip or rename = \"...\""
  | .unnamedFields => "Entity can only be derived for structs with named fields"
  | .unsupportedShape => "Entity can only be derived for structs and fieldless enums"
  | .noMembers => "Entity cannot be derived for enums without variants"
  | .memberWithData => "Entity can only be derived for enums whose variants carry no data"
  | .skippedMember => "enum variants cannot be skipped"
  | .invalidConstant constant => "'" ++ constant ++ "' is not an identifier"

/-- What the attributes of a type, field or member say together. -/
structure Marks where
  skip : Bool := false
  rename : Option String := none
deriving DecidableEq

namespace Marks

/-- Reads one item on top of those before it. -/
def addItem (marks : Marks) : AttributeItem → Except DeriveError Marks
  | .skip => .ok { marks with skip := true }
  | .rename name =>
    if name.isEmpty || name.toList.contains '.' then .error .invalidRename
    else .ok { marks with rename := some name }
  | .renameToOther => .error .renameNotString
  | .unknown => .error .unknownAttribute

/-- Reads one attribute on top of those before it. -/
def addAttribute (marks : Marks) : Attribute → Except DeriveError Marks
  | .foreign => .ok marks
  | .bare => .error .bareAttribute
  | .list items => items.foldlM addItem marks

/-- Reads attributes; the last rename counts. -/
def ofAttributes (attributes : List Attribute) : Except DeriveError Marks :=
  attributes.foldlM addAttribute {}

end Marks

/-! ### Names -/

/-- A name without the marks `r#` in front of it, which let a key word be a name. -/
def unmarked : List Char → List Char
  | 'r' :: '#' :: cs => unmarked cs
  | cs => cs

/-- The constant of a name: capitals, with an underscore for each hyphen and in front of each
capital that follows a small letter.  Small letters outside ASCII stay small. -/
def constantChars (afterSmall : Bool) : List Char → List Char
  | [] => []
  | c :: cs =>
    if Text.isUppercase c then
      if afterSmall then '_' :: c :: constantChars false cs else c :: constantChars false cs
    else if c == '_' || c == '-' then '_' :: constantChars false cs
    else c.toUpper :: constantChars true cs

/-- The constant of a name. -/
def constantOf (name : String) : String := String.ofList (constantChars false name.toList)

/-! ### Types with named fields -/

/-- A declared field; `type` is the text of its type. -/
structure DeclaredField where
  name : String
  type : String
  attributes : List Attribute := []

/-- A declared member of an enumeration. -/
structure DeclaredMember where
  name : String
  attributes : List Attribute := []
  carriesData : Bool := false

/-- What is declared. -/
inductive Shape where
  | named (fields : List DeclaredField)
  /-- Fields without names, or no fields. -/
  | unnamed
  | union
  | enumeration (members : List DeclaredMember)

/-- A declared type. -/
structure Declaration where
  name : String
  generic : Bool := false
  attributes : List Attribute := []
  shape : Shape

/-- A field that queries can name. -/
structure ExposedField where
  /-- The name in queries. -/
  name : String
  /-- The field of the type. -/
  member : String
  type : String
deriving DecidableEq

/-- The field that queries can name, unless it is left out. -/
def DeclaredField.expose (field : DeclaredField) : Except DeriveError (Option ExposedField) := do
  let marks ← Marks.ofAttributes field.attributes
  if marks.skip then return none
  let name := marks.rename.getD (String.ofList (unmarked field.name.toList))
  if Text.isIdentifier (constantOf name).toList then return some ⟨name, field.name, field.type⟩
  else throw (.invalidConstant (constantOf name))

/-- The name of a member in queries. -/
def DeclaredMember.expose (member : DeclaredMember) : Except DeriveError String := do
  if member.carriesData then throw .memberWithData
  let marks ← Marks.ofAttributes member.attributes
  if marks.skip then throw .skippedMember
  return marks.rename.getD member.name

/-! ### Tables -/

/-- What is generated for a type with named fields. -/
structure RecordTables where
  entity : String
  /-- Constants and the names that they stand for. -/
  constants : List (String × String)
  /-- Names and types in order of declaration. -/
  schema : List (String × String)
  /-- Names and the fields whose values they read. -/
  values : List (String × String)
  /-- Names and the fields whose elements they count. -/
  cardinalities : List (String × String)
  /-- Names and the fields whose elements they visit. -/
  elements : List (String × String)
deriving DecidableEq

/-- What is generated for an enumeration. -/
structure MemberTables where
  /-- The names in queries. -/
  names : List String
  /-- The members and their places. -/
  places : List (String × Nat)
deriving DecidableEq

/-- What is generated from a declaration. -/
inductive Derived where
  | record (tables : RecordTables)
  | enumeration (tables : MemberTables)
deriving DecidableEq

namespace Declaration

/-- The tables of a type with the given exposed fields. -/
def recordTables (entity : String) (fields : List ExposedField) : RecordTables where
  entity := entity
  constants := fields.map fun f => (constantOf f.name, f.name)
  schema := fields.map fun f => (f.name, f.type)
  values := fields.map fun f => (f.name, f.member)
  cardinalities := fields.map fun f => (f.name, f.member)
  elements := fields.map fun f => (f.name, f.member)

/-- Generates the tables of a declaration. -/
def derive (d : Declaration) : Except DeriveError Derived := do
  if d.generic then throw .generic
  let marks ← Marks.ofAttributes d.attributes
  match d.shape with
  | .named fields =>
    let exposed ← fields.mapM DeclaredField.expose
    return .record (recordTables (marks.rename.getD d.name) (exposed.filterMap id))
  | .unnamed => throw .unnamedFields
  | .union => throw .unsupportedShape
  | .enumeration members =>
    if members.isEmpty then throw .noMembers
    let names ← members.mapM DeclaredMember.expose
    return .enumeration ⟨names, members.zipIdx.map fun (m, i) => (m.name, i)⟩

end Declaration

/-- The entry of a name in a generated table. -/
def RecordTables.lookup (table : List (String × String)) (name : String) : Option String :=
  (table.find? fun entry => entry.1 == name).map (·.2)

end RecordQuery
