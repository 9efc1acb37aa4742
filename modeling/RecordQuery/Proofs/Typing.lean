import RecordQuery.Proofs.Compilation

/-!
# Well-typed predicates

A predicate is well-typed against a schema when every chain that it reads consists of canonical
names, every operand is of the kind of the field that it is compared with, and every operator fits
that kind (`Predicate.WellTyped`).
-/

namespace RecordQuery

/-- A scalar of a kind: numbers in the representation of the kind, the place of a member below the
number of members.  Null is of no kind. -/
def Scalar.isOf : Scalar → Kind → Bool
  | .string _, .string => true
  | .number (.signed _), .int => true
  | .number (.unsigned _), .uint => true
  | .number (.float _), .float => true
  | .bool _, .bool => true
  | .uuid _, .uuid => true
  | .dateTime _, .dateTime => true
  | .date _, .date => true
  | .time _, .time => true
  | .duration _, .duration => true
  | .enumeration index, .enumeration members => index < members.length
  | _, _ => false

namespace Predicate

/-- The predicate reads and compares what the schema says. -/
inductive WellTyped (catalog : Catalog) (registry : Registry) : Schema → Predicate → Prop where
  /-- A field is compared when it is scalar, with an operand of its kind; text operators need a
  string and ordering operators an order. -/
  | compare {schema : Schema} {access : Access} {field : Field} {op : Comparison} {operand : Scalar}
      {ignoreCase : Bool} (reads : catalog.fieldAt? schema access = some field)
      (scalar : field.kind.isScalar = true) (operandKind : operand.isOf field.kind = true)
      (text : op.isText = true → field.kind = .string)
      (ordering : op.isOrdering = true → field.kind.isOrdered = true) :
      WellTyped catalog registry schema (.compare (.field access) op operand ignoreCase)
  /-- A node of a document is compared as text, by any operator. -/
  | compareNode {schema : Schema} {path : JsonPath} {field : Field} {op : Comparison} {s : String}
      {ignoreCase : Bool} (reads : catalog.fieldAt? schema path.member = some field)
      (document : field.kind = .json) (keys : path.keys ≠ []) :
      WellTyped catalog registry schema (.compare (.json path) op (.string s) ignoreCase)
  /-- Only a field that may be missing is asked for it. -/
  | isNull {schema : Schema} {access : Access} {field : Field}
      (reads : catalog.fieldAt? schema access = some field) (nullable : field.nullable = true) :
      WellTyped catalog registry schema (.isNull access)
  /-- Strings and collections have a length, which is compared by order. -/
  | length {schema : Schema} {access : Access} {field : Field} {op : Comparison} {n : UInt64}
      (reads : catalog.fieldAt? schema access = some field)
      (measured : field.kind = .string ∨ ∃ element, field.kind = .list element)
      (relation : op.isRelation = true) : WellTyped catalog registry schema (.length access op n)
  /-- A collection of scalars contains operands of its element kind. -/
  | contains {schema : Schema} {access : Access} {field : Field} {element : Kind}
      {operand : Scalar} {ignoreCase : Bool} (reads : catalog.fieldAt? schema access = some field)
      (collection : field.kind = .list element) (scalar : element.isScalar = true)
      (operandKind : operand.isOf element = true) :
      WellTyped catalog registry schema (.contains access operand ignoreCase)
  /-- A quantifier ranges over a collection of records. -/
  | any {schema : Schema} {collection : Access} {field : Field} {entity : Entity}
      {inner : Predicate} (reads : catalog.fieldAt? schema collection = some field)
      (records : field.kind = .list (.record entity))
      (typed : WellTyped catalog registry (catalog.schema entity) inner) :
      WellTyped catalog registry schema (.any collection inner)
  /-- Strings and collections of strings are searched. -/
  | search {schema : Schema} {access : Access} {field : Field} {language term : String}
      (reads : catalog.fieldAt? schema access = some field)
      (textual : field.kind = .string ∨ field.kind = .list .string) :
      WellTyped catalog registry schema (.search access language term)
  /-- A filter of its own is one that is registered for the entity. -/
  | custom {schema : Schema} {hook : FilterHook} {name : String}
      (registered : registry.filter? schema.entity name = some hook) :
      WellTyped catalog registry schema (.custom hook)
  | and {schema : Schema} {parts : List Predicate}
      (typed : ∀ p ∈ parts, WellTyped catalog registry schema p) :
      WellTyped catalog registry schema (.and parts)
  | or {schema : Schema} {parts : List Predicate}
      (typed : ∀ p ∈ parts, WellTyped catalog registry schema p) :
      WellTyped catalog registry schema (.or parts)
  | not {schema : Schema} {inner : Predicate} (typed : WellTyped catalog registry schema inner) :
      WellTyped catalog registry schema (.not inner)

variable {catalog : Catalog} {registry : Registry} {schema : Schema}

/-- Predicates that are all well-typed are joined to a well-typed one. -/
theorem wellTyped_of_join {junction : Junction} {parts : List Predicate} {p : Predicate}
    (typed : ∀ part ∈ parts, part.WellTyped catalog registry schema)
    (h : join junction parts = some p) : p.WellTyped catalog registry schema := by
  rcases eq_of_join h with rfl | rfl | rfl
  · exact typed p List.mem_cons_self
  · exact .and typed
  · exact .or typed

end Predicate

end RecordQuery
