import RecordQuery.Scalar.Tagged
import RecordQuery.SortChain
import RecordQuery.Predicate

/-!
# Explanations

What descriptors and paths compile to, shown as JSON documents.  A node of a predicate is an object
whose one key names it; operands keep their type as tagged scalars.
-/

namespace RecordQuery

/-- An array of strings. -/
def Json.ofStrings (xs : List String) : Json := .array (xs.map .string)

/-- Kinds without parameters are shown by name. -/
def Kind.explain : Kind → Json
  | .enumeration members => .tag "enum" (.ofStrings members)
  | .record entity => .tag "record" (.string entity.name)
  | .list element => .tag "list" element.explain
  | kind => .string kind.text

/-- A field with its kind, and whether it may be null. -/
def Field.explain (field : Field) : Json :=
  .ofMembers
    [("name", .string field.name), ("kind", field.kind.explain), ("nullable", .bool field.nullable)]

/-- The fields along a path.  A collection that is crossed ends the list, with the path of its
elements inside. -/
def FieldPath.explain : FieldPath → List Json
  | .leaf field => [field.explain]
  | .nested field rest => field.explain :: rest.explain
  | .each field element rest =>
    [field.explain, .ofMembers [("any", .string element.name), ("path", .array rest.explain)]]

/-- The document and the keys of a JSON path. -/
def JsonPath.explain (path : JsonPath) : Json :=
  .ofMembers [("member", .ofStrings path.member), ("keys", .ofStrings path.keys)]

/-- What a comparison reads, under the key that says which. -/
def Target.explain : Target → String × Json
  | .field access => ("field", .ofStrings access)
  | .json path => ("json", path.explain)

namespace Predicate

mutual

/-- A predicate. -/
def explain : Predicate → Json
  | .compare target op operand ignoreCase =>
    .tag "compare" <| .ofMembers
      [target.explain, ("op", .string op.text), ("value", operand.tagged), ("ci", .bool ignoreCase)]
  | .isNull access => .tag "is_null" (.ofStrings access)
  | .length access op operand =>
    .tag "length" <| .ofMembers
      [("field", .ofStrings access), ("op", .string op.text), ("value", .digits operand.toNat)]
  | .contains access operand ignoreCase =>
    .tag "contains" <| .ofMembers
      [("field", .ofStrings access), ("value", operand.tagged), ("ci", .bool ignoreCase)]
  | .any collection inner =>
    .tag "any" <| .ofMembers [("collection", .ofStrings collection), ("inner", inner.explain)]
  | .search access language term =>
    .tag "vector" <| .ofMembers
      [("field", .ofStrings access), ("language", .string language), ("term", .string term)]
  | .custom hook => .tag "custom" (.string hook.name)
  | .and parts => .tag "and" (.array (explainAll parts))
  | .or parts => .tag "or" (.array (explainAll parts))
  | .not inner => .tag "not" inner.explain

/-- The predicates of a list. -/
def explainAll : List Predicate → List Json
  | [] => []
  | p :: ps => p.explain :: explainAll ps

end

end Predicate

/-- What a sort key reads, under the key that says which. -/
def SortKey.explain : SortKey → String × Json
  | .field access => ("field", .ofStrings access)
  | .json path => ("json", path.explain)
  | .custom hook => ("custom", .string hook.name)

/-- A sort key and its direction. -/
def SortTerm.explain (term : SortTerm) : Json :=
  .ofMembers [term.key.explain, ("dir", .string term.direction.text)]

end RecordQuery
