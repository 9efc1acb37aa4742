import RecordQuery.Json.Text
import RecordQuery.Kind

/-!
# Errors

Why a descriptor cannot be read, and why a query cannot be compiled.  A lenient compilation skips
the descriptors that fail, except for those whose error is not skippable.
-/

namespace RecordQuery

/-- Why a text is no descriptor. -/
inductive DescriptorError where
  /-- A filter has neither a field nor children. -/
  | missingField
  /-- A sort names a direction that there is none of. -/
  | unknownDirection (text : String)
  /-- The text is no JSON document of the form of a descriptor. -/
  | malformed

/-- Why a query cannot be answered. -/
inductive QueryError where
  /-- A segment of a path is no field of the entity, or enters a field that holds no records. -/
  | fieldNotFound (segment owner : String)
  | notFilterable (path : String)
  | notSortable (path : String)
  | invalidJsonPath (path : String)
  | invalidOperator (token : String)
  /-- An operand has no value of the kind of the field. -/
  | notConvertible (raw : Json) (kind : Kind)
  /-- An operand of a length comparison is no natural number. -/
  | notLength (raw : Json)
  /-- A full-text search on a field that holds no text. -/
  | notText (path : String)
  /-- An operand for a field that holds no single value. -/
  | notComparable (path : String) (kind : Kind)
  /-- A JSON path into a field that holds no document. -/
  | notDocument (field entity : String)
  | invalidQuery (cause : DescriptorError)
  | invalidOptions

namespace DescriptorError

/-- The text of an error. -/
def message : DescriptorError → String
  | .missingField => "filter needs a field or a non-empty 'or' list"
  | .unknownDirection text => "unknown sort direction '" ++ text ++ "'"
  | .malformed => "malformed document"

end DescriptorError

namespace QueryError

/-- The text of an error. -/
def message : QueryError → String
  | .fieldNotFound segment owner => "field '" ++ segment ++ "' not found on " ++ owner
  | .notFilterable path => "field '" ++ path ++ "' is not filterable"
  | .notSortable path => "field '" ++ path ++ "' is not sortable"
  | .invalidJsonPath path =>
    "invalid JSON path '" ++ path ++ "': expected '<field>.<key>[.<key>...]'"
  | .invalidOperator token => "invalid operator '" ++ token ++ "'"
  | .notConvertible raw kind => "cannot convert " ++ raw.render ++ " to " ++ kind.text
  | .notLength raw => "cannot convert " ++ raw.render ++ " to length"
  | .notText path => "compile failure: vector field '" ++ path ++ "' is not text"
  | .notComparable path kind =>
    "compile failure: field '" ++ path ++ "' of kind " ++ kind.text ++
      " cannot be compared to a value"
  | .notDocument field entity =>
    "compile failure: field '" ++ field ++ "' of " ++ entity ++ " is not a JSON document"
  | .invalidQuery cause => "compile failure: invalid query: " ++ cause.message
  | .invalidOptions => "invalid options: malformed document"

/-- The errors for which a lenient compilation skips the descriptor.  A malformed JSON path is
always reported. -/
def isSkippable : QueryError → Bool
  | .invalidJsonPath _ | .invalidOptions => false
  | _ => true

end QueryError

end RecordQuery
