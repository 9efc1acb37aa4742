import RecordQuery.Coercion
import RecordQuery.Descriptor
import RecordQuery.Options
import RecordQuery.Predicate

/-!
# Compiling filters

A list of filters compiles to one predicate that asks for all of them.  For a leaf the first rule
that applies decides: the field has to be open to filtering; a full-text search asks for one of its
terms; a name of a filter of its own stands for that filter; a JSON path compares the text of a
node; any other path is resolved and compares the field that it ends on.  A path that crosses
collections asks for an element of each.

A leaf without operands asks for nothing, and so does a group without children that ask for
anything.  A lenient compilation skips the filters that fail, wherever they stand.
-/

namespace RecordQuery

/-- What filters and sorts are compiled against. -/
structure Context where
  catalog : Catalog
  registry : Registry
  options : Options

namespace Context

variable (ctx : Context)

/-- The configuration of a path that may be filtered, if it is configured. -/
def policy (entity : Entity) (path : String) : Except QueryError (Option FieldConfig) :=
  match ctx.registry.field? entity path with
  | none => .ok none
  | some config => if config.filterable then .ok (some config) else .error (.notFilterable path)

/-- Builds the predicate of a path from the comparison at its end: each collection that is crossed
asks for an element, and has to be open to filtering on the element's entity. -/
def quantify (build : Access → Field → Except QueryError (Option Predicate)) :
    (before : Access) → FieldPath → Except QueryError (Option Predicate)
  | before, .leaf field => build (before ++ [field.name]) field
  | before, .nested field rest => quantify build (before ++ [field.name]) rest
  | before, .each field element rest => do
    let _ ← ctx.policy element rest.text
    let inner ← quantify build [] rest
    return inner.map (.any (before ++ [field.name]))

/-! ### Leaves -/

/-- Kinds that hold text. -/
def isTextual (kind : Kind) : Bool := kind == .string || kind == .list .string

/-- A full-text search for one of the terms. -/
def searchAt (path language : String) (terms : List String) (access : Access) (field : Field) :
    Except QueryError (Option Predicate) :=
  if terms.isEmpty then .ok none
  else if isTextual field.kind then .ok (Predicate.anyOf (terms.map (.search access language)))
  else .error (.notText path)

/-- A comparison with the text of a node. -/
def compareNode (schema : Schema) (path : String) (operator : Operator) (values : List Json) :
    Except QueryError (Option Predicate) := do
  if operator.length then throw (.invalidOperator operator.text)
  let target ← JsonPath.resolve schema path
  return Predicate.join operator.junction
    ((values.filterMap Json.text?).map fun s =>
      .compare (.json target) operator.base (.string s) operator.ignoreCase)

/-- A comparison of the length of a text or collection with the first operand. -/
def compareLength (operator : Operator) (values : List Json) (access : Access) (field : Field) :
    Except QueryError (Option Predicate) :=
  match field.kind, values with
  | .string, raw :: _ | .list _, raw :: _ =>
    (coerceLength raw).map fun n => some (.length access operator.base n)
  | _, _ => .ok none

/-- The membership of one operand in a collection; null asks for nothing. -/
def containsOperand (operator : Operator) (access : Access) (element : Kind) (raw : Json) :
    Except QueryError (Option Predicate) := do
  match ← coerce raw element with
  | .null => return none
  | operand =>
    let p := Predicate.contains access operand operator.ignoreCase
    return some (if operator.base == .notContains then p.negate else p)

/-- The comparison of a field with one operand.  Null asks whether the field is null when it may be
and the operator is an equality, and for nothing otherwise. -/
def compareOperand (operator : Operator) (access : Access) (field : Field) (raw : Json) :
    Except QueryError (Option Predicate) :=
  match raw with
  | .null =>
    if field.nullable && operator.base == .eq then .ok (some (.isNull access))
    else if field.nullable && operator.base == .ne then .ok (some (Predicate.isNull access).negate)
    else .ok none
  | raw =>
    if field.kind.isScalar then
      (coerce raw field.kind).map fun operand =>
        some (.compare (.field access) operator.base operand operator.ignoreCase)
    else .error (.notComparable access.text field.kind)

/-- Which operators a field supports: membership for collections of scalars, text comparisons for
strings, orderings for ordered kinds. -/
def supports (operator : Operator) (kind : Kind) : Bool :=
  match kind with
  | .list element =>
    (operator.base == .contains || operator.base == .notContains) && element.isScalar
  | kind =>
    !(operator.base.isText && kind != .string) && !(operator.base.isOrdering && !kind.isOrdered)

/-- The comparison of a field with the operands. -/
def compareField (operator : Operator) (values : List Json) (access : Access) (field : Field) :
    Except QueryError (Option Predicate) :=
  if operator.length then compareLength operator values access field
  else if !supports operator field.kind then .error (.invalidOperator operator.text)
  else do
    let parts ← match field.kind with
      | .list element => values.mapM (containsOperand operator access element)
      | _ => values.mapM (compareOperand operator access field)
    return Predicate.join operator.junction (parts.filterMap id)

/-- Compiles a leaf. -/
def compileLeaf (schema : Schema) (leaf : FilterLeaf) : Except QueryError (Option Predicate) := do
  if leaf.json then let _ ← JsonPath.split leaf.field
  let config ← ctx.policy schema.entity leaf.field
  let path := (config.map FieldConfig.name).getD leaf.field
  if leaf.vector || (config.map FieldConfig.vector).getD false then
    let language := (config.bind FieldConfig.vectorLanguage).getD ctx.options.defaultVectorLanguage
    let resolved ← FieldPath.resolve ctx.catalog schema path
    ctx.quantify (searchAt path language (leaf.values.filterMap Json.text?)) [] resolved
  else
    match if leaf.json then none else ctx.registry.filter? schema.entity path with
    | some hook =>
      if Operator.asksLength leaf.operator then throw (.invalidOperator leaf.operator)
      else return some (.custom hook)
    | none =>
      let operator ← Operator.ofText leaf.operator
      if leaf.json then compareNode schema path operator leaf.values
      else
        let resolved ← FieldPath.resolve ctx.catalog schema path
        ctx.quantify (compareField operator leaf.values) [] resolved

/-! ### Lists and groups -/

/-- What remains of a failure: nothing when the compilation is lenient and the error skippable. -/
def lenient {α : Type} (result : Except QueryError (Option α)) : Except QueryError (Option α) :=
  match result with
  | .ok r => .ok r
  | .error e =>
    if !ctx.options.throwOnInvalidFields && e.isSkippable then .ok none else .error e

mutual

/-- Compiles one filter. -/
def compileFilter (schema : Schema) : FilterDescriptor → Except QueryError (Option Predicate)
  | .leaf leaf => ctx.compileLeaf schema leaf
  | .group children => (compileParts schema children).map Predicate.anyOf

/-- Compiles filters one by one, and keeps the predicates of those that ask for anything. -/
def compileParts (schema : Schema) : List FilterDescriptor → Except QueryError (List Predicate)
  | [] => .ok []
  | d :: ds => do
    let part ← ctx.lenient (compileFilter schema d)
    let parts ← compileParts schema ds
    return part.toList ++ parts

end

/-- Compiles filters into the predicate that asks for all of them. -/
def compileFilters (schema : Schema) (filters : List FilterDescriptor) :
    Except QueryError (Option Predicate) :=
  (ctx.compileParts schema filters).map Predicate.allOf

end Context

end RecordQuery
