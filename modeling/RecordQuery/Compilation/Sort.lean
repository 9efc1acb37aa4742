import RecordQuery.Compilation.Filter
import RecordQuery.SortChain

/-!
# Compiling sort keys

A list of sort descriptors compiles to a chain.  The field of each has to be open to sorting; a name
of a sort key of its own stands for that key, a JSON path sorts by the text of a node, and any other
path has to lead to a single value without crossing a collection.
-/

namespace RecordQuery.Context

variable (ctx : Context)

/-- Compiles one sort key. -/
def compileKey (schema : Schema) (sort : SortDescriptor) : Except QueryError SortKey := do
  if sort.json then let _ ← JsonPath.split sort.field
  let config := ctx.registry.field? schema.entity sort.field
  if !(config.map FieldConfig.sortable).getD true then throw (.notSortable sort.field)
  let path := (config.map FieldConfig.name).getD sort.field
  match ctx.registry.sort? schema.entity path with
  | some hook => return .custom hook
  | none =>
    if sort.json then return .json (← JsonPath.resolve schema path)
    else
      let resolved ← FieldPath.resolve ctx.catalog schema path
      if resolved.isExistential || !resolved.last.kind.isScalar then
        throw (.fieldNotFound path schema.entity.name)
      return .field resolved.access

/-- Compiles sort keys into a chain. -/
def compileSorts (schema : Schema) : List SortDescriptor → Except QueryError SortChain
  | [] => .ok []
  | d :: ds => do
    let term ← ctx.lenient ((ctx.compileKey schema d).map fun key => some ⟨key, d.direction⟩)
    let terms ← compileSorts schema ds
    return term.toList ++ terms

end RecordQuery.Context
