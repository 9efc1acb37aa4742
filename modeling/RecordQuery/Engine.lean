import RecordQuery.Compilation.Sort

/-!
# Answering queries

An engine bundles what queries are compiled against with a full-text search, and runs them over
lists of records: filter, then sort, then cut out a page.
-/

namespace RecordQuery

/-- A context for compiling and a full-text search for evaluating. -/
structure Engine where
  context : Context
  search : TextSearch := TextSearch.simple

namespace Engine

variable (engine : Engine)

/-- The schema of an entity. -/
def schema (entity : Entity) : Schema := engine.context.catalog.schema entity

/-- The records that satisfy every filter, in their order. -/
def applyFilters (entity : Entity) (filters : List FilterDescriptor) (records : List Record) :
    Except QueryError (List Record) :=
  (engine.context.compileFilters (engine.schema entity) filters).map fun
    | some p => records.filter (p.holds engine.search)
    | none => records

/-- The records sorted by the keys. -/
def applySorts (entity : Entity) (sorts : List SortDescriptor) (records : List Record) :
    Except QueryError (List Record) :=
  (engine.context.compileSorts (engine.schema entity) sorts).map fun chain => chain.sort records

/-- The page of the records that a query asks for. -/
def apply (entity : Entity) (query : Query) (records : List Record) :
    Except QueryError (List Record) := do
  let matched ← engine.applyFilters entity query.filters records
  let sorted ← engine.applySorts entity query.sorts matched
  return engine.context.options.paginate query.page query.pageSize sorted

end Engine

end RecordQuery
