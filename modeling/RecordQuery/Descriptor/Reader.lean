import RecordQuery.Descriptor
import RecordQuery.Json.Document
import RecordQuery.QueryError

/-!
# Reading descriptors

Descriptors are read from JSON objects, or from arrays that list the fields of the object in a fixed
order.  Each key has several spellings; a key that occurs twice, in whatever spelling, is refused,
and a key of no field is skipped.  What is wrong is found in the order of the text: a filter without
field and children, or a sort with an unknown direction, is reported only when everything up to the
end of its own object could be read.
-/

namespace RecordQuery

/-- The outcome of reading a descriptor. -/
abbrev Reading := Except DescriptorError

namespace Reading

/-- The document has not the form that is needed. -/
def malformed {α : Type} : Reading α := .error .malformed

/-- What has been read, if it could be. -/
def expect {α : Type} : Option α → Reading α
  | some a => .ok a
  | none => malformed

/-- Reads a field that must not have been seen before. -/
def once {α σ : Type} (seen : Option α) (set : α → σ) (read : Reading α) : Reading σ :=
  if seen.isSome then malformed else read.map set

end Reading

namespace Document

/-- A string. -/
def string? : Document → Option String
  | .string s => s
  | _ => none

/-- A truth value. -/
def bool? : Document → Option Bool
  | .bool b => some b
  | _ => none

/-- A whole number that fits 64 bits with sign, written without fraction and power of ten. -/
def int64? : Document → Option Int64
  | .number l =>
    match l.numeral? with
    | some n => n.toInt64?
    | none => none
  | _ => none

/-- Null, or else what the document has to be. -/
def nullOr? {α : Type} (read : Document → Option α) : Document → Option (Option α)
  | .null => some none
  | d => (read d).map some

/-- The values of an array inside which `levels` containers may still be nested. -/
def valueList? (levels : Nat) : Document → Option (List Json)
  | .array items => if levels = 0 then none else itemValues? (levels - 1) items
  | _ => none

end Document

/-! ### Filters -/

/-- The keys of a filter. -/
inductive FilterKey where
  | field
  | operator
  | values
  | vector
  | json
  | or
deriving DecidableEq

namespace FilterKey

/-- The keys in the order in which an array lists them. -/
def all : List FilterKey := [.field, .operator, .values, .vector, .json, .or]

/-- The spellings of a key. -/
def spellings : FilterKey → List String
  | .field => ["field", "Field"]
  | .operator => ["operator", "Operator"]
  | .values => ["values", "Values"]
  | .vector => ["vector", "Vector", "isVector", "IsVector"]
  | .json => ["json", "Json", "isJson", "IsJson"]
  | .or => ["or", "Or", "OR"]

/-- The key of a spelling. -/
def ofText? (s : String) : Option FilterKey := all.find? fun key => key.spellings.contains s

end FilterKey

/-- The fields of a filter read so far. -/
structure FilterDraft where
  field : Option (Option String) := none
  operator : Option (Option String) := none
  values : Option (List Json) := none
  vector : Option Bool := none
  json : Option Bool := none
  or : Option (List FilterDescriptor) := none

namespace FilterDraft

/-- Reads a field of a filter other than its children. -/
def set (draft : FilterDraft) (levels : Nat) (d : Document) : FilterKey → Reading FilterDraft
  | .field =>
    Reading.once draft.field (fun v => { draft with field := some v })
      (.expect (d.nullOr? Document.string?))
  | .operator =>
    Reading.once draft.operator (fun v => { draft with operator := some v })
      (.expect (d.nullOr? Document.string?))
  | .values =>
    Reading.once draft.values (fun v => { draft with values := some v })
      (.expect (d.valueList? levels))
  | .vector =>
    Reading.once draft.vector (fun v => { draft with vector := some v }) (.expect d.bool?)
  | .json =>
    Reading.once draft.json (fun v => { draft with json := some v }) (.expect d.bool?)
  | .or => .malformed

/-- The filter of the fields: a group when it has children, and otherwise a leaf with a field that
is not blank. -/
def finish (draft : FilterDraft) : Reading FilterDescriptor :=
  match draft.or with
  | some (child :: children) => .ok (.group (child :: children))
  | _ =>
    match draft.field with
    | some (some field) =>
      if Text.allBlank field.toList then .error .missingField
      else
        .ok (.leaf
          { field := field
            operator := (draft.operator.bind id).getD "=="
            values := draft.values.getD []
            json := draft.json.getD false
            vector := draft.vector.getD false })
    | _ => .error .missingField

end FilterDraft

namespace FilterDescriptor

mutual

/-- Reads a filter inside which `levels` containers may be nested, itself among them. -/
def ofDocument (levels : Nat) : Document → Reading FilterDescriptor
  | .object members =>
    if levels = 0 then .malformed
    else do (← ofMembers (levels - 1) {} members).finish
  | .array items =>
    if levels = 0 then .malformed
    else do (← ofItems (levels - 1) {} FilterKey.all items).finish
  | _ => .malformed

/-- Reads the children of a group. -/
def ofChildren (levels : Nat) : Document → Reading (List FilterDescriptor)
  | .array items => if levels = 0 then .malformed else ofList (levels - 1) items
  | _ => .malformed

/-- Reads filters one after the other. -/
def ofList (levels : Nat) : List Document → Reading (List FilterDescriptor)
  | [] => .ok []
  | d :: ds => do
    let filter ← ofDocument levels d
    let filters ← ofList levels ds
    return filter :: filters

/-- Reads the members of an object into the fields of a filter. -/
def ofMembers (levels : Nat) (draft : FilterDraft) :
    List (Option String × Document) → Reading FilterDraft
  | [] => .ok draft
  | (none, _) :: _ => .malformed
  | (some name, d) :: rest =>
    match FilterKey.ofText? name with
    | none => if d.isWhole then ofMembers levels draft rest else .malformed
    | some .or => do
      let draft ← Reading.once draft.or (fun v => { draft with or := some v })
        (ofChildren levels d)
      ofMembers levels draft rest
    | some key => do
      let draft ← draft.set levels d key
      ofMembers levels draft rest

/-- Reads the items of an array into the fields of a filter, in the order of the keys. -/
def ofItems (levels : Nat) (draft : FilterDraft) :
    List FilterKey → List Document → Reading FilterDraft
  | _, [] => .ok draft
  | [], _ :: _ => .malformed
  | .or :: keys, d :: rest => do
    let children ← ofChildren levels d
    ofItems levels { draft with or := some children } keys rest
  | key :: keys, d :: rest => do
    let draft ← draft.set levels d key
    ofItems levels draft keys rest

end

end FilterDescriptor

/-! ### Sort keys -/

/-- The keys of a sort. -/
inductive SortField where
  | field
  | direction
  | json
deriving DecidableEq

namespace SortField

/-- The keys in the order in which an array lists them. -/
def all : List SortField := [.field, .direction, .json]

/-- The spellings of a key. -/
def spellings : SortField → List String
  | .field => ["field", "Field"]
  | .direction => ["direction", "Direction"]
  | .json => ["json", "Json", "isJson", "IsJson"]

/-- The key of a spelling. -/
def ofText? (s : String) : Option SortField := all.find? fun key => key.spellings.contains s

end SortField

/-- The fields of a sort read so far. -/
structure SortDraft where
  field : Option String := none
  direction : Option (Option String) := none
  json : Option Bool := none

namespace SortDraft

/-- Reads a field of a sort. -/
def set (draft : SortDraft) (d : Document) : SortField → Reading SortDraft
  | .field =>
    Reading.once draft.field (fun v => { draft with field := some v }) (.expect d.string?)
  | .direction =>
    Reading.once draft.direction (fun v => { draft with direction := some v })
      (.expect (d.nullOr? Document.string?))
  | .json =>
    Reading.once draft.json (fun v => { draft with json := some v }) (.expect d.bool?)

/-- The sort of the fields. -/
def finish (draft : SortDraft) : Reading SortDescriptor := do
  let field ← Reading.expect draft.field
  let direction ← match draft.direction.bind id with
    | none => pure .ascending
    | some text =>
      match Direction.ofText? text with
      | some direction => pure direction
      | none => throw (.unknownDirection text)
  return { field := field, direction := direction, json := draft.json.getD false }

/-- Reads the members of an object. -/
def ofMembers (draft : SortDraft) : List (Option String × Document) → Reading SortDraft
  | [] => .ok draft
  | (none, _) :: _ => .malformed
  | (some name, d) :: rest =>
    match SortField.ofText? name with
    | none => if d.isWhole then ofMembers draft rest else .malformed
    | some key => do ofMembers (← draft.set d key) rest

/-- Reads the items of an array. -/
def ofItems (draft : SortDraft) : List SortField → List Document → Reading SortDraft
  | _, [] => .ok draft
  | [], _ :: _ => .malformed
  | key :: keys, d :: rest => do ofItems (← draft.set d key) keys rest

end SortDraft

namespace SortDescriptor

/-- Reads a sort inside which `levels` containers may be nested, itself among them. -/
def ofDocument (levels : Nat) : Document → Reading SortDescriptor
  | .object members =>
    if levels = 0 then .malformed else do (← SortDraft.ofMembers {} members).finish
  | .array items =>
    if levels = 0 then .malformed else do (← SortDraft.ofItems {} SortField.all items).finish
  | _ => .malformed

/-- Reads an array of sorts. -/
def ofArray (levels : Nat) : Document → Reading (List SortDescriptor)
  | .array items => if levels = 0 then .malformed else items.mapM (ofDocument (levels - 1))
  | _ => .malformed

end SortDescriptor

/-! ### Queries -/

/-- The keys of a query. -/
inductive QueryKey where
  | page
  | pageSize
  | sorts
  | filters
deriving DecidableEq

namespace QueryKey

/-- The keys in the order in which an array lists them. -/
def all : List QueryKey := [.page, .pageSize, .sorts, .filters]

/-- The spellings of a key. -/
def spellings : QueryKey → List String
  | .page => ["page", "Page"]
  | .pageSize => ["pageSize", "pagesize", "PageSize"]
  | .sorts => ["sorts", "Sorts"]
  | .filters => ["filters", "Filters"]

/-- The key of a spelling. -/
def ofText? (s : String) : Option QueryKey := all.find? fun key => key.spellings.contains s

end QueryKey

/-- The fields of a query read so far. -/
structure QueryDraft where
  page : Option (Option Int64) := none
  pageSize : Option (Option Int64) := none
  sorts : Option (List SortDescriptor) := none
  filters : Option (List FilterDescriptor) := none

namespace QueryDraft

/-- Reads a field of a query. -/
def set (draft : QueryDraft) (levels : Nat) (d : Document) : QueryKey → Reading QueryDraft
  | .page =>
    Reading.once draft.page (fun v => { draft with page := some v })
      (.expect (d.nullOr? Document.int64?))
  | .pageSize =>
    Reading.once draft.pageSize (fun v => { draft with pageSize := some v })
      (.expect (d.nullOr? Document.int64?))
  | .sorts =>
    Reading.once draft.sorts (fun v => { draft with sorts := some v })
      (SortDescriptor.ofArray levels d)
  | .filters =>
    Reading.once draft.filters (fun v => { draft with filters := some v })
      (FilterDescriptor.ofChildren levels d)

/-- The query of the fields. -/
def finish (draft : QueryDraft) : Query where
  page := draft.page.bind id
  pageSize := draft.pageSize.bind id
  sorts := draft.sorts.getD []
  filters := draft.filters.getD []

/-- Reads the members of an object. -/
def ofMembers (levels : Nat) (draft : QueryDraft) :
    List (Option String × Document) → Reading QueryDraft
  | [] => .ok draft
  | (none, _) :: _ => .malformed
  | (some name, d) :: rest =>
    match QueryKey.ofText? name with
    | none => if d.isWhole then ofMembers levels draft rest else .malformed
    | some key => do ofMembers levels (← draft.set levels d key) rest

/-- Reads the items of an array. -/
def ofItems (levels : Nat) (draft : QueryDraft) :
    List QueryKey → List Document → Reading QueryDraft
  | _, [] => .ok draft
  | [], _ :: _ => .malformed
  | key :: keys, d :: rest => do ofItems levels (← draft.set levels d key) keys rest

end QueryDraft

/-- Reads a query inside which `levels` containers may be nested, itself among them. -/
def Query.ofDocument (levels : Nat) : Document → Reading Query
  | .object members =>
    if levels = 0 then .malformed
    else (QueryDraft.ofMembers (levels - 1) {} members).map QueryDraft.finish
  | .array items =>
    if levels = 0 then .malformed
    else (QueryDraft.ofItems (levels - 1) {} QueryKey.all items).map QueryDraft.finish
  | _ => .malformed

/-! ### Texts -/

/-- Reads a text that holds one document and nothing else. -/
def readText {α : Type} (read : Document → Reading α) (text : String) : Reading α :=
  let (d, complete) := Document.read text.toList
  do
    let a ← read d
    if complete then return a else .malformed

/-- Reads a filter. -/
def FilterDescriptor.ofText (text : String) : Reading FilterDescriptor :=
  readText (ofDocument nestingLimit) text

/-- Reads a sort. -/
def SortDescriptor.ofText (text : String) : Reading SortDescriptor :=
  readText (ofDocument nestingLimit) text

/-- Reads a query. -/
def Query.ofText (text : String) : Except QueryError Query :=
  (readText (ofDocument nestingLimit) text).mapError .invalidQuery

end RecordQuery
