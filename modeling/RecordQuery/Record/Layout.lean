import RecordQuery.Calendar.Loose
import RecordQuery.Record
import RecordQuery.Scalar.Tagged
import RecordQuery.Schema

/-!
# Layouts of records

A layout declares an entity: its fields in order, their types, and what each of them shows.  With
the layouts of all entities, records are read from JSON objects.  A member gives the content of the
field of its name, and a field without a member has the default of its type.  Every record that is
read, nested ones included, gets an identity of its own.
-/

namespace RecordQuery

/-- What a field of a record shows. -/
inductive Content where
  /-- The member of the field's own name, read by the field's type. -/
  | own
  /-- The member of the field's own name, a tagged scalar of any type. -/
  | anyScalar
  /-- The text that the member of another name gives. -/
  | textOf (name : String)
  /-- Nothing, whatever its type. -/
  | nothing
deriving DecidableEq

/-- A declared field. -/
structure FieldLayout where
  name : String
  type : FieldType
  content : Content := .own

/-- A declared entity. -/
structure RecordLayout where
  access : ElementAccess := .inPlace
  fields : List FieldLayout

/-- The layouts of all entities. -/
abbrev Layouts := Entity → RecordLayout

/-- The schemas of the entities. -/
def Layouts.catalog (layouts : Layouts) : Catalog where
  fields entity := (layouts entity).fields.map fun f => .ofType f.name f.type

namespace FieldType

/-- What a field without a member holds. -/
def default : FieldType → Stored
  | .string => .scalar (.string "")
  | .int => .scalar (.number (.signed 0))
  | .uint => .scalar (.number (.unsigned 0))
  | .float | .single => .scalar (.number (.float (Double.zero false)))
  | .bool => .scalar (.bool false)
  | .uuid => .scalar (.uuid ⟨0⟩)
  | .dateTime | .utc => .scalar (.dateTime ⟨0, 0, 0⟩)
  | .date => .scalar (.date ⟨0⟩)
  | .time => .scalar (.time .midnight)
  | .duration => .scalar (.duration .zero)
  | .enumeration _ => .scalar (.enumeration 0)
  | .json => .json .null
  | .record _ | .option _ => .absent
  | .list _ => .items []
  | .box content => .boxed content.default

/-- A double, as a number or as the text of one. -/
def readDouble? : Json → Option Double
  | .number n => some n.toDouble
  | .string s => Double.ofText? s.toList
  | _ => none

/-- A scalar of a type.  Durations are milliseconds, and members of enumerations go by their
declared names. -/
def readScalar? (type : FieldType) (j : Json) : Option Scalar :=
  match type, j with
  | .string, .string s => some (.string s)
  | .int, j => j.int?.map fun n => .number (.signed (.ofInt n))
  | .uint, j => j.int?.map fun n => .number (.unsigned (.ofNat n.toNat))
  | .float, j => (readDouble? j).map fun x => .number (.float x)
  | .single, j => (readDouble? j).map fun x => .number (.float x.toSingle)
  | .bool, .bool b => some (.bool b)
  | .uuid, .string s => (Uuid.ofText? s.toList).map .uuid
  | .dateTime, .string s => (DateTime.ofLoose? s).map .dateTime
  | .utc, .string s => (DateTime.ofLoose? s).map fun t => .dateTime { t with offset := 0 }
  | .date, .string s => (Date.ofLoose? s).map .date
  | .time, .string s => (Time.ofLoose? s).map .time
  | .duration, j => (j.int?.bind Duration.ofMilliseconds?).map .duration
  | .enumeration members, .string s =>
    (members.findIdx? fun m => m.declared == s).map .enumeration
  | _, _ => none

end FieldType

/-! ### Reading records -/

/-- A reading that numbers records as it meets them. -/
abbrev Numbering := StateT Nat Option

namespace Layouts

/-- Reads what a field of a type holds. -/
def readStored (layouts : Layouts) (type : FieldType) (j : Json) : Numbering Stored :=
  match type, j with
  | .option _, .null => pure .absent
  | .option content, j => do return .present (← readStored layouts content j)
  | .box content, j => do return .boxed (← readStored layouts content j)
  | .list element, .array items => do
    return .items (← items.attach.mapM fun ⟨item, _⟩ => readStored layouts element item)
  | .json, j => pure (.json j)
  | .record entity, j => do
    let identity ← getModify (· + 1)
    let layout := layouts entity
    let fields ← layout.fields.mapM fun f => do
      let stored ← match f.content with
        | .own =>
          match h : j.member? f.name with
          | some v =>
            have := Json.sizeOf_member?_lt h
            readStored layouts f.type v
          | none => pure f.type.default
        | .anyScalar =>
          match j.member? f.name with
          | some v => do pure (.scalar (← Scalar.ofTagged? v))
          | none => pure .absent
        | .textOf name =>
          match j.member? name with
          | some (.string s) => pure (.scalar (.string s))
          | _ => pure (.scalar (.string ""))
        | .nothing => pure .absent
      return (f.name, stored)
    return .record identity entity layout.access fields
  | type, j => do return .scalar (← type.readScalar? j)
termination_by (sizeOf j, sizeOf type)
decreasing_by
  all_goals simp_wf
  · exact Prod.Lex.right _ (by omega)
  · exact Prod.Lex.right _ (by omega)
  · exact Prod.Lex.left _ _ (by have := List.sizeOf_lt_of_mem ‹_›; omega)
  · exact Prod.Lex.left _ _ ‹_›

/-- Reads records of one entity, giving identities from zero on. -/
def readRecords? (layouts : Layouts) (entity : Entity) (objects : List Json) :
    Option (List Record) := do
  let read : Numbering (List Stored) := objects.mapM (layouts.readStored (.record entity))
  (← read.run' 0).mapM fun stored => stored.value.record?

end Layouts

end RecordQuery
