import RecordQuery.Proofs.Conformity
import RecordQuery.Proofs.InPlace

/-!
# Content of declared types

What a field can hold is known from how its type is built (`Stored.ContentOf`): a number in its
declared width, a member of an enumeration, a document, a record with content in each of its fields,
and all of these in options, collections and boxes.  Nothing here speaks of kinds.  Such content
fits its type (`Stored.ContentOf.fits`), and so it reads as a value of the kind of the type.

The types that are derived from declarations are among them: the places of the members of an
enumeration (`Declaration.contentOf_of_derive`), and the records of a type with named fields
(`Declaration.isOf_of_derive`).
-/

namespace RecordQuery

/-! ### Numbers -/

/-- A number in the width that its field is declared with. -/
inductive MachineNumber where
  | int8 (n : Int8)
  | int16 (n : Int16)
  | int32 (n : Int32)
  | int64 (n : Int64)
  | intSize (n : ISize)
  | uint8 (n : UInt8)
  | uint16 (n : UInt16)
  | uint32 (n : UInt32)
  | uint64 (n : UInt64)
  | uintSize (n : USize)
  /-- A double that is rounded to single precision. -/
  | single (x : Double)
  | double (x : Double)

namespace MachineNumber

/-- The type of fields that hold the number. -/
def type : MachineNumber → FieldType
  | .int8 _ | .int16 _ | .int32 _ | .int64 _ | .intSize _ => .int
  | .uint8 _ | .uint16 _ | .uint32 _ | .uint64 _ | .uintSize _ => .uint
  | .single _ => .single
  | .double _ => .float

/-- The number that is read, in 64 bits. -/
def number : MachineNumber → Number
  | .int8 n => .signed n.toInt64
  | .int16 n => .signed n.toInt64
  | .int32 n => .signed n.toInt64
  | .int64 n => .signed n
  | .intSize n => .signed n.toInt64
  | .uint8 n => .unsigned n.toUInt64
  | .uint16 n => .unsigned n.toUInt64
  | .uint32 n => .unsigned n.toUInt64
  | .uint64 n => .unsigned n
  | .uintSize n => .unsigned n.toUInt64
  | .single x => .float x.toSingle
  | .double x => .float x

/-- A number is read in the representation of the kind of its type. -/
theorem isOf_number (n : MachineNumber) : (Scalar.number n.number).isOf n.type.kind = true := by
  cases n <;> rfl

end MachineNumber

/-! ### Content -/

namespace Stored

/-- What a field of a type can hold. -/
inductive ContentOf (layouts : Layouts) : FieldType → Stored → Prop where
  | string (s : String) : ContentOf layouts .string (.scalar (.string s))
  | number (n : MachineNumber) : ContentOf layouts n.type (.scalar (.number n.number))
  | bool (b : Bool) : ContentOf layouts .bool (.scalar (.bool b))
  | uuid (u : Uuid) : ContentOf layouts .uuid (.scalar (.uuid u))
  | dateTime (t : DateTime) : ContentOf layouts .dateTime (.scalar (.dateTime t))
  | utc (t : DateTime) : ContentOf layouts .utc (.scalar (.dateTime { t with offset := 0 }))
  | date (d : Date) : ContentOf layouts .date (.scalar (.date d))
  | time (t : Time) : ContentOf layouts .time (.scalar (.time t))
  | duration (d : Duration) : ContentOf layouts .duration (.scalar (.duration d))
  | member {members : List EnumMember} (place : Fin members.length) :
      ContentOf layouts (.enumeration members) (.scalar (.enumeration place))
  | json (doc : Json) : ContentOf layouts .json (.json doc)
  | record {entity : Entity} (identity : Nat) {fields : List (String × Stored)}
      (names : fields.map Prod.fst = (layouts entity).fields.map FieldLayout.name)
      (contents : ∀ pair ∈ (layouts entity).fields.zip fields,
        ContentOf layouts pair.1.type pair.2.2) :
      ContentOf layouts (.record entity)
        (.record identity entity (layouts entity).access fields)
  | absent (content : FieldType) : ContentOf layouts (.option content) .absent
  | present {content : FieldType} {stored : Stored} (h : ContentOf layouts content stored) :
      ContentOf layouts (.option content) (.present stored)
  | items {element : FieldType} {elements : List Stored}
      (h : ∀ x ∈ elements, ContentOf layouts element x) :
      ContentOf layouts (.list element) (.items elements)
  | boxed {content : FieldType} {stored : Stored} (h : ContentOf layouts content stored) :
      ContentOf layouts (.box content) (.boxed stored)

variable {layouts : Layouts}

/-- Contents fit a type when each of them does. -/
theorem fitsAll_iff {type : FieldType} {xs : List Stored} :
    fitsAll layouts type xs = true ↔ ∀ x ∈ xs, fits layouts type x = true := by
  induction xs with
  | nil => exact iff_of_true rfl (by simp)
  | cons x xs ih => rw [fitsAll, Bool.and_eq_true, ih, List.forall_mem_cons]

/-- Fields fit when they are the declared ones and the content of each of them fits. -/
theorem fitsFields_of_forall {declared : List FieldLayout} {fields : List (String × Stored)}
    (names : fields.map Prod.fst = declared.map FieldLayout.name)
    (h : ∀ pair ∈ declared.zip fields, fits layouts pair.1.type pair.2.2 = true) :
    fitsFields layouts declared fields = true := by
  induction declared generalizing fields with
  | nil =>
    obtain rfl := List.map_eq_nil_iff.1 names
    rfl
  | cons f declared ih =>
    cases fields with
    | nil => cases names
    | cons entry fields =>
      obtain ⟨name, stored⟩ := entry
      obtain ⟨rfl, hnames⟩ := List.cons.inj names
      have hfirst : fits layouts f.type stored = true := h (f, f.name, stored) List.mem_cons_self
      have hrest := ih hnames fun pair hpair => h pair (List.mem_cons_of_mem _ hpair)
      rw [fitsFields, hfirst, hrest, beq_self_eq_true]
      rfl

/-- Content of a type fits it. -/
theorem ContentOf.fits {type : FieldType} {stored : Stored} (h : ContentOf layouts type stored) :
    stored.fits layouts type = true := by
  induction h with
  | number n =>
    have hkind := n.isOf_number
    cases n <;> exact hkind
  | member place => exact decide_eq_true (by rw [List.length_map]; exact place.isLt)
  | record identity names _ ih =>
    rw [Stored.fits, fitsFields_of_forall names ih]
    simp
  | present _ ih => exact ih
  | items _ ih => exact fitsAll_iff.2 ih
  | boxed _ ih => exact ih
  | _ => rfl

end Stored

/-! ### Derived types -/

/-- The type of the members of an enumeration. -/
def MemberTables.type (tables : MemberTables) : FieldType :=
  .enumeration (List.zipWith (fun place queried => ⟨place.1, queried⟩) tables.places tables.names)

/-- The layout of a type with named fields, where `typeOf` says what the texts of types mean. -/
def RecordTables.layout (tables : RecordTables) (typeOf : String → FieldType) : RecordLayout where
  fields := tables.schema.map fun entry => { name := entry.1, type := typeOf entry.2 }

/-- The fields of a type with named fields hold content of their types, where `typeOf` says what the
texts of types mean and `content` what the fields hold. -/
def RecordTables.Holds (tables : RecordTables) (layouts : Layouts) (typeOf : String → FieldType)
    (content : String → Stored) : Prop :=
  ∀ pair ∈ tables.schema.zip tables.values,
    (content pair.2.2).ContentOf layouts (typeOf pair.1.2)

/-- With a name for each member, the kind of an enumeration has these names. -/
theorem MemberTables.kind_type {tables : MemberTables}
    (h : tables.names.length = tables.places.length) :
    tables.type.kind = .enumeration tables.names := by
  rw [type, FieldType.kind, List.map_zipWith]
  congr 1
  refine List.ext_getElem (by simp [h]) ?_
  intro i _ _
  rw [List.getElem_zipWith]

namespace Declaration

variable {layouts : Layouts} {d : Declaration}

/-- The kind of a derived enumeration has the names of its members, and the place of each member is
content of its type. -/
theorem contentOf_of_derive {tables : MemberTables} (h : d.derive = .ok (.enumeration tables)) :
    tables.type.kind = .enumeration tables.names ∧
      ∀ place ∈ tables.places,
        (Stored.scalar (.enumeration place.2)).ContentOf layouts tables.type := by
  obtain ⟨-, -, ⟨⟩⟩ | ⟨members, names, -, hnames, ⟨⟩⟩ := derive_eq_ok h
  have hlength : names.length = (members.zipIdx.map fun p => (p.1.name, p.2)).length := by
    rw [List.length_map, List.length_zipIdx]
    exact Outcome.length_of_mapM_ok hnames
  refine ⟨MemberTables.kind_type hlength, ?_⟩
  intro place hplace
  obtain ⟨⟨member, index⟩, hmember, rfl⟩ := List.mem_map.1 hplace
  have hindex : index < members.length := (List.mem_zipIdx' hmember).1
  have hbound : index < (List.zipWith (fun (place : String × Nat) queried =>
      (⟨place.1, queried⟩ : EnumMember)) (members.zipIdx.map fun p => (p.1.name, p.2))
        names).length := by
    rw [List.length_zipWith, hlength]
    simpa using hindex
  exact .member ⟨index, hbound⟩

/-- A record of a derived type is content of the type of its entity, when its fields hold content of
their types. -/
theorem contentOf_record_of_derive {tables : RecordTables} (h : d.derive = .ok (.record tables))
    {typeOf : String → FieldType} {entity : Entity}
    (hlayout : layouts entity = tables.layout typeOf) {content : String → Stored}
    (hcontent : tables.Holds layouts typeOf content) (identity : Nat) :
    (Stored.record identity entity .inPlace
      (tables.record content identity entity).fields).ContentOf layouts (.record entity) := by
  obtain rfl := tables_eq h
  generalize d.entityName = name, d.shownFields.map DeclaredField.exposed = exposed at *
  have hdeclared : (layouts entity).fields =
      exposed.map fun f => { name := f.name, type := typeOf f.type } := by
    rw [hlayout]
    exact List.map_map
  have hheld : ((recordTables name exposed).record content identity entity).fields =
      exposed.map fun f => (f.name, content f.member) := List.map_map
  have haccess : (layouts entity).access = .inPlace := by
    rw [hlayout]
    rfl
  rw [← haccess, hheld]
  refine .record identity (by rw [hdeclared, List.map_map, List.map_map]; rfl) ?_
  intro pair hpair
  rw [hdeclared, List.zip_map', List.mem_map] at hpair
  obtain ⟨f, hf, rfl⟩ := hpair
  refine hcontent ((f.name, f.type), f.name, f.member) ?_
  unfold recordTables
  rw [List.zip_map']
  exact List.mem_map_of_mem hf

/-- A record of a derived type holds what its layout declares, when its fields hold content of their
types. -/
theorem isOf_of_derive {tables : RecordTables} (h : d.derive = .ok (.record tables))
    {typeOf : String → FieldType} {entity : Entity}
    (hlayout : layouts entity = tables.layout typeOf) {content : String → Stored}
    (hcontent : tables.Holds layouts typeOf content) (identity : Nat) :
    (tables.record content identity entity).IsOf layouts entity :=
  ⟨rfl, Stored.fits_of_value_eq_record
    (contentOf_record_of_derive h hlayout hcontent identity).fits rfl⟩

end Declaration

end RecordQuery
