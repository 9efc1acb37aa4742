import RecordQuery.Proofs.Typing
import RecordQuery.Record.Layout

/-!
# Records that fit their layouts

A record fits its layout when each of its fields holds content of the type that the field is
declared with, and nested records fit theirs (`Record.fits`).  Such a record reads as the catalog of
the layouts says: at the end of every chain of canonical names there is null or a value of the kind
of the field (`Access.conforms_read`).
-/

namespace RecordQuery

/-! ### Content of a type -/

namespace Stored

mutual

/-- The content is one that a field of the type can hold. -/
def fits (layouts : Layouts) : FieldType → Stored → Bool
  | .option _, .absent => true
  | .option content, .present stored => fits layouts content stored
  | .box content, .boxed stored => fits layouts content stored
  | .option _, .scalar _ | .box _, .scalar _ => false
  | type, .scalar s => s.isOf type.kind
  | .json, .json _ => true
  | .list element, .items stored => fitsAll layouts element stored
  | .record entity, .record _ actual access fields =>
    actual == entity && access == (layouts entity).access &&
      fitsFields layouts (layouts entity).fields fields
  | _, _ => false

/-- All contents are ones that a field of the type can hold. -/
def fitsAll (layouts : Layouts) (type : FieldType) : List Stored → Bool
  | [] => true
  | stored :: rest => fits layouts type stored && fitsAll layouts type rest

/-- The fields are the declared ones, in their order, and hold content of their types. -/
def fitsFields (layouts : Layouts) : List FieldLayout → List (String × Stored) → Bool
  | [], [] => true
  | f :: declared, (name, stored) :: fields =>
    name == f.name && fits layouts f.type stored && fitsFields layouts declared fields
  | _, _ => false

end

end Stored

/-- The record holds in each field content of the type that its entity declares. -/
def Record.fits (layouts : Layouts) (r : Record) : Bool :=
  r.access == (layouts r.entity).access &&
    Stored.fitsFields layouts (layouts r.entity).fields r.fields

/-- The record is one of an entity, and fits its layout. -/
def Record.IsOf (layouts : Layouts) (entity : Entity) (r : Record) : Prop :=
  r.entity = entity ∧ r.fits layouts = true

/-- A value that a field of a kind may read as: null, or one of the shape of the kind. -/
inductive Value.Conforms : Value → Kind → Prop where
  | null (kind : Kind) : Conforms (.scalar .null) kind
  | scalar {s : Scalar} {kind : Kind} (h : s.isOf kind = true) : Conforms (.scalar s) kind
  | json {doc : Json} (h : doc ≠ .null) : Conforms (.json doc) .json
  | record (r : Record) : Conforms (.record r) (.record r.entity)
  | list {elements : List Value} {kind : Kind} (h : ∀ x ∈ elements, Conforms x kind) :
      Conforms (.list elements) (.list kind)

namespace Stored

variable {layouts : Layouts}

mutual

/-- Content of a type reads as null or as a value of the kind of the type. -/
theorem conforms_value {type : FieldType} {stored : Stored} (h : fits layouts type stored = true) :
    stored.value.Conforms type.kind := by
  cases stored with
  | absent => exact .null _
  | present content =>
    cases type with
    | option inner =>
      have hcontent : fits layouts inner content = true := h
      have hvalue : content.value.Conforms inner.kind := conforms_value hcontent
      exact hvalue
    | _ => cases h
  | boxed content =>
    cases type with
    | box inner =>
      have hcontent : fits layouts inner content = true := h
      have hvalue : content.value.Conforms inner.kind := conforms_value hcontent
      exact hvalue
    | _ => cases h
  | scalar s =>
    cases type with
    | option _ | box _ => cases h
    | _ => exact .scalar h
  | json doc =>
    cases type with
    | json =>
      cases doc with
      | null => exact .null _
      | _ => exact .json (by simp)
    | _ => cases h
  | items elements =>
    cases type with
    | list element => exact .list (conforms_values h)
    | _ => cases h
  | record identity actual access fields =>
    cases type with
    | record entity =>
      simp only [fits, Bool.and_eq_true, beq_iff_eq] at h
      obtain ⟨⟨rfl, -⟩, -⟩ := h
      exact .record ⟨identity, actual, access, fields⟩
    | _ => cases h

/-- Contents of a type read as values of its kind. -/
theorem conforms_values {type : FieldType} {stored : List Stored}
    (h : fitsAll layouts type stored = true) : ∀ x ∈ values stored, x.Conforms type.kind := by
  cases stored with
  | nil =>
    intro x hx
    cases hx
  | cons first rest =>
    obtain ⟨hfirst, hrest⟩ := Bool.and_eq_true_iff.1 h
    intro x hx
    rcases List.mem_cons.1 hx with rfl | hx
    · exact conforms_value hfirst
    · exact conforms_values hrest x hx

end

/-- A record that content of a type reads as fits its own layout. -/
theorem fits_of_value_eq_record {type : FieldType} {stored : Stored} {r : Record}
    (h : fits layouts type stored = true) (hvalue : stored.value = .record r) :
    r.fits layouts = true := by
  cases stored with
  | absent => cases hvalue
  | present content =>
    cases type with
    | option inner =>
      have hcontent : fits layouts inner content = true := h
      exact fits_of_value_eq_record hcontent hvalue
    | _ => cases h
  | boxed content =>
    cases type with
    | box inner =>
      have hcontent : fits layouts inner content = true := h
      exact fits_of_value_eq_record hcontent hvalue
    | _ => cases h
  | scalar s => cases hvalue
  | json doc => cases doc <;> cases hvalue
  | items elements => cases hvalue
  | record identity actual access fields =>
    cases type with
    | record entity =>
      cases hvalue
      simp only [fits, Bool.and_eq_true, beq_iff_eq] at h
      obtain ⟨⟨rfl, haccess⟩, hfields⟩ := h
      simp [Record.fits, haccess, hfields]
    | _ => cases h

/-- A declared field is found among the fields of a record, with content of its type. -/
theorem find?_of_fitsFields {declared : List FieldLayout} {fields : List (String × Stored)}
    (h : fitsFields layouts declared fields = true) {name : String} {f : FieldLayout}
    (hfind : declared.find? (fun f => f.name == name) = some f) :
    ∃ stored, fields.find? (fun entry => entry.1 == name) = some (f.name, stored) ∧
      fits layouts f.type stored = true := by
  induction declared generalizing fields with
  | nil => cases hfind
  | cons first declared ih =>
    cases fields with
    | nil => cases h
    | cons entry fields =>
      obtain ⟨entryName, stored⟩ := entry
      simp only [fitsFields, Bool.and_eq_true, beq_iff_eq] at h
      obtain ⟨⟨rfl, hstored⟩, hrest⟩ := h
      rw [List.find?_cons] at hfind ⊢
      cases hname : first.name == name with
      | true =>
        rw [hname] at hfind
        cases hfind
        exact ⟨stored, rfl, hstored⟩
      | false =>
        rw [hname] at hfind
        exact ih hrest hfind

end Stored

/-! ### Reading -/

namespace Record

variable {layouts : Layouts} {r : Record} {field : Field}

/-- A canonical field of a record that fits holds content of the type that it is declared with. -/
theorem fits_stored (hfits : r.fits layouts = true)
    (hfield : (layouts.catalog.schema r.entity).canonical? field.name = some field) :
    ∃ type : FieldType, Field.ofType field.name type = field ∧
      (r.stored field.name).fits layouts type = true := by
  obtain ⟨-, hfields⟩ := Bool.and_eq_true_iff.1 hfits
  have hdeclared : ((layouts r.entity).fields.map fun f => Field.ofType f.name f.type).find?
      (fun f => f.name == field.name) = some field := hfield
  rw [List.find?_map, Option.map_eq_some_iff] at hdeclared
  obtain ⟨f, hfind, rfl⟩ := hdeclared
  obtain ⟨stored, hstored, hcontent⟩ := Stored.find?_of_fitsFields hfields hfind
  refine ⟨f.type, rfl, ?_⟩
  unfold Record.stored
  rw [hstored]
  exact hcontent

/-- A canonical field of a record that fits reads as null or as a value of its kind. -/
theorem conforms_read (hfits : r.fits layouts = true)
    (hfield : (layouts.catalog.schema r.entity).canonical? field.name = some field) :
    (r.read field.name).Conforms field.kind := by
  obtain ⟨type, htype, hstored⟩ := fits_stored hfits hfield
  have hkind : type.kind = field.kind := congrArg Field.kind htype
  rw [← hkind]
  exact Stored.conforms_value hstored

/-- A nested record of a record that fits does so too. -/
theorem fits_of_read_eq_record (hfits : r.fits layouts = true)
    (hfield : (layouts.catalog.schema r.entity).canonical? field.name = some field) {next : Record}
    (hread : r.read field.name = .record next) : next.fits layouts = true := by
  obtain ⟨type, -, hstored⟩ := fits_stored hfits hfield
  exact Stored.fits_of_value_eq_record hstored hread

end Record

namespace Access

/-- A chain is read in the record that its first name leads to; where there is none it reads as
null. -/
theorem read_cons_cons (name next : String) (rest : Access) (r : Record) :
    read (name :: next :: rest) r =
      match r.read name with
      | .record inner => read (next :: rest) inner
      | _ => .scalar .null := by
  cases hread : r.read name <;> simp [read, locate?, hread]

/-- At the end of a chain of canonical names a record that fits reads as null or as a value of the
kind of the field. -/
theorem conforms_read {layouts : Layouts} {access : Access} {r : Record} {field : Field}
    (hfits : r.fits layouts = true)
    (reads : layouts.catalog.fieldAt? (layouts.catalog.schema r.entity) access = some field) :
    (access.read r).Conforms field.kind := by
  induction access generalizing r with
  | nil => cases reads
  | cons name rest ih =>
    cases rest with
    | nil =>
      have hname := Schema.name_of_canonical? reads
      subst hname
      exact Record.conforms_read hfits reads
    | cons next rest =>
      obtain ⟨parent, entity, hparent, hkind, hrest⟩ := Catalog.fieldAt?_cons reads
      have hname := Schema.name_of_canonical? hparent
      subst hname
      have hconforms := Record.conforms_read hfits hparent
      rw [hkind] at hconforms
      rw [read_cons_cons]
      cases hread : r.read parent.name with
      | record inner =>
        rw [hread] at hconforms
        cases hconforms
        exact ih (Record.fits_of_read_eq_record hfits hparent hread) hrest
      | _ => exact .null _

end Access

end RecordQuery
