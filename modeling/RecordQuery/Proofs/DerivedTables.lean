import Mathlib.Data.List.Nodup
import RecordQuery.Proofs.DeclaredContent
import RecordQuery.Proofs.Walks

/-!
# Derived tables

The schema and the three tables of a type with named fields are all read off the fields that are not
left out.  Renamed fields may share a name; then the name stands for the first of them
(`Declaration.Names`), and in all four tables alike (`RecordTables.answersWith_of_names`).  No table
mentions what is left out.  `Declaration.mirrors_of_derive` says all of this of every type for which
tables are generated.
-/

namespace RecordQuery

/-! ### Names in queries -/

namespace Declaration

/-- A name stands for a field: the first one of this name among those that are not left out. -/
inductive Names (d : Declaration) (name : String) (f : DeclaredField) : Prop where
  | first {before after : List DeclaredField} (fields : d.shownFields = before ++ f :: after)
      (named : f.queried = name) (others : ∀ g ∈ before, g.queried ≠ name)

variable {d : Declaration} {name : String} {f : DeclaredField}

/-- The field that a name stands for is the one that a search finds. -/
theorem names_iff_find? :
    d.Names name f ↔ d.shownFields.find? (fun g => g.queried == name) = some f := by
  rw [List.find?_eq_some_iff_append]
  constructor
  · rintro ⟨hfields, hnamed, hothers⟩
    exact ⟨beq_iff_eq.2 hnamed, _, _, hfields, by simpa using hothers⟩
  · rintro ⟨hnamed, before, after, hfields, hothers⟩
    exact .first hfields (beq_iff_eq.1 hnamed) (by simpa using hothers)

/-- A name stands for a field, or no field has it that is not left out. -/
theorem exists_names_or_forall_ne (d : Declaration) (name : String) :
    (∃ f, d.Names name f) ∨ ∀ f ∈ d.shownFields, f.queried ≠ name := by
  simp only [names_iff_find?]
  rcases hfind : d.shownFields.find? (fun g => g.queried == name) with _ | f
  · exact .inr (by simpa using hfind)
  · exact .inl ⟨f, hfind⟩

end Declaration

/-! ### Answers -/

namespace RecordTables

/-- The four tables list the fields of a type that are not left out, in order of declaration. -/
structure IsDrawnFrom (tables : RecordTables) (d : Declaration) : Prop where
  schema_eq : tables.schema = d.shownFields.map fun f => (f.queried, f.type)
  values_eq : tables.values = d.shownFields.map fun f => (f.queried, f.name)
  cardinalities_eq : tables.cardinalities = d.shownFields.map fun f => (f.queried, f.name)
  elements_eq : tables.elements = d.shownFields.map fun f => (f.queried, f.name)

/-- The arms of the three tables: names, and the fields of the type that they read, count and
visit. -/
def arms (tables : RecordTables) : List (String × String) :=
  tables.values ++ tables.cardinalities ++ tables.elements

/-- The tables answer a name with a field.  They read, count and visit what this field holds,
whatever the type holds elsewhere, and the schema has its type under the name. -/
structure AnswersWith (tables : RecordTables) (name : String) (f : DeclaredField) : Prop where
  read_eq : ∀ content, tables.read content name = (content f.name).value
  cardinality?_eq : ∀ content, tables.cardinality? content name = (content f.name).cardinality?
  visited_eq : ∀ content, tables.visited content name = (content f.name).elements
  type_eq : lookup tables.schema name = some f.type
  /-- The field of the name in the schema of an entity that is laid out by the tables. -/
  field?_eq : ∀ (layouts : Layouts) (entity : Entity) (typeOf : String → FieldType),
    layouts entity = tables.layout typeOf →
      (layouts.catalog.schema entity).field? name = some (.ofType name (typeOf f.type))

/-- The tables know nothing of a name: nothing is there to read, to count or to find, and the schema
does not have it. -/
structure IsSilent (tables : RecordTables) (name : String) : Prop where
  read_eq : ∀ content, tables.read content name = .scalar .null
  cardinality?_eq : ∀ content, tables.cardinality? content name = none
  any_eq : ∀ content condition, (tables.visited content name).any condition = false
  type_eq : lookup tables.schema name = none

/-- The tables mirror a declared type with named fields.  The schema lists what is not left out, in
order of declaration; the tables answer each name with the field that it stands for, and are silent
on other names; and no arm belongs to a field that is left out. -/
structure Mirrors (tables : RecordTables) (d : Declaration) : Prop where
  schema_eq : tables.schema = d.shownFields.map fun f => (f.queried, f.type)
  answers : ∀ name, (∃ f, d.Names name f ∧ tables.AnswersWith name f) ∨
    ((∀ f ∈ d.shownFields, f.queried ≠ name) ∧ tables.IsSilent name)
  arms_shown : ∀ arm ∈ tables.arms, ∃ f ∈ d.shownFields, arm = (f.queried, f.name)
  /-- The fields of a type have distinct names of their own. -/
  arms_hide : (d.fields.map DeclaredField.name).Nodup → ∀ f ∈ d.fields, f.isShown = false →
    ∀ arm ∈ tables.arms, arm.2 ≠ f.name

variable {d : Declaration} {tables : RecordTables} {name : String} {f : DeclaredField}

/-- A table with an entry for each field that is not left out finds the entry of the field that a
name stands for. -/
theorem lookup_of_names (h : d.Names name f) (entryOf : DeclaredField → String) :
    lookup (d.shownFields.map fun g => (g.queried, entryOf g)) name = some (entryOf f) := by
  unfold lookup
  rw [List.find?_map]
  change ((d.shownFields.find? fun g => g.queried == name).map _).map _ = _
  rw [Declaration.names_iff_find?.1 h]
  rfl

/-- Such a table finds nothing when the name stands for no field. -/
theorem lookup_of_forall_ne (h : ∀ f ∈ d.shownFields, f.queried ≠ name)
    (entryOf : DeclaredField → String) :
    lookup (d.shownFields.map fun g => (g.queried, entryOf g)) name = none := by
  have hnone : (d.shownFields.map fun g => (g.queried, entryOf g)).find?
      (fun entry => entry.1 == name) = none := by simpa using h
  rw [lookup, hnone, Option.map_none]

/-- In the schema of an entity that is laid out by tables, a name leads to the type that they have
for the field it stands for. -/
theorem field?_of_names (drawn : tables.IsDrawnFrom d) (h : d.Names name f) {layouts : Layouts}
    {entity : Entity} {typeOf : String → FieldType}
    (hlayout : layouts entity = tables.layout typeOf) :
    (layouts.catalog.schema entity).field? name = some (.ofType name (typeOf f.type)) := by
  obtain ⟨hfields, hnamed, hothers⟩ := h
  have hcatalog : (layouts.catalog.schema entity).fields =
      d.shownFields.map fun g => .ofType g.queried (typeOf g.type) := by
    change (layouts entity).fields.map _ = _
    rw [hlayout, layout, drawn.schema_eq, List.map_map, List.map_map]
    rfl
  rw [hfields, List.map_append, List.map_cons, hnamed] at hcatalog
  exact Schema.field?_eq_some_iff.2 (.exact hcatalog rfl (List.forall_mem_map.2 hothers))

/-- A name is answered with the field that it stands for. -/
theorem answersWith_of_names (drawn : tables.IsDrawnFrom d) (h : d.Names name f) :
    tables.AnswersWith name f := by
  have hmember := lookup_of_names h DeclaredField.name
  constructor
  case read_eq =>
    intro content
    rw [read, drawn.values_eq, hmember]
  case cardinality?_eq =>
    intro content
    rw [cardinality?, drawn.cardinalities_eq, hmember, Option.bind_some]
  case visited_eq =>
    intro content
    rw [visited, drawn.elements_eq, hmember]
  case type_eq =>
    rw [drawn.schema_eq]
    exact lookup_of_names h DeclaredField.type
  case field?_eq =>
    intro layouts entity typeOf hlayout
    exact field?_of_names drawn h hlayout

/-- A name that stands for no field is not known. -/
theorem isSilent_of_forall_ne (drawn : tables.IsDrawnFrom d)
    (h : ∀ f ∈ d.shownFields, f.queried ≠ name) : tables.IsSilent name := by
  have hmember := lookup_of_forall_ne h DeclaredField.name
  constructor
  case read_eq =>
    intro content
    rw [read, drawn.values_eq, hmember]
  case cardinality?_eq =>
    intro content
    rw [cardinality?, drawn.cardinalities_eq, hmember, Option.bind_none]
  case any_eq =>
    intro content condition
    rw [visited, drawn.elements_eq, hmember]
    rfl
  case type_eq =>
    rw [drawn.schema_eq]
    exact lookup_of_forall_ne h DeclaredField.type

/-- Each arm is that of a field that is not left out. -/
theorem IsDrawnFrom.exists_of_mem_arms (drawn : tables.IsDrawnFrom d) {arm : String × String}
    (h : arm ∈ tables.arms) : ∃ f ∈ d.shownFields, arm = (f.queried, f.name) := by
  unfold arms at h
  rw [drawn.values_eq, drawn.cardinalities_eq, drawn.elements_eq] at h
  have hmem : arm ∈ d.shownFields.map fun f => (f.queried, f.name) := by
    simpa only [List.mem_append, or_self] using h
  obtain ⟨f, hf, rfl⟩ := List.mem_map.1 hmem
  exact ⟨f, hf, rfl⟩

end RecordTables

/-! ### Agreement -/

namespace Declaration

variable {d : Declaration}

/-- When fields have distinct names, those that are not left out share none with those that are. -/
theorem name_ne_of_isShown_eq_false (distinct : (d.fields.map DeclaredField.name).Nodup)
    {f g : DeclaredField} (hf : f ∈ d.fields) (hhidden : f.isShown = false)
    (hg : g ∈ d.shownFields) : g.name ≠ f.name := by
  obtain ⟨hmem, hshown⟩ := List.mem_filter.1 hg
  intro hname
  obtain rfl := List.inj_on_of_nodup_map distinct hmem hf hname
  rw [hhidden] at hshown
  cases hshown

/-- The tables of a type are drawn from it. -/
theorem isDrawnFrom_of_derive {tables : RecordTables} (h : d.derive = .ok (.record tables)) :
    tables.IsDrawnFrom d := by
  obtain rfl := tables_eq h
  exact ⟨List.map_map, List.map_map, List.map_map, List.map_map⟩

/-- Whatever is generated for a type with named fields is tables that mirror the type. -/
theorem mirrors_of_derive {fields : List DeclaredField} {derived : Derived}
    (shape : d.shape = .named fields) (h : d.derive = .ok derived) :
    ∃ tables, derived = .record tables ∧ tables.Mirrors d := by
  obtain ⟨-, -, rfl⟩ | ⟨members, names, henumeration, -⟩ := derive_eq_ok h
  · have drawn := isDrawnFrom_of_derive h
    refine ⟨_, rfl, drawn.schema_eq, ?_, fun arm => drawn.exists_of_mem_arms, ?_⟩
    · intro name
      rcases d.exists_names_or_forall_ne name with ⟨f, hf⟩ | hne
      · exact .inl ⟨f, hf, RecordTables.answersWith_of_names drawn hf⟩
      · exact .inr ⟨hne, RecordTables.isSilent_of_forall_ne drawn hne⟩
    · intro distinct f hf hhidden arm harm
      obtain ⟨g, hg, rfl⟩ := drawn.exists_of_mem_arms harm
      exact name_ne_of_isShown_eq_false distinct hf hhidden hg
  · rw [shape] at henumeration
    cases henumeration

/-- A gate.  Its number is renamed twice, and two of its fields are given the name of a third, one
of which is left out. -/
def gate : Declaration where
  name := "Gate"
  shape := .named [⟨"number", "u64", [.list [.rename "code"], .foreign, .list [.rename "id"]]⟩,
    ⟨"token", "String", [.list [.rename "in"], .list [.skip]]⟩, ⟨"r#in", "String", []⟩,
    ⟨"entry", "Option<i64>", [.list [.rename "in"]]⟩]

/-- The tables of a gate. -/
def gateTables : RecordTables :=
  recordTables "Gate"
    [⟨"id", "number", "u64"⟩, ⟨"in", "r#in", "String"⟩, ⟨"in", "entry", "Option<i64>"⟩]

/-- The type that the schema of a gate has for a name is that of the first field which is known by
it, and so is what is read under the name.  What is left out is found under no name. -/
theorem mirrors_gate : gate.shape = .named gate.fields ∧
    gate.derive = .ok (.record gateTables) ∧ gateTables.Mirrors gate ∧
      RecordTables.lookup gateTables.schema "in" = some "String" ∧
      (∀ content, gateTables.read content "in" = (content "r#in").value) ∧
      ∀ arm ∈ gateTables.arms, arm.2 ≠ "token" := by
  have hderive : gate.derive = .ok (.record gateTables) :=
    derive_of_isIdentifier rfl (by decide) rfl (by decide)
  obtain ⟨tables, ⟨⟩, mirrors⟩ := mirrors_of_derive (d := gate) rfl hderive
  have htoken : ⟨"token", "String", [.list [.rename "in"], .list [.skip]]⟩ ∈ gate.fields := by
    simp [fields, gate]
  exact ⟨rfl, hderive, mirrors, by decide, fun content => rfl,
    mirrors.arms_hide (by decide) _ htoken (by decide)⟩

end Declaration

end RecordQuery
