import Mathlib.Data.List.Forall2
import RecordQuery.JsonPath
import RecordQuery.Proofs.Outcome

/-!
# Resolved paths

What a path that has been resolved looks like.  Every name along it is the canonical name of a field
of the schema that it is looked up on (`FieldPath.Typed`), and the names agree with the segments
that were written (`agree_names_of_resolve`).

`Catalog.schemaAt?` and `Catalog.fieldAt?` follow a chain of canonical names through nested records.
They say what an access is allowed to be, without mention of how it was resolved.
-/

namespace RecordQuery

/-! ### Canonical names -/

/-- The first field with exactly the given name. -/
def Schema.canonical? (schema : Schema) (name : String) : Option Field :=
  schema.fields.find? fun f => f.name == name

namespace Schema

variable {schema : Schema} {name : String} {field : Field}

/-- A field is found under its own name. -/
theorem name_of_canonical? (h : schema.canonical? name = some field) : field.name = name := by
  have hname := List.find?_some h
  exact beq_iff_eq.1 hname

/-- The field that a look-up finds agrees with the name that was asked for. -/
theorem agree_of_field? (h : schema.field? name = some field) :
    Text.agree field.name name = true := by
  unfold field? lookupName at h
  rcases Option.or_eq_some_iff.1 h with hexact | ⟨-, hfold⟩
  · have hname : field.name = name := name_of_canonical? hexact
    rw [hname]
    exact Text.agree_self name
  · have hagree := List.find?_some hfold
    exact hagree

/-- The field that a look-up finds is the first one with its own name. -/
theorem canonical?_of_field? (h : schema.field? name = some field) :
    schema.canonical? field.name = some field := by
  unfold field? lookupName at h
  rcases Option.or_eq_some_iff.1 h with hexact | ⟨-, hfold⟩
  · have hname : field.name = name := name_of_canonical? hexact
    rw [hname]
    exact hexact
  · -- A field in front with the same name would have been found up to case as well.
    obtain ⟨hagree, before, after, hfields, hbefore⟩ := List.find?_eq_some_iff_append.1 hfold
    refine List.find?_eq_some_iff_append.2 ⟨beq_self_eq_true _, before, after, hfields, ?_⟩
    intro other hother
    have hdiff := hbefore other hother
    by_cases hname : other.name = field.name
    · rw [hname, hagree] at hdiff
      exact absurd hdiff (by decide)
    · simpa using hname

end Schema

/-- Only a kind of records has an entity. -/
theorem Kind.eq_record_of_entity? {kind : Kind} {entity : Entity}
    (h : kind.entity? = some entity) : kind = .record entity := by
  unfold Kind.entity? at h
  split at h
  · cases h
    rfl
  · cases h

/-! ### Chains of canonical names -/

namespace Catalog

variable (catalog : Catalog)

/-- The schema that a chain of nested records leads to. -/
def schemaAt? (schema : Schema) : Access → Option Schema
  | [] => some schema
  | name :: rest =>
    ((schema.canonical? name).bind fun field => field.kind.entity?).bind fun entity =>
      schemaAt? (catalog.schema entity) rest

/-- The field that a chain ends on when every name before the last is that of a nested record. -/
def fieldAt? (schema : Schema) : Access → Option Field
  | [] => none
  | [name] => schema.canonical? name
  | name :: next :: rest =>
    ((schema.canonical? name).bind fun field => field.kind.entity?).bind fun entity =>
      fieldAt? (catalog.schema entity) (next :: rest)

variable {catalog} {root here : Schema} {before : Access} {field : Field}

/-- A chain of nested records can be continued by one that is read at its end. -/
theorem schemaAt?_append (h : catalog.schemaAt? root before = some here) (rest : Access) :
    catalog.schemaAt? root (before ++ rest) = catalog.schemaAt? here rest := by
  induction before generalizing root with
  | nil =>
    cases h
    rfl
  | cons name before ih =>
    unfold schemaAt? at h
    obtain ⟨entity, hentity, hrest⟩ := Option.bind_eq_some_iff.1 h
    rw [List.cons_append, schemaAt?, hentity]
    exact ih hrest

/-- A chain of at least two names goes through a nested record. -/
theorem fieldAt?_cons {name next : String} {rest : Access}
    (h : catalog.fieldAt? root (name :: next :: rest) = some field) :
    ∃ parent entity, root.canonical? name = some parent ∧ parent.kind = .record entity ∧
      catalog.fieldAt? (catalog.schema entity) (next :: rest) = some field := by
  unfold fieldAt? at h
  obtain ⟨entity, hentity, hrest⟩ := Option.bind_eq_some_iff.1 h
  obtain ⟨parent, hparent, hkind⟩ := Option.bind_eq_some_iff.1 hentity
  exact ⟨parent, entity, hparent, Kind.eq_record_of_entity? hkind, hrest⟩

/-- A chain that ends on a field is not empty. -/
theorem exists_cons_of_fieldAt? {access : Access} (h : catalog.fieldAt? root access = some field) :
    ∃ name rest, access = name :: rest := by
  cases access with
  | nil => cases h
  | cons name rest => exact ⟨name, rest, rfl⟩

/-- A nested record extends a chain of nested records. -/
theorem schemaAt?_snoc (h : catalog.schemaAt? root before = some here) {entity : Entity}
    (hfield : here.canonical? field.name = some field) (hkind : field.kind = .record entity) :
    catalog.schemaAt? root (before ++ [field.name]) = some (catalog.schema entity) := by
  rw [schemaAt?_append h]
  simp only [schemaAt?, hfield, Option.bind_some, hkind, Kind.entity?]

/-- A field behind a chain of nested records is the end of the extended chain. -/
theorem fieldAt?_snoc (h : catalog.schemaAt? root before = some here)
    (hfield : here.canonical? field.name = some field) :
    catalog.fieldAt? root (before ++ [field.name]) = some field := by
  induction before generalizing root with
  | nil =>
    cases h
    exact hfield
  | cons name before ih =>
    unfold schemaAt? at h
    obtain ⟨entity, hentity, hrest⟩ := Option.bind_eq_some_iff.1 h
    have hend := ih hrest
    cases before with
    | nil =>
      rw [List.cons_append, List.nil_append, fieldAt?, hentity]
      exact hend
    | cons next before =>
      rw [List.cons_append, List.cons_append, fieldAt?, hentity]
      exact hend

end Catalog

/-! ### Resolution -/

namespace FieldPath

/-- A path along canonical names: it enters nested records and the elements of collections of
records, and ends on a field. -/
inductive Typed (catalog : Catalog) : Schema → FieldPath → Prop where
  | leaf {schema : Schema} {field : Field} (found : schema.canonical? field.name = some field) :
      Typed catalog schema (.leaf field)
  | nested {schema : Schema} {field : Field} {entity : Entity} {rest : FieldPath}
      (found : schema.canonical? field.name = some field) (kind : field.kind = .record entity)
      (typed : Typed catalog (catalog.schema entity) rest) :
      Typed catalog schema (.nested field rest)
  | each {schema : Schema} {field : Field} {entity : Entity} {rest : FieldPath}
      (found : schema.canonical? field.name = some field)
      (kind : field.kind = .list (.record entity))
      (typed : Typed catalog (catalog.schema entity) rest) :
      Typed catalog schema (.each field entity rest)

variable {catalog : Catalog} {schema : Schema} {resolved : FieldPath}

/-- One step of resolution: the segment names a field, and the path ends there or goes on in the
records that the field holds. -/
theorem resolveSegments_cases {segment : String} {rest : List String}
    (h : resolveSegments catalog schema segment rest = .ok resolved) :
    ∃ field, schema.field? segment = some field ∧
      ((rest = [] ∧ resolved = .leaf field) ∨
        ∃ next others entity inner, rest = next :: others ∧
          resolveSegments catalog (catalog.schema entity) next others = .ok inner ∧
            ((field.kind = .record entity ∧ resolved = .nested field inner) ∨
              (field.kind = .list (.record entity) ∧ resolved = .each field entity inner))) := by
  cases rest with
  | nil =>
    unfold resolveSegments at h
    split at h
    · cases h
    · next field hfield =>
      cases h
      exact ⟨field, hfield, Or.inl ⟨rfl, rfl⟩⟩
  | cons next others =>
    unfold resolveSegments at h
    split at h
    · cases h
    · next field hfield =>
      split at h
      · next entity hkind =>
        obtain ⟨inner, hinner, rfl⟩ := Outcome.map_eq_ok.1 h
        exact ⟨field, hfield, Or.inr ⟨next, others, entity, inner, rfl, hinner,
          Or.inl ⟨hkind, rfl⟩⟩⟩
      · next entity hkind =>
        obtain ⟨inner, hinner, rfl⟩ := Outcome.map_eq_ok.1 h
        exact ⟨field, hfield, Or.inr ⟨next, others, entity, inner, rfl, hinner,
          Or.inr ⟨hkind, rfl⟩⟩⟩
      · cases h
      · cases h

/-- Resolution follows canonical names. -/
theorem typed_of_resolveSegments {segment : String} {rest : List String}
    (h : resolveSegments catalog schema segment rest = .ok resolved) :
    resolved.Typed catalog schema := by
  induction rest generalizing schema segment resolved with
  | nil =>
    obtain ⟨field, hfield, ⟨-, rfl⟩ | ⟨_, _, _, _, hrest, -⟩⟩ := resolveSegments_cases h
    · exact .leaf (Schema.canonical?_of_field? hfield)
    · cases hrest
  | cons next others ih =>
    obtain ⟨field, hfield, ⟨hrest, -⟩ | ⟨_, _, entity, inner, hrest, hinner, hkind⟩⟩ :=
      resolveSegments_cases h
    · cases hrest
    · cases hrest
      have hfound := Schema.canonical?_of_field? hfield
      rcases hkind with ⟨hkind, rfl⟩ | ⟨hkind, rfl⟩
      · exact .nested hfound hkind (ih hinner)
      · exact .each hfound hkind (ih hinner)

/-- Resolution keeps the segments up to ASCII case. -/
theorem agree_names_of_resolveSegments {segment : String} {rest : List String}
    (h : resolveSegments catalog schema segment rest = .ok resolved) :
    List.Forall₂ (fun name written => Text.agree name written = true) resolved.names
      (segment :: rest) := by
  induction rest generalizing schema segment resolved with
  | nil =>
    obtain ⟨field, hfield, ⟨-, rfl⟩ | ⟨_, _, _, _, hrest, -⟩⟩ := resolveSegments_cases h
    · exact .cons (Schema.agree_of_field? hfield) .nil
    · cases hrest
  | cons next others ih =>
    obtain ⟨field, hfield, ⟨hrest, -⟩ | ⟨_, _, entity, inner, hrest, hinner, hkind⟩⟩ :=
      resolveSegments_cases h
    · cases hrest
    · cases hrest
      have hname := Schema.agree_of_field? hfield
      rcases hkind with ⟨-, rfl⟩ | ⟨-, rfl⟩
      · exact .cons hname (ih hinner)
      · exact .cons hname (ih hinner)

/-- A path that crosses no collection is read as a whole. -/
theorem access_eq_names {path : FieldPath} (h : path.isExistential = false) :
    path.access = path.names := by
  induction path with
  | leaf field => rfl
  | nested field rest ih => exact congrArg _ (ih h)
  | each field element rest ih => cases h

/-- A path is resolved from its first segment on. -/
theorem resolve_eq_ok {path : String} (h : resolve catalog schema path = .ok resolved) :
    ∃ segment rest, Text.segments path = segment :: rest ∧
      resolveSegments catalog schema segment rest = .ok resolved := by
  unfold resolve at h
  split at h
  · cases h
  · next segment rest hsegments => exact ⟨segment, rest, hsegments, h⟩

/-- A dotted path is resolved along canonical names. -/
theorem typed_of_resolve {path : String} (h : resolve catalog schema path = .ok resolved) :
    resolved.Typed catalog schema := by
  obtain ⟨segment, rest, -, hsegments⟩ := resolve_eq_ok h
  exact typed_of_resolveSegments hsegments

/-- A dotted path keeps its segments up to ASCII case. -/
theorem agree_names_of_resolve {path : String} (h : resolve catalog schema path = .ok resolved) :
    List.Forall₂ (fun name written => Text.agree name written = true) resolved.names
      (Text.segments path) := by
  obtain ⟨segment, rest, hpath, hsegments⟩ := resolve_eq_ok h
  rw [hpath]
  exact agree_names_of_resolveSegments hsegments

end FieldPath

/-! ### Documents -/

namespace JsonPath

variable {schema : Schema} {path : String}

/-- A path that splits has a member and at least one key, which are its segments. -/
theorem split_eq_ok {member : String} {keys : List String} (h : split path = .ok (member, keys)) :
    Text.segments path = member :: keys ∧ keys ≠ [] := by
  unfold split at h
  split at h
  · next parts hparts =>
    cases h
    unfold split? at hparts
    split at hparts
    · next hsegments =>
      split at hparts
      · cases hparts
      · cases hparts
        exact ⟨hsegments, List.cons_ne_nil _ _⟩
    · cases hparts
  · cases h

/-- A resolved path reads a document of the schema under its canonical name, and keeps the keys. -/
theorem resolve_eq_ok {target : JsonPath} (h : resolve schema path = .ok target) :
    ∃ field member, schema.field? member = some field ∧ field.kind = .json ∧
      target.member = [field.name] ∧ target.keys ≠ [] ∧
        Text.segments path = member :: target.keys := by
  unfold resolve at h
  obtain ⟨⟨member, keys⟩, hsplit, h⟩ := Outcome.bind_eq_ok.1 h
  obtain ⟨hsegments, hkeys⟩ := split_eq_ok hsplit
  dsimp only at h
  split at h
  · cases h
  · next field hfield =>
    split at h
    · next hkind =>
      cases h
      exact ⟨field, member, hfield, beq_iff_eq.1 hkind, rfl, hkeys, hsegments⟩
    · cases h

end JsonPath

end RecordQuery
