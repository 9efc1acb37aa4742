import RecordQuery.Proofs.Lookups

/-!
# Compiled predicates are well-typed

Whatever filters compile to is well-typed against the schema that they are compiled for, in either
mode and for groups of any depth.  The comparison at the end of a path is typed by the checks in
front of it: coercion gives operands of the kind of the field, and `supports` admits the operators
that fit the kind.  Quantifiers and groups keep the typing.
-/

namespace RecordQuery

/-! ### Coercion -/

namespace Coercion

variable {raw : Json} {kind : Kind} {s : Scalar}

/-- An operand for an enumeration stands for the place of one of its members. -/
theorem lt_of_member? {members : List String} {index : Nat}
    (h : member? members raw = some index) : index < members.length := by
  unfold member? at h
  split at h
  · obtain ⟨hlt, -, -⟩ := List.findIdx?_eq_some_iff_getElem.1 h
    exact hlt
  · obtain ⟨i, -, h⟩ := Option.bind_eq_some_iff.1 h
    split at h
    · next hlt =>
      cases h
      exact hlt
    · cases h
  · cases h

/-- A value that is read for a kind is of that kind. -/
theorem isOf_of_scalar? (h : scalar? raw kind = some s) : s.isOf kind = true := by
  cases kind with
  | enumeration members =>
    obtain ⟨index, hindex, rfl⟩ := Option.map_eq_some_iff.1 h
    exact decide_eq_true (lt_of_member? hindex)
  | json | record entity | list element => cases h
  | string | int | uint | float | bool | uuid | dateTime | date | time | duration =>
    obtain ⟨_, -, rfl⟩ := Option.map_eq_some_iff.1 h
    rfl

end Coercion

/-- A coerced operand is of the kind that it was coerced to, unless it was null. -/
theorem isOf_of_coerce {raw : Json} {kind : Kind} {s : Scalar} (h : coerce raw kind = .ok s) :
    s = .null ∨ s.isOf kind = true := by
  unfold coerce at h
  split at h
  · cases h
    exact Or.inl rfl
  · split at h
    · next hread =>
      cases h
      exact Or.inr (Coercion.isOf_of_scalar? hread)
    · cases h

/-- Only null is coerced to null. -/
theorem coerce_ne_null {raw : Json} {kind : Kind} (hraw : raw ≠ .null) :
    coerce raw kind ≠ .ok .null := by
  intro h
  unfold coerce at h
  split at h
  · exact hraw rfl
  · split at h
    · next hread =>
      cases h
      have hkind := Coercion.isOf_of_scalar? hread
      cases kind <;> cases hkind
    · cases h

/-- A length is asked for by order only. -/
theorem Operator.isRelation_of_length {token : String} {operator : Operator}
    (h : ofText? token = some operator) (hlength : operator.length = true) :
    operator.base.isRelation = true := by
  unfold ofText? at h
  obtain ⟨-, hallowed⟩ := Option.filter_eq_some_iff.1 h
  unfold isAllowed at hallowed
  rw [hlength] at hallowed
  cases hrelation : operator.base.isRelation with
  | true => rfl
  | false => simp [Comparison.isText, hrelation] at hallowed

namespace Context

variable {ctx : Context} {schema : Schema} {access : Access} {field : Field} {p : Predicate}

/-! ### Comparisons -/

/-- A full-text search is made of strings and collections of strings. -/
theorem wellTyped_of_searchAt {path language : String} {terms : List String}
    (reads : ctx.catalog.fieldAt? schema access = some field)
    (h : searchAt path language terms access field = .ok (some p)) :
    p.WellTyped ctx.catalog ctx.registry schema := by
  obtain ⟨htextual, hterms⟩ := searchAt_eq_some h
  have hkind : field.kind = .string ∨ field.kind = .list .string := by
    simpa [isTextual] using htextual
  refine Predicate.wellTyped_of_join ?_ hterms
  intro part hpart
  obtain ⟨term, -, rfl⟩ := List.mem_map.1 hpart
  exact .search reads hkind

/-- The text of a node is compared below a document of the schema. -/
theorem wellTyped_of_compareNode {path : String} {operator : Operator} {values : List Json}
    (h : compareNode schema path operator values = .ok (some p)) :
    p.WellTyped ctx.catalog ctx.registry schema := by
  obtain ⟨-, target, htarget, hjoin⟩ := compareNode_eq_ok.1 h
  obtain ⟨field, member, hfield, hdocument, hmember, hkeys, -⟩ := JsonPath.resolve_eq_ok htarget
  have hreads : ctx.catalog.fieldAt? schema target.member = some field := by
    rw [hmember]
    exact Schema.canonical?_of_field? hfield
  refine Predicate.wellTyped_of_join ?_ hjoin
  intro part hpart
  obtain ⟨s, -, rfl⟩ := List.mem_map.1 hpart
  exact .compareNode hreads hdocument hkeys

/-- A field is compared by the operators that fit its kind: text needs a string and order an ordered
kind. -/
theorem fits_of_supports {operator : Operator} {kind : Kind} (hscalar : kind.isScalar = true)
    (h : supports operator kind = true) :
    (operator.base.isText = true → kind = .string) ∧
      (operator.base.isOrdering = true → kind.isOrdered = true) := by
  unfold supports at h
  split at h
  · cases hscalar
  · obtain ⟨htext, hordering⟩ := Bool.and_eq_true_iff.1 h
    refine ⟨?_, ?_⟩
    · intro hbase
      simpa [hbase] using htext
    · intro hbase
      simpa [hbase] using hordering

/-- A collection of scalars is asked for operands of its element kind. -/
theorem wellTyped_of_containsOperand {operator : Operator} {element : Kind} {raw : Json}
    (reads : ctx.catalog.fieldAt? schema access = some field)
    (hkind : field.kind = .list element) (hscalar : element.isScalar = true)
    (h : containsOperand operator access element raw = .ok (some p)) :
    p.WellTyped ctx.catalog ctx.registry schema := by
  obtain ⟨operand, hoperand, hnull, hp⟩ := containsOperand_eq_some h
  have hoperandKind := (isOf_of_coerce hoperand).resolve_left hnull
  rcases hp with rfl | rfl
  · exact .contains reads hkind hscalar hoperandKind
  · exact .not (.contains reads hkind hscalar hoperandKind)

/-- A field that supports the operator is compared with an operand of its kind; one that may be
missing is asked whether it is. -/
theorem wellTyped_of_compareOperand {operator : Operator} {raw : Json}
    (reads : ctx.catalog.fieldAt? schema access = some field)
    (hsupports : supports operator field.kind = true)
    (h : compareOperand operator access field raw = .ok (some p)) :
    p.WellTyped ctx.catalog ctx.registry schema := by
  obtain ⟨hnullable, rfl | rfl⟩ | ⟨hscalar, hraw, operand, hoperand, rfl⟩ :=
    compareOperand_eq_some h
  · exact .isNull reads hnullable
  · exact .not (.isNull reads hnullable)
  · have hnull : operand ≠ .null := by
      rintro rfl
      exact coerce_ne_null hraw hoperand
    have hoperandKind := (isOf_of_coerce hoperand).resolve_left hnull
    obtain ⟨htext, hordering⟩ := fits_of_supports hscalar hsupports
    exact .compare reads hscalar hoperandKind htext hordering

/-- A field is compared with all operands by one operator that it supports. -/
theorem wellTyped_of_compareField {token : String} {operator : Operator} {values : List Json}
    (hoperator : Operator.ofText? token = some operator)
    (reads : ctx.catalog.fieldAt? schema access = some field)
    (h : compareField operator values access field = .ok (some p)) :
    p.WellTyped ctx.catalog ctx.registry schema := by
  obtain ⟨hlength, hcompare⟩ | ⟨hsupports, parts, hjoin, hparts⟩ := compareField_eq_some h
  · have hrelation := Operator.isRelation_of_length hoperator hlength
    obtain ⟨hkind, n, rfl⟩ := compareLength_eq_some hcompare
    exact .length reads hkind hrelation
  · refine Predicate.wellTyped_of_join ?_ hjoin
    intro part hpart
    obtain ⟨element, raw, hkind, hraw⟩ | ⟨raw, hraw⟩ := hparts part hpart
    · have hscalar := (Bool.and_eq_true_iff.1 (hkind ▸ hsupports)).2
      exact wellTyped_of_containsOperand reads hkind hscalar hraw
    · exact wellTyped_of_compareOperand reads hsupports hraw

/-! ### Leaves and filters -/

/-- A predicate that is quantified along a resolved path is well-typed when the comparison at its
end is. -/
theorem wellTyped_of_quantify {build : Access → Field → Except QueryError (Option Predicate)}
    (comparison : ∀ schema access field p, ctx.catalog.fieldAt? schema access = some field →
      build access field = .ok (some p) → p.WellTyped ctx.catalog ctx.registry schema)
    {path : String} {resolved : FieldPath}
    (hresolved : FieldPath.resolve ctx.catalog schema path = .ok resolved)
    (h : ctx.quantify build [] resolved = .ok (some p)) :
    p.WellTyped ctx.catalog ctx.registry schema :=
  quantify_induction comparison (fun _ _ _ _ _ reads records typed => .any reads records typed)
    (FieldPath.typed_of_resolve hresolved) rfl h

/-- A leaf compiles to a well-typed predicate. -/
theorem wellTyped_of_compileLeaf {leaf : FilterLeaf}
    (h : ctx.compileLeaf schema leaf = .ok (some p)) :
    p.WellTyped ctx.catalog ctx.registry schema := by
  obtain ⟨config, path, -, -, hsearch | ⟨hook, hhook, rfl⟩ | ⟨operator, -, hnode⟩ | hfield⟩ :=
    compileLeaf_eq_some h
  · obtain ⟨language, terms, resolved, hresolved, hquantify⟩ := hsearch
    refine wellTyped_of_quantify ?_ hresolved hquantify
    intro schema access field p reads hbuild
    exact wellTyped_of_searchAt reads hbuild
  · exact .custom hhook
  · exact wellTyped_of_compareNode hnode
  · obtain ⟨operator, resolved, hoperator, hresolved, hquantify⟩ := hfield
    refine wellTyped_of_quantify ?_ hresolved hquantify
    intro schema access field p reads hbuild
    exact wellTyped_of_compareField hoperator reads hbuild

/-- Over records that hold what the catalog says, compiled filters are well-typed and ask each
record only for fields of that record's own schema. -/
theorem wellTyped_of_compileFilters {filters : List FilterDescriptor}
    (h : ctx.compileFilters schema filters = .ok (some p)) :
    p.WellTyped ctx.catalog ctx.registry schema ∧
      ∀ P : Record → Prop, ctx.catalog.Describes P → ∀ r, P r →
        schema = ctx.catalog.schema r.entity →
          ∀ call ∈ p.lookups r, ((ctx.catalog.schema call.1.entity).canonical? call.2).isSome := by
  have typed : p.WellTyped ctx.catalog ctx.registry schema :=
    compileFilters_induction (fun _ _ hleaf => wellTyped_of_compileLeaf hleaf)
      (fun _ _ _ => Predicate.wellTyped_of_join) h
  refine ⟨typed, ?_⟩
  intro P described r member hschema
  exact Predicate.canonical_of_mem_lookups described typed member hschema

/-! ### An entity that holds itself -/

/-- A person, who has a mentor and friends. -/
def person : Entity := ⟨0, "Person"⟩

/-- Every entity has the fields of a person, and nothing is restricted. -/
def people : Context where
  catalog := ⟨fun _ => [⟨"name", .string, false⟩, ⟨"age", .uint, true⟩,
    ⟨"mentor", .record person, false⟩, ⟨"friends", .list (.record person), false⟩]⟩
  registry := .empty
  options := {}

/-- A person without mentor and friends. -/
def grace : Record := ⟨1, person, .inPlace, [("name", .scalar (.string "Grace"))]⟩

/-- A person whose mentor is also the only friend. -/
def ada : Record where
  identity := 2
  entity := person
  access := .inPlace
  fields := [("mentor", .record 1 person .inPlace grace.fields),
    ("friends", .items [.record 1 person .inPlace grace.fields])]

/-- Some friend's mentor has an age, or a name among the friends of friends is long.  The last
filter names no field. -/
def friendly : List FilterDescriptor :=
  [.leaf { field := "Friends.mentor.AGE", operator := ">=", values := [.string " 7 "] },
    .group
      [.leaf { field := "friends.friends.name", operator := "len>", values := [.string "3"] },
        .leaf { field := "enemies" }]]

/-- Both people hold what the catalog says. -/
theorem describes_people : people.catalog.Describes fun r => r = ada ∨ r = grace where
  nested := by
    intro r member field entity next found kind hread
    have hfield := List.mem_of_find?_eq_some found
    simp only [people, Catalog.schema, List.mem_cons, List.not_mem_nil, or_false] at hfield
    rcases hfield with rfl | rfl | rfl | rfl <;> cases kind
    rcases member with rfl | rfl <;> cases hread
    exact ⟨Or.inr rfl, rfl⟩
  element := by
    intro r member field entity next found kind hnext
    have hfield := List.mem_of_find?_eq_some found
    simp only [people, Catalog.schema, List.mem_cons, List.not_mem_nil, or_false] at hfield
    rcases hfield with rfl | rfl | rfl | rfl <;> cases kind
    rcases member with rfl | rfl
    · have hmem : Value.record next ∈ [Value.record grace] := hnext
      cases List.mem_singleton.1 hmem
      exact ⟨Or.inr rfl, rfl⟩
    · cases hnext

/-- Filters on people that cross two collections of people compile, and ask for no other fields than
those of a person. -/
theorem wellTyped_friendly :
    ∃ p, people.compileFilters (people.catalog.schema person) friendly = .ok (some p) ∧
      p.WellTyped people.catalog people.registry (people.catalog.schema person) ∧
        ∀ call ∈ p.lookups ada,
          ((people.catalog.schema call.1.entity).canonical? call.2).isSome := by
  have hcompiled : people.compileFilters (people.catalog.schema person) friendly =
      .ok (some (.and
        [.any ["friends"]
            (.compare (.field ["mentor", "age"]) .ge (.number (.unsigned 7)) false),
          .any ["friends"] (.any ["friends"] (.length ["name"] .gt 3))])) := rfl
  obtain ⟨typed, canonical⟩ := wellTyped_of_compileFilters hcompiled
  exact ⟨_, hcompiled, typed, canonical _ describes_people ada (Or.inl rfl) rfl⟩

end Context

end RecordQuery
