import RecordQuery.Proofs.Typing

/-!
# Look-ups

`Predicate.lookups` lists every look-up of a field, as a record and a name, that evaluating a
predicate may make.  Nothing else is looked at (`holds_congr`): records that agree on the look-ups
give the same answer.

Over records that hold what the catalog says, a well-typed predicate asks each record only for
fields of that record's own schema (`canonical_of_mem_lookups`).
-/

namespace RecordQuery

/-! ### What evaluation looks at -/

/-- The records that reading a chain goes through, each with the name that it is asked for. -/
def Access.lookups (r : Record) : Access → List (Record × String)
  | [] => []
  | [name] => [(r, name)]
  | name :: next :: rest =>
    (r, name) :: match r.read name with
      | .record inner => lookups inner (next :: rest)
      | _ => []

/-- The chain that a target reads. -/
def Target.access : Target → Access
  | .field access => access
  | .json path => path.member

namespace Predicate

mutual

/-- Every look-up of a field that evaluating a predicate may make. -/
def lookups : Predicate → Record → List (Record × String)
  | .compare target _ _ _, r => target.access.lookups r
  | .isNull access, r => access.lookups r
  | .length access _ _, r => access.lookups r
  | .contains access _ _, r => access.lookups r
  | .any collection inner, r =>
    collection.lookups r ++ (collection.elements r).flatMap fun x =>
      match x with
      | .record element => inner.lookups element
      | _ => []
  | .search access _ _, r => access.lookups r
  | .custom _, _ => []
  | .and parts, r => lookupsAll parts r
  | .or parts, r => lookupsAll parts r
  | .not inner, r => inner.lookups r

/-- The look-ups of several predicates. -/
def lookupsAll : List Predicate → Record → List (Record × String)
  | [], _ => []
  | p :: ps, r => p.lookups r ++ lookupsAll ps r

end

theorem mem_lookupsAll {parts : List Predicate} {r : Record} {call : Record × String} :
    call ∈ lookupsAll parts r ↔ ∃ p ∈ parts, call ∈ p.lookups r := by
  induction parts with
  | nil => simp [lookupsAll]
  | cons p ps ih => simp [lookupsAll, ih]

end Predicate

namespace Access

variable {r s : Record} {name : String} {rest : Access}

/-- The first name of a chain is asked of the record itself. -/
theorem head_mem_lookups : (r, name) ∈ lookups r (name :: rest) := by
  cases rest with
  | nil => exact List.mem_singleton_self _
  | cons next rest => exact List.mem_cons_self

/-- Records that agree on the first name of a longer chain lead to the same place. -/
theorem locate?_congr {next : String} (h : r.stored name = s.stored name) :
    locate? r (name :: next :: rest) = locate? s (name :: next :: rest) := by
  have hread : r.read name = s.read name := congrArg Stored.value h
  unfold locate?
  rw [hread]

/-- Records that agree on the first name of a chain agree on the value at its end. -/
theorem read_congr (h : r.stored name = s.stored name) :
    read (name :: rest) r = read (name :: rest) s := by
  cases rest with
  | nil => exact congrArg Stored.value h
  | cons next rest =>
    unfold read
    rw [locate?_congr h]
    rfl

/-- Records that agree on the first name of the chain of a target agree on what the target reads. -/
theorem readTarget_congr {target : Target} (htarget : target.access = name :: rest)
    (h : r.stored name = s.stored name) : target.read r = target.read s := by
  cases target with
  | field access =>
    have haccess : access = name :: rest := htarget
    subst haccess
    exact read_congr h
  | json path =>
    have hmember : path.member = name :: rest := htarget
    have hread : path.member.read r = path.member.read s := by
      rw [hmember]
      exact read_congr h
    unfold Target.read JsonPath.value JsonPath.text? JsonPath.node?
    dsimp only
    rw [hread]

/-- Records that agree on the first name of a chain agree on what is counted at its end. -/
theorem cardinality?_congr (haccess : r.access = s.access) (h : r.stored name = s.stored name) :
    cardinality? (name :: rest) r = cardinality? (name :: rest) s := by
  cases rest with
  | nil =>
    have hread : r.read name = s.read name := congrArg Stored.value h
    have hcardinality : r.cardinality? name = s.cardinality? name := by
      unfold Record.cardinality?
      rw [haccess, h, hread]
    exact hcardinality
  | cons next rest =>
    unfold cardinality?
    rw [locate?_congr h]

/-- Records that agree on the first name of a chain agree on the elements at its end. -/
theorem elements_congr (haccess : r.access = s.access) (h : r.stored name = s.stored name) :
    elements (name :: rest) r = elements (name :: rest) s := by
  cases rest with
  | nil =>
    have hread : r.read name = s.read name := congrArg Stored.value h
    have helements : r.elements name = s.elements name := by
      unfold Record.elements
      rw [haccess, h, hread]
    exact helements
  | cons next rest =>
    unfold elements
    rw [locate?_congr h]

end Access

namespace Predicate

mutual

/-- The filters of their own that a predicate asks about the record itself. -/
def hooks : Predicate → List FilterHook
  | .custom hook => [hook]
  | .and parts => hooksAll parts
  | .or parts => hooksAll parts
  | .not inner => inner.hooks
  | _ => []

/-- The filters of their own that several predicates ask about the record itself. -/
def hooksAll : List Predicate → List FilterHook
  | [] => []
  | p :: ps => p.hooks ++ hooksAll ps

end

theorem mem_hooksAll {parts : List Predicate} {hook : FilterHook} :
    hook ∈ hooksAll parts ↔ ∃ p ∈ parts, hook ∈ p.hooks := by
  induction parts with
  | nil => simp [hooksAll]
  | cons p ps ih => simp [hooksAll, ih]

/-- Records that agree on what a well-typed predicate looks up, and for which its filters of their
own hold alike, are both selected or both not. -/
theorem holds_congr {catalog : Catalog} {registry : Registry} {schema : Schema} {p : Predicate}
    (typed : p.WellTyped catalog registry schema) (search : TextSearch) {r s : Record}
    (haccess : r.access = s.access)
    (hlookups : ∀ name, (r, name) ∈ p.lookups r → r.stored name = s.stored name)
    (hhooks : ∀ hook ∈ p.hooks, hook.holds r = hook.holds s) :
    p.holds search r = p.holds search s := by
  induction typed with
  | @compare schema access field op operand ignoreCase reads _ _ _ _ =>
    obtain ⟨name, rest, rfl⟩ := Catalog.exists_cons_of_fieldAt? reads
    rw [holds, holds, Access.readTarget_congr rfl (hlookups name Access.head_mem_lookups)]
  | @compareNode schema path field op operand ignoreCase reads _ _ =>
    obtain ⟨name, rest, hmember⟩ := Catalog.exists_cons_of_fieldAt? reads
    have htarget : (Target.json path).access = name :: rest := hmember
    have hstored : r.stored name = s.stored name := by
      refine hlookups name ?_
      rw [lookups, htarget]
      exact Access.head_mem_lookups
    rw [holds, holds, Access.readTarget_congr htarget hstored]
  | isNull reads _ =>
    obtain ⟨name, rest, rfl⟩ := Catalog.exists_cons_of_fieldAt? reads
    rw [holds, holds, Access.read_congr (hlookups name Access.head_mem_lookups)]
  | length reads _ _ =>
    obtain ⟨name, rest, rfl⟩ := Catalog.exists_cons_of_fieldAt? reads
    rw [holds, holds,
      Access.cardinality?_congr haccess (hlookups name Access.head_mem_lookups)]
  | contains reads _ _ _ =>
    obtain ⟨name, rest, rfl⟩ := Catalog.exists_cons_of_fieldAt? reads
    rw [holds, holds, Access.elements_congr haccess (hlookups name Access.head_mem_lookups)]
  | any reads _ _ _ =>
    -- The elements are the same records, so that the inner predicate sees no difference.
    obtain ⟨name, rest, rfl⟩ := Catalog.exists_cons_of_fieldAt? reads
    have hstored : r.stored name = s.stored name := by
      refine hlookups name ?_
      rw [lookups]
      exact List.mem_append_left _ Access.head_mem_lookups
    rw [holds, holds, Access.elements_congr haccess hstored]
  | search reads _ =>
    obtain ⟨name, rest, rfl⟩ := Catalog.exists_cons_of_fieldAt? reads
    rw [holds, holds, Access.read_congr (hlookups name Access.head_mem_lookups)]
  | @custom schema hook name _ =>
    rw [holds, holds]
    exact hhooks hook (List.mem_singleton_self hook)
  | and _ ih =>
    rw [holds, holds, allHold_eq, allHold_eq, Bool.eq_iff_iff, List.all_eq_true, List.all_eq_true]
    refine forall₂_congr ?_
    intro part hpart
    rw [ih part hpart (fun name h => hlookups name (mem_lookupsAll.2 ⟨part, hpart, h⟩))
      (fun hook h => hhooks hook (mem_hooksAll.2 ⟨part, hpart, h⟩))]
  | or _ ih =>
    rw [holds, holds, someHolds_eq, someHolds_eq, Bool.eq_iff_iff, List.any_eq_true,
      List.any_eq_true]
    refine exists_congr ?_
    intro part
    refine and_congr_right ?_
    intro hpart
    rw [ih part hpart (fun name h => hlookups name (mem_lookupsAll.2 ⟨part, hpart, h⟩))
      (fun hook h => hhooks hook (mem_hooksAll.2 ⟨part, hpart, h⟩))]
  | not _ ih =>
    rw [holds, holds, ih hlookups hhooks]

end Predicate

/-! ### Records that hold what the catalog says -/

/-- A class of records that hold what the catalog says: what a field of a kind of records reads as,
and what is found among the elements of a collection of records, is of the entity of the kind and
belongs to the class again. -/
structure Catalog.Describes (catalog : Catalog) (P : Record → Prop) : Prop where
  nested : ∀ r, P r → ∀ field entity next,
    (catalog.schema r.entity).canonical? field.name = some field → field.kind = .record entity →
      r.read field.name = .record next → P next ∧ next.entity = entity
  element : ∀ r, P r → ∀ field entity next,
    (catalog.schema r.entity).canonical? field.name = some field →
      field.kind = .list (.record entity) → .record next ∈ r.elements field.name →
        P next ∧ next.entity = entity

section Described

variable {catalog : Catalog} {registry : Registry} {P : Record → Prop}

/-- A nested record that is read on a chain of canonical names is of the entity that the rest of the
chain is looked up on. -/
theorem Catalog.Describes.descend (described : catalog.Describes P) {r inner : Record}
    {name next : String} {rest : Access} {field : Field} (member : P r)
    (reads : catalog.fieldAt? (catalog.schema r.entity) (name :: next :: rest) = some field)
    (hinner : r.read name = .record inner) :
    P inner ∧ catalog.fieldAt? (catalog.schema inner.entity) (next :: rest) = some field := by
  obtain ⟨parent, entity, hparent, hkind, hrest⟩ := Catalog.fieldAt?_cons reads
  have hname := Schema.name_of_canonical? hparent
  subst hname
  obtain ⟨hmember, hentity⟩ := described.nested r member parent entity inner hparent hkind hinner
  rw [hentity]
  exact ⟨hmember, hrest⟩

/-- Reading a chain of canonical names asks each record on the way for a field of its own schema. -/
theorem Access.canonical_of_mem_lookups (described : catalog.Describes P) {access : Access}
    {r : Record} {field : Field} (member : P r)
    (reads : catalog.fieldAt? (catalog.schema r.entity) access = some field) :
    ∀ call ∈ access.lookups r, ((catalog.schema call.1.entity).canonical? call.2).isSome := by
  induction access generalizing r with
  | nil => cases reads
  | cons name rest ih =>
    cases rest with
    | nil =>
      intro call hcall
      rw [lookups, List.mem_singleton] at hcall
      rw [hcall]
      exact Option.isSome_of_mem reads
    | cons next rest =>
      obtain ⟨parent, -, hparent, -, -⟩ := Catalog.fieldAt?_cons reads
      intro call hcall
      rw [lookups] at hcall
      rcases List.mem_cons.1 hcall with rfl | hcall
      · exact Option.isSome_of_mem hparent
      · split at hcall
        · next inner hinner =>
          obtain ⟨hmember, hreads⟩ := described.descend member reads hinner
          exact ih hmember hreads call hcall
        · cases hcall

/-- The record at which a chain of canonical names ends has the field that the chain ends on. -/
theorem Access.canonical_of_locate? (described : catalog.Describes P) {access : Access}
    {r parent : Record} {name : String} {field : Field} (member : P r)
    (reads : catalog.fieldAt? (catalog.schema r.entity) access = some field)
    (h : locate? r access = some (parent, name)) :
    P parent ∧ (catalog.schema parent.entity).canonical? name = some field := by
  induction access generalizing r with
  | nil => cases reads
  | cons first rest ih =>
    cases rest with
    | nil =>
      cases h
      exact ⟨member, reads⟩
    | cons next rest =>
      unfold locate? at h
      split at h
      · next inner hinner =>
        obtain ⟨hmember, hreads⟩ := described.descend member reads hinner
        exact ih hmember hreads h
      · cases h

/-- The records among the elements of a collection of records are of its element entity. -/
theorem Access.entity_of_mem_elements (described : catalog.Describes P) {collection : Access}
    {r next : Record} {field : Field} {entity : Entity} (member : P r)
    (reads : catalog.fieldAt? (catalog.schema r.entity) collection = some field)
    (records : field.kind = .list (.record entity)) (h : .record next ∈ collection.elements r) :
    P next ∧ next.entity = entity := by
  unfold elements at h
  split at h
  · next parent name hlocate =>
    obtain ⟨hmember, hfield⟩ := Access.canonical_of_locate? described member reads hlocate
    have hname := Schema.name_of_canonical? hfield
    subst hname
    exact described.element parent hmember field entity next hfield records h
  · cases h

/-- Over records that hold what the catalog says, a well-typed predicate asks each record only for
fields of that record's own schema. -/
theorem Predicate.canonical_of_mem_lookups (described : catalog.Describes P) {schema : Schema}
    {p : Predicate} (typed : p.WellTyped catalog registry schema) {r : Record} (member : P r)
    (hschema : schema = catalog.schema r.entity) :
    ∀ call ∈ p.lookups r, ((catalog.schema call.1.entity).canonical? call.2).isSome := by
  induction typed generalizing r with
  | compare reads _ _ _ _ | compareNode reads _ _ | isNull reads _ | length reads _ _
  | contains reads _ _ _ | search reads _ =>
    subst hschema
    exact Access.canonical_of_mem_lookups described member reads
  | any reads records _ ih =>
    subst hschema
    intro call hcall
    rw [lookups] at hcall
    rcases List.mem_append.1 hcall with hcall | hcall
    · exact Access.canonical_of_mem_lookups described member reads call hcall
    · obtain ⟨x, hx, hcall⟩ := List.mem_flatMap.1 hcall
      split at hcall
      · next element =>
        obtain ⟨hmember, hentity⟩ := Access.entity_of_mem_elements described member reads records hx
        exact ih hmember (by rw [hentity]) call hcall
      · cases hcall
  | custom _ =>
    intro call hcall
    cases hcall
  | and _ ih | or _ ih =>
    intro call hcall
    obtain ⟨part, hpart, hcall⟩ := mem_lookupsAll.1 hcall
    exact ih part hpart member hschema call hcall
  | not _ ih => exact ih member hschema

end Described

end RecordQuery
