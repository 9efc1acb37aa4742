import RecordQuery.Proofs.Errors
import RecordQuery.Proofs.Leniency
import RecordQuery.Proofs.Registry
import RecordQuery.Proofs.Spelling

/-!
# Fields that are configured without restrictions

A field that is configured with all settings left alone restricts nothing, but it does have a
spelling: a descriptor that names the field in any case is compiled as if it had named the field as
it is configured (`Context.respells_permit`).  So the configuration goes unnoticed where both
spellings are resolved alike.  They need not be.  Keys of documents are told apart by case, and so
are fields of a schema whose names differ in nothing else.

All comparisons of outcomes here are up to the kind of errors (`Alike`).
-/

namespace RecordQuery

/-- Both computations give the same result, or fail with errors of one kind. -/
abbrev Alike {α : Type} (x y : Except QueryError α) : Prop :=
  x.mapError QueryError.kind = y.mapError QueryError.kind

/-! ### Respelled descriptors -/

/-- A path that names a field in any case, spelled as the field is; any other path is left as it
is. -/
def respelled (name written : String) : String :=
  if Text.lower name = Text.lower written then name else written

/-- The leaf with its path respelled. -/
def FilterLeaf.respell (name : String) (leaf : FilterLeaf) : FilterLeaf :=
  { leaf with field := respelled name leaf.field }

/-- The sort key with its path respelled. -/
def SortDescriptor.respell (name : String) (sort : SortDescriptor) : SortDescriptor :=
  { sort with field := respelled name sort.field }

namespace FilterDescriptor

mutual

/-- The filter with each of its leaves replaced. -/
def mapLeaves (f : FilterLeaf → FilterLeaf) : FilterDescriptor → FilterDescriptor
  | .leaf l => .leaf (f l)
  | .group children => .group (mapLeavesAll f children)

/-- The filters with each of their leaves replaced. -/
def mapLeavesAll (f : FilterLeaf → FilterLeaf) : List FilterDescriptor → List FilterDescriptor
  | [] => []
  | d :: ds => d.mapLeaves f :: mapLeavesAll f ds

end

end FilterDescriptor

/-! ### From leaves to lists -/

namespace Context

section Lists

variable {ctx other : Context} {schema : Schema}

/-- Whether a failure is skipped depends on its kind. -/
theorem lenient_congr {α : Type} {x y : Except QueryError (Option α)}
    (hmode : ctx.options.throwOnInvalidFields = other.options.throwOnInvalidFields)
    (h : Alike x y) : Alike (ctx.lenient x) (other.lenient y) := by
  cases x with
  | ok a =>
    cases y with
    | ok b =>
      cases h
      rfl
    | error e => cases h
  | error e =>
    cases y with
    | ok b => cases h
    | error e' =>
      have hkind : e.kind = e'.kind := Except.error.inj h
      unfold Alike lenient
      dsimp only
      rw [hmode, QueryError.isSkippable_congr hkind]
      split
      · rfl
      · exact h

variable {f : FilterLeaf → FilterLeaf}

mutual

/-- A filter compiles alike when its leaves do. -/
theorem compileFilter_congr
    (hmode : ctx.options.throwOnInvalidFields = other.options.throwOnInvalidFields)
    {d : FilterDescriptor} (h : ∀ leaf ∈ d.leaves,
      Alike (ctx.compileLeaf schema leaf) (other.compileLeaf schema (f leaf))) :
    Alike (ctx.compileFilter schema d) (other.compileFilter schema (d.mapLeaves f)) := by
  cases d with
  | leaf leaf =>
    rw [FilterDescriptor.mapLeaves, compileFilter, compileFilter]
    exact h leaf (List.mem_singleton_self leaf)
  | group children =>
    rw [FilterDescriptor.mapLeaves, compileFilter, compileFilter]
    exact Outcome.mapError_map_congr _ (compileParts_congr hmode h)

/-- Filters compile alike when their leaves do. -/
theorem compileParts_congr
    (hmode : ctx.options.throwOnInvalidFields = other.options.throwOnInvalidFields)
    {ds : List FilterDescriptor} (h : ∀ leaf ∈ FilterDescriptor.leavesAll ds,
      Alike (ctx.compileLeaf schema leaf) (other.compileLeaf schema (f leaf))) :
    Alike (ctx.compileParts schema ds)
      (other.compileParts schema (FilterDescriptor.mapLeavesAll f ds)) := by
  cases ds with
  | nil => rfl
  | cons d ds =>
    rw [FilterDescriptor.mapLeavesAll, compileParts, compileParts]
    have hhead := compileFilter_congr hmode
      fun leaf hleaf => h leaf (List.mem_append_left _ hleaf)
    have htail := compileParts_congr hmode
      fun leaf hleaf => h leaf (List.mem_append_right _ hleaf)
    refine Outcome.mapError_bind_congr (lenient_congr hmode hhead) ?_
    intro part
    exact Outcome.mapError_bind_congr htail fun _ => rfl

end

/-- Lists of filters compile alike when their leaves do. -/
theorem compileFilters_congr
    (hmode : ctx.options.throwOnInvalidFields = other.options.throwOnInvalidFields)
    {filters : List FilterDescriptor} (h : ∀ leaf ∈ FilterDescriptor.leavesAll filters,
      Alike (ctx.compileLeaf schema leaf) (other.compileLeaf schema (f leaf))) :
    Alike (ctx.compileFilters schema filters)
      (other.compileFilters schema (FilterDescriptor.mapLeavesAll f filters)) :=
  Outcome.mapError_map_congr _ (compileParts_congr hmode h)

/-- Lists of sort keys compile alike when the keys do. -/
theorem compileSorts_congr
    (hmode : ctx.options.throwOnInvalidFields = other.options.throwOnInvalidFields)
    {g : SortDescriptor → SortDescriptor} (hdirection : ∀ sort, (g sort).direction = sort.direction)
    {sorts : List SortDescriptor}
    (h : ∀ sort ∈ sorts, Alike (ctx.compileKey schema sort) (other.compileKey schema (g sort))) :
    Alike (ctx.compileSorts schema sorts) (other.compileSorts schema (sorts.map g)) := by
  induction sorts with
  | nil => rfl
  | cons sort sorts ih =>
    rw [List.map_cons, compileSorts, compileSorts, hdirection]
    have hhead := Outcome.mapError_map_congr
      (fun key => some (⟨key, sort.direction⟩ : SortTerm)) (h sort List.mem_cons_self)
    have htail := ih fun other hother => h other (List.mem_cons_of_mem sort hother)
    refine Outcome.mapError_bind_congr (lenient_congr hmode hhead) ?_
    intro term
    exact Outcome.mapError_bind_congr htail fun _ => rfl

end Lists

/-! ### Well-formed paths -/

/-- Whether a path splits depends on which of its segments are empty. -/
theorem isSome_split? (path : String) :
    (JsonPath.split? path).isSome =
      match (Text.segments path).map String.isEmpty with
      | member :: key :: keys => !(member :: key :: keys).any id
      | _ => false := by
  unfold JsonPath.split?
  match Text.segments path with
  | [] => rfl
  | [_] => rfl
  | member :: key :: keys =>
    have hany : ((member :: key :: keys).map String.isEmpty).any id =
        (member :: key :: keys).any String.isEmpty := List.any_map
    change (if (member :: key :: keys).any String.isEmpty then none
      else some (member, key :: keys)).isSome =
        !((member :: key :: keys).map String.isEmpty).any id
    rw [hany]
    cases (member :: key :: keys).any String.isEmpty <;> rfl

/-- Paths that are both well formed or both malformed are checked alike. -/
theorem checkPath_alike {json : Bool} {a b : String}
    (h : json = true → JsonPath.isWellFormed a = JsonPath.isWellFormed b) :
    Alike (checkPath json a) (checkPath json b) := by
  cases json with
  | false => rfl
  | true =>
    have hsome : (JsonPath.split? a).isSome = (JsonPath.split? b).isSome := h rfl
    unfold checkPath JsonPath.split
    cases ha : JsonPath.split? a <;> cases hb : JsonPath.split? b <;> rw [ha, hb] at hsome <;>
      first | rfl | cases hsome

/-- A path is as well formed as any other with the same lower-case form. -/
theorem checkPath_congr (json : Bool) {a b : String} (h : Text.lower a = Text.lower b) :
    Alike (checkPath json a) (checkPath json b) := by
  refine checkPath_alike ?_
  intro _
  unfold JsonPath.isWellFormed
  rw [isSome_split?, isSome_split?, Text.map_isEmpty_segments_congr h]

/-! ### A field without restrictions -/

/-- The context with a field configured in addition, all of whose settings are left alone. -/
def permit (ctx : Context) (entity : Entity) (name : String) : Context :=
  { ctx with registry := ctx.registry.permit entity name }

section Permit

variable {ctx : Context} {schema : Schema} {entity : Entity} {name : String}

/-- The policy is as before, apart from the configuration that it finds. -/
theorem policy_permit (linked : (ctx.registry.config entity).Linked)
    (hfree : ctx.registry.field? entity name = none) (other : Entity) (written : String) :
    (ctx.permit entity name).policy other written =
      if entity = other ∧ Text.lower name = Text.lower written then .ok (some { name := name })
      else ctx.policy other written := by
  have hfield : (ctx.permit entity name).registry.field? other written = _ :=
    Registry.field?_permit linked hfree other written
  unfold policy
  rw [hfield]
  by_cases h : entity = other ∧ Text.lower name = Text.lower written
  · rw [if_pos h, if_pos h]
    rfl
  · rw [if_neg h, if_neg h]

/-- A name that is not configured passes the policy, in any spelling. -/
theorem policy_of_free (hfree : ctx.registry.field? entity name = none) {written : String}
    (h : Text.lower name = Text.lower written) : ctx.policy entity written = .ok none := by
  unfold policy
  rw [← Registry.field?_congr h, hfree]

/-- Quantifiers are built as before. -/
theorem quantify_permit (linked : (ctx.registry.config entity).Linked)
    (hfree : ctx.registry.field? entity name = none)
    (build : Access → Field → Except QueryError (Option Predicate)) (before : Access)
    (path : FieldPath) :
    (ctx.permit entity name).quantify build before path = ctx.quantify build before path := by
  induction path generalizing before with
  | leaf field => rfl
  | nested field rest ih => exact ih (before ++ [field.name])
  | each field element rest ih =>
    rw [quantify, quantify, ih [], policy_permit linked hfree]
    split
    · next h =>
      obtain ⟨rfl, hname⟩ := h
      rw [policy_of_free hfree hname]
      rfl
    · rfl

/-- A path that has passed the policy is compiled as before. -/
theorem compileConfigured_permit (linked : (ctx.registry.config entity).Linked)
    (hfree : ctx.registry.field? entity name = none) (leaf : FilterLeaf)
    (config : Option FieldConfig) :
    (ctx.permit entity name).compileConfigured schema leaf config =
      ctx.compileConfigured schema leaf config := by
  have hquantify : (ctx.permit entity name).quantify = ctx.quantify := by
    funext build before path
    exact quantify_permit linked hfree build before path
  have hhook : (ctx.permit entity name).hookOf? schema leaf config =
      ctx.hookOf? schema leaf config := by
    have hfilter := Registry.filter?_permit ctx.registry entity name schema.entity
    unfold hookOf?
    split
    · rfl
    · exact hfilter _
  have hcatalog : (ctx.permit entity name).catalog = ctx.catalog := rfl
  have hlanguage : (ctx.permit entity name).searchLanguage config = ctx.searchLanguage config := rfl
  unfold compileConfigured
  rw [hquantify, hhook, hcatalog, hlanguage]

/-- A configuration without restrictions stands for its spelling. -/
theorem compileConfigured_named (leaf : FilterLeaf) :
    ctx.compileConfigured schema leaf (some { name := name }) =
      ctx.compileConfigured schema { leaf with field := name } none := by
  have hpath : configuredPath (some { name := name }) leaf.field = configuredPath none name := rfl
  have hsearch : isSearch leaf (some { name := name }) =
      isSearch { leaf with field := name } none := rfl
  have hlanguage : ctx.searchLanguage (some { name := name }) = ctx.searchLanguage none := rfl
  have hhook : ctx.hookOf? schema leaf (some { name := name }) =
      ctx.hookOf? schema { leaf with field := name } none := rfl
  unfold compileConfigured
  dsimp only
  rw [hpath, hsearch, hlanguage, hhook]

/-- A leaf is compiled as if it had named the field as it is configured. -/
theorem compileLeaf_permit (linked : (ctx.registry.config schema.entity).Linked)
    (hfree : ctx.registry.field? schema.entity name = none) (leaf : FilterLeaf) :
    Alike ((ctx.permit schema.entity name).compileLeaf schema leaf)
      (ctx.compileLeaf schema (leaf.respell name)) := by
  rw [compileLeaf_eq, compileLeaf_eq, policy_permit linked hfree]
  unfold FilterLeaf.respell respelled
  by_cases hname : Text.lower name = Text.lower leaf.field
  · rw [if_pos ⟨rfl, hname⟩, if_pos hname, policy_of_free hfree rfl]
    refine Outcome.mapError_bind_congr (checkPath_congr leaf.json hname.symm) ?_
    intro _
    change Alike ((ctx.permit schema.entity name).compileConfigured schema leaf
      (some { name := name })) (ctx.compileConfigured schema { leaf with field := name } none)
    rw [compileConfigured_permit linked hfree, compileConfigured_named]
  · rw [if_neg fun h => hname h.2, if_neg hname]
    refine congrArg _ (congrArg _ ?_)
    funext _
    refine congrArg _ ?_
    funext config
    exact compileConfigured_permit linked hfree leaf config

/-- A sort key is compiled as if it had named the field as it is configured. -/
theorem compileKey_permit (linked : (ctx.registry.config schema.entity).Linked)
    (hfree : ctx.registry.field? schema.entity name = none) (sort : SortDescriptor) :
    Alike ((ctx.permit schema.entity name).compileKey schema sort)
      (ctx.compileKey schema (sort.respell name)) := by
  have hkey : ∀ json path, (ctx.permit schema.entity name).keyAt schema json path =
      ctx.keyAt schema json path := by
    intro json path
    have hsort : (ctx.permit schema.entity name).registry.sort? schema.entity path = _ :=
      Registry.sort?_permit ctx.registry schema.entity name schema.entity path
    unfold keyAt
    rw [hsort]
    rfl
  have hfield : (ctx.permit schema.entity name).registry.field? schema.entity sort.field = _ :=
    Registry.field?_permit linked hfree schema.entity sort.field
  unfold SortDescriptor.respell respelled
  by_cases hname : Text.lower name = Text.lower sort.field
  · rw [if_pos ⟨rfl, hname⟩] at hfield
    rw [if_pos hname, compileKey_eq, compileKey_eq, Registry.sortable, hfield, hkey,
      Registry.sortable, hfree]
    exact Outcome.mapError_bind_congr (checkPath_congr sort.json hname.symm) fun _ => rfl
  · rw [if_neg fun h => hname h.2] at hfield
    rw [if_neg hname, compileKey_eq, compileKey_eq, Registry.sortable, hfield, hkey]
    rfl

end Permit

/-! ### Two spellings of a field -/

section Spellings

variable {ctx : Context} {schema : Schema} {name : String}

/-- Both paths are resolved alike, as nodes of documents or as fields. -/
def ResolvesAlike (ctx : Context) (schema : Schema) (node : Bool) (a b : String) : Prop :=
  if node then Alike (JsonPath.resolve schema a) (JsonPath.resolve schema b)
  else Alike (FieldPath.resolve ctx.catalog schema a) (FieldPath.resolve ctx.catalog schema b)

/-- Quantifiers are built alike from comparisons that are. -/
theorem quantify_congr {build other : Access → Field → Except QueryError (Option Predicate)}
    (h : ∀ access field, Alike (build access field) (other access field)) (before : Access)
    (path : FieldPath) :
    Alike (ctx.quantify build before path) (ctx.quantify other before path) := by
  induction path generalizing before with
  | leaf field => exact h (before ++ [field.name]) field
  | nested field rest ih => exact ih (before ++ [field.name])
  | each field element rest ih =>
    rw [quantify, quantify]
    refine Outcome.mapError_bind_congr rfl ?_
    intro _
    exact Outcome.mapError_bind_congr (ih []) fun _ => rfl

/-- A full-text search uses the path for its error only. -/
theorem searchAt_congr (a b language : String) (terms : List String) (access : Access)
    (field : Field) :
    Alike (searchAt a language terms access field) (searchAt b language terms access field) := by
  unfold searchAt
  split
  · rfl
  · split <;> rfl

/-- A leaf that is not configured compiles alike in two spellings of its path that are resolved
alike. -/
theorem compileConfigured_respell {leaf : FilterLeaf}
    (hname : Text.lower name = Text.lower leaf.field)
    (hresolves : ctx.ResolvesAlike schema (leaf.json && !leaf.vector) name leaf.field) :
    Alike (ctx.compileConfigured schema leaf none)
      (ctx.compileConfigured schema { leaf with field := name } none) := by
  obtain ⟨field, operator, values, json, vector⟩ := leaf
  have hhook : ctx.registry.filter? schema.entity field =
      ctx.registry.filter? schema.entity name := Registry.filter?_congr hname.symm
  unfold compileConfigured hookOf? configuredPath isSearch
  unfold ResolvesAlike at hresolves
  cases vector with
  | true =>
    rw [Bool.not_true, Bool.and_false] at hresolves
    refine Outcome.mapError_bind_congr hresolves.symm ?_
    intro path
    exact quantify_congr (fun access field => searchAt_congr _ _ _ _ access field) [] path
  | false =>
    rw [Bool.not_false, Bool.and_true] at hresolves
    cases json with
    | true =>
      cases Operator.ofText? operator with
      | none => rfl
      | some operator =>
        change Alike (compareNode schema field operator values)
          (compareNode schema name operator values)
        unfold compareNode
        split
        · rfl
        · exact Outcome.mapError_bind_congr hresolves.symm fun _ => rfl
    | false =>
      simp only [Option.map_none, Option.getD_none, Bool.or_self, Bool.false_eq_true, if_false,
        hhook]
      cases ctx.registry.filter? schema.entity name with
      | some hook => rfl
      | none =>
        cases Operator.ofText? operator with
        | none => rfl
        | some operator => exact Outcome.mapError_bind_congr hresolves.symm fun _ => rfl

/-- A leaf whose path is no configured field compiles alike in two spellings of the path that are
resolved alike. -/
theorem compileLeaf_respell (hfree : ctx.registry.field? schema.entity name = none)
    {leaf : FilterLeaf} (hresolves : Text.lower name = Text.lower leaf.field →
      ctx.ResolvesAlike schema (leaf.json && !leaf.vector) name leaf.field) :
    Alike (ctx.compileLeaf schema leaf) (ctx.compileLeaf schema (leaf.respell name)) := by
  unfold FilterLeaf.respell respelled
  by_cases hname : Text.lower name = Text.lower leaf.field
  · rw [if_pos hname, compileLeaf_eq, compileLeaf_eq, policy_of_free hfree hname,
      policy_of_free hfree rfl]
    refine Outcome.mapError_bind_congr (checkPath_congr leaf.json hname.symm) ?_
    intro _
    change Alike (ctx.compileConfigured schema leaf none)
      (ctx.compileConfigured schema { leaf with field := name } none)
    exact compileConfigured_respell hname (hresolves hname)
  · rw [if_neg hname]

/-- A sort key whose path is no configured field compiles alike in two spellings of the path that
are resolved alike. -/
theorem compileKey_respell (hfree : ctx.registry.field? schema.entity name = none)
    {sort : SortDescriptor} (hresolves : Text.lower name = Text.lower sort.field →
      ctx.ResolvesAlike schema sort.json name sort.field) :
    Alike (ctx.compileKey schema sort) (ctx.compileKey schema (sort.respell name)) := by
  unfold SortDescriptor.respell respelled
  by_cases hname : Text.lower name = Text.lower sort.field
  · have hwritten : ctx.registry.field? schema.entity sort.field = none := by
      rw [← Registry.field?_congr hname, hfree]
    have hhook : ctx.registry.sort? schema.entity sort.field =
        ctx.registry.sort? schema.entity name := Registry.sort?_congr hname.symm
    have halike := hresolves hname
    rw [if_pos hname, compileKey_eq, compileKey_eq, Registry.sortable, Registry.sortable, hwritten,
      hfree]
    refine Outcome.mapError_bind_congr (checkPath_congr sort.json hname.symm) ?_
    intro _
    change Alike (ctx.keyAt schema sort.json sort.field) (ctx.keyAt schema sort.json name)
    unfold keyAt
    rw [hhook]
    unfold ResolvesAlike at halike
    cases ctx.registry.sort? schema.entity name with
    | some hook => rfl
    | none =>
      dsimp only
      split
      · next hjson =>
        rw [if_pos hjson] at halike
        exact Outcome.mapError_map_congr _ halike.symm
      · next hjson =>
        rw [if_neg hjson] at halike
        refine Outcome.mapError_bind_congr halike.symm ?_
        intro resolved
        split <;> rfl
  · rw [if_neg hname]

end Spellings

/-- A field that is configured in addition with all settings left alone has an effect on how the
descriptors that name it are spelled, and no other one: lists of filters and of sort keys compile
as if each of these descriptors had named the field as it is configured.  So they compile as before
when both spellings are resolved alike. -/
theorem respells_permit {ctx : Context} {schema : Schema} {name : String}
    {steps : List (Entity × RegistryStep)} (hregistry : ctx.registry = Registry.build steps)
    (hfree : ctx.registry.field? schema.entity name = none) :
    (∀ filters, Alike ((ctx.permit schema.entity name).compileFilters schema filters)
      (ctx.compileFilters schema
        (FilterDescriptor.mapLeavesAll (FilterLeaf.respell name) filters))) ∧
    (∀ filters, (∀ leaf ∈ FilterDescriptor.leavesAll filters,
        Text.lower name = Text.lower leaf.field →
          ctx.ResolvesAlike schema (leaf.json && !leaf.vector) name leaf.field) →
      Alike ((ctx.permit schema.entity name).compileFilters schema filters)
        (ctx.compileFilters schema filters)) ∧
    (∀ sorts, Alike ((ctx.permit schema.entity name).compileSorts schema sorts)
      (ctx.compileSorts schema (sorts.map (SortDescriptor.respell name)))) ∧
    ∀ sorts, (∀ sort ∈ sorts, Text.lower name = Text.lower sort.field →
        ctx.ResolvesAlike schema sort.json name sort.field) →
      Alike ((ctx.permit schema.entity name).compileSorts schema sorts)
        (ctx.compileSorts schema sorts) := by
  have linked : (ctx.registry.config schema.entity).Linked := by
    rw [hregistry]
    exact Registry.linked_build steps schema.entity
  have hmode : (ctx.permit schema.entity name).options.throwOnInvalidFields =
      ctx.options.throwOnInvalidFields := rfl
  have hdirection : ∀ sort : SortDescriptor, (sort.respell name).direction = sort.direction := by
    intro sort
    dsimp only [SortDescriptor.respell]
  have hfilters : ∀ filters, Alike ((ctx.permit schema.entity name).compileFilters schema filters)
      (ctx.compileFilters schema
        (FilterDescriptor.mapLeavesAll (FilterLeaf.respell name) filters)) := by
    intro filters
    refine compileFilters_congr hmode ?_
    intro leaf _
    exact compileLeaf_permit linked hfree leaf
  have hsorts : ∀ sorts, Alike ((ctx.permit schema.entity name).compileSorts schema sorts)
      (ctx.compileSorts schema (sorts.map (SortDescriptor.respell name))) := by
    intro sorts
    refine compileSorts_congr hmode hdirection ?_
    intro sort _
    exact compileKey_permit linked hfree sort
  refine ⟨hfilters, ?_, hsorts, ?_⟩
  · intro filters hresolves
    have hrespelled : Alike (ctx.compileFilters schema filters) (ctx.compileFilters schema
        (FilterDescriptor.mapLeavesAll (FilterLeaf.respell name) filters)) := by
      refine compileFilters_congr rfl ?_
      intro leaf hleaf
      exact compileLeaf_respell hfree (hresolves leaf hleaf)
    exact (hfilters filters).trans hrespelled.symm
  · intro sorts hresolves
    have hrespelled : Alike (ctx.compileSorts schema sorts)
        (ctx.compileSorts schema (sorts.map (SortDescriptor.respell name))) := by
      refine compileSorts_congr rfl hdirection ?_
      intro sort hsort
      exact compileKey_respell hfree (hresolves sort hsort)
    exact (hsorts sorts).trans hrespelled.symm

/-! ### Names and levels -/

/-- A user. -/
def user : Entity := ⟨0, "User"⟩

/-- Users have a name, an age and a document, and the age is also known under another name. -/
def users : Context where
  catalog := ⟨fun _ => [⟨"name", .string, false⟩, ⟨"age", .int, false⟩, ⟨"meta", .json, false⟩]⟩
  registry := .build [(user, .field "age" [.aliasName "years"])]
  options := {}

/-- The user has a name. -/
def alice : FilterLeaf where
  field := "Name"
  values := [.string "alice"]

/-- The level in the document is a text. -/
def level : FilterLeaf where
  field := "meta.level"
  values := [.string "3"]
  json := true

/-- The name is found in every spelling, so that configuring one of them without any restriction
goes unnoticed. -/
theorem respells_permit_name :
    users.registry.field? user "NAME" = none ∧
      Alike
        ((users.permit user "NAME").compileFilters (users.catalog.schema user)
          [.leaf level, .group [.leaf alice]])
        (users.compileFilters (users.catalog.schema user)
          [.leaf level, .group [.leaf alice]]) ∧
      Alike
        ((users.permit user "NAME").compileSorts (users.catalog.schema user) [{ field := "name" }])
        (users.compileSorts (users.catalog.schema user) [{ field := "name" }]) := by
  have hfree : users.registry.field? user "NAME" = none := by
    decide
  obtain ⟨-, hfilters, -, hsorts⟩ :=
    @respells_permit users (users.catalog.schema user) "NAME" _ rfl hfree
  refine ⟨hfree, hfilters _ ?_, hsorts _ ?_⟩
  · intro leaf hleaf hname
    have hleaves : leaf ∈ [level, alice] := hleaf
    rcases List.mem_cons.1 hleaves with rfl | halice
    · exact absurd hname (by decide)
    · cases List.mem_singleton.1 halice
      rfl
  · intro sort hsort _
    cases List.mem_singleton.1 hsort
    rfl

/-- Keys of documents are told apart by case.  So configuring another spelling of a key, without any
restriction, makes a filter read the other key. -/
theorem not_alike_permit_level :
    users.registry.field? user "meta.LEVEL" = none ∧
      users.compileFilters (users.catalog.schema user) [.leaf level] =
        .ok (some (.compare (.json ⟨["meta"], ["level"]⟩) .eq (.string "3") false)) ∧
      (users.permit user "meta.LEVEL").compileFilters (users.catalog.schema user) [.leaf level] =
        .ok (some (.compare (.json ⟨["meta"], ["LEVEL"]⟩) .eq (.string "3") false)) ∧
      ¬ Alike
        ((users.permit user "meta.LEVEL").compileFilters (users.catalog.schema user) [.leaf level])
        (users.compileFilters (users.catalog.schema user) [.leaf level]) := by
  have hfree : users.registry.field? user "meta.LEVEL" = none := by
    decide
  have hbefore : users.compileFilters (users.catalog.schema user) [.leaf level] =
      .ok (some (.compare (.json ⟨["meta"], ["level"]⟩) .eq (.string "3") false)) := rfl
  have hafter : (users.permit user "meta.LEVEL").compileFilters (users.catalog.schema user)
      [.leaf level] =
        .ok (some (.compare (.json ⟨["meta"], ["LEVEL"]⟩) .eq (.string "3") false)) := rfl
  refine ⟨hfree, hbefore, hafter, ?_⟩
  rw [hbefore, hafter]
  intro h
  have hpredicate := Option.some.inj (Except.ok.inj h)
  simp at hpredicate

end Context

end RecordQuery
