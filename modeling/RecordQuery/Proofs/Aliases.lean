import RecordQuery.Proofs.Respelling

/-!
# Descriptors that use an alias

A descriptor may name a field by an alias, or in any spelling that the registry knows.  Past the
check of its path it compiles as if it had named the field as it is configured: policies, hooks and
paths are looked up by the configured name.  The check itself looks at the path as it is written,
and only descriptors of nodes are checked.  So an alias makes a difference for these, and only where
one of the two paths is malformed as a JSON path and the other one is not (`Context.alike_named`).

In particular an alias without a dot can not be used for a node, although the path that it stands
for is well formed (`Context.not_alike_named_city`).
-/

namespace RecordQuery

/-! ### Malformed paths -/

section Malformed

variable {α : Type}

/-- What compiles alike fails for a malformed path alike. -/
theorem Alike.malformed_iff {x y : Except QueryError α} (h : Alike x y) :
    Malformed x ↔ Malformed y := by
  have himp : ∀ {x y : Except QueryError α}, Alike x y → Malformed x → Malformed y := by
    rintro x y h ⟨path, rfl⟩
    cases y with
    | ok a => cases h
    | error e =>
      have hkind : ErrorKind.invalidJsonPath = e.kind := Except.error.inj h
      cases e with
      | invalidJsonPath other => exact ⟨other, rfl⟩
      | _ => cases hkind
  exact ⟨himp h, himp h.symm⟩

/-- What fails for malformed paths fails alike. -/
theorem Malformed.alike {x y : Except QueryError α} (hx : Malformed x) (hy : Malformed y) :
    Alike x y := by
  obtain ⟨a, rfl⟩ := hx
  obtain ⟨b, rfl⟩ := hy
  rfl

namespace Context

/-- A malformed path is never skipped. -/
theorem malformed_lenient (ctx : Context) (x : Except QueryError (Option α)) :
    Malformed (ctx.lenient x) ↔ Malformed x := by
  cases x with
  | ok a => exact Iff.rfl
  | error e =>
    unfold lenient
    dsimp only
    split
    · next hskipped =>
      refine iff_of_false (RaisesSemantic.not_malformed (Outcome.raises_ok _)) ?_
      rintro ⟨path, hpath⟩
      cases hpath
      rw [Bool.and_eq_true] at hskipped
      cases hskipped.2
    · exact Iff.rfl

variable {json : Bool} {a b : String} {x y : Except QueryError α}

/-- What follows the check of a path fails for a malformed path when the check does, or by itself. -/
theorem malformed_checkPath_bind :
    Malformed (checkPath json a >>= fun _ => x) ↔
      (json = true ∧ JsonPath.isWellFormed a = false) ∨ Malformed x := by
  rw [malformed_bind, malformed_checkPath]
  constructor
  · rintro (h | ⟨-, -, h⟩)
    · exact .inl h
    · exact .inr h
  · rintro (h | h)
    · exact .inl h
    · by_cases hchecked : json = true ∧ JsonPath.isWellFormed a = false
      · exact .inl hchecked
      · refine .inr ⟨(), ?_, h⟩
        unfold checkPath
        split
        · next hjson =>
          have hwell : JsonPath.isWellFormed a ≠ false := fun h => hchecked ⟨hjson, h⟩
          unfold JsonPath.isWellFormed at hwell
          unfold JsonPath.split
          cases hsplit : JsonPath.split? a with
          | none =>
            rw [hsplit] at hwell
            exact absurd rfl hwell
          | some parts => rfl
        · rfl

/-- Checks of two paths make no difference when the paths are both well formed or both malformed, or
when what follows fails for a malformed path anyway. -/
theorem checkPath_bind_alike (hxy : Alike x y)
    (h : json = true →
      JsonPath.isWellFormed a = JsonPath.isWellFormed b ∨ Malformed x) :
    Alike (checkPath json a >>= fun _ => x) (checkPath json b >>= fun _ => y) := by
  by_cases hx : Malformed x
  · exact (malformed_checkPath_bind.2 (.inr hx)).alike
      (malformed_checkPath_bind.2 (.inr (hxy.malformed_iff.1 hx)))
  · refine Outcome.mapError_bind_congr (checkPath_alike ?_) (fun _ => hxy)
    intro hjson
    exact (h hjson).resolve_right hx

/-- In all other cases one of the paths is found malformed and the other one is not. -/
theorem of_malformed_checkPath_bind_iff (hxy : Alike x y)
    (h : Malformed (checkPath json a >>= fun _ => x) ↔
      Malformed (checkPath json b >>= fun _ => y)) (hjson : json = true) :
    JsonPath.isWellFormed a = JsonPath.isWellFormed b ∨ Malformed x := by
  by_cases hx : Malformed x
  · exact .inr hx
  · have hy : ¬ Malformed y := fun hy => hx (hxy.malformed_iff.2 hy)
    rw [malformed_checkPath_bind, malformed_checkPath_bind, or_iff_left hx, or_iff_left hy,
      and_iff_right hjson, and_iff_right hjson] at h
    refine .inl ?_
    rw [Bool.eq_iff_iff, ← not_iff_not, Bool.not_eq_true, Bool.not_eq_true]
    exact h

end Context

end Malformed

/-! ### Named descriptors -/

namespace Context

/-- The leaf with its path named as it is configured, if it is. -/
def named (ctx : Context) (schema : Schema) (leaf : FilterLeaf) : FilterLeaf :=
  { leaf with field := configuredPath (ctx.registry.field? schema.entity leaf.field) leaf.field }

/-- The sort key with its path named as it is configured, if it is. -/
def namedSort (ctx : Context) (schema : Schema) (sort : SortDescriptor) : SortDescriptor :=
  { sort with field := configuredPath (ctx.registry.field? schema.entity sort.field) sort.field }

/-- The check of the path of a leaf makes no difference between the written and the configured path:
both are well formed or both malformed, or else the configured one is malformed and the leaf gets as
far as to find this out. -/
def LeafCheckedAlike (leaf : FilterLeaf) (config : FieldConfig) : Prop :=
  leaf.json = true →
    JsonPath.isWellFormed leaf.field = JsonPath.isWellFormed config.name ∨
      config.filterable = true ∧ isSearch leaf (some config) = false ∧
        (∃ operator, Operator.ofText? leaf.operator = some operator ∧ operator.length = false) ∧
          JsonPath.isWellFormed config.name = false

/-- The check of the path of a sort key makes no difference between the written and the configured
path: both are well formed or both malformed, or else the configured one is malformed and the key
gets as far as to find this out. -/
def KeyCheckedAlike (ctx : Context) (schema : Schema) (sort : SortDescriptor)
    (config : FieldConfig) : Prop :=
  sort.json = true →
    JsonPath.isWellFormed sort.field = JsonPath.isWellFormed config.name ∨
      config.sortable = true ∧ ctx.registry.sort? schema.entity config.name = none ∧
        JsonPath.isWellFormed config.name = false

section Named

variable {ctx : Context} {schema : Schema} {config : FieldConfig}

/-- The policy of a field that is configured. -/
theorem policy_configured {entity : Entity} {written : String}
    (h : ctx.registry.field? entity written = some config) :
    ctx.policy entity written =
      if config.filterable then .ok (some config) else .error (.notFilterable written) := by
  unfold policy
  rw [h]

/-- What follows the check of the path of a leaf. -/
def leafPastCheck (ctx : Context) (schema : Schema) (leaf : FilterLeaf) :
    Except QueryError (Option Predicate) :=
  ctx.policy schema.entity leaf.field >>= ctx.compileConfigured schema leaf

/-- A leaf is compiled by the check of its path and what follows. -/
theorem compileLeaf_eq_check (leaf : FilterLeaf) :
    ctx.compileLeaf schema leaf =
      checkPath leaf.json leaf.field >>= fun _ => ctx.leafPastCheck schema leaf :=
  compileLeaf_eq leaf

/-- A leaf of a field that is configured does not depend on the path that was written. -/
theorem compileConfigured_written (leaf : FilterLeaf) (written : String) :
    ctx.compileConfigured schema { leaf with field := written } (some config) =
      ctx.compileConfigured schema leaf (some config) := by
  unfold compileConfigured hookOf? configuredPath isSearch
  simp only [Option.map_some, Option.getD_some]

/-- Past the check of its path, a leaf compiles alike under every name of its field. -/
theorem alike_leafPastCheck {leaf : FilterLeaf}
    (hfield : ctx.registry.field? schema.entity leaf.field = some config)
    (hname : ctx.registry.field? schema.entity config.name = some config) :
    Alike (ctx.leafPastCheck schema leaf)
      (ctx.leafPastCheck schema { leaf with field := config.name }) := by
  unfold leafPastCheck
  rw [policy_configured hfield, policy_configured hname]
  cases config.filterable with
  | true =>
    change Alike (ctx.compileConfigured schema leaf (some config))
      (ctx.compileConfigured schema { leaf with field := config.name } (some config))
    exact congrArg (Except.mapError QueryError.kind)
      (compileConfigured_written leaf config.name).symm
  | false => rfl

/-- Past the check of its path, a leaf fails for a malformed path when it gets as far as to resolve
the configured one. -/
theorem malformed_leafPastCheck {leaf : FilterLeaf} (hjson : leaf.json = true)
    (hfield : ctx.registry.field? schema.entity leaf.field = some config) :
    Malformed (ctx.leafPastCheck schema leaf) ↔
      config.filterable = true ∧ isSearch leaf (some config) = false ∧
        (∃ operator, Operator.ofText? leaf.operator = some operator ∧ operator.length = false) ∧
          JsonPath.isWellFormed config.name = false := by
  unfold leafPastCheck
  rw [policy_configured hfield]
  cases config.filterable with
  | true =>
    rw [and_iff_right rfl]
    have hconfigured := malformed_compileConfigured ctx schema leaf (some config)
    rw [and_iff_right hjson] at hconfigured
    exact hconfigured
  | false =>
    refine iff_of_false (RaisesSemantic.not_malformed (Outcome.raises_error rfl)) ?_
    rintro ⟨h, -⟩
    cases h

/-- A leaf compiles alike under a name and under the configured name of its field when the check of
its path makes no difference. -/
theorem alike_compileLeaf {leaf : FilterLeaf}
    (hfield : ctx.registry.field? schema.entity leaf.field = some config)
    (hname : ctx.registry.field? schema.entity config.name = some config)
    (h : LeafCheckedAlike leaf config) :
    Alike (ctx.compileLeaf schema leaf)
      (ctx.compileLeaf schema { leaf with field := config.name }) := by
  rw [compileLeaf_eq_check, compileLeaf_eq_check]
  refine checkPath_bind_alike (alike_leafPastCheck hfield hname) ?_
  intro hjson
  rw [malformed_leafPastCheck hjson hfield]
  exact h hjson

/-- The check of its path makes no difference for a leaf that fails for a malformed path under both
names or under none. -/
theorem leafCheckedAlike_of_malformed_iff {leaf : FilterLeaf}
    (hfield : ctx.registry.field? schema.entity leaf.field = some config)
    (hname : ctx.registry.field? schema.entity config.name = some config)
    (h : Malformed (ctx.compileLeaf schema leaf) ↔
      Malformed (ctx.compileLeaf schema { leaf with field := config.name })) :
    LeafCheckedAlike leaf config := by
  intro hjson
  rw [compileLeaf_eq_check, compileLeaf_eq_check] at h
  rw [← malformed_leafPastCheck hjson hfield]
  exact of_malformed_checkPath_bind_iff (alike_leafPastCheck hfield hname) h hjson

/-- What follows the check of the path of a sort key. -/
def keyPastCheck (ctx : Context) (schema : Schema) (sort : SortDescriptor) :
    Except QueryError SortKey :=
  if ctx.registry.sortable schema.entity sort.field then
    ctx.keyAt schema sort.json
      (configuredPath (ctx.registry.field? schema.entity sort.field) sort.field)
  else .error (.notSortable sort.field)

/-- A sort key is compiled by the check of its path and what follows. -/
theorem compileKey_eq_check (sort : SortDescriptor) :
    ctx.compileKey schema sort =
      checkPath sort.json sort.field >>= fun _ => ctx.keyPastCheck schema sort :=
  compileKey_eq sort

/-- Past the check of its path, the key of a field that is configured. -/
theorem keyPastCheck_configured (sort : SortDescriptor)
    (hfield : ctx.registry.field? schema.entity sort.field = some config) :
    ctx.keyPastCheck schema sort =
      if config.sortable then ctx.keyAt schema sort.json config.name
      else .error (.notSortable sort.field) := by
  unfold keyPastCheck Registry.sortable
  rw [hfield]
  rfl

/-- Past the check of its path, a sort key compiles alike under every name of its field. -/
theorem alike_keyPastCheck {sort : SortDescriptor}
    (hfield : ctx.registry.field? schema.entity sort.field = some config)
    (hname : ctx.registry.field? schema.entity config.name = some config) :
    Alike (ctx.keyPastCheck schema sort)
      (ctx.keyPastCheck schema { sort with field := config.name }) := by
  rw [keyPastCheck_configured sort hfield,
    keyPastCheck_configured { sort with field := config.name } hname]
  cases config.sortable with
  | true => rfl
  | false => rfl

/-- Past the check of its path, a sort key fails for a malformed path when it gets as far as to
resolve the configured one. -/
theorem malformed_keyPastCheck {sort : SortDescriptor} (hjson : sort.json = true)
    (hfield : ctx.registry.field? schema.entity sort.field = some config) :
    Malformed (ctx.keyPastCheck schema sort) ↔
      config.sortable = true ∧ ctx.registry.sort? schema.entity config.name = none ∧
        JsonPath.isWellFormed config.name = false := by
  rw [keyPastCheck_configured sort hfield]
  cases config.sortable with
  | true =>
    have hkey := malformed_keyAt ctx schema sort.json config.name
    rw [and_iff_right hjson] at hkey
    simpa only [if_true, true_and] using hkey
  | false =>
    refine iff_of_false (RaisesSemantic.not_malformed (Outcome.raises_error rfl)) ?_
    rintro ⟨h, -⟩
    cases h

/-- A sort key compiles alike under a name and under the configured name of its field when the check
of its path makes no difference. -/
theorem alike_compileKey {sort : SortDescriptor}
    (hfield : ctx.registry.field? schema.entity sort.field = some config)
    (hname : ctx.registry.field? schema.entity config.name = some config)
    (h : ctx.KeyCheckedAlike schema sort config) :
    Alike (ctx.compileKey schema sort)
      (ctx.compileKey schema { sort with field := config.name }) := by
  rw [compileKey_eq_check, compileKey_eq_check]
  refine checkPath_bind_alike (alike_keyPastCheck hfield hname) ?_
  intro hjson
  rw [malformed_keyPastCheck hjson hfield]
  exact h hjson

/-- The check of its path makes no difference for a sort key that fails for a malformed path under
both names or under none. -/
theorem keyCheckedAlike_of_malformed_iff {sort : SortDescriptor}
    (hfield : ctx.registry.field? schema.entity sort.field = some config)
    (hname : ctx.registry.field? schema.entity config.name = some config)
    (h : Malformed (ctx.compileKey schema sort) ↔
      Malformed (ctx.compileKey schema { sort with field := config.name })) :
    ctx.KeyCheckedAlike schema sort config := by
  intro hjson
  rw [compileKey_eq_check, compileKey_eq_check] at h
  rw [← malformed_keyPastCheck hjson hfield]
  exact of_malformed_checkPath_bind_iff (alike_keyPastCheck hfield hname) h hjson

end Named

/-! ### Lists of one descriptor -/

section Singletons

variable (ctx : Context) (schema : Schema)

/-- A leaf that is compiled alone fails for a malformed path when the leaf does. -/
theorem malformed_compileFilters_leaf (leaf : FilterLeaf) :
    Malformed (ctx.compileFilters schema [.leaf leaf]) ↔
      Malformed (ctx.compileLeaf schema leaf) := by
  rw [compileFilters_leaf, malformed_lenient]

/-- A sort key that is compiled alone fails for a malformed path when the key does. -/
theorem malformed_compileSorts_singleton (sort : SortDescriptor) :
    Malformed (ctx.compileSorts schema [sort]) ↔ Malformed (ctx.compileKey schema sort) := by
  rw [compileSorts, malformed_bind, malformed_lenient, malformed_map, or_iff_left_iff_imp]
  rintro ⟨term, -, hterm⟩
  exact absurd hterm (RaisesSemantic.not_malformed (Outcome.raises_ok _))

end Singletons

/-- A descriptor that finds the configuration of a field by any name, such as an alias, compiles
alike as written and under the name of the field, exactly when the check of its path makes no
difference.  So it does unless it describes a node; and lists of filters and of sort keys compile as
if all fields were named as they are configured. -/
theorem alike_named {ctx : Context} {schema : Schema} {steps : List (Entity × RegistryStep)}
    (hregistry : ctx.registry = Registry.build steps) :
    (∀ leaf config, ctx.registry.field? schema.entity leaf.field = some config →
      (Alike (ctx.compileFilters schema [.leaf leaf])
        (ctx.compileFilters schema [.leaf { leaf with field := config.name }]) ↔
          LeafCheckedAlike leaf config)) ∧
    (∀ filters, (∀ leaf ∈ FilterDescriptor.leavesAll filters, ∀ config,
        ctx.registry.field? schema.entity leaf.field = some config →
          LeafCheckedAlike leaf config) →
      Alike (ctx.compileFilters schema filters)
        (ctx.compileFilters schema (FilterDescriptor.mapLeavesAll (ctx.named schema) filters))) ∧
    (∀ sort config, ctx.registry.field? schema.entity sort.field = some config →
      (Alike (ctx.compileSorts schema [sort])
        (ctx.compileSorts schema [{ sort with field := config.name }]) ↔
          ctx.KeyCheckedAlike schema sort config)) ∧
    ∀ sorts, (∀ sort ∈ sorts, ∀ config,
        ctx.registry.field? schema.entity sort.field = some config →
          ctx.KeyCheckedAlike schema sort config) →
      Alike (ctx.compileSorts schema sorts)
        (ctx.compileSorts schema (sorts.map (ctx.namedSort schema))) := by
  have hnamed : ∀ {written config}, ctx.registry.field? schema.entity written = some config →
      ctx.registry.field? schema.entity config.name = some config := by
    intro written config h
    rw [hregistry] at h ⊢
    exact (Registry.keyed_build steps).field?_name h
  have hleaf : ∀ leaf, (∀ config, ctx.registry.field? schema.entity leaf.field = some config →
      LeafCheckedAlike leaf config) →
        Alike (ctx.compileLeaf schema leaf) (ctx.compileLeaf schema (ctx.named schema leaf)) := by
    intro leaf h
    unfold named
    cases hfield : ctx.registry.field? schema.entity leaf.field with
    | none => rfl
    | some config => exact alike_compileLeaf hfield (hnamed hfield) (h config hfield)
  have hkey : ∀ sort, (∀ config, ctx.registry.field? schema.entity sort.field = some config →
      ctx.KeyCheckedAlike schema sort config) →
        Alike (ctx.compileKey schema sort) (ctx.compileKey schema (ctx.namedSort schema sort)) := by
    intro sort h
    unfold namedSort
    cases hfield : ctx.registry.field? schema.entity sort.field with
    | none => rfl
    | some config => exact alike_compileKey hfield (hnamed hfield) (h config hfield)
  have hdirection : ∀ sort, (ctx.namedSort schema sort).direction = sort.direction := by
    intro sort
    rfl
  refine ⟨?_, ?_, ?_, ?_⟩
  · intro leaf config hfield
    constructor
    · intro halike
      refine leafCheckedAlike_of_malformed_iff hfield (hnamed hfield) ?_
      rw [← malformed_compileFilters_leaf, ← malformed_compileFilters_leaf]
      exact halike.malformed_iff
    · intro hchecked
      rw [compileFilters_leaf, compileFilters_leaf]
      exact lenient_congr rfl (alike_compileLeaf hfield (hnamed hfield) hchecked)
  · intro filters hchecked
    refine compileFilters_congr rfl ?_
    intro leaf hmem
    exact hleaf leaf (hchecked leaf hmem)
  · intro sort config hfield
    constructor
    · intro halike
      refine keyCheckedAlike_of_malformed_iff hfield (hnamed hfield) ?_
      rw [← malformed_compileSorts_singleton, ← malformed_compileSorts_singleton]
      exact halike.malformed_iff
    · intro hchecked
      have hsingle : ∀ other ∈ [sort], Alike (ctx.compileKey schema other)
          (ctx.compileKey schema { other with field := config.name }) := by
        intro other hother
        cases List.mem_singleton.1 hother
        exact alike_compileKey hfield (hnamed hfield) hchecked
      exact @compileSorts_congr ctx ctx schema rfl
        (fun other => { other with field := config.name }) (fun _ => rfl) [sort] hsingle
  · intro sorts hchecked
    refine compileSorts_congr rfl hdirection ?_
    intro sort hmem
    exact hkey sort (hchecked sort hmem)

/-! ### Years and cities -/

/-- Users whose city, a node of their document, is also known under a name of its own. -/
def residents : Context :=
  { users with registry := .build [(user, .field "meta.address.city" [.aliasName "city"])] }

/-- The city is Paris. -/
def parisian : FilterLeaf where
  field := "city"
  values := [.string "Paris"]
  json := true

/-- The user is of age. -/
def adult : FilterLeaf where
  field := "YEARS"
  operator := ">="
  values := [.string "18"]

/-- Under its alias the age is compared and sorted by as it is under its name. -/
theorem alike_named_years :
    users.registry.field? user "YEARS" = some { name := "age", aliasName := some "years" } ∧
      Alike (users.compileFilters (users.catalog.schema user) [.leaf adult])
        (users.compileFilters (users.catalog.schema user)
          [.leaf { adult with field := "age" }]) ∧
      Alike (users.compileSorts (users.catalog.schema user) [{ field := "YEARS" }])
        (users.compileSorts (users.catalog.schema user) [{ field := "age" }]) := by
  have hfield : users.registry.field? user "YEARS" =
      some { name := "age", aliasName := some "years" } := by decide
  obtain ⟨hleaf, -, hkey, -⟩ := @alike_named users (users.catalog.schema user) _ rfl
  refine ⟨hfield, (hleaf adult { name := "age", aliasName := some "years" } hfield).2 ?_,
    (hkey { field := "YEARS" } { name := "age", aliasName := some "years" } hfield).2 ?_⟩
  · intro hjson
    cases hjson
  · intro hjson
    cases hjson

/-- An alias without a dot is refused where its field is a node: the alias is no path of a node,
though it stands for one. -/
theorem not_alike_named_city :
    residents.registry.field? user "city" =
        some { name := "meta.address.city", aliasName := some "city" } ∧
      residents.compileFilters (residents.catalog.schema user) [.leaf parisian] =
        .error (.invalidJsonPath "city") ∧
      residents.compileFilters (residents.catalog.schema user)
          [.leaf { parisian with field := "meta.address.city" }] =
        .ok (some (.compare (.json ⟨["meta"], ["address", "city"]⟩) .eq (.string "Paris") false)) ∧
      ¬ Alike
        (residents.compileFilters (residents.catalog.schema user) [.leaf parisian])
        (residents.compileFilters (residents.catalog.schema user)
          [.leaf { parisian with field := "meta.address.city" }]) := by
  have hfield : residents.registry.field? user "city" =
      some { name := "meta.address.city", aliasName := some "city" } := by decide
  have halias : residents.compileFilters (residents.catalog.schema user) [.leaf parisian] =
      .error (.invalidJsonPath "city") := rfl
  have hname : residents.compileFilters (residents.catalog.schema user)
      [.leaf { parisian with field := "meta.address.city" }] =
        .ok (some (.compare (.json ⟨["meta"], ["address", "city"]⟩) .eq (.string "Paris") false)) :=
    rfl
  refine ⟨hfield, halias, hname, ?_⟩
  rw [halias, hname]
  intro h
  cases h

end Context

end RecordQuery
