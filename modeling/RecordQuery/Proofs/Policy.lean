import RecordQuery.Proofs.Compilation
import RecordQuery.Proofs.Registry
import RecordQuery.Proofs.Spelling

/-!
# Field policy

No spelling gets around a registry that was built.  Whatever a compiled predicate reads is open to
filtering on the entity where it starts, and behind every collection that it crosses on the entity
of the elements (`Predicate.Open`); whatever a compiled chain sorts by is open to sorting.

A policy is looked up by the path that was written, and the predicate reads the path in canonical
spelling, behind an alias the one of its configuration.  The two spellings have the same lower-case
form, by which the registry tells names apart.
-/

namespace RecordQuery

/-! ### What predicates read -/

/-- The names that a target reads: a chain of fields, and for a node also the keys below it. -/
def Target.names : Target → List String
  | .field access => access
  | .json path => path.member ++ path.keys

/-- The names that a sort key reads; a key of its own reads none. -/
def SortKey.names? : SortKey → Option (List String)
  | .field access => some access
  | .json path => some (path.member ++ path.keys)
  | .custom _ => none

namespace Predicate

mutual

/-- Everything that a predicate reads: the chains of the collections that are crossed, one after the
other, and the names that are read at the end. -/
def routes : Predicate → List (List Access)
  | .compare target _ _ _ => [[target.names]]
  | .isNull access => [[access]]
  | .length access _ _ => [[access]]
  | .contains access _ _ => [[access]]
  | .any collection inner => inner.routes.map fun route => collection :: route
  | .search access _ _ => [[access]]
  | .custom _ => []
  | .and parts => routesAll parts
  | .or parts => routesAll parts
  | .not inner => inner.routes

/-- Everything that several predicates read. -/
def routesAll : List Predicate → List (List Access)
  | [] => []
  | p :: ps => p.routes ++ routesAll ps

end

theorem mem_routesAll {parts : List Predicate} {route : List Access} :
    route ∈ routesAll parts ↔ ∃ p ∈ parts, route ∈ p.routes := by
  induction parts with
  | nil => simp [routesAll]
  | cons p ps ih => simp [routesAll, ih]

/-- Joined predicates read what the parts read. -/
theorem exists_of_mem_routes_join {junction : Junction} {parts : List Predicate} {p : Predicate}
    (h : join junction parts = some p) {route : List Access} (hroute : route ∈ p.routes) :
    ∃ part ∈ parts, route ∈ part.routes := by
  rcases eq_of_join h with rfl | rfl | rfl
  · exact ⟨p, List.mem_cons_self, hroute⟩
  · exact mem_routesAll.1 hroute
  · exact mem_routesAll.1 hroute

end Predicate

/-- The collections that a route crosses: the entity of the elements of each, and the dotted path
that is read behind it. -/
def Catalog.crossings? (catalog : Catalog) (schema : Schema) :
    List Access → Option (List (Entity × String))
  | collection :: next :: rest =>
    ((catalog.fieldAt? schema collection).bind fun field =>
      field.kind.element?.bind Kind.entity?).bind fun entity =>
        (crossings? catalog (catalog.schema entity) (next :: rest)).map fun others =>
          (entity, Text.dotted (next :: rest).flatten) :: others
  | _ => some []

/-- What a predicate reads is open to filtering: the full path on the entity where it starts, and
behind each collection the rest of the path on the entity of the elements. -/
def Predicate.Open (catalog : Catalog) (registry : Registry) (schema : Schema) (p : Predicate) :
    Prop :=
  ∀ route ∈ p.routes,
    registry.filterable schema.entity (Text.dotted route.flatten) = true ∧
      ∃ crossings, catalog.crossings? schema route = some crossings ∧
        ∀ crossing ∈ crossings, registry.filterable crossing.1 crossing.2 = true

/-- Joined predicates are open when the parts are. -/
theorem Predicate.open_of_join {catalog : Catalog} {registry : Registry} {schema : Schema}
    {junction : Junction} {parts : List Predicate} {p : Predicate}
    (hparts : ∀ part ∈ parts, part.Open catalog registry schema)
    (h : join junction parts = some p) : p.Open catalog registry schema := by
  intro route hroute
  obtain ⟨part, hpart, hroute⟩ := exists_of_mem_routes_join h hroute
  exact hparts part hpart route hroute

/-! ### Two spellings of a path -/

namespace Context

variable {ctx : Context} {schema : Schema}

/-- A path in the spelling of its configuration is configured as the one that was written. -/
theorem field?_eq_of_lower (keyed : ctx.registry.Keyed) {entity : Entity} {written name : String}
    (h : Text.lower name =
      Text.lower (configuredPath (ctx.registry.field? entity written) written)) :
    ctx.registry.field? entity name = ctx.registry.field? entity written := by
  rw [Registry.field?_congr h]
  cases hconfig : ctx.registry.field? entity written with
  | none => exact hconfig
  | some config => exact keyed.field?_name hconfig

/-- A resolved path is configured as the one that was written. -/
theorem field?_names (keyed : ctx.registry.Keyed) {entity : Entity} {written : String}
    {names : List String}
    (h : List.Forall₂ (fun name segment => Text.agree name segment = true) names
      (Text.segments (configuredPath (ctx.registry.field? entity written) written))) :
    ctx.registry.field? entity (Text.dotted names) = ctx.registry.field? entity written :=
  field?_eq_of_lower keyed (Text.lower_dotted_eq h)

/-! ### Comparisons -/

/-- A full-text search reads the field. -/
theorem routes_of_searchAt {path language : String} {terms : List String} {access : Access}
    {field : Field} {p : Predicate}
    (h : searchAt path language terms access field = .ok (some p)) :
    ∀ route ∈ p.routes, route = [access] := by
  obtain ⟨-, hterms⟩ := searchAt_eq_some h
  intro route hroute
  obtain ⟨part, hpart, hroute⟩ := Predicate.exists_of_mem_routes_join hterms hroute
  obtain ⟨term, -, rfl⟩ := List.mem_map.1 hpart
  exact List.mem_singleton.1 hroute

/-- A comparison reads the field. -/
theorem routes_of_compareField {operator : Operator} {values : List Json} {access : Access}
    {field : Field} {p : Predicate}
    (h : compareField operator values access field = .ok (some p)) :
    ∀ route ∈ p.routes, route = [access] := by
  intro route hroute
  obtain ⟨-, hlength⟩ | ⟨-, parts, hjoin, hparts⟩ := compareField_eq_some h
  · obtain ⟨-, n, rfl⟩ := compareLength_eq_some hlength
    exact List.mem_singleton.1 hroute
  · obtain ⟨part, hpart, hroute⟩ := Predicate.exists_of_mem_routes_join hjoin hroute
    obtain ⟨element, raw, -, hraw⟩ | ⟨raw, hraw⟩ := hparts part hpart
    · obtain ⟨operand, -, -, rfl | rfl⟩ := containsOperand_eq_some hraw
      · exact List.mem_singleton.1 hroute
      · exact List.mem_singleton.1 hroute
    · obtain ⟨-, rfl | rfl⟩ | ⟨-, -, operand, -, rfl⟩ := compareOperand_eq_some hraw
      · exact List.mem_singleton.1 hroute
      · exact List.mem_singleton.1 hroute
      · exact List.mem_singleton.1 hroute

/-- A predicate that is quantified along a path reads the path, and each collection on the way is
open to filtering on the entity of its elements. -/
theorem routes_of_quantify {build : Access → Field → Except QueryError (Option Predicate)}
    (hbuild : ∀ access field p, build access field = .ok (some p) →
      ∀ route ∈ p.routes, route = [access])
    {here : Schema} {path : FieldPath} (typed : path.Typed ctx.catalog here) {root : Schema}
    {before : Access} {p : Predicate} (hbefore : ctx.catalog.schemaAt? root before = some here)
    (h : ctx.quantify build before path = .ok (some p)) :
    ∀ route ∈ p.routes, route.flatten = before ++ path.names ∧
      ∃ crossings, ctx.catalog.crossings? root route = some crossings ∧
        ∀ crossing ∈ crossings, ctx.registry.filterable crossing.1 crossing.2 = true := by
  induction typed generalizing root before p with
  | @leaf schema field found =>
    intro route hroute
    rw [hbuild _ field p h route hroute]
    refine ⟨List.append_nil _, [], rfl, ?_⟩
    intro crossing hcrossing
    cases hcrossing
  | @nested schema field entity rest found kind _ ih =>
    intro route hroute
    obtain ⟨hflatten, hcrossings⟩ := ih (Catalog.schemaAt?_snoc hbefore found kind) h route hroute
    refine ⟨?_, hcrossings⟩
    rw [hflatten, List.append_assoc]
    rfl
  | @each schema field entity rest found kind _ ih =>
    obtain ⟨config, inner, hpolicy, hinner, rfl⟩ := quantify_each_eq_some h
    intro route hroute
    obtain ⟨below, hbelow, rfl⟩ := List.mem_map.1 hroute
    obtain ⟨hflatten, crossings, hcrossings, hopen⟩ := ih rfl hinner below hbelow
    rw [List.nil_append] at hflatten
    refine ⟨?_, ?_⟩
    · rw [List.flatten_cons, hflatten, List.append_assoc]
      rfl
    · -- The path below the collection is not empty, so the collection is crossed.
      obtain ⟨next, others, rfl⟩ : ∃ next others, below = next :: others := by
        cases below with
        | nil => cases rest <;> cases hflatten
        | cons next others => exact ⟨next, others, rfl⟩
      have hfield := Catalog.fieldAt?_snoc hbefore found
      refine ⟨(entity, Text.dotted rest.names) :: crossings, ?_, ?_⟩
      · rw [Catalog.crossings?, hfield, hflatten]
        simp only [Option.bind_some, kind, Kind.element?, Kind.entity?, hcrossings,
          Option.map_some]
      · intro crossing hcrossing
        rcases List.mem_cons.1 hcrossing with rfl | hcrossing
        · exact (policy_eq_ok.1 hpolicy).2
        · exact hopen crossing hcrossing

/-! ### Leaves and sort keys -/

/-- A predicate that is quantified along the path of a configuration is open when the path that was
written is. -/
theorem open_of_quantify (keyed : ctx.registry.Keyed)
    {build : Access → Field → Except QueryError (Option Predicate)}
    (hbuild : ∀ access field p, build access field = .ok (some p) →
      ∀ route ∈ p.routes, route = [access])
    {written : String} (hopen : ctx.registry.filterable schema.entity written = true)
    {resolved : FieldPath}
    (hresolved : FieldPath.resolve ctx.catalog schema
      (configuredPath (ctx.registry.field? schema.entity written) written) = .ok resolved)
    {p : Predicate} (h : ctx.quantify build [] resolved = .ok (some p)) :
    p.Open ctx.catalog ctx.registry schema := by
  intro route hroute
  obtain ⟨hflatten, hcrossings⟩ :=
    routes_of_quantify hbuild (FieldPath.typed_of_resolve hresolved) rfl h route hroute
  refine ⟨?_, hcrossings⟩
  have hnames := field?_names keyed (FieldPath.agree_names_of_resolve hresolved)
  rw [hflatten, List.nil_append, Registry.filterable, hnames]
  exact hopen

/-- The names that a resolved JSON path reads agree with the segments that were written. -/
theorem agree_names_of_resolve_json {path : String} {target : JsonPath}
    (h : JsonPath.resolve schema path = .ok target) :
    List.Forall₂ (fun name segment => Text.agree name segment = true)
      (target.member ++ target.keys) (Text.segments path) := by
  obtain ⟨field, member, hfield, -, hmember, -, hsegments⟩ := JsonPath.resolve_eq_ok h
  rw [hmember, hsegments]
  refine .cons (Schema.agree_of_field? hfield) ?_
  exact List.forall₂_same.2 fun key _ => Text.agree_self key

/-- A leaf compiles to a predicate that is open. -/
theorem open_of_compileLeaf (keyed : ctx.registry.Keyed) {leaf : FilterLeaf} {p : Predicate}
    (h : ctx.compileLeaf schema leaf = .ok (some p)) : p.Open ctx.catalog ctx.registry schema := by
  obtain ⟨config, path, hpolicy, hpath, hcases⟩ := compileLeaf_eq_some h
  obtain ⟨hconfig, hopen⟩ := policy_eq_ok.1 hpolicy
  rw [← hconfig] at hpath
  subst hpath
  obtain hsearch | ⟨hook, -, rfl⟩ | ⟨operator, -, hnode⟩ | hfield := hcases
  · obtain ⟨language, terms, resolved, hresolved, hquantify⟩ := hsearch
    exact open_of_quantify keyed (fun _ _ _ => routes_of_searchAt) hopen hresolved hquantify
  · intro route hroute
    cases hroute
  · obtain ⟨-, target, htarget, hjoin⟩ := compareNode_eq_ok.1 hnode
    intro route hroute
    obtain ⟨part, hpart, hroute⟩ := Predicate.exists_of_mem_routes_join hjoin hroute
    obtain ⟨s, -, rfl⟩ := List.mem_map.1 hpart
    rw [List.mem_singleton.1 hroute]
    refine ⟨?_, [], rfl, ?_⟩
    · have hnames := field?_names keyed (agree_names_of_resolve_json htarget)
      rw [List.flatten_singleton, Target.names, Registry.filterable, hnames]
      exact hopen
    · intro crossing hcrossing
      cases hcrossing
  · obtain ⟨operator, resolved, -, hresolved, hquantify⟩ := hfield
    exact open_of_quantify keyed (fun _ _ _ => routes_of_compareField) hopen hresolved hquantify

/-- Filters compile to a predicate that is open. -/
theorem open_of_compileFilters (keyed : ctx.registry.Keyed) {filters : List FilterDescriptor}
    {p : Predicate} (h : ctx.compileFilters schema filters = .ok (some p)) :
    p.Open ctx.catalog ctx.registry schema :=
  compileFilters_induction (fun _ _ hleaf => open_of_compileLeaf keyed hleaf)
    (fun _ _ _ => Predicate.open_of_join) h

/-- A sort key compiles to one that is open to sorting. -/
theorem sortable_of_compileKey (keyed : ctx.registry.Keyed) {sort : SortDescriptor} {key : SortKey}
    (h : ctx.compileKey schema sort = .ok key) {names : List String}
    (hnames : key.names? = some names) :
    ctx.registry.sortable schema.entity (Text.dotted names) = true := by
  obtain ⟨hopen, path, rfl, hcases⟩ := compileKey_eq_ok h
  have hagree : List.Forall₂ (fun name segment => Text.agree name segment = true) names
      (Text.segments
        (configuredPath (ctx.registry.field? schema.entity sort.field) sort.field)) := by
    obtain ⟨hook, -, rfl⟩ | ⟨target, htarget, rfl⟩ | ⟨resolved, hresolved, hcross, -, rfl⟩ := hcases
    · cases hnames
    · cases hnames
      exact agree_names_of_resolve_json htarget
    · cases hnames
      rw [FieldPath.access_eq_names hcross]
      exact FieldPath.agree_names_of_resolve hresolved
  rw [Registry.sortable, field?_names keyed hagree]
  exact hopen

/-- Against a registry that was built, filters in either mode compile to predicates that read only
what is open to filtering, and sort keys to chains that sort only by what is open to sorting. -/
theorem open_of_build (catalog : Catalog) (steps : List (Entity × RegistryStep)) (options : Options)
    (schema : Schema) :
    (∀ filters p,
      compileFilters ⟨catalog, Registry.build steps, options⟩ schema filters = .ok (some p) →
        p.Open catalog (Registry.build steps) schema) ∧
      ∀ sorts chain,
        compileSorts ⟨catalog, Registry.build steps, options⟩ schema sorts = .ok chain →
          ∀ term ∈ chain, ∀ names, term.key.names? = some names →
            (Registry.build steps).sortable schema.entity (Text.dotted names) = true := by
  have keyed := Registry.keyed_build steps
  refine ⟨?_, ?_⟩
  · intro filters p h
    exact open_of_compileFilters keyed h
  · intro sorts chain h term hterm names hnames
    obtain ⟨sort, -, hkey, -⟩ := exists_of_mem_compileSorts h term hterm
    exact sortable_of_compileKey keyed hkey hnames

end Context

end RecordQuery
