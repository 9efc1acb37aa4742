import RecordQuery.Proofs.Policy

/-!
# The policy of nested records

A path changes entity where it crosses a collection and where it steps into a nested record
(`Catalog.Enters`).  The compilation asks for the policy of the entity at collections, and not at
nested records: there it relies on the entity that holds the record, at the start of the path or
behind the last collection, and on what that entity closes (`Context.filterable_of_enters`).  So a
path that a nested entity closes is read all the same, unless the holder closes it as well.
-/

namespace RecordQuery

/-- The route steps into a nested record.  It gets there from a record of the holder, where the
route starts or behind a collection that it crosses, along the chain `before`, and goes on with
`rest`, which includes what is behind collections that follow. -/
inductive Catalog.Enters (catalog : Catalog) :
    Schema → List Access → (holder : Schema) → (before : Access) → (inner : Schema) →
      (rest : List String) → Prop where
  /-- The first chain of the route goes through the record. -/
  | here {schema inner : Schema} {before last : Access} {others : List Access}
      (nonempty : before ≠ []) (goesOn : last ≠ [])
      (nested : catalog.schemaAt? schema before = some inner) :
      Enters catalog schema ((before ++ last) :: others) schema before inner
        (last ++ others.flatten)
  /-- The record is behind the first collection. -/
  | across {schema holder inner : Schema} {collection before next : Access}
      {others : List Access} {rest : List String} {field : Field} {entity : Entity}
      (reads : catalog.fieldAt? schema collection = some field)
      (kind : field.kind = .list (.record entity))
      (enters : Enters catalog (catalog.schema entity) (next :: others) holder before inner rest) :
      Enters catalog schema (collection :: next :: others) holder before inner rest

/-- A route is open: the full path on the entity where it starts, and behind each collection the
rest of the path on the entity of the elements. -/
def Catalog.OpenRoute (catalog : Catalog) (registry : Registry) (schema : Schema)
    (route : List Access) : Prop :=
  registry.filterable schema.entity (Text.dotted route.flatten) = true ∧
    ∃ crossings, catalog.crossings? schema route = some crossings ∧
      ∀ crossing ∈ crossings, registry.filterable crossing.1 crossing.2 = true

/-- What the inner entity closes behind the chain is closed on the holder as well. -/
def Registry.Covers (registry : Registry) (holder : Schema) (before : Access) (inner : Schema)
    (rest : List String) : Prop :=
  registry.filterable inner.entity (Text.dotted rest) = false →
    registry.filterable holder.entity (Text.dotted (before ++ rest)) = false

namespace Catalog

variable {catalog : Catalog} {registry : Registry}

/-- Behind a collection an open route is open. -/
theorem OpenRoute.across {schema : Schema} {collection next : Access} {others : List Access}
    {field : Field} {entity : Entity}
    (isOpen : catalog.OpenRoute registry schema (collection :: next :: others))
    (reads : catalog.fieldAt? schema collection = some field)
    (kind : field.kind = .list (.record entity)) :
    catalog.OpenRoute registry (catalog.schema entity) (next :: others) := by
  obtain ⟨-, crossings, hcrossings, hopen⟩ := isOpen
  rw [crossings?, reads] at hcrossings
  simp only [Option.bind_some, kind, Kind.element?, Kind.entity?] at hcrossings
  obtain ⟨below, hbelow, rfl⟩ := Option.map_eq_some_iff.1 hcrossings
  have hfirst := hopen (entity, Text.dotted (next :: others).flatten) List.mem_cons_self
  refine ⟨hfirst, below, hbelow, ?_⟩
  intro crossing hcrossing
  exact hopen crossing (List.mem_cons_of_mem _ hcrossing)

/-- Where an open route enters a nested record, the path from the holder is open. -/
theorem OpenRoute.filterable_holder {root holder inner : Schema} {route : List Access}
    {before : Access} {rest : List String} (isOpen : catalog.OpenRoute registry root route)
    (enters : catalog.Enters root route holder before inner rest) :
    registry.filterable holder.entity (Text.dotted (before ++ rest)) = true := by
  induction enters with
  | here =>
    rw [← List.append_assoc]
    exact isOpen.1
  | across reads kind _ ih => exact ih (isOpen.across reads kind)

end Catalog

namespace Context

/-- Against a registry that was built, filters compile to predicates that step only into nested
records whose holder opens the path.  What is read there is open on the nested entity too exactly
when the holder covers what this entity closes. -/
theorem filterable_of_enters (catalog : Catalog) (steps : List (Entity × RegistryStep))
    (options : Options) (schema : Schema) {filters : List FilterDescriptor} {p : Predicate}
    (h : compileFilters ⟨catalog, Registry.build steps, options⟩ schema filters = .ok (some p)) :
    ∀ route ∈ p.routes, ∀ holder before inner rest,
      catalog.Enters schema route holder before inner rest →
        (Registry.build steps).filterable holder.entity (Text.dotted (before ++ rest)) = true ∧
          ((Registry.build steps).filterable inner.entity (Text.dotted rest) = true ↔
            (Registry.build steps).Covers holder before inner rest) := by
  intro route hroute holder before inner rest enters
  have isOpen : catalog.OpenRoute (Registry.build steps) schema route :=
    open_of_compileFilters (Registry.keyed_build steps) h route hroute
  have hholder := isOpen.filterable_holder enters
  refine ⟨hholder, ?_⟩
  unfold Registry.Covers
  rw [hholder]
  simp

/-! ### Entities without a say -/

section Unheld

variable {ctx : Context} {registry : Registry} {entity : Entity}

variable (ctx registry) in
/-- The context with another registry. -/
def withRegistry : Context := { ctx with registry := registry }

variable (ctx registry entity) in
/-- The registries configure every entity alike but one, and no collection holds this one. -/
structure Unheld : Prop where
  config : ∀ other, other ≠ entity → registry.config other = ctx.registry.config other
  held : ∀ holder field, (ctx.catalog.schema holder).canonical? field.name = some field →
    field.kind ≠ .list (.record entity)

/-- Another entity has the same policy. -/
theorem Unheld.policy (unheld : ctx.Unheld registry entity) {other : Entity} (hne : other ≠ entity)
    (path : String) : (ctx.withRegistry registry).policy other path = ctx.policy other path := by
  have hfield : (ctx.withRegistry registry).registry.field? other path =
      ctx.registry.field? other path := by
    have hconfig : (ctx.withRegistry registry).registry.config other = ctx.registry.config other :=
      unheld.config other hne
    unfold Registry.field?
    rw [hconfig]
  unfold Context.policy
  rw [hfield]

/-- A path is quantified as before: it crosses no collection of the entity. -/
theorem Unheld.quantify (unheld : ctx.Unheld registry entity)
    (build : Access → Field → Except QueryError (Option Predicate)) {here : Schema}
    {path : FieldPath} (typed : path.Typed ctx.catalog here)
    (hhere : ∃ holder, here = ctx.catalog.schema holder) (before : Access) :
    (ctx.withRegistry registry).quantify build before path = ctx.quantify build before path := by
  induction typed generalizing before with
  | leaf => rfl
  | nested _ _ _ ih => exact ih ⟨_, rfl⟩ _
  | @each _ field element rest found kind _ ih =>
    obtain ⟨holder, rfl⟩ := hhere
    have hne : element ≠ entity := by
      rintro rfl
      exact unheld.held holder field found kind
    rw [Context.quantify, Context.quantify, unheld.policy hne, ih ⟨_, rfl⟩]

/-- A leaf for another entity compiles as before. -/
theorem Unheld.compileLeaf (unheld : ctx.Unheld registry entity) {root : Entity}
    (hroot : root ≠ entity) (leaf : FilterLeaf) :
    (ctx.withRegistry registry).compileLeaf (ctx.catalog.schema root) leaf =
      ctx.compileLeaf (ctx.catalog.schema root) leaf := by
  have hpolicy : (ctx.withRegistry registry).policy root leaf.field = ctx.policy root leaf.field :=
    unheld.policy hroot leaf.field
  have hfilter : ∀ path, (ctx.withRegistry registry).registry.filter? root path =
      ctx.registry.filter? root path := by
    intro path
    have hconfig : (ctx.withRegistry registry).registry.config root = ctx.registry.config root :=
      unheld.config root hroot
    unfold Registry.filter?
    rw [hconfig]
  have hpath : ∀ path build,
      (FieldPath.resolve ctx.catalog (ctx.catalog.schema root) path >>=
        (ctx.withRegistry registry).quantify build []) =
      (FieldPath.resolve ctx.catalog (ctx.catalog.schema root) path >>= ctx.quantify build []) := by
    intro path build
    cases hresolved : FieldPath.resolve ctx.catalog (ctx.catalog.schema root) path with
    | error e => rfl
    | ok resolved =>
      exact unheld.quantify build (FieldPath.typed_of_resolve hresolved) ⟨root, rfl⟩ []
  have hconfigured : ∀ config, (ctx.withRegistry registry).compileConfigured
      (ctx.catalog.schema root) leaf config =
        ctx.compileConfigured (ctx.catalog.schema root) leaf config := by
    intro config
    have hhook : (ctx.withRegistry registry).hookOf? (ctx.catalog.schema root) leaf config =
        ctx.hookOf? (ctx.catalog.schema root) leaf config := by
      unfold hookOf?
      exact congrArg _ (hfilter _)
    have hcatalog : (ctx.withRegistry registry).catalog = ctx.catalog := rfl
    have hlanguage : (ctx.withRegistry registry).searchLanguage config =
        ctx.searchLanguage config := rfl
    unfold compileConfigured
    simp only [hhook, hcatalog, hlanguage, hpath]
  rw [compileLeaf_eq, compileLeaf_eq, funext hconfigured]
  exact congrArg (fun policy => checkPath leaf.json leaf.field >>= fun _ =>
    policy >>= ctx.compileConfigured (ctx.catalog.schema root) leaf) hpolicy

mutual

/-- A filter for another entity compiles as before. -/
theorem Unheld.compileFilter (unheld : ctx.Unheld registry entity) {root : Entity}
    (hroot : root ≠ entity) (d : FilterDescriptor) :
    (ctx.withRegistry registry).compileFilter (ctx.catalog.schema root) d =
      ctx.compileFilter (ctx.catalog.schema root) d := by
  cases d with
  | leaf leaf =>
    rw [Context.compileFilter, Context.compileFilter]
    exact unheld.compileLeaf hroot leaf
  | group children =>
    rw [Context.compileFilter, Context.compileFilter, unheld.compileParts hroot children]

/-- Filters for another entity compile one by one as before. -/
theorem Unheld.compileParts (unheld : ctx.Unheld registry entity) {root : Entity}
    (hroot : root ≠ entity) (filters : List FilterDescriptor) :
    (ctx.withRegistry registry).compileParts (ctx.catalog.schema root) filters =
      ctx.compileParts (ctx.catalog.schema root) filters := by
  cases filters with
  | nil => rfl
  | cons d ds =>
    rw [Context.compileParts, Context.compileParts, unheld.compileFilter hroot d,
      unheld.compileParts hroot ds]
    rfl

end

/-- An entity that is reached through nested records only has no say: however it is configured,
filters for another entity compile to the same. -/
theorem Unheld.compileFilters (unheld : ctx.Unheld registry entity) {root : Entity}
    (hroot : root ≠ entity) (filters : List FilterDescriptor) :
    (ctx.withRegistry registry).compileFilters (ctx.catalog.schema root) filters =
      ctx.compileFilters (ctx.catalog.schema root) filters :=
  congrArg (Except.map Predicate.allOf) (unheld.compileParts hroot filters)

end Unheld

/-! ### Residents and their addresses -/

/-- A resident, who may have an address. -/
def resident : Entity := ⟨0, "Resident"⟩

/-- An address, with a city and a code. -/
def address : Entity := ⟨1, "Address"⟩

/-- The fields of residents and addresses. -/
def town : Catalog where
  fields entity :=
    if entity = address then [⟨"city", .string, false⟩, ⟨"zip", .uint, true⟩]
    else [⟨"name", .string, false⟩, ⟨"address", .record address, true⟩]

/-- The route to a field of the address steps into the address. -/
theorem enters_address (name : String) : town.Enters (town.schema resident) [["address", name]]
    (town.schema resident) ["address"] (town.schema address) [name] :=
  @Catalog.Enters.here town (town.schema resident) (town.schema address) ["address"] [name] []
    (List.cons_ne_nil _ _) (List.cons_ne_nil _ _) rfl

/-- The code is closed on addresses, and behind residents as well. -/
def closedTwice : List (Entity × RegistryStep) :=
  [(address, .notFilterable "zip"), (resident, .notFilterable "address.zip")]

/-- The address of the resident is in a city. -/
def settled : FilterLeaf where
  field := "address.city"
  values := [.string "Paris"]

/-- The city is read behind a resident and is open on both entities. -/
theorem filterable_of_enters_settled :
    (∃ p, compileFilters ⟨town, Registry.build closedTwice, {}⟩ (town.schema resident)
        [.leaf settled] = .ok (some p)) ∧
      (Registry.build closedTwice).filterable resident (Text.dotted ["address", "city"]) = true ∧
      (Registry.build closedTwice).filterable address (Text.dotted ["city"]) = true := by
  have hcompiled : compileFilters ⟨town, Registry.build closedTwice, {}⟩ (town.schema resident)
      [.leaf settled] = .ok (some (.compare (.field ["address", "city"]) .eq (.string "Paris")
        false)) := rfl
  obtain ⟨hholder, hinner⟩ := filterable_of_enters town closedTwice {} (town.schema resident)
    hcompiled [["address", "city"]] (List.mem_singleton_self _) _ _ _ _ (enters_address "city")
  refine ⟨⟨_, hcompiled⟩, hholder, hinner.2 ?_⟩
  intro hclosed
  have hopen : (Registry.build closedTwice).filterable address (Text.dotted ["city"]) = true := by
    decide
  cases hopen.symm.trans hclosed

/-- The code is closed on addresses only. -/
def closedOnce : List (Entity × RegistryStep) := [(address, .notFilterable "zip")]

/-- The address of the resident has a code above another one. -/
def coded : FilterLeaf where
  field := "address.ZIP"
  operator := ">"
  values := [.string "10000"]

/-- The code is read behind a resident although addresses close it. -/
theorem reads_closed_coded :
    ∃ p, compileFilters ⟨town, Registry.build closedOnce, {}⟩ (town.schema resident)
        [.leaf coded] = .ok (some p) ∧
      [["address", "zip"]] ∈ p.routes ∧
      town.Enters (town.schema resident) [["address", "zip"]] (town.schema resident) ["address"]
        (town.schema address) ["zip"] ∧
      (Registry.build closedOnce).filterable address (Text.dotted ["zip"]) = false := by
  have hcompiled : compileFilters ⟨town, Registry.build closedOnce, {}⟩ (town.schema resident)
      [.leaf coded] = .ok (some (.compare (.field ["address", "zip"]) .gt
        (.number (.unsigned 10000)) false)) := rfl
  have hclosed : (Registry.build closedOnce).filterable address (Text.dotted ["zip"]) = false := by
    decide
  exact ⟨_, hcompiled, List.mem_singleton_self _, enters_address "zip", hclosed⟩

end Context

end RecordQuery
