import RecordQuery.Record
import RecordQuery.Table
import RecordQuery.Text.LowerCase

/-!
# Registries

A registry restricts and extends what descriptors may do, entity by entity: which fields may be
filtered and sorted, under which alias a field is known, which fields are searched as full text, and
which names stand for filters and sort keys of their own.  Names are told apart by their lower-case
form.  What a registry does not mention is allowed.

A registry is built by a list of steps.  Each step touches one entity and adds to what earlier steps
have set there.  Steps for one entity may be performed together in a scope.
-/

namespace RecordQuery

/-- What is configured for one field. -/
structure FieldConfig where
  /-- The field as it was first named. -/
  name : String
  sortable : Bool := true
  filterable : Bool := true
  /-- Another name for the field. -/
  aliasName : Option String := none
  /-- Filters on the field are full-text searches. -/
  vector : Bool := false
  /-- The language of full-text searches on the field. -/
  vectorLanguage : Option String := none
deriving DecidableEq

/-- A filter with a name of its own.  It holds for no record of another entity. -/
structure FilterHook where
  name : String
  entity : Entity
  /-- Which registration made the hook; two hooks are the same only if it is. -/
  registration : Nat
  accepts : Record → Bool

/-- A sort key with a name of its own.  Records of another entity have a null key. -/
structure SortHook where
  name : String
  entity : Entity
  /-- Which registration made the hook; two hooks are the same only if it is. -/
  registration : Nat
  keyOf : Record → Scalar

/-- The hook holds for a record. -/
def FilterHook.holds (hook : FilterHook) (r : Record) : Bool :=
  r.entity == hook.entity && hook.accepts r

/-- Two hooks come from one registration. -/
def FilterHook.same (a b : FilterHook) : Bool := a.name == b.name && a.registration == b.registration

/-- The key of a record. -/
def SortHook.key (hook : SortHook) (r : Record) : Scalar :=
  if r.entity == hook.entity then hook.keyOf r else .null

/-- Two hooks come from one registration. -/
def SortHook.same (a b : SortHook) : Bool := a.name == b.name && a.registration == b.registration

/-- What is configured for one entity.  All tables are keyed by lower-case names; `aliases` leads to
keys of `fields`. -/
structure EntityConfig where
  fields : Table String FieldConfig := .empty
  aliases : Table String String := .empty
  filters : Table String FilterHook := .empty
  sorts : Table String SortHook := .empty

/-- What is configured for all entities. -/
structure Registry where
  entities : Table Entity EntityConfig := .empty
  /-- How many steps have been performed; a hook is marked with the number of its step. -/
  steps : Nat := 0

/-! ### Building -/

/-- One setting of a field. -/
inductive FieldSetting where
  | sortable (allowed : Bool)
  | filterable (allowed : Bool)
  | aliasName (name : String)
  | vector
  | vectorLanguage (language : String)

/-- One step in building a registry. -/
inductive RegistryStep where
  /-- Settings of a field, applied in order. -/
  | field (name : String) (settings : List FieldSetting)
  | filter (name : String) (accepts : Record → Bool)
  | sort (name : String) (keyOf : Record → Scalar)

namespace RegistryStep

/-- Excludes a field from sorting. -/
def notSortable (name : String) : RegistryStep := .field name [.sortable false]

/-- Excludes a field from filtering. -/
def notFilterable (name : String) : RegistryStep := .field name [.filterable false]

end RegistryStep

/-- The configuration with one setting changed. -/
def FieldConfig.apply (config : FieldConfig) : FieldSetting → FieldConfig
  | .sortable allowed => { config with sortable := allowed }
  | .filterable allowed => { config with filterable := allowed }
  | .aliasName name => { config with aliasName := some name }
  | .vector => { config with vector := true }
  | .vectorLanguage language => { config with vector := true, vectorLanguage := some language }

namespace EntityConfig

/-- Changes the settings of a field.  The alias that the field had is given up, and the one that it
has now leads to it. -/
def setField (config : EntityConfig) (name : String) (settings : List FieldSetting) :
    EntityConfig :=
  let key := Text.lower name
  let before := (config.fields.get? key).getD { name := name }
  let field := settings.foldl FieldConfig.apply before
  let aliases := match before.aliasName with
    | some old => config.aliases.erase (Text.lower old)
    | none => config.aliases
  let aliases := match field.aliasName with
    | some new => aliases.insert (Text.lower new) key
    | none => aliases
  { config with fields := config.fields.insert key field, aliases := aliases }

/-- Performs a step; `registration` marks the hook that it may register. -/
def perform (config : EntityConfig) (entity : Entity) (registration : Nat) :
    RegistryStep → EntityConfig
  | .field name settings => config.setField name settings
  | .filter name accepts =>
    { config with
      filters := config.filters.insert (Text.lower name) ⟨name, entity, registration, accepts⟩ }
  | .sort name keyOf =>
    { config with
      sorts := config.sorts.insert (Text.lower name) ⟨name, entity, registration, keyOf⟩ }

/-- Performs steps one after the other; the first one has the number `registration`. -/
def performAll (config : EntityConfig) (entity : Entity) (registration : Nat) :
    List RegistryStep → EntityConfig
  | [] => config
  | step :: steps =>
    (config.perform entity registration step).performAll entity (registration + 1) steps

end EntityConfig

namespace Registry

/-- The registry that restricts nothing. -/
def empty : Registry := {}

/-- What is configured for an entity. -/
def config (registry : Registry) (entity : Entity) : EntityConfig :=
  (registry.entities.get? entity).getD {}

/-- Performs a step for an entity. -/
def perform (registry : Registry) (entity : Entity) (step : RegistryStep) : Registry where
  entities := registry.entities.insert entity
    ((registry.config entity).perform entity registry.steps step)
  steps := registry.steps + 1

/-- The registry that a list of steps builds. -/
def build (steps : List (Entity × RegistryStep)) : Registry :=
  steps.foldl (fun registry (entity, step) => registry.perform entity step) empty

/-- A scope: the configuration of an entity is taken out, steps are performed on it, and it is put
back. -/
def scope (registry : Registry) (entity : Entity) (steps : List RegistryStep) : Registry where
  entities := (registry.entities.erase entity).insert entity
    ((registry.config entity).performAll entity registry.steps steps)
  steps := registry.steps + steps.length

/-- The registry that a list of scopes builds. -/
def ofScopes (scopes : List (Entity × List RegistryStep)) : Registry :=
  scopes.foldl (fun registry (entity, steps) => registry.scope entity steps) empty

/-! ### Looking up -/

/-- The configuration of a field, by its name or else by its alias. -/
def field? (registry : Registry) (entity : Entity) (name : String) : Option FieldConfig :=
  let config := registry.config entity
  let key := Text.lower name
  (config.fields.get? key).or ((config.aliases.get? key).bind config.fields.get?)

/-- The filter of a name. -/
def filter? (registry : Registry) (entity : Entity) (name : String) : Option FilterHook :=
  (registry.config entity).filters.get? (Text.lower name)

/-- The sort key of a name. -/
def sort? (registry : Registry) (entity : Entity) (name : String) : Option SortHook :=
  (registry.config entity).sorts.get? (Text.lower name)

end Registry

end RecordQuery
