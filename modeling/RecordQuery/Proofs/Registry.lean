import RecordQuery.Registry

/-!
# Registries that are built

In a registry that is built step by step each configuration stands under the lower-case form of the
name that it carries (`keyed_build`).  So a look-up depends on the lower-case form of a name only,
and a configuration that is found at all, by name or by alias, is found again under its own name
(`field?_name`).

Aliases never dangle: each leads to a field that is configured and that carries it (`owned_build`).
So a field that is configured for the first time answers to its own name and to no other
(`field?_permit`).
-/

namespace RecordQuery

namespace FieldConfig

/-- Settings leave the name as it is. -/
theorem name_foldl_apply (settings : List FieldSetting) (config : FieldConfig) :
    (settings.foldl apply config).name = config.name := by
  induction settings generalizing config with
  | nil => rfl
  | cons setting settings ih =>
    rw [List.foldl_cons, ih]
    cases setting <;> rfl

end FieldConfig

namespace EntityConfig

/-- Each field is configured under the lower-case form of its name. -/
def Keyed (config : EntityConfig) : Prop :=
  ∀ key field, config.fields.get? key = some field → Text.lower field.name = key

/-- No field is configured at first. -/
theorem keyed_default : Keyed {} := by
  intro key field h
  cases h

/-- Setting a field replaces the configuration under its lower-case name, and no other. -/
theorem fields_setField (config : EntityConfig) (name : String) (settings : List FieldSetting) :
    (config.setField name settings).fields =
      config.fields.insert (Text.lower name)
        (settings.foldl FieldConfig.apply
          ((config.fields.get? (Text.lower name)).getD { name := name })) :=
  rfl

/-- Setting a field keeps fields under their names: a field that is configured again keeps its
name. -/
theorem Keyed.setField {config : EntityConfig} (keyed : config.Keyed) (name : String)
    (settings : List FieldSetting) : (config.setField name settings).Keyed := by
  intro key field h
  rw [fields_setField, Table.get?_insert] at h
  split at h
  · next hkey =>
    cases h
    rw [FieldConfig.name_foldl_apply, ← hkey]
    cases hbefore : config.fields.get? (Text.lower name) with
    | none => rfl
    | some before => exact keyed _ before hbefore
  · exact keyed key field h

/-- A step keeps fields under their names. -/
theorem Keyed.perform {config : EntityConfig} (keyed : config.Keyed) (entity : Entity)
    (registration : Nat) (step : RegistryStep) :
    (config.perform entity registration step).Keyed := by
  cases step with
  | field name settings => exact keyed.setField name settings
  | filter name accepts => exact keyed
  | sort name keyOf => exact keyed

/-- Where aliases lead after a field is set: the one that the field has then leads to it, another
one that it had before leads nowhere, and all others lead where they did. -/
theorem get?_aliases_setField (config : EntityConfig) (name key : String)
    (settings : List FieldSetting) :
    (config.setField name settings).aliases.get? key =
      if (settings.foldl FieldConfig.apply
          ((config.fields.get? (Text.lower name)).getD { name := name })).aliasName.map
            Text.lower = some key then
        some (Text.lower name)
      else if ((config.fields.get? (Text.lower name)).getD { name := name }).aliasName.map
          Text.lower = some key then
        none
      else config.aliases.get? key := by
  unfold setField
  dsimp only
  generalize (config.fields.get? (Text.lower name)).getD { name := name } = before
  generalize settings.foldl FieldConfig.apply before = after
  cases hafter : after.aliasName with
  | none =>
    cases hbefore : before.aliasName with
    | none => simp
    | some old => simp [Table.get?_erase]
  | some new =>
    cases hbefore : before.aliasName with
    | none => simp [Table.get?_insert]
    | some old => simp [Table.get?_insert, Table.get?_erase]

/-- Each alias leads to a field that carries it. -/
def Owned (config : EntityConfig) : Prop :=
  ∀ key target, config.aliases.get? key = some target →
    ∃ field, config.fields.get? target = some field ∧ field.aliasName.map Text.lower = some key

/-- There are no aliases at first. -/
theorem owned_default : Owned {} := by
  intro key target h
  cases h

/-- Setting a field keeps aliases with fields that carry them: the one that the field gives up is
taken out. -/
theorem Owned.setField {config : EntityConfig} (owned : config.Owned) (name : String)
    (settings : List FieldSetting) : (config.setField name settings).Owned := by
  intro key target h
  rw [fields_setField, Table.get?_insert]
  rw [get?_aliases_setField] at h
  split at h
  · next hnew =>
    rw [if_pos (Option.some.inj h)]
    exact ⟨_, rfl, hnew⟩
  · split at h
    · cases h
    · next hold =>
      obtain ⟨field, hfield, halias⟩ := owned key target h
      have htarget : Text.lower name ≠ target := by
        rintro rfl
        rw [hfield] at hold
        exact hold halias
      rw [if_neg htarget]
      exact ⟨field, hfield, halias⟩

/-- A step keeps aliases with fields that carry them. -/
theorem Owned.perform {config : EntityConfig} (owned : config.Owned) (entity : Entity)
    (registration : Nat) (step : RegistryStep) :
    (config.perform entity registration step).Owned := by
  cases step with
  | field name settings => exact owned.setField name settings
  | filter name accepts => exact owned
  | sort name keyOf => exact owned

/-- Each alias leads to a field that is configured. -/
def Linked (config : EntityConfig) : Prop :=
  ∀ key target, config.aliases.get? key = some target → (config.fields.get? target).isSome = true

/-- Aliases that lead to fields that carry them do not dangle. -/
theorem Owned.linked {config : EntityConfig} (owned : config.Owned) : config.Linked := by
  intro key target h
  obtain ⟨field, hfield, -⟩ := owned key target h
  exact Option.isSome_of_mem hfield

end EntityConfig

namespace Registry

/-- A step changes the configuration of its own entity only. -/
theorem config_perform (registry : Registry) (entity other : Entity) (step : RegistryStep) :
    (registry.perform entity step).config other =
      if entity = other then (registry.config entity).perform entity registry.steps step
      else registry.config other := by
  unfold config Registry.perform
  rw [Table.get?_insert]
  split <;> rfl

/-- What every step keeps for an entity, any run of steps keeps for all of them. -/
theorem config_foldl_perform {P : EntityConfig → Prop}
    (hstep : ∀ config entity registration step, P config →
      P (EntityConfig.perform config entity registration step))
    {registry : Registry} (h : ∀ entity, P (registry.config entity))
    (steps : List (Entity × RegistryStep)) (entity : Entity) :
    P ((steps.foldl (fun registry step => registry.perform step.1 step.2) registry).config
      entity) := by
  induction steps generalizing registry with
  | nil => exact h entity
  | cons step steps ih =>
    rw [List.foldl_cons]
    refine ih ?_
    intro other
    rw [config_perform]
    split
    · exact hstep _ _ _ _ (h step.1)
    · exact h other

/-- Each field of each entity is configured under the lower-case form of its name. -/
def Keyed (registry : Registry) : Prop := ∀ entity, (registry.config entity).Keyed

/-- Every registry that is built keeps fields under their names. -/
theorem keyed_build (steps : List (Entity × RegistryStep)) : (build steps).Keyed :=
  config_foldl_perform (fun _ entity registration step keyed =>
    keyed.perform entity registration step) (fun _ => EntityConfig.keyed_default) steps

/-- In every registry that is built aliases lead to fields that carry them. -/
theorem owned_build (steps : List (Entity × RegistryStep)) (entity : Entity) :
    ((build steps).config entity).Owned :=
  config_foldl_perform (fun _ entity registration step owned =>
    owned.perform entity registration step) (fun _ => EntityConfig.owned_default) steps entity

/-- In every registry that is built aliases lead to configured fields. -/
theorem linked_build (steps : List (Entity × RegistryStep)) (entity : Entity) :
    ((build steps).config entity).Linked :=
  (owned_build steps entity).linked

variable {registry : Registry} {entity : Entity}

/-- A look-up depends on the lower-case form of the name only. -/
theorem field?_congr {a b : String} (h : Text.lower a = Text.lower b) :
    registry.field? entity a = registry.field? entity b := by
  unfold field?
  rw [h]

/-- The filter of a name depends on the lower-case form of the name only. -/
theorem filter?_congr {a b : String} (h : Text.lower a = Text.lower b) :
    registry.filter? entity a = registry.filter? entity b := by
  unfold filter?
  rw [h]

/-- The sort key of a name depends on the lower-case form of the name only. -/
theorem sort?_congr {a b : String} (h : Text.lower a = Text.lower b) :
    registry.sort? entity a = registry.sort? entity b := by
  unfold sort?
  rw [h]

/-- A configuration that is found by name or by alias is found under its own name. -/
theorem Keyed.field?_name (keyed : registry.Keyed) {name : String} {config : FieldConfig}
    (h : registry.field? entity name = some config) :
    registry.field? entity config.name = some config := by
  have hkey : ∃ key, (registry.config entity).fields.get? key = some config := by
    unfold field? at h
    rcases Option.or_eq_some_iff.1 h with hname | ⟨-, halias⟩
    · exact ⟨_, hname⟩
    · obtain ⟨key, -, hfield⟩ := Option.bind_eq_some_iff.1 halias
      exact ⟨key, hfield⟩
  obtain ⟨key, hfield⟩ := hkey
  have hlower : Text.lower config.name = key := keyed entity key config hfield
  unfold field?
  dsimp only
  rw [hlower, hfield]
  rfl

/-! ### New fields -/

/-- The registry with a field configured in addition, all of whose settings are left as they are at
first. -/
def permit (registry : Registry) (entity : Entity) (name : String) : Registry :=
  registry.perform entity (.field name [])

/-- A field that is configured for the first time is found by its name, up to lower case, and no
other look-up changes. -/
theorem field?_permit {name : String} (linked : (registry.config entity).Linked)
    (hfree : registry.field? entity name = none) (other : Entity) (written : String) :
    (registry.permit entity name).field? other written =
      if entity = other ∧ Text.lower name = Text.lower written then some { name := name }
      else registry.field? other written := by
  have hnone : (registry.config entity).fields.get? (Text.lower name) = none :=
    (Option.or_eq_none_iff.1 hfree).1
  have hfields : ((registry.config entity).perform entity registry.steps (.field name [])).fields =
      (registry.config entity).fields.insert (Text.lower name) { name := name } := by
    rw [EntityConfig.perform, EntityConfig.fields_setField, hnone]
    rfl
  have haliases : ((registry.config entity).perform entity registry.steps
      (.field name [])).aliases = (registry.config entity).aliases := by
    unfold EntityConfig.perform EntityConfig.setField
    dsimp only
    rw [hnone]
    rfl
  unfold field? permit
  dsimp only
  rw [config_perform]
  by_cases hother : entity = other
  · subst hother
    rw [if_pos rfl, hfields, haliases, Table.get?_insert]
    by_cases hname : Text.lower name = Text.lower written
    · rw [if_pos hname, if_pos ⟨rfl, hname⟩]
      rfl
    · rw [if_neg hname, if_neg (fun h => hname h.2)]
      congr 1
      cases halias : (registry.config entity).aliases.get? (Text.lower written) with
      | none => rfl
      | some target =>
        -- The alias leads to a field that was configured before, and so not to the new one.
        have htarget : Text.lower name ≠ target := by
          rintro rfl
          have hsome := linked _ _ halias
          rw [hnone] at hsome
          cases hsome
        rw [Option.bind_some, Option.bind_some, Table.get?_insert, if_neg htarget]
  · rw [if_neg hother, if_neg (fun h => hother h.1)]

/-- Configuring a field leaves filters of their own as they are. -/
theorem filter?_permit (registry : Registry) (entity : Entity) (name : String) (other : Entity)
    (written : String) :
    (registry.permit entity name).filter? other written = registry.filter? other written := by
  unfold filter? permit
  rw [config_perform]
  split
  · next h =>
    subst h
    rfl
  · rfl

/-- Configuring a field leaves sort keys of their own as they are. -/
theorem sort?_permit (registry : Registry) (entity : Entity) (name : String) (other : Entity)
    (written : String) :
    (registry.permit entity name).sort? other written = registry.sort? other written := by
  unfold sort? permit
  rw [config_perform]
  split
  · next h =>
    subst h
    rfl
  · rfl

end Registry

end RecordQuery
