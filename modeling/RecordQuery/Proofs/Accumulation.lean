import Mathlib.Data.List.Induction
import RecordQuery.Proofs.Reconfiguration

/-!
# Configuration accumulates

What a registry holds for an entity under a name is the outcome of the calls for this entity under
this name, in their order, and of nothing else (`Registry.entry_build`): scopes may be repeated and
interleaved in any way (`Registry.config_ofScopes`).  A field has all settings that it was given,
later ones over earlier ones, and the last hook of a name counts (`Registry.accumulates`).

So the alias under which a field is found is the one that it was given last
(`Registry.current_alias`): an alias that has been replaced leads nowhere.
-/

namespace RecordQuery

namespace RegistryStep

/-- The name under which a step configures. -/
def name : RegistryStep → String
  | .field name _ | .filter name _ | .sort name _ => name

/-- The settings of a field, with the name as the step has it. -/
def fieldCall? : RegistryStep → Option (String × List FieldSetting)
  | .field name settings => some (name, settings)
  | _ => none

/-- The filter that a step registers. -/
def filterHook? (entity : Entity) (number : Nat) : RegistryStep → Option FilterHook
  | .filter name accepts => some ⟨name, entity, number, accepts⟩
  | _ => none

/-- The sort key that a step registers. -/
def sortHook? (entity : Entity) (number : Nat) : RegistryStep → Option SortHook
  | .sort name keyOf => some ⟨name, entity, number, keyOf⟩
  | _ => none

end RegistryStep

namespace FieldConfig

/-- What calls for one field amount to: all their settings in order, on the configuration that
restricts nothing and has the name that the first call gives. -/
def accumulated : List (String × List FieldSetting) → Option FieldConfig
  | [] => none
  | (name, settings) :: calls =>
    some ((settings ++ calls.flatMap Prod.snd).foldl apply { name := name })

/-- One more call changes the configuration that there is, or begins one. -/
theorem accumulated_append_singleton (calls : List (String × List FieldSetting)) (name : String)
    (settings : List FieldSetting) :
    accumulated (calls ++ [(name, settings)]) =
      some (settings.foldl apply ((accumulated calls).getD { name := name })) := by
  rcases calls with - | ⟨first, calls⟩ <;> simp [accumulated]

/-- The alias of a field is the one that the calls give last. -/
theorem aliasName_of_accumulated {calls : List (String × List FieldSetting)} {config : FieldConfig}
    (h : accumulated calls = some config) :
    config.aliasName = givenAlias (calls.flatMap Prod.snd) := by
  rcases calls with - | ⟨⟨name, settings⟩, calls⟩
  · cases h
  · obtain rfl := Option.some.inj h
    rw [aliasName_foldl_apply, Option.or_none, List.flatMap_cons]

end FieldConfig

/-! ### The entry of a name -/

/-- All that is configured for an entity under one name. -/
structure RegistryEntry where
  field : Option FieldConfig := none
  filter : Option FilterHook := none
  sort : Option SortHook := none

namespace RegistryEntry

/-- Performs a step under the name of the entry. -/
def perform (entry : RegistryEntry) (entity : Entity) (number : Nat) : RegistryStep → RegistryEntry
  | .field name settings =>
    { entry with
      field := some (settings.foldl FieldConfig.apply (entry.field.getD { name := name })) }
  | .filter name accepts => { entry with filter := some ⟨name, entity, number, accepts⟩ }
  | .sort name keyOf => { entry with sort := some ⟨name, entity, number, keyOf⟩ }

/-- The entry that numbered steps make. -/
def ofSteps (entity : Entity) (steps : List (Nat × RegistryStep)) : RegistryEntry :=
  steps.foldl (fun entry (number, step) => entry.perform entity number step) {}

variable (entity : Entity) (steps : List (Nat × RegistryStep))

theorem ofSteps_append_singleton (number : Nat) (step : RegistryStep) :
    ofSteps entity (steps ++ [(number, step)]) =
      (ofSteps entity steps).perform entity number step := by
  simp [ofSteps]

/-- The field of an entry has the settings of all calls. -/
theorem field_ofSteps :
    (ofSteps entity steps).field =
      FieldConfig.accumulated (steps.filterMap fun (_, step) => step.fieldCall?) := by
  induction steps using List.reverseRecOn with
  | nil => rfl
  | append_singleton steps last ih =>
    obtain ⟨number, step⟩ := last
    rw [ofSteps_append_singleton, List.filterMap_append]
    cases step with
    | field name settings =>
      simp only [perform, ih, List.filterMap_cons, List.filterMap_nil, RegistryStep.fieldCall?]
      exact (FieldConfig.accumulated_append_singleton _ name settings).symm
    | filter name accepts => simpa [perform, RegistryStep.fieldCall?] using ih
    | sort name keyOf => simpa [perform, RegistryStep.fieldCall?] using ih

/-- The filter of an entry is the one registered last. -/
theorem filter_ofSteps :
    (ofSteps entity steps).filter =
      (steps.filterMap fun (number, step) => step.filterHook? entity number).getLast? := by
  induction steps using List.reverseRecOn with
  | nil => rfl
  | append_singleton steps last ih =>
    obtain ⟨number, step⟩ := last
    rw [ofSteps_append_singleton, List.filterMap_append]
    cases step <;> simp [perform, RegistryStep.filterHook?, ih]

/-- The sort key of an entry is the one registered last. -/
theorem sort_ofSteps :
    (ofSteps entity steps).sort =
      (steps.filterMap fun (number, step) => step.sortHook? entity number).getLast? := by
  induction steps using List.reverseRecOn with
  | nil => rfl
  | append_singleton steps last ih =>
    obtain ⟨number, step⟩ := last
    rw [ofSteps_append_singleton, List.filterMap_append]
    cases step <;> simp [perform, RegistryStep.sortHook?, ih]

end RegistryEntry

namespace EntityConfig

/-- What is configured under a key. -/
def entry (config : EntityConfig) (key : String) : RegistryEntry where
  field := config.fields.get? key
  filter := config.filters.get? key
  sort := config.sorts.get? key

/-- A step changes the entry of its own name only. -/
theorem entry_perform (config : EntityConfig) (entity : Entity) (number : Nat)
    (step : RegistryStep) (key : String) :
    (config.perform entity number step).entry key =
      if Text.lower step.name = key then (config.entry key).perform entity number step
      else config.entry key := by
  by_cases hkey : Text.lower step.name = key
  · rw [if_pos hkey]
    subst hkey
    cases step with
    | field name settings =>
      simp only [entry, perform, fields_setField, RegistryStep.name, RegistryEntry.perform,
        Table.get?_insert, if_true]
      rfl
    | filter name accepts =>
      simp [entry, perform, RegistryStep.name, RegistryEntry.perform, Table.get?_insert]
    | sort name keyOf =>
      simp [entry, perform, RegistryStep.name, RegistryEntry.perform, Table.get?_insert]
  · rw [if_neg hkey]
    cases step with
    | field name settings =>
      have hname : key ≠ Text.lower name := Ne.symm hkey
      simp only [entry, perform, get?_fields_setField_of_ne hname]
      rfl
    | filter name accepts =>
      have hname : Text.lower name ≠ key := hkey
      simp [entry, perform, Table.get?_insert, hname]
    | sort name keyOf =>
      have hname : Text.lower name ≠ key := hkey
      simp [entry, perform, Table.get?_insert, hname]

end EntityConfig

namespace Registry

/-! ### Scopes -/

/-- The calls that scopes make, one after the other. -/
def calls (scopes : List (Entity × List RegistryStep)) : List (Entity × RegistryStep) :=
  scopes.flatMap fun (entity, steps) => steps.map fun step => (entity, step)

/-- A scope changes the configuration of its own entity only. -/
theorem config_scope (registry : Registry) (entity other : Entity) (steps : List RegistryStep) :
    (registry.scope entity steps).config other =
      if entity = other then (registry.config entity).performAll entity registry.steps steps
      else registry.config other := by
  unfold config scope
  rw [Table.get?_insert, Table.get?_erase]
  split <;> rfl

/-- Steps for one entity leave the configuration that a scope with these steps leaves. -/
theorem config_foldl_map (registry : Registry) (entity other : Entity)
    (steps : List RegistryStep) :
    ((steps.map fun step => (entity, step)).foldl
        (fun registry (entity, step) => registry.perform entity step) registry).config other =
      if entity = other then (registry.config entity).performAll entity registry.steps steps
      else registry.config other := by
  induction steps generalizing registry with
  | nil =>
    by_cases h : entity = other
    · subst h
      simp [EntityConfig.performAll]
    · simp [h]
  | cons step steps ih =>
    rw [List.map_cons, List.foldl_cons, ih, config_perform, config_perform, if_pos rfl]
    by_cases h : entity = other
    · rw [if_pos h, if_pos h]
      rfl
    · rw [if_neg h, if_neg h, if_neg h]

theorem steps_foldl_perform (registry : Registry) (calls : List (Entity × RegistryStep)) :
    (calls.foldl (fun registry (entity, step) => registry.perform entity step) registry).steps =
      registry.steps + calls.length := by
  induction calls generalizing registry with
  | nil => rfl
  | cons call calls ih =>
    rw [List.foldl_cons, ih, List.length_cons]
    simp only [perform]
    omega

/-- It makes no difference how calls are put together into scopes. -/
theorem config_ofScopes (scopes : List (Entity × List RegistryStep)) (entity : Entity) :
    (ofScopes scopes).config entity = (build (calls scopes)).config entity ∧
      (ofScopes scopes).steps = (build (calls scopes)).steps := by
  induction scopes using List.reverseRecOn generalizing entity with
  | nil => exact ⟨rfl, rfl⟩
  | append_singleton scopes scope ih =>
    obtain ⟨owner, steps⟩ := scope
    have hscopes : ofScopes (scopes ++ [(owner, steps)]) = (ofScopes scopes).scope owner steps := by
      simp [ofScopes]
    have hcalls : build (calls (scopes ++ [(owner, steps)])) =
        (steps.map fun step => (owner, step)).foldl
          (fun registry (entity, step) => registry.perform entity step) (build (calls scopes)) := by
      simp [calls, build]
    rw [hscopes, hcalls, config_scope, config_foldl_map, steps_foldl_perform, (ih owner).1,
      (ih entity).1, (ih entity).2]
    refine ⟨rfl, ?_⟩
    simp [scope, (ih entity).2]

/-! ### Calls under a name -/

/-- The calls for an entity under a name, up to lower case, each with its number. -/
def callsUnder (entity : Entity) (name : String) (history : List (Entity × RegistryStep)) :
    List (Nat × RegistryStep) :=
  history.zipIdx.filterMap fun ((other, step), number) =>
    if other = entity ∧ Text.lower step.name = Text.lower name then some (number, step) else none

/-- The settings that calls give to a field, each with the name as the call has it. -/
def fieldCalls (entity : Entity) (name : String) (history : List (Entity × RegistryStep)) :
    List (String × List FieldSetting) :=
  (callsUnder entity name history).filterMap fun (_, step) => step.fieldCall?

/-- The filters that calls register under a name. -/
def filterHooks (entity : Entity) (name : String) (history : List (Entity × RegistryStep)) :
    List FilterHook :=
  (callsUnder entity name history).filterMap fun (number, step) => step.filterHook? entity number

/-- The sort keys that calls register under a name. -/
def sortHooks (entity : Entity) (name : String) (history : List (Entity × RegistryStep)) :
    List SortHook :=
  (callsUnder entity name history).filterMap fun (number, step) => step.sortHook? entity number

variable (history : List (Entity × RegistryStep)) (entity : Entity) (name : String)

theorem callsUnder_append_singleton (other : Entity) (step : RegistryStep) :
    callsUnder entity name (history ++ [(other, step)]) =
      callsUnder entity name history ++
        if other = entity ∧ Text.lower step.name = Text.lower name then [(history.length, step)]
        else [] := by
  unfold callsUnder
  rw [List.zipIdx_append, List.filterMap_append]
  congr 1
  by_cases h : other = entity ∧ Text.lower step.name = Text.lower name <;> simp [h]

/-- The entry of a name is made by the calls under it. -/
theorem entry_build :
    ((build history).config entity).entry (Text.lower name) =
      .ofSteps entity (callsUnder entity name history) := by
  induction history using List.reverseRecOn with
  | nil => rfl
  | append_singleton history call ih =>
    obtain ⟨other, step⟩ := call
    have hnumber : (build history).steps = history.length := by
      have hsteps := steps_foldl_perform empty history
      rwa [show empty.steps = 0 from rfl, Nat.zero_add] at hsteps
    rw [build_append_singleton, config_perform, callsUnder_append_singleton]
    by_cases hother : other = entity
    · subst hother
      rw [if_pos rfl, EntityConfig.entry_perform, ih, hnumber]
      by_cases hname : Text.lower step.name = Text.lower name
      · rw [if_pos hname, if_pos ⟨rfl, hname⟩, RegistryEntry.ofSteps_append_singleton]
      · rw [if_neg hname, if_neg fun h => hname h.2, List.append_nil]
    · rw [if_neg hother, if_neg fun h => hother h.1, List.append_nil, ih]

/-- What is configured for a field is what the calls for it amount to. -/
theorem get?_fields_build :
    ((build history).config entity).fields.get? (Text.lower name) =
      FieldConfig.accumulated (fieldCalls entity name history) :=
  (congrArg RegistryEntry.field (entry_build history entity name)).trans
    (RegistryEntry.field_ofSteps entity _)

variable (scopes : List (Entity × List RegistryStep))

/-- Look-ups do not see how calls are put together into scopes. -/
theorem field?_ofScopes :
    (ofScopes scopes).field? entity name = (build (calls scopes)).field? entity name := by
  unfold field?
  rw [(config_ofScopes scopes entity).1]

/-- A field that is configured has all settings of the calls for it. -/
theorem field?_accumulated (h : fieldCalls entity name (calls scopes) ≠ []) :
    (ofScopes scopes).field? entity name =
      FieldConfig.accumulated (fieldCalls entity name (calls scopes)) := by
  obtain ⟨call, rest, hcalls⟩ := List.exists_cons_of_ne_nil h
  rw [field?_ofScopes]
  unfold field?
  dsimp only
  rw [get?_fields_build, hcalls]
  rfl

/-- The filter of a name is the last one that was registered. -/
theorem filter?_accumulated :
    (ofScopes scopes).filter? entity name =
      (filterHooks entity name (calls scopes)).getLast? := by
  unfold filter?
  rw [(config_ofScopes scopes entity).1]
  exact (congrArg RegistryEntry.filter (entry_build _ entity name)).trans
    (RegistryEntry.filter_ofSteps entity _)

/-- The sort key of a name is the last one that was registered. -/
theorem sort?_accumulated :
    (ofScopes scopes).sort? entity name =
      (sortHooks entity name (calls scopes)).getLast? := by
  unfold sort?
  rw [(config_ofScopes scopes entity).1]
  exact (congrArg RegistryEntry.sort (entry_build _ entity name)).trans
    (RegistryEntry.sort_ofSteps entity _)

/-- What is read off steps without regard to their numbers depends on the steps only. -/
theorem map_filterMap_congr {α β : Type} (read : Nat → RegistryStep → Option α) (f : α → β)
    (hread : ∀ number step, (read number step).map f = (read 0 step).map f)
    {steps steps' : List (Nat × RegistryStep)} (h : steps.map Prod.snd = steps'.map Prod.snd) :
    (steps.filterMap fun (number, step) => read number step).map f =
      (steps'.filterMap fun (number, step) => read number step).map f := by
  have hplain : ∀ steps : List (Nat × RegistryStep),
      (steps.filterMap fun (number, step) => read number step).map f =
        (steps.map Prod.snd).filterMap fun step => (read 0 step).map f := by
    intro steps
    rw [List.map_filterMap, List.filterMap_map]
    congr 1
    funext call
    exact hread call.1 call.2
  rw [hplain, hplain, h]

/-- A field that is configured has exactly the settings that the calls for its entity under its name
give, in their order, and it is named as the first of them names it.  The filter and the sort key of
a name are the ones that were registered last.  Calls for other entities or under other names have
no effect on these look-ups. -/
theorem accumulates :
    (fieldCalls entity name (calls scopes) ≠ [] →
      (ofScopes scopes).field? entity name =
        FieldConfig.accumulated (fieldCalls entity name (calls scopes))) ∧
    (ofScopes scopes).filter? entity name =
      (filterHooks entity name (calls scopes)).getLast? ∧
    (ofScopes scopes).sort? entity name =
      (sortHooks entity name (calls scopes)).getLast? ∧
    ∀ others : List (Entity × List RegistryStep),
      (callsUnder entity name (calls others)).map Prod.snd =
        (callsUnder entity name (calls scopes)).map Prod.snd →
      (fieldCalls entity name (calls scopes) ≠ [] →
        (ofScopes others).field? entity name = (ofScopes scopes).field? entity name) ∧
      ((ofScopes others).filter? entity name).map (fun hook => (hook.name, hook.accepts)) =
        ((ofScopes scopes).filter? entity name).map (fun hook => (hook.name, hook.accepts)) ∧
      ((ofScopes others).sort? entity name).map (fun hook => (hook.name, hook.keyOf)) =
        ((ofScopes scopes).sort? entity name).map (fun hook => (hook.name, hook.keyOf)) := by
  refine ⟨field?_accumulated entity name scopes, filter?_accumulated entity name scopes,
    sort?_accumulated entity name scopes, ?_⟩
  intro others hcalls
  refine ⟨?_, ?_, ?_⟩
  · intro hconfigured
    have hsame : fieldCalls entity name (calls others) =
        fieldCalls entity name (calls scopes) := by
      have hmap := map_filterMap_congr (fun _ step => step.fieldCall?) id
        (fun _ _ => rfl) hcalls
      rwa [List.map_id, List.map_id] at hmap
    rw [field?_accumulated entity name scopes hconfigured, ← hsame]
    apply field?_accumulated
    rwa [hsame]
  · rw [filter?_accumulated, filter?_accumulated, ← List.getLast?_map, ← List.getLast?_map]
    congr 1
    refine map_filterMap_congr _ _ ?_ hcalls
    intro number step
    cases step <;> rfl
  · rw [sort?_accumulated, sort?_accumulated, ← List.getLast?_map, ← List.getLast?_map]
    congr 1
    refine map_filterMap_congr _ _ ?_ hcalls
    intro number step
    cases step <;> rfl

/-! ### A history in scopes -/

/-- A supplier. -/
def supplier : Entity := ⟨1, "Supplier"⟩

/-- Scopes of two entities in turn: the name of a customer is configured twice, in two spellings,
and given a new alias the second time, after which its first one is given to the address. -/
def interleaved : List (Entity × List RegistryStep) :=
  [(customer, [.field "Name" [.aliasName "who", .vector], .notFilterable "email"]),
    (supplier, [.field "name" [.aliasName "firm"]]),
    (customer, []),
    (customer, [.notSortable "NAME", .field "name" [.aliasName "called"],
      .field "email" [.aliasName "WHO"]])]

/-- The calls for the name of a customer alone. -/
def alone : List (Entity × List RegistryStep) :=
  [(customer, [.field "Name" [.aliasName "who", .vector], .notSortable "NAME",
    .field "name" [.aliasName "called"]])]

/-- The name of a customer has all of its settings, whatever is configured in between. -/
theorem accumulates_interleaved :
    fieldCalls customer "name" (calls interleaved) ≠ [] ∧
    (callsUnder customer "name" (calls alone)).map Prod.snd =
      (callsUnder customer "name" (calls interleaved)).map Prod.snd ∧
    (ofScopes interleaved).field? customer "name" =
      some { name := "Name", sortable := false, vector := true, aliasName := some "called" } ∧
    (ofScopes alone).field? customer "name" = (ofScopes interleaved).field? customer "name" := by
  have hconfigured : fieldCalls customer "name" (calls interleaved) ≠ [] := by decide
  have hcalls : (callsUnder customer "name" (calls alone)).map Prod.snd =
      (callsUnder customer "name" (calls interleaved)).map Prod.snd := by rfl
  have haccumulates := accumulates customer "name" interleaved
  refine ⟨hconfigured, hcalls, ?_, (haccumulates.2.2.2 alone hcalls).1 hconfigured⟩
  rw [haccumulates.1 hconfigured]
  decide

/-! ### Current aliases -/

/-- The alias that calls give to a field last. -/
def lastAlias (entity : Entity) (name : String) (history : List (Entity × RegistryStep)) :
    Option String :=
  FieldConfig.givenAlias ((fieldCalls entity name history).flatMap Prod.snd)

/-- The calls for a field depend on the lower-case form of its name only. -/
theorem fieldCalls_congr {a b : String} (h : Text.lower a = Text.lower b) :
    fieldCalls entity a history = fieldCalls entity b history := by
  unfold fieldCalls callsUnder
  rw [h]

/-- What is found under another name than its own is the configuration of a field that was given
this name as its last alias. -/
theorem lastAlias_of_field? {written : String} {config : FieldConfig}
    (h : (ofScopes scopes).field? entity written = some config)
    (hother : Text.lower config.name ≠ Text.lower written) :
    config.aliasName = lastAlias entity config.name (calls scopes) ∧
      config.aliasName.map Text.lower = some (Text.lower written) := by
  rw [field?_ofScopes] at h
  obtain ⟨field, hfield, halias⟩ := carries_of_field? (calls scopes) h hother
  have hself := (keyed_build (calls scopes)).field?_name h
  unfold field? at hself
  dsimp only at hself
  rw [hfield, Option.some_or] at hself
  obtain rfl := Option.some.inj hself
  rw [get?_fields_build] at hfield
  exact ⟨FieldConfig.aliasName_of_accumulated hfield, halias⟩

/-- What is found under another name than its own has this name as its alias, so that a name leads
to no field of another name that it is not the last alias of. -/
theorem current_alias (written : String) :
    (∀ config, (ofScopes scopes).field? entity written = some config →
      Text.lower config.name ≠ Text.lower written →
      config.aliasName.map Text.lower = some (Text.lower written)) ∧
    ∀ name config, Text.lower name ≠ Text.lower written →
      (lastAlias entity name (calls scopes)).map Text.lower ≠ some (Text.lower written) →
      (ofScopes scopes).field? entity written = some config →
      Text.lower config.name ≠ Text.lower name := by
  constructor
  · intro config h hother
    exact (lastAlias_of_field? entity scopes h hother).2
  · intro name config hother hlast h hname
    obtain ⟨hcurrent, halias⟩ :=
      lastAlias_of_field? entity scopes h fun hsame => hother (hname.symm.trans hsame)
    have hcalls : lastAlias entity config.name (calls scopes) =
        lastAlias entity name (calls scopes) := by
      unfold lastAlias
      rw [fieldCalls_congr _ entity hname]
    rw [hcurrent, hcalls] at halias
    exact hlast halias

/-- The name of a customer is found under its last alias, and under the one before the other field
that has it now. -/
theorem current_alias_called :
    (ofScopes interleaved).field? customer "CALLED" =
      some { name := "Name", sortable := false, vector := true, aliasName := some "called" } ∧
    Text.lower "Name" ≠ Text.lower "CALLED" ∧
    (some "called").map Text.lower = some (Text.lower "CALLED") ∧
    Text.lower "name" ≠ Text.lower "who" ∧
    (lastAlias customer "name" (calls interleaved)).map Text.lower ≠ some (Text.lower "who") ∧
    (ofScopes interleaved).field? customer "who" =
      some { name := "email", filterable := false, aliasName := some "WHO" } ∧
    Text.lower "email" ≠ Text.lower "name" := by
  have hcalled : (ofScopes interleaved).field? customer "CALLED" =
      some { name := "Name", sortable := false, vector := true, aliasName := some "called" } := by
    decide
  have hother : Text.lower "Name" ≠ Text.lower "CALLED" := by decide
  have hname : Text.lower "name" ≠ Text.lower "who" := by decide
  have hlast : (lastAlias customer "name" (calls interleaved)).map Text.lower ≠
      some (Text.lower "who") := by decide
  have hwho : (ofScopes interleaved).field? customer "who" =
      some { name := "email", filterable := false, aliasName := some "WHO" } := by decide
  have hcurrent := (current_alias customer interleaved "CALLED").1 _ hcalled hother
  have hemail := (current_alias customer interleaved "who").2 "name" _ hname hlast hwho
  exact ⟨hcalled, hother, hcurrent, hname, hlast, hwho, hemail⟩

end Registry

end RecordQuery
