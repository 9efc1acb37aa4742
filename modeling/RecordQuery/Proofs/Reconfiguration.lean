import RecordQuery.Proofs.Registry

/-!
# Configuring a field again

Aliases stand in a table of their own, which is kept in step whenever a field is configured: the
alias that the field had is taken out, and the one that it has now is put in
(`EntityConfig.get?_aliases_setField`).  An alias that is found leads to a field that carries it
(`Registry.carries_of_field?`), but it may be carried by further fields.  What is taken out or put
in for one of these is then lost for the others, and this is the only way in which configuring a
field has an effect on the look-up of another one (`Registry.field?_reconfigured`).
-/

namespace RecordQuery

namespace FieldConfig

/-- The alias that settings give to a field: the last one, if there is any. -/
def givenAlias : List FieldSetting → Option String
  | [] => none
  | .aliasName name :: rest => (givenAlias rest).or (some name)
  | _ :: rest => givenAlias rest

/-- A field keeps its alias unless it is given another one. -/
theorem aliasName_foldl_apply (settings : List FieldSetting) (config : FieldConfig) :
    (settings.foldl apply config).aliasName = (givenAlias settings).or config.aliasName := by
  induction settings generalizing config with
  | nil => rfl
  | cons setting settings ih =>
    rw [List.foldl_cons, ih]
    cases setting with
    | aliasName name =>
      change _ = ((givenAlias settings).or (some name)).or config.aliasName
      rw [Option.or_assoc]
      rfl
    | sortable allowed | filterable allowed | vector | vectorLanguage language => rfl

end FieldConfig

namespace EntityConfig

/-- The field of a name is known under an alias, which is given in lower case. -/
def Carries (config : EntityConfig) (name key : String) : Prop :=
  ∃ field, config.fields.get? (Text.lower name) = some field ∧
    field.aliasName.map Text.lower = some key

variable {config : EntityConfig} {name key : String} {settings : List FieldSetting}

/-- Configuring a field leaves what is configured under other names. -/
theorem get?_fields_setField_of_ne (h : key ≠ Text.lower name) :
    (config.setField name settings).fields.get? key = config.fields.get? key := by
  rw [fields_setField, Table.get?_insert, if_neg h.symm]

/-- What a field that may not be configured yet is known under. -/
theorem carries_iff :
    config.Carries name key ↔
      ((config.fields.get? (Text.lower name)).getD { name := name }).aliasName.map Text.lower =
        some key := by
  unfold Carries
  cases config.fields.get? (Text.lower name) with
  | none => simp
  | some field => simp

/-- Of the aliases that the field is not given, one that it carries leads to it or nowhere, and all
others lead where they did. -/
theorem get?_aliases_setField_of_ne (config : EntityConfig) (name : String)
    (hgiven : (FieldConfig.givenAlias settings).map Text.lower ≠ some key) :
    (¬ config.Carries name key →
      (config.setField name settings).aliases.get? key = config.aliases.get? key) ∧
    (config.Carries name key →
      (config.setField name settings).aliases.get? key = none ∨
        (config.setField name settings).aliases.get? key = some (Text.lower name)) := by
  rw [get?_aliases_setField, FieldConfig.aliasName_foldl_apply, carries_iff]
  constructor
  · intro hbefore
    cases hnew : FieldConfig.givenAlias settings with
    | none => rw [Option.none_or, if_neg hbefore, if_neg hbefore]
    | some new =>
      rw [hnew] at hgiven
      rw [Option.some_or, if_neg hgiven, if_neg hbefore]
  · intro hbefore
    rw [if_pos hbefore]
    split
    · exact .inr rfl
    · exact .inl rfl

end EntityConfig

namespace Registry

/-- The field of a name is known under an alias. -/
def Carries (registry : Registry) (entity : Entity) (name written : String) : Prop :=
  (registry.config entity).Carries name (Text.lower written)

/-- What is found under another name than its own is found under an alias that it carries. -/
theorem carries_of_field? (steps : List (Entity × RegistryStep)) {entity : Entity}
    {written : String} {config : FieldConfig}
    (h : (build steps).field? entity written = some config)
    (hother : Text.lower config.name ≠ Text.lower written) :
    (build steps).Carries entity config.name written := by
  rcases Option.or_eq_some_iff.1 h with hname | ⟨-, halias⟩
  · exact absurd (keyed_build steps entity _ config hname) hother
  · obtain ⟨target, htarget, hfield⟩ := Option.bind_eq_some_iff.1 halias
    obtain ⟨owner, howner, hcarries⟩ := owned_build steps entity _ target htarget
    have hkey : Text.lower config.name = target := keyed_build steps entity target config hfield
    rw [← hkey] at howner
    exact ⟨owner, howner, hcarries⟩

/-- Steps that end with one more. -/
theorem build_append_singleton (steps : List (Entity × RegistryStep)) (entity : Entity)
    (step : RegistryStep) :
    build (steps ++ [(entity, step)]) = (build steps).perform entity step := by
  unfold build
  rw [List.foldl_append]
  rfl

/-- After a field is configured, another name is looked up among the fields as they were, and then
among the aliases as they are kept in step. -/
theorem field?_perform_field (registry : Registry) (entity : Entity) {name written : String}
    (settings : List FieldSetting) (hname : Text.lower written ≠ Text.lower name) :
    (registry.perform entity (.field name settings)).field? entity written =
      ((registry.config entity).fields.get? (Text.lower written)).or
        ((((registry.config entity).setField name settings).aliases.get?
          (Text.lower written)).bind
            ((registry.config entity).setField name settings).fields.get?) := by
  rw [← EntityConfig.get?_fields_setField_of_ne hname]
  unfold field?
  rw [config_perform, if_pos rfl]
  rfl

/-- Configuring a field of one entity leaves the look-ups of all other entities as they are.  For
the entity itself, what is found of another field is found again under a name that is neither that
of the configured field nor given to it as an alias, except where it is an alias of both fields. -/
theorem field?_reconfigured (steps : List (Entity × RegistryStep)) (entity : Entity) (name : String)
    (settings : List FieldSetting) :
    (∀ other written, other ≠ entity →
      (build (steps ++ [(entity, .field name settings)])).field? other written =
        (build steps).field? other written) ∧
    ∀ written config, Text.lower written ≠ Text.lower name →
      (FieldConfig.givenAlias settings).map Text.lower ≠ some (Text.lower written) →
      (build steps).field? entity written = some config →
      Text.lower config.name ≠ Text.lower name →
        ((build (steps ++ [(entity, .field name settings)])).field? entity written = some config ↔
          ¬ (Text.lower config.name ≠ Text.lower written ∧
            (build steps).Carries entity name written)) := by
  have hkeyed := keyed_build steps entity
  rw [build_append_singleton]
  constructor
  · intro other written hother
    unfold field?
    rw [config_perform, if_neg hother.symm]
  · intro written config hname hgiven hbefore hconfig
    obtain ⟨hkept, hlost⟩ := EntityConfig.get?_aliases_setField_of_ne
      ((build steps).config entity) name hgiven
    rw [field?_perform_field _ _ _ hname]
    rcases Option.or_eq_some_iff.1 hbefore with hfound | ⟨hnone, halias⟩
    · -- Names come before aliases, and the configuration under this one is not touched.
      have hkey : Text.lower config.name = Text.lower written := hkeyed _ config hfound
      rw [hfound]
      exact ⟨fun _ h => h.1 hkey, fun _ => rfl⟩
    · obtain ⟨target, htarget, hfield⟩ := Option.bind_eq_some_iff.1 halias
      have hkey : Text.lower config.name = target := hkeyed target config hfield
      have hother : Text.lower config.name ≠ Text.lower written := by
        intro h
        rw [← h, hkey, hfield] at hnone
        cases hnone
      rw [hnone, Option.none_or]
      by_cases hcarries : (build steps).Carries entity name written
      · refine iff_of_false ?_ (fun h => h ⟨hother, hcarries⟩)
        intro hfound
        obtain ⟨found, hfound, hfield⟩ := Option.bind_eq_some_iff.1 hfound
        rcases hlost hcarries with hnone | hself
        · rw [hnone] at hfound
          cases hfound
        · rw [hself] at hfound
          cases hfound
          exact hconfig (hkeyed.setField name settings _ config hfield)
      · refine iff_of_true ?_ (fun h => hcarries h.2)
        have hsame : target ≠ Text.lower name := by rwa [← hkey]
        rw [hkept hcarries, htarget, Option.bind_some,
          EntityConfig.get?_fields_setField_of_ne hsame, hfield]

/-! ### Shared aliases -/

/-- A customer. -/
def customer : Entity := ⟨0, "Customer"⟩

/-- Two fields of a customer, each with an alias of its own. -/
def contacts : List (Entity × RegistryStep) :=
  [(customer, .field "name" [.aliasName "who"]), (customer, .field "email" [.aliasName "mail"])]

/-- Two fields of a customer with one alias. -/
def namesakes : List (Entity × RegistryStep) :=
  [(customer, .field "name" [.aliasName "who"]), (customer, .field "email" [.aliasName "who"])]

/-- The other alias leads where it did when the name is given a new one. -/
theorem field?_reconfigured_contacts :
    Text.lower "MAIL" ≠ Text.lower "name" ∧
    (FieldConfig.givenAlias [.sortable false, .aliasName "called"]).map Text.lower ≠
      some (Text.lower "MAIL") ∧
    (build contacts).field? customer "MAIL" =
      some { name := "email", aliasName := some "mail" } ∧
    Text.lower "email" ≠ Text.lower "name" ∧
    (build (contacts ++
        [(customer, .field "name" [.sortable false, .aliasName "called"])])).field? customer
      "MAIL" = some { name := "email", aliasName := some "mail" } := by
  have hname : Text.lower "MAIL" ≠ Text.lower "name" := by decide
  have hgiven : (FieldConfig.givenAlias [.sortable false, .aliasName "called"]).map Text.lower ≠
      some (Text.lower "MAIL") := by decide
  have hbefore : (build contacts).field? customer "MAIL" =
      some { name := "email", aliasName := some "mail" } := by decide
  have hconfig : Text.lower "email" ≠ Text.lower "name" := by decide
  refine ⟨hname, hgiven, hbefore, hconfig, ?_⟩
  have hreconfigured := (field?_reconfigured contacts customer "name"
    [.sortable false, .aliasName "called"]).2 "MAIL" _ hname hgiven hbefore hconfig
  refine hreconfigured.2 ?_
  rintro ⟨-, field, hfield, halias⟩
  have hwho : ((build contacts).config customer).fields.get? (Text.lower "name") =
      some { name := "name", aliasName := some "who" } := by decide
  rw [hwho] at hfield
  cases hfield
  exact absurd halias (by decide)

/-- A look-up by the alias of two fields finds the one that was configured last.  When the other one
is given a new alias, or only excluded from sorting, it is not found any more. -/
theorem field?_namesakes :
    Text.lower "who" ∉ [Text.lower "name", Text.lower "called"] ∧
    Text.lower "email" ≠ Text.lower "name" ∧
    (build namesakes).field? customer "who" =
      some { name := "email", aliasName := some "who" } ∧
    (build (namesakes ++ [(customer, .field "name" [.aliasName "called"])])).field? customer "who" =
      none ∧
    (build (namesakes ++ [(customer, .notSortable "name")])).field? customer "who" =
      some { name := "name", sortable := false, aliasName := some "who" } := by
  decide

end Registry

end RecordQuery
