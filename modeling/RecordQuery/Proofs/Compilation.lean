import RecordQuery.Compilation.Sort
import RecordQuery.Proofs.Resolution

/-!
# What compilation can emit

Inversion lemmas, one for each step of the compilation: from the fact that it succeeded they give
the checks that were passed and the form of what came out.  `compileLeaf_eq_some` lists the four
ways in which a leaf comes to a predicate, and `compileKey_eq_ok` the three kinds of sort keys.
-/

namespace RecordQuery

/-! ### Open paths -/

namespace Registry

/-- No configuration closes the path to filtering on the entity. -/
def filterable (registry : Registry) (entity : Entity) (path : String) : Bool :=
  ((registry.field? entity path).map FieldConfig.filterable).getD true

/-- No configuration closes the path to sorting on the entity. -/
def sortable (registry : Registry) (entity : Entity) (path : String) : Bool :=
  ((registry.field? entity path).map FieldConfig.sortable).getD true

end Registry

/-- Predicates that are joined are a single one, or their conjunction or disjunction. -/
theorem Predicate.eq_of_join {junction : Junction} {parts : List Predicate} {p : Predicate}
    (h : join junction parts = some p) : parts = [p] ∨ p = .and parts ∨ p = .or parts := by
  cases junction with
  | and =>
    have hall : allOf parts = some p := h
    unfold allOf at hall
    split at hall
    · cases hall
    · cases hall
      exact Or.inl rfl
    · cases hall
      exact Or.inr (Or.inl rfl)
  | or =>
    have hany : anyOf parts = some p := h
    unfold anyOf at hany
    split at hany
    · cases hany
    · cases hany
      exact Or.inl rfl
    · cases hany
      exact Or.inr (Or.inr rfl)

/-- A conjunction holds when all of its parts do. -/
theorem Predicate.holds_of_allOf {parts : List Predicate} {p : Predicate}
    (h : allOf parts = some p) (search : TextSearch) (r : Record) :
    p.holds search r = parts.all fun q => q.holds search r := by
  unfold allOf at h
  split at h
  · cases h
  · cases h
    simp
  · cases h
    rw [holds, allHold_eq]

/-- A disjunction holds when one of its parts does. -/
theorem Predicate.holds_of_anyOf {parts : List Predicate} {p : Predicate}
    (h : anyOf parts = some p) (search : TextSearch) (r : Record) :
    p.holds search r = parts.any fun q => q.holds search r := by
  unfold anyOf at h
  split at h
  · cases h
  · cases h
    simp
  · cases h
    rw [holds, someHolds_eq]

/-- Only no predicates at all are joined to none. -/
theorem Predicate.join_eq_none (junction : Junction) {parts : List Predicate} :
    join junction parts = none ↔ parts = [] := by
  cases junction <;> match parts with
  | [] => exact iff_of_true rfl rfl
  | [p] => exact iff_of_false (Option.some_ne_none _) (List.cons_ne_nil _ _)
  | p :: q :: rest => exact iff_of_false (Option.some_ne_none _) (List.cons_ne_nil _ _)

namespace Context

variable {ctx : Context} {schema : Schema}

/-- A path passes the policy exactly when it is open to filtering. -/
theorem policy_eq_ok {entity : Entity} {path : String} {config : Option FieldConfig} :
    ctx.policy entity path = .ok config ↔
      ctx.registry.field? entity path = config ∧ ctx.registry.filterable entity path = true := by
  unfold policy Registry.filterable
  cases ctx.registry.field? entity path with
  | none => simp
  | some found => cases hopen : found.filterable <;> simp [hopen]

/-! ### Quantifiers -/

/-- A quantifier is built when its elements are open to filtering along the rest of the path and the
rest of the path gives a predicate. -/
theorem quantify_each_eq_some {build : Access → Field → Except QueryError (Option Predicate)}
    {before : Access} {field : Field} {element : Entity} {rest : FieldPath} {p : Predicate}
    (h : ctx.quantify build before (.each field element rest) = .ok (some p)) :
    ∃ config inner, ctx.policy element rest.text = .ok config ∧
      ctx.quantify build [] rest = .ok (some inner) ∧ p = .any (before ++ [field.name]) inner := by
  rw [quantify] at h
  obtain ⟨config, hpolicy, h⟩ := Outcome.bind_eq_ok.1 h
  obtain ⟨inner, hinner, h⟩ := Outcome.bind_eq_ok.1 h
  cases inner with
  | none => cases h
  | some inner =>
    cases h
    exact ⟨config, inner, hpolicy, hinner, rfl⟩

/-- What holds of every comparison that is built at the end of a path, and is kept by quantifiers
over collections of records, holds of every predicate of a path. -/
theorem quantify_induction {build : Access → Field → Except QueryError (Option Predicate)}
    {P : Schema → Predicate → Prop}
    (comparison : ∀ schema access field p, ctx.catalog.fieldAt? schema access = some field →
      build access field = .ok (some p) → P schema p)
    (quantifier : ∀ schema collection field entity inner,
      ctx.catalog.fieldAt? schema collection = some field → field.kind = .list (.record entity) →
        P (ctx.catalog.schema entity) inner → P schema (.any collection inner))
    {here : Schema} {path : FieldPath} (typed : path.Typed ctx.catalog here) {root : Schema}
    {before : Access} {p : Predicate} (hbefore : ctx.catalog.schemaAt? root before = some here)
    (h : ctx.quantify build before path = .ok (some p)) : P root p := by
  induction typed generalizing root before p with
  | leaf found =>
    exact comparison root _ _ p (Catalog.fieldAt?_snoc hbefore found) h
  | nested found kind _ ih =>
    exact ih (Catalog.schemaAt?_snoc hbefore found kind) h
  | each found kind _ ih =>
    obtain ⟨_, inner, -, hinner, rfl⟩ := quantify_each_eq_some h
    exact quantifier root _ _ _ inner (Catalog.fieldAt?_snoc hbefore found) kind (ih rfl hinner)

/-! ### Comparisons -/

section Comparisons

variable {operator : Operator} {access : Access} {field : Field} {p : Predicate}

/-- A search asks for one of its terms in a field that holds text. -/
theorem searchAt_eq_some {path language : String} {terms : List String}
    (h : searchAt path language terms access field = .ok (some p)) :
    isTextual field.kind = true ∧
      Predicate.join .or (terms.map (.search access language)) = some p := by
  unfold searchAt at h
  split at h
  · cases h
  · split at h
    · next htextual => exact ⟨htextual, Except.ok.inj h⟩
    · cases h

/-- The text of a node is compared with every operand that has a text, unless a length is asked
for. -/
theorem compareNode_eq_ok {path : String} {operator : Operator} {values : List Json}
    {p : Option Predicate} :
    compareNode schema path operator values = .ok p ↔
      operator.length = false ∧ ∃ target, JsonPath.resolve schema path = .ok target ∧
        Predicate.join operator.junction
          ((values.filterMap Json.text?).map fun s =>
            .compare (.json target) operator.base (.string s) operator.ignoreCase) = p := by
  unfold compareNode
  cases operator.length with
  | true => exact iff_of_false nofun fun h => Bool.noConfusion h.1
  | false =>
    rw [eq_self, true_and]
    refine Outcome.bind_eq_ok.trans (exists_congr fun target => and_congr_right fun _ => ?_)
    exact ⟨Except.ok.inj, congrArg Except.ok⟩

/-- A length is compared for strings and collections. -/
theorem compareLength_eq_some {values : List Json}
    (h : compareLength operator values access field = .ok (some p)) :
    (field.kind = .string ∨ ∃ element, field.kind = .list element) ∧
      ∃ n, p = .length access operator.base n := by
  unfold compareLength at h
  split at h
  · next hkind =>
    obtain ⟨n, -, hn⟩ := Outcome.map_eq_ok.1 h
    cases hn
    exact ⟨Or.inl hkind, n, rfl⟩
  · next element _ _ hkind =>
    obtain ⟨n, -, hn⟩ := Outcome.map_eq_ok.1 h
    cases hn
    exact ⟨Or.inr ⟨element, hkind⟩, n, rfl⟩
  · cases h

/-- A collection is asked whether it contains an operand other than null, or whether it does not. -/
theorem containsOperand_eq_some {element : Kind} {raw : Json}
    (h : containsOperand operator access element raw = .ok (some p)) :
    ∃ operand, coerce raw element = .ok operand ∧ operand ≠ .null ∧
      (p = .contains access operand operator.ignoreCase ∨
        p = .not (.contains access operand operator.ignoreCase)) := by
  unfold containsOperand at h
  obtain ⟨operand, hoperand, h⟩ := Outcome.bind_eq_ok.1 h
  refine ⟨operand, hoperand, ?_⟩
  split at h
  · cases h
  · next hnull =>
    refine ⟨hnull, ?_⟩
    cases h
    split
    · exact Or.inr rfl
    · exact Or.inl rfl

/-- A field is asked whether it is null when it may be, and is compared with a coerced operand when
it holds a single value. -/
theorem compareOperand_eq_some {raw : Json}
    (h : compareOperand operator access field raw = .ok (some p)) :
    (field.nullable = true ∧ (p = .isNull access ∨ p = .not (.isNull access))) ∨
      (field.kind.isScalar = true ∧ raw ≠ .null ∧ ∃ operand, coerce raw field.kind = .ok operand ∧
        p = .compare (.field access) operator.base operand operator.ignoreCase) := by
  unfold compareOperand at h
  split at h
  · split at h
    · next hnull =>
      cases h
      exact Or.inl ⟨(Bool.and_eq_true_iff.1 hnull).1, Or.inl rfl⟩
    · split at h
      · next hnull =>
        cases h
        exact Or.inl ⟨(Bool.and_eq_true_iff.1 hnull).1, Or.inr rfl⟩
      · cases h
  · next hraw =>
    split at h
    · next hscalar =>
      obtain ⟨operand, hoperand, hp⟩ := Outcome.map_eq_ok.1 h
      cases hp
      exact Or.inr ⟨hscalar, hraw, operand, hoperand, rfl⟩
    · cases h

/-- A field is compared by its length, or with each operand by an operator that it supports. -/
theorem compareField_eq_some {values : List Json}
    (h : compareField operator values access field = .ok (some p)) :
    (operator.length = true ∧ compareLength operator values access field = .ok (some p)) ∨
      (supports operator field.kind = true ∧
        ∃ parts, Predicate.join operator.junction parts = some p ∧
          ∀ part ∈ parts,
            (∃ element raw, field.kind = .list element ∧
              containsOperand operator access element raw = .ok (some part)) ∨
            ∃ raw, compareOperand operator access field raw = .ok (some part)) := by
  unfold compareField at h
  split at h
  · next hlength => exact Or.inl ⟨hlength, h⟩
  · split at h
    · cases h
    · next hsupports =>
      rw [Bool.not_eq_true, Bool.not_eq_false'] at hsupports
      refine Or.inr ⟨hsupports, ?_⟩
      dsimp only at h
      split at h
      · next element hkind =>
        obtain ⟨parts, hparts, h⟩ := Outcome.bind_eq_ok.1 h
        refine ⟨parts.filterMap id, Except.ok.inj h, ?_⟩
        intro part hpart
        obtain ⟨raw, -, hraw⟩ := Outcome.exists_of_mem_mapM_ok hparts (by simpa using hpart)
        exact Or.inl ⟨element, raw, hkind, hraw⟩
      · obtain ⟨parts, hparts, h⟩ := Outcome.bind_eq_ok.1 h
        refine ⟨parts.filterMap id, Except.ok.inj h, ?_⟩
        intro part hpart
        obtain ⟨raw, -, hraw⟩ := Outcome.exists_of_mem_mapM_ok hparts (by simpa using hpart)
        exact Or.inr ⟨raw, hraw⟩

end Comparisons

/-! ### Leaves -/

/-- The path that a descriptor stands for: that of its configuration, or else the one that was
written. -/
def configuredPath (config : Option FieldConfig) (written : String) : String :=
  (config.map FieldConfig.name).getD written

/-- A JSON path has to be well formed before anything else is looked at. -/
def checkPath (json : Bool) (written : String) : Except QueryError Unit :=
  if json then (JsonPath.split written).map fun _ => () else .ok ()

/-- The path is searched as full text. -/
def isSearch (leaf : FilterLeaf) (config : Option FieldConfig) : Bool :=
  leaf.vector || (config.map FieldConfig.vector).getD false

/-- The language of a full-text search. -/
def searchLanguage (ctx : Context) (config : Option FieldConfig) : String :=
  (config.bind FieldConfig.vectorLanguage).getD ctx.options.defaultVectorLanguage

/-- The filter of its own that a leaf stands for; a JSON path stands for none. -/
def hookOf? (ctx : Context) (schema : Schema) (leaf : FilterLeaf) (config : Option FieldConfig) :
    Option FilterHook :=
  if leaf.json then none
  else ctx.registry.filter? schema.entity (configuredPath config leaf.field)

/-- What a leaf compiles to once its path has passed the policy. -/
def compileConfigured (ctx : Context) (schema : Schema) (leaf : FilterLeaf)
    (config : Option FieldConfig) : Except QueryError (Option Predicate) :=
  let path := configuredPath config leaf.field
  if isSearch leaf config then
    FieldPath.resolve ctx.catalog schema path >>=
      ctx.quantify
        (searchAt path (ctx.searchLanguage config) (leaf.values.filterMap Json.text?)) []
  else
    match ctx.hookOf? schema leaf config with
    | some hook =>
      if Operator.asksLength leaf.operator then .error (.invalidOperator leaf.operator)
      else .ok (some (.custom hook))
    | none =>
      match Operator.ofText? leaf.operator with
      | none => .error (.invalidOperator leaf.operator)
      | some operator =>
        if leaf.json then compareNode schema path operator leaf.values
        else
          FieldPath.resolve ctx.catalog schema path >>=
            ctx.quantify (compareField operator leaf.values) []

/-- A leaf is compiled in three steps: its path is checked, its configuration is looked up, and the
first rule that applies to it is followed. -/
theorem compileLeaf_eq (leaf : FilterLeaf) :
    ctx.compileLeaf schema leaf =
      checkPath leaf.json leaf.field >>= fun _ =>
        ctx.policy schema.entity leaf.field >>= ctx.compileConfigured schema leaf := by
  obtain ⟨field, operator, values, json, vector⟩ := leaf
  have hoperator : ∀ next : Operator → Except QueryError (Option Predicate),
      (Operator.ofText operator >>= next) = match Operator.ofText? operator with
        | none => .error (.invalidOperator operator)
        | some o => next o := by
    intro next
    unfold Operator.ofText
    cases Operator.ofText? operator <;> rfl
  unfold compileLeaf compileConfigured
  simp only [hoperator]
  cases json with
  | true =>
    unfold checkPath
    cases JsonPath.split field with
    | error e => rfl
    | ok parts => rfl
  | false => rfl

/-- A leaf compiles when its path is well formed and open to filtering, to what the first rule that
applies to it gives. -/
theorem compileLeaf_eq_ok {leaf : FilterLeaf} {p : Option Predicate} :
    ctx.compileLeaf schema leaf = .ok p ↔
      checkPath leaf.json leaf.field = .ok () ∧
        ctx.registry.filterable schema.entity leaf.field = true ∧
          ctx.compileConfigured schema leaf (ctx.registry.field? schema.entity leaf.field) =
            .ok p := by
  rw [compileLeaf_eq, Outcome.bind_eq_ok]
  constructor
  · rintro ⟨⟨⟩, hcheck, h⟩
    obtain ⟨config, hpolicy, h⟩ := Outcome.bind_eq_ok.1 h
    obtain ⟨rfl, hopen⟩ := policy_eq_ok.1 hpolicy
    exact ⟨hcheck, hopen, h⟩
  · rintro ⟨hcheck, hopen, h⟩
    exact ⟨(), hcheck, Outcome.bind_eq_ok.2 ⟨_, policy_eq_ok.2 ⟨rfl, hopen⟩, h⟩⟩

/-- A leaf that gives a predicate passed the policy and did so in one of four ways: as a full-text
search, as a filter of its own, as the text of a node of a document, or as the comparison of a
field. -/
theorem compileLeaf_eq_some {leaf : FilterLeaf} {p : Predicate}
    (h : ctx.compileLeaf schema leaf = .ok (some p)) :
    ∃ config path, ctx.policy schema.entity leaf.field = .ok config ∧
      path = configuredPath config leaf.field ∧
      ((∃ language terms resolved, FieldPath.resolve ctx.catalog schema path = .ok resolved ∧
          ctx.quantify (searchAt path language terms) [] resolved = .ok (some p)) ∨
        (∃ hook, ctx.registry.filter? schema.entity path = some hook ∧ p = .custom hook) ∨
        (∃ operator, Operator.ofText? leaf.operator = some operator ∧
          compareNode schema path operator leaf.values = .ok (some p)) ∨
        ∃ operator resolved, Operator.ofText? leaf.operator = some operator ∧
          FieldPath.resolve ctx.catalog schema path = .ok resolved ∧
            ctx.quantify (compareField operator leaf.values) [] resolved = .ok (some p)) := by
  obtain ⟨-, hopen, h⟩ := compileLeaf_eq_ok.1 h
  refine ⟨_, _, policy_eq_ok.2 ⟨rfl, hopen⟩, rfl, ?_⟩
  unfold compileConfigured at h
  split at h
  · obtain ⟨resolved, hresolved, h⟩ := Outcome.bind_eq_ok.1 h
    exact Or.inl ⟨_, _, resolved, hresolved, h⟩
  · split at h
    · next hook hhook =>
      split at h
      · cases h
      · cases h
        unfold hookOf? at hhook
        split at hhook
        · cases hhook
        · exact Or.inr (Or.inl ⟨hook, hhook, rfl⟩)
    · split at h
      · cases h
      · next operator hoperator =>
        split at h
        · exact Or.inr (Or.inr (Or.inl ⟨operator, hoperator, h⟩))
        · obtain ⟨resolved, hresolved, h⟩ := Outcome.bind_eq_ok.1 h
          exact Or.inr (Or.inr (Or.inr ⟨operator, resolved, hoperator, hresolved, h⟩))

/-- A lenient compilation makes up no predicates. -/
theorem eq_of_lenient_eq_some {α : Type} {result : Except QueryError (Option α)} {a : α}
    (h : ctx.lenient result = .ok (some a)) : result = .ok (some a) := by
  unfold lenient at h
  split at h
  · exact h
  · split at h <;> cases h

mutual

/-- What holds of compiled leaves, and is kept where predicates are joined, holds of a compiled
filter. -/
theorem compileFilter_induction {P : Predicate → Prop}
    (leaf : ∀ leaf p, ctx.compileLeaf schema leaf = .ok (some p) → P p)
    (joined : ∀ junction parts p, (∀ part ∈ parts, P part) →
      Predicate.join junction parts = some p → P p)
    {filter : FilterDescriptor} {p : Predicate}
    (h : ctx.compileFilter schema filter = .ok (some p)) : P p := by
  cases filter with
  | leaf l =>
    rw [compileFilter] at h
    exact leaf l p h
  | group children =>
    rw [compileFilter] at h
    obtain ⟨parts, hparts, hp⟩ := Outcome.map_eq_ok.1 h
    exact joined .or parts p (compileParts_induction leaf joined hparts) hp

/-- What holds of compiled leaves, and is kept where predicates are joined, holds of all compiled
filters. -/
theorem compileParts_induction {P : Predicate → Prop}
    (leaf : ∀ leaf p, ctx.compileLeaf schema leaf = .ok (some p) → P p)
    (joined : ∀ junction parts p, (∀ part ∈ parts, P part) →
      Predicate.join junction parts = some p → P p)
    {filters : List FilterDescriptor} {parts : List Predicate}
    (h : ctx.compileParts schema filters = .ok parts) : ∀ part ∈ parts, P part := by
  cases filters with
  | nil =>
    cases h
    intro part hpart
    cases hpart
  | cons filter filters =>
    rw [compileParts] at h
    obtain ⟨first, hfirst, h⟩ := Outcome.bind_eq_ok.1 h
    obtain ⟨others, hothers, h⟩ := Outcome.bind_eq_ok.1 h
    cases h
    intro part hpart
    rcases List.mem_append.1 hpart with hpart | hpart
    · rw [Option.mem_toList] at hpart
      cases hpart
      exact compileFilter_induction leaf joined (eq_of_lenient_eq_some hfirst)
    · exact compileParts_induction leaf joined hothers part hpart

end

/-- What holds of compiled leaves, and is kept where predicates are joined, holds of what a list of
filters compiles to. -/
theorem compileFilters_induction {P : Predicate → Prop}
    (leaf : ∀ leaf p, ctx.compileLeaf schema leaf = .ok (some p) → P p)
    (joined : ∀ junction parts p, (∀ part ∈ parts, P part) →
      Predicate.join junction parts = some p → P p)
    {filters : List FilterDescriptor} {p : Predicate}
    (h : ctx.compileFilters schema filters = .ok (some p)) : P p := by
  obtain ⟨parts, hparts, hp⟩ := Outcome.map_eq_ok.1 h
  exact joined .and parts p (compileParts_induction leaf joined hparts) hp

/-- A leaf that is compiled alone gives what is left of it in the mode of the compilation. -/
theorem compileFilters_leaf (ctx : Context) (schema : Schema) (leaf : FilterLeaf) :
    ctx.compileFilters schema [.leaf leaf] = ctx.lenient (ctx.compileLeaf schema leaf) := by
  rw [compileFilters, compileParts, compileFilter, compileParts]
  cases ctx.lenient (ctx.compileLeaf schema leaf) with
  | error e => rfl
  | ok part => cases part <;> rfl

/-! ### Sort keys -/

/-- The key that a path stands for once it has passed the policy. -/
def keyAt (ctx : Context) (schema : Schema) (json : Bool) (path : String) :
    Except QueryError SortKey :=
  match ctx.registry.sort? schema.entity path with
  | some hook => .ok (.custom hook)
  | none =>
    if json then (JsonPath.resolve schema path).map .json
    else
      FieldPath.resolve ctx.catalog schema path >>= fun resolved =>
        if resolved.isExistential || !resolved.last.kind.isScalar then
          .error (.fieldNotFound path schema.entity.name)
        else .ok (.field resolved.access)

/-- A sort key is compiled in three steps: its path is checked, it has to be open to sorting, and
the first rule that applies to it is followed. -/
theorem compileKey_eq (sort : SortDescriptor) :
    ctx.compileKey schema sort =
      checkPath sort.json sort.field >>= fun _ =>
        if ctx.registry.sortable schema.entity sort.field then
          ctx.keyAt schema sort.json
            (configuredPath (ctx.registry.field? schema.entity sort.field) sort.field)
        else .error (.notSortable sort.field) := by
  obtain ⟨field, direction, json⟩ := sort
  unfold compileKey checkPath keyAt Registry.sortable configuredPath
  dsimp only
  generalize ((ctx.registry.field? schema.entity field).map FieldConfig.name).getD field = path
  cases ((ctx.registry.field? schema.entity field).map FieldConfig.sortable).getD true with
  | false =>
    cases json with
    | true => cases JsonPath.split field <;> rfl
    | false => rfl
  | true =>
    cases json with
    | true =>
      cases JsonPath.split field with
      | error e => rfl
      | ok parts => cases ctx.registry.sort? schema.entity path <;> rfl
    | false =>
      cases ctx.registry.sort? schema.entity path with
      | some hook => rfl
      | none =>
        cases FieldPath.resolve ctx.catalog schema path with
        | error e => rfl
        | ok resolved =>
          cases resolved.isExistential || !resolved.last.kind.isScalar <;> rfl

/-- A sort key that compiles is open to sorting, and is a key of its own, the text of a node of a
document, or a scalar field that is reached without crossing a collection. -/
theorem compileKey_eq_ok {sort : SortDescriptor} {key : SortKey}
    (h : ctx.compileKey schema sort = .ok key) :
    ctx.registry.sortable schema.entity sort.field = true ∧
      ∃ path, path = configuredPath (ctx.registry.field? schema.entity sort.field) sort.field ∧
        ((∃ hook, ctx.registry.sort? schema.entity path = some hook ∧ key = .custom hook) ∨
          (∃ target, JsonPath.resolve schema path = .ok target ∧ key = .json target) ∨
          ∃ resolved, FieldPath.resolve ctx.catalog schema path = .ok resolved ∧
            resolved.isExistential = false ∧ resolved.last.kind.isScalar = true ∧
              key = .field resolved.access) := by
  rw [compileKey_eq] at h
  obtain ⟨-, -, h⟩ := Outcome.bind_eq_ok.1 h
  split at h
  · next hopen =>
    refine ⟨hopen, _, rfl, ?_⟩
    unfold keyAt at h
    split at h
    · next hook hhook =>
      cases h
      exact Or.inl ⟨hook, hhook, rfl⟩
    · split at h
      · obtain ⟨target, htarget, rfl⟩ := Outcome.map_eq_ok.1 h
        exact Or.inr (Or.inl ⟨target, htarget, rfl⟩)
      · obtain ⟨resolved, hresolved, h⟩ := Outcome.bind_eq_ok.1 h
        split at h
        · cases h
        · next hkey =>
          cases h
          simp only [Bool.or_eq_true, Bool.not_eq_true', not_or, Bool.not_eq_true,
            Bool.not_eq_false] at hkey
          exact Or.inr (Or.inr ⟨resolved, hresolved, hkey.1, hkey.2, rfl⟩)
  · cases h

/-- Every term of a compiled chain is the key of one of the sort descriptors, in its direction. -/
theorem exists_of_mem_compileSorts {sorts : List SortDescriptor} {chain : SortChain}
    (h : ctx.compileSorts schema sorts = .ok chain) :
    ∀ term ∈ chain, ∃ sort ∈ sorts, ctx.compileKey schema sort = .ok term.key ∧
      term.direction = sort.direction := by
  induction sorts generalizing chain with
  | nil =>
    cases h
    intro term hterm
    cases hterm
  | cons sort sorts ih =>
    rw [compileSorts] at h
    obtain ⟨first, hfirst, h⟩ := Outcome.bind_eq_ok.1 h
    obtain ⟨others, hothers, h⟩ := Outcome.bind_eq_ok.1 h
    cases h
    intro term hterm
    rcases List.mem_append.1 hterm with hterm | hterm
    · rw [Option.mem_toList] at hterm
      cases hterm
      obtain ⟨key, hkey, hterm⟩ := Outcome.map_eq_ok.1 (eq_of_lenient_eq_some hfirst)
      cases hterm
      exact ⟨sort, List.mem_cons_self, hkey, rfl⟩
    · obtain ⟨other, hother, hkey, hdirection⟩ := ih hothers term hterm
      exact ⟨other, List.mem_cons_of_mem sort hother, hkey, hdirection⟩

end Context

end RecordQuery
