import RecordQuery.Proofs.Complements
import RecordQuery.Proofs.Quantifiers

/-!
# What a comparison reads

A leaf that is compared reads one target, unless its path crosses a collection: the field that its
path ends on, or the text of a node (`Context.Targets`).  With one operand other than null it
compiles to a predicate about this target: the length of the target, its membership or a comparison
with the operand (`Context.compileLeaf_single`).
-/

namespace RecordQuery

namespace Context

variable (ctx : Context) (schema : Schema) (leaf : FilterLeaf)

/-- The path that a leaf stands for. -/
def pathOf : String :=
  configuredPath (ctx.registry.field? schema.entity leaf.field) leaf.field

/-- The leaf is compared: it is no full-text search, and stands for no filter of its own. -/
structure IsComparison : Prop where
  search : isSearch leaf (ctx.registry.field? schema.entity leaf.field) = false
  plain : leaf.json = false → ctx.registry.filter? schema.entity (ctx.pathOf schema leaf) = none

/-- The path of the leaf crosses no collection. -/
def IsDirect : Prop :=
  leaf.json = false → ∀ path,
    FieldPath.resolve ctx.catalog schema (ctx.pathOf schema leaf) = .ok path →
      path.isExistential = false

/-- What the leaf reads when it is compared and its path crosses no collection: a target, and the
kind that operands are coerced to. -/
inductive Targets : Target → Kind → Prop where
  /-- The field that the path ends on. -/
  | field {path : FieldPath} (plain : leaf.json = false)
      (resolved : FieldPath.resolve ctx.catalog schema (ctx.pathOf schema leaf) = .ok path)
      (direct : path.isExistential = false) : Targets (.field path.access) path.last.kind
  /-- The text of a node. -/
  | node {path : JsonPath} (json : leaf.json = true)
      (wellFormed : checkPath true leaf.field = .ok ())
      (resolved : JsonPath.resolve schema (ctx.pathOf schema leaf) = .ok path) :
      Targets (.json path) .string

variable {ctx schema leaf} {p : Option Predicate}

/-- A filter of its own is used as it is, whatever the operands, unless a length is asked for. -/
theorem compileLeaf_hook
    (hsearch : isSearch leaf (ctx.registry.field? schema.entity leaf.field) = false)
    (hjson : leaf.json = false) {hook : FilterHook}
    (hhook : ctx.registry.filter? schema.entity (ctx.pathOf schema leaf) = some hook) :
    ctx.compileLeaf schema leaf = .ok p ↔
      ctx.registry.filterable schema.entity leaf.field = true ∧
        Operator.asksLength leaf.operator = false ∧ some (.custom hook) = p := by
  have hcheck : checkPath leaf.json leaf.field = .ok () := by
    rw [hjson]
    rfl
  have hfound : ctx.hookOf? schema leaf (ctx.registry.field? schema.entity leaf.field) =
      some hook := by
    unfold hookOf?
    rw [hjson]
    exact hhook
  rw [compileLeaf_eq_ok, and_iff_right hcheck]
  refine and_congr_right fun _ => ?_
  unfold compileConfigured
  rw [hsearch, hfound]
  cases Operator.asksLength leaf.operator <;> simp

/-- The comparison of a field that is reached without crossing a collection. -/
theorem compileLeaf_direct (comparison : ctx.IsComparison schema leaf)
    (direct : ctx.IsDirect schema leaf) (hjson : leaf.json = false) :
    ctx.compileLeaf schema leaf = .ok p ↔
      ctx.registry.filterable schema.entity leaf.field = true ∧
        ∃ operator path, Operator.ofText? leaf.operator = some operator ∧
          FieldPath.resolve ctx.catalog schema (ctx.pathOf schema leaf) = .ok path ∧
          compareField operator leaf.values path.access path.last = .ok p := by
  rw [compileLeaf_field hjson comparison.search (comparison.plain hjson)]
  refine and_congr_right fun _ => exists_congr fun operator => exists_congr fun path =>
    and_congr_right fun _ => and_congr_right fun hpath => ?_
  rw [quantify_direct (direct hjson path hpath), List.nil_append]

/-- The comparison of the text of a node. -/
theorem compileLeaf_node (comparison : ctx.IsComparison schema leaf) (hjson : leaf.json = true) :
    ctx.compileLeaf schema leaf = .ok p ↔
      checkPath true leaf.field = .ok () ∧
        ctx.registry.filterable schema.entity leaf.field = true ∧
          ∃ operator, Operator.ofText? leaf.operator = some operator ∧
            compareNode schema (ctx.pathOf schema leaf) operator leaf.values = .ok p := by
  rw [compileLeaf_eq_ok, hjson]
  refine and_congr_right fun _ => and_congr_right fun _ => ?_
  unfold compileConfigured hookOf?
  rw [comparison.search, hjson]
  cases Operator.ofText? leaf.operator with
  | none => simp
  | some operator => simp [pathOf]

/-- A comparison that compiles has an operator. -/
theorem exists_operator (comparison : ctx.IsComparison schema leaf)
    (h : ctx.compileLeaf schema leaf = .ok p) :
    ∃ operator, Operator.ofText? leaf.operator = some operator := by
  cases hjson : leaf.json with
  | true =>
    obtain ⟨-, -, operator, hoperator, -⟩ := (compileLeaf_node comparison hjson).1 h
    exact ⟨operator, hoperator⟩
  | false =>
    obtain ⟨-, operator, -, hoperator, -⟩ :=
      (compileLeaf_field hjson comparison.search (comparison.plain hjson)).1 h
    exact ⟨operator, hoperator⟩

/-! ### One operand -/

variable {operator : Operator} {access : Access} {field : Field} {raw : Json} {q : Predicate}

/-- What one operand other than null asks of a target of a kind. -/
inductive Asks (operator : Operator) (raw : Json) : Target → Kind → Predicate → Prop where
  /-- The length of a text or a collection. -/
  | length {access : Access} {kind : Kind} {n : UInt64} (length : operator.length = true)
      (counted : kind = .string ∨ ∃ element, kind = .list element)
      (coerced : coerceLength raw = .ok n) :
      Asks operator raw (.field access) kind (.length access operator.base n)
  /-- Whether the operand is an element of a collection, or is none. -/
  | element {access : Access} {element : Kind} {operand : Scalar} (plain : operator.length = false)
      (supported : supports operator (.list element) = true)
      (coerced : coerce raw element = .ok operand) :
      Asks operator raw (.field access) (.list element)
        (if operator.base == .notContains then
          .not (.contains access operand operator.ignoreCase)
        else .contains access operand operator.ignoreCase)
  /-- How a single value compares with the operand. -/
  | value {target : Target} {kind : Kind} {operand : Scalar} (plain : operator.length = false)
      (supported : supports operator kind = true) (scalar : kind.isScalar = true)
      (coerced : coerce raw kind = .ok operand) :
      Asks operator raw target kind (.compare target operator.base operand operator.ignoreCase)

/-- A length is compared with a natural number, for texts and collections. -/
theorem compareLength_single :
    compareLength operator [raw] access field = .ok (some q) ↔
      (field.kind = .string ∨ ∃ element, field.kind = .list element) ∧
        ∃ n, coerceLength raw = .ok n ∧ .length access operator.base n = q := by
  unfold compareLength
  cases field.kind <;> simp [Outcome.map_eq_ok]

/-- An operand other than null is an element or is none. -/
theorem containsOperand_single (hraw : raw ≠ .null) {element : Kind} :
    containsOperand operator access element raw = .ok (some q) ↔
      ∃ operand, coerce raw element = .ok operand ∧
        (if operator.base == .notContains then
          Predicate.not (.contains access operand operator.ignoreCase)
        else .contains access operand operator.ignoreCase) = q := by
  unfold containsOperand
  rw [Outcome.bind_eq_ok]
  refine exists_congr fun operand => and_congr_right fun hoperand => ?_
  split
  · exact absurd hoperand (coerce_ne_null hraw)
  · exact ⟨fun h => Option.some.inj (Except.ok.inj h), fun h => congrArg (Except.ok ∘ some) h⟩

/-- A single value is compared with an operand other than null. -/
theorem compareOperand_single (hraw : raw ≠ .null) :
    compareOperand operator access field raw = .ok (some q) ↔
      field.kind.isScalar = true ∧ ∃ operand, coerce raw field.kind = .ok operand ∧
        .compare (.field access) operator.base operand operator.ignoreCase = q := by
  rw [compareOperand_eq hraw]
  cases field.kind.isScalar <;> simp [Outcome.map_eq_ok]

/-- An operator that asks for a length asks it of texts and collections. -/
theorem compareField_length (hlength : operator.length = true) :
    compareField operator [raw] access field = .ok (some q) ↔
      Asks operator raw (.field access) field.kind q := by
  obtain ⟨name, kind, nullable⟩ := field
  have hcompare : compareField operator [raw] access ⟨name, kind, nullable⟩ =
      compareLength operator [raw] access ⟨name, kind, nullable⟩ := if_pos hlength
  rw [hcompare, compareLength_single]
  constructor
  · rintro ⟨hcounted, n, hn, rfl⟩
    exact .length hlength hcounted hn
  · intro h
    cases h with
    | length _ hcounted hn => exact ⟨hcounted, _, hn, rfl⟩
    | element hplain | value hplain =>
      rw [hlength] at hplain
      cases hplain

/-- Any other operator asks for the operand as an element of a collection, or compares it with a
single value. -/
theorem compareField_operand (hraw : raw ≠ .null) (hlength : operator.length = false) :
    compareField operator [raw] access field = .ok (some q) ↔
      Asks operator raw (.field access) field.kind q := by
  obtain ⟨name, kind, nullable⟩ := field
  constructor
  · intro h
    have hsupports := ((compareField_eq_ok hlength).1 h).1
    rw [compareField_singleton hlength hsupports] at h
    unfold compareValue at h
    dsimp only at h hsupports
    split at h
    · obtain ⟨operand, hoperand, rfl⟩ := (containsOperand_single hraw).1 h
      exact .element hlength hsupports hoperand
    · obtain ⟨hscalar, operand, hoperand, rfl⟩ := (compareOperand_single hraw).1 h
      exact .value hlength hsupports hscalar hoperand
  · intro h
    cases h with
    | length htrue =>
      rw [hlength] at htrue
      cases htrue
    | element _ hsupports hoperand =>
      exact (compareField_singleton hlength hsupports).2
        ((containsOperand_single hraw).2 ⟨_, hoperand, rfl⟩)
    | value _ hsupports hscalar hoperand =>
      rw [compareField_singleton hlength hsupports]
      unfold compareValue
      split
      · next hkind =>
        dsimp only at hkind
        rw [hkind] at hscalar
        cases hscalar
      · exact (compareOperand_single hraw).2 ⟨hscalar, _, hoperand, rfl⟩

/-- One operand other than null asks something of a field exactly when the comparison with it
compiles to that. -/
theorem compareField_single (hraw : raw ≠ .null) :
    compareField operator [raw] access field = .ok (some q) ↔
      Asks operator raw (.field access) field.kind q := by
  cases hlength : operator.length with
  | true => exact compareField_length hlength
  | false => exact compareField_operand hraw hlength

/-- A node is compared as text: its operands are coerced as those of a string. -/
theorem coerce_string_eq_ok (hraw : raw ≠ .null) {operand : Scalar} :
    coerce raw .string = .ok operand ↔ ∃ s, raw.text? = some s ∧ .string s = operand := by
  unfold coerce
  split
  · exact absurd rfl hraw
  · unfold Coercion.scalar?
    cases raw.text? <;> simp

/-- One operand other than null asks something of a node exactly when the comparison with it
compiles to that. -/
theorem compareNode_single (hraw : raw ≠ .null) {path : String} :
    compareNode schema path operator [raw] = .ok (some q) ↔
      ∃ target, JsonPath.resolve schema path = .ok target ∧
        Asks operator raw (.json target) .string q := by
  have hsupports : supports operator .string = true := by
    simp [supports, Kind.isOrdered, Kind.isScalar]
  have hone : ∀ target : JsonPath, Predicate.join operator.junction
      (([raw].filterMap Json.text?).map fun s =>
        .compare (.json target) operator.base (.string s) operator.ignoreCase) =
      raw.text?.map fun s =>
        .compare (.json target) operator.base (.string s) operator.ignoreCase := by
    intro target
    rw [List.filterMap_cons, List.filterMap_nil]
    cases raw.text? <;> cases operator.junction <;> rfl
  rw [compareNode_eq_ok]
  constructor
  · rintro ⟨hlength, target, htarget, hjoin⟩
    rw [hone] at hjoin
    obtain ⟨s, htext, rfl⟩ := Option.map_eq_some_iff.1 hjoin
    exact ⟨target, htarget,
      .value hlength hsupports rfl ((coerce_string_eq_ok hraw).2 ⟨s, htext, rfl⟩)⟩
  · rintro ⟨target, htarget, hasks⟩
    cases hasks with
    | value hlength _ _ hoperand =>
      obtain ⟨s, htext, rfl⟩ := (coerce_string_eq_ok hraw).1 hoperand
      refine ⟨hlength, target, htarget, ?_⟩
      rw [hone, htext]
      rfl

/-- On a path that crosses no collection one operand other than null compiles to what it asks of the
target. -/
theorem compileLeaf_single (comparison : ctx.IsComparison schema leaf)
    (direct : ctx.IsDirect schema leaf) (hvalues : leaf.values = [raw]) (hraw : raw ≠ .null) :
    ctx.compileLeaf schema leaf = .ok (some q) ↔
      ctx.registry.filterable schema.entity leaf.field = true ∧
        ∃ operator target kind, Operator.ofText? leaf.operator = some operator ∧
          ctx.Targets schema leaf target kind ∧ Asks operator raw target kind q := by
  cases hjson : leaf.json with
  | true =>
    rw [compileLeaf_node comparison hjson, hvalues]
    constructor
    · rintro ⟨hcheck, hopen, operator, hoperator, hcompare⟩
      obtain ⟨path, hpath, hasks⟩ := (compareNode_single hraw).1 hcompare
      exact ⟨hopen, operator, _, _, hoperator, .node hjson hcheck hpath, hasks⟩
    · rintro ⟨hopen, operator, target, kind, hoperator, htargets, hasks⟩
      cases htargets with
      | node _ hcheck hpath =>
        exact ⟨hcheck, hopen, operator, hoperator, (compareNode_single hraw).2 ⟨_, hpath, hasks⟩⟩
      | field hplain =>
        rw [hjson] at hplain
        cases hplain
  | false =>
    rw [compileLeaf_direct comparison direct hjson, hvalues]
    constructor
    · rintro ⟨hopen, operator, path, hoperator, hpath, hcompare⟩
      exact ⟨hopen, operator, _, _, hoperator, .field hjson hpath (direct hjson path hpath),
        (compareField_single hraw).1 hcompare⟩
    · rintro ⟨hopen, operator, target, kind, hoperator, htargets, hasks⟩
      cases htargets with
      | field _ hpath =>
        exact ⟨hopen, operator, _, hoperator, hpath, (compareField_single hraw).2 hasks⟩
      | node hnode =>
        rw [hjson] at hnode
        cases hnode

end Context

end RecordQuery
