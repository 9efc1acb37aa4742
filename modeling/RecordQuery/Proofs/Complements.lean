import RecordQuery.Proofs.CompiledTyping
import RecordQuery.Proofs.Errors

/-!
# Not equal as the complement of equal

Every predicate has a dual, which holds for exactly the records for which the predicate does not
(`Predicate.holds_dual`): equal and not equal change places, and so do conjunction and disjunction.
A leaf on a path that crosses no collection asks with not-equal for the dual of what it asks for
with equal, operand by operand.  So the two leaves fail alike, ask for nothing alike, or split the
records between them (`Context.complementary_ne`).

Across a collection this is not so, since both leaves ask for some element.
-/

namespace RecordQuery

namespace Predicate

/-! ### Duals -/

mutual

/-- The predicate that holds where the given one does not. -/
def dual : Predicate → Predicate
  | .compare target op operand ignoreCase =>
    match op with
    | .eq => .compare target .ne operand ignoreCase
    | .ne => .compare target .eq operand ignoreCase
    | op => .not (.compare target op operand ignoreCase)
  | .isNull access => .not (.isNull access)
  | .length access op operand => .not (.length access op operand)
  | .contains access operand ignoreCase => .not (.contains access operand ignoreCase)
  | .any collection inner => .not (.any collection inner)
  | .search access language term => .not (.search access language term)
  | .custom hook => .not (.custom hook)
  | .and parts => .or (dualAll parts)
  | .or parts => .and (dualAll parts)
  | .not inner => inner

/-- The duals of several predicates. -/
def dualAll : List Predicate → List Predicate
  | [] => []
  | p :: ps => p.dual :: dualAll ps

end

theorem dualAll_eq_map (ps : List Predicate) : dualAll ps = ps.map dual := by
  induction ps with
  | nil => rfl
  | cons p ps ih => rw [dualAll, List.map_cons, ih]

/-- A negation holds where the predicate does not. -/
theorem holds_not (search : TextSearch) (p : Predicate) (r : Record) :
    (Predicate.not p).holds search r = !p.holds search r := by
  rw [holds]

/-- A value is not equal to an operand when it is not equal. -/
theorem holdsValue_ne (actual : Value) (operand : Scalar) (ignoreCase : Bool) :
    Comparison.ne.holdsValue actual operand ignoreCase =
      !Comparison.eq.holdsValue actual operand ignoreCase :=
  rfl

mutual

/-- The dual holds for exactly the records for which the predicate does not. -/
theorem holds_dual (search : TextSearch) (p : Predicate) (r : Record) :
    p.dual.holds search r = !p.holds search r := by
  cases p with
  | compare target op operand ignoreCase =>
    cases op with
    | eq => rw [dual, holds, holds, holdsValue_ne]
    | ne => rw [dual, holds, holds, holdsValue_ne, Bool.not_not]
    | _ => exact holds_not search _ r
  | isNull access | length access op operand | contains access operand ignoreCase
  | any collection inner | search access language term | custom hook => rw [dual, holds_not]
  | and parts =>
    rw [dual, holds, holds]
    exact someHolds_dualAll search parts r
  | or parts =>
    rw [dual, holds, holds]
    exact allHold_dualAll search parts r
  | not inner => rw [dual, holds_not, Bool.not_not]

/-- Some dual holds when not all of the predicates do. -/
theorem someHolds_dualAll (search : TextSearch) (ps : List Predicate) (r : Record) :
    someHolds search (dualAll ps) r = !allHold search ps r := by
  cases ps with
  | nil => rfl
  | cons p ps =>
    rw [dualAll, someHolds, allHold, holds_dual search p r, someHolds_dualAll search ps r,
      Bool.not_and]

/-- All duals hold when none of the predicates does. -/
theorem allHold_dualAll (search : TextSearch) (ps : List Predicate) (r : Record) :
    allHold search (dualAll ps) r = !someHolds search ps r := by
  cases ps with
  | nil => rfl
  | cons p ps =>
    rw [dualAll, someHolds, allHold, holds_dual search p r, allHold_dualAll search ps r,
      Bool.not_or]

end

/-- The conjunction of duals is the dual of the disjunction. -/
theorem allOf_map_dual (parts : List Predicate) :
    allOf (parts.map dual) = (anyOf parts).map dual := by
  match parts with
  | [] => rfl
  | [p] => rfl
  | p :: q :: rest =>
    change some (Predicate.and ((p :: q :: rest).map dual)) = some (dual (.or (p :: q :: rest)))
    rw [dual, dualAll_eq_map]

end Predicate

/-! ### Outcomes that split the records -/

/-- Two compilations fail with errors of one kind, or ask for nothing, or give predicates of which
every record satisfies exactly one. -/
inductive Complementary :
    Except QueryError (Option Predicate) → Except QueryError (Option Predicate) → Prop where
  | fails {e e' : QueryError} (kind : e.kind = e'.kind) : Complementary (.error e) (.error e')
  | nothing : Complementary (.ok none) (.ok none)
  | splits {p q : Predicate} (holds : ∀ search r, q.holds search r = !p.holds search r) :
    Complementary (.ok (some p)) (.ok (some q))

namespace Complementary

/-- A compilation and the one that gives duals instead. -/
theorem map_dual (x : Except QueryError (Option Predicate)) :
    Complementary x (x.map (Option.map Predicate.dual)) := by
  match x with
  | .error e => exact .fails rfl
  | .ok none => exact .nothing
  | .ok (some p) => exact .splits fun search r => Predicate.holds_dual search p r

/-- What comes before makes no difference. -/
theorem bind {α : Type} {x : Except QueryError α}
    {f g : α → Except QueryError (Option Predicate)}
    (h : ∀ a, x = .ok a → Complementary (f a) (g a)) : Complementary (x >>= f) (x >>= g) := by
  cases x with
  | error e => exact .fails rfl
  | ok a => exact h a rfl

/-- Whether a failure is skipped makes no difference. -/
theorem lenient (ctx : Context) {x y : Except QueryError (Option Predicate)}
    (h : Complementary x y) : Complementary (ctx.lenient x) (ctx.lenient y) := by
  cases h with
  | @fails e e' kind =>
    unfold Context.lenient
    dsimp only
    rw [QueryError.isSkippable_congr kind]
    split
    · exact .nothing
    · exact .fails kind
  | nothing => exact .nothing
  | splits holds => exact .splits holds

end Complementary

/-! ### Operands -/

namespace Context

section Operands

variable (ignoreCase : Bool)

/-- An operand other than null is coerced to the kind of the field, if that is a kind of single
values. -/
theorem compareOperand_eq {raw : Json} (hraw : raw ≠ .null) (operator : Operator) (access : Access)
    (field : Field) :
    compareOperand operator access field raw =
      if field.kind.isScalar then
        (coerce raw field.kind).map fun operand =>
          some (.compare (.field access) operator.base operand operator.ignoreCase)
      else .error (.notComparable access.text field.kind) := by
  cases raw with
  | null => exact absurd rfl hraw
  | _ => rfl

/-- With not-equal one operand gives the dual of what it gives with equal. -/
theorem compareOperand_ne (access : Access) (field : Field) (raw : Json) :
    compareOperand ⟨.ne, ignoreCase, false⟩ access field raw =
      (compareOperand ⟨.eq, ignoreCase, false⟩ access field raw).map
        (Option.map Predicate.dual) := by
  by_cases hraw : raw = .null
  · subst hraw
    unfold compareOperand
    cases field.nullable <;> rfl
  · rw [compareOperand_eq hraw, compareOperand_eq hraw]
    split
    · cases coerce raw field.kind <;> rfl
    · rfl

/-- With not-equal the operands that have a text give the duals of what they give with equal. -/
theorem compareNode_ne (schema : Schema) (path : String) (values : List Json) :
    compareNode schema path ⟨.ne, ignoreCase, false⟩ values =
      (compareNode schema path ⟨.eq, ignoreCase, false⟩ values).map
        (Option.map Predicate.dual) := by
  unfold compareNode
  cases JsonPath.resolve schema path with
  | error e => rfl
  | ok target =>
    change Except.ok (Predicate.allOf ((values.filterMap Json.text?).map fun s =>
        .compare (.json target) .ne (.string s) ignoreCase)) =
      .ok ((Predicate.anyOf ((values.filterMap Json.text?).map fun s =>
        .compare (.json target) .eq (.string s) ignoreCase)).map Predicate.dual)
    rw [← Predicate.allOf_map_dual, List.map_map]
    rfl

/-- A field that is no collection is compared with every operand that asks for something. -/
theorem compareField_plain {operator : Operator} {values : List Json} {access : Access}
    {field : Field} (hlength : operator.length = false)
    (hsupports : supports operator field.kind = true) (hplain : field.kind.isCollection = false) :
    compareField operator values access field =
      (values.mapM (compareOperand operator access field)).map fun parts =>
        Predicate.join operator.junction (parts.filterMap id) := by
  unfold compareField
  rw [hlength, hsupports]
  simp only [Bool.false_eq_true, if_false, Bool.not_true]
  cases hkind : field.kind with
  | list element =>
    rw [hkind] at hplain
    cases hplain
  | _ => rfl

/-- Compared with the same operands by equal and by not-equal, a field gives complementary
outcomes. -/
theorem complementary_compareField (values : List Json) (access : Access) (field : Field) :
    Complementary (compareField ⟨.eq, ignoreCase, false⟩ values access field)
      (compareField ⟨.ne, ignoreCase, false⟩ values access field) := by
  have hsupports : ∀ base, base = .eq ∨ base = .ne →
      supports ⟨base, ignoreCase, false⟩ field.kind = !field.kind.isCollection := by
    rintro base (rfl | rfl) <;> cases field.kind <;> rfl
  have heq := hsupports .eq (.inl rfl)
  have hne := hsupports .ne (.inr rfl)
  cases hplain : field.kind.isCollection with
  | true =>
    rw [hplain] at heq hne
    unfold compareField
    rw [heq, hne]
    exact .fails rfl
  | false =>
    rw [hplain] at heq hne
    have hparts : ∀ parts : List (Option Predicate),
        (parts.map (Option.map Predicate.dual)).filterMap id =
          (parts.filterMap id).map Predicate.dual := by
      intro parts
      rw [List.filterMap_map, List.map_filterMap]
      rfl
    have hoperands := Outcome.mapM_map (Option.map Predicate.dual)
      (compareOperand ⟨.eq, ignoreCase, false⟩ access field) values
    rw [← funext (compareOperand_ne ignoreCase access field)] at hoperands
    rw [compareField_plain rfl heq hplain, compareField_plain rfl hne hplain, hoperands]
    cases values.mapM (compareOperand ⟨.eq, ignoreCase, false⟩ access field) with
    | error e => exact .fails rfl
    | ok parts =>
      have hjoin : Predicate.allOf ((parts.map (Option.map Predicate.dual)).filterMap id) =
          (Predicate.anyOf (parts.filterMap id)).map Predicate.dual := by
        rw [hparts, Predicate.allOf_map_dual]
      change Complementary (.ok (Predicate.anyOf (parts.filterMap id)))
        (.ok (Predicate.allOf ((parts.map (Option.map Predicate.dual)).filterMap id)))
      rw [hjoin]
      exact Complementary.map_dual (.ok (Predicate.anyOf (parts.filterMap id)))

end Operands

/-! ### Leaves -/

section Leaves

variable {ctx : Context} {schema : Schema}

/-- A path that crosses no collection gives the comparison at its end. -/
theorem quantify_direct {path : FieldPath} (hdirect : path.isExistential = false)
    (build : Access → Field → Except QueryError (Option Predicate)) (before : Access) :
    ctx.quantify build before path = build (before ++ path.access) path.last := by
  induction path generalizing before with
  | leaf field => rfl
  | nested field rest ih =>
    have hrest : rest.isExistential = false := hdirect
    rw [quantify, ih hrest, FieldPath.access, FieldPath.last, List.append_assoc]
    rfl
  | each field element rest ih => cases hdirect

/-- How equal and not-equal are written, with and without regard to case. -/
theorem ofText?_equality (ignoreCase : Bool) :
    Operator.ofText? (if ignoreCase then "==*" else "==") = some ⟨.eq, ignoreCase, false⟩ ∧
      Operator.ofText? (if ignoreCase then "!=*" else "!=") = some ⟨.ne, ignoreCase, false⟩ := by
  cases ignoreCase <;> decide

/-- Past the policy a leaf on a path that crosses no collection gives complementary outcomes with
equal and with not-equal. -/
theorem complementary_compileConfigured {leaf : FilterLeaf} {config : Option FieldConfig}
    (ignoreCase : Bool) (hsearch : isSearch leaf config = false)
    (hplain : leaf.json = false →
      ctx.registry.filter? schema.entity (configuredPath config leaf.field) = none)
    (hdirect : leaf.json = false → ∀ path,
      FieldPath.resolve ctx.catalog schema (configuredPath config leaf.field) = .ok path →
        path.isExistential = false) :
    Complementary
      (ctx.compileConfigured schema
        { leaf with operator := if ignoreCase then "==*" else "==" } config)
      (ctx.compileConfigured schema
        { leaf with operator := if ignoreCase then "!=*" else "!=" } config) := by
  obtain ⟨field, operator, values, json, vector⟩ := leaf
  obtain ⟨heq, hne⟩ := ofText?_equality ignoreCase
  have hother : ∀ operator, isSearch ⟨field, operator, values, json, vector⟩ config = false :=
    fun _ => hsearch
  unfold compileConfigured hookOf?
  dsimp only
  rw [hother, hother, heq, hne]
  cases json with
  | true =>
    change Complementary (compareNode schema (configuredPath config field) ⟨.eq, ignoreCase, false⟩
      values) (compareNode schema (configuredPath config field) ⟨.ne, ignoreCase, false⟩ values)
    rw [compareNode_ne]
    exact Complementary.map_dual _
  | false =>
    simp only [Bool.false_eq_true, if_false, hplain rfl]
    refine Complementary.bind ?_
    intro path hpath
    rw [quantify_direct (hdirect rfl path hpath), quantify_direct (hdirect rfl path hpath)]
    exact complementary_compareField ignoreCase values _ _

/-- On a path that crosses no collection not-equal is the complement of equal.  Here a leaf is one
that is compared: no full-text search and no filter of its own. -/
theorem complementary_ne {leaf : FilterLeaf} (ignoreCase : Bool)
    (hsearch : isSearch leaf (ctx.registry.field? schema.entity leaf.field) = false)
    (hplain : leaf.json = false → ctx.registry.filter? schema.entity
      (configuredPath (ctx.registry.field? schema.entity leaf.field) leaf.field) = none)
    (hdirect : leaf.json = false → ∀ path, FieldPath.resolve ctx.catalog schema
      (configuredPath (ctx.registry.field? schema.entity leaf.field) leaf.field) = .ok path →
        path.isExistential = false) :
    Complementary
      (ctx.compileFilters schema
        [.leaf { leaf with operator := if ignoreCase then "==*" else "==" }])
      (ctx.compileFilters schema
        [.leaf { leaf with operator := if ignoreCase then "!=*" else "!=" }]) := by
  rw [compileFilters_leaf, compileFilters_leaf]
  refine Complementary.lenient ctx ?_
  rw [compileLeaf_eq, compileLeaf_eq]
  refine Complementary.bind ?_
  intro _ _
  refine Complementary.bind ?_
  intro config hpolicy
  obtain ⟨rfl, -⟩ := policy_eq_ok.1 hpolicy
  exact complementary_compileConfigured ignoreCase hsearch hplain hdirect

end Leaves

/-! ### Mentors -/

/-- The age of the mentor is not known, or is 36. -/
def seasoned : FilterLeaf where
  field := "mentor.age"
  values := [.null, .string "36"]

/-- A person whose mentor is seven years old. -/
def mallory : Record where
  identity := 4
  entity := person
  access := .inPlace
  fields := [("mentor", .record 5 person .inPlace [("age", .scalar (.number (.unsigned 7)))])]

/-- A person without a mentor and one whose mentor has no age are found with equal, a person whose
mentor has another age is found with not-equal, and nobody is found with both or with neither. -/
theorem complementary_seasoned :
    ∃ p q, people.compileFilters (people.catalog.schema person)
        [.leaf { seasoned with operator := "==" }] = .ok (some p) ∧
      people.compileFilters (people.catalog.schema person)
        [.leaf { seasoned with operator := "!=" }] = .ok (some q) ∧
      (∀ search r, q.holds search r = !p.holds search r) ∧
      ∀ search, p.holds search grace = true ∧ p.holds search ada = true ∧
        q.holds search mallory = true := by
  have heq : people.compileFilters (people.catalog.schema person)
      [.leaf { seasoned with operator := "==" }] =
        .ok (some (.or [.isNull ["mentor", "age"],
          .compare (.field ["mentor", "age"]) .eq (.number (.unsigned 36)) false])) := rfl
  have hne : people.compileFilters (people.catalog.schema person)
      [.leaf { seasoned with operator := "!=" }] =
        .ok (some (.and [.not (.isNull ["mentor", "age"]),
          .compare (.field ["mentor", "age"]) .ne (.number (.unsigned 36)) false])) := rfl
  have hcomplementary : Complementary
      (people.compileFilters (people.catalog.schema person)
        [.leaf { seasoned with operator := "==" }])
      (people.compileFilters (people.catalog.schema person)
        [.leaf { seasoned with operator := "!=" }]) := by
    refine @complementary_ne people (people.catalog.schema person) seasoned false rfl
      (fun _ => rfl) ?_
    intro _ path hpath
    cases hpath
    rfl
  refine ⟨_, _, heq, hne, ?_, fun search => ⟨rfl, rfl, rfl⟩⟩
  rw [heq, hne] at hcomplementary
  cases hcomplementary with
  | splits holds => exact holds

end Context

end RecordQuery
