import RecordQuery.Proofs.Selection
import RecordQuery.Proofs.Targets

/-!
# Operands

All leaves that have operands compile in the same way, be they searched, compared with a node or
compared with a field.  Each operand is accepted or refused alone, and what the accepted ones ask
for is joined behind quantifiers for the collections on the way (`Context.AsksEach`).  So the
operands are taken as a set (`Context.TakesSet`).  A filter of its own does not look at its operands
at all, which comes to the same.  A length looks at the first one only, and is left out here.
-/

namespace RecordQuery

/-- The leaf with other operands. -/
def FilterLeaf.withValues (leaf : FilterLeaf) (values : List Json) : FilterLeaf :=
  { leaf with values := values }

/-- The junction of two truth values. -/
def Junction.apply : Junction → Bool → Bool → Bool
  | .and, a, b => a && b
  | .or, a, b => a || b

/-- What is joined with itself stays the same. -/
theorem Junction.apply_self (junction : Junction) (a : Bool) : junction.apply a a = a := by
  cases junction with
  | and => exact Bool.and_self a
  | or => exact Bool.or_self a

namespace Predicate

/-- Lists of predicates that are put together are joined to the junction of what each list is joined
to. -/
theorem join_append {junction : Junction} {parts others : List Predicate} {p q : Predicate}
    (hp : join junction parts = some p) (hq : join junction others = some q) :
    ∃ both, join junction (parts ++ others) = some both ∧
      ∀ search r, both.holds search r =
        junction.apply (p.holds search r) (q.holds search r) := by
  cases hboth : join junction (parts ++ others) with
  | none =>
    obtain ⟨rfl, -⟩ := List.append_eq_nil_iff.1 ((join_eq_none junction).1 hboth)
    rw [(join_eq_none junction).2 rfl] at hp
    cases hp
  | some both =>
    refine ⟨both, rfl, ?_⟩
    intro search r
    rw [holds_of_join hboth, holds_of_join hp, holds_of_join hq, List.map_append]
    cases junction with
    | and => exact List.all_append
    | or => exact List.any_append

/-- What quantified predicates say depends on what the inner predicates say. -/
theorem meaning_foldr_any_congr (collections : List Access) {p q : Predicate}
    (h : p.meaning = q.meaning) :
    (collections.foldr any p).meaning = (collections.foldr any q).meaning := by
  funext search r
  unfold meaning
  rw [Bool.eq_iff_iff, holds_foldr_any_iff, holds_foldr_any_iff]
  refine exists_congr fun e => and_congr_right fun _ => ?_
  have hholds : p.holds search e = q.holds search e := congrFun (congrFun h search) e
  rw [hholds]

end Predicate

/-- A path that crosses no collection has no collections. -/
theorem FieldPath.collections_eq_nil {path : FieldPath} (h : path.isExistential = false) :
    path.collections = [] := by
  unfold collections
  generalize ([] : Access) = before
  induction path generalizing before with
  | leaf field => rfl
  | nested field rest ih => exact ih h _
  | each field element rest ih => cases h

namespace Context

variable {ctx : Context} {schema : Schema}

/-! ### Operands one by one -/

/-- Operands that are never refused ask for what they are compared to. -/
theorem asked_ok (f : Json → Option Predicate) (values : List Json) :
    asked (fun raw => .ok (f raw)) values = values.filterMap f := rfl

/-- The compilation asks its operands one by one: it succeeds when each of them is accepted alone,
and joins what they ask for behind quantifiers over collections. -/
def AsksEach (compile : List Json → Except QueryError (Option Predicate)) (junction : Junction)
    (collections : List Access) (single : Json → Except QueryError (Option Predicate)) : Prop :=
  ∀ values p, compile values = .ok p ↔
    (∀ raw ∈ values, ∃ part, single raw = .ok part) ∧
      (Predicate.join junction (asked single values)).map
        (fun q => collections.foldr .any q) = p

/-- The compilation takes its operands as a set.  Where `exact` holds, two lists that ask for
something ask together for the junction of it. -/
structure TakesSet (compile : List Json → Except QueryError (Option Predicate))
    (junction : Junction) (exact : Prop) : Prop where
  /-- Operands that ask for nothing add nothing. -/
  idle : ∀ {vs ws q}, compile vs = .ok none → compile ws = .ok q →
    compile (vs ++ ws) = .ok q ∧ compile (ws ++ vs) = .ok q
  /-- Operands of two lists that ask for something ask for something together. -/
  both : ∀ {vs ws a b}, compile vs = .ok (some a) → compile ws = .ok (some b) →
    ∃ p, compile (vs ++ ws) = .ok (some p) ∧
      (exact → ∀ search r, p.holds search r =
        junction.apply (a.holds search r) (b.holds search r))
  /-- The same operands in another order and number ask for the same. -/
  same : ∀ {vs ws p}, (∀ raw, raw ∈ vs ↔ raw ∈ ws) → compile vs = .ok p →
    ∃ q, compile ws = .ok q ∧ p.map Predicate.meaning = q.map Predicate.meaning

/-- A compilation that does not look at its operands takes them as a set. -/
theorem TakesSet.const {compile : List Json → Except QueryError (Option Predicate)} {p : Predicate}
    (h : ∀ values, compile values = .ok (some p)) (junction : Junction) (exact : Prop) :
    TakesSet compile junction exact where
  idle := by
    intro vs ws q hvs _
    rw [h] at hvs
    cases hvs
  both := by
    intro vs ws a b hvs hws
    rw [h] at hvs hws
    cases hvs
    cases hws
    exact ⟨p, h _, fun _ search r => (junction.apply_self _).symm⟩
  same := by
    intro vs ws q _ hvs
    exact ⟨q, (h ws).trans ((h vs).symm.trans hvs), rfl⟩

/-- A compilation that takes its operands as a set does so where less is asked for. -/
theorem TakesSet.weaken {compile : List Json → Except QueryError (Option Predicate)}
    {junction : Junction} {exact other : Prop} (set : TakesSet compile junction exact)
    (h : other → exact) : TakesSet compile junction other where
  idle := set.idle
  both := by
    intro vs ws a b hvs hws
    obtain ⟨p, hp, hholds⟩ := set.both hvs hws
    exact ⟨p, hp, fun hother => hholds (h hother)⟩
  same := set.same

namespace AsksEach

variable {compile : List Json → Except QueryError (Option Predicate)} {junction : Junction}
  {collections : List Access} {single : Json → Except QueryError (Option Predicate)}
  {vs ws : List Json} {p q : Option Predicate}

/-- Two compilations with the same outcomes ask alike. -/
theorem of_iff {inner : List Json → Except QueryError (Option Predicate)}
    (each : AsksEach inner junction collections single)
    (h : ∀ values p, compile values = .ok p ↔ inner values = .ok p) :
    AsksEach compile junction collections single :=
  fun values p => (h values p).trans (each values p)

/-- Operands of two lists that are accepted are accepted together. -/
theorem append (each : AsksEach compile junction collections single)
    (hvs : compile vs = .ok p) (hws : compile ws = .ok q) :
    compile (vs ++ ws) = .ok ((Predicate.join junction (asked single vs ++ asked single ws)).map
      (fun inner => collections.foldr .any inner)) := by
  obtain ⟨hleft, -⟩ := (each vs p).1 hvs
  obtain ⟨hright, -⟩ := (each ws q).1 hws
  refine (each _ _).2 ⟨?_, by rw [asked, List.filterMap_append]; rfl⟩
  intro raw hraw
  rcases List.mem_append.1 hraw with hraw | hraw
  · exact hleft raw hraw
  · exact hright raw hraw

/-- Operands that ask for nothing add nothing. -/
theorem append_none (each : AsksEach compile junction collections single)
    (hvs : compile vs = .ok none) (hws : compile ws = .ok q) :
    compile (vs ++ ws) = .ok q ∧ compile (ws ++ vs) = .ok q := by
  have hnone := ((each vs none).1 hvs).2
  rw [Option.map_eq_none_iff, Predicate.join_eq_none] at hnone
  have hq := ((each ws q).1 hws).2
  constructor
  · rw [each.append hvs hws, hnone, List.nil_append, hq]
  · rw [each.append hws hvs, hnone, List.append_nil, hq]

/-- Operands of two lists that both ask for something ask for the junction of it; across collections
only when it is a disjunction. -/
theorem append_some (each : AsksEach compile junction collections single) {a b : Predicate}
    (hvs : compile vs = .ok (some a)) (hws : compile ws = .ok (some b)) :
    ∃ both, compile (vs ++ ws) = .ok (some both) ∧
      (junction = .or ∨ collections = [] → ∀ search r, both.holds search r =
        junction.apply (a.holds search r) (b.holds search r)) := by
  obtain ⟨left, hleft, rfl⟩ := Option.map_eq_some_iff.1 ((each vs _).1 hvs).2
  obtain ⟨right, hright, rfl⟩ := Option.map_eq_some_iff.1 ((each ws _).1 hws).2
  obtain ⟨both, hboth, hholds⟩ := Predicate.join_append hleft hright
  refine ⟨collections.foldr .any both, ?_, ?_⟩
  · rw [each.append hvs hws, hboth]
    rfl
  · rintro (rfl | rfl) search r
    · -- An element for one of two predicates is one for the first or one for the second.
      simp only [Junction.apply] at hholds ⊢
      rw [Bool.eq_iff_iff, Bool.or_eq_true, Predicate.holds_foldr_any_iff,
        Predicate.holds_foldr_any_iff, Predicate.holds_foldr_any_iff, ← exists_or]
      refine exists_congr fun e => ?_
      rw [hholds, Bool.or_eq_true, and_or_left]
    · exact hholds search r

/-- Operands in another order and number ask for the same. -/
theorem congr (each : AsksEach compile junction collections single)
    (h : ∀ raw, raw ∈ vs ↔ raw ∈ ws) (hvs : compile vs = .ok p) :
    ∃ q, compile ws = .ok q ∧ p.map Predicate.meaning = q.map Predicate.meaning := by
  obtain ⟨haccepted, rfl⟩ := (each vs p).1 hvs
  refine ⟨_, (each ws _).2 ⟨fun raw hraw => haccepted raw ((h raw).2 hraw), rfl⟩, ?_⟩
  have hasked : ∀ m, m ∈ (asked single vs).map Predicate.meaning ↔
      m ∈ (asked single ws).map Predicate.meaning := by
    intro m
    simp only [List.mem_map, mem_asked, h]
  have hjoin := Predicate.meaning_join_congr junction hasked
  cases hleft : Predicate.join junction (asked single vs) with
  | none =>
    rw [hleft, eq_comm, Option.map_none, Option.map_eq_none_iff] at hjoin
    rw [hjoin]
  | some inner =>
    rw [hleft, eq_comm, Option.map_some] at hjoin
    obtain ⟨inner', hright, hmeaning⟩ := Option.map_eq_some_iff.1 hjoin
    rw [hright]
    exact congrArg some (Predicate.meaning_foldr_any_congr collections hmeaning.symm)

/-- What asks its operands one by one takes them as a set. -/
theorem takesSet (each : AsksEach compile junction collections single) :
    TakesSet compile junction (junction = .or ∨ collections = []) where
  idle := each.append_none
  both := each.append_some
  same := each.congr

/-- Behind quantifiers the operands are asked one by one as before. -/
theorem quantify {build : List Json → Access → Field → Except QueryError (Option Predicate)}
    {path : FieldPath} (hcross : ctx.crossable path = true)
    (each : AsksEach (fun values => build values path.remaining path.last) junction [] single) :
    AsksEach (fun values => ctx.quantify (build values) [] path) junction path.collections
      single := by
  intro values p
  have hinner := each values
  simp only [List.foldr_nil, Option.map_id'] at hinner
  have hquantify : ctx.quantify (build values) [] path = .ok p ↔
      ∃ q, build values path.remaining path.last = .ok q ∧
        q.map (fun inner => path.collections.foldr .any inner) = p :=
    quantify_eq_ok.trans (and_iff_right hcross)
  rw [hquantify]
  simp only [hinner]
  constructor
  · rintro ⟨q, ⟨haccepted, rfl⟩, rfl⟩
    exact ⟨haccepted, rfl⟩
  · rintro ⟨haccepted, rfl⟩
    exact ⟨_, ⟨haccepted, rfl⟩, rfl⟩

end AsksEach

/-! ### Searches and comparisons -/

/-- The search for one operand; an operand without a text asks for nothing. -/
def searchOperand (path language : String) (access : Access) (field : Field) (raw : Json) :
    Except QueryError (Option Predicate) :=
  match raw.text? with
  | none => .ok none
  | some term =>
    if isTextual field.kind then .ok (some (.search access language term))
    else .error (.notText path)

/-- A full-text search asks its operands one by one. -/
theorem asksEach_searchAt (path language : String) (access : Access) (field : Field) :
    AsksEach (fun values => searchAt path language (values.filterMap Json.text?) access field) .or
      [] (searchOperand path language access field) := by
  intro values p
  simp only [List.foldr_nil, Option.map_id']
  cases htextual : isTextual field.kind with
  | true =>
    have hsingle : searchOperand path language access field =
        fun raw => .ok (raw.text?.map fun term => .search access language term) := by
      funext raw
      unfold searchOperand
      rw [htextual]
      cases raw.text? <;> rfl
    have hsearch : searchAt path language (values.filterMap Json.text?) access field =
        .ok (Predicate.anyOf ((values.filterMap Json.text?).map (.search access language))) := by
      unfold searchAt
      rw [htextual]
      cases values.filterMap Json.text? <;> rfl
    rw [hsingle, asked_ok, hsearch, List.map_filterMap]
    simp [Predicate.join]
  | false =>
    -- A field without text refuses every operand that has one.
    have hsingle : ∀ raw, (∃ part, searchOperand path language access field raw = .ok part) ↔
        raw.text? = none := by
      intro raw
      unfold searchOperand
      rw [htextual]
      cases raw.text? <;> simp
    have hasked : asked (searchOperand path language access field) values = [] := by
      rw [List.eq_nil_iff_forall_not_mem]
      intro part hpart
      obtain ⟨raw, -, hraw⟩ := mem_asked.1 hpart
      unfold searchOperand at hraw
      rw [htextual] at hraw
      split at hraw <;> cases hraw
    simp only [hsingle, hasked, Predicate.join, Predicate.anyOf]
    unfold searchAt
    rw [htextual, ← List.filterMap_eq_nil_iff]
    cases values.filterMap Json.text? <;> simp

/-- A node is compared with its operands one by one; those without a text ask for nothing. -/
theorem asksEach_compareNode {path : String} {operator : Operator}
    (hlength : operator.length = false) {target : JsonPath}
    (htarget : JsonPath.resolve schema path = .ok target) :
    AsksEach (compareNode schema path operator) operator.junction []
      fun raw => .ok (raw.text?.map fun s =>
        .compare (.json target) operator.base (.string s) operator.ignoreCase) := by
  intro values p
  rw [compareNode_eq_ok, and_iff_right hlength, asked_ok]
  simp [htarget, List.map_filterMap]

/-- A field that supports the operator is compared with its operands one by one. -/
theorem asksEach_compareField {operator : Operator} (hlength : operator.length = false)
    {access : Access} {field : Field} (hsupports : supports operator field.kind = true) :
    AsksEach (fun values => compareField operator values access field) operator.junction []
      (compareValue operator access field) := by
  intro values p
  simp only [List.foldr_nil, Option.map_id']
  rw [compareField_eq_ok hlength, and_iff_right hsupports]

/-! ### Leaves -/

variable (ctx schema) in
/-- The leaf asks for all of its operands: it is compared by not-equal, with or without regard to
case.  A full-text search never does, whatever its operator. -/
def asksForAll (leaf : FilterLeaf) : Bool :=
  !isSearch leaf (ctx.registry.field? schema.entity leaf.field) &&
    (Operator.ofText? leaf.operator).any fun operator => operator.base == .ne

variable (ctx schema) in
/-- How the operands of the leaf are joined. -/
def junctionOf (leaf : FilterLeaf) : Junction :=
  if ctx.asksForAll schema leaf then .and else .or

/-- A comparison is joined as its operator says. -/
theorem junctionOf_eq {leaf : FilterLeaf}
    (hsearch : isSearch leaf (ctx.registry.field? schema.entity leaf.field) = false)
    {operator : Operator} (hoperator : Operator.ofText? leaf.operator = some operator) :
    ctx.junctionOf schema leaf = operator.junction := by
  unfold junctionOf asksForAll Operator.junction
  rw [hsearch, hoperator]
  rfl

section Leaves

variable {leaf : FilterLeaf} {vs : List Json} {p : Option Predicate}

/-- A searched leaf that compiles takes its operands as a set. -/
theorem takesSet_search
    (hsearch : isSearch leaf (ctx.registry.field? schema.entity leaf.field) = true)
    (h : ctx.compileLeaf schema (leaf.withValues vs) = .ok p) :
    TakesSet (fun values => ctx.compileLeaf schema (leaf.withValues values)) .or True := by
  obtain ⟨hcheck, hopen, h⟩ := compileLeaf_eq_ok.1 h
  have hconfigured : ∀ values, ctx.compileConfigured schema (leaf.withValues values)
      (ctx.registry.field? schema.entity leaf.field) =
        FieldPath.resolve ctx.catalog schema (ctx.pathOf schema leaf) >>=
          ctx.quantify (searchAt (ctx.pathOf schema leaf)
            (ctx.searchLanguage (ctx.registry.field? schema.entity leaf.field))
              (values.filterMap Json.text?)) [] := fun _ => if_pos hsearch
  obtain ⟨path, hpath, h⟩ := Outcome.bind_eq_ok.1 ((hconfigured vs).symm.trans h)
  have each := (asksEach_searchAt (ctx.pathOf schema leaf)
    (ctx.searchLanguage (ctx.registry.field? schema.entity leaf.field)) path.remaining
      path.last).quantify (quantify_eq_ok.1 h).1
  refine (each.of_iff ?_).takesSet.weaken fun _ => .inl rfl
  intro values q
  refine compileLeaf_eq_ok.trans ((and_iff_right hcheck).trans ((and_iff_right hopen).trans ?_))
  exact Eq.congr_left ((hconfigured values).trans (by rw [hpath]; rfl))

/-- A leaf that stands for a filter of its own takes its operands as a set. -/
theorem takesSet_hook
    (hsearch : isSearch leaf (ctx.registry.field? schema.entity leaf.field) = false)
    (hjson : leaf.json = false) {hook : FilterHook}
    (hhook : ctx.registry.filter? schema.entity (ctx.pathOf schema leaf) = some hook)
    (h : ctx.compileLeaf schema (leaf.withValues vs) = .ok p) (junction : Junction) (exact : Prop) :
    TakesSet (fun values => ctx.compileLeaf schema (leaf.withValues values)) junction exact := by
  have hleaf : ∀ values q, ctx.compileLeaf schema (leaf.withValues values) = .ok q ↔ _ :=
    fun values q => @compileLeaf_hook ctx schema (leaf.withValues values) q hsearch hjson hook hhook
  obtain ⟨hopen, hasks, -⟩ := (hleaf vs p).1 h
  exact .const (fun values => (hleaf values _).2 ⟨hopen, hasks, rfl⟩) junction exact

variable {operator : Operator}

/-- A node takes its operands as a set. -/
theorem takesSet_node (hoperator : Operator.ofText? leaf.operator = some operator)
    (hlength : operator.length = false) (comparison : ctx.IsComparison schema leaf)
    (hjson : leaf.json = true) (h : ctx.compileLeaf schema (leaf.withValues vs) = .ok p) :
    TakesSet (fun values => ctx.compileLeaf schema (leaf.withValues values)) operator.junction
      True := by
  have hother : ∀ values, ctx.IsComparison schema (leaf.withValues values) :=
    fun _ => ⟨comparison.search, comparison.plain⟩
  obtain ⟨hcheck, hopen, _, hparsed, h⟩ := (compileLeaf_node (hother vs) hjson).1 h
  cases hoperator.symm.trans hparsed
  obtain ⟨-, target, htarget, -⟩ := compareNode_eq_ok.1 h
  refine ((asksEach_compareNode hlength htarget).of_iff ?_).takesSet.weaken fun _ => .inr rfl
  intro values q
  rw [compileLeaf_node (hother values) hjson]
  constructor
  · rintro ⟨-, -, _, hparsed, h⟩
    cases hoperator.symm.trans hparsed
    exact h
  · intro h
    exact ⟨hcheck, hopen, operator, hoperator, h⟩

/-- A field takes its operands as a set.  It is exact unless all of them are asked for across a
collection. -/
theorem takesSet_field (hoperator : Operator.ofText? leaf.operator = some operator)
    (hlength : operator.length = false) (comparison : ctx.IsComparison schema leaf)
    (hjson : leaf.json = false) (h : ctx.compileLeaf schema (leaf.withValues vs) = .ok p) :
    TakesSet (fun values => ctx.compileLeaf schema (leaf.withValues values)) operator.junction
      (operator.junction = .or ∨ ctx.IsDirect schema leaf) := by
  have hfield : ∀ values q, ctx.compileLeaf schema (leaf.withValues values) = .ok q ↔ _ :=
    fun values q => @compileLeaf_field ctx schema (leaf.withValues values) q hjson
      comparison.search (comparison.plain hjson)
  obtain ⟨hopen, _, path, hparsed, hpath, h⟩ := (hfield vs p).1 h
  cases hoperator.symm.trans hparsed
  obtain ⟨hcross, q, hq, -⟩ := quantify_eq_ok.1 h
  have hsupports := ((compareField_eq_ok hlength).1 hq).1
  have each := (asksEach_compareField hlength hsupports).quantify hcross
  refine (each.of_iff ?_).takesSet.weaken ?_
  · intro values q
    rw [hfield values q]
    constructor
    · rintro ⟨-, _, _, hparsed, hpath', h⟩
      cases hoperator.symm.trans hparsed
      cases hpath.symm.trans hpath'
      exact h
    · intro h
      exact ⟨hopen, operator, path, hoperator, hpath, h⟩
  · exact Or.imp_right fun direct => FieldPath.collections_eq_nil (direct hjson path hpath)

/-- A compared leaf that compiles, and asks for no length, takes its operands as a set.  It is exact
unless it asks for all of its operands across a collection. -/
theorem takesSet_comparison (hoperator : Operator.ofText? leaf.operator = some operator)
    (hlength : operator.length = false) (comparison : ctx.IsComparison schema leaf)
    (h : ctx.compileLeaf schema (leaf.withValues vs) = .ok p) :
    TakesSet (fun values => ctx.compileLeaf schema (leaf.withValues values)) operator.junction
      (operator.junction = .or ∨ ctx.IsDirect schema leaf) := by
  cases hjson : leaf.json with
  | true => exact (takesSet_node hoperator hlength comparison hjson h).weaken fun _ => trivial
  | false => exact takesSet_field hoperator hlength comparison hjson h

end Leaves

/-- A leaf that compiles, and asks for no length, takes its operands as a set.  It is exact unless
it asks for all of its operands across a collection. -/
theorem takesSet_compileLeaf {leaf : FilterLeaf}
    (hlength : ∀ operator, Operator.ofText? leaf.operator = some operator →
      operator.length = false) {vs : List Json} {p : Option Predicate}
    (h : ctx.compileLeaf schema (leaf.withValues vs) = .ok p) :
    TakesSet (fun values => ctx.compileLeaf schema (leaf.withValues values))
      (ctx.junctionOf schema leaf)
      (ctx.asksForAll schema leaf = false ∨ ctx.IsDirect schema leaf) := by
  cases hsearch : isSearch leaf (ctx.registry.field? schema.entity leaf.field) with
  | true =>
    have hunion : ctx.junctionOf schema leaf = .or := by
      unfold junctionOf asksForAll
      rw [hsearch]
      rfl
    rw [hunion]
    exact (takesSet_search hsearch h).weaken fun _ => trivial
  | false =>
    by_cases hhook : leaf.json = false ∧
        (ctx.registry.filter? schema.entity (ctx.pathOf schema leaf)).isSome = true
    · obtain ⟨hook, hfilter⟩ := Option.isSome_iff_exists.1 hhook.2
      exact takesSet_hook hsearch hhook.1 hfilter h _ _
    · have comparison : ctx.IsComparison schema leaf := by
        refine ⟨hsearch, fun hjson => ?_⟩
        simpa [hjson] using hhook
      have hother : ctx.IsComparison schema (leaf.withValues vs) :=
        ⟨comparison.search, comparison.plain⟩
      obtain ⟨operator, (hoperator : Operator.ofText? leaf.operator = some operator)⟩ :=
        exists_operator hother h
      rw [junctionOf_eq hsearch hoperator]
      refine (takesSet_comparison hoperator (hlength operator hoperator) comparison h).weaken ?_
      refine Or.imp_left fun hall => ?_
      rw [← junctionOf_eq hsearch hoperator]
      unfold junctionOf
      rw [hall]
      rfl

end Context

end RecordQuery
