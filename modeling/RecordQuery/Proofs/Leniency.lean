import RecordQuery.Proofs.Errors

/-!
# Lenient compilation

A lenient compilation is the strict compilation of what survives (`Lenience`): it drops exactly the
leaves that fail when they are compiled alone, wherever they stand, and fails itself only for a
malformed JSON path.

Both modes are computed from the same two things, the failures of the leaves in document order and
what the leaves that succeed contribute (`compileFilters_inMode`, `compileSorts_inMode`).  The mode
decides only which failures are reported.
-/

namespace RecordQuery

/-- The error is that of a malformed JSON path. -/
def QueryError.isMalformedPath : QueryError → Bool
  | .invalidJsonPath _ => true
  | _ => false

/-- Among the errors of compilation only malformed JSON paths are never skipped. -/
theorem QueryError.not_isSkippable {e : QueryError} (h : e.isCompilation = true) :
    (!e.isSkippable) = e.isMalformedPath := by
  cases e with
  | invalidQuery cause => cases h
  | invalidOptions => cases h
  | _ => rfl

/-! ### Leaves of a forest -/

namespace FilterDescriptor

mutual

/-- The leaves of a filter in document order. -/
def leaves : FilterDescriptor → List FilterLeaf
  | .leaf l => [l]
  | .group children => leavesAll children

/-- The leaves of several filters in document order. -/
def leavesAll : List FilterDescriptor → List FilterLeaf
  | [] => []
  | d :: ds => d.leaves ++ leavesAll ds

end

mutual

/-- What remains of a filter without the leaves that are not kept.  A group remains, even if it is
emptied. -/
def prune (keep : FilterLeaf → Bool) : FilterDescriptor → List FilterDescriptor
  | .leaf l => if keep l then [.leaf l] else []
  | .group children => [.group (pruneAll keep children)]

/-- What remains of several filters without the leaves that are not kept. -/
def pruneAll (keep : FilterLeaf → Bool) : List FilterDescriptor → List FilterDescriptor
  | [] => []
  | d :: ds => d.prune keep ++ pruneAll keep ds

end

theorem leavesAll_append (ds others : List FilterDescriptor) :
    leavesAll (ds ++ others) = leavesAll ds ++ leavesAll others := by
  induction ds with
  | nil => rfl
  | cons d ds ih => rw [List.cons_append, leavesAll, leavesAll, ih, List.append_assoc]

mutual

/-- Pruning a filter leaves the kept leaves in their order. -/
theorem leavesAll_prune (keep : FilterLeaf → Bool) (d : FilterDescriptor) :
    leavesAll (d.prune keep) = d.leaves.filter keep := by
  cases d with
  | leaf l =>
    rw [prune, leaves]
    cases hkeep : keep l with
    | true => simp [leavesAll, leaves, hkeep]
    | false => simp [leavesAll, hkeep]
  | group children =>
    rw [prune, leaves, leavesAll, leavesAll, List.append_nil, leaves]
    exact leavesAll_pruneAll keep children

/-- Pruning leaves the kept leaves in their order. -/
theorem leavesAll_pruneAll (keep : FilterLeaf → Bool) (ds : List FilterDescriptor) :
    leavesAll (pruneAll keep ds) = (leavesAll ds).filter keep := by
  cases ds with
  | nil => rfl
  | cons d ds =>
    rw [pruneAll, leavesAll_append, leavesAll, List.filter_append, leavesAll_prune keep d,
      leavesAll_pruneAll keep ds]

end

end FilterDescriptor

/-! ### Modes -/

namespace Context

variable (ctx : Context) (schema : Schema)

/-- The context in strict or in lenient mode. -/
def inMode (strict : Bool) : Context :=
  { ctx with options := { ctx.options with throwOnInvalidFields := strict } }

/-- The mode does not matter for quantifiers. -/
theorem quantify_inMode (strict : Bool)
    (build : Access → Field → Except QueryError (Option Predicate)) (before : Access)
    (path : FieldPath) :
    (ctx.inMode strict).quantify build before path = ctx.quantify build before path := by
  induction path generalizing before with
  | leaf field => rfl
  | nested field rest ih => exact ih (before ++ [field.name])
  | each field element rest ih =>
    rw [quantify, quantify, ih []]
    rfl

/-- The mode does not matter for a leaf. -/
theorem compileLeaf_inMode (strict : Bool) (leaf : FilterLeaf) :
    (ctx.inMode strict).compileLeaf schema leaf = ctx.compileLeaf schema leaf := by
  have hquantify : (ctx.inMode strict).quantify = ctx.quantify := by
    funext build before path
    exact quantify_inMode ctx strict build before path
  have hconfigured : (ctx.inMode strict).compileConfigured schema leaf =
      ctx.compileConfigured schema leaf := by
    funext config
    unfold compileConfigured
    rw [hquantify]
    rfl
  rw [compileLeaf_eq, compileLeaf_eq, hconfigured]
  rfl

/-- The mode does not matter for a sort key. -/
theorem compileKey_inMode (strict : Bool) (sort : SortDescriptor) :
    (ctx.inMode strict).compileKey schema sort = ctx.compileKey schema sort := rfl

/-! ### Reported failures -/

/-- The failures that a mode reports: all in strict mode, and in lenient mode those that no
descriptor is skipped for. -/
def reported (strict : Bool) (e : QueryError) : Bool := strict || !e.isSkippable

/-- The first failure that a mode reports among the given ones. -/
def firstReported {ι : Type} (strict : Bool) (failure : ι → Option QueryError) (items : List ι) :
    Option QueryError :=
  items.findSome? fun item => (failure item).filter (reported strict)

variable {ctx schema}

/-- A failure that is found is one that is reported. -/
theorem reported_of_firstReported {ι : Type} {strict : Bool} {failure : ι → Option QueryError}
    {items : List ι} {e : QueryError} (h : firstReported strict failure items = some e) :
    reported strict e = true := by
  obtain ⟨item, -, hitem⟩ := List.exists_of_findSome?_eq_some h
  exact (Option.filter_eq_some_iff.1 hitem).2

theorem firstReported_append {ι : Type} (strict : Bool) (failure : ι → Option QueryError)
    (items others : List ι) :
    firstReported strict failure (items ++ others) =
      (firstReported strict failure items).or (firstReported strict failure others) := by
  unfold firstReported
  exact List.findSome?_append

/-- In strict mode every failure is reported. -/
theorem firstReported_true {ι : Type} (failure : ι → Option QueryError) (items : List ι) :
    firstReported true failure items = items.findSome? failure := by
  have hfilter : (fun item => (failure item).filter (reported true)) = failure := by
    funext item
    cases failure item <;> rfl
  rw [firstReported, hfilter]

/-- In lenient mode only malformed JSON paths are reported among the errors of compilation. -/
theorem firstReported_false {ι : Type} {failure : ι → Option QueryError}
    (hfailure : ∀ item e, failure item = some e → e.isCompilation = true) (items : List ι) :
    firstReported false failure items =
      items.findSome? fun item => (failure item).filter QueryError.isMalformedPath := by
  have hfilter : (fun item => (failure item).filter (reported false)) =
      fun item => (failure item).filter QueryError.isMalformedPath := by
    funext item
    cases hitem : failure item with
    | none => rfl
    | some e =>
      rw [Option.filter_some, Option.filter_some, reported, Bool.false_or,
        QueryError.not_isSkippable (hfailure item e hitem)]
  rw [firstReported, hfilter]

/-- A guarded computation fails with what is reported, and otherwise gives what the computation
gives, if anything. -/
theorem lenient_inMode (strict : Bool) {α : Type} (result : Except QueryError (Option α)) :
    (ctx.inMode strict).lenient result =
      ((Outcome.failure? result).filter (reported strict)).elim (.ok result.toOption.join)
        .error := by
  cases result with
  | ok r => rfl
  | error e =>
    cases strict <;> cases hskip : e.isSkippable <;>
      simp [lenient, inMode, reported, Outcome.failure?, Option.filter_some,
        Except.toOption, hskip]

/-! ### Contributions -/

/-- What a leaf asks for; nothing when it fails. -/
def leafContribution (ctx : Context) (schema : Schema) (leaf : FilterLeaf) : Option Predicate :=
  (ctx.compileLeaf schema leaf).toOption.join

mutual

/-- What a filter asks for when the leaves that fail ask for nothing. -/
def contribution (ctx : Context) (schema : Schema) : FilterDescriptor → Option Predicate
  | .leaf leaf => ctx.leafContribution schema leaf
  | .group children => Predicate.anyOf (contributions ctx schema children)

/-- What several filters ask for when the leaves that fail ask for nothing. -/
def contributions (ctx : Context) (schema : Schema) : List FilterDescriptor → List Predicate
  | [] => []
  | d :: ds => (contribution ctx schema d).toList ++ contributions ctx schema ds

end

/-- The failure of a leaf. -/
def leafFailure? (ctx : Context) (schema : Schema) (leaf : FilterLeaf) : Option QueryError :=
  Outcome.failure? (ctx.compileLeaf schema leaf)

mutual

/-- A filter fails with the first failure among its leaves that the mode reports, and otherwise
gives what its leaves contribute. -/
theorem lenient_compileFilter (strict : Bool) (d : FilterDescriptor) :
    (ctx.inMode strict).lenient ((ctx.inMode strict).compileFilter schema d) =
      (firstReported strict (ctx.leafFailure? schema) d.leaves).elim
        (.ok (ctx.contribution schema d)) .error := by
  cases d with
  | leaf leaf =>
    rw [compileFilter, compileLeaf_inMode, lenient_inMode]
    simp only [firstReported, FilterDescriptor.leaves, List.findSome?_singleton]
    rfl
  | group children =>
    rw [compileFilter, compileParts_inMode strict children, FilterDescriptor.leaves]
    cases hfirst : firstReported strict (ctx.leafFailure? schema)
        (FilterDescriptor.leavesAll children) with
    | none => rfl
    | some e =>
      -- The failure passes through the guard of the group, because it is reported.
      have hreported := reported_of_firstReported hfirst
      rw [lenient_inMode]
      simp only [Option.elim_some, Except.map, Outcome.failure?, Option.filter_some, hreported,
        if_true]

/-- Filters fail with the first failure among their leaves that the mode reports, and otherwise give
what their leaves contribute. -/
theorem compileParts_inMode (strict : Bool) (ds : List FilterDescriptor) :
    (ctx.inMode strict).compileParts schema ds =
      (firstReported strict (ctx.leafFailure? schema) (FilterDescriptor.leavesAll ds)).elim
        (.ok (ctx.contributions schema ds)) .error := by
  cases ds with
  | nil => rfl
  | cons d ds =>
    rw [compileParts, lenient_compileFilter strict d, compileParts_inMode strict ds,
      FilterDescriptor.leavesAll, firstReported_append]
    cases firstReported strict (ctx.leafFailure? schema) d.leaves with
    | some e => rfl
    | none =>
      cases firstReported strict (ctx.leafFailure? schema) (FilterDescriptor.leavesAll ds) with
      | some e => rfl
      | none => rfl

end

/-- What filters compile to in a mode. -/
theorem compileFilters_inMode (strict : Bool) (ds : List FilterDescriptor) :
    (ctx.inMode strict).compileFilters schema ds =
      (firstReported strict (ctx.leafFailure? schema) (FilterDescriptor.leavesAll ds)).elim
        (.ok (Predicate.allOf (ctx.contributions schema ds))) .error := by
  unfold compileFilters
  rw [compileParts_inMode]
  cases firstReported strict (ctx.leafFailure? schema) (FilterDescriptor.leavesAll ds) with
  | some e => rfl
  | none => rfl

/-! ### Pruned forests -/

/-- The leaf compiles when it is compiled alone. -/
def compiles (ctx : Context) (schema : Schema) (leaf : FilterLeaf) : Bool :=
  (ctx.leafFailure? schema leaf).isNone

/-- A leaf that fails contributes nothing. -/
theorem leafContribution_of_not_compiles {leaf : FilterLeaf}
    (h : ctx.compiles schema leaf = false) : ctx.leafContribution schema leaf = none := by
  unfold compiles leafFailure? at h
  unfold leafContribution
  cases hcompile : ctx.compileLeaf schema leaf with
  | error e => rfl
  | ok r =>
    rw [hcompile] at h
    cases h

theorem contributions_append (ds others : List FilterDescriptor) :
    ctx.contributions schema (ds ++ others) =
      ctx.contributions schema ds ++ ctx.contributions schema others := by
  induction ds with
  | nil => rfl
  | cons d ds ih =>
    rw [List.cons_append, contributions, contributions, ih, List.append_assoc]

mutual

/-- A filter without the leaves that fail contributes the same. -/
theorem contributions_prune (d : FilterDescriptor) :
    ctx.contributions schema (d.prune (ctx.compiles schema)) =
      (ctx.contribution schema d).toList := by
  cases d with
  | leaf leaf =>
    rw [FilterDescriptor.prune, contribution]
    cases hcompiles : ctx.compiles schema leaf with
    | true => simp [contributions, contribution]
    | false =>
      rw [leafContribution_of_not_compiles hcompiles]
      rfl
  | group children =>
    rw [FilterDescriptor.prune, contributions, contributions, contribution, contribution,
      contributions_pruneAll children, List.append_nil]

/-- Filters without the leaves that fail contribute the same. -/
theorem contributions_pruneAll (ds : List FilterDescriptor) :
    ctx.contributions schema (FilterDescriptor.pruneAll (ctx.compiles schema) ds) =
      ctx.contributions schema ds := by
  cases ds with
  | nil => rfl
  | cons d ds =>
    rw [FilterDescriptor.pruneAll, contributions_append, contributions_prune d,
      contributions_pruneAll ds, contributions]

end

/-! ### Sort keys -/

/-- The failure of a sort key. -/
def keyFailure? (ctx : Context) (schema : Schema) (sort : SortDescriptor) : Option QueryError :=
  Outcome.failure? (ctx.compileKey schema sort)

/-- The term of a sort key, unless it fails. -/
def keyTerm? (ctx : Context) (schema : Schema) (sort : SortDescriptor) : Option SortTerm :=
  (ctx.compileKey schema sort).toOption.map fun key => ⟨key, sort.direction⟩

/-- What sort keys compile to in a mode: the first failure that the mode reports, and otherwise the
terms of those that do not fail. -/
theorem compileSorts_inMode (strict : Bool) (sorts : List SortDescriptor) :
    (ctx.inMode strict).compileSorts schema sorts =
      (firstReported strict (ctx.keyFailure? schema) sorts).elim
        (.ok (sorts.filterMap (ctx.keyTerm? schema))) .error := by
  induction sorts with
  | nil => rfl
  | cons sort sorts ih =>
    have hfailure : Outcome.failure? ((ctx.compileKey schema sort).map fun key =>
        some (⟨key, sort.direction⟩ : SortTerm)) = ctx.keyFailure? schema sort :=
      Outcome.failure?_map _ _
    have hterm : (((ctx.compileKey schema sort).map fun key =>
        some (⟨key, sort.direction⟩ : SortTerm)).toOption).join = ctx.keyTerm? schema sort := by
      unfold keyTerm?
      cases ctx.compileKey schema sort <;> rfl
    rw [compileSorts, compileKey_inMode, lenient_inMode, ih, hfailure, hterm, List.filterMap_cons]
    unfold firstReported
    rw [List.findSome?_cons]
    cases (ctx.keyFailure? schema sort).filter (reported strict) with
    | some e => rfl
    | none =>
      cases sorts.findSome? fun item => (ctx.keyFailure? schema item).filter (reported strict) with
      | some e => rfl
      | none => cases ctx.keyTerm? schema sort <;> rfl

end Context

/-! ### Strict and lenient compilation -/

/-- A lenient compilation is the strict compilation of what survives.  `leaves` lists the parts that
can fail in document order, `alone` compiles one of them in strict mode, and `prune` removes those
that are not kept. -/
structure Lenience {δ ι ρ : Type} (strict lenient : List δ → Except QueryError ρ)
    (leaves : List δ → List ι) (alone : ι → Except QueryError ρ)
    (prune : (ι → Bool) → List δ → List δ) : Prop where
  /-- A strict compilation fails with the error of the first part that fails. -/
  strict_error : ∀ ds e, strict ds = .error e ↔
    (leaves ds).findSome? (fun l => Outcome.failure? (alone l)) = some e
  /-- A lenient compilation fails with the error of the first malformed JSON path. -/
  lenient_error : ∀ ds e, lenient ds = .error e ↔
    (leaves ds).findSome?
      (fun l => (Outcome.failure? (alone l)).filter QueryError.isMalformedPath) = some e
  /-- Otherwise it gives what a strict compilation gives for the parts that do not fail. -/
  lenient_eq : ∀ ds, (∀ l ∈ leaves ds, ∀ path, alone l ≠ .error (.invalidJsonPath path)) →
    (∃ r, lenient ds = .ok r) ∧
      lenient ds = strict (prune (fun l => (Outcome.failure? (alone l)).isNone) ds)
  /-- What a strict compilation gives, a lenient one gives as well. -/
  lenient_ok : ∀ ds r, strict ds = .ok r → lenient ds = .ok r

/-- A compilation is lenient in this sense when each mode gives the first failure that it reports,
and otherwise a result to which the parts that fail contribute nothing. -/
theorem Lenience.of_firstReported {δ ι ρ : Type} {strict lenient : List δ → Except QueryError ρ}
    {leaves : List δ → List ι} {alone : ι → Except QueryError ρ}
    {prune : (ι → Bool) → List δ → List δ} {failure : ι → Option QueryError} {result : List δ → ρ}
    (halone : ∀ l, Outcome.failure? (alone l) = failure l)
    (hcompilation : ∀ l e, failure l = some e → e.isCompilation = true)
    (hstrict : ∀ ds, strict ds =
      (Context.firstReported true failure (leaves ds)).elim (.ok (result ds)) .error)
    (hlenient : ∀ ds, lenient ds =
      (Context.firstReported false failure (leaves ds)).elim (.ok (result ds)) .error)
    (hleaves : ∀ keep ds, leaves (prune keep ds) = (leaves ds).filter keep)
    (hresult : ∀ ds, result (prune (fun l => (failure l).isNone) ds) = result ds) :
    Lenience strict lenient leaves alone prune := by
  simp only [Context.firstReported_true] at hstrict
  simp only [Context.firstReported_false hcompilation] at hlenient
  constructor
  case strict_error =>
    intro ds e
    simp only [halone]
    rw [hstrict]
    cases (leaves ds).findSome? failure <;> simp
  case lenient_error =>
    intro ds e
    simp only [halone]
    rw [hlenient]
    cases (leaves ds).findSome? fun l => (failure l).filter QueryError.isMalformedPath <;> simp
  case lenient_eq =>
    intro ds hwell
    simp only [halone]
    have hnone : (leaves ds).findSome?
        (fun l => (failure l).filter QueryError.isMalformedPath) = none := by
      rw [List.findSome?_eq_none_iff]
      intro l hl
      refine Option.filter_eq_none_iff.2 ?_
      intro e he
      cases e with
      | invalidJsonPath path =>
        rw [← halone, Outcome.failure?_eq_some] at he
        exact absurd he (hwell l hl path)
      | _ => exact Bool.false_ne_true
    have hsurvive : (leaves (prune (fun l => (failure l).isNone) ds)).findSome? failure = none := by
      rw [List.findSome?_eq_none_iff, hleaves]
      intro l hl
      exact Option.isNone_iff_eq_none.1 (List.mem_filter.1 hl).2
    rw [hlenient, hstrict, hnone, hsurvive, hresult]
    exact ⟨⟨_, rfl⟩, rfl⟩
  case lenient_ok =>
    intro ds r hr
    rw [hstrict] at hr
    cases hfirst : (leaves ds).findSome? failure with
    | some e =>
      rw [hfirst] at hr
      cases hr
    | none =>
      rw [hfirst] at hr
      have hnone : (leaves ds).findSome?
          (fun l => (failure l).filter QueryError.isMalformedPath) = none := by
        rw [List.findSome?_eq_none_iff] at hfirst ⊢
        intro l hl
        rw [hfirst l hl]
        rfl
      rw [hlenient, hnone]
      exact hr

namespace Context

variable (ctx : Context) (schema : Schema)

/-- Compiled alone, a leaf fails as the leaf does. -/
theorem failure?_compileFilters_leaf (leaf : FilterLeaf) :
    Outcome.failure? ((ctx.inMode true).compileFilters schema [.leaf leaf]) =
      ctx.leafFailure? schema leaf := by
  have hleaves : FilterDescriptor.leavesAll [.leaf leaf] = [leaf] := rfl
  rw [compileFilters_inMode, hleaves, firstReported_true, List.findSome?_singleton]
  cases ctx.leafFailure? schema leaf with
  | none => rfl
  | some e => rfl

/-- Compiled alone, a sort key fails as the key does. -/
theorem failure?_compileSorts_singleton (sort : SortDescriptor) :
    Outcome.failure? ((ctx.inMode true).compileSorts schema [sort]) =
      ctx.keyFailure? schema sort := by
  rw [compileSorts_inMode, firstReported_true, List.findSome?_singleton]
  cases ctx.keyFailure? schema sort with
  | none => rfl
  | some e => rfl

/-- Sort keys without those that fail have the same terms. -/
theorem filterMap_keyTerm?_filter (sorts : List SortDescriptor) :
    (sorts.filter fun sort => (ctx.keyFailure? schema sort).isNone).filterMap
      (ctx.keyTerm? schema) = sorts.filterMap (ctx.keyTerm? schema) := by
  rw [List.filterMap_filter]
  congr 1
  funext sort
  unfold keyFailure? keyTerm?
  cases ctx.compileKey schema sort with
  | error e => rfl
  | ok key => rfl

/-- Lenient compilation of filters and of sort keys is strict compilation of what survives. -/
theorem lenience :
    Lenience ((ctx.inMode true).compileFilters schema) ((ctx.inMode false).compileFilters schema)
        FilterDescriptor.leavesAll
        (fun leaf => (ctx.inMode true).compileFilters schema [.leaf leaf])
        FilterDescriptor.pruneAll ∧
      Lenience ((ctx.inMode true).compileSorts schema) ((ctx.inMode false).compileSorts schema)
        id (fun sort => (ctx.inMode true).compileSorts schema [sort]) List.filter := by
  constructor
  · refine .of_firstReported (failure?_compileFilters_leaf ctx schema) ?_
      (compileFilters_inMode true) (compileFilters_inMode false)
      FilterDescriptor.leavesAll_pruneAll ?_
    · intro leaf e he
      exact raises_compileLeaf ctx schema leaf e (Outcome.failure?_eq_some.1 he)
    · intro ds
      exact congrArg Predicate.allOf (contributions_pruneAll ds)
  · refine .of_firstReported (failure?_compileSorts_singleton ctx schema) ?_
      (compileSorts_inMode true) (compileSorts_inMode false) (fun _ _ => rfl)
      (filterMap_keyTerm?_filter ctx schema)
    intro sort e he
    exact raises_compileKey ctx schema sort e (Outcome.failure?_eq_some.1 he)

end Context

end RecordQuery
