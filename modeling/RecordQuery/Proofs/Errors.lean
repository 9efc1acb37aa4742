import RecordQuery.Proofs.Compilation

/-!
# Errors of compilation

Which errors a compilation can raise.  It reads no options, so none of its errors is about them
(`raises_compileLeaf`, `raises_compileKey`).  A caller tells errors apart by their kind, and whether
a descriptor is skipped depends on the kind alone.

One kind is told apart further: that a path is malformed as a JSON path is found out by splitting it
and nowhere else, and it is never skipped.  So a compilation fails for a malformed path in two
places only, where the path that is written is checked and where the one that is configured is
resolved (`malformed_compileConfigured`, `malformed_keyAt`).
-/

namespace RecordQuery

/-! ### Kinds -/

/-- The kinds of errors that callers tell apart. -/
inductive ErrorKind where
  | fieldNotFound
  | fieldNotFilterable
  | fieldNotSortable
  | invalidJsonPath
  | invalidOperator
  | valueConversionFailure
  | compileFailure
  | options
deriving DecidableEq

/-- The kind of an error. -/
def QueryError.kind : QueryError → ErrorKind
  | .fieldNotFound _ _ => .fieldNotFound
  | .notFilterable _ => .fieldNotFilterable
  | .notSortable _ => .fieldNotSortable
  | .invalidJsonPath _ => .invalidJsonPath
  | .invalidOperator _ => .invalidOperator
  | .notConvertible _ _ | .notLength _ => .valueConversionFailure
  | .notText _ | .notComparable _ _ | .notDocument _ _ | .invalidQuery _ => .compileFailure
  | .invalidOptions => .options

/-- Errors of one kind are skipped together. -/
theorem QueryError.isSkippable_congr {e e' : QueryError} (h : e.kind = e'.kind) :
    e.isSkippable = e'.isSkippable := by
  have hkind : ∀ e : QueryError, e.isSkippable =
      (e.kind != .invalidJsonPath && e.kind != .options) := by
    intro e
    cases e <;> rfl
  rw [hkind, hkind, h]

/-! ### Bounds -/

/-- The errors that are raised where descriptors are compiled. -/
def QueryError.isCompilation : QueryError → Bool
  | .invalidQuery _ | .invalidOptions => false
  | _ => true

/-- The errors of compilation other than that a path is malformed. -/
def QueryError.isSemantic : QueryError → Bool
  | .invalidJsonPath _ => false
  | e => e.isCompilation

/-- Every error of the computation is one of compilation. -/
abbrev RaisesCompilation {α : Type} (x : Except QueryError α) : Prop :=
  Outcome.Raises (fun e => e.isCompilation = true) x

/-- Every error of the computation is one of compilation, and none says that a path is malformed. -/
abbrev RaisesSemantic {α : Type} (x : Except QueryError α) : Prop :=
  Outcome.Raises (fun e => e.isSemantic = true) x

/-- Semantic errors are errors of compilation. -/
theorem RaisesSemantic.raisesCompilation {α : Type} {x : Except QueryError α}
    (h : RaisesSemantic x) : RaisesCompilation x := by
  refine Outcome.Raises.mono h ?_
  intro e he
  cases e with
  | invalidJsonPath path => cases he
  | _ => exact he

/-! ### Paths and operands -/

theorem JsonPath.raises_split (path : String) : RaisesCompilation (split path) := by
  unfold split
  split
  · exact Outcome.raises_ok _
  · exact Outcome.raises_error rfl

theorem JsonPath.raises_resolve (schema : Schema) (path : String) :
    RaisesCompilation (resolve schema path) := by
  unfold resolve
  refine Outcome.raises_bind (raises_split path) ?_
  intro parts
  dsimp only
  split
  · exact Outcome.raises_error rfl
  · split
    · exact Outcome.raises_ok _
    · exact Outcome.raises_error rfl

theorem FieldPath.raises_resolveSegments (catalog : Catalog) (schema : Schema) (segment : String)
    (rest : List String) : RaisesSemantic (resolveSegments catalog schema segment rest) := by
  induction rest generalizing schema segment with
  | nil =>
    unfold resolveSegments
    split
    · exact Outcome.raises_error rfl
    · exact Outcome.raises_ok _
  | cons next rest ih =>
    unfold resolveSegments
    split
    · exact Outcome.raises_error rfl
    · split
      · exact Outcome.raises_map _ (ih _ _)
      · exact Outcome.raises_map _ (ih _ _)
      · exact Outcome.raises_error rfl
      · exact Outcome.raises_error rfl

theorem FieldPath.raises_resolve (catalog : Catalog) (schema : Schema) (path : String) :
    RaisesSemantic (resolve catalog schema path) := by
  unfold resolve
  split
  · exact Outcome.raises_error rfl
  · exact raises_resolveSegments catalog schema _ _

theorem raises_coerce (raw : Json) (kind : Kind) : RaisesSemantic (coerce raw kind) := by
  unfold coerce
  split
  · exact Outcome.raises_ok _
  · split
    · exact Outcome.raises_ok _
    · exact Outcome.raises_error rfl

theorem raises_coerceLength (raw : Json) : RaisesSemantic (coerceLength raw) := by
  unfold coerceLength
  split
  · exact Outcome.raises_ok _
  · exact Outcome.raises_error rfl

/-! ### Leaves and sort keys -/

namespace Context

variable (ctx : Context) (schema : Schema)

theorem raises_policy (entity : Entity) (path : String) :
    RaisesSemantic (ctx.policy entity path) := by
  unfold policy
  split
  · exact Outcome.raises_ok _
  · split
    · exact Outcome.raises_ok _
    · exact Outcome.raises_error rfl

theorem raises_checkPath (json : Bool) (written : String) :
    RaisesCompilation (checkPath json written) := by
  unfold checkPath
  split
  · exact Outcome.raises_map _ (JsonPath.raises_split written)
  · exact Outcome.raises_ok _

/-- A quantified path raises what its policies and the comparison at its end raise. -/
theorem raises_quantify {build : Access → Field → Except QueryError (Option Predicate)}
    (hbuild : ∀ access field, RaisesSemantic (build access field)) (before : Access)
    (path : FieldPath) : RaisesSemantic (ctx.quantify build before path) := by
  induction path generalizing before with
  | leaf field => exact hbuild _ field
  | nested field rest ih => exact ih _
  | each field element rest ih =>
    rw [quantify]
    refine Outcome.raises_bind (raises_policy ctx element rest.text) ?_
    intro _
    refine Outcome.raises_bind (ih []) ?_
    intro inner
    exact Outcome.raises_ok _

theorem raises_searchAt (path language : String) (terms : List String) (access : Access)
    (field : Field) : RaisesSemantic (searchAt path language terms access field) := by
  unfold searchAt
  split
  · exact Outcome.raises_ok _
  · split
    · exact Outcome.raises_ok _
    · exact Outcome.raises_error rfl

theorem raises_compareNode (path : String) (operator : Operator) (values : List Json) :
    RaisesCompilation (compareNode schema path operator values) := by
  unfold compareNode
  dsimp only
  split
  · exact Outcome.raises_error rfl
  · refine Outcome.raises_bind (JsonPath.raises_resolve schema path) ?_
    intro target
    exact Outcome.raises_ok _

theorem raises_compareLength (operator : Operator) (values : List Json) (access : Access)
    (field : Field) : RaisesSemantic (compareLength operator values access field) := by
  unfold compareLength
  split
  · exact Outcome.raises_map _ (raises_coerceLength _)
  · exact Outcome.raises_map _ (raises_coerceLength _)
  · exact Outcome.raises_ok _

theorem raises_containsOperand (operator : Operator) (access : Access) (element : Kind)
    (raw : Json) : RaisesSemantic (containsOperand operator access element raw) := by
  unfold containsOperand
  refine Outcome.raises_bind (raises_coerce raw element) ?_
  intro operand
  split
  · exact Outcome.raises_ok _
  · exact Outcome.raises_ok _

theorem raises_compareOperand (operator : Operator) (access : Access) (field : Field)
    (raw : Json) : RaisesSemantic (compareOperand operator access field raw) := by
  unfold compareOperand
  split
  · split
    · exact Outcome.raises_ok _
    · split
      · exact Outcome.raises_ok _
      · exact Outcome.raises_ok _
  · split
    · exact Outcome.raises_map _ (raises_coerce _ _)
    · exact Outcome.raises_error rfl

theorem raises_compareField (operator : Operator) (values : List Json) (access : Access)
    (field : Field) : RaisesSemantic (compareField operator values access field) := by
  unfold compareField
  split
  · exact raises_compareLength operator values access field
  · split
    · exact Outcome.raises_error rfl
    · dsimp only
      split
      · refine Outcome.raises_bind (Outcome.raises_mapM ?_ values) ?_
        · exact raises_containsOperand operator access _
        · intro parts
          exact Outcome.raises_ok _
      · refine Outcome.raises_bind (Outcome.raises_mapM ?_ values) ?_
        · exact raises_compareOperand operator access field
        · intro parts
          exact Outcome.raises_ok _

/-- A leaf raises errors of compilation only. -/
theorem raises_compileLeaf (leaf : FilterLeaf) :
    RaisesCompilation (ctx.compileLeaf schema leaf) := by
  rw [compileLeaf_eq]
  refine Outcome.raises_bind (raises_checkPath leaf.json leaf.field) ?_
  intro _
  refine Outcome.raises_bind (raises_policy ctx schema.entity leaf.field).raisesCompilation ?_
  intro config
  unfold compileConfigured
  split
  · refine RaisesSemantic.raisesCompilation ?_
    refine Outcome.raises_bind (FieldPath.raises_resolve ctx.catalog schema _) ?_
    exact raises_quantify ctx (raises_searchAt _ _ _) []
  · split
    · split
      · exact Outcome.raises_error rfl
      · exact Outcome.raises_ok _
    · split
      · exact Outcome.raises_error rfl
      · split
        · exact raises_compareNode schema _ _ _
        · refine RaisesSemantic.raisesCompilation ?_
          refine Outcome.raises_bind (FieldPath.raises_resolve ctx.catalog schema _) ?_
          exact raises_quantify ctx (raises_compareField _ _) []

/-- A sort key raises errors of compilation only. -/
theorem raises_compileKey (sort : SortDescriptor) :
    RaisesCompilation (ctx.compileKey schema sort) := by
  rw [compileKey_eq]
  refine Outcome.raises_bind (raises_checkPath sort.json sort.field) ?_
  intro _
  split
  · unfold keyAt
    split
    · exact Outcome.raises_ok _
    · split
      · exact Outcome.raises_map _ (JsonPath.raises_resolve schema _)
      · refine RaisesSemantic.raisesCompilation ?_
        refine Outcome.raises_bind (FieldPath.raises_resolve ctx.catalog schema _) ?_
        intro resolved
        split
        · exact Outcome.raises_error rfl
        · exact Outcome.raises_ok _
  · exact Outcome.raises_error rfl

end Context

/-! ### Malformed paths -/

/-- The computation fails because a path is malformed. -/
def Malformed {α : Type} (x : Except QueryError α) : Prop :=
  ∃ path, x = .error (.invalidJsonPath path)

/-- The path names a field and at least one key below it. -/
def JsonPath.isWellFormed (path : String) : Bool := (split? path).isSome

section Malformed

variable {α β : Type}

/-- No semantic error says that a path is malformed. -/
theorem RaisesSemantic.not_malformed {x : Except QueryError α} (h : RaisesSemantic x) :
    ¬ Malformed x := by
  rintro ⟨path, hpath⟩
  cases h _ hpath

/-- A sequence fails for a malformed path when its first step does, or the second one. -/
theorem malformed_bind {x : Except QueryError α} {f : α → Except QueryError β} :
    Malformed (x >>= f) ↔ Malformed x ∨ ∃ a, x = .ok a ∧ Malformed (f a) := by
  cases x with
  | error e => simp [Malformed, bind, Except.bind]
  | ok a => simp [Malformed, bind, Except.bind]

/-- A mapped computation fails for a malformed path when the computation does. -/
theorem malformed_map {x : Except QueryError α} (f : α → β) :
    Malformed (x.map f) ↔ Malformed x :=
  exists_congr fun _ => Outcome.map_eq_error

/-- A path that is split fails as malformed unless it is well formed. -/
theorem JsonPath.malformed_split (path : String) :
    Malformed (split path) ↔ isWellFormed path = false := by
  unfold split isWellFormed Malformed
  cases split? path with
  | none => simp
  | some parts => simp

/-- A path that is resolved fails as malformed unless it is well formed. -/
theorem JsonPath.malformed_resolve (schema : Schema) (path : String) :
    Malformed (resolve schema path) ↔ isWellFormed path = false := by
  unfold resolve
  rw [malformed_bind, malformed_split, or_iff_left_iff_imp]
  rintro ⟨parts, -, hparts⟩
  refine absurd hparts (RaisesSemantic.not_malformed ?_)
  dsimp only
  split
  · exact Outcome.raises_error rfl
  · split
    · exact Outcome.raises_ok _
    · exact Outcome.raises_error rfl

namespace Context

variable (ctx : Context) (schema : Schema)

/-- The path of a JSON descriptor is checked as it is written. -/
theorem malformed_checkPath (json : Bool) (written : String) :
    Malformed (checkPath json written) ↔ json = true ∧ JsonPath.isWellFormed written = false := by
  unfold checkPath
  split
  · next hjson => rw [malformed_map, JsonPath.malformed_split, and_iff_right hjson]
  · next hjson =>
    refine iff_of_false ?_ (fun h => hjson h.1)
    exact RaisesSemantic.not_malformed (Outcome.raises_ok _)

/-- A comparison with a node fails for a malformed path unless it fails for its operator. -/
theorem malformed_compareNode (path : String) (operator : Operator) (values : List Json) :
    Malformed (compareNode schema path operator values) ↔
      operator.length = false ∧ JsonPath.isWellFormed path = false := by
  unfold compareNode
  cases operator.length with
  | true =>
    refine iff_of_false (RaisesSemantic.not_malformed ?_) (fun h => Bool.noConfusion h.1)
    exact Outcome.raises_error rfl
  | false =>
    change Malformed (JsonPath.resolve schema path >>= _) ↔ _
    rw [malformed_bind, JsonPath.malformed_resolve, and_iff_right rfl, or_iff_left_iff_imp]
    rintro ⟨target, -, htarget⟩
    exact absurd htarget (RaisesSemantic.not_malformed (Outcome.raises_ok _))

/-- Once its path has passed the policy, a leaf fails for a malformed path exactly when it compares
a node of a document, and the path that it stands for is malformed. -/
theorem malformed_compileConfigured (leaf : FilterLeaf) (config : Option FieldConfig) :
    Malformed (ctx.compileConfigured schema leaf config) ↔
      leaf.json = true ∧ isSearch leaf config = false ∧
        (∃ operator, Operator.ofText? leaf.operator = some operator ∧ operator.length = false) ∧
          JsonPath.isWellFormed (configuredPath config leaf.field) = false := by
  have hfield : ∀ build path, (∀ access field, RaisesSemantic (build access field)) →
      ¬ Malformed (FieldPath.resolve ctx.catalog schema path >>= ctx.quantify build []) := by
    intro build path hbuild
    refine RaisesSemantic.not_malformed ?_
    refine Outcome.raises_bind (FieldPath.raises_resolve ctx.catalog schema path) ?_
    exact raises_quantify ctx hbuild []
  unfold compileConfigured
  dsimp only
  split
  · next hsearch =>
    refine iff_of_false (hfield _ _ (raises_searchAt _ _ _)) ?_
    intro h
    rw [hsearch] at h
    cases h.2.1
  · next hsearch =>
    rw [Bool.not_eq_true] at hsearch
    rw [and_iff_right hsearch]
    split
    · next hook hhook =>
      have hjson : leaf.json ≠ true := by
        intro hjson
        rw [hookOf?, if_pos hjson] at hhook
        cases hhook
      refine iff_of_false (RaisesSemantic.not_malformed ?_) (fun h => hjson h.1)
      split
      · exact Outcome.raises_error rfl
      · exact Outcome.raises_ok _
    · cases hoperator : Operator.ofText? leaf.operator with
      | none =>
        refine iff_of_false (RaisesSemantic.not_malformed (Outcome.raises_error rfl)) ?_
        rintro ⟨-, ⟨operator, h, -⟩, -⟩
        cases h
      | some operator =>
        dsimp only
        split
        · next hjson =>
          rw [malformed_compareNode, and_iff_right hjson]
          simp
        · next hjson =>
          exact iff_of_false (hfield _ _ (raises_compareField _ _)) (fun h => hjson h.1)

/-- Once its path has passed the policy, a sort key fails for a malformed path exactly when it reads
a node of a document, and the path that it stands for is malformed. -/
theorem malformed_keyAt (json : Bool) (path : String) :
    Malformed (ctx.keyAt schema json path) ↔
      json = true ∧ ctx.registry.sort? schema.entity path = none ∧
        JsonPath.isWellFormed path = false := by
  unfold keyAt
  split
  · next hook hhook =>
    refine iff_of_false (RaisesSemantic.not_malformed (Outcome.raises_ok _)) ?_
    rw [hhook]
    rintro ⟨-, h, -⟩
    cases h
  · next hhook =>
    rw [and_iff_right hhook]
    split
    · next hjson => rw [malformed_map, JsonPath.malformed_resolve, and_iff_right hjson]
    · next hjson =>
      refine iff_of_false (RaisesSemantic.not_malformed ?_) (fun h => hjson h.1)
      refine Outcome.raises_bind (FieldPath.raises_resolve ctx.catalog schema _) ?_
      intro resolved
      split
      · exact Outcome.raises_error rfl
      · exact Outcome.raises_ok _

end Context

end Malformed

end RecordQuery
