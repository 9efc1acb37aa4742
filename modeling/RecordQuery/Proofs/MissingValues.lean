import RecordQuery.Proofs.Targets

/-!
# Missing values

A target reads null where the field, a record on the way to it or a node is missing.  What one
operand asks of it is then known from the operator and the kind alone
(`Context.holds_of_missing`): not-equal holds, and so does the denied membership in a collection,
which has no elements.  Nothing else holds, neither orders and texts, denied ones included, nor
lengths.
-/

namespace RecordQuery

/-! ### Reading what is missing -/

/-- Content that reads as null has no length and no elements. -/
theorem Stored.empty_of_isNull (stored : Stored) (h : stored.value.isNull = true) :
    stored.cardinality? = none ∧ stored.elements = [] := by
  match stored with
  | .absent | .json _ | .scalar .null => exact ⟨rfl, rfl⟩
  | .present content | .boxed content => exact empty_of_isNull content h
  | .items _ | .record _ _ _ _ => cases h

/-- A field that reads as null has no length and no elements, however the record visits them. -/
theorem Record.empty_of_isNull {r : Record} {name : String} (h : (r.read name).isNull = true) :
    r.cardinality? name = none ∧ r.elements name = [] := by
  unfold cardinality? elements
  cases r.access with
  | inPlace => exact Stored.empty_of_isNull _ h
  | throughValue =>
    dsimp only
    cases hread : r.read name with
    | scalar s =>
      rw [hread] at h
      cases s with
      | null => exact ⟨rfl, rfl⟩
      | _ => cases h
    | _ =>
      rw [hread] at h
      cases h

/-- A chain that reads as null has no length and no elements. -/
theorem Access.empty_of_isNull {access : Access} {r : Record}
    (h : (access.read r).isNull = true) :
    access.cardinality? r = none ∧ access.elements r = [] := by
  unfold read at h
  unfold cardinality? elements
  split at h
  · cases h
  · cases hlocate : locate? r access with
    | none => exact ⟨rfl, rfl⟩
    | some parent =>
      rw [hlocate] at h
      exact Record.empty_of_isNull h

/-- Only null reads as null. -/
theorem Value.eq_null_of_isNull {value : Value} (h : value.isNull = true) :
    value = .scalar .null := by
  unfold isNull at h
  split at h
  · rfl
  · cases h

/-- Affirmed, no comparison holds of a missing value. -/
theorem Comparison.holdsAffirmed_null (op : Comparison) {operand : Scalar}
    (hoperand : operand ≠ .null) (ignoreCase : Bool) :
    op.holdsAffirmed (.scalar .null) operand ignoreCase = false := by
  cases hop : op == .eq with
  | false =>
    unfold holdsAffirmed
    have hother : (op != .eq) = true := by rw [bne, hop]; rfl
    rw [hother]
    rfl
  | true =>
    obtain rfl := beq_iff_eq.1 hop
    cases operand with
    | null => exact absurd rfl hoperand
    | _ => rfl

/-- A missing value compares with an operand by not-equal only. -/
theorem Comparison.holdsValue_null (op : Comparison) {operand : Scalar}
    (hoperand : operand ≠ .null) (ignoreCase : Bool) :
    op.holdsValue (.scalar .null) operand ignoreCase = (op == .ne) := by
  unfold holdsValue
  rw [holdsAffirmed_null _ hoperand, holdsAffirmed_null _ hoperand]
  cases op == .ne <;> rfl

/-- What an operator with an operand says of a missing value of a kind: that it is not equal, or
that a collection does not contain the operand. -/
def Operator.holdsOfMissing (operator : Operator) (kind : Kind) : Bool :=
  !operator.length &&
    (operator.base == .ne || operator.base == .notContains && kind.isCollection)

namespace Context

variable {ctx : Context} {schema : Schema}

/-- Where the target is missing, what one operand asks of it is known from the operator and the
kind. -/
theorem Asks.holds_of_isNull {operator : Operator} {raw : Json} (hraw : raw ≠ .null)
    {target : Target} {kind : Kind} {p : Predicate} (asks : Asks operator raw target kind p)
    {r : Record} (hmissing : (target.read r).isNull = true) (search : TextSearch) :
    p.holds search r = operator.holdsOfMissing kind := by
  unfold Operator.holdsOfMissing
  cases asks with
  | length hlength =>
    rw [Predicate.holds, (Access.empty_of_isNull hmissing).1, hlength]
    rfl
  | @element access _ operand hlength hsupports =>
    have hcontains : (Predicate.contains access operand operator.ignoreCase).holds search r =
        false := by
      rw [Predicate.holds, (Access.empty_of_isNull hmissing).2]
      rfl
    have hmember : operator.base = .contains ∨ operator.base = .notContains := by
      simpa using (Bool.and_eq_true_iff.1 hsupports).1
    rw [hlength]
    rcases hmember with hbase | hbase
    · rw [hbase]
      exact hcontains
    · rw [hbase]
      change (Predicate.not (.contains access operand operator.ignoreCase)).holds search r = true
      rw [Predicate.holds_not, hcontains]
      rfl
  | @value _ _ operand hlength _ hscalar hoperand =>
    have hnull : operand ≠ .null := by
      rintro rfl
      exact coerce_ne_null hraw hoperand
    have hplain : kind.isCollection = false := by
      cases kind <;> first | rfl | cases hscalar
    rw [Predicate.holds, Value.eq_null_of_isNull hmissing, Comparison.holdsValue_null _ hnull,
      hlength, hplain]
    simp

/-- A leaf on a path that crosses no collection, with one operand other than null, says of a record
whose target is missing what the operator says of missing values.  Where the target is no
collection, or its membership is not denied, that is not-equal alone. -/
theorem holds_of_missing {leaf : FilterLeaf} (comparison : ctx.IsComparison schema leaf)
    (direct : ctx.IsDirect schema leaf) {raw : Json} (hvalues : leaf.values = [raw])
    (hraw : raw ≠ .null) {p : Predicate}
    (h : ctx.compileFilters schema [.leaf leaf] = .ok (some p)) :
    ∃ operator target kind, Operator.ofText? leaf.operator = some operator ∧
      ctx.Targets schema leaf target kind ∧
      (∀ r, (target.read r).isNull = true → ∀ search,
        p.holds search r = operator.holdsOfMissing kind) ∧
      ((kind.isCollection = true → operator.base ≠ .notContains) →
        operator.holdsOfMissing kind = (!operator.length && operator.base == .ne)) := by
  obtain ⟨-, operator, target, kind, hoperator, targets, asks⟩ :=
    (compileLeaf_single comparison direct hvalues hraw).1 (compileLeaf_of_compileFilters h)
  refine ⟨operator, target, kind, hoperator, targets, ?_, ?_⟩
  · intro r hmissing search
    exact asks.holds_of_isNull hraw hmissing search
  · intro hmembership
    unfold Operator.holdsOfMissing
    cases hkind : kind.isCollection with
    | false => simp
    | true =>
      have hbase : (operator.base == .notContains) = false :=
        beq_eq_false_iff_ne.2 (hmembership hkind)
      simp [hbase]

/-! ### A blank note -/

/-- A note, which may have a title, tags and a note that it comes from. -/
def note : Entity := ⟨0, "Note"⟩

/-- Notes, with nothing restricted. -/
def notes : Context where
  catalog := ⟨fun _ => [⟨"title", .string, true⟩, ⟨"tags", .list .string, true⟩,
    ⟨"source", .record note, true⟩]⟩
  registry := .empty
  options := {}

/-- A note without anything. -/
def blank : Record where
  identity := 1
  entity := note
  access := .inPlace
  fields := [("title", .absent), ("tags", .absent), ("source", .absent)]

/-- The title of the source does not contain a word. -/
def finished : FilterLeaf where
  field := "source.title"
  operator := "!@=*"
  values := [.string "draft"]

/-- A note without a source is none whose source has another title. -/
theorem holds_of_missing_finished :
    ∃ p, notes.compileFilters (notes.catalog.schema note) [.leaf finished] = .ok (some p) ∧
      ∀ search, p.holds search blank = false := by
  have hcompiled : notes.compileFilters (notes.catalog.schema note) [.leaf finished] =
      .ok (some (.compare (.field ["source", "title"]) .notContains (.string "draft") true)) := rfl
  have hpath : FieldPath.resolve notes.catalog (notes.catalog.schema note)
      (notes.pathOf (notes.catalog.schema note) finished) =
        .ok (.nested ⟨"source", .record note, true⟩ (.leaf ⟨"title", .string, true⟩)) := rfl
  have direct : notes.IsDirect (notes.catalog.schema note) finished := by
    intro _ path hother
    cases hpath.symm.trans hother
    rfl
  have hoperator : Operator.ofText? finished.operator = some ⟨.notContains, true, false⟩ := by
    decide
  obtain ⟨operator, target, kind, hother, targets, hholds, -⟩ :=
    holds_of_missing ⟨rfl, fun _ => rfl⟩ direct rfl (by simp) hcompiled
  cases hoperator.symm.trans hother
  refine ⟨_, hcompiled, fun search => ?_⟩
  cases targets with
  | field _ hresolved =>
    cases hpath.symm.trans hresolved
    exact hholds blank rfl search
  | node hjson => cases hjson

/-- A note without tags passes for one that does not have a certain tag, although its tags are
missing and the operator is the one that denies a text. -/
theorem holds_untagged :
    ∃ p, notes.compileFilters (notes.catalog.schema note)
        [.leaf { field := "tags", operator := "!@=", values := [.string "draft"] }] = .ok (some p) ∧
      (Access.read ["tags"] blank).isNull = true ∧ ∀ search, p.holds search blank = true :=
  ⟨.not (.contains ["tags"] (.string "draft") false), rfl, rfl, fun _ => rfl⟩

end Context

end RecordQuery
