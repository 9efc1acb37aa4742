import RecordQuery.Proofs.Sorting
import RecordQuery.Proofs.Targets

/-!
# One order for filters and sort keys

Filters compare values with operands, and sort keys compare values with values.  The two orders were
written apart: the first one fails where values have no order, and the second one places everything.
They agree on values of one kind other than null and NaN (`Scalar.order?_eq_keyOrder`), and coercion
gives an operand the kind of the field that it is compared with.  So a leaf that compares a field by
order holds for the records that a sort key of the same path puts there
(`Context.followsOrder_compileFilters`).
-/

namespace RecordQuery

/-! ### Values of one kind -/

/-- The scalar is a double that is no number. -/
def Scalar.isNaN : Scalar → Bool
  | .number n => n.isNaN
  | _ => false

/-- The value is a double that is no number. -/
def Value.isNaN : Value → Bool
  | .scalar s => s.isNaN
  | _ => false

/-- Numbers other than NaN are compared as keys are. -/
theorem Number.order?_eq_keyOrder {a b : Number} (ha : a.isNaN = false) (hb : b.isNaN = false) :
    a.order? b = some (a.keyOrder b) := by
  have hsome : (a.order? b).isSome = true := by
    cases hm : a.whole? with
    | none =>
      rw [order?_of_not_whole? (.inl hm), Double.compare?_of_not_isNaN
        ((isNaN_toDouble a).trans ha) ((isNaN_toDouble b).trans hb)]
      rfl
    | some m =>
      cases hn : b.whole? with
      | none =>
        rw [order?_of_not_whole? (.inr hn), Double.compare?_of_not_isNaN
          ((isNaN_toDouble a).trans ha) ((isNaN_toDouble b).trans hb)]
        rfl
      | some n =>
        rw [order?_of_whole? hm hn]
        rfl
  obtain ⟨o, ho⟩ := Option.isSome_iff_exists.1 hsome
  unfold keyOrder
  rw [ha, hb, ho]
  rfl

/-- Scalars of one kind other than NaN are compared as keys are. -/
theorem Scalar.order?_eq_keyOrder {x v : Scalar} {kind : Kind} (hx : x.isOf kind = true)
    (hv : v.isOf kind = true) (hxNumber : x.isNaN = false) (hvNumber : v.isNaN = false) :
    x.order? v = some ((Value.scalar x).keyOrder (.scalar v)) := by
  -- The kind leaves one constructor for each of the two.
  rcases x with _ | _ | (_ | _ | _) | _ | _ | _ | _ | _ | _ | _ <;> cases kind <;> try cases hx
  all_goals rcases v with _ | _ | (_ | _ | _) | _ | _ | _ | _ | _ | _ | _ <;> try cases hv
  all_goals first
    | rfl
    | exact @Number.order?_eq_keyOrder (.float _) (.float _) hxNumber hvNumber

/-- A value of a scalar kind is a scalar of the kind unless it is missing. -/
theorem Value.Conforms.exists_scalar {value : Value} {kind : Kind} (h : value.Conforms kind)
    (hscalar : kind.isScalar = true) (hpresent : value.isNull = false) :
    ∃ x, value = .scalar x ∧ x.isOf kind = true := by
  cases h with
  | null => cases hpresent
  | @scalar x _ hx => exact ⟨x, rfl, hx⟩
  | json | record | list => cases hscalar

namespace Comparison

/-- A value and an operand that have an order are compared by it. -/
theorem holdsAffirmed_of_order? {op : Comparison} (hop : op.isRelation = true) {x v : Scalar}
    (hx : (Value.scalar x).isNull = false) {o : Ordering} (ho : x.order? v = some o) :
    op.holdsAffirmed (.scalar x) v false = op.holds o := by
  have hvalue : (Value.scalar x).order? (.scalar v) = some o := ho
  unfold holdsAffirmed
  rw [hx, hvalue]
  simp only [Bool.false_and, Bool.false_eq_true, if_false]
  split
  · -- Texts are compared by the same order as scalars.
    next a b hactual =>
    cases hactual
    have htext : compare a b = o := Option.some.inj ho
    rw [← htext]
    cases op <;> first | rfl | cases hop
  · unfold isText
    rw [hop]
    rfl

/-- A value and an operand that have an order are compared by it, by not-equal as well. -/
theorem holdsValue_of_order? {op : Comparison} (hop : op.isRelation = true) {x v : Scalar}
    (hx : (Value.scalar x).isNull = false) {o : Ordering} (ho : x.order? v = some o) :
    op.holdsValue (.scalar x) v false = op.holds o := by
  unfold holdsValue
  split
  · next hne =>
    obtain rfl := beq_iff_eq.1 hne
    rw [holdsAffirmed_of_order? rfl hx ho]
    rfl
  · exact holdsAffirmed_of_order? hop hx ho

end Comparison

/-! ### Comparisons that follow an order -/

/-- The comparisons by order hold as an order says: exactly one of less, equal and greater does, and
greater is the complement of less or equal. -/
structure FollowsOrder (holds : Comparison → Bool) (o : Ordering) : Prop where
  lt : holds .lt = true ↔ o = .lt
  le : holds .le = true ↔ o ≠ .gt
  eq : holds .eq = true ↔ o = .eq
  ne : holds .ne = true ↔ o ≠ .eq
  ge : holds .ge = true ↔ o ≠ .lt
  gt : holds .gt = true ↔ o = .gt
  one : ∃! op, op ∈ [Comparison.lt, .eq, .gt] ∧ holds op = true
  split : holds .gt = !holds .le

/-- Comparisons that hold as they should of an order follow it. -/
theorem FollowsOrder.of_holds {holds : Comparison → Bool} {o : Ordering}
    (h : ∀ op, op.isRelation = true → holds op = op.holds o) : FollowsOrder holds o := by
  have hlt := h .lt rfl
  have hle := h .le rfl
  have heq := h .eq rfl
  have hne := h .ne rfl
  have hge := h .ge rfl
  have hgt := h .gt rfl
  constructor
  case one =>
    have hone : ∃! op, op ∈ [Comparison.lt, .eq, .gt] ∧ op.holds o = true := by
      cases o with
      | lt => exact ⟨.lt, by decide, by rintro (_ | _) <;> decide⟩
      | eq => exact ⟨.eq, by decide, by rintro (_ | _) <;> decide⟩
      | gt => exact ⟨.gt, by decide, by rintro (_ | _) <;> decide⟩
    have hrelation : ∀ op ∈ [Comparison.lt, .eq, .gt], op.isRelation = true := by decide
    refine (existsUnique_congr fun op => and_congr_right fun hop => ?_).2 hone
    rw [h op (hrelation op hop)]
  all_goals
    simp only [hlt, hle, heq, hne, hge, hgt]
    cases o <;> decide

/-- The leaf that compares by the comparison with one operand. -/
def FilterLeaf.comparing (leaf : FilterLeaf) (op : Comparison) (raw : Json) : FilterLeaf :=
  { leaf with operator := op.text, values := [raw] }

/-- The sort key of the path of a leaf. -/
def FilterLeaf.sortKey (leaf : FilterLeaf) : SortDescriptor where
  field := leaf.field
  json := leaf.json

namespace Context

variable {ctx : Context} {schema : Schema} {leaf : FilterLeaf} {target : Target} {kind : Kind}

variable (ctx schema) in
/-- The record is one that the schema is derived for: it fits the layouts that the catalog is made
of. -/
def Derived (r : Record) : Prop :=
  ∃ layouts : Layouts, ctx.catalog = layouts.catalog ∧ schema = ctx.catalog.schema r.entity ∧
    r.fits layouts = true

/-- A comparison is read back from how it is written. -/
theorem ofText?_text (op : Comparison) : Operator.ofText? op.text = some (.plain op) := by
  cases op <;> decide

/-- A kind with an order supports the comparisons by order. -/
theorem supports_of_isOrdered {op : Comparison} (hop : op.isRelation = true)
    (ordered : kind.isOrdered = true) : supports (.plain op) kind = true := by
  have htext : (Operator.plain op).base.isText = false := by
    unfold Comparison.isText
    rw [Bool.not_eq_false']
    exact hop
  unfold supports
  split
  · cases ordered
  · rw [htext, ordered]
    simp

/-- At the end of a chain of nested records of a derived entity there is null or a value of the kind
that operands are coerced to; a node always is null or a text. -/
theorem Targets.conforms_read (targets : ctx.Targets schema leaf target kind) {r : Record}
    (hderived : leaf.json = false → ctx.Derived schema r) : (target.read r).Conforms kind := by
  cases targets with
  | @field path plain resolved direct =>
    obtain ⟨layouts, hcatalog, rfl, hfits⟩ := hderived plain
    have reads := (FieldPath.typed_of_resolve resolved).fieldAt?_access direct
    rw [hcatalog] at reads
    exact Access.conforms_read hfits reads
  | @node path => exact JsonPath.conforms_value path r

/-- A sort key of the path of a leaf, if it is no key of its own, reads the target of the leaf. -/
theorem Targets.read_sortKey (targets : ctx.Targets schema leaf target kind) {key : SortKey}
    (hkey : ctx.compileKey schema leaf.sortKey = .ok key) (plain : ∀ hook, key ≠ .custom hook)
    (r : Record) : key.read r = target.read r := by
  rw [compileKey_eq] at hkey
  obtain ⟨-, -, hkey⟩ := Outcome.bind_eq_ok.1 hkey
  split at hkey
  · unfold keyAt at hkey
    split at hkey
    · next hook _ =>
      cases hkey
      exact absurd rfl (plain hook)
    · cases targets with
      | field hplain hresolved =>
        have hjson : leaf.sortKey.json = false := hplain
        rw [hjson] at hkey
        obtain ⟨other, hother, hkey⟩ := Outcome.bind_eq_ok.1 hkey
        cases hresolved.symm.trans hother
        split at hkey
        · cases hkey
        · cases hkey
          rfl
      | node hnode _ hresolved =>
        have hjson : leaf.sortKey.json = true := hnode
        rw [hjson] at hkey
        obtain ⟨other, hother, rfl⟩ := Outcome.map_eq_ok.1 hkey
        cases hresolved.symm.trans hother
        rfl
  · cases hkey

/-- A leaf that reads a target crosses no collection. -/
theorem Targets.isDirect (targets : ctx.Targets schema leaf target kind) :
    ctx.IsDirect schema leaf := by
  intro hplain other hother
  cases targets with
  | field _ hresolved direct =>
    cases hresolved.symm.trans hother
    exact direct
  | node hjson =>
    rw [hplain] at hjson
    cases hjson

/-- The leaf compiles to the comparison of its target with the operand. -/
theorem compileFilters_comparing (comparison : ctx.IsComparison schema leaf)
    (hopen : ctx.registry.filterable schema.entity leaf.field = true)
    (targets : ctx.Targets schema leaf target kind) (ordered : kind.isOrdered = true)
    {raw : Json} (hraw : raw ≠ .null) {v : Scalar} (hv : coerce raw kind = .ok v) {op : Comparison}
    (hop : op.isRelation = true) :
    ctx.compileFilters schema [.leaf (leaf.comparing op raw)] =
      .ok (some (.compare target op v false)) := by
  have hother : ctx.IsComparison schema (leaf.comparing op raw) :=
    ⟨comparison.search, comparison.plain⟩
  have hdirect : ctx.IsDirect schema (leaf.comparing op raw) := targets.isDirect
  have htargets : ctx.Targets schema (leaf.comparing op raw) target kind := by
    cases targets with
    | field plain resolved direct => exact .field plain resolved direct
    | node json wellFormed resolved => exact .node json wellFormed resolved
  have hscalar : kind.isScalar = true := (Bool.and_eq_true_iff.1 ordered).1
  have hleaf : ctx.compileLeaf schema (leaf.comparing op raw) =
      .ok (some (.compare target op v false)) :=
    (compileLeaf_single hother hdirect rfl hraw).2 ⟨hopen, .plain op, target, kind, ofText?_text op,
      htargets, .value rfl (supports_of_isOrdered hop ordered) hscalar hv⟩
  rw [compileFilters_leaf, hleaf]
  rfl

/-- Filters and sort keys use one order.  A leaf that compares a target of an ordered kind by order,
with one operand other than null, compiles to a predicate for each of the six comparisons, and a
sort key of its path reads the same target.  For every record of a derived entity whose value there
is not missing the predicates hold as the order of keys places this value by the operand, NaN
apart. -/
theorem followsOrder_compileFilters (comparison : ctx.IsComparison schema leaf)
    (hopen : ctx.registry.filterable schema.entity leaf.field = true)
    (targets : ctx.Targets schema leaf target kind) (ordered : kind.isOrdered = true)
    {raw : Json} (hraw : raw ≠ .null) {v : Scalar} (hv : coerce raw kind = .ok v) :
    ∃ q : Comparison → Predicate,
      (∀ op, op.isRelation = true →
        ctx.compileFilters schema [.leaf (leaf.comparing op raw)] = .ok (some (q op))) ∧
      (∀ key, ctx.compileKey schema leaf.sortKey = .ok key → (∀ hook, key ≠ .custom hook) →
        ∀ r, key.read r = target.read r) ∧
      ∀ r, (leaf.json = false → ctx.Derived schema r) → (target.read r).isNull = false →
        (target.read r).isNaN = false → v.isNaN = false → ∀ search,
          FollowsOrder (fun op => (q op).holds search r)
            ((target.read r).keyOrder (.scalar v)) := by
  refine ⟨fun op => .compare target op v false, ?_, ?_, ?_⟩
  · intro op hop
    exact compileFilters_comparing comparison hopen targets ordered hraw hv hop
  · intro key hkey plain r
    exact targets.read_sortKey hkey plain r
  · intro r hderived hpresent hnumber hvNumber search
    have hvKind : v.isOf kind = true := by
      refine (isOf_of_coerce hv).resolve_left ?_
      rintro rfl
      exact coerce_ne_null hraw hv
    have hscalar : kind.isScalar = true := (Bool.and_eq_true_iff.1 ordered).1
    obtain ⟨x, hx, hxKind⟩ := (targets.conforms_read hderived).exists_scalar hscalar hpresent
    refine .of_holds fun op hop => ?_
    rw [hx] at hpresent hnumber ⊢
    rw [Predicate.holds, hx]
    exact Comparison.holdsValue_of_order? hop hpresent
      (Scalar.order?_eq_keyOrder hxKind hvKind hnumber hvNumber)

/-! ### The pace of a coach -/

/-- A leaf on the pace of the coach. -/
def paced : FilterLeaf := { field := "coach.pace" }

/-- The two zeros tie, for filters as for sort keys: a coach at one of them has a pace that equals
the other one, and is neither less nor greater. -/
theorem followsOrder_paced :
    ∃ q : Comparison → Predicate,
      (∀ op, op.isRelation = true → Engine.race.context.compileFilters
        (Engine.race.schema Engine.runner) [.leaf (paced.comparing op (.string "-0"))] =
          .ok (some (q op))) ∧
      ∀ search, FollowsOrder (fun op => (q op).holds search Engine.jo) .eq := by
  have comparison : Engine.race.context.IsComparison (Engine.race.schema Engine.runner) paced :=
    ⟨rfl, fun _ => rfl⟩
  have hpath : FieldPath.resolve Engine.race.context.catalog (Engine.race.schema Engine.runner)
      (Engine.race.context.pathOf (Engine.race.schema Engine.runner) paced) =
        .ok (.nested ⟨"coach", .record Engine.runner, true⟩ (.leaf ⟨"pace", .float, false⟩)) := rfl
  have targets : Engine.race.context.Targets (Engine.race.schema Engine.runner) paced
      (.field ["coach", "pace"]) .float := .field rfl hpath rfl
  have hoperand : coerce (.string "-0") .float = .ok (.number (.float (.zero true))) := rfl
  obtain ⟨q, hq, -, hfollows⟩ :=
    followsOrder_compileFilters comparison rfl targets rfl (by simp) hoperand
  refine ⟨q, hq, fun search => ?_⟩
  have hderived : Engine.race.context.Derived (Engine.race.schema Engine.runner) Engine.jo :=
    ⟨Engine.runnerLayout, rfl, rfl, rfl⟩
  exact hfollows Engine.jo (fun _ => hderived) rfl rfl rfl search

end Context

end RecordQuery
