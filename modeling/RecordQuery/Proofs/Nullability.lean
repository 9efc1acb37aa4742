import RecordQuery.Proofs.Conformity
import RecordQuery.Proofs.Targets

/-!
# Fields that may be missing

An equality with null is compiled for the fields that may be missing, and asks for nothing of all
others (`Context.compileLeaf_null`).  This is sound where a field of a type that is not nullable
never reads as null.  It does so in one case: the type of documents is not nullable, but the
document null reads as null (`Layouts.isNull_iff_of_not_nullable`).
-/

namespace RecordQuery

/-! ### Content -/

/-- Null is of no kind. -/
theorem Scalar.isNull_of_isOf {s : Scalar} {kind : Kind} (h : s.isOf kind = true) :
    (Value.scalar s).isNull = false := by
  cases s with
  | null => cases h
  | _ => rfl

namespace Stored

/-- The content is the document null, maybe behind indirections. -/
def holdsNullDocument : Stored → Bool
  | .json .null => true
  | .boxed content => content.holdsNullDocument
  | _ => false

variable {layouts : Layouts}

/-- Content of a type that is not nullable reads as null when it is the document null, and only
then. -/
theorem isNull_value_iff {type : FieldType} {stored : Stored}
    (h : stored.fits layouts type = true) (hnullable : type.nullable = false) :
    stored.value.isNull = true ↔ type.kind = .json ∧ stored.holdsNullDocument = true := by
  induction type generalizing stored with
  | option content => cases hnullable
  | box content ih =>
    cases stored with
    | boxed inner =>
      have hinner : inner.fits layouts content = true := h
      have hvalue := ih hinner hnullable
      exact hvalue
    | _ => cases h
  | json =>
    cases stored with
    | json doc =>
      cases doc <;> simp [value, Value.isNull, holdsNullDocument, FieldType.kind]
    | scalar s =>
      have hvalue : (Value.scalar s).isNull = false := Scalar.isNull_of_isOf h
      exact iff_of_false (Bool.eq_false_iff.1 hvalue) (fun ⟨_, hdocument⟩ => by cases hdocument)
    | _ => cases h
  | _ =>
    -- No other type holds documents, so it is enough that the value is not null.
    refine iff_of_false ?_ (fun ⟨hkind, _⟩ => by cases hkind)
    rw [Bool.not_eq_true]
    cases stored with
    | scalar s => exact Scalar.isNull_of_isOf h
    | items elements => rfl
    | record identity entity access fields => rfl
    | _ => cases h

end Stored

/-- A field of a record that is not nullable reads as null when it holds the document null, and only
then. -/
theorem Record.isNull_read_iff {layouts : Layouts} {r : Record} {field : Field}
    (hfits : r.fits layouts = true)
    (hfield : (layouts.catalog.schema r.entity).canonical? field.name = some field)
    (hnullable : field.nullable = false) :
    (r.read field.name).isNull = true ↔
      field.kind = .json ∧ (r.stored field.name).holdsNullDocument = true := by
  obtain ⟨type, htype, hstored⟩ := Record.fits_stored hfits hfield
  have hkind : type.kind = field.kind := congrArg Field.kind htype
  have htypeNullable : type.nullable = field.nullable := congrArg Field.nullable htype
  rw [← hkind]
  exact Stored.isNull_value_iff hstored (htypeNullable.trans hnullable)

/-! ### The end of a path -/

namespace FieldPath

/-- The entity of the records that hold the field at the end of a path from records of the root. -/
def holder (root : Entity) : FieldPath → Entity
  | .leaf _ => root
  | .nested field rest => rest.holder (field.kind.entity?.getD root)
  | .each _ element rest => rest.holder element

/-- A path ends on a field of its holder. -/
theorem Typed.canonical?_holder {catalog : Catalog} {root : Entity} {path : FieldPath}
    (typed : path.Typed catalog (catalog.schema root)) :
    (catalog.schema (path.holder root)).canonical? path.last.name = some path.last := by
  induction path generalizing root with
  | leaf field =>
    obtain ⟨found⟩ := typed
    exact found
  | nested field rest ih =>
    cases typed with
    | nested _ hkind hrest =>
      rw [holder, hkind]
      exact ih hrest
  | each field element rest ih =>
    cases typed with
    | each _ _ hrest => exact ih hrest

end FieldPath

/-! ### Comparisons with null -/

namespace Context

section Field

variable {operator : Operator} {access : Access} {field : Field}

/-- Equality is supported by every field that is not a collection. -/
theorem supports_of_eq (heq : operator.base = .eq) (kind : Kind) :
    supports operator kind = !kind.isCollection := by
  cases kind <;> simp [supports, heq, Kind.isCollection, Kind.element?, Comparison.isText,
    Comparison.isRelation, Comparison.isOrdering]

/-- An equality with null asks whether a field is null when it may be, and for nothing otherwise. -/
theorem compareField_null (heq : operator.base = .eq) (hlength : operator.length = false)
    {p : Option Predicate} :
    compareField operator [.null] access field = .ok p ↔
      field.kind.isCollection = false ∧
        (if field.nullable then some (.isNull access) else none) = p := by
  cases hcollection : field.kind.isCollection with
  | true =>
    rw [compareField_eq_ok hlength, supports_of_eq heq, hcollection]
    simp
  | false =>
    have hsupports : supports operator field.kind = true := by
      rw [supports_of_eq heq, hcollection]
      rfl
    have hvalue : compareValue operator access field .null =
        .ok (if field.nullable then some (.isNull access) else none) := by
      unfold compareValue
      split
      · next element hkind =>
        rw [hkind] at hcollection
        cases hcollection
      · unfold compareOperand
        cases field.nullable <;> simp [heq]
    rw [compareField_singleton hlength hsupports, hvalue]
    simp

end Field

variable (ctx : Context) (schema : Schema) (leaf : FilterLeaf)

/-- The leaf compares a field for equality with null. -/
structure IsNullTest : Prop where
  comparison : ctx.IsComparison schema leaf
  plain : leaf.json = false
  equality : ∃ operator, Operator.ofText? leaf.operator = some operator ∧
    operator.base = .eq ∧ operator.length = false
  operands : leaf.values = [.null]

variable {ctx schema leaf}

/-- A leaf that tests for null asks this of the field at the end of its path when the field may be
null, and asks for nothing otherwise. -/
theorem compileLeaf_null (test : ctx.IsNullTest schema leaf) {p : Option Predicate}
    (h : ctx.compileLeaf schema leaf = .ok p) :
    ∃ path, FieldPath.resolve ctx.catalog schema (ctx.pathOf schema leaf) = .ok path ∧
      (if path.last.nullable then some (path.collections.foldr .any (.isNull path.remaining))
        else none) = p := by
  obtain ⟨operator, hequality, heq, hlength⟩ := test.equality
  obtain ⟨-, operator', path, hoperator, hpath, hquantify⟩ :=
    (compileLeaf_field test.plain test.comparison.search (test.comparison.plain test.plain)).1 h
  cases hequality.symm.trans hoperator
  obtain ⟨-, q, hbuild, rfl⟩ := quantify_eq_ok.1 hquantify
  rw [test.operands] at hbuild
  obtain ⟨-, rfl⟩ := (compareField_null heq hlength).1 hbuild
  refine ⟨path, hpath, ?_⟩
  cases path.last.nullable <;> rfl

end Context

/-- Content of a type that is not nullable reads as null only where it is the document null, which
takes a type of documents.  So a test for null that asks for nothing is one on a field that is null
in no record, unless the field is a document; then it is null where it holds the document null. -/
theorem Layouts.isNull_iff_of_not_nullable (layouts : Layouts) :
    (∀ (type : FieldType) (stored : Stored), stored.fits layouts type = true →
      type.nullable = false →
        (stored.value.isNull = true ↔ type.kind = .json ∧ stored.holdsNullDocument = true)) ∧
      ∀ (ctx : Context) (root : Entity) (leaf : FilterLeaf), ctx.catalog = layouts.catalog →
        ctx.IsNullTest (ctx.catalog.schema root) leaf →
        ctx.compileLeaf (ctx.catalog.schema root) leaf = .ok none →
          ∃ path, FieldPath.resolve ctx.catalog (ctx.catalog.schema root)
              (ctx.pathOf (ctx.catalog.schema root) leaf) = .ok path ∧
            ∀ r : Record, r.IsOf layouts (path.holder root) →
              ((r.read path.last.name).isNull = true ↔
                path.last.kind = .json ∧ (r.stored path.last.name).holdsNullDocument = true) := by
  refine ⟨fun type stored => Stored.isNull_value_iff, ?_⟩
  intro ctx root leaf hcatalog test hskipped
  obtain ⟨path, hpath, hnone⟩ := Context.compileLeaf_null test hskipped
  have hnullable : path.last.nullable = false := by
    cases h : path.last.nullable with
    | false => rfl
    | true =>
      rw [h] at hnone
      cases hnone
  refine ⟨path, hpath, ?_⟩
  rintro r ⟨hentity, hfits⟩
  have hfield := (FieldPath.typed_of_resolve hpath).canonical?_holder
  rw [hcatalog, ← hentity] at hfield
  exact Record.isNull_read_iff hfits hfield hnullable

/-! ### Articles -/

namespace Context

/-- An article. -/
def article : Entity := ⟨0, "Article"⟩

/-- An article has a title, a document behind an indirection, and answers, which are articles. -/
def articleLayout : Layouts := fun _ =>
  { fields := [
      { name := "title", type := .string },
      { name := "meta", type := .box .json },
      { name := "answers", type := .list (.record article) }] }

/-- Nothing is restricted on articles. -/
def articles : Context := ⟨articleLayout.catalog, .empty, {}⟩

/-- Some answer has no title. -/
def untitled : FilterLeaf := { field := "answers.title", values := [.null] }

/-- There is no document. -/
def undocumented : FilterLeaf := { field := "meta", values := [.null] }

/-- An article with nothing in it. -/
def emptyArticle : Record where
  identity := 0
  entity := article
  access := .inPlace
  fields := [("title", .scalar (.string "")), ("meta", .boxed (.json .null)),
    ("answers", .items [])]

/-- A test for answers without title asks for nothing, and there is no article whose title is null.
A document other than null does not read as null. -/
theorem isNull_untitled :
    articles.compileLeaf (articles.catalog.schema article) untitled = .ok none ∧
      (∀ r : Record, r.IsOf articleLayout article → (r.read "title").isNull = false) ∧
      (Stored.boxed (.json (.bool false))).fits articleLayout (.box .json) = true ∧
      (Stored.boxed (.json (.bool false))).value.isNull = false := by
  obtain ⟨hcontent, htests⟩ := articleLayout.isNull_iff_of_not_nullable
  have hskipped : articles.compileLeaf (articles.catalog.schema article) untitled = .ok none := rfl
  have test : articles.IsNullTest (articles.catalog.schema article) untitled :=
    ⟨⟨rfl, fun _ => rfl⟩, rfl, ⟨.plain .eq, rfl, rfl, rfl⟩, rfl⟩
  have hdocument : (Stored.boxed (.json (.bool false))).fits articleLayout (.box .json) = true :=
    rfl
  refine ⟨hskipped, ?_, hdocument, ?_⟩
  · obtain ⟨path, hpath, hheld⟩ := htests articles article untitled rfl test hskipped
    cases hpath
    intro r hr
    refine Bool.eq_false_iff.2 fun hnull => ?_
    obtain ⟨hkind, -⟩ := (hheld r hr).1 hnull
    cases hkind
  · rw [Bool.eq_false_iff, ne_eq, hcontent _ _ hdocument rfl]
    rintro ⟨-, hnull⟩
    cases hnull

/-- The document of an empty article reads as null, although its type is not nullable.  A test for
missing documents asks for nothing all the same. -/
theorem isNull_emptyArticle :
    emptyArticle.IsOf articleLayout article ∧ (FieldType.box .json).nullable = false ∧
      (emptyArticle.stored "meta").fits articleLayout (.box .json) = true ∧
      (emptyArticle.read "meta").isNull = true ∧
      articles.compileLeaf (articles.catalog.schema article) undocumented = .ok none :=
  ⟨⟨rfl, rfl⟩, rfl, rfl, rfl, rfl⟩

end Context

end RecordQuery
