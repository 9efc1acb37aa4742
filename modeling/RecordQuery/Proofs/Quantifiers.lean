import RecordQuery.Proofs.CompiledTyping
import RecordQuery.Proofs.Conformity

/-!
# Paths through collections

A path that crosses collections of records is existential.  Its predicate holds for a record when
there is a chain of records, the first one in the first collection reached from the record, the
second one in the second collection reached from the first one, and so on (`Reaches`), at whose end
the comparison of the rest of the path holds (`Context.existential_of_compileFilters`).

The comparison at the end is built once, from all operands.  So the operands of a not-equal all have
to be told apart from the same record.  Where a collection or a record on the way to it is null, no
chain goes on, whatever the operator.
-/

namespace RecordQuery

/-! ### Elements -/

/-- The elements that are visited in place are those of the value. -/
theorem Stored.elements_eq (stored : Stored) : stored.elements = stored.value.items := by
  cases stored with
  | present content => exact elements_eq content
  | boxed content => exact elements_eq content
  | json doc => cases doc <;> rfl
  | _ => rfl

namespace Access

/-- The elements at the end of a chain are those of the value there, however they are visited. -/
theorem elements_eq (access : Access) (r : Record) : access.elements r = (access.read r).items := by
  have hfield : ∀ (parent : Record) (name : String),
      parent.elements name = (parent.read name).items := by
    intro parent name
    unfold Record.elements
    cases parent.access with
    | inPlace => exact Stored.elements_eq _
    | throughValue => rfl
  unfold elements read
  cases access with
  | nil => rfl
  | cons name rest =>
    rw [if_neg (by simp)]
    cases locate? r (name :: rest) with
    | none => rfl
    | some place => exact hfield place.1 place.2

/-- The collection at the end of a chain, or a record on the way to it, is null. -/
def Interrupted (collection : Access) (r : Record) : Prop :=
  ∃ front back, collection = front ++ back ∧ front ≠ [] ∧ (front.read r).isNull = true

/-- Behind null everything is null. -/
theorem Interrupted.read_isNull {collection : Access} {r : Record}
    (h : collection.Interrupted r) : (collection.read r).isNull = true := by
  obtain ⟨front, back, rfl, hne, hnull⟩ := h
  induction front generalizing r with
  | nil => exact absurd rfl hne
  | cons name front ih =>
    cases front with
    | nil =>
      cases back with
      | nil => exact hnull
      | cons next back =>
        have hread : (r.read name).isNull = true := hnull
        rw [List.cons_append, List.nil_append, read_cons_cons]
        cases hvalue : r.read name with
        | record inner =>
          rw [hvalue] at hread
          cases hread
        | _ => rfl
    | cons next front =>
      rw [read_cons_cons] at hnull
      rw [List.cons_append, List.cons_append, read_cons_cons]
      cases hvalue : r.read name with
      | record inner =>
        rw [hvalue] at hnull
        exact ih (List.cons_ne_nil next front) hnull
      | _ => rfl

/-- A collection that is not reached has no elements. -/
theorem Interrupted.elements_eq_nil {collection : Access} {r : Record}
    (h : collection.Interrupted r) : collection.elements r = [] := by
  have hnull := h.read_isNull
  rw [elements_eq]
  unfold Value.isNull at hnull
  split at hnull
  · next hvalue =>
    rw [hvalue]
    rfl
  · cases hnull

end Access

/-! ### Chains of records -/

/-- From the first record the last one is reached through the elements of collections, one after the
other. -/
inductive Reaches : Record → List Access → Record → Prop where
  | here (r : Record) : Reaches r [] r
  | step {r e last : Record} {collection : Access} {collections : List Access}
      (element : .record e ∈ collection.elements r) (rest : Reaches e collections last) :
      Reaches r (collection :: collections) last

namespace Reaches

variable {r last : Record} {collections : List Access}

theorem nil_iff : Reaches r [] last ↔ last = r := by
  constructor
  · rintro ⟨⟩
    rfl
  · rintro rfl
    exact .here last

theorem cons_iff {collection : Access} : Reaches r (collection :: collections) last ↔
    ∃ e, .record e ∈ collection.elements r ∧ Reaches e collections last := by
  constructor
  · rintro (_ | ⟨element, rest⟩)
    exact ⟨_, element, rest⟩
  · rintro ⟨e, element, rest⟩
    exact .step element rest

/-- A chain through collections comes through the records that the first ones of them reach. -/
theorem append_iff {front : List Access} : Reaches r (front ++ collections) last ↔
    ∃ e, Reaches r front e ∧ Reaches e collections last := by
  induction front generalizing r with
  | nil => simp [nil_iff]
  | cons collection front ih =>
    rw [List.cons_append, cons_iff]
    constructor
    · rintro ⟨e, element, rest⟩
      obtain ⟨between, hfront, hrest⟩ := ih.1 rest
      exact ⟨between, .step element hfront, hrest⟩
    · rintro ⟨between, hfront, hrest⟩
      obtain ⟨e, element, hfront⟩ := cons_iff.1 hfront
      exact ⟨e, element, ih.2 ⟨between, hfront, hrest⟩⟩

/-- No chain goes through a collection that is not reached. -/
theorem not_of_interrupted {front back : List Access} {collection : Access}
    (h : ∀ e, Reaches r front e → collection.Interrupted e) :
    ¬ Reaches r (front ++ collection :: back) last := by
  intro hreaches
  obtain ⟨e, hfront, hrest⟩ := append_iff.1 hreaches
  obtain ⟨next, element, -⟩ := cons_iff.1 hrest
  rw [(h e hfront).elements_eq_nil] at element
  exact absurd element List.not_mem_nil

end Reaches

/-! ### Paths -/

namespace FieldPath

/-- The collections that a path crosses, each as the chain of names that leads to it from the record
before; `before` leads to where the path starts. -/
def collectionsFrom (before : Access) : FieldPath → List Access
  | .leaf _ => []
  | .nested field rest => rest.collectionsFrom (before ++ [field.name])
  | .each field _ rest => (before ++ [field.name]) :: rest.collectionsFrom []

/-- The names behind the last collection that a path crosses. -/
def remainingFrom (before : Access) : FieldPath → Access
  | .leaf field => before ++ [field.name]
  | .nested field rest => rest.remainingFrom (before ++ [field.name])
  | .each _ _ rest => rest.remainingFrom []

/-- The collections that a path crosses. -/
def collections (path : FieldPath) : List Access := path.collectionsFrom []

/-- The names behind the last collection. -/
def remaining (path : FieldPath) : Access := path.remainingFrom []

/-- The collections and what remains make up the path. -/
theorem flatten_collectionsFrom (before : Access) (path : FieldPath) :
    (path.collectionsFrom before).flatten ++ path.remainingFrom before = before ++ path.names := by
  induction path generalizing before with
  | leaf field => rfl
  | nested field rest ih =>
    rw [collectionsFrom, remainingFrom, ih, names, List.append_assoc]
    rfl
  | each field element rest ih =>
    rw [collectionsFrom, remainingFrom, names, List.flatten_cons, List.append_assoc, ih,
      List.nil_append, List.append_assoc]
    rfl

end FieldPath

/-- A quantifier holds when the inner predicate holds for a record of the collection. -/
theorem Predicate.holds_any_iff {search : TextSearch} {collection : Access} {inner : Predicate}
    {r : Record} : (Predicate.any collection inner).holds search r = true ↔
      ∃ e, .record e ∈ collection.elements r ∧ inner.holds search e = true := by
  rw [holds, List.any_eq_true]
  constructor
  · rintro ⟨x, hx, hholds⟩
    cases x with
    | record e => exact ⟨e, hx, hholds⟩
    | _ => cases hholds
  · rintro ⟨e, he, hholds⟩
    exact ⟨.record e, he, hholds⟩

/-- Several quantifiers hold when the inner predicate holds for a record that the collections
reach. -/
theorem Predicate.holds_foldr_any_iff {search : TextSearch} {collections : List Access}
    {q : Predicate} {r : Record} : (collections.foldr any q).holds search r = true ↔
      ∃ e, Reaches r collections e ∧ q.holds search e = true := by
  induction collections generalizing r with
  | nil => simp [Reaches.nil_iff]
  | cons collection collections ih =>
    rw [List.foldr_cons, holds_any_iff]
    constructor
    · rintro ⟨e, he, hholds⟩
      obtain ⟨last, hreaches, hq⟩ := ih.1 hholds
      exact ⟨last, .step he hreaches, hq⟩
    · rintro ⟨last, hreaches, hq⟩
      obtain ⟨e, he, hrest⟩ := Reaches.cons_iff.1 hreaches
      exact ⟨e, he, ih.2 ⟨last, hrest, hq⟩⟩

namespace Context

variable {ctx : Context} {schema : Schema}

/-- Every collection on the way is open to filtering along the rest of the path. -/
def crossable (ctx : Context) : FieldPath → Bool
  | .leaf _ => true
  | .nested _ rest => ctx.crossable rest
  | .each _ element rest => ctx.registry.filterable element rest.text && ctx.crossable rest

/-- Along a path that can be crossed, what is built for its end comes to stand behind one quantifier
for each collection. -/
theorem quantify_eq_ok {build : Access → Field → Except QueryError (Option Predicate)}
    {before : Access} {path : FieldPath} {p : Option Predicate} :
    ctx.quantify build before path = .ok p ↔
      ctx.crossable path = true ∧ ∃ q, build (path.remainingFrom before) path.last = .ok q ∧
        q.map (fun inner => (path.collectionsFrom before).foldr .any inner) = p := by
  induction path generalizing before p with
  | leaf field =>
    simp [quantify, crossable, FieldPath.remainingFrom, FieldPath.last, FieldPath.collectionsFrom]
  | nested field rest ih => exact ih
  | each field element rest ih =>
    have hpolicy : (∃ config, ctx.policy element rest.text = .ok config) ↔
        ctx.registry.filterable element rest.text = true := by
      simp only [policy_eq_ok, exists_and_right, exists_eq', true_and]
    rw [quantify, crossable, Bool.and_eq_true, ← hpolicy]
    constructor
    · intro h
      obtain ⟨config, hconfig, h⟩ := Outcome.bind_eq_ok.1 h
      obtain ⟨inner, hinner, h⟩ := Outcome.bind_eq_ok.1 h
      obtain ⟨hcross, q, hq, rfl⟩ := ih.1 hinner
      cases h
      exact ⟨⟨⟨config, hconfig⟩, hcross⟩, q, hq, (Option.map_map _ _ q).symm⟩
    · rintro ⟨⟨⟨config, hconfig⟩, hcross⟩, q, hq, rfl⟩
      have hinner := ih.2 ⟨hcross, q, hq, rfl⟩
      refine Outcome.bind_eq_ok.2 ⟨config, hconfig, Outcome.bind_eq_ok.2 ⟨_, hinner, ?_⟩⟩
      exact congrArg Except.ok (Option.map_map _ _ q)

/-- The predicate of a path is existential over the collections that the path crosses, with the
comparison that is built for what remains. -/
theorem holds_quantify_iff {build : Access → Field → Except QueryError (Option Predicate)}
    {before : Access} {path : FieldPath} {p : Predicate}
    (h : ctx.quantify build before path = .ok (some p)) :
    ∃ q, build (path.remainingFrom before) path.last = .ok (some q) ∧
      ∀ search r, p.holds search r = true ↔
        ∃ e, Reaches r (path.collectionsFrom before) e ∧ q.holds search e = true := by
  obtain ⟨-, part, hbuild, hp⟩ := quantify_eq_ok.1 h
  obtain ⟨q, rfl, rfl⟩ := Option.map_eq_some_iff.1 hp
  exact ⟨q, hbuild, fun _ _ => Predicate.holds_foldr_any_iff⟩

/-! ### Operands -/

section Operands

variable {operator : Operator} {access : Access} {field : Field} {values : List Json}

/-- What operands ask for one by one; those that are refused ask for nothing. -/
def asked (single : Json → Except QueryError (Option Predicate)) (values : List Json) :
    List Predicate :=
  values.filterMap fun raw => (single raw).toOption.join

theorem mem_asked {single : Json → Except QueryError (Option Predicate)} {values : List Json}
    {part : Predicate} :
    part ∈ asked single values ↔ ∃ raw ∈ values, single raw = .ok (some part) := by
  unfold asked
  rw [List.mem_filterMap]
  refine exists_congr fun raw => and_congr_right fun _ => ?_
  cases single raw with
  | error e => simp [Except.toOption]
  | ok p => simp [Except.toOption]

/-- A walk through operands succeeds when each of them is accepted, and gives what they ask for. -/
theorem mapM_join_iff {single : Json → Except QueryError (Option Predicate)} {values : List Json}
    {junction : Junction} {p : Option Predicate} :
    (∃ parts, values.mapM single = .ok parts ∧
        Predicate.join junction (parts.filterMap id) = p) ↔
      (∀ raw ∈ values, ∃ part, single raw = .ok part) ∧
        Predicate.join junction (asked single values) = p := by
  have hparts : (∀ raw ∈ values, ∃ part, single raw = .ok part) →
      values.mapM single = .ok (values.map fun raw => (single raw).toOption.join) := by
    intro haccepted
    refine Outcome.mapM_eq_ok_map ?_
    intro raw hraw
    obtain ⟨part, hpart⟩ := haccepted raw hraw
    rw [hpart]
    rfl
  have hasked : (values.map fun raw => (single raw).toOption.join).filterMap id =
      asked single values := by
    rw [List.filterMap_map]
    rfl
  constructor
  · rintro ⟨parts, hok, rfl⟩
    have haccepted : ∀ raw ∈ values, ∃ part, single raw = .ok part := by
      intro raw hraw
      obtain ⟨part, -, hpart⟩ := Outcome.exists_mem_of_mapM_ok hok hraw
      exact ⟨part, hpart⟩
    rw [hparts haccepted] at hok
    cases hok
    exact ⟨haccepted, by rw [hasked]⟩
  · rintro ⟨haccepted, rfl⟩
    exact ⟨_, hparts haccepted, by rw [hasked]⟩

/-- The comparison of a field with one operand: its membership when the field is a collection. -/
def compareValue (operator : Operator) (access : Access) (field : Field) (raw : Json) :
    Except QueryError (Option Predicate) :=
  match field.kind with
  | .list element => containsOperand operator access element raw
  | _ => compareOperand operator access field raw

/-- Apart from lengths a field is compared with every operand, and the comparisons are joined. -/
theorem compareField_eq_ok (hlength : operator.length = false) {p : Option Predicate} :
    compareField operator values access field = .ok p ↔
      supports operator field.kind = true ∧
        (∀ raw ∈ values, ∃ part, compareValue operator access field raw = .ok part) ∧
          Predicate.join operator.junction (asked (compareValue operator access field) values) =
            p := by
  rw [← mapM_join_iff]
  unfold compareField compareValue
  rw [hlength]
  cases hsupports : supports operator field.kind with
  | false => simp
  | true =>
    simp only [Bool.false_eq_true, if_false, Bool.not_true, true_and]
    cases field.kind <;> exact Outcome.bind_eq_ok.trans (exists_congr fun parts =>
      and_congr_right fun _ => ⟨Except.ok.inj, congrArg Except.ok⟩)

/-- One operand is compared by its own comparison. -/
theorem compareField_singleton (hlength : operator.length = false)
    (hsupports : supports operator field.kind = true) {raw : Json} {p : Option Predicate} :
    compareField operator [raw] access field = .ok p ↔
      compareValue operator access field raw = .ok p := by
  have hone : ∀ part, compareValue operator access field raw = .ok part →
      Predicate.join operator.junction (asked (compareValue operator access field) [raw]) =
        part := by
    intro part hpart
    unfold asked
    rw [List.filterMap_cons, hpart]
    cases part <;> cases operator.junction <;> rfl
  rw [compareField_eq_ok hlength, and_iff_right hsupports]
  constructor
  · rintro ⟨haccepted, rfl⟩
    obtain ⟨part, hpart⟩ := haccepted raw List.mem_cons_self
    rw [hone part hpart]
    exact hpart
  · intro hvalue
    refine ⟨?_, hone p hvalue⟩
    intro other hother
    obtain rfl := List.mem_singleton.1 hother
    exact ⟨p, hvalue⟩

/-- What a comparison with several operands asks: what the comparisons with the single operands ask
together. -/
structure Combines (operator : Operator) (values : List Json)
    (single : Json → Except QueryError (Option Predicate)) (q : Predicate) : Prop where
  /-- A not-equal asks for all of them. -/
  all : operator.base = .ne → ∀ search r, q.holds search r = true ↔
    ∀ raw ∈ values, ∀ part, single raw = .ok (some part) → part.holds search r = true
  /-- Every other operator asks for one of them. -/
  any : operator.base ≠ .ne → ∀ search r, q.holds search r = true ↔
    ∃ raw ∈ values, ∃ part, single raw = .ok (some part) ∧ part.holds search r = true

/-- Apart from lengths the operands are combined as the operator says. -/
theorem combines_of_compareField (hlength : operator.length = false) {q : Predicate}
    (h : compareField operator values access field = .ok (some q)) :
    Combines operator values (fun raw => compareField operator [raw] access field) q := by
  obtain ⟨hsupports, -, hjoin⟩ := (compareField_eq_ok hlength).1 h
  have hmem : ∀ part, part ∈ asked (compareValue operator access field) values ↔
      ∃ raw ∈ values, compareField operator [raw] access field = .ok (some part) := by
    intro part
    simp only [compareField_singleton hlength hsupports]
    exact mem_asked
  constructor
  case all =>
    intro hne search r
    have hall : Predicate.allOf (asked (compareValue operator access field) values) = some q := by
      simpa [Operator.junction, hne, Predicate.join] using hjoin
    rw [Predicate.holds_of_allOf hall, List.all_eq_true]
    constructor
    · intro hholds raw hraw part hpart
      exact hholds part ((hmem part).2 ⟨raw, hraw, hpart⟩)
    · intro hholds part hpart
      obtain ⟨raw, hraw, hsingle⟩ := (hmem part).1 hpart
      exact hholds raw hraw part hsingle
  case any =>
    intro hne search r
    have hany : Predicate.anyOf (asked (compareValue operator access field) values) = some q := by
      simpa [Operator.junction, hne, Predicate.join] using hjoin
    rw [Predicate.holds_of_anyOf hany, List.any_eq_true]
    constructor
    · rintro ⟨part, hpart, hholds⟩
      obtain ⟨raw, hraw, hsingle⟩ := (hmem part).1 hpart
      exact ⟨raw, hraw, part, hsingle, hholds⟩
    · rintro ⟨raw, hraw, part, hsingle, hholds⟩
      exact ⟨part, (hmem part).2 ⟨raw, hraw, hsingle⟩, hholds⟩

end Operands

/-! ### Leaves -/

/-- A leaf that compiles alone to a predicate does so as a leaf. -/
theorem compileLeaf_of_compileFilters {leaf : FilterLeaf} {p : Predicate}
    (h : ctx.compileFilters schema [.leaf leaf] = .ok (some p)) :
    ctx.compileLeaf schema leaf = .ok (some p) := by
  rw [compileFilters_leaf] at h
  exact eq_of_lenient_eq_some h

/-- A leaf that is compared as a field: no full-text search, no filter of its own and no JSON path.
Once its path is open to filtering, and its operator and path can be read, it compiles as its
comparison does along the path. -/
theorem compileLeaf_field {leaf : FilterLeaf} {p : Option Predicate} (hjson : leaf.json = false)
    (hsearch : isSearch leaf (ctx.registry.field? schema.entity leaf.field) = false)
    (hplain : ctx.registry.filter? schema.entity
      (configuredPath (ctx.registry.field? schema.entity leaf.field) leaf.field) = none) :
    ctx.compileLeaf schema leaf = .ok p ↔
      ctx.registry.filterable schema.entity leaf.field = true ∧
        ∃ operator path, Operator.ofText? leaf.operator = some operator ∧
          FieldPath.resolve ctx.catalog schema
            (configuredPath (ctx.registry.field? schema.entity leaf.field) leaf.field) = .ok path ∧
          ctx.quantify (compareField operator leaf.values) [] path = .ok p := by
  have hcheck : checkPath leaf.json leaf.field = .ok () := by
    rw [hjson]
    rfl
  rw [compileLeaf_eq_ok, and_iff_right hcheck]
  refine and_congr_right fun _ => ?_
  unfold compileConfigured hookOf?
  rw [hsearch, hjson]
  simp only [Bool.false_eq_true, if_false, hplain]
  cases Operator.ofText? leaf.operator with
  | none => simp
  | some operator => simp [Outcome.bind_eq_ok]

/-- A leaf that is compared as a field and compiles to a predicate is existential: it holds for a
record when a chain through the collections of its path ends on a record for which the comparison of
what remains holds.  The operands are combined in that one comparison.  Where a collection or a
record on the way to it is null for all that reach it, the predicate does not hold. -/
theorem existential_of_compileFilters {leaf : FilterLeaf} {p : Predicate}
    (hjson : leaf.json = false)
    (hsearch : isSearch leaf (ctx.registry.field? schema.entity leaf.field) = false)
    (hplain : ctx.registry.filter? schema.entity
      (configuredPath (ctx.registry.field? schema.entity leaf.field) leaf.field) = none)
    (h : ctx.compileFilters schema [.leaf leaf] = .ok (some p)) :
    ∃ operator path q, Operator.ofText? leaf.operator = some operator ∧
      FieldPath.resolve ctx.catalog schema
        (configuredPath (ctx.registry.field? schema.entity leaf.field) leaf.field) = .ok path ∧
      path.collections.flatten ++ path.remaining = path.names ∧
      compareField operator leaf.values path.remaining path.last = .ok (some q) ∧
      (operator.length = false → Combines operator leaf.values
        (fun raw => compareField operator [raw] path.remaining path.last) q) ∧
      (∀ search r, p.holds search r = true ↔
        ∃ e, Reaches r path.collections e ∧ q.holds search e = true) ∧
      ∀ front collection back, path.collections = front ++ collection :: back →
        ∀ r, (∀ e, Reaches r front e → collection.Interrupted e) →
          (¬ ∃ e, Reaches r path.collections e) ∧ ∀ search, p.holds search r = false := by
  obtain ⟨-, operator, path, hoperator, hpath, hquantify⟩ :=
    (compileLeaf_field hjson hsearch hplain).1 (compileLeaf_of_compileFilters h)
  obtain ⟨q, hbuild, hholds⟩ := holds_quantify_iff hquantify
  refine ⟨operator, path, q, hoperator, hpath, path.flatten_collectionsFrom [], hbuild, ?_, hholds,
    ?_⟩
  · intro hlength
    exact combines_of_compareField hlength hbuild
  · intro front collection back hcollections r hinterrupted
    have hnone : ¬ ∃ e, Reaches r path.collections e := by
      rintro ⟨e, hreaches⟩
      rw [hcollections] at hreaches
      exact Reaches.not_of_interrupted hinterrupted hreaches
    refine ⟨hnone, ?_⟩
    intro search
    rw [← Bool.not_eq_true, hholds search r]
    rintro ⟨e, hreaches, -⟩
    exact hnone ⟨e, hreaches⟩

/-! ### Friends of friends -/

/-- A person whose only friend is Ada. -/
def eve : Record where
  identity := 3
  entity := person
  access := .inPlace
  fields := [("friends", .items [.record 2 person .inPlace ada.fields])]

/-- Some friend of a friend has neither of two names. -/
def strangers : FilterLeaf where
  field := "friends.Friends.name"
  operator := "!="
  values := [.string "Ada", .string "Eve"]

/-- Eve has a friend of a friend who is called otherwise.  Ada has none, because her only friend has
no friends. -/
theorem existential_strangers :
    ∃ p, people.compileFilters (people.catalog.schema person) [.leaf strangers] = .ok (some p) ∧
      ∀ search, p.holds search eve = true ∧ p.holds search ada = false := by
  have hcompiled : people.compileFilters (people.catalog.schema person) [.leaf strangers] =
      .ok (some (.any ["friends"] (.any ["friends"] (.and
        [.compare (.field ["name"]) .ne (.string "Ada") false,
          .compare (.field ["name"]) .ne (.string "Eve") false])))) := rfl
  obtain ⟨operator, path, q, hoperator, hpath, -, hq, -, hholds, hnull⟩ :=
    existential_of_compileFilters rfl rfl rfl hcompiled
  cases hoperator
  cases hpath
  cases hq
  refine ⟨_, hcompiled, fun search => ⟨(hholds search eve).2 ⟨grace, ?_, rfl⟩, ?_⟩⟩
  · exact .step (List.mem_singleton_self (Value.record ada))
      (.step (List.mem_singleton_self (Value.record grace)) (.here grace))
  · refine (hnull [["friends"]] ["friends"] [] rfl ada ?_).2 search
    intro e hreaches
    obtain ⟨friend, hfriend, hhere⟩ := Reaches.cons_iff.1 hreaches
    have hmem : Value.record friend ∈ [Value.record grace] := hfriend
    cases List.mem_singleton.1 hmem
    cases hhere
    exact ⟨["friends"], [], rfl, List.cons_ne_nil _ _, rfl⟩

end Context

end RecordQuery
