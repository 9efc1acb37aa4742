import RecordQuery.Proofs.CompiledTyping
import RecordQuery.Proofs.DeclaredContent
import RecordQuery.Proofs.MissingValues
import RecordQuery.Proofs.OrderAgreement

/-!
# What evaluation compares

Evaluating a predicate compares values with operands (`Predicate.Compares`).  On records that hold
what their layouts declare, the records that are reached through collections do so as well
(`Layouts.describes`), and every value that a well-typed predicate compares is null or of the kind
of its operand.  Such a pair has an order unless one of the two is NaN
(`Predicate.order?_eq_none_iff_of_compares`), so that a comparison is never false because types do
not match.
-/

namespace RecordQuery

/-! ### Values of the kind of an operand -/

/-- A scalar of the kind of doubles is a double. -/
theorem Scalar.exists_float_of_isOf {s : Scalar} (h : s.isOf .float = true) :
    ∃ x : Double, s = .number (.float x) := by
  cases s with
  | number n =>
    cases n with
    | float x => exact ⟨x, rfl⟩
    | _ => cases h
  | _ => cases h

/-- Only scalars of the kind of doubles are NaN. -/
theorem Scalar.kind_of_isNaN {s : Scalar} {kind : Kind} (h : s.isOf kind = true)
    (hnan : s.isNaN = true) : kind = .float := by
  cases s with
  | number n =>
    cases n with
    | float x => cases kind <;> first | rfl | cases h
    | _ => cases hnan
  | _ => cases hnan

/-- Scalars of one kind have no order when one of them is NaN, and only then. -/
theorem Scalar.order?_eq_none_iff {x v : Scalar} {kind : Kind} (hx : x.isOf kind = true)
    (hv : v.isOf kind = true) : x.order? v = none ↔ x.isNaN = true ∨ v.isNaN = true := by
  constructor
  · intro hnone
    by_contra hnumbers
    rw [not_or, Bool.not_eq_true, Bool.not_eq_true] at hnumbers
    rw [Scalar.order?_eq_keyOrder hx hv hnumbers.1 hnumbers.2] at hnone
    cases hnone
  · intro hnan
    have hkind : kind = .float :=
      hnan.elim (Scalar.kind_of_isNaN hx) (Scalar.kind_of_isNaN hv)
    subst hkind
    obtain ⟨a, rfl⟩ := Scalar.exists_float_of_isOf hx
    obtain ⟨b, rfl⟩ := Scalar.exists_float_of_isOf hv
    exact Double.compare?_eq_none.2 hnan

/-- A value that is null or of the kind of an operand has no order with it when it is there and one
of the two is NaN, and only then. -/
theorem Value.Conforms.order?_eq_none_iff {actual : Value} {operand : Scalar} {kind : Kind}
    (hactual : actual.Conforms kind) (hoperand : operand.isOf kind = true)
    (hscalar : kind.isScalar = true) :
    actual.order? (.scalar operand) = none ↔
      actual.isNull = false ∧ (actual.isNaN = true ∨ operand.isNaN = true) := by
  cases hnull : actual.isNull with
  | true =>
    obtain rfl := Value.eq_null_of_isNull hnull
    refine iff_of_false ?_ (by simp)
    -- Null comes after every operand that is not null itself.
    cases operand with
    | null => cases hoperand
    | _ => simp [Value.order?, Scalar.order?]
  | false =>
    obtain ⟨x, rfl, hx⟩ := hactual.exists_scalar hscalar hnull
    rw [eq_self, true_and]
    exact Scalar.order?_eq_none_iff hx hoperand

/-! ### Records behind collections -/

namespace Stored

variable {layouts : Layouts}

/-- A record among the elements of content fits its own layout. -/
theorem fits_of_mem_elements {type : FieldType} {stored : Stored} {r : Record}
    (h : fits layouts type stored = true) (hmem : .record r ∈ stored.elements) :
    r.fits layouts = true := by
  cases stored with
  | present content =>
    cases type with
    | option inner =>
      have hcontent : fits layouts inner content = true := h
      exact fits_of_mem_elements hcontent hmem
    | _ => cases h
  | boxed content =>
    cases type with
    | box inner =>
      have hcontent : fits layouts inner content = true := h
      exact fits_of_mem_elements hcontent hmem
    | _ => cases h
  | items xs =>
    cases type with
    | list element =>
      have hall : fitsAll layouts element xs = true := h
      rw [elements, values_eq_map] at hmem
      obtain ⟨x, hx, hvalue⟩ := List.mem_map.1 hmem
      exact fits_of_value_eq_record (fitsAll_iff.1 hall x hx) hvalue
    | _ => cases h
  | _ => cases hmem

end Stored

/-- The records that fit their layouts hold what the catalog of the layouts says. -/
theorem Layouts.describes (layouts : Layouts) :
    layouts.catalog.Describes fun r => r.fits layouts = true where
  nested := by
    intro r hfits field entity next hfield hkind hread
    have hconforms := Record.conforms_read hfits hfield
    rw [hkind, hread] at hconforms
    cases hconforms
    exact ⟨Record.fits_of_read_eq_record hfits hfield hread, rfl⟩
  element := by
    intro r hfits field entity next hfield hkind hnext
    obtain ⟨type, -, hstored⟩ := Record.fits_stored hfits hfield
    have helements : r.elements field.name = (r.read field.name).items :=
      Access.elements_eq [field.name] r
    have hconforms := Record.conforms_read hfits hfield
    rw [hkind] at hconforms
    rw [helements] at hnext
    refine ⟨Stored.fits_of_mem_elements hstored ?_, ?_⟩
    · rw [Stored.elements_eq]
      exact hnext
    · cases hread : r.read field.name with
      | list xs =>
        rw [hread] at hconforms hnext
        cases hconforms with
        | list hall =>
          cases hall _ hnext with
          | record => rfl
      | _ =>
        rw [hread] at hnext
        cases hnext

/-! ### Comparisons -/

/-- Evaluating a predicate on a record compares a value with an operand: what a target reads, each
element of a collection, and what the inner predicate compares for a record of a collection. -/
inductive Predicate.Compares : Predicate → Record → Value → Scalar → Prop where
  | compare (target : Target) (op : Comparison) (operand : Scalar) (ignoreCase : Bool)
      (r : Record) : Compares (.compare target op operand ignoreCase) r (target.read r) operand
  | contains {access : Access} {r : Record} {x : Value} (operand : Scalar) (ignoreCase : Bool)
      (element : x ∈ access.elements r) : Compares (.contains access operand ignoreCase) r x operand
  | any {collection : Access} {inner : Predicate} {r next : Record} {actual : Value}
      {operand : Scalar} (element : .record next ∈ collection.elements r)
      (compares : Compares inner next actual operand) :
      Compares (.any collection inner) r actual operand
  | and {parts : List Predicate} {part : Predicate} {r : Record} {actual : Value}
      {operand : Scalar} (mem : part ∈ parts) (compares : Compares part r actual operand) :
      Compares (.and parts) r actual operand
  | or {parts : List Predicate} {part : Predicate} {r : Record} {actual : Value}
      {operand : Scalar} (mem : part ∈ parts) (compares : Compares part r actual operand) :
      Compares (.or parts) r actual operand
  | not {inner : Predicate} {r : Record} {actual : Value} {operand : Scalar}
      (compares : Compares inner r actual operand) : Compares (.not inner) r actual operand

/-- An element of a value of a kind of lists is of the element kind. -/
theorem Value.Conforms.of_mem_items {value x : Value} {element : Kind}
    (h : value.Conforms (.list element)) (hx : x ∈ value.items) : x.Conforms element := by
  cases h with
  | list hall => exact hall x hx
  | scalar hs | null => cases hx

/-- On a record that fits its layout a well-typed predicate compares null and values of the kind of
the operand. -/
theorem Predicate.conforms_of_compares {layouts : Layouts} {registry : Registry} {schema : Schema}
    {p : Predicate} (typed : p.WellTyped layouts.catalog registry schema) {r : Record}
    (hfits : r.fits layouts = true) (hschema : schema = layouts.catalog.schema r.entity)
    {actual : Value} {operand : Scalar} (compares : p.Compares r actual operand) :
    ∃ kind : Kind, kind.isScalar = true ∧ operand.isOf kind = true ∧ actual.Conforms kind := by
  induction typed generalizing r with
  | @compare _ _ field _ _ _ reads scalar operandKind _ _ =>
    subst hschema
    cases compares
    exact ⟨field.kind, scalar, operandKind, Access.conforms_read hfits reads⟩
  | compareNode _ _ _ =>
    cases compares
    exact ⟨.string, rfl, rfl, JsonPath.conforms_value _ _⟩
  | @contains _ access field element _ _ reads collection scalar operandKind =>
    subst hschema
    cases compares with
    | contains _ _ hx =>
      have hread : (access.read r).Conforms field.kind := Access.conforms_read hfits reads
      rw [collection] at hread
      rw [Access.elements_eq] at hx
      exact ⟨element, scalar, operandKind, hread.of_mem_items hx⟩
  | any reads records _ ih =>
    subst hschema
    cases compares with
    | any hnext hinner =>
      obtain ⟨hnextFits, hentity⟩ :=
        Access.entity_of_mem_elements layouts.describes hfits reads records hnext
      exact ih hnextFits (by rw [hentity]) hinner
  | and _ ih =>
    cases compares with
    | and hpart hinner => exact ih _ hpart hfits hschema hinner
  | or _ ih =>
    cases compares with
    | or hpart hinner => exact ih _ hpart hfits hschema hinner
  | not _ ih =>
    cases compares with
    | not hinner => exact ih hfits hschema hinner
  | isNull | length | search | custom => cases compares

/-- What a field of a declared type holds reads as null or as a value of the kind of the type.  The
types that are derived from declarations are such types: each place in an enumeration is one of a
member, and the records of a type with named fields hold what their layout declares.

So when compiled filters are evaluated on a record that holds what its layout declares, each value
that is compared with an operand has an order with it, unless one of the two is NaN. -/
theorem Layouts.conforms_and_comparable (layouts : Layouts) :
    (∀ (type : FieldType) (stored : Stored), stored.ContentOf layouts type →
        stored.value.Conforms type.kind) ∧
      (∀ (d : Declaration) (tables : MemberTables), d.derive = .ok (.enumeration tables) →
        tables.type.kind = .enumeration tables.names ∧ ∀ place ∈ tables.places,
          (Stored.scalar (.enumeration place.2)).ContentOf layouts tables.type) ∧
      (∀ (d : Declaration) (tables : RecordTables), d.derive = .ok (.record tables) →
        ∀ (typeOf : String → FieldType) (entity : Entity),
          layouts entity = tables.layout typeOf → ∀ content : String → Stored,
            tables.Holds layouts typeOf content →
              ∀ identity, (tables.record content identity entity).IsOf layouts entity) ∧
      ∀ (ctx : Context) (root : Entity) (filters : List FilterDescriptor) (p : Predicate),
        ctx.catalog = layouts.catalog →
        ctx.compileFilters (ctx.catalog.schema root) filters = .ok (some p) →
          ∀ r : Record, r.IsOf layouts root → ∀ (actual : Value) (operand : Scalar),
            p.Compares r actual operand →
              (actual.order? (.scalar operand) = none ↔
                actual.isNull = false ∧ (actual.isNaN = true ∨ operand.isNaN = true)) := by
  refine ⟨?_, ?_, ?_, ?_⟩
  · intro type stored h
    exact Stored.conforms_value h.fits
  · intro d tables h
    exact Declaration.contentOf_of_derive h
  · intro d tables h typeOf entity hlayout content hcontent identity
    exact Declaration.isOf_of_derive h hlayout hcontent identity
  · rintro ctx root filters p hcatalog hcompiled r ⟨rfl, hfits⟩ actual operand compares
    have typed : p.WellTyped ctx.catalog ctx.registry (ctx.catalog.schema r.entity) :=
      Context.compileFilters_induction (fun _ _ hleaf => Context.wellTyped_of_compileLeaf hleaf)
        (fun _ _ _ => Predicate.wellTyped_of_join) hcompiled
    rw [hcatalog] at typed
    obtain ⟨kind, hscalar, hoperand, hactual⟩ :=
      Predicate.conforms_of_compares typed hfits rfl compares
    exact hactual.order?_eq_none_iff hoperand hscalar

/-! ### Probes -/

namespace Declaration

/-- The state of a part, which queries call worn or fine. -/
def wear : Declaration where
  name := "Wear"
  shape := .enumeration [{ name := "Fine" },
    { name := "WornOut", attributes := [.list [.rename "worn"]] }]

/-- A probe, with a reading, the wear of its sensors where it is known and parts that are probes. -/
def probe : Declaration where
  name := "Probe"
  shape := .named [⟨"reading", "Option<f64>", []⟩, ⟨"wear", "Vec<Option<Wear>>", []⟩,
    ⟨"parts", "Option<Vec<Box<Probe>>>", []⟩]

/-- The tables of the state of a part. -/
def wearTables : MemberTables := ⟨["Fine", "worn"], [("Fine", 0), ("WornOut", 1)]⟩

/-- The tables of a probe. -/
def probeTables : RecordTables :=
  recordTables "Probe" [⟨"reading", "reading", "Option<f64>"⟩,
    ⟨"wear", "wear", "Vec<Option<Wear>>"⟩, ⟨"parts", "parts", "Option<Vec<Box<Probe>>>"⟩]

end Declaration

namespace Layouts

open Declaration

/-- The entity of probes. -/
def probe : Entity := ⟨0, "Probe"⟩

/-- What the types of a probe's fields mean. -/
def probeType : String → FieldType
  | "Option<f64>" => .option .float
  | "Vec<Option<Wear>>" => .list (.option wearTables.type)
  | _ => .option (.list (.box (.record probe)))

/-- Every entity is laid out as a probe. -/
def probes : Layouts := fun _ => probeTables.layout probeType

/-- What the fields of a probe hold, with the given content in `parts`. -/
def probeContent (reading parts : Stored) : String → Stored
  | "reading" => reading
  | "wear" => .items [.absent, .present (.scalar (.enumeration 1))]
  | _ => parts

/-- A part whose reading is NaN. -/
def brokenPart : Record :=
  probeTables.record (probeContent (.present (.scalar (.number (.float .nan)))) .absent) 1 probe

/-- A probe without a reading, whose only part is broken. -/
def probeHeld : String → Stored :=
  probeContent .absent
    (.present (.items [.boxed (.record 1 probe .inPlace brokenPart.fields)]))

/-- Some part reads more than two, and some sensor is worn out. -/
def suspicious : List FilterDescriptor :=
  [.leaf
      { field := "parts.reading", operator := ">", values := [.number (.integer 2 (by decide))] },
    .leaf { field := "wear", operator := "@=", values := [.string "WORN"] }]

/-- The predicate that suspicious probes satisfy. -/
def suspect : Predicate :=
  .and [.any ["parts"] (.compare (.field ["reading"]) .gt (.number (.float (.ofInt 2))) false),
    .contains ["wear"] (.enumeration 1) false]

/-- Probes hold content of their types.  The reading of the broken part has no order with a number,
since it is NaN; the place of a worn sensor has one with the place that is asked for. -/
theorem conforms_and_comparable_probe :
    wear.derive = .ok (.enumeration wearTables) ∧
      Declaration.probe.derive = .ok (.record probeTables) ∧
      probeTables.Holds probes probeType probeHeld ∧
      Context.compileFilters ⟨probes.catalog, .empty, {}⟩ (probes.catalog.schema probe)
        suspicious = .ok (some suspect) ∧
      suspect.Compares (probeTables.record probeHeld 0 probe) (.scalar (.number (.float .nan)))
        (.number (.float (.ofInt 2))) ∧
      (Value.scalar (.number (.float .nan))).order? (.scalar (.number (.float (.ofInt 2)))) = none ∧
      suspect.Compares (probeTables.record probeHeld 0 probe) (.scalar (.enumeration 1))
        (.enumeration 1) ∧
      (Value.scalar (.enumeration 1)).order? (.scalar (.enumeration 1)) ≠ none := by
  obtain ⟨-, hmembers, hrecords, hcompared⟩ := probes.conforms_and_comparable
  have hwear : wear.derive = .ok (.enumeration wearTables) := rfl
  have hprobe : Declaration.probe.derive = .ok (.record probeTables) :=
    derive_of_isIdentifier rfl (by decide) rfl (by decide)
  have hsensors : (Stored.items [.absent, .present (.scalar (.enumeration 1))]).ContentOf probes
      (.list (.option wearTables.type)) := by
    have hworn := (hmembers wear wearTables hwear).2 ("WornOut", 1) (by decide)
    refine .items (List.forall_mem_cons.2 ⟨.absent _, List.forall_mem_cons.2 ⟨.present hworn, ?_⟩⟩)
    exact fun _ hx => by cases hx
  have hfields : ∀ reading parts : Stored, reading.ContentOf probes (.option .float) →
      parts.ContentOf probes (.option (.list (.box (.record probe)))) →
        probeTables.Holds probes probeType (probeContent reading parts) := by
    intro reading parts hreading hparts pair hpair
    have hpairs : pair ∈ probeTables.schema.zip probeTables.values := hpair
    simp only [probeTables, recordTables, List.map_cons, List.map_nil, List.zip_cons_cons,
      List.zip_nil_right, List.mem_cons, List.not_mem_nil, or_false] at hpairs
    rcases hpairs with rfl | rfl | rfl
    · exact hreading
    · exact hsensors
    · exact hparts
  have hbroken : (Stored.record 1 probe .inPlace brokenPart.fields).ContentOf probes
      (.record probe) := by
    refine contentOf_record_of_derive hprobe rfl ?_ 1
    exact hfields _ _ (.present (.number (.double .nan))) (.absent _)
  have hheld : probeTables.Holds probes probeType probeHeld := by
    refine hfields _ _ (.absent _) (.present (.items (List.forall_mem_singleton.2 ?_)))
    exact .boxed hbroken
  have hcompiled : Context.compileFilters ⟨probes.catalog, .empty, {}⟩
      (probes.catalog.schema probe) suspicious = .ok (some suspect) := rfl
  have hrecord : (probeTables.record probeHeld 0 probe).IsOf probes probe :=
    hrecords Declaration.probe probeTables hprobe probeType probe rfl probeHeld hheld 0
  have hreading : suspect.Compares (probeTables.record probeHeld 0 probe)
      (.scalar (.number (.float .nan))) (.number (.float (.ofInt 2))) := by
    have hpart : .record brokenPart ∈
        Access.elements ["parts"] (probeTables.record probeHeld 0 probe) := List.mem_cons_self
    exact .and List.mem_cons_self (.any hpart (.compare (.field ["reading"]) _ _ _ brokenPart))
  have hworn : suspect.Compares (probeTables.record probeHeld 0 probe)
      (.scalar (.enumeration 1)) (.enumeration 1) :=
    .and (List.mem_cons_of_mem _ List.mem_cons_self)
      (.contains _ _ (List.mem_cons_of_mem _ List.mem_cons_self))
  have hiff := hcompared _ probe suspicious suspect rfl hcompiled _ hrecord
  refine ⟨hwear, hprobe, hheld, hcompiled, hreading, ?_, hworn, ?_⟩
  · exact (hiff _ _ hreading).2 ⟨rfl, .inl rfl⟩
  · intro hnone
    obtain ⟨-, hnan | hnan⟩ := (hiff _ _ hworn).1 hnone <;> cases hnan

end Layouts

end RecordQuery
