import RecordQuery.Proofs.Identifiers
import RecordQuery.Proofs.Quantifiers

/-!
# Counting and searching in place

The elements of a field are counted and searched on what the field stores, without reading its
value.  What is found in this way agrees with the value (`ReadsAlike`), at the end of every chain of
names (`Access.readsAlike`).

For a declared type three tables are generated, one each for values, counts and elements.  They pair
the same names with the same fields (`Declaration.tables_of_derive`), so that the records of the
type answer as the tables say, and the tables agree as well (`readsAlike_in_place`).
-/

namespace RecordQuery

/-! ### Content -/

/-- Content counts in place what its value counts. -/
theorem Stored.cardinality?_eq (stored : Stored) : stored.cardinality? = stored.value.length? := by
  cases stored with
  | present content => exact cardinality?_eq content
  | boxed content => exact cardinality?_eq content
  | scalar s => cases s <;> rfl
  | json doc => cases doc <;> rfl
  | items elements =>
    rw [cardinality?, value, values_eq_map, Value.length?, List.length_map]
  | _ => rfl

/-- A field counts what its value counts, however it is counted. -/
theorem Record.cardinality?_eq (r : Record) (name : String) :
    r.cardinality? name = (r.read name).length? := by
  unfold cardinality?
  cases r.access with
  | inPlace => exact Stored.cardinality?_eq _
  | throughValue => rfl

/-- The end of a chain counts what the value there counts. -/
theorem Access.cardinality?_eq (access : Access) (r : Record) :
    access.cardinality? r = (access.read r).length? := by
  unfold cardinality? read
  cases access with
  | nil => rfl
  | cons name rest =>
    rw [if_neg (by simp)]
    cases locate? r (name :: rest) with
    | none => rfl
    | some place => exact place.1.cardinality?_eq place.2

/-- A count and the visited elements agree with a value: the count is the one of the value, and some
visited element satisfies a condition when the value is a list and one of its elements does. -/
structure ReadsAlike (value : Value) (count : Option Nat) (visited : List Value) : Prop where
  count_eq : count = value.length?
  found_iff : ∀ condition : Value → Bool, visited.any condition = true ↔
    ∃ xs, value = .list xs ∧ ∃ x ∈ xs, condition x = true

/-- To count and visit what the value counts and holds is to agree with it. -/
theorem ReadsAlike.of_eq {value : Value} {count : Option Nat} {visited : List Value}
    (hcount : count = value.length?) (hvisited : visited = value.items) :
    ReadsAlike value count visited := by
  refine ⟨hcount, fun condition => ?_⟩
  rw [hvisited]
  cases value with
  | list xs =>
    rw [Value.items, List.any_eq_true]
    constructor
    · intro h
      exact ⟨xs, rfl, h⟩
    · rintro ⟨_, ⟨⟩, h⟩
      exact h
  | _ => simp [Value.items]

/-- At the end of every chain, counts and visited elements agree with the value. -/
theorem Access.readsAlike (access : Access) (r : Record) :
    ReadsAlike (access.read r) (access.cardinality? r) (access.elements r) :=
  .of_eq (access.cardinality?_eq r) (access.elements_eq r)

/-! ### Generated tables -/

namespace RecordTables

variable (tables : RecordTables) (content : String → Stored)

/-- The value that the tables give for a name, where `content` says what the fields of the type
hold. -/
def read (name : String) : Value :=
  match lookup tables.values name with
  | some member => (content member).value
  | none => .scalar .null

/-- The count that the tables give for a name. -/
def cardinality? (name : String) : Option Nat :=
  (lookup tables.cardinalities name).bind fun member => (content member).cardinality?

/-- The elements that the tables visit for a name. -/
def visited (name : String) : List Value :=
  match lookup tables.elements name with
  | some member => (content member).elements
  | none => []

/-- The record of a type with these tables. -/
def record (identity : Nat) (entity : Entity) : Record where
  identity := identity
  entity := entity
  access := .inPlace
  fields := tables.values.map fun entry => (entry.1, content entry.2)

/-- A record answers as the tables say. -/
structure AnsweredBy (r : Record) : Prop where
  read_eq : ∀ name, r.read name = tables.read content name
  cardinality?_eq : ∀ name, r.cardinality? name = tables.cardinality? content name
  elements_eq : ∀ name, r.elements name = tables.visited content name

variable {tables content}

/-- A record of a type with tables holds under a name what the field of this name holds. -/
theorem stored_record {identity : Nat} {entity : Entity} (name : String) :
    (tables.record content identity entity).stored name =
      ((lookup tables.values name).map content).getD .absent := by
  unfold Record.stored record lookup
  rw [List.find?_map, Option.map_map]
  have hkey : ((fun entry : String × Stored => entry.1 == name) ∘
      fun entry : String × String => (entry.1, content entry.2)) =
        fun entry => entry.1 == name := rfl
  rw [hkey]
  cases tables.values.find? fun entry => entry.1 == name <;> rfl

/-- When the tables for counts and elements are those for values, records answer as they say. -/
theorem answeredBy_record {identity : Nat} {entity : Entity}
    (hcardinalities : tables.cardinalities = tables.values)
    (helements : tables.elements = tables.values) :
    tables.AnsweredBy content (tables.record content identity entity) := by
  constructor
  case read_eq =>
    intro name
    rw [Record.read, stored_record, read]
    cases lookup tables.values name <;> rfl
  case cardinality?_eq =>
    intro name
    have hstored : (tables.record content identity entity).cardinality? name =
        ((tables.record content identity entity).stored name).cardinality? := rfl
    rw [hstored, stored_record, cardinality?, hcardinalities]
    cases lookup tables.values name <;> rfl
  case elements_eq =>
    intro name
    have hstored : (tables.record content identity entity).elements name =
        ((tables.record content identity entity).stored name).elements := rfl
    rw [hstored, stored_record, visited, helements]
    cases lookup tables.values name <;> rfl

end RecordTables

/-- The tables that are generated for a type all answer to the same names, with the same fields. -/
theorem Declaration.tables_of_derive {d : Declaration} {tables : RecordTables}
    (h : d.derive = .ok (.record tables)) :
    tables.cardinalities = tables.values ∧ tables.elements = tables.values := by
  obtain rfl := tables_eq h
  exact ⟨rfl, rfl⟩

/-! ### Agreement -/

/-- Counting and searching in place agree with reading: at the end of every chain of names from
every record, and in the three tables that are generated for a declared type.  The records of such
a type answer as its tables say. -/
theorem readsAlike_in_place :
    (∀ (access : Access) (r : Record),
      ReadsAlike (access.read r) (access.cardinality? r) (access.elements r)) ∧
      ∀ (d : Declaration) (tables : RecordTables), d.derive = .ok (.record tables) →
        ∀ content : String → Stored,
          (∀ identity entity,
            tables.AnsweredBy content (tables.record content identity entity)) ∧
          ∀ name, ReadsAlike (tables.read content name) (tables.cardinality? content name)
            (tables.visited content name) := by
  refine ⟨Access.readsAlike, ?_⟩
  intro d tables hderive content
  obtain ⟨hcardinalities, helements⟩ := Declaration.tables_of_derive hderive
  have hanswers : ∀ identity entity,
      tables.AnsweredBy content (tables.record content identity entity) :=
    fun _ _ => RecordTables.answeredBy_record hcardinalities helements
  refine ⟨hanswers, fun name => ?_⟩
  -- The record of any identity and entity does.
  obtain ⟨hread, hcount, hvisited⟩ := hanswers 0 ⟨0, d.name⟩
  rw [← hread name, ← hcount name, ← hvisited name]
  exact Access.readsAlike [name] _

/-! ### Orders -/

namespace Declaration

/-- An order, whose lines are called items in queries and may be missing, each and all of them. -/
def order : Declaration where
  name := "Order"
  shape := .named [⟨"id", "u64", []⟩,
    ⟨"r#lines", "Option<Vec<Option<String>>>", [.list [.rename "items"]]⟩,
    ⟨"secret", "String", [.list [.skip]]⟩]

/-- The tables of an order. -/
def orderTables : RecordTables :=
  recordTables "Order"
    [⟨"id", "id", "u64"⟩, ⟨"items", "r#lines", "Option<Vec<Option<String>>>"⟩]

/-- An order of two lines, one of which is missing. -/
def orderContent : String → Stored
  | "r#lines" => .present (.items [.absent, .present (.scalar (.string "tea"))])
  | "secret" => .scalar (.string "gift")
  | _ => .scalar (.number (.unsigned 7))

/-- The items of an order are found under their name in queries, missing ones among them; what is
left out is not found. -/
theorem readsAlike_order :
    order.derive = .ok (.record orderTables) ∧
      (∀ name, ReadsAlike (orderTables.read orderContent name)
        (orderTables.cardinality? orderContent name) (orderTables.visited orderContent name)) ∧
      orderTables.cardinality? orderContent "items" = some 2 ∧
      (∃ xs, orderTables.read orderContent "items" = .list xs ∧ ∃ x ∈ xs, x.isNull = true) ∧
      (orderTables.read orderContent "secret").isNull = true := by
  have hderive : order.derive = .ok (.record orderTables) :=
    derive_of_isIdentifier rfl (by decide) rfl (by decide)
  obtain ⟨-, htables⟩ := readsAlike_in_place
  obtain ⟨-, halike⟩ := htables order orderTables hderive orderContent
  exact ⟨hderive, halike, rfl, ((halike "items").found_iff Value.isNull).1 rfl, rfl⟩

end Declaration

end RecordQuery
