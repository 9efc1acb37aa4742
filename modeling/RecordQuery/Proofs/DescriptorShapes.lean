import RecordQuery.Proofs.DescriptorFields
import RecordQuery.Proofs.JsonWriter

/-!
# Shapes of descriptors

A query is documented as an object, and so is each of its sorts and each of its filters, children of
groups among them.  What is accepted has always fields at these places: no scalar is ever read as a
descriptor (`acceptedShapes`).  But the fields may be listed by an array as well, in the order in
which they are declared, and an array is then read as the object of the same fields
(`Query.ofDocument_array`, and likewise for sorts and filters).
-/

namespace RecordQuery

namespace Document

/-- The document is an object. -/
def isObject : Document → Bool
  | .object _ => true
  | _ => false

/-- The document is an array. -/
def isArray : Document → Bool
  | .array _ => true
  | _ => false

/-- No object is an array. -/
theorem isArray_of_isObject {d : Document} (h : d.isObject = true) : d.isArray = false := by
  cases d with
  | object members => rfl
  | _ => cases h

end Document

namespace Vocabulary

variable {K : Type} (v : Vocabulary K)

/-- A document stands under a key of another, in an object by name and in an array by place. -/
inductive Under (key : K) : Document → Document → Prop where
  | member {members : List (Option String × Document)} {name : String} {x : Document}
      (hname : name ∈ v.spellings key) (h : (some name, x) ∈ members) :
      Under key (.object members) x
  | place {items : List Document} {x : Document} (h : (key, x) ∈ v.keys.zip items) :
      Under key (.array items) x

/-- A document is an item of the array under a key of another. -/
def Lists (key : K) (d x : Document) : Prop := ∃ items, v.Under key d (.array items) ∧ x ∈ items

/-- In an object the array stands under a spelling of the key. -/
theorem lists_object {key : K} {members : List (Option String × Document)} {x : Document} :
    v.Lists key (.object members) x ↔
      ∃ name ∈ v.spellings key, ∃ items, (some name, .array items) ∈ members ∧ x ∈ items := by
  constructor
  · rintro ⟨items, ⟨hname, hmember⟩, hmem⟩
    exact ⟨_, hname, items, hmember, hmem⟩
  · rintro ⟨name, hname, items, hmember, hmem⟩
    exact ⟨items, .member hname hmember, hmem⟩

/-- An object, or an array with an item for no more than the keys. -/
inductive Shaped : Document → Prop where
  | object (members : List (Option String × Document)) : Shaped (.object members)
  | array {items : List Document} (h : items.length ≤ v.keys.length) : Shaped (.array items)

variable {v}

/-- What has the shape of a descriptor and is no array is an object. -/
theorem Shaped.isObject {d : Document} (h : v.Shaped d) (harray : d.isArray = false) :
    d.isObject = true := by
  cases h with
  | object members => rfl
  | array hlength => cases harray

/-- Only objects and arrays list fields. -/
theorem shaped_of_fields? {d : Document} {fields : List (K × Document)}
    (h : v.fields? d = some fields) : v.Shaped d := by
  cases d with
  | object members => exact .object members
  | array items => exact .array (v.fields?_array.1 h).1
  | _ => cases h

/-- What stands under a key is a field. -/
theorem Under.mem_fields {key : K} {d x : Document} (hunder : v.Under key d x)
    {fields : List (K × Document)} (h : v.fields? d = some fields) : (key, x) ∈ fields := by
  cases hunder with
  | @member members name _ hname hmem =>
    have hmembers : v.memberFields? members = some fields := h
    exact v.mem_of_member hmembers hname hmem
  | place hmem =>
    obtain ⟨-, rfl⟩ := v.fields?_array.1 h
    exact hmem

/-- Where all fields could be read together, each array under a key could be read. -/
theorem Lists.exists_set {σ : Type} {set : σ → Document → K → Reading σ} {draft draft' : σ}
    {key : K} {d item : Document} (h : v.Lists key d item) {fields : List (K × Document)}
    (hfields : v.fields? d = some fields) (hread : readFields set draft fields = .ok draft') :
    ∃ items before after, item ∈ items ∧ set before (.array items) key = .ok after := by
  obtain ⟨items, hunder, hmem⟩ := h
  obtain ⟨before, after, hset⟩ := exists_set_of_mem hread (hunder.mem_fields hfields)
  exact ⟨items, before, after, hmem, hset⟩

/-- What depends on listed fields only is the same for an array and for the object of its items. -/
theorem array_iff_object {name : K → String} (hname : ∀ key, name key ∈ v.spellings key)
    {items : List Document} {p : Prop} {q : List (K × Document) → Prop} :
    (p ∧ ∃ fields, v.fields? (.array items) = some fields ∧ q fields) ↔
      items.length ≤ v.keys.length ∧ p ∧
        ∃ fields, v.fields? (object name (v.keys.zip items)) = some fields ∧ q fields := by
  simp only [v.fields?_object hname, v.fields?_array, Option.some.injEq]
  constructor
  · rintro ⟨hp, -, ⟨hlength, rfl⟩, hq⟩
    exact ⟨hlength, hp, _, rfl, hq⟩
  · rintro ⟨hlength, hp, -, rfl, hq⟩
    exact ⟨hp, _, ⟨hlength, rfl⟩, hq⟩

end Vocabulary

/-! ### Filters -/

namespace FilterDescriptor

/-- The filter itself or a filter among the children of its groups. -/
inductive Place : Document → Document → Prop where
  | here (d : Document) : Place d d
  | child {d item x : Document} (h : FilterKey.vocabulary.Lists .or d item)
      (hrest : Place item x) : Place d x

/-- The items of the children of an accepted filter are accepted filters. -/
theorem accepted_of_lists {levels : Nat} {d item : Document} {filter : FilterDescriptor}
    (h : ofDocument levels d = .ok filter) (hitem : FilterKey.vocabulary.Lists .or d item) :
    ∃ levels child, ofDocument levels item = .ok child := by
  obtain ⟨-, fields, hfields, draft, hread, -⟩ := ofDocument_eq_ok.1 h
  obtain ⟨items, before, after, hmem, hset⟩ := hitem.exists_set hfields hread
  rcases set_cases hset with ⟨-, children, hchildren, -⟩ | ⟨hne, -⟩
  · exact accepted_of_mem_items hchildren hmem
  · exact absurd rfl hne

/-- At every place of an accepted filter there is an object or an array. -/
theorem shaped_of_place {d x : Document} (hplace : Place d x) {levels : Nat}
    {filter : FilterDescriptor} (h : ofDocument levels d = .ok filter) :
    FilterKey.vocabulary.Shaped x := by
  induction hplace generalizing levels filter with
  | here d =>
    obtain ⟨-, fields, hfields, -⟩ := ofDocument_eq_ok.1 h
    exact Vocabulary.shaped_of_fields? hfields
  | child hlists hrest ih =>
    obtain ⟨left, child, hchild⟩ := accepted_of_lists h hlists
    exact ih hchild

end FilterDescriptor

/-! ### Queries -/

namespace Query

variable {levels : Nat} {d item : Document} {query : Query}

/-- The items of the filters of an accepted query are accepted filters. -/
theorem accepted_of_lists_filters (h : ofDocument levels d = .ok query)
    (hitem : QueryKey.vocabulary.Lists .filters d item) :
    ∃ levels filter, FilterDescriptor.ofDocument levels item = .ok filter := by
  obtain ⟨-, fields, hfields, draft, hread, -⟩ := ofDocument_eq_ok.1 h
  obtain ⟨items, before, after, hmem, hset⟩ := hitem.exists_set hfields hread
  obtain ⟨-, filters, hfilters, -⟩ := Reading.once_eq_ok.1 hset
  exact FilterDescriptor.accepted_of_mem_items hfilters hmem

/-- The items of the sorts of an accepted query are accepted sorts. -/
theorem accepted_of_lists_sorts (h : ofDocument levels d = .ok query)
    (hitem : QueryKey.vocabulary.Lists .sorts d item) :
    ∃ levels sort, SortDescriptor.ofDocument levels item = .ok sort := by
  obtain ⟨-, fields, hfields, draft, hread, -⟩ := ofDocument_eq_ok.1 h
  obtain ⟨items, before, after, hmem, hset⟩ := hitem.exists_set hfields hread
  obtain ⟨-, sorts, hsorts, -⟩ := Reading.once_eq_ok.1 hset
  obtain ⟨-, others, heq, hall⟩ := SortDescriptor.ofArray_eq_ok.1 hsorts
  cases heq
  obtain ⟨sort, -, hsort⟩ := Outcome.exists_mem_of_mapM_ok hall hmem
  exact ⟨_, sort, hsort⟩

/-- A document at which the query, a sort or a filter stands. -/
inductive Position (d : Document) : Document → Prop where
  | query : Position d d
  | sort {x : Document} (h : QueryKey.vocabulary.Lists .sorts d x) : Position d x
  | filter {filter x : Document} (h : QueryKey.vocabulary.Lists .filters d filter)
      (hplace : FilterDescriptor.Place filter x) : Position d x

end Query

/-! ### Arrays in place of objects -/

/-- An array is read as the object of the fields of a filter. -/
theorem FilterDescriptor.ofDocument_array {name : FilterKey → String}
    (hname : ∀ key, name key ∈ key.spellings) {levels : Nat} {items : List Document}
    {filter : FilterDescriptor} :
    ofDocument levels (.array items) = .ok filter ↔ items.length ≤ FilterKey.all.length ∧
      ofDocument levels (Vocabulary.object name (FilterKey.all.zip items)) = .ok filter := by
  rw [ofDocument_eq_ok, ofDocument_eq_ok]
  exact Vocabulary.array_iff_object hname

/-- An array is read as the object of the fields of a sort. -/
theorem SortDescriptor.ofDocument_array {name : SortField → String}
    (hname : ∀ key, name key ∈ key.spellings) {levels : Nat} {items : List Document}
    {sort : SortDescriptor} :
    ofDocument levels (.array items) = .ok sort ↔ items.length ≤ SortField.all.length ∧
      ofDocument levels (Vocabulary.object name (SortField.all.zip items)) = .ok sort := by
  rw [ofDocument_eq_ok, ofDocument_eq_ok]
  exact Vocabulary.array_iff_object hname

/-- An array is read as the object of the fields of a query. -/
theorem Query.ofDocument_array {name : QueryKey → String}
    (hname : ∀ key, name key ∈ key.spellings) {levels : Nat} {items : List Document}
    {query : Query} :
    ofDocument levels (.array items) = .ok query ↔ items.length ≤ QueryKey.all.length ∧
      ofDocument levels (Vocabulary.object name (QueryKey.all.zip items)) = .ok query := by
  rw [ofDocument_eq_ok, ofDocument_eq_ok]
  exact Vocabulary.array_iff_object hname

/-! ### Texts -/

/-- The shapes of the descriptors in the document of a query. -/
structure AcceptedShapes (d : Document) : Prop where
  /-- The query is an object or an array. -/
  query_shaped : QueryKey.vocabulary.Shaped d
  /-- Each of its sorts is an object or an array. -/
  sort_shaped : ∀ sort, QueryKey.vocabulary.Lists .sorts d sort → SortField.vocabulary.Shaped sort
  /-- Each of its filters is an object or an array, and so are the children of groups. -/
  filter_shaped : ∀ filter, QueryKey.vocabulary.Lists .filters d filter →
    ∀ x, FilterDescriptor.Place filter x → FilterKey.vocabulary.Shaped x

/-- Descriptors are objects where they are no arrays. -/
theorem AcceptedShapes.isObject {d x : Document} (h : AcceptedShapes d)
    (hx : Query.Position d x) (harray : x.isArray = false) : x.isObject = true := by
  cases hx with
  | query => exact h.query_shaped.isObject harray
  | sort hlists => exact (h.sort_shaped x hlists).isObject harray
  | filter hlists hplace => exact (h.filter_shaped _ hlists x hplace).isObject harray

/-- The descriptors of an accepted query are objects or arrays of fields, and never scalars.  All of
them are objects exactly if none is an array. -/
theorem acceptedShapes {text : String} {query : Query} (h : Query.ofText text = .ok query) :
    AcceptedShapes (Document.read text.toList).1 ∧
      ((∀ x, Query.Position (Document.read text.toList).1 x → x.isObject = true) ↔
        ∀ x, Query.Position (Document.read text.toList).1 x → x.isArray = false) := by
  obtain ⟨d, hread, hd⟩ := Query.ofText_eq_ok.1 h
  rw [hread]
  have hshapes : AcceptedShapes d := by
    refine ⟨?_, ?_, ?_⟩
    · obtain ⟨-, fields, hfields, -⟩ := Query.ofDocument_eq_ok.1 hd
      exact Vocabulary.shaped_of_fields? hfields
    · intro sort hlists
      obtain ⟨levels, accepted, hsort⟩ := Query.accepted_of_lists_sorts hd hlists
      obtain ⟨-, fields, hfields, -⟩ := SortDescriptor.ofDocument_eq_ok.1 hsort
      exact Vocabulary.shaped_of_fields? hfields
    · intro filter hlists x hplace
      obtain ⟨levels, accepted, hfilter⟩ := Query.accepted_of_lists_filters hd hlists
      exact FilterDescriptor.shaped_of_place hplace hfilter
  refine ⟨hshapes, ?_, ?_⟩
  · intro hobjects x hx
    exact Document.isArray_of_isObject (hobjects x hx)
  · intro harrays x hx
    exact hshapes.isObject hx (harrays x hx)

/-- A query for a name, with a filter that is an object. -/
def namedQuery : Document :=
  .object [(some "filters", .array [.object [(some "field", .string "name")]])]

/-- Neither the query nor its only filter is an array. -/
theorem isArray_of_position_namedQuery {x : Document} (h : Query.Position namedQuery x) :
    x.isArray = false := by
  cases h with
  | query => rfl
  | sort hlists =>
    simp [namedQuery, Vocabulary.lists_object, QueryKey.vocabulary, QueryKey.spellings] at hlists
  | @filter filter x hlists hplace =>
    obtain rfl : filter = .object [(some "field", .string "name")] := by
      simpa [namedQuery, Vocabulary.lists_object, QueryKey.vocabulary, QueryKey.spellings]
        using hlists
    cases hplace with
    | here => rfl
    | child hchild => simp [Vocabulary.lists_object] at hchild

/-- The filters of documented queries are objects. -/
theorem acceptedShapes_named :
    Query.ofText "\x7b\"filters\":[\x7b\"field\":\"name\"\x7d]\x7d" =
        .ok { filters := [.leaf { field := "name" }] } ∧
      (∀ x, Query.Position
        (Document.read "\x7b\"filters\":[\x7b\"field\":\"name\"\x7d]\x7d".toList).1 x →
          x.isArray = false) ∧
      ∀ x, Query.Position
        (Document.read "\x7b\"filters\":[\x7b\"field\":\"name\"\x7d]\x7d".toList).1 x →
          x.isObject = true := by
  have htext : namedQuery.text = "\x7b\"filters\":[\x7b\"field\":\"name\"\x7d]\x7d" := by
    decide
  have hread := Document.read_of_writes (Document.writes_text
    (show namedQuery.isWritable = true by decide))
  rw [← htext]
  have haccepted : Query.ofText namedQuery.text =
      .ok { filters := [.leaf { field := "name" }] } :=
    Query.ofText_eq_ok.2 ⟨_, hread, rfl⟩
  have harrays : ∀ x, Query.Position (Document.read namedQuery.text.toList).1 x →
      x.isArray = false := by
    rw [hread]
    exact fun x hx => isArray_of_position_namedQuery hx
  exact ⟨haccepted, harrays, (acceptedShapes haccepted).2.2 harrays⟩

/-- A filter as an array of its fields. -/
def listedName : Document :=
  .array [.string "name", .string "==", .array [.string "alice"]]

/-- An array among the filters of a query is accepted as a filter. -/
theorem ofText_listedName :
    Query.ofText "\x7b\"filters\":[[\"name\",\"==\",[\"alice\"]]]\x7d" =
        .ok { filters := [.leaf { field := "name", values := [.string "alice"] }] } ∧
      Query.Position
        (Document.read "\x7b\"filters\":[[\"name\",\"==\",[\"alice\"]]]\x7d".toList).1
          listedName ∧
      listedName.isObject = false := by
  have htext : (Document.object [(some "filters", .array [listedName])]).text =
      "\x7b\"filters\":[[\"name\",\"==\",[\"alice\"]]]\x7d" := by decide
  have hread := Document.read_of_writes (Document.writes_text
    (show (Document.object [(some "filters", .array [listedName])]).isWritable = true by decide))
  rw [← htext]
  refine ⟨Query.ofText_eq_ok.2 ⟨_, hread, rfl⟩, ?_, rfl⟩
  rw [hread]
  exact .filter ⟨[listedName], .member (by decide) List.mem_cons_self, List.mem_cons_self⟩
    (.here listedName)

end RecordQuery
