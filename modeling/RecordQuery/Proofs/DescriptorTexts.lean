import RecordQuery.Proofs.JsonWriter
import RecordQuery.Proofs.WrittenDescriptors

/-!
# Texts of descriptors

Every descriptor is written by the object of its documented keys, and every text that holds an
object that spells a descriptor is read as the descriptor (`writtenForms`).  The one thing that is
lost on the way are digits: a decimal number with many of them, or with a large power of ten, may be
read as a neighbour of the double that it stands for.
-/

namespace RecordQuery

variable {number : NumberLiteral → Option Numeral}

/-! ### Forms of keys -/

namespace Vocabulary

variable {K : Type} {v : Vocabulary K} {fields : List (K × Document)}

/-- The documented name of a key is its first spelling. -/
def name (v : Vocabulary K) (key : K) : String := (v.spellings key).headD ""

/-- A name in Pascal case. -/
def pascalCase (name : String) : String :=
  String.ofList ((name.toList.take 1).map Char.toUpper ++ name.toList.drop 1)

/-- A name in camel case, in lower case and in Pascal case. -/
def forms (name : String) : List String :=
  [name, String.ofList (name.toList.map Char.toLower), pascalCase name]

/-- Every key is accepted in all forms of its documented name. -/
def AcceptsForms (v : Vocabulary K) : Prop :=
  ∀ key, ∀ form ∈ forms (v.name key), form ∈ v.spellings key

/-- The object of fields under accepted names spells them. -/
theorem spells_object {name : K → String} (hname : ∀ key, name key ∈ v.spellings key)
    {holds : K → Document → Prop} {optional : K → Prop} (hnodup : (fields.map Prod.fst).Nodup)
    (hholds : ∀ field ∈ fields, holds field.1 field.2)
    (hcomplete : ∀ key, key ∈ fields.map Prod.fst ∨ optional key) :
    v.Spells holds optional (fields.map fun field => (some (name field.1), field.2)) fields :=
  ⟨v.forall₂_object hname fields, hnodup, fun key d hmem => hholds (key, d) hmem, hcomplete⟩

/-- The object of fields has a text when the fields have. -/
theorem isWritable_object (name : K → String) (h : ∀ field ∈ fields, field.2.isWritable = true) :
    (object name fields).isWritable = true := by
  rw [object, Document.isWritable, Document.membersWritable_iff]
  intro member hmem
  obtain ⟨field, hfield, rfl⟩ := List.mem_map.1 hmem
  exact ⟨rfl, h field hfield⟩

/-- The documented names are accepted. -/
theorem AcceptsForms.name_mem (h : v.AcceptsForms) (key : K) : v.name key ∈ v.spellings key :=
  h key _ List.mem_cons_self

/-- The documented names are accepted in Pascal case. -/
theorem AcceptsForms.pascalCase_mem (h : v.AcceptsForms) (key : K) :
    pascalCase (v.name key) ∈ v.spellings key :=
  h key _ (by simp [forms])

end Vocabulary

example : FilterKey.all.map FilterKey.vocabulary.name =
    ["field", "operator", "values", "vector", "json", "or"] := by decide

theorem FilterKey.acceptsForms : vocabulary.AcceptsForms := by
  intro key
  cases key <;> decide

theorem SortField.acceptsForms : vocabulary.AcceptsForms := by
  intro key
  cases key <;> decide

theorem QueryKey.acceptsForms : vocabulary.AcceptsForms := by
  intro key
  cases key <;> decide

/-! ### Documents of descriptors -/

/-- The operand is written by a document that has a text and means the operand. -/
def WritesOperand (number : NumberLiteral → Option Numeral) (write : Json → Document) (j : Json) :
    Prop :=
  (write j).isWritable = true ∧ (write j).meaning? number = some j

/-- What is written one by one has a text. -/
theorem itemsWritable_map {α : Type} {write : α → Document} {as : List α}
    (h : ∀ a ∈ as, (write a).isWritable = true) : Document.itemsWritable (as.map write) = true := by
  rw [Document.itemsWritable_iff]
  intro d hmem
  obtain ⟨a, ha, rfl⟩ := List.mem_map.1 hmem
  exact h a ha

namespace FilterDescriptor

mutual

/-- The operands of a filter. -/
def operands : FilterDescriptor → List Json
  | .leaf l => l.values
  | .group children => operandsOf children

/-- The operands of filters. -/
def operandsOf : List FilterDescriptor → List Json
  | [] => []
  | filter :: filters => operands filter ++ operandsOf filters

end

mutual

/-- A filter under its documented keys, the operands written by `write`. -/
def document (write : Json → Document) : FilterDescriptor → Document
  | .leaf l =>
    Vocabulary.object FilterKey.vocabulary.name
      [(.field, .string l.field), (.operator, .string l.operator),
        (.values, .array (l.values.map write)), (.vector, .bool l.vector), (.json, .bool l.json)]
  | .group children =>
    Vocabulary.object FilterKey.vocabulary.name [(.or, .array (documents write children))]

/-- Filters under their documented keys. -/
def documents (write : Json → Document) : List FilterDescriptor → List Document
  | [] => []
  | filter :: filters => document write filter :: documents write filters

end

mutual

/-- The document of a filter spells it and has a text. -/
theorem spells_document {write : Json → Document} : ∀ {filter : FilterDescriptor},
    (∀ j ∈ filter.operands, WritesOperand number write j) →
      filter.Spells number (filter.document write) ∧ (filter.document write).isWritable = true
  | .leaf l, h => by
    have hvalues : Document.itemMeanings? number (l.values.map write) = some l.values :=
      Document.itemMeanings?_map fun j hj => (h j hj).2
    have hitems : Document.itemsWritable (l.values.map write) = true :=
      itemsWritable_map fun j hj => (h j hj).1
    constructor
    · refine .object .nil
        (Vocabulary.spells_object FilterKey.acceptsForms.name_mem (by simp) ?_ ?_)
      · simp [FilterContent.Holds, content, Document.meaning?, hvalues]
      · intro key
        cases key <;> simp [FilterContent.MayLack, content]
    · refine Vocabulary.isWritable_object _ ?_
      simp [Document.isWritable, hitems]
  | .group children, h => by
    obtain ⟨hspells, hwritable⟩ := spellsAll_documents h
    constructor
    · refine .object hspells
        (Vocabulary.spells_object FilterKey.acceptsForms.name_mem (by simp) ?_ ?_)
      · simp [FilterContent.Holds]
      · intro key
        cases key <;> simp [FilterContent.MayLack, content]
    · refine Vocabulary.isWritable_object _ ?_
      simp [Document.isWritable, hwritable]

/-- The documents of filters spell them and have texts. -/
theorem spellsAll_documents {write : Json → Document} : ∀ {filters : List FilterDescriptor},
    (∀ j ∈ operandsOf filters, WritesOperand number write j) →
      SpellsAll number filters (documents write filters) ∧
        Document.itemsWritable (documents write filters) = true
  | [], _ => ⟨.nil, rfl⟩
  | filter :: filters, h => by
    rw [operandsOf] at h
    obtain ⟨hfirst, hwritable⟩ := spells_document fun j hj => h j (List.mem_append_left _ hj)
    obtain ⟨hrest, hmore⟩ := spellsAll_documents fun j hj => h j (List.mem_append_right _ hj)
    refine ⟨.cons hfirst hrest, ?_⟩
    rw [documents, Document.itemsWritable, hwritable, hmore]
    rfl

end

end FilterDescriptor

namespace SortDescriptor

/-- A sort under its documented keys. -/
def document (sort : SortDescriptor) : Document :=
  Vocabulary.object SortField.vocabulary.name [(.field, .string sort.field),
    (.direction, .string sort.direction.text), (.json, .bool sort.json)]

/-- The document of a sort spells it and has a text. -/
theorem spells_document (sort : SortDescriptor) :
    sort.Spells sort.document ∧ sort.document.isWritable = true := by
  constructor
  · refine ⟨_, _, rfl,
      Vocabulary.spells_object SortField.acceptsForms.name_mem (by simp) ?_ ?_⟩
    · simp [Holds]
    · intro key
      cases key <;> simp
  · refine Vocabulary.isWritable_object _ ?_
    simp [Document.isWritable]

/-- The documents of sorts spell them and have texts. -/
theorem spells_documents (sorts : List SortDescriptor) :
    List.Forall₂ Spells sorts (sorts.map document) ∧
      Document.itemsWritable (sorts.map document) = true := by
  constructor
  · rw [List.forall₂_map_right_iff]
    exact List.forall₂_same.2 fun sort _ => sort.spells_document.1
  · exact itemsWritable_map fun sort _ => sort.spells_document.2

end SortDescriptor

namespace Query

/-- The numbers of the page and the operands of the filters. -/
def operands (query : Query) : List Json :=
  pageValue query.page :: pageValue query.pageSize :: FilterDescriptor.operandsOf query.filters

/-- A query under its documented keys, page and operands written by `write`. -/
def document (write : Json → Document) (query : Query) : Document :=
  Vocabulary.object QueryKey.vocabulary.name [(.page, write (pageValue query.page)),
    (.pageSize, write (pageValue query.pageSize)),
    (.sorts, .array (query.sorts.map SortDescriptor.document)),
    (.filters, .array (FilterDescriptor.documents write query.filters))]

/-- The document of a query spells it and has a text. -/
theorem spells_document {write : Json → Document} {query : Query}
    (h : ∀ j ∈ query.operands, WritesOperand number write j) :
    query.Spells number (query.document write) ∧ (query.document write).isWritable = true := by
  unfold operands at h
  simp only [List.mem_cons, forall_eq_or_imp] at h
  obtain ⟨⟨hpageText, hpage⟩, ⟨hsizeText, hsize⟩, h⟩ := h
  obtain ⟨hfilters, hfilterTexts⟩ := FilterDescriptor.spellsAll_documents h
  obtain ⟨hsorts, hsortTexts⟩ := SortDescriptor.spells_documents query.sorts
  constructor
  · refine ⟨_, _, rfl,
      Vocabulary.spells_object QueryKey.acceptsForms.name_mem (by simp) ?_ ?_⟩
    · simp [Holds, hpage, hsize, hfilters, hsorts]
    · intro key
      cases key <;> simp
  · refine Vocabulary.isWritable_object _ ?_
    simp [Document.isWritable, hpageText, hsizeText, hfilterTexts, hsortTexts]

end Query

/-! ### Texts -/

/-- How descriptors are written and read.  `number` are the numbers that the writer of a text takes
number literals for. -/
structure WrittenForms : Prop where
  /-- A filter is read from every text that spells it. -/
  filter_of_text : ∀ {number : NumberLiteral → Option Numeral} {filter : FilterDescriptor}
    {d : Document} {text : String}, filter.WellFormed → filter.Spells number d →
      d.Within number nestingLimit → d.Writes text → FilterDescriptor.ofText text = .ok filter
  /-- A sort is read from every text that spells it. -/
  sort_of_text : ∀ {sort : SortDescriptor} {d : Document} {text : String}, sort.Spells d →
    d.depth ≤ nestingLimit → d.Writes text → SortDescriptor.ofText text = .ok sort
  /-- A query is read from every text that spells it. -/
  query_of_text : ∀ {number : NumberLiteral → Option Numeral} {query : Query} {d : Document}
    {text : String}, query.WellFormed → query.Spells number d →
      d.Within number nestingLimit → d.Writes text → Query.ofText text = .ok query
  /-- Whole numbers of 64 bits and short decimals are read as the numbers that they stand for. -/
  numeral_eq : ∀ {l : NumberLiteral}, l.IsWhole ∨ l.IsShort → l.numeral? = l.nearest?
  /-- Keys are accepted in camel case, in lower case and in Pascal case. -/
  forms : FilterKey.vocabulary.AcceptsForms ∧ SortField.vocabulary.AcceptsForms ∧
    QueryKey.vocabulary.AcceptsForms
  /-- Every filter has a document that spells it, if its operands have documents. -/
  filter_written : ∀ {number : NumberLiteral → Option Numeral} {write : Json → Document}
    {filter : FilterDescriptor}, (∀ j ∈ filter.operands, WritesOperand number write j) →
      ∃ d text, filter.Spells number d ∧ d.Writes text
  /-- Every sort has a document that spells it. -/
  sort_written : ∀ sort : SortDescriptor, ∃ d text, sort.Spells d ∧ d.Writes text
  /-- Every query has a document that spells it, if its page and its operands have documents. -/
  query_written : ∀ {number : NumberLiteral → Option Numeral} {write : Json → Document}
    {query : Query}, (∀ j ∈ query.operands, WritesOperand number write j) →
      ∃ d text, query.Spells number d ∧ d.Writes text
  /-- Every leaf of an accepted filter has a field that is not blank, and every group a child. -/
  filter_wellFormed : ∀ {text : String} {filter : FilterDescriptor},
    FilterDescriptor.ofText text = .ok filter → filter.WellFormed
  /-- So it is in an accepted query. -/
  query_wellFormed : ∀ {text : String} {query : Query},
    Query.ofText text = .ok query → query.WellFormed

/-- Descriptors are written and read as the documentation has it, apart from the digits of long
decimals. -/
theorem writtenForms : WrittenForms where
  filter_of_text hwell hspells hd htext :=
    FilterDescriptor.ofText_eq_ok.2 ⟨_, Document.read_of_writes htext,
      FilterDescriptor.ofDocument_of_spells hspells hwell hd⟩
  sort_of_text hspells hd htext :=
    have hwithin : Document.Within NumberLiteral.numeral? nestingLimit _ := ⟨hd, fun _ _ => rfl⟩
    SortDescriptor.ofText_eq_ok.2 ⟨_, Document.read_of_writes htext,
      SortDescriptor.ofDocument_of_spells hspells hwithin⟩
  query_of_text hwell hspells hd htext :=
    Query.ofText_eq_ok.2 ⟨_, Document.read_of_writes htext,
      Query.ofDocument_of_spells hspells hwell hd⟩
  numeral_eq h := h.elim NumberLiteral.IsWhole.isExact NumberLiteral.IsShort.isExact
  forms := ⟨FilterKey.acceptsForms, SortField.acceptsForms, QueryKey.acceptsForms⟩
  filter_written h :=
    have hd := FilterDescriptor.spells_document h
    ⟨_, _, hd.1, Document.writes_text hd.2⟩
  sort_written sort := ⟨_, _, sort.spells_document.1, Document.writes_text sort.spells_document.2⟩
  query_written h :=
    have hd := Query.spells_document h
    ⟨_, _, hd.1, Document.writes_text hd.2⟩
  filter_wellFormed h := by
    obtain ⟨d, -, hd⟩ := FilterDescriptor.ofText_eq_ok.1 h
    exact FilterDescriptor.wellFormed_of_ofDocument hd
  query_wellFormed h := by
    obtain ⟨d, -, hd⟩ := Query.ofText_eq_ok.1 h
    exact Query.wellFormed_of_ofDocument hd

/-- A leaf with one number as its operand. -/
def rated (x : Double) : FilterDescriptor :=
  .leaf { field := "rating", values := [.number (.float x)] }

theorem wellFormed_rated (x : Double) : (rated x).WellFormed :=
  .leaf (show Text.allBlank "rating".toList = false by decide)

/-- The keys of the leaf in Pascal case, the operand first, defaults left out. -/
def ratedDocument (l : NumberLiteral) : Document :=
  Vocabulary.object (fun key => Vocabulary.pascalCase (FilterKey.vocabulary.name key))
    [(.values, .array [.number l]), (.field, .string "rating")]

/-- The document spells the leaf of the number that its literal stands for. -/
theorem spells_ratedDocument {l : NumberLiteral} {x : Double} (h : number l = some (.float x)) :
    (rated x).Spells number (ratedDocument l) := by
  refine .object .nil
    (Vocabulary.spells_object FilterKey.acceptsForms.pascalCase_mem (by simp) ?_ ?_)
  · simp [FilterContent.Holds, rated, FilterDescriptor.content, Document.meaning?,
      Document.itemMeanings?, h]
  · intro key
    cases key <;> simp [FilterContent.MayLack, rated, FilterDescriptor.content]

/-- The document is within the limits of reading when its literal is. -/
theorem within_ratedDocument {l : NumberLiteral} (h : l.numeral? = number l) :
    (ratedDocument l).Within number nestingLimit := by
  refine ⟨show 2 ≤ nestingLimit by decide, fun other hmem => ?_⟩
  obtain rfl : other = l := List.mem_singleton.1 hmem
  exact h

/-- Four and a half. -/
def fourAndAHalf : NumberLiteral := ⟨false, ['4'], ['5'], none⟩

/-- Four and a half is read as the double that it is. -/
theorem writtenForms_rated :
    FilterDescriptor.ofText "\x7b\"Values\":[4.5],\"Field\":\"rating\"\x7d" =
      .ok (rated (.ofBits 0x4012000000000000)) := by
  have htext : (ratedDocument fourAndAHalf).text =
      "\x7b\"Values\":[4.5],\"Field\":\"rating\"\x7d" := by decide
  have hnumber : fourAndAHalf.nearest? = some (.float (.ofBits 0x4012000000000000)) := by
    decide +kernel
  have hshort : fourAndAHalf.IsShort := ⟨by decide, by decide⟩
  rw [← htext]
  exact writtenForms.filter_of_text (wellFormed_rated _) (spells_ratedDocument hnumber)
    (within_ratedDocument (writtenForms.numeral_eq (.inr hshort)))
    (Document.writes_text (by decide))

/-- Ten to the power of minus twenty-three. -/
def tiny : NumberLiteral := ⟨false, ['1'], [], some (true, ['2', '3'])⟩

/-- A text of `1e-23` spells a leaf with the double nearest to this number, but it is read as a leaf
with the next double above. -/
theorem ofText_tiny :
    (rated (.ofBits 0x3B282DB34012B251)).WellFormed ∧
      (rated (.ofBits 0x3B282DB34012B251)).Spells NumberLiteral.nearest? (ratedDocument tiny) ∧
      (ratedDocument tiny).depth ≤ nestingLimit ∧
      (ratedDocument tiny).Writes "\x7b\"Values\":[1e-23],\"Field\":\"rating\"\x7d" ∧
      FilterDescriptor.ofText "\x7b\"Values\":[1e-23],\"Field\":\"rating\"\x7d" =
        .ok (rated (.ofBits 0x3B282DB34012B252)) ∧
      rated (.ofBits 0x3B282DB34012B251) ≠ rated (.ofBits 0x3B282DB34012B252) := by
  have hnearest : tiny.nearest? = some (.float (.ofBits 0x3B282DB34012B251)) := by decide +kernel
  have hread : tiny.numeral? = some (.float (.ofBits 0x3B282DB34012B252)) := by decide +kernel
  have htext : (ratedDocument tiny).text = "\x7b\"Values\":[1e-23],\"Field\":\"rating\"\x7d" := by
    decide
  have hwrites : (ratedDocument tiny).Writes (ratedDocument tiny).text :=
    Document.writes_text (by decide)
  have hwithin : (ratedDocument tiny).Within NumberLiteral.numeral? nestingLimit :=
    within_ratedDocument rfl
  rw [← htext]
  refine ⟨wellFormed_rated _, spells_ratedDocument hnearest, hwithin.depth_le, hwrites, ?_, ?_⟩
  · exact FilterDescriptor.ofText_eq_ok.2 ⟨_, Document.read_of_writes hwrites,
      FilterDescriptor.ofDocument_of_spells (spells_ratedDocument hread) (wellFormed_rated _)
        hwithin⟩
  · have hne : Double.ofBits 0x3B282DB34012B251 ≠ Double.ofBits 0x3B282DB34012B252 := by decide
    simpa [rated] using hne

end RecordQuery
