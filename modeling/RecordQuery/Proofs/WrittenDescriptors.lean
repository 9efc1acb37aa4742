import Mathlib.Data.List.Forall2
import RecordQuery.Proofs.DescriptorFields
import RecordQuery.Proofs.DocumentMeaning
import RecordQuery.Proofs.JsonGrammar
import RecordQuery.Proofs.NumberLiterals

/-!
# Written descriptors

A descriptor is written as an object under the keys of its kind.  `FilterDescriptor.Spells`,
`SortDescriptor.Spells` and `Query.Spells` say which documents do so: members in any order, each
under any spelling of its key, no key twice, and keys that hold their default present or left out.
These relations know nothing of the reader.  A text that holds such a document is read as the
descriptor, as long as containers are not nested too deeply and number literals are read as the
numbers that they stand for; and everything that is accepted has a field in each leaf and a child in
each group.
-/

namespace RecordQuery

variable {number : NumberLiteral → Option Numeral}

/-- The members of an object spell fields: one by one they stand under a spelling of the field's key
and hold what belongs to the key.  No key occurs twice, and a key that does not occur may be left
out. -/
structure Vocabulary.Spells {K : Type} (v : Vocabulary K) (holds : K → Document → Prop)
    (optional : K → Prop) (members : List (Option String × Document))
    (fields : List (K × Document)) : Prop where
  spelled : List.Forall₂ (fun member field => ∃ name ∈ v.spellings field.1,
    member = (some name, field.2)) members fields
  nodup : (fields.map Prod.fst).Nodup
  holds_of_mem : ∀ key d, (key, d) ∈ fields → holds key d
  complete : ∀ key, key ∈ fields.map Prod.fst ∨ optional key

namespace Vocabulary

variable {K σ : Type} {v : Vocabulary K} {holds : K → Document → Prop} {optional : K → Prop}
  {members : List (Option String × Document)} {fields : List (K × Document)}

/-- Every field is a member. -/
theorem Spells.exists_member (h : v.Spells holds optional members fields) {key : K} {d : Document}
    (hmem : (key, d) ∈ fields) : ∃ name, (some name, d) ∈ members := by
  obtain ⟨name, -, hin⟩ := v.exists_member_of_mem (v.memberFields?_eq h.spelled) hmem
  exact ⟨name, hin⟩

/-- The fields that an object spells are read, when each can be read into what has been read of
other keys before. -/
theorem Spells.exists_readFields {set : σ → Document → K → Reading σ} {draft : σ}
    (inv : List K → σ → Prop) (h : v.Spells holds optional members fields)
    (hstep : ∀ seen draft key d, (key, d) ∈ fields → key ∉ seen → inv seen draft → holds key d →
      ∃ draft', set draft d key = .ok draft' ∧ inv (key :: seen) draft')
    (hstart : inv [] draft) :
    ∃ draft' seen, readFields set draft fields = .ok draft' ∧ inv seen draft' ∧
      ∀ key, key ∈ seen ∨ optional key := by
  obtain ⟨draft', seen, hread, hinv, hseen⟩ := Vocabulary.exists_readFields
    (fun seen draft key d hmem hnew hinv =>
      hstep seen draft key d hmem hnew hinv (h.holds_of_mem key d hmem))
    h.nodup (fun _ _ => List.not_mem_nil) hstart
  exact ⟨draft', seen, hread, hinv, fun key => (h.complete key).imp_left (hseen key)⟩

/-- What may be left out under a key is none. -/
theorem bind_seen [DecidableEq K] {α : Type} {key : K} {seen : List K} {a : Option α}
    (h : key ∈ seen ∨ a = none) : (if key ∈ seen then some a else none).bind id = a := by
  by_cases hkey : key ∈ seen
  · simp [hkey]
  · simp [hkey, h.resolve_left hkey]

/-- What may be left out under a key is the default. -/
theorem getD_seen [DecidableEq K] {α : Type} {key : K} {seen : List K} {a default : α}
    (h : key ∈ seen ∨ a = default) : (if key ∈ seen then some a else none).getD default = a := by
  by_cases hkey : key ∈ seen
  · simp [hkey]
  · simp [hkey, h.resolve_left hkey]

end Vocabulary

open Vocabulary (bind_seen getD_seen)

/-! ### Filters -/

/-- What the keys of a filter hold. -/
structure FilterContent where
  field : Option String := none
  operator : String := "=="
  values : List Json := []
  vector : Bool := false
  json : Bool := false
  or : List FilterDescriptor := []

/-- A leaf has no children, and a group nothing but children. -/
def FilterDescriptor.content : FilterDescriptor → FilterContent
  | .leaf l =>
    { field := some l.field
      operator := l.operator
      values := l.values
      vector := l.vector
      json := l.json }
  | .group children => { or := children }

namespace FilterContent

/-- The document under a key of a filter, when `items` spell the children. -/
def Holds (number : NumberLiteral → Option Numeral) (items : List Document)
    (content : FilterContent) : FilterKey → Document → Prop
  | .field, d => d.meaning? number = some (content.field.elim .null .string)
  | .operator, d =>
    d.meaning? number = some (.string content.operator) ∨
      content.operator = "==" ∧ d.meaning? number = some .null
  | .values, d => d.meaning? number = some (.array content.values)
  | .vector, d => d.meaning? number = some (.bool content.vector)
  | .json, d => d.meaning? number = some (.bool content.json)
  | .or, d => d = .array items

/-- A key may be left out when it holds its default. -/
def MayLack (content : FilterContent) : FilterKey → Prop
  | .field => content.field = none
  | .operator => content.operator = "=="
  | .values => content.values = []
  | .vector => content.vector = false
  | .json => content.json = false
  | .or => content.or = []

end FilterContent

namespace FilterDescriptor

mutual

/-- The document is an object that spells the filter, its number literals standing for the numbers
of `number`. -/
inductive Spells (number : NumberLiteral → Option Numeral) :
    FilterDescriptor → Document → Prop where
  | object {filter : FilterDescriptor} {items : List Document}
      {members : List (Option String × Document)} {fields : List (FilterKey × Document)}
      (hor : SpellsAll number filter.content.or items)
      (h : FilterKey.vocabulary.Spells (filter.content.Holds number items) filter.content.MayLack
        members fields) : Spells number filter (.object members)

/-- The documents spell the filters, place by place. -/
inductive SpellsAll (number : NumberLiteral → Option Numeral) :
    List FilterDescriptor → List Document → Prop where
  | nil : SpellsAll number [] []
  | cons {filter : FilterDescriptor} {filters : List FilterDescriptor} {d : Document}
      {ds : List Document} (h : Spells number filter d) (hrest : SpellsAll number filters ds) :
      SpellsAll number (filter :: filters) (d :: ds)

end

/-- Every leaf has a field that is not blank, and every group a child. -/
inductive WellFormed : FilterDescriptor → Prop where
  | leaf {leaf : FilterLeaf} (hfield : Text.allBlank leaf.field.toList = false) :
      WellFormed (.leaf leaf)
  | group {children : List FilterDescriptor} (hne : children ≠ [])
      (h : ∀ child ∈ children, WellFormed child) : WellFormed (.group children)

/-- The children of a well-formed filter are well-formed. -/
theorem WellFormed.content_or {filter : FilterDescriptor} (h : filter.WellFormed) :
    ∀ child ∈ filter.content.or, child.WellFormed := by
  cases h with
  | leaf hfield => exact fun child hchild => absurd hchild List.not_mem_nil
  | group hne h => exact h

end FilterDescriptor

/-! ### Reading what is meant -/

namespace Document

variable {d : Document} {levels : Nat}

/-- A string or null is read as it is meant. -/
theorem nullOr?_string_of_meaning? {s : Option String}
    (h : d.meaning? number = some (s.elim .null .string)) : d.nullOr? string? = some s := by
  rcases s with - | s
  · obtain rfl := meaning?_eq_null.1 h
    rfl
  · obtain rfl := meaning?_eq_string.1 h
    rfl

/-- A truth value is read as it is meant. -/
theorem bool?_of_meaning? {b : Bool} (h : d.meaning? number = some (.bool b)) :
    d.bool? = some b := by
  obtain rfl := meaning?_eq_bool.1 h
  rfl

/-- Within the limits of reading, values are read as they are meant. -/
theorem valueList?_of_meaning? {values : List Json} (hd : d.Within number levels)
    (h : d.meaning? number = some (.array values)) : d.valueList? levels = some values := by
  obtain ⟨items, rfl, hitems⟩ := meaning?_eq_array.1 h
  obtain ⟨hlevels, hwithin⟩ := hd.array
  rw [valueList?, if_neg hlevels, itemValues?_eq_itemMeanings? hwithin, hitems]

end Document

namespace FilterContent

variable {content : FilterContent} {text : Option String} {seen : List FilterKey} {levels : Nat}
  {key : FilterKey} {d : Document}

/-- What is read of a content under the keys seen so far, when the operator is written as `text`. -/
def draft (content : FilterContent) (text : Option String) (seen : List FilterKey) :
    FilterDraft where
  field := if .field ∈ seen then some content.field else none
  operator := if .operator ∈ seen then some text else none
  values := if .values ∈ seen then some content.values else none
  vector := if .vector ∈ seen then some content.vector else none
  json := if .json ∈ seen then some content.json else none
  or := if .or ∈ seen then some content.or else none

/-- A key that has not been seen is read as what the content holds. -/
theorem set_draft {items : List Document} (hnew : key ∉ seen)
    (hholds : content.Holds number items key d) (hd : d.Within number levels)
    (hoperator : key = .operator → d.nullOr? Document.string? = some text)
    (hor : key = .or → FilterDescriptor.ofChildren levels d = .ok content.or) :
    FilterDescriptor.set levels (content.draft text seen) d key =
      .ok (content.draft text (key :: seen)) := by
  cases key with
  | field =>
    have hread := Document.nullOr?_string_of_meaning? hholds
    simp [FilterDescriptor.set, FilterDraft.set, draft, hnew, hread]
  | operator =>
    have hread := hoperator rfl
    simp [FilterDescriptor.set, FilterDraft.set, draft, hnew, hread]
  | values =>
    have hread := Document.valueList?_of_meaning? hd hholds
    simp [FilterDescriptor.set, FilterDraft.set, draft, hnew, hread]
  | vector =>
    have hread := Document.bool?_of_meaning? hholds
    simp [FilterDescriptor.set, FilterDraft.set, draft, hnew, hread]
  | json =>
    have hread := Document.bool?_of_meaning? hholds
    simp [FilterDescriptor.set, FilterDraft.set, draft, hnew, hread]
  | or =>
    have hread := hor rfl
    simp [FilterDescriptor.set, draft, hnew, hread]

/-- Before its key is seen it does not matter how the operator is written. -/
theorem draft_congr (other : Option String) (h : .operator ∉ seen) :
    content.draft text seen = content.draft other seen := by
  simp [draft, h]

/-- A key that has not been seen is read as what the content holds, the operator in one of the two
ways to write it. -/
theorem exists_set_draft {items : List Document} {before : FilterDraft} (hnew : key ∉ seen)
    (hholds : content.Holds number items key d) (hd : d.Within number levels)
    (hor : key = .or → FilterDescriptor.ofChildren levels d = .ok content.or)
    (hbefore : ∃ text : Option String, text.getD "==" = content.operator ∧
      before = content.draft text seen) :
    ∃ after, FilterDescriptor.set levels before d key = .ok after ∧
      ∃ text : Option String, text.getD "==" = content.operator ∧
        after = content.draft text (key :: seen) := by
  obtain ⟨text, htext, rfl⟩ := hbefore
  by_cases hkey : key = .operator
  · subst hkey
    obtain ⟨other, hother, hread⟩ : ∃ other : Option String, other.getD "==" = content.operator ∧
        d.nullOr? Document.string? = some other := by
      rcases hholds with hstring | ⟨heq, hnull⟩
      · exact ⟨some content.operator, rfl, Document.nullOr?_string_of_meaning? hstring⟩
      · exact ⟨none, heq.symm, Document.nullOr?_string_of_meaning? hnull⟩
    rw [draft_congr other hnew]
    exact ⟨_, set_draft hnew hholds hd (fun _ => hread) hor, other, hother, rfl⟩
  · exact ⟨_, set_draft hnew hholds hd (fun h => absurd h hkey) hor, text, htext, rfl⟩

end FilterContent

namespace FilterDescriptor

/-- What has been read is finished as the filter when all other keys may be left out. -/
theorem finish_draft {filter : FilterDescriptor} (h : filter.WellFormed) {text : Option String}
    (htext : text.getD "==" = filter.content.operator) {seen : List FilterKey}
    (hseen : ∀ key, key ∈ seen ∨ filter.content.MayLack key) :
    (filter.content.draft text seen).finish = .ok filter := by
  cases h with
  | @leaf l hfield =>
    have hin : .field ∈ seen := (hseen .field).resolve_right (Option.some_ne_none l.field)
    have hoperator : ((if .operator ∈ seen then some text else none).bind id).getD "==" =
        l.operator := by
      by_cases hkey : .operator ∈ seen
      · rw [if_pos hkey]
        exact htext
      · rw [if_neg hkey]
        exact ((hseen .operator).resolve_left hkey).symm
    have hvalues : (if .values ∈ seen then some l.values else none).getD [] = l.values :=
      getD_seen (hseen .values)
    have hvector : (if .vector ∈ seen then some l.vector else none).getD false = l.vector :=
      getD_seen (hseen .vector)
    have hjson : (if .json ∈ seen then some l.json else none).getD false = l.json :=
      getD_seen (hseen .json)
    unfold FilterDraft.finish FilterContent.draft
    simp only [content, hin, if_true, hoperator, hvalues, hvector, hjson, hfield,
      Bool.false_eq_true, if_false]
    by_cases hkey : .or ∈ seen
    · simp [hkey]
    · simp [hkey]
  | @group children hne hchildren =>
    have hor : .or ∈ seen := (hseen .or).resolve_right hne
    obtain ⟨child, rest, rfl⟩ := List.exists_cons_of_ne_nil hne
    simp [FilterDraft.finish, FilterContent.draft, hor, content]

/-- A filter is read from an object that spells it when its children are read. -/
theorem ofDocument_of_children {filter : FilterDescriptor} {items : List Document}
    {members : List (Option String × Document)} {fields : List (FilterKey × Document)}
    (h : FilterKey.vocabulary.Spells (filter.content.Holds number items) filter.content.MayLack
      members fields) (hwell : filter.WellFormed) {levels : Nat}
    (hd : (Document.object members).Within number levels)
    (hchildren : ∀ levels, (Document.array items).Within number levels →
      ofChildren levels (.array items) = .ok filter.content.or) :
    ofDocument levels (.object members) = .ok filter := by
  obtain ⟨hlevels, hmembers⟩ := hd.object
  have hwithin : ∀ key d, (key, d) ∈ fields → d.Within number (levels - 1) := by
    intro key d hmem
    obtain ⟨name, hin⟩ := h.exists_member hmem
    exact hmembers _ hin
  obtain ⟨draft, seen, hread, ⟨text, htext, rfl⟩, hseen⟩ := h.exists_readFields
    (fun seen draft => ∃ text : Option String, text.getD "==" = filter.content.operator ∧
      draft = filter.content.draft text seen)
    (by
      intro seen before key d hmem hnew hbefore hholds
      refine FilterContent.exists_set_draft hnew hholds (hwithin key d hmem) ?_ hbefore
      rintro rfl
      obtain rfl : d = .array items := hholds
      exact hchildren _ (hwithin .or _ hmem))
    ⟨some filter.content.operator, rfl, rfl⟩
  exact ofDocument_eq_ok.2 ⟨hlevels, fields, FilterKey.vocabulary.memberFields?_eq h.spelled, _,
    hread, finish_draft hwell htext hseen⟩

mutual

/-- A filter is read from an object that spells it. -/
theorem ofDocument_of_spells : ∀ {levels : Nat} {filter : FilterDescriptor} {d : Document},
    filter.Spells number d → filter.WellFormed → d.Within number levels →
      ofDocument levels d = .ok filter
  | _, _, _, .object hor h, hwell, hd => by
    refine ofDocument_of_children h hwell hd fun levels hitems => ?_
    obtain ⟨hlevels, hitems⟩ := hitems.array
    exact ofChildren_eq_ok.2
      ⟨hlevels, _, rfl, mapM_ofDocument_of_spellsAll hor hwell.content_or hitems⟩

/-- Filters are read from objects that spell them. -/
theorem mapM_ofDocument_of_spellsAll : ∀ {levels : Nat} {filters : List FilterDescriptor}
    {ds : List Document}, SpellsAll number filters ds → (∀ filter ∈ filters, filter.WellFormed) →
      (∀ d ∈ ds, d.Within number levels) → ds.mapM (ofDocument levels) = .ok filters
  | _, _, _, .nil, _, _ => rfl
  | _, _, _, .cons h hrest, hwell, hds => by
    have hfirst := ofDocument_of_spells h (hwell _ List.mem_cons_self) (hds _ List.mem_cons_self)
    have hmore := mapM_ofDocument_of_spellsAll hrest
      (fun filter hmem => hwell filter (List.mem_cons_of_mem _ hmem))
      (fun d hmem => hds d (List.mem_cons_of_mem _ hmem))
    rw [List.mapM_cons, hfirst, hmore]
    rfl

end

/-- A group is finished from its children, and a leaf from a field that is not blank. -/
theorem cases_of_finish {draft : FilterDraft} {filter : FilterDescriptor}
    (h : draft.finish = .ok filter) :
    (∃ children, children ≠ [] ∧ draft.or = some children ∧ filter = .group children) ∨
      ∃ l : FilterLeaf, Text.allBlank l.field.toList = false ∧ filter = .leaf l := by
  unfold FilterDraft.finish at h
  split at h
  · next child children hor =>
    cases h
    exact .inl ⟨child :: children, List.cons_ne_nil _ _, hor, rfl⟩
  · split at h
    · split at h
      · cases h
      · next hblank =>
        cases h
        exact .inr ⟨_, Bool.eq_false_iff.2 hblank, rfl⟩
    · cases h

/-- The children of an accepted group are accepted filters. -/
theorem accepted_of_mem {levels : Nat} {d : Document} {children : List FilterDescriptor}
    (h : ofDocument levels d = .ok (.group children)) {child : FilterDescriptor}
    (hmem : child ∈ children) : ∃ levels d, ofDocument levels d = .ok child := by
  obtain ⟨-, fields, -, draft, hread, hfinish⟩ := ofDocument_eq_ok.1 h
  have hall : ∀ children, draft.or = some children →
      ∀ child ∈ children, ∃ levels d, ofDocument levels d = .ok child := by
    refine Vocabulary.readFields_invariant (fun draft => ∀ children, draft.or = some children →
      ∀ child ∈ children, ∃ levels d, ofDocument levels d = .ok child) ?_ ?_ hread
    · intro key d before after _ hbefore hset children hor
      rcases set_cases hset with ⟨-, others, hchildren, hafter⟩ | ⟨-, hafter⟩
      · obtain rfl : others = children := Option.some.inj (hafter.symm.trans hor)
        exact fun child hchild => accepted_of_mem_children hchildren hchild
      · exact hbefore children (hafter.symm.trans hor)
    · intro children hor
      cases hor
  rcases cases_of_finish hfinish with ⟨others, -, hor, heq⟩ | ⟨l, -, heq⟩
  · cases heq
    exact hall children hor child hmem
  · cases heq

/-- Every accepted filter is well-formed. -/
theorem wellFormed_of_ofDocument : ∀ {filter : FilterDescriptor} {levels : Nat} {d : Document},
    ofDocument levels d = .ok filter → filter.WellFormed
  | .leaf l, _, _, h => by
    obtain ⟨-, -, -, draft, -, hfinish⟩ := ofDocument_eq_ok.1 h
    rcases cases_of_finish hfinish with ⟨children, -, -, heq⟩ | ⟨other, hfield, heq⟩
    · cases heq
    · cases heq
      exact .leaf hfield
  | .group children, _, _, h => by
    obtain ⟨-, -, -, draft, -, hfinish⟩ := ofDocument_eq_ok.1 h
    rcases cases_of_finish hfinish with ⟨others, hne, -, heq⟩ | ⟨l, -, heq⟩
    · cases heq
      refine .group hne fun child hmem => ?_
      obtain ⟨levels, d, hchild⟩ := accepted_of_mem h hmem
      exact wellFormed_of_ofDocument hchild
    · cases heq

end FilterDescriptor

/-! ### Sort keys -/

namespace SortDescriptor

/-- The document under a key of a sort. -/
def Holds (sort : SortDescriptor) : SortField → Document → Prop
  | .field, d => d = .string (some sort.field)
  | .direction, d =>
    d = .string (some sort.direction.text) ∨ sort.direction = .ascending ∧ d = .null
  | .json, d => d = .bool sort.json

/-- A key may be left out when it holds its default. -/
def MayLack (sort : SortDescriptor) : SortField → Prop
  | .field => False
  | .direction => sort.direction = .ascending
  | .json => sort.json = false

/-- The document is an object that spells the sort. -/
def Spells (sort : SortDescriptor) (d : Document) : Prop :=
  ∃ members fields, d = .object members ∧
    SortField.vocabulary.Spells sort.Holds sort.MayLack members fields

variable {sort : SortDescriptor} {text : Option String} {seen : List SortField}

/-- What is read of a sort under the keys seen so far, when the direction is written as `text`. -/
def draft (sort : SortDescriptor) (text : Option String) (seen : List SortField) : SortDraft where
  field := if .field ∈ seen then some sort.field else none
  direction := if .direction ∈ seen then some text else none
  json := if .json ∈ seen then some sort.json else none

/-- The direction is written as `text`. -/
def Directed (sort : SortDescriptor) (text : Option String) : Prop :=
  text.elim (some .ascending) Direction.ofText? = some sort.direction

/-- A direction is read as it is written. -/
theorem directed_text (sort : SortDescriptor) : sort.Directed (some sort.direction.text) := by
  unfold Directed
  cases sort.direction <;> decide

/-- A key that has not been seen is read as what the sort holds. -/
theorem set_draft {key : SortField} {d : Document} (hnew : key ∉ seen) (hholds : sort.Holds key d)
    (hdirection : key = .direction → d.nullOr? Document.string? = some text) :
    (sort.draft text seen).set d key = .ok (sort.draft text (key :: seen)) := by
  cases key with
  | field =>
    obtain rfl : d = .string (some sort.field) := hholds
    simp [SortDraft.set, draft, hnew, Document.string?]
  | direction =>
    have hread := hdirection rfl
    simp [SortDraft.set, draft, hnew, hread]
  | json =>
    obtain rfl : d = .bool sort.json := hholds
    simp [SortDraft.set, draft, hnew, Document.bool?]

/-- A key that has not been seen is read as what the sort holds, the direction in one of the two
ways to write it. -/
theorem exists_set_draft {key : SortField} {d : Document} {before : SortDraft} (hnew : key ∉ seen)
    (hholds : sort.Holds key d)
    (hbefore : ∃ text, sort.Directed text ∧ before = sort.draft text seen) :
    ∃ after, before.set d key = .ok after ∧
      ∃ text, sort.Directed text ∧ after = sort.draft text (key :: seen) := by
  obtain ⟨text, htext, rfl⟩ := hbefore
  by_cases hkey : key = .direction
  · subst hkey
    obtain ⟨other, hother, hread⟩ : ∃ other, sort.Directed other ∧
        d.nullOr? Document.string? = some other := by
      rcases hholds with rfl | ⟨heq, rfl⟩
      · exact ⟨some sort.direction.text, sort.directed_text, rfl⟩
      · exact ⟨none, congrArg some heq.symm, rfl⟩
    have hswitch : sort.draft text seen = sort.draft other seen := by simp [draft, hnew]
    rw [hswitch]
    exact ⟨_, set_draft hnew hholds fun _ => hread, other, hother, rfl⟩
  · exact ⟨_, set_draft hnew hholds fun h => absurd h hkey, text, htext, rfl⟩

/-- A field and a direction are finished as a sort. -/
theorem finish_eq_ok {draft : SortDraft} {field : String} {direction : Direction}
    (hfield : draft.field = some field)
    (hdirection : (draft.direction.bind id).elim (some .ascending) Direction.ofText? =
      some direction) :
    draft.finish =
      .ok { field := field, direction := direction, json := draft.json.getD false } := by
  unfold SortDraft.finish
  rw [hfield]
  rcases htext : draft.direction.bind id with - | text
  · rw [htext, Option.elim_none] at hdirection
    rw [← Option.some.inj hdirection]
    rfl
  · rw [htext, Option.elim_some] at hdirection
    simp only [hdirection]
    rfl

/-- What has been read is finished as the sort when all other keys may be left out. -/
theorem finish_draft (htext : sort.Directed text) (hseen : ∀ key, key ∈ seen ∨ sort.MayLack key) :
    (sort.draft text seen).finish = .ok sort := by
  have hin : .field ∈ seen := (hseen .field).resolve_right id
  have hjson : (if .json ∈ seen then some sort.json else none).getD false = sort.json :=
    getD_seen (hseen .json)
  have hdirection : ((if .direction ∈ seen then some text else none).bind id).elim
      (some .ascending) Direction.ofText? = some sort.direction := by
    by_cases hkey : .direction ∈ seen
    · rw [if_pos hkey]
      exact htext
    · rw [if_neg hkey]
      exact congrArg some ((hseen .direction).resolve_left hkey).symm
  rw [finish_eq_ok (if_pos hin) hdirection, draft, hjson]

/-- A sort is read from an object that spells it. -/
theorem ofDocument_of_spells {d : Document} (h : sort.Spells d) {levels : Nat}
    (hd : d.Within number levels) : ofDocument levels d = .ok sort := by
  obtain ⟨members, fields, rfl, h⟩ := h
  obtain ⟨hlevels, -⟩ := hd.object
  obtain ⟨draft, seen, hread, ⟨text, htext, rfl⟩, hseen⟩ := h.exists_readFields
    (fun seen before => ∃ text, sort.Directed text ∧ before = sort.draft text seen)
    (fun _ _ _ _ _ hnew hbefore hholds => exists_set_draft hnew hholds hbefore)
    ⟨some sort.direction.text, sort.directed_text, rfl⟩
  exact ofDocument_eq_ok.2 ⟨hlevels, fields, SortField.vocabulary.memberFields?_eq h.spelled, _,
    hread, finish_draft htext hseen⟩

/-- Sorts are read from objects that spell them. -/
theorem mapM_ofDocument_of_spells {sorts : List SortDescriptor} {ds : List Document}
    (h : List.Forall₂ Spells sorts ds) {levels : Nat} (hds : ∀ d ∈ ds, d.Within number levels) :
    ds.mapM (ofDocument levels) = .ok sorts := by
  induction h with
  | nil => rfl
  | cons hfirst hrest ih =>
    rw [List.mapM_cons, ofDocument_of_spells hfirst (hds _ List.mem_cons_self),
      ih fun d hmem => hds d (List.mem_cons_of_mem _ hmem)]
    rfl

end SortDescriptor

/-! ### Queries -/

namespace Query

/-- The number of a page, and null for none. -/
def pageValue : Option Int64 → Json
  | none => .null
  | some n => Json.ofInt n.toInt

/-- The document under a key of a query. -/
def Holds (number : NumberLiteral → Option Numeral) (query : Query) : QueryKey → Document → Prop
  | .page, d => d.meaning? number = some (pageValue query.page)
  | .pageSize, d => d.meaning? number = some (pageValue query.pageSize)
  | .sorts, d => ∃ items, d = .array items ∧ List.Forall₂ SortDescriptor.Spells query.sorts items
  | .filters, d =>
    ∃ items, d = .array items ∧ FilterDescriptor.SpellsAll number query.filters items

/-- A key may be left out when it holds its default. -/
def MayLack (query : Query) : QueryKey → Prop
  | .page => query.page = none
  | .pageSize => query.pageSize = none
  | .sorts => query.sorts = []
  | .filters => query.filters = []

/-- The document is an object that spells the query, its number literals standing for the numbers
of `number`. -/
def Spells (number : NumberLiteral → Option Numeral) (query : Query) (d : Document) : Prop :=
  ∃ members fields, d = .object members ∧
    QueryKey.vocabulary.Spells (query.Holds number) query.MayLack members fields

/-- All filters of the query are well-formed. -/
def WellFormed (query : Query) : Prop := ∀ filter ∈ query.filters, filter.WellFormed

/-- Within the limits of reading, the number of a page is read as it is meant. -/
theorem nullOr?_int64_of_meaning? {n : Option Int64} {d : Document} {levels : Nat}
    (hd : d.Within number levels) (h : d.meaning? number = some (pageValue n)) :
    d.nullOr? Document.int64? = some n := by
  rcases n with - | n
  · obtain rfl := Document.meaning?_eq_null.1 h
    rfl
  · obtain ⟨l, rfl, hl⟩ := Document.meaning?_eq_number.1 h
    have hlow : Int64.minValue.toInt ≤ n.toInt := n.minValue_le_toInt
    have hhigh : n.toInt ≤ Int64.maxValue.toInt := n.toInt_le
    have hbound : Int64.maxValue.toInt < UInt64.size := by decide
    have hint64 : (Numeral.ofInt n.toInt).toInt64? = some n := by
      rw [Numeral.ofInt, dif_pos ⟨hlow, by omega⟩, Numeral.toInt64?, if_pos hhigh,
        Int64.ofInt_toInt]
    have hnumeral := (hd.numeral_eq l (List.mem_singleton_self l)).trans hl
    simp [Document.nullOr?, Document.int64?, hnumeral, hint64]

variable {query : Query} {seen : List QueryKey} {levels : Nat}

/-- What is read of a query under the keys seen so far. -/
def draft (query : Query) (seen : List QueryKey) : QueryDraft where
  page := if .page ∈ seen then some query.page else none
  pageSize := if .pageSize ∈ seen then some query.pageSize else none
  sorts := if .sorts ∈ seen then some query.sorts else none
  filters := if .filters ∈ seen then some query.filters else none

/-- A key that has not been seen is read as what the query holds. -/
theorem set_draft (hwell : query.WellFormed) {key : QueryKey} {d : Document} (hnew : key ∉ seen)
    (hholds : query.Holds number key d) (hd : d.Within number levels) :
    set levels (query.draft seen) d key = .ok (query.draft (key :: seen)) := by
  cases key with
  | page =>
    have hread := nullOr?_int64_of_meaning? hd hholds
    simp [set, QueryDraft.set, draft, hnew, hread]
  | pageSize =>
    have hread := nullOr?_int64_of_meaning? hd hholds
    simp [set, QueryDraft.set, draft, hnew, hread]
  | sorts =>
    obtain ⟨items, rfl, hitems⟩ := hholds
    obtain ⟨hlevels, hwithin⟩ := hd.array
    have hread : SortDescriptor.ofArray levels (.array items) = .ok query.sorts :=
      SortDescriptor.ofArray_eq_ok.2 ⟨hlevels, items, rfl,
        SortDescriptor.mapM_ofDocument_of_spells hitems hwithin⟩
    simp [set, QueryDraft.set, draft, hnew, hread]
  | filters =>
    obtain ⟨items, rfl, hitems⟩ := hholds
    obtain ⟨hlevels, hwithin⟩ := hd.array
    have hread : FilterDescriptor.ofChildren levels (.array items) = .ok query.filters :=
      FilterDescriptor.ofChildren_eq_ok.2 ⟨hlevels, items, rfl,
        FilterDescriptor.mapM_ofDocument_of_spellsAll hitems hwell hwithin⟩
    simp [set, QueryDraft.set, draft, hnew, hread]

/-- What has been read is finished as the query when all other keys may be left out. -/
theorem finish_draft (hseen : ∀ key, key ∈ seen ∨ query.MayLack key) :
    (query.draft seen).finish = query := by
  have hpage : (if .page ∈ seen then some query.page else none).bind id = query.page :=
    bind_seen (hseen .page)
  have hsize : (if .pageSize ∈ seen then some query.pageSize else none).bind id =
      query.pageSize := bind_seen (hseen .pageSize)
  have hsorts : (if .sorts ∈ seen then some query.sorts else none).getD [] = query.sorts :=
    getD_seen (hseen .sorts)
  have hfilters : (if .filters ∈ seen then some query.filters else none).getD [] =
      query.filters := getD_seen (hseen .filters)
  unfold QueryDraft.finish draft
  simp only [hpage, hsize, hsorts, hfilters]

/-- A query is read from an object that spells it. -/
theorem ofDocument_of_spells {d : Document} (h : query.Spells number d) (hwell : query.WellFormed)
    (hd : d.Within number levels) : ofDocument levels d = .ok query := by
  obtain ⟨members, fields, rfl, h⟩ := h
  obtain ⟨hlevels, hmembers⟩ := hd.object
  obtain ⟨-, seen, hread, rfl, hseen⟩ := h.exists_readFields
    (fun seen before => before = query.draft seen)
    (by
      rintro seen - key d hmem hnew rfl hholds
      obtain ⟨name, hin⟩ := h.exists_member hmem
      exact ⟨_, set_draft hwell hnew hholds (hmembers _ hin), rfl⟩)
    rfl
  exact ofDocument_eq_ok.2 ⟨hlevels, fields, QueryKey.vocabulary.memberFields?_eq h.spelled, _,
    hread, finish_draft hseen⟩

/-- The filters of an accepted query are well-formed. -/
theorem wellFormed_of_ofDocument {levels : Nat} {d : Document} {query : Query}
    (h : ofDocument levels d = .ok query) : query.WellFormed := by
  obtain ⟨-, fields, -, draft, hread, rfl⟩ := ofDocument_eq_ok.1 h
  have hall : ∀ filter ∈ draft.filters.getD [], filter.WellFormed := by
    refine Vocabulary.readFields_invariant
      (fun draft : QueryDraft => ∀ filter ∈ draft.filters.getD [], filter.WellFormed) ?_ ?_ hread
    · intro key d before after _ hbefore hset
      rcases set_cases hset with ⟨-, filters, hfilters, hafter⟩ | ⟨-, hafter⟩
      · rw [hafter]
        intro filter hmem
        obtain ⟨left, item, hitem⟩ := FilterDescriptor.accepted_of_mem_children hfilters hmem
        exact FilterDescriptor.wellFormed_of_ofDocument hitem
      · rwa [hafter]
    · exact fun filter hmem => absurd hmem List.not_mem_nil
  exact hall

end Query

end RecordQuery
