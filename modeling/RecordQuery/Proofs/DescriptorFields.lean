import Mathlib.Data.List.Forall2
import RecordQuery.Descriptor.Reader
import RecordQuery.Proofs.Outcome

/-!
# The fields of descriptors

Filters, sorts and queries are read in one way.  A document lists fields (`Vocabulary.fields?`): an
object under the spellings of their keys and in any order, an array in the order of the keys.  Field
after field is then put into what has been read before, and what has been read is finished in the
end.  Whether a document is accepted, and as what, depends only on the fields that it lists
(`Vocabulary.read_eq_ok`, and one equation for each of the three kinds of descriptors).
-/

namespace RecordQuery

/-- The keys of a descriptor in the order in which an array lists them, and the spellings of each
key, of which none belongs to two keys. -/
structure Vocabulary (K : Type) where
  keys : List K
  spellings : K → List String
  unambiguous : ∀ key, ∀ name ∈ spellings key,
    (keys.find? fun key => (spellings key).contains name) = some key

namespace Vocabulary

variable {K σ : Type} (v : Vocabulary K)

/-- The key of a spelling. -/
def key? (name : String) : Option K := v.keys.find? fun key => (v.spellings key).contains name

/-- The spellings of a key are the names that lead to it. -/
theorem key?_eq_some_iff {name : String} {key : K} :
    v.key? name = some key ↔ name ∈ v.spellings key := by
  constructor
  · intro h
    have hcontains := List.find?_some h
    exact List.contains_iff_mem.1 hcontains
  · exact v.unambiguous key name

/-! ### Listed fields -/

/-- The fields that the members of an object list.  Members under other names are passed over where
they are whole. -/
def memberFields? : List (Option String × Document) → Option (List (K × Document))
  | [] => some []
  | (none, _) :: _ => none
  | (some name, d) :: rest =>
    match v.key? name with
    | none => if d.isWhole then memberFields? rest else none
    | some key => (memberFields? rest).map ((key, d) :: ·)

/-- The fields that a document lists. -/
def fields? : Document → Option (List (K × Document))
  | .object members => v.memberFields? members
  | .array items => if items.length ≤ v.keys.length then some (v.keys.zip items) else none
  | _ => none

/-- An array lists its items under the keys, of which there have to be enough. -/
theorem fields?_array {items : List Document} {fields : List (K × Document)} :
    v.fields? (.array items) = some fields ↔
      items.length ≤ v.keys.length ∧ v.keys.zip items = fields := by
  rw [fields?]
  by_cases hlength : items.length ≤ v.keys.length
  · simp [hlength]
  · simp [hlength]

/-- A field of an object stands under a spelling of its key. -/
theorem exists_member_of_mem {members : List (Option String × Document)}
    {fields : List (K × Document)} (h : v.memberFields? members = some fields) {key : K}
    {d : Document} (hmem : (key, d) ∈ fields) :
    ∃ name ∈ v.spellings key, (some name, d) ∈ members := by
  induction members generalizing fields with
  | nil =>
    cases h
    cases hmem
  | cons member rest ih =>
    obtain ⟨name, x⟩ := member
    rcases name with - | name
    · cases h
    · rw [memberFields?] at h
      rcases hkey : v.key? name with - | found
      · simp only [hkey] at h
        split at h
        · obtain ⟨other, hother, hin⟩ := ih h hmem
          exact ⟨other, hother, List.mem_cons_of_mem _ hin⟩
        · cases h
      · simp only [hkey] at h
        obtain ⟨more, hmore, rfl⟩ := Option.map_eq_some_iff.1 h
        rcases List.mem_cons.1 hmem with heq | hmem
        · obtain ⟨rfl, rfl⟩ := Prod.mk.inj heq
          exact ⟨name, v.key?_eq_some_iff.1 hkey, List.mem_cons_self⟩
        · obtain ⟨other, hother, hin⟩ := ih hmore hmem
          exact ⟨other, hother, List.mem_cons_of_mem _ hin⟩

/-- Every member under a spelling of a key is a field of the object. -/
theorem mem_of_member {members : List (Option String × Document)} {fields : List (K × Document)}
    (h : v.memberFields? members = some fields) {key : K} {name : String} {d : Document}
    (hname : name ∈ v.spellings key) (hmem : (some name, d) ∈ members) : (key, d) ∈ fields := by
  have hkey := v.key?_eq_some_iff.2 hname
  induction members generalizing fields with
  | nil => cases hmem
  | cons member rest ih =>
    obtain ⟨other, x⟩ := member
    rcases other with - | other
    · cases h
    · rw [memberFields?] at h
      rcases List.mem_cons.1 hmem with heq | hmem
      · obtain ⟨hsome, rfl⟩ := Prod.mk.inj heq
        cases hsome
        simp only [hkey] at h
        obtain ⟨more, -, rfl⟩ := Option.map_eq_some_iff.1 h
        exact List.mem_cons_self
      · split at h
        · split at h
          · exact ih h hmem
          · cases h
        · obtain ⟨more, hmore, rfl⟩ := Option.map_eq_some_iff.1 h
          exact List.mem_cons_of_mem _ (ih hmore hmem)

/-- Members that stand one by one under spellings of the keys of fields list these fields. -/
theorem memberFields?_eq {members : List (Option String × Document)} {fields : List (K × Document)}
    (h : List.Forall₂ (fun member field => ∃ name ∈ v.spellings field.1,
      member = (some name, field.2)) members fields) : v.memberFields? members = some fields := by
  induction h with
  | nil => rfl
  | cons hfirst hrest ih =>
    obtain ⟨name, hname, rfl⟩ := hfirst
    rw [memberFields?, v.key?_eq_some_iff.2 hname, ih]
    rfl

/-- The object of fields under given names. -/
def object (name : K → String) (fields : List (K × Document)) : Document :=
  .object (fields.map fun field => (some (name field.1), field.2))

theorem forall₂_object {name : K → String} (hname : ∀ key, name key ∈ v.spellings key)
    (fields : List (K × Document)) :
    List.Forall₂ (fun member field => ∃ name ∈ v.spellings field.1, member = (some name, field.2))
      (fields.map fun field => (some (name field.1), field.2)) fields := by
  rw [List.forall₂_map_left_iff]
  exact List.forall₂_same.2 fun field _ => ⟨name field.1, hname field.1, rfl⟩

/-- The object of fields under accepted names lists them. -/
theorem fields?_object {name : K → String} (hname : ∀ key, name key ∈ v.spellings key)
    (fields : List (K × Document)) : v.fields? (object name fields) = some fields :=
  v.memberFields?_eq (v.forall₂_object hname fields)

/-! ### Reading the fields -/

variable (set : σ → Document → K → Reading σ)

/-- Puts the members of an object into what has been read. -/
def readMembers (draft : σ) : List (Option String × Document) → Reading σ
  | [] => .ok draft
  | (none, _) :: _ => .malformed
  | (some name, d) :: rest =>
    match v.key? name with
    | none => if d.isWhole then readMembers draft rest else .malformed
    | some key => do readMembers (← set draft d key) rest

/-- Puts the items of an array into what has been read. -/
def readItems (draft : σ) : List K → List Document → Reading σ
  | _, [] => .ok draft
  | [], _ :: _ => .malformed
  | key :: keys, d :: rest => do readItems (← set draft d key) keys rest

/-- Puts the fields of an object or of an array into what has been read. -/
def read (draft : σ) : Document → Reading σ
  | .object members => v.readMembers set draft members
  | .array items => readItems set draft v.keys items
  | _ => .malformed

/-- Puts one field after the other into what has been read. -/
def readFields (draft : σ) (fields : List (K × Document)) : Reading σ :=
  fields.foldlM (fun draft field => set draft field.2 field.1) draft

theorem readMembers_eq_ok {members : List (Option String × Document)} {draft draft' : σ} :
    v.readMembers set draft members = .ok draft' ↔
      ∃ fields, v.memberFields? members = some fields ∧
        readFields set draft fields = .ok draft' := by
  induction members generalizing draft with
  | nil => simp [readMembers, memberFields?, readFields, pure, Except.pure]
  | cons member rest ih =>
    obtain ⟨name, d⟩ := member
    rcases name with - | name
    · simp [readMembers, memberFields?, Reading.malformed]
    · rw [readMembers, memberFields?]
      rcases hkey : v.key? name with - | key
      · by_cases hwhole : d.isWhole = true
        · simp only [hwhole, if_true, ih]
        · simp [hwhole, Reading.malformed]
      · simp only [Outcome.bind_eq_ok, ih, Option.map_eq_some_iff]
        constructor
        · rintro ⟨middle, hset, fields, hfields, hread⟩
          refine ⟨(key, d) :: fields, ⟨fields, hfields, rfl⟩, ?_⟩
          exact Outcome.bind_eq_ok.2 ⟨middle, hset, hread⟩
        · rintro ⟨-, ⟨fields, hfields, rfl⟩, hread⟩
          obtain ⟨middle, hset, hread⟩ := Outcome.bind_eq_ok.1 hread
          exact ⟨middle, hset, fields, hfields, hread⟩

theorem readItems_eq_ok {keys : List K} {items : List Document} {draft draft' : σ} :
    readItems set draft keys items = .ok draft' ↔
      items.length ≤ keys.length ∧ readFields set draft (keys.zip items) = .ok draft' := by
  induction items generalizing keys draft with
  | nil => simp [readItems, readFields, pure, Except.pure]
  | cons d rest ih =>
    rcases keys with - | ⟨key, keys⟩
    · simp [readItems, Reading.malformed]
    · rw [readItems, List.zip_cons_cons, List.length_cons, List.length_cons]
      simp only [Outcome.bind_eq_ok, ih, Nat.add_le_add_iff_right]
      constructor
      · rintro ⟨middle, hset, hlength, hread⟩
        exact ⟨hlength, Outcome.bind_eq_ok.2 ⟨middle, hset, hread⟩⟩
      · rintro ⟨hlength, hread⟩
        obtain ⟨middle, hset, hread⟩ := Outcome.bind_eq_ok.1 hread
        exact ⟨middle, hset, hlength, hread⟩

/-- A document is read by putting together the fields that it lists. -/
theorem read_eq_ok {d : Document} {draft draft' : σ} :
    v.read set draft d = .ok draft' ↔
      ∃ fields, v.fields? d = some fields ∧ readFields set draft fields = .ok draft' := by
  cases d with
  | object members => exact v.readMembers_eq_ok set
  | array items =>
    rw [read, readItems_eq_ok]
    simp only [fields?_array]
    constructor
    · rintro ⟨hlength, hread⟩
      exact ⟨_, ⟨hlength, rfl⟩, hread⟩
    · rintro ⟨-, ⟨hlength, rfl⟩, hread⟩
      exact ⟨hlength, hread⟩
  | _ => simp [read, fields?, Reading.malformed]

/-- A descriptor is accepted from the fields that its document lists. -/
theorem finish_eq_ok {α : Type} {levels : Nat} {d : Document} {draft : σ} {finish : σ → Reading α}
    {a : α} :
    (if levels = 0 then .malformed else v.read set draft d >>= finish) = .ok a ↔ levels ≠ 0 ∧
      ∃ fields, v.fields? d = some fields ∧
        ∃ draft', readFields set draft fields = .ok draft' ∧ finish draft' = .ok a := by
  by_cases hlevels : levels = 0
  · simp [hlevels, Reading.malformed]
  · simp only [hlevels, if_false, Outcome.bind_eq_ok, read_eq_ok, ne_eq, not_false_eq_true,
      true_and]
    constructor
    · rintro ⟨draft', ⟨fields, hfields, hread⟩, hfinish⟩
      exact ⟨fields, hfields, draft', hread, hfinish⟩
    · rintro ⟨fields, hfields, draft', hread, hfinish⟩
      exact ⟨draft', ⟨fields, hfields, hread⟩, hfinish⟩

variable {set}

/-- What every field keeps is kept by all of them together. -/
theorem readFields_invariant (inv : σ → Prop) {fields : List (K × Document)} {draft draft' : σ}
    (hstep : ∀ key d before after, (key, d) ∈ fields → inv before → set before d key = .ok after →
      inv after) (hstart : inv draft) (h : readFields set draft fields = .ok draft') :
    inv draft' := by
  induction fields generalizing draft with
  | nil =>
    cases h
    exact hstart
  | cons field rest ih =>
    obtain ⟨middle, hset, hread⟩ := Outcome.bind_eq_ok.1 h
    have hmiddle := hstep field.1 field.2 draft middle List.mem_cons_self hstart hset
    refine ih ?_ hmiddle hread
    exact fun key d before after hmem => hstep key d before after (List.mem_cons_of_mem _ hmem)

/-- Where all fields could be read together, each of them could be read. -/
theorem exists_set_of_mem {fields : List (K × Document)} {draft draft' : σ}
    (h : readFields set draft fields = .ok draft') {key : K} {d : Document}
    (hmem : (key, d) ∈ fields) : ∃ before after, set before d key = .ok after := by
  induction fields generalizing draft with
  | nil => cases hmem
  | cons field rest ih =>
    obtain ⟨middle, hset, hread⟩ := Outcome.bind_eq_ok.1 h
    rcases List.mem_cons.1 hmem with rfl | hmem
    · exact ⟨draft, middle, hset⟩
    · exact ih hread hmem

/-- Fields of different keys are read one by one, when each can be read into what has been read of
other keys before. -/
theorem exists_readFields {inv : List K → σ → Prop} {fields : List (K × Document)}
    {seen : List K} {draft : σ}
    (hstep : ∀ seen draft key d, (key, d) ∈ fields → key ∉ seen → inv seen draft →
      ∃ draft', set draft d key = .ok draft' ∧ inv (key :: seen) draft')
    (hnodup : (fields.map Prod.fst).Nodup) (hseen : ∀ key ∈ fields.map Prod.fst, key ∉ seen)
    (h : inv seen draft) :
    ∃ draft' seen', readFields set draft fields = .ok draft' ∧ inv seen' draft' ∧
      ∀ key ∈ fields.map Prod.fst, key ∈ seen' := by
  suffices hall : ∃ draft' seen', readFields set draft fields = .ok draft' ∧ inv seen' draft' ∧
      ∀ key, key ∈ fields.map Prod.fst ∨ key ∈ seen → key ∈ seen' by
    obtain ⟨draft', seen', hread, hinv, hmem⟩ := hall
    exact ⟨draft', seen', hread, hinv, fun key hkey => hmem key (.inl hkey)⟩
  induction fields generalizing seen draft with
  | nil => exact ⟨draft, seen, rfl, h, by simp⟩
  | cons field rest ih =>
    obtain ⟨key, d⟩ := field
    rw [List.map_cons, List.nodup_cons] at hnodup
    obtain ⟨hnew, hnodup⟩ := hnodup
    obtain ⟨middle, hset, hmiddle⟩ :=
      hstep seen draft key d List.mem_cons_self (hseen key List.mem_cons_self) h
    have hrest : ∀ other ∈ rest.map Prod.fst, other ∉ key :: seen := by
      intro other hother hmem
      rcases List.mem_cons.1 hmem with rfl | hmem
      · exact hnew hother
      · exact hseen other (List.mem_cons_of_mem _ hother) hmem
    obtain ⟨draft', seen', hread, hinv, hmem⟩ := ih
      (fun seen draft key d hin => hstep seen draft key d (List.mem_cons_of_mem _ hin))
      hnodup hrest hmiddle
    refine ⟨draft', seen', Outcome.bind_eq_ok.2 ⟨middle, hset, hread⟩, hinv, ?_⟩
    intro other hother
    refine hmem other ?_
    simp only [List.map_cons, List.mem_cons] at hother ⊢
    tauto

end Vocabulary

@[simp]
theorem Reading.expect_some {α : Type} (a : α) : Reading.expect (some a) = .ok a := rfl

/-- A field that has not been seen is put in. -/
@[simp]
theorem Reading.once_none {α σ : Type} (set : α → σ) (a : α) :
    Reading.once none set (.ok a) = .ok (set a) := rfl

/-- A field is read where it has not been seen before. -/
theorem Reading.once_eq_ok {α σ : Type} {seen : Option α} {set : α → σ} {read : Reading α} {s : σ} :
    Reading.once seen set read = .ok s ↔ seen = none ∧ ∃ a, read = .ok a ∧ set a = s := by
  unfold Reading.once
  rcases seen with - | a
  · simp [Outcome.map_eq_ok]
  · simp [Reading.malformed]

/-! ### Filters -/

/-- The keys of filters. -/
def FilterKey.vocabulary : Vocabulary FilterKey where
  keys := all
  spellings := spellings
  unambiguous key := by cases key <;> decide

namespace FilterDescriptor

/-- Reads a field of a filter. -/
def set (levels : Nat) (draft : FilterDraft) (d : Document) : FilterKey → Reading FilterDraft
  | .or =>
    Reading.once draft.or (fun v => { draft with or := some v }) (ofChildren levels d)
  | key => draft.set levels d key

theorem set_of_ne {levels : Nat} {draft : FilterDraft} {d : Document} {key : FilterKey}
    (h : key ≠ .or) : set levels draft d key = draft.set levels d key := by
  cases key with
  | or => exact absurd rfl h
  | _ => rfl

/-- Only the children are read into the children. -/
theorem or_of_set {levels : Nat} {draft draft' : FilterDraft} {d : Document} {key : FilterKey}
    (h : draft.set levels d key = .ok draft') : draft'.or = draft.or := by
  cases key with
  | or => cases h
  | _ =>
    obtain ⟨-, v, -, rfl⟩ := Reading.once_eq_ok.1 h
    rfl

/-- Reading a field reads the children of the filter, or leaves them as they are. -/
theorem set_cases {levels : Nat} {draft draft' : FilterDraft} {d : Document} {key : FilterKey}
    (h : set levels draft d key = .ok draft') :
    (key = .or ∧ ∃ children, ofChildren levels d = .ok children ∧ draft'.or = some children) ∨
      key ≠ .or ∧ draft'.or = draft.or := by
  by_cases hkey : key = .or
  · subst hkey
    obtain ⟨-, children, hchildren, rfl⟩ := Reading.once_eq_ok.1 h
    exact .inl ⟨rfl, children, hchildren, rfl⟩
  · rw [set_of_ne hkey] at h
    exact .inr ⟨hkey, or_of_set h⟩

theorem ofMembers_eq (levels : Nat) (members : List (Option String × Document))
    (draft : FilterDraft) :
    ofMembers levels draft members =
      FilterKey.vocabulary.readMembers (set levels) draft members := by
  induction members generalizing draft with
  | nil => rfl
  | cons member rest ih =>
    obtain ⟨name, d⟩ := member
    rcases name with - | name
    · rfl
    · have hkey : FilterKey.vocabulary.key? name = FilterKey.ofText? name := rfl
      rw [Vocabulary.readMembers, hkey, ofMembers.eq_def]
      simp only [ih]
      rcases FilterKey.ofText? name with - | key
      · rfl
      · cases key <;> rfl

/-- In an array the children come last, so that none have been read before. -/
theorem ofItems_eq (levels : Nat) (keys : List FilterKey) (items : List Document)
    (draft : FilterDraft) (hnodup : keys.Nodup) (hor : .or ∈ keys → draft.or = none) :
    ofItems levels draft keys items = Vocabulary.readItems (set levels) draft keys items := by
  induction items generalizing keys draft with
  | nil => rw [ofItems.eq_def, Vocabulary.readItems]
  | cons d rest ih =>
    rcases keys with - | ⟨key, keys⟩
    · rfl
    · obtain ⟨hnew, hrest⟩ := List.nodup_cons.1 hnodup
      rw [Vocabulary.readItems]
      by_cases hkey : key = .or
      · subst hkey
        have hnone := hor List.mem_cons_self
        rw [ofItems, set, hnone]
        rcases ofChildren levels d with e | children
        · rfl
        · exact ih keys _ hrest fun hmem => absurd hmem hnew
      · have hitems : ofItems levels draft (key :: keys) (d :: rest) =
            draft.set levels d key >>= fun draft => ofItems levels draft keys rest := by
          cases key with
          | or => exact absurd rfl hkey
          | _ => rfl
        rw [hitems, set_of_ne hkey]
        rcases hread : draft.set levels d key with e | draft'
        · rfl
        · refine ih keys draft' hrest fun hmem => ?_
          rw [or_of_set hread]
          exact hor (List.mem_cons_of_mem _ hmem)

/-- A filter is accepted from the fields that its document lists. -/
theorem ofDocument_eq_ok {levels : Nat} {d : Document} {filter : FilterDescriptor} :
    ofDocument levels d = .ok filter ↔ levels ≠ 0 ∧
      ∃ fields, FilterKey.vocabulary.fields? d = some fields ∧
        ∃ draft, Vocabulary.readFields (set (levels - 1)) {} fields = .ok draft ∧
          draft.finish = .ok filter := by
  have heq : ofDocument levels d = if levels = 0 then .malformed else
      FilterKey.vocabulary.read (set (levels - 1)) {} d >>= FilterDraft.finish := by
    cases d with
    | object members =>
      rw [ofDocument, ofMembers_eq]
      rfl
    | array items =>
      rw [ofDocument, ofItems_eq (levels - 1) FilterKey.all items {} (by decide) fun _ => rfl]
      rfl
    | _ => split <;> rfl
  rw [heq, Vocabulary.finish_eq_ok]

/-- Filters are read one after the other. -/
theorem ofList_eq (levels : Nat) (items : List Document) :
    ofList levels items = items.mapM (ofDocument levels) := by
  induction items with
  | nil => rfl
  | cons d rest ih => rw [List.mapM_cons, ofList, ih]

/-- Children are accepted from an array of accepted filters. -/
theorem ofChildren_eq_ok {levels : Nat} {d : Document} {children : List FilterDescriptor} :
    ofChildren levels d = .ok children ↔ levels ≠ 0 ∧
      ∃ items, d = .array items ∧ items.mapM (ofDocument (levels - 1)) = .ok children := by
  cases d with
  | array items =>
    by_cases hlevels : levels = 0
    · simp [ofChildren, hlevels, Reading.malformed]
    · simp [ofChildren, hlevels, ofList_eq]
  | _ => simp [ofChildren, Reading.malformed]

/-- Accepted children are read from accepted filters. -/
theorem accepted_of_mem_children {levels : Nat} {d : Document} {children : List FilterDescriptor}
    (h : ofChildren levels d = .ok children) {child : FilterDescriptor} (hmem : child ∈ children) :
    ∃ levels item, ofDocument levels item = .ok child := by
  obtain ⟨-, items, -, hitems⟩ := ofChildren_eq_ok.1 h
  obtain ⟨item, -, hitem⟩ := Outcome.exists_of_mem_mapM_ok hitems hmem
  exact ⟨_, item, hitem⟩

/-- All items of accepted children are accepted filters. -/
theorem accepted_of_mem_items {levels : Nat} {items : List Document}
    {children : List FilterDescriptor} (h : ofChildren levels (.array items) = .ok children)
    {item : Document} (hmem : item ∈ items) :
    ∃ levels child, ofDocument levels item = .ok child := by
  obtain ⟨-, others, heq, hothers⟩ := ofChildren_eq_ok.1 h
  cases heq
  obtain ⟨child, -, hchild⟩ := Outcome.exists_mem_of_mapM_ok hothers hmem
  exact ⟨_, child, hchild⟩

end FilterDescriptor

/-! ### Sort keys -/

/-- The keys of sorts. -/
def SortField.vocabulary : Vocabulary SortField where
  keys := all
  spellings := spellings
  unambiguous key := by cases key <;> decide

namespace SortDescriptor

theorem ofMembers_eq (members : List (Option String × Document)) (draft : SortDraft) :
    draft.ofMembers members = SortField.vocabulary.readMembers SortDraft.set draft members := by
  induction members generalizing draft with
  | nil => rfl
  | cons member rest ih =>
    obtain ⟨name, d⟩ := member
    rcases name with - | name
    · rfl
    · have hkey : SortField.vocabulary.key? name = SortField.ofText? name := rfl
      rw [Vocabulary.readMembers, hkey, SortDraft.ofMembers]
      simp only [ih]
      rcases SortField.ofText? name with - | key <;> rfl

theorem ofItems_eq (keys : List SortField) (items : List Document) (draft : SortDraft) :
    draft.ofItems keys items = Vocabulary.readItems SortDraft.set draft keys items := by
  induction items generalizing keys draft with
  | nil => rw [SortDraft.ofItems.eq_def, Vocabulary.readItems]
  | cons d rest ih =>
    rcases keys with - | ⟨key, keys⟩
    · rfl
    · rw [Vocabulary.readItems, SortDraft.ofItems]
      simp only [ih]

/-- A sort is accepted from the fields that its document lists. -/
theorem ofDocument_eq_ok {levels : Nat} {d : Document} {sort : SortDescriptor} :
    ofDocument levels d = .ok sort ↔ levels ≠ 0 ∧
      ∃ fields, SortField.vocabulary.fields? d = some fields ∧
        ∃ draft, Vocabulary.readFields SortDraft.set {} fields = .ok draft ∧
          draft.finish = .ok sort := by
  have heq : ofDocument levels d = if levels = 0 then .malformed else
      SortField.vocabulary.read SortDraft.set {} d >>= SortDraft.finish := by
    cases d with
    | object members =>
      rw [ofDocument, ofMembers_eq]
      rfl
    | array items =>
      rw [ofDocument, ofItems_eq]
      rfl
    | _ => split <;> rfl
  rw [heq, Vocabulary.finish_eq_ok]

/-- Sorts are accepted from an array of accepted sorts. -/
theorem ofArray_eq_ok {levels : Nat} {d : Document} {sorts : List SortDescriptor} :
    ofArray levels d = .ok sorts ↔ levels ≠ 0 ∧
      ∃ items, d = .array items ∧ items.mapM (ofDocument (levels - 1)) = .ok sorts := by
  cases d with
  | array items =>
    by_cases hlevels : levels = 0
    · simp [ofArray, hlevels, Reading.malformed]
    · simp [ofArray, hlevels]
  | _ => simp [ofArray, Reading.malformed]

end SortDescriptor

/-! ### Queries -/

/-- The keys of queries. -/
def QueryKey.vocabulary : Vocabulary QueryKey where
  keys := all
  spellings := spellings
  unambiguous key := by cases key <;> decide

namespace Query

/-- Reads a field of a query. -/
def set (levels : Nat) (draft : QueryDraft) : Document → QueryKey → Reading QueryDraft :=
  draft.set levels

/-- Reading a field reads the filters of the query, or leaves them as they are. -/
theorem set_cases {levels : Nat} {draft draft' : QueryDraft} {d : Document} {key : QueryKey}
    (h : set levels draft d key = .ok draft') :
    (key = .filters ∧ ∃ filters, FilterDescriptor.ofChildren levels d = .ok filters ∧
        draft'.filters = some filters) ∨
      key ≠ .filters ∧ draft'.filters = draft.filters := by
  cases key with
  | filters =>
    obtain ⟨-, filters, hfilters, rfl⟩ := Reading.once_eq_ok.1 h
    exact .inl ⟨rfl, filters, hfilters, rfl⟩
  | _ =>
    obtain ⟨-, v, -, rfl⟩ := Reading.once_eq_ok.1 h
    exact .inr ⟨by decide, rfl⟩

theorem ofMembers_eq (levels : Nat) (members : List (Option String × Document))
    (draft : QueryDraft) :
    QueryDraft.ofMembers levels draft members =
      QueryKey.vocabulary.readMembers (set levels) draft members := by
  induction members generalizing draft with
  | nil => rfl
  | cons member rest ih =>
    obtain ⟨name, d⟩ := member
    rcases name with - | name
    · rfl
    · have hkey : QueryKey.vocabulary.key? name = QueryKey.ofText? name := rfl
      rw [Vocabulary.readMembers, hkey, QueryDraft.ofMembers]
      simp only [ih]
      rcases QueryKey.ofText? name with - | key <;> rfl

theorem ofItems_eq (levels : Nat) (keys : List QueryKey) (items : List Document)
    (draft : QueryDraft) :
    QueryDraft.ofItems levels draft keys items =
      Vocabulary.readItems (set levels) draft keys items := by
  induction items generalizing keys draft with
  | nil => rw [QueryDraft.ofItems.eq_def, Vocabulary.readItems]
  | cons d rest ih =>
    rcases keys with - | ⟨key, keys⟩
    · rfl
    · rw [Vocabulary.readItems, QueryDraft.ofItems]
      simp only [ih]
      rfl

/-- A query is accepted from the fields that its document lists. -/
theorem ofDocument_eq_ok {levels : Nat} {d : Document} {query : Query} :
    ofDocument levels d = .ok query ↔ levels ≠ 0 ∧
      ∃ fields, QueryKey.vocabulary.fields? d = some fields ∧
        ∃ draft, Vocabulary.readFields (set (levels - 1)) {} fields = .ok draft ∧
          draft.finish = query := by
  have heq : ofDocument levels d = if levels = 0 then .malformed else
      QueryKey.vocabulary.read (set (levels - 1)) {} d >>= fun draft => .ok draft.finish := by
    cases d with
    | object members =>
      rw [ofDocument, ofMembers_eq]
      rfl
    | array items =>
      rw [ofDocument, ofItems_eq]
      rfl
    | _ => split <;> rfl
  simp only [heq, Vocabulary.finish_eq_ok, Except.ok.injEq]

end Query

/-! ### Texts -/

/-- What is read from a text is read from the document that ends with it. -/
theorem readText_eq_ok {α : Type} {read : Document → Reading α} {text : String} {a : α} :
    readText read text = .ok a ↔
      ∃ d, Document.read text.toList = (d, true) ∧ read d = .ok a := by
  rcases hread : Document.read text.toList with ⟨d, complete⟩
  simp only [readText, hread, Outcome.bind_eq_ok]
  cases complete with
  | false => simp [Reading.malformed]
  | true => simp [pure, Except.pure]

/-- A filter is accepted from the document of its text. -/
theorem FilterDescriptor.ofText_eq_ok {text : String} {filter : FilterDescriptor} :
    ofText text = .ok filter ↔
      ∃ d, Document.read text.toList = (d, true) ∧ ofDocument nestingLimit d = .ok filter :=
  readText_eq_ok

/-- A sort is accepted from the document of its text. -/
theorem SortDescriptor.ofText_eq_ok {text : String} {sort : SortDescriptor} :
    ofText text = .ok sort ↔
      ∃ d, Document.read text.toList = (d, true) ∧ ofDocument nestingLimit d = .ok sort :=
  readText_eq_ok

/-- A query is accepted from the document of its text. -/
theorem Query.ofText_eq_ok {text : String} {query : Query} :
    ofText text = .ok query ↔
      ∃ d, Document.read text.toList = (d, true) ∧ ofDocument nestingLimit d = .ok query := by
  rw [← readText_eq_ok, ofText]
  rcases readText (ofDocument nestingLimit) text with e | q <;> simp [Except.mapError]

end RecordQuery
