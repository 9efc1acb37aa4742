import RecordQuery.Declaration
import RecordQuery.Proofs.Outcome

/-!
# What is derived

The attributes of a declaration are read when they hold nothing but `skip` and renames to names that
are not empty and have no dot.  Together they say whether something is left out, and which name it
has: that of the last rename (`Marks.ofAttributes_eq_ok_iff`).

What is generated for a type with named fields is read off these fields
(`Declaration.derive_eq_ok`): those that are not left out, in their order, each with its name in
queries.
-/

namespace RecordQuery

/-! ### Attributes -/

/-- An item that may stand in an attribute: `skip`, or a rename to a name that is not empty and has
no dot. -/
inductive AttributeItem.IsAccepted : AttributeItem → Prop where
  | skip : IsAccepted .skip
  | rename {name : String} (nonempty : name ≠ "") (undotted : '.' ∉ name.toList) :
      IsAccepted (.rename name)

instance : DecidablePred AttributeItem.IsAccepted
  | .skip => .isTrue .skip
  | .rename name =>
    if h : name ≠ "" ∧ '.' ∉ name.toList then .isTrue (.rename h.1 h.2)
    else .isFalse fun | .rename nonempty undotted => h ⟨nonempty, undotted⟩
  | .renameToOther => .isFalse nofun
  | .unknown => .isFalse nofun

/-- The name that an item gives. -/
def AttributeItem.rename? : AttributeItem → Option String
  | .rename name => some name
  | _ => none

namespace Attribute

/-- The items of an attribute; those of other tools have none. -/
def items : Attribute → List AttributeItem
  | .list items => items
  | _ => []

/-- An attribute that can be read: that of some other tool, or a list of items that may stand. -/
inductive IsAccepted : Attribute → Prop where
  | foreign : IsAccepted .foreign
  | list {items : List AttributeItem} (accepted : ∀ item ∈ items, item.IsAccepted) :
      IsAccepted (.list items)

/-- A list can be read when all its items may stand. -/
theorem isAccepted_list_iff {items : List AttributeItem} :
    (Attribute.list items).IsAccepted ↔ ∀ item ∈ items, item.IsAccepted :=
  ⟨fun | .list accepted => accepted, .list⟩

instance : DecidablePred IsAccepted
  | .foreign => .isTrue .foreign
  | .bare => .isFalse nofun
  | .list _ => decidable_of_iff _ isAccepted_list_iff.symm

/-- Some attribute leaves out what it stands at. -/
def skips (attributes : List Attribute) : Bool := (attributes.flatMap items).contains .skip

/-- The name that the last rename in all attributes gives. -/
def lastRename? (attributes : List Attribute) : Option String :=
  ((attributes.flatMap items).filterMap AttributeItem.rename?).getLast?

end Attribute

/-- An error that is given back with its message.  At the remaining one the generator stops. -/
def DeriveError.IsReported (e : DeriveError) : Prop := ∀ constant, e ≠ .invalidConstant constant

namespace Marks

/-- The marks after items that are read on top of them. -/
def after (marks : Marks) (items : List AttributeItem) : Marks where
  skip := marks.skip || items.contains .skip
  rename := (items.filterMap AttributeItem.rename?).getLast?.or marks.rename

/-- Items are read one after the other. -/
theorem after_append (marks : Marks) (before items : List AttributeItem) :
    marks.after (before ++ items) = (marks.after before).after items := by
  have hskip : (before ++ items).contains AttributeItem.skip =
      (before.contains .skip || items.contains .skip) := by simp
  unfold after
  rw [hskip, ← Bool.or_assoc, List.filterMap_append, List.getLast?_append, Option.or_assoc]

/-- A fold over sources of items reads all the items. -/
theorem foldl_after {α : Type} (itemsOf : α → List AttributeItem) (marks : Marks) (xs : List α) :
    xs.foldl (fun marks x => marks.after (itemsOf x)) marks = marks.after (xs.flatMap itemsOf) := by
  induction xs generalizing marks with
  | nil =>
    unfold after
    simp
  | cons x xs ih => rw [List.foldl_cons, ih, List.flatMap_cons, after_append]

variable {marks marks' : Marks}

/-- A rename is read when its name is not empty and has no dot. -/
theorem addItem_rename (marks : Marks) (name : String) : marks.addItem (.rename name) =
    if name = "" ∨ '.' ∈ name.toList then .error .invalidRename
    else .ok { marks with rename := some name } := by
  have hcondition : (name.isEmpty || name.toList.contains '.') = true ↔
      name = "" ∨ '.' ∈ name.toList := by simp
  simp only [addItem, hcondition]

/-- A single item can be read when it may stand. -/
theorem addItem_eq_ok_iff {item : AttributeItem} :
    marks.addItem item = .ok marks' ↔ item.IsAccepted ∧ marks' = marks.after [item] := by
  rcases item with _ | name | _ | _
  case skip =>
    have hafter : marks.after [.skip] = { marks with skip := true } := by simp [after,
      AttributeItem.rename?]
    rw [hafter, addItem, Except.ok.injEq, eq_comm]
    exact ⟨fun h => ⟨.skip, h⟩, fun h => h.2⟩
  case rename =>
    have hafter : marks.after [.rename name] = { marks with rename := some name } := by
      simp [after, AttributeItem.rename?]
    rw [hafter, addItem_rename]
    by_cases hname : name = "" ∨ '.' ∈ name.toList
    · rw [if_pos hname]
      refine ⟨nofun, ?_⟩
      rintro ⟨_ | ⟨hnonempty, hundotted⟩, -⟩
      exact absurd hname (not_or.2 ⟨hnonempty, hundotted⟩)
    · rw [if_neg hname, Except.ok.injEq, eq_comm]
      obtain ⟨hnonempty, hundotted⟩ := not_or.1 hname
      exact ⟨fun h => ⟨.rename hnonempty hundotted, h⟩, fun h => h.2⟩
  all_goals
    refine ⟨nofun, ?_⟩
    rintro ⟨⟨⟩, -⟩

/-- A single attribute can be read when it is accepted. -/
theorem addAttribute_eq_ok_iff {a : Attribute} :
    marks.addAttribute a = .ok marks' ↔ a.IsAccepted ∧ marks' = marks.after a.items := by
  rcases a with _ | _ | items
  case foreign =>
    have hafter : marks.after (Attribute.items .foreign) = marks := by simp [after, Attribute.items]
    rw [hafter, addAttribute, Except.ok.injEq, eq_comm]
    exact ⟨fun h => ⟨.foreign, h⟩, fun h => h.2⟩
  case bare =>
    refine ⟨nofun, ?_⟩
    rintro ⟨⟨⟩, -⟩
  case list =>
    rw [addAttribute, Outcome.foldlM_eq_ok_iff (f := addItem) fun _ _ _ => addItem_eq_ok_iff,
      foldl_after fun item => [item], List.flatMap_singleton', Attribute.isAccepted_list_iff]
    rfl

/-- Attributes can be read when each of them is accepted.  They leave out what they stand at when
one of them says so, and the last rename gives the name. -/
theorem ofAttributes_eq_ok_iff {attributes : List Attribute} :
    ofAttributes attributes = .ok marks ↔ (∀ a ∈ attributes, a.IsAccepted) ∧
      marks = ⟨Attribute.skips attributes, Attribute.lastRename? attributes⟩ := by
  have hafter : ({} : Marks).after (attributes.flatMap Attribute.items) =
      ⟨Attribute.skips attributes, Attribute.lastRename? attributes⟩ := by
    unfold after Attribute.skips Attribute.lastRename?
    rw [Bool.false_or, Option.or_none]
  rw [ofAttributes,
    Outcome.foldlM_eq_ok_iff (f := addAttribute) fun _ _ _ => addAttribute_eq_ok_iff, foldl_after,
    hafter]

/-- Attributes that cannot be read are reported. -/
theorem raises_ofAttributes (attributes : List Attribute) :
    Outcome.Raises DeriveError.IsReported (ofAttributes attributes) := by
  have hitem : ∀ (marks : Marks) (item : AttributeItem),
      Outcome.Raises DeriveError.IsReported (marks.addItem item) := by
    intro marks item
    rcases item with _ | name | _ | _
    case skip => exact Outcome.raises_ok _
    case rename =>
      rw [addItem_rename]
      split
      · exact Outcome.raises_error (by simp [DeriveError.IsReported])
      · exact Outcome.raises_ok _
    all_goals exact Outcome.raises_error (by simp [DeriveError.IsReported])
  unfold ofAttributes
  refine Outcome.raises_foldlM ?_ attributes _
  intro marks a
  rcases a with _ | _ | items
  case foreign => exact Outcome.raises_ok marks
  case bare => exact Outcome.raises_error (by simp [DeriveError.IsReported])
  case list => exact Outcome.raises_foldlM hitem items marks

end Marks

/-! ### Fields and members -/

namespace DeclaredField

/-- The attributes of the field can be read. -/
def IsAccepted (f : DeclaredField) : Prop := ∀ a ∈ f.attributes, a.IsAccepted

instance (f : DeclaredField) : Decidable f.IsAccepted :=
  inferInstanceAs (Decidable (∀ a ∈ f.attributes, a.IsAccepted))

/-- The field is not left out. -/
def isShown (f : DeclaredField) : Bool := !Attribute.skips f.attributes

/-- The name that the field is given in place of its own. -/
def rename? (f : DeclaredField) : Option String := Attribute.lastRename? f.attributes

/-- The name of the field in queries: the one it is given, or its own without marks. -/
def queried (f : DeclaredField) : String :=
  f.rename?.getD (String.ofList (unmarked f.name.toList))

/-- What queries know of the field. -/
def exposed (f : DeclaredField) : ExposedField := ⟨f.queried, f.name, f.type⟩

/-- A field whose constant is an identifier, unless it is left out and has none. -/
def IsNameable (f : DeclaredField) : Prop :=
  f.isShown = true → Text.isIdentifier (constantOf f.queried).toList = true

variable {f : DeclaredField}

/-- What is made of a field whose attributes can be read. -/
theorem expose_eq (h : f.IsAccepted) : f.expose =
    if f.isShown = false then .ok none
    else if Text.isIdentifier (constantOf f.queried).toList = true then .ok (some f.exposed)
    else .error (.invalidConstant (constantOf f.queried)) := by
  unfold expose isShown exposed queried rename?
  rw [Marks.ofAttributes_eq_ok_iff.2 ⟨h, rfl⟩]
  rcases Attribute.skips f.attributes with _ | _
  · simp only [bind, Except.bind, Bool.false_eq_true, Bool.not_false, if_false, Bool.true_eq_false]
    rfl
  · rfl

/-- A field can be exposed when its attributes can be read and its constant is an identifier. -/
theorem expose_eq_ok_iff {e : Option ExposedField} : f.expose = .ok e ↔
    (f.IsAccepted ∧ f.IsNameable) ∧ e = if f.isShown = true then some f.exposed else none := by
  by_cases haccepted : f.IsAccepted
  · rw [expose_eq haccepted]
    unfold IsNameable
    by_cases hshown : f.isShown = true
    · by_cases hconstant : Text.isIdentifier (constantOf f.queried).toList = true
      · rw [if_neg (by simp [hshown]), if_pos hconstant, if_pos hshown, Except.ok.injEq, eq_comm]
        exact ⟨fun h => ⟨⟨haccepted, fun _ => hconstant⟩, h⟩, fun h => h.2⟩
      · rw [if_neg (by simp [hshown]), if_neg hconstant]
        exact ⟨nofun, fun h => absurd (h.1.2 hshown) hconstant⟩
    · rw [if_pos (by simpa using hshown), if_neg hshown, Except.ok.injEq, eq_comm]
      exact ⟨fun h => ⟨⟨haccepted, fun hs => absurd hs hshown⟩, h⟩, fun h => h.2⟩
  · refine ⟨fun h => ?_, fun h => absurd h.1.1 haccepted⟩
    obtain ⟨marks, hmarks, -⟩ := Outcome.bind_eq_ok.1 h
    exact absurd (Marks.ofAttributes_eq_ok_iff.1 hmarks).1 haccepted

/-- A field whose attributes can be read fails at its constant only. -/
theorem not_isReported_of_expose_eq_error {e : DeriveError} (h : f.IsAccepted)
    (herror : f.expose = .error e) : ¬ e.IsReported := by
  rw [expose_eq h] at herror
  intro hreported
  by_cases hshown : f.isShown = false
  · rw [if_pos hshown] at herror
    cases herror
  · by_cases hconstant : Text.isIdentifier (constantOf f.queried).toList = true
    · rw [if_neg hshown, if_pos hconstant] at herror
      cases herror
    · rw [if_neg hshown, if_neg hconstant] at herror
      exact hreported _ (Except.error.inj herror).symm

end DeclaredField

/-- A member that is refused is reported. -/
theorem DeclaredMember.raises_expose (member : DeclaredMember) :
    Outcome.Raises DeriveError.IsReported member.expose := by
  unfold expose
  split
  · exact Outcome.raises_error (by simp [DeriveError.IsReported])
  · refine Outcome.raises_bind (Marks.raises_ofAttributes member.attributes) ?_
    intro marks
    split
    · exact Outcome.raises_error (by simp [DeriveError.IsReported])
    · exact Outcome.raises_ok _

/-! ### Declarations -/

namespace Declaration

/-- The named fields of a type; other declarations have none. -/
def fields (d : Declaration) : List DeclaredField :=
  match d.shape with
  | .named fields => fields
  | _ => []

/-- The fields that are not left out. -/
def shownFields (d : Declaration) : List DeclaredField := d.fields.filter DeclaredField.isShown

/-- The name of the entity: the one that the type is given, or its own. -/
def entityName (d : Declaration) : String := (Attribute.lastRename? d.attributes).getD d.name

variable {d : Declaration} {derived : Derived}

/-- A declaration with a field is one of a type with named fields. -/
theorem shape_of_mem {f : DeclaredField} (h : f ∈ d.fields) : d.shape = .named d.fields := by
  unfold Declaration.fields at h ⊢
  rcases hshape : d.shape with fields | _ | _ | members
  case named => rfl
  all_goals
    rw [hshape] at h
    exact absurd h List.not_mem_nil

/-- Nothing is generated for a generic type. -/
theorem derive_generic (h : d.generic = true) : d.derive = .error .generic := by
  unfold derive
  rw [h]
  rfl

/-- All fields can be exposed when each of them can. -/
theorem mapM_expose_eq_ok_iff {fields : List DeclaredField}
    {exposed : List (Option ExposedField)} :
    fields.mapM DeclaredField.expose = .ok exposed ↔ (∀ f ∈ fields, f.IsAccepted ∧ f.IsNameable) ∧
      exposed = fields.map fun f => if f.isShown = true then some f.exposed else none :=
  Outcome.mapM_eq_ok_iff fun _ _ => DeclaredField.expose_eq_ok_iff

/-- What is generated for a type with named fields that is not generic and whose own attributes can
be read: tables of the fields that are exposed. -/
theorem derive_named {fields : List DeclaredField} (specific : d.generic = false)
    (accepted : ∀ a ∈ d.attributes, a.IsAccepted) (shape : d.shape = .named fields) :
    d.derive = (fields.mapM DeclaredField.expose).map fun exposed =>
      .record (recordTables d.entityName (exposed.filterMap id)) := by
  unfold derive
  rw [specific, Marks.ofAttributes_eq_ok_iff.2 ⟨accepted, rfl⟩, shape]
  change (fields.mapM DeclaredField.expose >>= fun exposed =>
    Except.ok (Derived.record (recordTables d.entityName (exposed.filterMap id)))) = _
  rcases fields.mapM DeclaredField.expose <;> rfl

/-- The fields that are exposed are those that are not left out. -/
theorem filterMap_exposed (d : Declaration) :
    (d.fields.map fun f => if f.isShown = true then some f.exposed else none).filterMap id =
      d.shownFields.map DeclaredField.exposed := by
  rw [shownFields, List.filterMap_map, ← List.filterMap_eq_map, List.filterMap_filter]
  rfl

/-- Tables are generated for a type with named fields that is not generic, when all attributes can
be read and all fields can be named. -/
theorem derive_eq_record (specific : d.generic = false)
    (accepted : ∀ a ∈ d.attributes, a.IsAccepted) (shape : d.shape = .named d.fields)
    (fields : ∀ f ∈ d.fields, f.IsAccepted ∧ f.IsNameable) : d.derive =
      .ok (.record (recordTables d.entityName (d.shownFields.map DeclaredField.exposed))) := by
  rw [derive_named specific accepted shape, mapM_expose_eq_ok_iff.2 ⟨fields, rfl⟩, Except.map,
    filterMap_exposed]

/-- What is generated comes from a type with named fields, all of which can be exposed, or from an
enumeration. -/
theorem derive_eq_ok (h : d.derive = .ok derived) :
    (d.shape = .named d.fields ∧ (∀ f ∈ d.fields, f.IsAccepted ∧ f.IsNameable) ∧
      derived = .record (recordTables d.entityName (d.shownFields.map DeclaredField.exposed))) ∨
    ∃ (members : List DeclaredMember) (names : List String), d.shape = .enumeration members ∧
      members.mapM DeclaredMember.expose = .ok names ∧
      derived = .enumeration ⟨names, members.zipIdx.map fun (m, i) => (m.name, i)⟩ := by
  have hderive := h
  unfold derive at h
  rcases hgeneric : d.generic with _ | _
  · rw [hgeneric] at h
    obtain ⟨marks, hmarks, h⟩ := Outcome.bind_eq_ok.1 h
    obtain ⟨haccepted, rfl⟩ := Marks.ofAttributes_eq_ok_iff.1 hmarks
    rcases hshape : d.shape with fields | _ | _ | members
    case named =>
      rw [derive_named hgeneric haccepted hshape] at hderive
      obtain ⟨exposed, hexposed, rfl⟩ := Outcome.map_eq_ok.1 hderive
      obtain ⟨hall, rfl⟩ := mapM_expose_eq_ok_iff.1 hexposed
      obtain rfl : d.fields = fields := by rw [Declaration.fields, hshape]
      rw [filterMap_exposed]
      exact .inl ⟨rfl, hall, rfl⟩
    case enumeration =>
      rw [hshape] at h
      rcases members with _ | ⟨member, members⟩
      · cases h
      · obtain ⟨names, hnames, h⟩ := Outcome.bind_eq_ok.1 h
        cases h
        exact .inr ⟨_, names, rfl, hnames, rfl⟩
    all_goals
      rw [hshape] at h
      cases h
  · rw [hgeneric] at h
    cases h

/-- The tables of a type hold its fields that are not left out. -/
theorem tables_eq {tables : RecordTables} (h : d.derive = .ok (.record tables)) :
    tables = recordTables d.entityName (d.shownFields.map DeclaredField.exposed) := by
  obtain ⟨-, -, ⟨⟩⟩ | ⟨members, names, -, -, ⟨⟩⟩ := derive_eq_ok h
  rfl

/-- An error that is not reported is that of a field. -/
theorem raises_derive (d : Declaration) :
    Outcome.Raises (fun e => e.IsReported ∨ ∃ f ∈ d.fields, f.expose = .error e) d.derive := by
  unfold derive
  rcases d.generic with _ | _
  · refine Outcome.raises_bind ((Marks.raises_ofAttributes d.attributes).mono fun e => .inl) ?_
    intro marks
    rcases hshape : d.shape with fields | _ | _ | members
    case named =>
      have hfields : d.fields = fields := by rw [Declaration.fields, hshape]
      refine Outcome.raises_bind ?_ fun exposed => Outcome.raises_ok _
      intro e he
      rw [hfields]
      exact .inr (Outcome.exists_mem_of_mapM_error he)
    case enumeration =>
      rcases members with _ | ⟨member, members⟩
      · exact Outcome.raises_error (.inl (by simp [DeriveError.IsReported]))
      · refine Outcome.raises_bind ?_ fun names => Outcome.raises_ok _
        exact (Outcome.raises_mapM DeclaredMember.raises_expose _).mono fun e => .inl
    all_goals exact Outcome.raises_error (.inl (by simp [DeriveError.IsReported]))
  · exact Outcome.raises_error (.inl (by simp [DeriveError.IsReported]))

end Declaration

end RecordQuery
