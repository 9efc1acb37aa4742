import RecordQuery.Proofs.Spelling
import RecordQuery.Proofs.Walks

/-!
# Canonical paths

A resolved path is written with the names of the schemas.  This text agrees with the one that was
resolved up to ASCII case, and it is resolved to the same path again: the names of the fields along
a walk are a walk through the same fields (`Catalog.Walk.canonical`).

Where no schema has two fields whose names agree, the case of a path does not matter at all.  Paths
that agree are walks through the same fields, or fail at the same place
(`FieldPath.resolve_canonical`).
-/

namespace RecordQuery

/-! ### Canonical names -/

namespace Schema

variable {schema : Schema} {segment other : String} {field : Field}

/-- A field that a segment names is named by its own name too. -/
theorem Names.canonical (named : schema.Names segment field) : schema.Names field.name field := by
  have hcanonical := canonical?_of_field? (field?_eq_some_iff.2 named)
  rw [← field?_eq_some_iff, field?, lookupName]
  exact Option.or_eq_some_iff.2 (.inl hcanonical)

/-- No two fields of the schema have names that agree. -/
def Distinct (schema : Schema) : Prop :=
  schema.fields.Pairwise fun f g => Text.agree f.name g.name = false

/-- Among fields whose names do not agree the one that agrees with a segment is found, be it spelled
exactly or not. -/
theorem Distinct.field?_eq (distinct : schema.Distinct) (segment : String) :
    schema.field? segment = schema.fields.find? fun f => Text.agree f.name segment := by
  unfold field? lookupName
  cases hexact : schema.fields.find? fun f => f.name == segment with
  | none => rfl
  | some field =>
    obtain ⟨hname, before, after, hfields, -⟩ := List.find?_eq_some_iff_append.1 hexact
    have hname : field.name = segment := beq_iff_eq.1 hname
    have hbefore : ∀ f ∈ before, Text.agree f.name segment = false := by
      intro f hf
      unfold Distinct at distinct
      rw [hfields] at distinct
      exact hname ▸ (List.pairwise_append.1 distinct).2.2 f hf field List.mem_cons_self
    have hfold : schema.fields.find? (fun f => Text.agree f.name segment) = some field :=
      List.find?_eq_some_iff_append.2
        ⟨hname ▸ Text.agree_self _, before, after, hfields, by simpa using hbefore⟩
    rw [hfold]
    rfl

/-- Segments that agree name the same field. -/
theorem Distinct.names_congr (distinct : schema.Distinct)
    (h : Text.agree segment other = true) :
    schema.Names segment field ↔ schema.Names other field := by
  have hagree : (fun f : Field => Text.agree f.name segment) =
      fun f => Text.agree f.name other := by
    funext f
    rw [Bool.eq_iff_iff]
    exact ⟨fun hf => Text.agree_trans hf h, fun hf => Text.agree_trans hf (Text.agree_symm h)⟩
  rw [← field?_eq_some_iff, ← field?_eq_some_iff, distinct.field?_eq, distinct.field?_eq, hagree]

end Schema

/-! ### Respelled walks -/

/-- What is related to a list that is put together is put together from what is related to its
parts. -/
theorem exists_append_of_forall₂ {α β : Type} {R : α → β → Prop} {front back : List α}
    {others : List β} (h : List.Forall₂ R (front ++ back) others) :
    ∃ before after, others = before ++ after ∧ List.Forall₂ R front before ∧
      List.Forall₂ R back after := by
  have hfront := List.forall₂_take front.length h
  have hback := List.forall₂_drop front.length h
  rw [List.take_left] at hfront
  rw [List.drop_left] at hback
  exact ⟨_, _, (List.take_append_drop front.length others).symm, hfront, hback⟩

namespace Catalog

/-- The schemas that the fields of a schema lead to, and it itself. -/
inductive Reachable (catalog : Catalog) : Schema → Schema → Prop where
  | here (schema : Schema) : Reachable catalog schema schema
  | through {schema last : Schema} {field : Field} {entity : Entity}
      (declared : field ∈ schema.fields) (records : field.kind.HoldsRecordsOf entity)
      (on : Reachable catalog (catalog.schema entity) last) : Reachable catalog schema last

variable {catalog : Catalog} {schema here : Schema} {segments others : List String}
  {through : List Field} {leaf : Field} {n : Nat} {e : QueryError}

/-- The names of the fields that are gone through lead the same way. -/
theorem Leads.canonical (leads : catalog.Leads schema segments through here) :
    catalog.Leads schema (through.map Field.name) through here := by
  induction leads with
  | here schema => exact .here schema
  | through named records _ ih => exact .through named.canonical records ih

/-- The names of the fields along a walk are a walk through the same fields. -/
theorem Walk.canonical (walk : catalog.Walk schema segments through leaf) :
    catalog.Walk schema ((through ++ [leaf]).map Field.name) through leaf := by
  obtain ⟨leads, named⟩ := walk
  rw [List.map_append]
  exact .ends leads.canonical named.canonical

/-- A field that a segment names is one of the schema. -/
theorem mem_fields_of_names {segment : String} {field : Field}
    (named : schema.Names segment field) : field ∈ schema.fields := by
  rcases named with ⟨hfields, -, -⟩ | ⟨hfields, -, -, -⟩ <;>
    exact hfields ▸ List.mem_append_right _ List.mem_cons_self

/-- Segments lead to schemas that can be reached. -/
theorem Leads.reachable (leads : catalog.Leads schema segments through here) :
    catalog.Reachable schema here := by
  induction leads with
  | here schema => exact .here schema
  | through named records _ ih => exact .through (mem_fields_of_names named) records ih

section Distinct

variable (distinct : ∀ other, catalog.Reachable schema other → other.Distinct)

include distinct

/-- Segments that agree lead the same way. -/
theorem Leads.respelled (leads : catalog.Leads schema segments through here)
    (h : List.Forall₂ (fun x y => Text.agree x y = true) segments others) :
    catalog.Leads schema others through here := by
  induction leads generalizing others with
  | here schema =>
    cases h
    exact .here schema
  | through named records _ ih =>
    cases h with
    | cons hfirst hrest =>
      have hnamed := ((distinct _ (.here _)).names_congr hfirst).1 named
      refine .through hnamed records (ih ?_ hrest)
      intro other reachable
      exact distinct other (.through (mem_fields_of_names named) records reachable)

/-- Segments that agree with a walk are one through the same fields. -/
theorem Walk.respelled (walk : catalog.Walk schema segments through leaf)
    (h : List.Forall₂ (fun x y => Text.agree x y = true) segments others) :
    catalog.Walk schema others through leaf := by
  obtain ⟨leads, named⟩ := walk
  obtain ⟨before, last, rfl, hbefore, hlast⟩ := exists_append_of_forall₂ h
  cases hlast with
  | cons hsegment hnil =>
    cases hnil
    exact .ends (leads.respelled distinct hbefore)
      (((distinct _ leads.reachable).names_congr hsegment).1 named)

/-- Segments that agree with others that fail do so at the same place. -/
theorem Fails.respelled (fails : catalog.Fails schema segments n e)
    (h : List.Forall₂ (fun x y => Text.agree x y = true) segments others) :
    ∃ d, catalog.Fails schema others n d := by
  cases fails with
  | unknown leads unnamed =>
    obtain ⟨before, rest, rfl, hbefore, hrest⟩ := exists_append_of_forall₂ h
    rw [hbefore.length_eq]
    cases hrest with
    | cons hsegment =>
      refine ⟨_, .unknown (leads.respelled distinct hbefore) fun field named => ?_⟩
      exact unnamed field (((distinct _ leads.reachable).names_congr hsegment).2 named)
  | closed leads named closed =>
    obtain ⟨before, rest, rfl, hbefore, hrest⟩ := exists_append_of_forall₂ h
    rw [hbefore.length_eq]
    cases hrest with
    | cons hprior hrest =>
      cases hrest with
      | cons hsegment =>
        exact ⟨_, .closed (leads.respelled distinct hbefore)
          (((distinct _ leads.reachable).names_congr hprior).1 named) closed⟩

end Distinct

end Catalog

/-! ### Resolved paths -/

namespace FieldPath

variable {catalog : Catalog} {schema : Schema} {path : String} {p : FieldPath}

/-- The names along a resolved path have no dots, because they agree with segments. -/
theorem dot_notMem_of_resolve (h : resolve catalog schema path = .ok p) :
    ∀ name ∈ p.names, '.' ∉ name.toList := by
  have hsegments : List.Forall₂
      (fun segment name => '.' ∉ segment.toList ∧ Text.agree name segment = true)
      (Text.segments path) p.names :=
    (List.forall₂_and_left _ _).2
      ⟨fun _ => Text.not_mem_of_mem_segments, (agree_names_of_resolve h).flip⟩
  have hnames : List.Forall₂
      (fun name segment => '.' ∉ name.toList ∧ Text.agree name segment = true)
      p.names (Text.segments path) :=
    hsegments.flip.imp fun _ _ ⟨hdot, hagree⟩ => ⟨Text.dot_notMem_of_agree hagree hdot, hagree⟩
  exact ((List.forall₂_and_left _ _).1 hnames).1

/-- The segments of the text of a resolved path are the names along it. -/
theorem segments_text_of_resolve (h : resolve catalog schema path = .ok p) :
    Text.segments p.text = p.names := by
  have hne : p.names ≠ [] := by
    cases p <;> exact List.cons_ne_nil _ _
  exact Text.segments_dotted hne (dot_notMem_of_resolve h)

/-- The text of a resolved path is resolved to the same path, and agrees with what was written up to
ASCII case.  Where no two fields of a schema have names that agree, paths that agree are resolved to
the same path or fail at the same place.  Names with dots are no exception, for they are never
found. -/
theorem resolve_canonical (catalog : Catalog) (schema : Schema) :
    (∀ path p, resolve catalog schema path = .ok p →
        resolve catalog schema p.text = .ok p ∧ Text.agree p.text path = true) ∧
      ((∀ other, catalog.Reachable schema other → other.Distinct) →
        ∀ written respelled, Text.agree written respelled = true →
          (∃ p, resolve catalog schema written = .ok p ∧
              resolve catalog schema respelled = .ok p) ∨
            ∃ n d e, resolve catalog schema written = .error d ∧
              resolve catalog schema respelled = .error e ∧
              catalog.Fails schema (Text.segments written) n d ∧
              catalog.Fails schema (Text.segments respelled) n e) := by
  refine ⟨?_, ?_⟩
  · intro path p h
    have hsegments := segments_text_of_resolve h
    have hagree := Text.agree_dotted (agree_names_of_resolve h)
    rw [Text.dotted_segments] at hagree
    refine ⟨?_, hagree⟩
    obtain ⟨through, leaf, walk, rfl⟩ := resolve_eq_ok_iff.1 h
    refine resolve_eq_ok_iff.2 ⟨through, leaf, ?_, rfl⟩
    rw [hsegments, names_along]
    exact walk.canonical
  · intro distinct written respelled h
    have hsegments := Text.agree_segments h
    cases hwritten : resolve catalog schema written with
    | ok p =>
      obtain ⟨through, leaf, walk, rfl⟩ := resolve_eq_ok_iff.1 hwritten
      exact .inl ⟨_, rfl,
        resolve_eq_ok_iff.2 ⟨through, leaf, walk.respelled distinct hsegments, rfl⟩⟩
    | error d =>
      obtain ⟨n, fails⟩ := resolve_eq_error_iff.1 hwritten
      obtain ⟨e, hrespelled⟩ := fails.respelled distinct hsegments
      exact .inr ⟨n, d, e, rfl, resolve_eq_error_iff.2 ⟨n, hrespelled⟩, fails, hrespelled⟩

/-! ### Folders in any case -/

/-- From a schema with the fields of a folder only such schemas can be reached. -/
theorem fields_of_reachable_folders {root other : Schema}
    (reachable : folders.Reachable root other) (hroot : root.fields = folders.fields folder) :
    other.fields = folders.fields folder := by
  induction reachable with
  | here schema => exact hroot
  | through _ _ _ ih => exact ih rfl

/-- The fields of folders have names that do not agree. -/
theorem distinct_folders (other : Schema)
    (reachable : folders.Reachable (folders.schema folder) other) : other.Distinct := by
  unfold Schema.Distinct
  rw [fields_of_reachable_folders reachable rfl]
  decide

/-- A path through folders is resolved to the same path as its canonical text, in whatever case it
is written, and a path that fails does so at the same place in any case. -/
theorem resolve_canonical_folders :
    (∃ p, resolve folders (folders.schema folder) "Parent.FOLDERS.Name" = .ok p ∧
        p.text = "parent.folders.name" ∧ resolve folders (folders.schema folder) p.text = .ok p) ∧
      ∃ n d e, folders.Fails (folders.schema folder) (Text.segments "parent.name.Size") n d ∧
        folders.Fails (folders.schema folder) (Text.segments "PARENT.Name.size") n e := by
  have hok : resolve folders (folders.schema folder) "Parent.FOLDERS.Name" =
      .ok (.nested ⟨"parent", .record folder, true⟩
        (.each ⟨"folders", .list (.record folder), false⟩ folder
          (.leaf ⟨"name", .string, false⟩))) := rfl
  have herror : resolve folders (folders.schema folder) "parent.name.Size" =
      .error (.fieldNotFound "Size" "string") := rfl
  obtain ⟨hcanonical, hrespelled⟩ := resolve_canonical folders (folders.schema folder)
  refine ⟨⟨_, hok, rfl, (hcanonical _ _ hok).1⟩, ?_⟩
  rcases hrespelled distinct_folders "parent.name.Size" "PARENT.Name.size" (by decide) with
    ⟨p, hp, -⟩ | ⟨n, d, e, -, -, hwritten, hother⟩
  · rw [herror] at hp
    cases hp
  · exact ⟨n, d, e, hwritten, hother⟩

end FieldPath

end RecordQuery
