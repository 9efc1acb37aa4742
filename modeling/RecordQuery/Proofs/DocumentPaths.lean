import RecordQuery.JsonPath
import RecordQuery.Proofs.CanonicalPaths

/-!
# Paths into documents

A path into a document is written as the name of the document and the keys below it, with dots in
between (`JsonPath.Written`).  Splitting accepts exactly the paths that are written this way and
finds their parts again.  Resolving gives the document its canonical name and leaves the keys alone,
so that the text of the result is resolved to the same path (`JsonPath.roundTrips`).

Inside a document keys lead from object to object (`Json.Leads`), so that a list of keys may be
followed in parts.  A list of keys that leads nowhere has a first key that the node reached before
it does not hold.
-/

namespace RecordQuery

/-! ### Nodes of a document -/

namespace Json

/-- An object holds a value under a key: that of its first member with this key. -/
inductive Holds : Json → String → Json → Prop where
  | member (before after : List (String × Json)) {key : String} {value : Json}
      (first : ∀ m ∈ before, m.1 ≠ key) :
      Holds (.object (before ++ (key, value) :: after)) key value

/-- Keys lead from a node to another one, through objects that hold them. -/
inductive Leads : Json → List String → Json → Prop where
  | here (node : Json) : Leads node [] node
  | through {node value last : Json} {key : String} {keys : List String}
      (holds : node.Holds key value) (on : Leads value keys last) : Leads node (key :: keys) last

variable {doc node value : Json} {key : String} {keys : List String}

theorem member?_eq_some_iff : doc.member? key = some value ↔ doc.Holds key value := by
  constructor
  · intro h
    unfold member? at h
    split at h
    · obtain ⟨⟨found, _⟩, hfind, rfl⟩ := Option.map_eq_some_iff.1 h
      obtain ⟨hkey, before, after, rfl, hbefore⟩ := List.find?_eq_some_iff_append.1 hfind
      obtain rfl : found = key := by simpa using hkey
      exact .member before after (by simpa using hbefore)
    · cases h
  · rintro ⟨before, after, first⟩
    refine Option.map_eq_some_iff.2 ⟨(key, value), List.find?_eq_some_iff_append.2 ?_, rfl⟩
    exact ⟨beq_self_eq_true key, before, after, rfl, by simpa using first⟩

theorem member?_eq_none_iff : doc.member? key = none ↔ ∀ value, ¬ doc.Holds key value := by
  simp only [← member?_eq_some_iff, Option.eq_none_iff_forall_ne_some]

/-- Navigation follows the keys that lead to a node. -/
theorem navigate_eq_some_iff : doc.navigate keys = some node ↔ doc.Leads keys node := by
  induction keys generalizing doc with
  | nil =>
    rw [navigate_nil, Option.some_inj]
    constructor
    · rintro rfl
      exact .here doc
    · rintro ⟨⟩
      rfl
  | cons key keys ih =>
    rw [navigate_cons, Option.bind_eq_some_iff]
    constructor
    · rintro ⟨value, hvalue, hnode⟩
      exact .through (member?_eq_some_iff.1 hvalue) (ih.1 hnode)
    · rintro (_ | ⟨holds, on⟩)
      exact ⟨_, member?_eq_some_iff.2 holds, ih.2 on⟩

/-- Keys that are put together are followed one list after the other. -/
theorem navigate_append (doc : Json) (front back : List String) :
    doc.navigate (front ++ back) = (doc.navigate front).bind fun node => node.navigate back :=
  List.foldlM_append

/-- Navigation fails exactly where a node is reached that does not hold the next key. -/
theorem navigate_eq_none_iff : doc.navigate keys = none ↔
    ∃ front key back node, keys = front ++ key :: back ∧ doc.Leads front node ∧
      ∀ value, ¬ node.Holds key value := by
  constructor
  · intro h
    induction keys generalizing doc with
    | nil => cases h
    | cons key keys ih =>
      rw [navigate_cons] at h
      cases hvalue : doc.member? key with
      | none => exact ⟨[], key, keys, doc, rfl, .here doc, member?_eq_none_iff.1 hvalue⟩
      | some value =>
        rw [hvalue, Option.bind_some] at h
        obtain ⟨front, next, back, node, rfl, leads, lacks⟩ := ih h
        exact ⟨key :: front, next, back, node, rfl,
          .through (member?_eq_some_iff.1 hvalue) leads, lacks⟩
  · rintro ⟨front, key, back, node, rfl, leads, lacks⟩
    rw [navigate_append, navigate_eq_some_iff.2 leads, Option.bind_some, navigate_cons,
      member?_eq_none_iff.2 lacks, Option.bind_none]

/-- A document follows keys: they lead from node to node, in one list or in two, up to the first
node that does not hold the next one. -/
structure FollowsKeys (doc : Json) : Prop where
  /-- Navigation finds the node that the keys lead to. -/
  leads : ∀ keys node, doc.navigate keys = some node ↔ doc.Leads keys node
  /-- Keys that are put together are followed one list after the other. -/
  append : ∀ front back,
    doc.navigate (front ++ back) = (doc.navigate front).bind fun node => node.navigate back
  /-- Navigation fails where a node is reached that is no object with the next key. -/
  stops : ∀ keys, doc.navigate keys = none ↔
    ∃ front key back node, keys = front ++ key :: back ∧ doc.navigate front = some node ∧
      ∀ value, ¬ node.Holds key value

theorem followsKeys (doc : Json) : doc.FollowsKeys where
  leads _ _ := navigate_eq_some_iff
  append := navigate_append doc
  stops _ := by simp only [navigate_eq_none_iff, navigate_eq_some_iff]

end Json

namespace JsonPath

open Text

variable {schema : Schema} {path member : String} {keys : List String} {target : JsonPath}

/-! ### Written paths -/

/-- A path is written with the name of a document and the keys below it. -/
structure Written (path member : String) (keys : List String) : Prop where
  text : dotted (member :: keys) = path
  keyed : keys ≠ []
  filled : ∀ segment ∈ member :: keys, segment ≠ ""
  plain : ∀ segment ∈ member :: keys, '.' ∉ segment.toList

/-- A path is written with its segments, when there are two of them and none is empty. -/
theorem written_iff : Written path member keys ↔
    segments path = member :: keys ∧ keys ≠ [] ∧ ∀ segment ∈ member :: keys, segment ≠ "" := by
  rw [segments_eq_iff]
  constructor
  · rintro ⟨text, keyed, filled, plain⟩
    exact ⟨⟨List.cons_ne_nil _ _, plain, text⟩, keyed, filled⟩
  · rintro ⟨⟨-, plain, text⟩, keyed, filled⟩
    exact ⟨text, keyed, filled, plain⟩

/-- Splitting finds the parts that a path is written with. -/
theorem split?_eq_some_iff : split? path = some (member, keys) ↔ Written path member keys := by
  rw [written_iff]
  unfold split?
  split
  · next first key rest hsegments =>
    have hfilled : (first :: key :: rest).any String.isEmpty = false ↔
        ∀ segment ∈ first :: key :: rest, segment ≠ "" := by simp
    rw [hsegments]
    constructor
    · intro h
      split at h
      · cases h
      · next hnone =>
        cases h
        exact ⟨rfl, List.cons_ne_nil _ _, hfilled.1 (Bool.eq_false_iff.2 hnone)⟩
    · rintro ⟨hparts, -, hall⟩
      cases hparts
      rw [hfilled.2 hall, if_neg Bool.false_ne_true]
  · next hsegments =>
    refine iff_of_false (by simp) ?_
    rintro ⟨hpath, hkeys, -⟩
    obtain ⟨key, rest, rfl⟩ := List.exists_cons_of_ne_nil hkeys
    exact hsegments member key rest hpath

theorem split_eq_ok_iff : split path = .ok (member, keys) ↔ Written path member keys := by
  rw [← split?_eq_some_iff]
  unfold split
  cases split? path <;> simp

/-- Splitting accepts a path of at least two segments, none of which is empty. -/
theorem exists_written_iff : (∃ member keys, Written path member keys) ↔
    2 ≤ (segments path).length ∧ ∀ segment ∈ segments path, segment ≠ "" := by
  simp only [written_iff]
  constructor
  · rintro ⟨member, keys, hsegments, hkeys, hfilled⟩
    rw [hsegments]
    exact ⟨Nat.succ_le_succ (List.length_pos_iff.2 hkeys), hfilled⟩
  · rintro ⟨hlength, hfilled⟩
    obtain ⟨member, keys, hsegments⟩ := List.exists_cons_of_ne_nil (segments_ne_nil path)
    rw [hsegments] at hlength hfilled
    exact ⟨member, keys, hsegments, List.length_pos_iff.1 (Nat.le_of_succ_le_succ hlength), hfilled⟩

/-- A path that is not written with a name and keys is reported as malformed. -/
theorem split_eq_error_iff {e : QueryError} : split path = .error e ↔
    (∀ member keys, ¬ Written path member keys) ∧ e = .invalidJsonPath path := by
  simp only [← split?_eq_some_iff]
  unfold split
  cases split? path with
  | none => simp [eq_comm]
  | some parts =>
    refine iff_of_false (by simp) ?_
    rintro ⟨hnone, -⟩
    exact hnone parts.1 parts.2 rfl

/-! ### Resolved paths -/

/-- The text of a path is that of the access and the keys, with dots in between. -/
theorem text_eq_dotted {access : Access} (h : access ≠ []) (keys : List String) :
    text ⟨access, keys⟩ = dotted (access ++ keys) := by
  unfold text Access.text
  dsimp only
  induction keys generalizing access with
  | nil => rw [List.append_nil, List.foldl_nil]
  | cons key keys ih =>
    have hkey : dotted access ++ "." ++ key = dotted (access ++ [key]) := by
      rw [dotted_append h (List.cons_ne_nil key []), dotted_singleton]
    rw [List.foldl_cons, hkey, ih (List.append_ne_nil_of_left_ne_nil h _), List.append_assoc,
      List.singleton_append]

/-- A path is resolved when it is written with the name of a document of the schema and keys. -/
theorem resolve_eq_ok_iff : resolve schema path = .ok target ↔
    ∃ member field, Written path member target.keys ∧ schema.Names member field ∧
      field.kind = .json ∧ target.member = [field.name] := by
  constructor
  · intro h
    obtain ⟨field, member, hfield, hkind, hmember, -, hsegments⟩ := resolve_eq_ok h
    obtain ⟨⟨first, keys⟩, hsplit, -⟩ := Outcome.bind_eq_ok.1 h
    have written : Written path first keys := split_eq_ok_iff.1 hsplit
    obtain ⟨rfl, rfl⟩ := List.cons.inj ((written_iff.1 written).1.symm.trans hsegments)
    exact ⟨first, field, written, Schema.field?_eq_some_iff.1 hfield, hkind, hmember⟩
  · obtain ⟨access, keys⟩ := target
    rintro ⟨member, field, written, named, hkind, rfl⟩
    have hsplit : split path = .ok (member, keys) := split_eq_ok_iff.2 written
    have hfield : schema.field? member = some field := Schema.field?_eq_some_iff.2 named
    simp [resolve, hsplit, hfield, hkind, bind, Except.bind, pure, Except.pure]

/-- The text of a resolved path is written with the canonical name of the document and the keys as
they were. -/
theorem Written.canonical {field : Field} (written : Written path member keys)
    (named : schema.Names member field) :
    Written (JsonPath.text ⟨[field.name], keys⟩) field.name keys := by
  obtain ⟨-, keyed, filled, plain⟩ := written
  obtain ⟨hfilled, hkeysFilled⟩ := List.forall_mem_cons.1 filled
  obtain ⟨hplain, hkeysPlain⟩ := List.forall_mem_cons.1 plain
  have hagree : agree field.name member = true :=
    Schema.agree_of_field? (Schema.field?_eq_some_iff.2 named)
  refine ⟨?_, keyed, ?_, ?_⟩
  · exact (text_eq_dotted (List.cons_ne_nil field.name []) keys).symm
  · exact List.forall_mem_cons.2 ⟨ne_empty_of_agree hagree hfilled, hkeysFilled⟩
  · exact List.forall_mem_cons.2 ⟨dot_notMem_of_agree hagree hplain, hkeysPlain⟩

/-- The text of a resolved path is resolved to the same path. -/
theorem resolve_text (h : resolve schema path = .ok target) :
    resolve schema target.text = .ok target := by
  obtain ⟨access, keys⟩ := target
  obtain ⟨member, field, written, named, hkind, rfl⟩ := resolve_eq_ok_iff.1 h
  exact resolve_eq_ok_iff.2
    ⟨field.name, field, written.canonical named, named.canonical, hkind, rfl⟩

/-! ### Round trips -/

/-- A path is read back as it is written: split into what it is written with, and resolved to a path
whose text says the same. -/
structure RoundTrips (schema : Schema) (path : String) : Prop where
  /-- A path is split when it has at least two segments and none of them is empty. -/
  accepts : (∃ parts, split path = .ok parts) ↔
    2 ≤ (segments path).length ∧ ∀ segment ∈ segments path, segment ≠ ""
  /-- The parts are those that the path is written with. -/
  parts : ∀ member keys, split path = .ok (member, keys) ↔ Written path member keys
  /-- Any other path is reported as malformed. -/
  refuses : ∀ e, split path = .error e ↔
    (∀ member keys, ¬ Written path member keys) ∧ e = .invalidJsonPath path
  /-- A resolved path has the keys that were written, behind the canonical name of a document. -/
  resolves : ∀ target, resolve schema path = .ok target ↔
    ∃ member field, Written path member target.keys ∧ schema.Names member field ∧
      field.kind = .json ∧ target.member = [field.name]
  /-- The text of a resolved path is resolved to the same path. -/
  canonical : ∀ target, resolve schema path = .ok target →
    resolve schema target.text = .ok target

/-- Paths into documents are read back as they are written, and documents follow their keys.  This
holds of any schema: names with dots are no exception, for no path is resolved to them. -/
theorem roundTrips (schema : Schema) (path : String) (doc : Json) :
    RoundTrips schema path ∧ doc.FollowsKeys := by
  refine ⟨?_, doc.followsKeys⟩
  constructor
  case accepts =>
    rw [← exists_written_iff, Prod.exists]
    simp only [split_eq_ok_iff]
  case parts => exact fun _ _ => split_eq_ok_iff
  case refuses => exact fun _ => split_eq_error_iff
  case resolves => exact fun _ => resolve_eq_ok_iff
  case canonical => exact fun _ => resolve_text

/-- The fields of a book. -/
def book : Schema := ⟨⟨0, "Book"⟩, [⟨"title", .string, false⟩, ⟨"notes", .json, false⟩]⟩

/-- The notes of a book. -/
def bookNotes : Json := .object [("Author", .object [("born", .string "Aachen")])]

/-- The place of birth of an author is found under the canonical name of the notes, and nothing is
found below it. -/
theorem roundTrips_book :
    resolve book "NOTES.Author.born" = .ok ⟨["notes"], ["Author", "born"]⟩ ∧
      resolve book "notes.Author.born" = .ok ⟨["notes"], ["Author", "born"]⟩ ∧
      Written "NOTES.Author.born" "NOTES" ["Author", "born"] ∧
      split "notes..born" = .error (.invalidJsonPath "notes..born") ∧
      bookNotes.Leads ["Author", "born"] (.string "Aachen") ∧
      bookNotes.navigate (["Author", "born"] ++ ["town"]) = none := by
  obtain ⟨hpath, hnotes⟩ := roundTrips book "NOTES.Author.born" bookNotes
  have hresolved : resolve book "NOTES.Author.born" = .ok ⟨["notes"], ["Author", "born"]⟩ := rfl
  refine ⟨hresolved, hpath.canonical _ hresolved, (hpath.parts _ _).1 rfl, rfl,
    (hnotes.leads _ _).1 rfl, ?_⟩
  rw [hnotes.append]
  rfl

end JsonPath

end RecordQuery
