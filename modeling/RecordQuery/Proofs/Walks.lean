import RecordQuery.Explanation
import RecordQuery.Proofs.Resolution

/-!
# Walks

The segments of a path are a walk through schemas: each one names a field of the schema that those
before it lead to, and all but the last go on in the records that their field holds
(`Catalog.Walk`).  A path is resolved exactly when its segments are a walk, and where they are none
the error names the first segment that cannot be looked up (`FieldPath.resolve_walks`).

What a path resolves to is read off the walk alone (`FieldPath.along`).  Its steps are shown level
by level: members up to the end, or up to a collection of records and a quantifier over its elements
with the rest of the path inside (`FieldPath.Levels`).
-/

namespace RecordQuery

/-! ### Looking up a segment -/

/-- A segment names a field of a schema: the first one of exactly this name or, where the schema has
none, the first one that agrees with it up to ASCII case. -/
inductive Schema.Names (schema : Schema) (segment : String) (field : Field) : Prop where
  | exact {before after : List Field} (fields : schema.fields = before ++ field :: after)
      (name : field.name = segment) (first : ∀ other ∈ before, other.name ≠ segment)
  | folded {before after : List Field} (fields : schema.fields = before ++ field :: after)
      (inexact : ∀ other ∈ schema.fields, other.name ≠ segment)
      (agrees : Text.agree field.name segment = true)
      (first : ∀ other ∈ before, Text.agree other.name segment = false)

namespace Schema

variable {schema : Schema} {segment : String} {field : Field}

/-- A look-up finds the field that a segment names. -/
theorem field?_eq_some_iff : schema.field? segment = some field ↔ schema.Names segment field := by
  unfold field? lookupName
  rw [Option.or_eq_some_iff]
  constructor
  · rintro (hexact | ⟨hnone, hfold⟩)
    · obtain ⟨hname, before, after, hfields, hbefore⟩ := List.find?_eq_some_iff_append.1 hexact
      exact .exact hfields (beq_iff_eq.1 hname) (by simpa using hbefore)
    · obtain ⟨hagree, before, after, hfields, hbefore⟩ := List.find?_eq_some_iff_append.1 hfold
      exact .folded hfields (by simpa using hnone) hagree (by simpa using hbefore)
  · rintro (⟨hfields, hname, hbefore⟩ | ⟨hfields, hnone, hagree, hbefore⟩)
    · exact .inl (List.find?_eq_some_iff_append.2
        ⟨beq_iff_eq.2 hname, _, _, hfields, by simpa using hbefore⟩)
    · exact .inr ⟨by simpa using hnone, List.find?_eq_some_iff_append.2
        ⟨hagree, _, _, hfields, by simpa using hbefore⟩⟩

/-- A look-up fails when a segment names no field. -/
theorem field?_eq_none_iff :
    schema.field? segment = none ↔ ∀ field, ¬ schema.Names segment field := by
  simp only [← field?_eq_some_iff, Option.eq_none_iff_forall_ne_some]

end Schema

namespace Kind

/-- Fields of the kind hold records of the entity, one or a collection of them. -/
inductive HoldsRecordsOf : Kind → Entity → Prop where
  | single (entity : Entity) : HoldsRecordsOf (.record entity) entity
  | collection (entity : Entity) : HoldsRecordsOf (.list (.record entity)) entity

/-- The entity of a collection of records. -/
def listed? : Kind → Option Entity
  | .list (.record entity) => some entity
  | _ => none

/-- The kind of what a field holds: for a collection that of its elements. -/
def content (kind : Kind) : Kind := kind.element?.getD kind

end Kind

/-! ### Walks and failures -/

namespace Catalog

/-- Segments lead from a schema to another one, through fields that hold records.  Each of them
names a field of the schema that those before it lead to. -/
inductive Leads (catalog : Catalog) : Schema → List String → List Field → Schema → Prop where
  | here (schema : Schema) : Leads catalog schema [] [] schema
  | through {schema last : Schema} {segment : String} {field : Field} {entity : Entity}
      {segments : List String} {fields : List Field} (named : schema.Names segment field)
      (records : field.kind.HoldsRecordsOf entity)
      (on : Leads catalog (catalog.schema entity) segments fields last) :
      Leads catalog schema (segment :: segments) (field :: fields) last

/-- Segments are a walk: the last one names a field of the schema that the others lead to. -/
inductive Walk (catalog : Catalog) (schema : Schema) : List String → List Field → Field → Prop where
  | ends {here : Schema} {before : List String} {segment : String} {through : List Field}
      {leaf : Field} (leads : catalog.Leads schema before through here)
      (named : here.Names segment leaf) : Walk catalog schema (before ++ [segment]) through leaf

/-- Segments are no walk: the one at a place cannot be looked up on the schema that those before it
lead to, or in the field that the one before it names, which holds no records.  The error names
the segment, and the schema or the kind of what the field holds. -/
inductive Fails (catalog : Catalog) (schema : Schema) : List String → Nat → QueryError → Prop where
  | unknown {here : Schema} {before after : List String} {segment : String} {through : List Field}
      (leads : catalog.Leads schema before through here)
      (unnamed : ∀ field, ¬ here.Names segment field) :
      Fails catalog schema (before ++ segment :: after) before.length
        (.fieldNotFound segment here.entity.name)
  | closed {here : Schema} {before after : List String} {prior segment : String}
      {through : List Field} {field : Field} (leads : catalog.Leads schema before through here)
      (named : here.Names prior field) (closed : ∀ entity, ¬ field.kind.HoldsRecordsOf entity) :
      Fails catalog schema (before ++ prior :: segment :: after) (before.length + 1)
        (.fieldNotFound segment field.kind.content.text)

section Walks

variable {catalog : Catalog} {schema here : Schema} {segment : String} {segments : List String}
  {through : List Field} {field leaf : Field} {entity : Entity} {n : Nat} {e : QueryError}

/-- A walk goes on in the records of a field. -/
theorem Walk.cons (named : schema.Names segment field)
    (records : field.kind.HoldsRecordsOf entity)
    (walk : catalog.Walk (catalog.schema entity) segments through leaf) :
    catalog.Walk schema (segment :: segments) (field :: through) leaf := by
  obtain ⟨leads, hlast⟩ := walk
  exact .ends (.through named records leads) hlast

/-- A failure in the records of a field is one of the longer path, one place further. -/
theorem Fails.cons (named : schema.Names segment field)
    (records : field.kind.HoldsRecordsOf entity)
    (fails : catalog.Fails (catalog.schema entity) segments n e) :
    catalog.Fails schema (segment :: segments) (n + 1) e := by
  cases fails with
  | unknown leads unnamed => exact .unknown (.through named records leads) unnamed
  | closed leads hprior closed => exact .closed (.through named records leads) hprior closed

/-- All fields that segments lead through hold records. -/
theorem Leads.holdsRecords (leads : catalog.Leads schema segments through here) :
    ∀ field ∈ through, ∃ entity, field.kind.HoldsRecordsOf entity := by
  induction leads with
  | here => exact List.forall_mem_nil _
  | through _ records _ ih => exact List.forall_mem_cons.2 ⟨⟨_, records⟩, ih⟩

theorem Walk.holdsRecords (walk : catalog.Walk schema segments through leaf) :
    ∀ field ∈ through, ∃ entity, field.kind.HoldsRecordsOf entity := by
  obtain ⟨leads, -⟩ := walk
  exact leads.holdsRecords

/-- The first segments of those that lead to a schema are walks. -/
theorem Leads.walk_take (leads : catalog.Leads schema segments through here)
    (h : n < segments.length) :
    ∃ fields leaf, catalog.Walk schema (segments.take (n + 1)) fields leaf := by
  induction leads generalizing n with
  | here => cases h
  | @through schema _ segment field _ segments _ named records _ ih =>
    cases n with
    | zero => exact ⟨[], field, .ends (.here schema) named⟩
    | succ n =>
      obtain ⟨fields, leaf, walk⟩ := ih (Nat.lt_of_succ_lt_succ h)
      exact ⟨field :: fields, leaf, walk.cons named records⟩

/-- Up to the place of a failure the segments are walks. -/
theorem Fails.walk_take (fails : catalog.Fails schema segments n e) {m : Nat} (h : m < n) :
    ∃ fields leaf, catalog.Walk schema (segments.take (m + 1)) fields leaf := by
  cases fails with
  | @unknown here before after segment through leads unnamed =>
    rw [List.take_append_of_le_length h]
    exact leads.walk_take h
  | @closed here before after prior segment through field leads named closed =>
    rcases Nat.lt_succ_iff_lt_or_eq.1 h with hbefore | rfl
    · rw [List.take_append_of_le_length hbefore]
      exact leads.walk_take hbefore
    · rw [List.take_append, List.take_of_length_le (Nat.le_succ _), Nat.add_sub_cancel_left]
      exact ⟨through, field, .ends leads named⟩

/-- What stands behind the place of a failure does not matter. -/
theorem Fails.take (fails : catalog.Fails schema segments n e) :
    catalog.Fails schema (segments.take (n + 1)) n e := by
  cases fails with
  | @unknown here before after segment through leads unnamed =>
    rw [List.take_append, List.take_of_length_le (Nat.le_succ _), Nat.add_sub_cancel_left]
    exact .unknown leads unnamed
  | @closed here before after prior segment through field leads named closed =>
    rw [List.take_append, List.take_of_length_le (by omega), Nat.add_assoc,
      Nat.add_sub_cancel_left]
    exact .closed leads named closed

end Walks

end Catalog

/-! ### Steps -/

/-- A step of a path: a field is read, or an element of the collection that was read is chosen, in
which the rest of the path goes on. -/
inductive Step where
  | member (field : Field)
  | any (element : Entity) (path : FieldPath)

/-- A step as it is shown. -/
def Step.explain : Step → Json
  | .member field => field.explain
  | .any element path =>
    .ofMembers [("any", .string element.name), ("path", .array path.explain)]

namespace FieldPath

/-- The steps of a path. -/
def steps : FieldPath → List Step
  | .leaf field => [.member field]
  | .nested field rest => .member field :: rest.steps
  | .each field element rest => [.member field, .any element rest]

/-- A path is shown step by step. -/
theorem explain_eq (path : FieldPath) : path.explain = path.steps.map Step.explain := by
  induction path with
  | leaf field => rfl
  | nested field rest ih => rw [explain, steps, List.map_cons, ih]; rfl
  | each field element rest ih => rfl

/-- The fields that the steps of a path read on all levels, and the entities that its quantifiers
range over.  On one level all fields before the last hold a nested record.  The last field ends the
path, or is a collection of records: then a quantifier over its elements follows, ends the level and
has the next one inside. -/
inductive Levels : FieldPath → List Field → List Entity → Prop where
  | direct {path : FieldPath} (records : List Field) {leaf : Field}
      (steps : path.steps = records.map .member ++ [.member leaf])
      (nested : ∀ field ∈ records, ∃ entity, field.kind = .record entity) :
      Levels path (records ++ [leaf]) []
  | quantified {path inner : FieldPath} (records : List Field) {fields : List Field}
      {collection : Field} {element : Entity} {elements : List Entity}
      (steps : path.steps = records.map .member ++ [.member collection, .any element inner])
      (nested : ∀ field ∈ records, ∃ entity, field.kind = .record entity)
      (listed : collection.kind = .list (.record element)) (next : Levels inner fields elements) :
      Levels path (records ++ collection :: fields) (element :: elements)

/-- A nested record is put in front of the first level. -/
theorem Levels.cons {rest : FieldPath} {fields : List Field} {elements : List Entity}
    {field : Field} {entity : Entity} (kind : field.kind = .record entity)
    (levels : rest.Levels fields elements) :
    (FieldPath.nested field rest).Levels (field :: fields) elements := by
  cases levels with
  | direct records hsteps nested =>
    refine .direct (field :: records) ?_ (List.forall_mem_cons.2 ⟨⟨entity, kind⟩, nested⟩)
    rw [steps, hsteps]
    rfl
  | quantified records hsteps nested listed next =>
    refine .quantified (field :: records) ?_
      (List.forall_mem_cons.2 ⟨⟨entity, kind⟩, nested⟩) listed next
    rw [steps, hsteps]
    rfl

/-- Each level has a step. -/
theorem Levels.steps_ne_nil {path : FieldPath} {fields : List Field} {elements : List Entity}
    (levels : path.Levels fields elements) : path.steps ≠ [] := by
  cases levels with
  | direct _ hsteps => rw [hsteps]; simp
  | quantified _ hsteps => rw [hsteps]; simp

/-! ### Resolution -/

/-- A path that goes on behind a field: in the elements of a collection of records, or in a nested
record. -/
def behind (field : Field) (rest : FieldPath) : FieldPath :=
  match field.kind with
  | .list (.record element) => .each field element rest
  | _ => .nested field rest

/-- Behind a nested record the path goes on in it. -/
theorem behind_single {field : Field} {entity : Entity} (kind : field.kind = .record entity) :
    behind field = .nested field := by
  funext rest
  rw [behind, kind]

/-- Behind a collection of records the path goes on in its elements. -/
theorem behind_collection {field : Field} {element : Entity}
    (kind : field.kind = .list (.record element)) : behind field = .each field element := by
  funext rest
  rw [behind, kind]

/-- The path through fields that hold records to a last field. -/
def along (through : List Field) (leaf : Field) : FieldPath := through.foldr behind (.leaf leaf)

theorem last_along (through : List Field) (leaf : Field) : (along through leaf).last = leaf := by
  induction through with
  | nil => rfl
  | cons field through ih =>
    change (behind field (along through leaf)).last = leaf
    unfold behind
    split <;> exact ih

theorem names_along (through : List Field) (leaf : Field) :
    (along through leaf).names = (through ++ [leaf]).map Field.name := by
  induction through with
  | nil => rfl
  | cons field through ih =>
    change (behind field (along through leaf)).names = _
    unfold behind
    split <;> rw [names, ih] <;> rfl

/-- The levels of a path through fields that hold records: each collection among them begins a new
one. -/
theorem levels_along {through : List Field}
    (h : ∀ field ∈ through, ∃ entity, field.kind.HoldsRecordsOf entity) (leaf : Field) :
    (along through leaf).Levels (through ++ [leaf])
      (through.filterMap fun field => field.kind.listed?) := by
  induction through with
  | nil => exact .direct [] rfl (List.forall_mem_nil _)
  | cons field through ih =>
    obtain ⟨⟨entity, hrecords⟩, hthrough⟩ := List.forall_mem_cons.1 h
    have levels := ih hthrough
    change (behind field (along through leaf)).Levels (field :: (through ++ [leaf])) _
    rw [List.filterMap_cons]
    generalize hkind : field.kind = kind at hrecords
    cases hrecords with
    | single =>
      rw [behind_single hkind]
      exact levels.cons hkind
    | collection =>
      rw [behind_collection hkind]
      exact .quantified [] rfl (List.forall_mem_nil _) hkind levels

/-- A path follows a walk: it has the fields of the walk as its members, ends on the last of them,
and has one quantifier for each collection of records that the walk goes on in. -/
structure Follows (path : FieldPath) (through : List Field) (leaf : Field) : Prop where
  nonempty : path.steps ≠ []
  levels : path.Levels (through ++ [leaf]) (through.filterMap fun field => field.kind.listed?)
  last : path.last = leaf

variable {catalog : Catalog} {schema here : Schema} {segment : String} {field : Field}

/-- Where a segment cannot be looked up resolution fails. -/
theorem resolveSegments_of_unnamed (h : schema.field? segment = none) (rest : List String) :
    resolveSegments catalog schema segment rest =
      .error (.fieldNotFound segment schema.entity.name) := by
  cases rest <;> simp only [resolveSegments, h]

/-- The last segment is resolved to the field that it names. -/
theorem resolveSegments_nil (h : schema.field? segment = some field) :
    resolveSegments catalog schema segment [] = .ok (.leaf field) := by
  rw [resolveSegments, h]

/-- Behind a field that holds records the next segment is resolved on their schema. -/
theorem resolveSegments_through (h : schema.field? segment = some field) {entity : Entity}
    (records : field.kind.HoldsRecordsOf entity) (next : String) (rest : List String) :
    resolveSegments catalog schema segment (next :: rest) =
      (resolveSegments catalog (catalog.schema entity) next rest).map (behind field) := by
  rw [resolveSegments, h]
  dsimp only
  generalize hkind : field.kind = kind at records
  cases records with
  | single => rw [behind_single hkind]
  | collection => rw [behind_collection hkind]

/-- No segment is resolved behind a field that holds no records. -/
theorem resolveSegments_closed (h : schema.field? segment = some field)
    (closed : ∀ entity, ¬ field.kind.HoldsRecordsOf entity) (next : String) (rest : List String) :
    resolveSegments catalog schema segment (next :: rest) =
      .error (.fieldNotFound next field.kind.content.text) := by
  rw [resolveSegments, h]
  dsimp only
  split
  · next entity hkind => exact absurd (hkind ▸ .single entity) (closed entity)
  · next entity hkind => exact absurd (hkind ▸ .collection entity) (closed entity)
  · next element _ hkind => rw [hkind]; rfl
  · next hrecord hlist =>
    have hcontent : field.kind.content = field.kind := by
      unfold Kind.content Kind.element?
      split
      · next element hkind => exact absurd hkind (hlist element)
      · rfl
    rw [hcontent]

/-- What segments lead through stands in front of what the rest is resolved to. -/
theorem resolveSegments_of_leads {before : List String} {through : List Field}
    (leads : catalog.Leads schema before through here) {head : String} {rest after : List String}
    (h : before ++ segment :: after = head :: rest) :
    resolveSegments catalog schema head rest =
      (resolveSegments catalog here segment after).map fun p => through.foldr behind p := by
  induction leads generalizing head rest with
  | here schema =>
    cases h
    cases resolveSegments catalog schema segment after <;> rfl
  | @through schema last first field entity before through named records _ ih =>
    rw [List.cons_append] at h
    obtain ⟨rfl, rfl⟩ := List.cons.inj h
    obtain ⟨next, others, hrest⟩ :=
      List.exists_cons_of_ne_nil (List.append_ne_nil_of_right_ne_nil before
        (List.cons_ne_nil segment after))
    rw [hrest, resolveSegments_through (Schema.field?_eq_some_iff.2 named) records, ih hrest]
    cases resolveSegments catalog last segment after <;> rfl

/-- Segments are a walk, and are resolved to the path along it, or they are none, and the error says
so. -/
theorem resolveSegments_walk_or_fails (catalog : Catalog) (schema : Schema) (segment : String)
    (rest : List String) :
    (∃ through leaf, catalog.Walk schema (segment :: rest) through leaf ∧
        resolveSegments catalog schema segment rest = .ok (along through leaf)) ∨
      ∃ n e, catalog.Fails schema (segment :: rest) n e ∧
        resolveSegments catalog schema segment rest = .error e := by
  induction rest generalizing schema segment with
  | nil =>
    cases hfield : schema.field? segment with
    | none =>
      exact .inr ⟨0, _, .unknown (.here schema) (Schema.field?_eq_none_iff.1 hfield),
        resolveSegments_of_unnamed hfield []⟩
    | some field =>
      exact .inl ⟨[], field, .ends (.here schema) (Schema.field?_eq_some_iff.1 hfield),
        resolveSegments_nil hfield⟩
  | cons next others ih =>
    cases hfield : schema.field? segment with
    | none =>
      exact .inr ⟨0, _, .unknown (.here schema) (Schema.field?_eq_none_iff.1 hfield),
        resolveSegments_of_unnamed hfield _⟩
    | some field =>
      have named := Schema.field?_eq_some_iff.1 hfield
      by_cases hrecords : ∃ entity, field.kind.HoldsRecordsOf entity
      · obtain ⟨entity, records⟩ := hrecords
        rw [resolveSegments_through hfield records]
        rcases ih (catalog.schema entity) next with
          ⟨through, leaf, walk, hok⟩ | ⟨n, e, fails, herror⟩
        · exact .inl ⟨field :: through, leaf, walk.cons named records, by rw [hok]; rfl⟩
        · exact .inr ⟨n + 1, e, fails.cons named records, by rw [herror]; rfl⟩
      · have closed := not_exists.1 hrecords
        -- The error is about the next segment: this one was found, but nothing is behind it.
        exact .inr ⟨1, _, .closed (.here schema) named closed,
          resolveSegments_closed hfield closed next others⟩

/-- A walk is resolved to the path along it. -/
theorem resolveSegments_of_walk {rest : List String} {through : List Field} {leaf : Field}
    (walk : catalog.Walk schema (segment :: rest) through leaf) :
    resolveSegments catalog schema segment rest = .ok (along through leaf) := by
  generalize hwritten : segment :: rest = written at walk
  obtain ⟨leads, named⟩ := walk
  rw [resolveSegments_of_leads leads hwritten.symm,
    resolveSegments_nil (Schema.field?_eq_some_iff.2 named)]
  rfl

/-- Where segments are no walk, resolution fails with the error that says so. -/
theorem resolveSegments_of_fails {rest : List String} {n : Nat} {e : QueryError}
    (fails : catalog.Fails schema (segment :: rest) n e) :
    resolveSegments catalog schema segment rest = .error e := by
  generalize hwritten : segment :: rest = written at fails
  cases fails with
  | unknown leads unnamed =>
    rw [resolveSegments_of_leads leads hwritten.symm,
      resolveSegments_of_unnamed (Schema.field?_eq_none_iff.2 unnamed)]
    rfl
  | closed leads named closed =>
    rw [resolveSegments_of_leads leads hwritten.symm,
      resolveSegments_closed (Schema.field?_eq_some_iff.2 named) closed]
    rfl

end FieldPath

namespace Catalog

variable {catalog : Catalog} {schema : Schema} {segments : List String} {m n : Nat}
  {d e : QueryError}

/-- Segments that fail are no walk. -/
theorem Fails.not_walk (fails : catalog.Fails schema segments n e) {through : List Field}
    {leaf : Field} : ¬ catalog.Walk schema segments through leaf := by
  intro walk
  -- The resolver tells the two apart, since it cannot succeed and fail.
  cases segments with
  | nil =>
    generalize hwritten : [] = written at fails
    cases fails <;> simp at hwritten
  | cons segment rest =>
    have hok := FieldPath.resolveSegments_of_walk walk
    rw [FieldPath.resolveSegments_of_fails fails] at hok
    cases hok

/-- The same segments fail at no later place. -/
theorem Fails.le (first : catalog.Fails schema segments n e)
    (other : catalog.Fails schema segments m d) : m ≤ n := by
  rw [← Nat.not_lt]
  intro h
  obtain ⟨fields, leaf, walk⟩ := other.walk_take h
  exact first.take.not_walk walk

end Catalog

namespace FieldPath

variable {catalog : Catalog} {schema : Schema} {path : String}

/-- A path is resolved from its first segment on. -/
theorem exists_segments (catalog : Catalog) (schema : Schema) (path : String) :
    ∃ segment rest, Text.segments path = segment :: rest ∧
      resolve catalog schema path = resolveSegments catalog schema segment rest := by
  obtain ⟨segment, rest, hsegments⟩ := List.exists_cons_of_ne_nil (Text.segments_ne_nil path)
  refine ⟨segment, rest, hsegments, ?_⟩
  rw [resolve, hsegments]

/-- A path is resolved to the path along a walk, when its segments are one. -/
theorem resolve_eq_ok_iff {p : FieldPath} : resolve catalog schema path = .ok p ↔
    ∃ through leaf, catalog.Walk schema (Text.segments path) through leaf ∧
      along through leaf = p := by
  obtain ⟨segment, rest, hsegments, hresolve⟩ := exists_segments catalog schema path
  rw [hsegments, hresolve]
  constructor
  · intro h
    rcases resolveSegments_walk_or_fails catalog schema segment rest with
      ⟨through, leaf, walk, hok⟩ | ⟨n, e, -, herror⟩
    · exact ⟨through, leaf, walk, Except.ok.inj (hok.symm.trans h)⟩
    · rw [herror] at h
      cases h
  · rintro ⟨through, leaf, walk, rfl⟩
    exact resolveSegments_of_walk walk

/-- Resolution fails with an error that says where the segments are no walk. -/
theorem resolve_eq_error_iff {e : QueryError} : resolve catalog schema path = .error e ↔
    ∃ n, catalog.Fails schema (Text.segments path) n e := by
  obtain ⟨segment, rest, hsegments, hresolve⟩ := exists_segments catalog schema path
  rw [hsegments, hresolve]
  constructor
  · intro h
    rcases resolveSegments_walk_or_fails catalog schema segment rest with
      ⟨through, leaf, -, hok⟩ | ⟨n, d, fails, herror⟩
    · rw [hok] at h
      cases h
    · cases herror.symm.trans h
      exact ⟨n, fails⟩
  · rintro ⟨n, fails⟩
    exact resolveSegments_of_fails fails

/-- A path is resolved exactly when its segments are a walk.  What it is resolved to follows the
walk.  Otherwise there is one place where the walk ends too early, and the error names the segment
there. -/
theorem resolve_walks (catalog : Catalog) (schema : Schema) (path : String) :
    ((∃ p, resolve catalog schema path = .ok p) ↔
        ∃ through leaf, catalog.Walk schema (Text.segments path) through leaf) ∧
      (∀ p, resolve catalog schema path = .ok p → ∃ through leaf,
        catalog.Walk schema (Text.segments path) through leaf ∧ p.Follows through leaf) ∧
      ∀ e, resolve catalog schema path = .error e ↔
        ∃! n, catalog.Fails schema (Text.segments path) n e := by
  refine ⟨?_, ?_, ?_⟩
  · constructor
    · rintro ⟨p, h⟩
      obtain ⟨through, leaf, walk, -⟩ := resolve_eq_ok_iff.1 h
      exact ⟨through, leaf, walk⟩
    · rintro ⟨through, leaf, walk⟩
      exact ⟨_, resolve_eq_ok_iff.2 ⟨through, leaf, walk, rfl⟩⟩
  · intro p h
    obtain ⟨through, leaf, walk, rfl⟩ := resolve_eq_ok_iff.1 h
    have levels := levels_along walk.holdsRecords leaf
    exact ⟨through, leaf, walk, levels.steps_ne_nil, levels, last_along through leaf⟩
  · intro e
    rw [resolve_eq_error_iff]
    constructor
    · rintro ⟨n, fails⟩
      exact ⟨n, fails, fun m other => Nat.le_antisymm (fails.le other) (other.le fails)⟩
    · rintro ⟨n, fails, -⟩
      exact ⟨n, fails⟩

/-! ### Folders -/

/-- A folder, which may stand in another one, and holds folders, on shelves or not. -/
def folder : Entity := ⟨0, "Folder"⟩

/-- Every entity has the fields of a folder. -/
def folders : Catalog :=
  ⟨fun _ => [⟨"name", .string, false⟩, ⟨"parent", .record folder, true⟩,
    ⟨"folders", .list (.record folder), false⟩,
    ⟨"shelves", .list (.list (.record folder)), false⟩]⟩

/-- A path through the folders of the parent is resolved along a walk.  A path through shelves ends
there too early, because what they hold are no folders but collections of folders. -/
theorem resolve_walks_folders :
    (∃ p through leaf, resolve folders (folders.schema folder) "Parent.folders.folders.NAME" =
        .ok p ∧ p.text = "parent.folders.folders.name" ∧ p.Follows through leaf) ∧
      ∃! n, folders.Fails (folders.schema folder) ["folders", "shelves", "name"] n
        (.fieldNotFound "name" "list<Folder>") := by
  have hok : resolve folders (folders.schema folder) "Parent.folders.folders.NAME" =
      .ok (.nested ⟨"parent", .record folder, true⟩
        (.each ⟨"folders", .list (.record folder), false⟩ folder
          (.each ⟨"folders", .list (.record folder), false⟩ folder
            (.leaf ⟨"name", .string, false⟩)))) := rfl
  obtain ⟨through, leaf, -, follows⟩ := (resolve_walks _ _ _).2.1 _ hok
  exact ⟨⟨_, through, leaf, hok, rfl, follows⟩,
    ((resolve_walks folders (folders.schema folder) "folders.shelves.name").2.2 _).1 rfl⟩

end FieldPath

end RecordQuery
