import RecordQuery.Engine
import RecordQuery.Proofs.Leniency

/-!
# What filters select

Filters select records one by one: a record is kept when the filters admit it, whatever the other
records are.  Filters that are put together admit what both admit, and a group admits what one of
its children admits.  Only those filters count here that ask for anything (`Engine.Contributes`);
the others vanish from lists and from groups, at any depth.  So neither the order of filters nor
that of the children of groups matters (`Engine.selection`).

All of it comes from two facts.  Filters compile when none of their leaves fails in a way that the
mode reports, and then to the predicate that asks for all that they contribute
(`Context.compileFilters_eq_ok`).  And what joined predicates say depends on what the parts say, but
not on their order (`Predicate.meaning_join_congr`).
-/

namespace RecordQuery

namespace FilterDescriptor

/-- The filters are the same in another order, at the top or inside groups. -/
inductive Rearranged : List FilterDescriptor → List FilterDescriptor → Prop where
  | perm {filters others : List FilterDescriptor} (h : filters.Perm others) :
      Rearranged filters others
  | group {children others : List FilterDescriptor} (before after : List FilterDescriptor)
      (h : Rearranged children others) :
      Rearranged (before ++ .group children :: after) (before ++ .group others :: after)
  | trans {filters between others : List FilterDescriptor} (first : Rearranged filters between)
      (second : Rearranged between others) : Rearranged filters others

theorem leavesAll_eq_flatMap (filters : List FilterDescriptor) :
    leavesAll filters = filters.flatMap leaves := by
  induction filters with
  | nil => rfl
  | cons d ds ih => rw [leavesAll, ih, List.flatMap_cons]

/-- Rearranged filters have the same leaves. -/
theorem Rearranged.perm_leavesAll {filters others : List FilterDescriptor}
    (h : Rearranged filters others) : (leavesAll filters).Perm (leavesAll others) := by
  induction h with
  | perm h =>
    rw [leavesAll_eq_flatMap, leavesAll_eq_flatMap]
    exact h.flatMap_right _
  | group before after _ ih =>
    rw [leavesAll_append, leavesAll_append, leavesAll, leavesAll, leaves, leaves]
    exact (ih.append_right _).append_left _
  | trans _ _ ihfirst ihsecond => exact ihfirst.trans ihsecond

end FilterDescriptor

namespace Predicate

/-- What a predicate says of records, given a full-text search. -/
def meaning (p : Predicate) (search : TextSearch) (r : Record) : Bool := p.holds search r

/-- Joined predicates hold when all of the parts do, or when one of them does. -/
theorem holds_of_join {junction : Junction} {parts : List Predicate} {p : Predicate}
    (h : join junction parts = some p) (search : TextSearch) (r : Record) :
    p.holds search r = match junction with
      | .and => (parts.map meaning).all fun m => m search r
      | .or => (parts.map meaning).any fun m => m search r := by
  cases junction with
  | and =>
    rw [holds_of_allOf h, List.all_map]
    rfl
  | or =>
    rw [holds_of_anyOf h, List.any_map]
    rfl

/-- What joined predicates say depends on what the parts say, but neither on their order nor on
repetitions. -/
theorem meaning_join_congr (junction : Junction) {parts others : List Predicate}
    (h : ∀ m, m ∈ parts.map meaning ↔ m ∈ others.map meaning) :
    (join junction parts).map meaning = (join junction others).map meaning := by
  have hempty : parts = [] ↔ others = [] := by
    rw [← List.map_eq_nil_iff (f := meaning), ← List.map_eq_nil_iff (f := meaning) (l := others),
      List.eq_nil_iff_forall_not_mem, List.eq_nil_iff_forall_not_mem]
    exact forall_congr' fun m => not_congr (h m)
  rw [← join_eq_none junction, ← join_eq_none junction] at hempty
  cases hparts : join junction parts with
  | none => rw [hempty.1 hparts]
  | some p =>
    cases hothers : join junction others with
    | none =>
      rw [hempty.2 hothers] at hparts
      cases hparts
    | some q =>
      refine congrArg some ?_
      funext search r
      unfold meaning
      rw [holds_of_join hparts, holds_of_join hothers, Bool.eq_iff_iff]
      cases junction with
      | and => simp only [List.all_eq_true, h]
      | or => simp only [List.any_eq_true, h]

end Predicate

/-! ### Contributions -/

namespace Context

variable {ctx : Context} {schema : Schema}

/-- No leaf of the filters fails in a way that the mode reports. -/
def Quiet (ctx : Context) (schema : Schema) (filters : List FilterDescriptor) : Prop :=
  ∀ leaf ∈ FilterDescriptor.leavesAll filters, ∀ e, ctx.leafFailure? schema leaf = some e →
    reported ctx.options.throwOnInvalidFields e = false

/-- Filters compile when they are quiet, and then to the predicate that asks for all that they
contribute. -/
theorem compileFilters_eq_ok {filters : List FilterDescriptor} {p : Option Predicate} :
    ctx.compileFilters schema filters = .ok p ↔
      ctx.Quiet schema filters ∧ Predicate.allOf (ctx.contributions schema filters) = p := by
  have hcompile : ctx.compileFilters schema filters = _ :=
    compileFilters_inMode ctx.options.throwOnInvalidFields filters
  have hquiet : firstReported ctx.options.throwOnInvalidFields (ctx.leafFailure? schema)
      (FilterDescriptor.leavesAll filters) = none ↔ ctx.Quiet schema filters := by
    unfold firstReported Quiet
    rw [List.findSome?_eq_none_iff]
    simp only [Option.filter_eq_none_iff, Bool.not_eq_true]
  rw [hcompile, ← hquiet]
  cases firstReported ctx.options.throwOnInvalidFields (ctx.leafFailure? schema)
    (FilterDescriptor.leavesAll filters) <;> simp

theorem quiet_append {filters others : List FilterDescriptor} :
    ctx.Quiet schema (filters ++ others) ↔ ctx.Quiet schema filters ∧ ctx.Quiet schema others := by
  unfold Quiet
  rw [FilterDescriptor.leavesAll_append]
  exact List.forall_mem_append

/-- A group is quiet when its children are. -/
theorem quiet_group {children : List FilterDescriptor} :
    ctx.Quiet schema [.group children] ↔ ctx.Quiet schema children := by
  unfold Quiet
  rw [FilterDescriptor.leavesAll, FilterDescriptor.leavesAll, List.append_nil,
    FilterDescriptor.leaves]

/-- Each of several quiet filters is quiet alone. -/
theorem Quiet.of_mem {filters : List FilterDescriptor} (quiet : ctx.Quiet schema filters)
    {d : FilterDescriptor} (hd : d ∈ filters) : ctx.Quiet schema [d] := by
  obtain ⟨before, after, rfl⟩ := List.append_of_mem hd
  have hrest : ctx.Quiet schema ([d] ++ after) := (quiet_append.1 quiet).2
  exact (quiet_append.1 hrest).1

/-- Rearranged filters are as quiet as before. -/
theorem Quiet.rearranged {filters others : List FilterDescriptor}
    (quiet : ctx.Quiet schema filters) (h : FilterDescriptor.Rearranged filters others) :
    ctx.Quiet schema others := by
  intro leaf hleaf
  exact quiet leaf (h.perm_leavesAll.mem_iff.2 hleaf)

theorem contributions_eq_filterMap (filters : List FilterDescriptor) :
    ctx.contributions schema filters = filters.filterMap (ctx.contribution schema) := by
  induction filters with
  | nil => rfl
  | cons d ds ih =>
    rw [contributions, ih, List.filterMap_cons]
    cases ctx.contribution schema d <;> rfl

theorem mem_contributions {filters : List FilterDescriptor} {p : Predicate} :
    p ∈ ctx.contributions schema filters ↔ ∃ d ∈ filters, ctx.contribution schema d = some p := by
  rw [contributions_eq_filterMap]
  exact List.mem_filterMap

/-- Compiled alone, a quiet filter gives what it contributes. -/
theorem compileFilters_singleton {d : FilterDescriptor} {p : Option Predicate} :
    ctx.compileFilters schema [d] = .ok p ↔
      ctx.Quiet schema [d] ∧ ctx.contribution schema d = p := by
  have hall : Predicate.allOf (ctx.contributions schema [d]) = ctx.contribution schema d := by
    rw [contributions, contributions]
    cases ctx.contribution schema d <;> rfl
  rw [compileFilters_eq_ok, hall]

/-- Rearranged filters contribute predicates that say the same, in another order. -/
theorem perm_contributions {filters others : List FilterDescriptor}
    (h : FilterDescriptor.Rearranged filters others) :
    ((ctx.contributions schema filters).map Predicate.meaning).Perm
      ((ctx.contributions schema others).map Predicate.meaning) := by
  induction h with
  | perm h =>
    rw [contributions_eq_filterMap, contributions_eq_filterMap]
    exact (h.filterMap _).map _
  | group before after _ ih =>
    -- The children are rearranged, so that the group says the same as before.
    have hgroup := congrArg Option.toList
      (Predicate.meaning_join_congr .or fun m => ih.mem_iff)
    unfold Predicate.join at hgroup
    rw [Option.toList_map, Option.toList_map] at hgroup
    rw [contributions_append, contributions_append, contributions, contributions, contribution,
      contribution, List.map_append, List.map_append, List.map_append, List.map_append, hgroup]
  | trans _ _ ihfirst ihsecond => exact ihfirst.trans ihsecond

mutual

/-- A filter asks for something exactly when one of its leaves does. -/
theorem contribution_isSome_iff (d : FilterDescriptor) :
    (ctx.contribution schema d).isSome = true ↔
      ∃ leaf ∈ d.leaves, (ctx.leafContribution schema leaf).isSome = true := by
  cases d with
  | leaf leaf => simp [contribution, FilterDescriptor.leaves]
  | group children =>
    rw [contribution, FilterDescriptor.leaves, ← contributions_ne_nil_iff children,
      Option.isSome_iff_ne_none, ne_eq, ne_eq]
    exact not_congr (Predicate.join_eq_none .or)

/-- Filters ask for something exactly when one of their leaves does. -/
theorem contributions_ne_nil_iff (filters : List FilterDescriptor) :
    ctx.contributions schema filters ≠ [] ↔
      ∃ leaf ∈ FilterDescriptor.leavesAll filters,
        (ctx.leafContribution schema leaf).isSome = true := by
  cases filters with
  | nil => simp [contributions, FilterDescriptor.leavesAll]
  | cons d ds =>
    have hhead := contribution_isSome_iff d
    have htail := contributions_ne_nil_iff ds
    rw [contributions, FilterDescriptor.leavesAll, ne_eq, List.append_eq_nil_iff, not_and_or,
      ← ne_eq (contributions ctx schema ds), htail, Option.toList_eq_nil_iff,
      ← ne_eq, ← Option.isSome_iff_ne_none, hhead]
    simp only [List.mem_append, or_and_right, exists_or]

end

end Context

/-! ### Selected records -/

namespace Engine

variable (engine : Engine) (entity : Entity)

/-- The filters compile. -/
def Compiles (filters : List FilterDescriptor) : Prop :=
  ∃ p, engine.context.compileFilters (engine.schema entity) filters = .ok p

/-- Compiled alone, the filter asks for something. -/
def Contributes (d : FilterDescriptor) : Prop :=
  ∃ p, engine.context.compileFilters (engine.schema entity) [d] = .ok (some p)

/-- The record satisfies the filters. -/
def admits (filters : List FilterDescriptor) (r : Record) : Bool :=
  match engine.context.compileFilters (engine.schema entity) filters with
  | .ok (some p) => p.holds engine.search r
  | .ok none => true
  | .error _ => false

/-- Filters select sets of records: lists of filters select what all of them select, and groups what
some of their children select. -/
structure Selection : Prop where
  /-- Of a list the filters keep the records that they admit, in their order. -/
  apply : ∀ filters, engine.Compiles entity filters → ∀ records,
    engine.applyFilters entity filters records =
      .ok (records.filter (engine.admits entity filters))
  /-- Filters that are put together keep the records that both of them keep. -/
  append : ∀ xs ys, engine.Compiles entity (xs ++ ys) →
    engine.Compiles entity xs ∧ engine.Compiles entity ys ∧
      ∀ records, engine.applyFilters entity (xs ++ ys) records =
        .ok (records.filter fun r => engine.admits entity xs r && engine.admits entity ys r)
  /-- A group admits the records that one of its contributing children admits alone. -/
  group : ∀ children, engine.Compiles entity [.group children] →
    (∃ child ∈ children, engine.Contributes entity child) → ∀ r,
      engine.admits entity [.group children] r = true ↔
        ∃ child ∈ children, engine.Contributes entity child ∧
          engine.admits entity [child] r = true
  /-- A group without contributing children does not contribute, and admits every record. -/
  idle : ∀ children, engine.Compiles entity [.group children] →
    (∀ child ∈ children, ¬ engine.Contributes entity child) →
      ¬ engine.Contributes entity (.group children) ∧
        ∀ r, engine.admits entity [.group children] r = true
  /-- At any depth it is the leaves that contribute. -/
  leaves : ∀ d, engine.Compiles entity [d] →
    (engine.Contributes entity d ↔ ∃ leaf ∈ d.leaves, engine.Contributes entity (.leaf leaf))
  /-- Filters in another order, at the top or inside groups, keep the same records. -/
  rearranged : ∀ filters others, engine.Compiles entity filters →
    FilterDescriptor.Rearranged filters others →
      engine.Compiles entity others ∧ ∀ records,
        engine.applyFilters entity others records = engine.applyFilters entity filters records

variable {engine entity}

/-- Filters compile exactly when they are quiet. -/
theorem compiles_iff_quiet {filters : List FilterDescriptor} :
    engine.Compiles entity filters ↔ engine.context.Quiet (engine.schema entity) filters := by
  constructor
  · rintro ⟨p, hp⟩
    exact (Context.compileFilters_eq_ok.1 hp).1
  · intro quiet
    exact ⟨_, Context.compileFilters_eq_ok.2 ⟨quiet, rfl⟩⟩

/-- A quiet filter contributes when it is compiled alone exactly when it does so among others. -/
theorem contributes_iff {d : FilterDescriptor}
    (quiet : engine.context.Quiet (engine.schema entity) [d]) :
    engine.Contributes entity d ↔
      (engine.context.contribution (engine.schema entity) d).isSome = true := by
  rw [Option.isSome_iff_exists]
  refine exists_congr fun p => ?_
  rw [Context.compileFilters_singleton]
  exact and_iff_right quiet

/-- Quiet filters admit what all contributed predicates hold for. -/
theorem admits_eq {filters : List FilterDescriptor}
    (quiet : engine.context.Quiet (engine.schema entity) filters) (r : Record) :
    engine.admits entity filters r =
      (engine.context.contributions (engine.schema entity) filters).all
        fun p => p.holds engine.search r := by
  have hcompile := Context.compileFilters_eq_ok.2 ⟨quiet, rfl⟩
  unfold admits
  rw [hcompile]
  cases hall : Predicate.allOf
      (engine.context.contributions (engine.schema entity) filters) with
  | none =>
    rw [(Predicate.join_eq_none .and).1 hall]
    rfl
  | some p => exact Predicate.holds_of_allOf hall engine.search r

/-- Applied filters keep the records that they admit. -/
theorem applyFilters_eq {filters : List FilterDescriptor} (h : engine.Compiles entity filters)
    (records : List Record) :
    engine.applyFilters entity filters records =
      .ok (records.filter (engine.admits entity filters)) := by
  obtain ⟨p, hp⟩ := h
  unfold applyFilters admits
  rw [hp]
  cases p with
  | none => simp [Except.map]
  | some p => rfl

/-- What a contributing filter admits alone is what its predicate holds for. -/
theorem contributes_and_admits_iff {d : FilterDescriptor}
    (quiet : engine.context.Quiet (engine.schema entity) [d]) {r : Record} :
    (engine.Contributes entity d ∧ engine.admits entity [d] r = true) ↔
      ∃ p, engine.context.contribution (engine.schema entity) d = some p ∧
        p.holds engine.search r = true := by
  rw [contributes_iff quiet, admits_eq quiet, Context.contributions, Context.contributions]
  cases engine.context.contribution (engine.schema entity) d <;> simp

/-- A quiet group admits what one of the contributed predicates holds for, and everything when
there are none. -/
theorem admits_group {children : List FilterDescriptor}
    (quiet : engine.context.Quiet (engine.schema entity) [.group children]) (r : Record) :
    engine.admits entity [.group children] r =
      ((engine.context.contributions (engine.schema entity) children).isEmpty ||
        (engine.context.contributions (engine.schema entity) children).any
          fun p => p.holds engine.search r) := by
  rw [admits_eq quiet, Context.contributions, Context.contributions, Context.contribution,
    List.append_nil]
  cases hany : Predicate.anyOf
      (engine.context.contributions (engine.schema entity) children) with
  | none =>
    rw [(Predicate.join_eq_none .or).1 hany]
    rfl
  | some p =>
    have hempty : (engine.context.contributions (engine.schema entity) children).isEmpty =
        false := by
      refine List.isEmpty_eq_false_iff.2 fun hnil => ?_
      rw [hnil] at hany
      cases hany
    rw [hempty, Bool.false_or, ← Predicate.holds_of_anyOf hany]
    exact Bool.and_true _

/-- Rearranged filters admit the same records. -/
theorem admits_rearranged {filters others : List FilterDescriptor}
    (quiet : engine.context.Quiet (engine.schema entity) filters)
    (h : FilterDescriptor.Rearranged filters others) (r : Record) :
    engine.admits entity others r = engine.admits entity filters r := by
  have hperm : ((engine.context.contributions (engine.schema entity) others).map
      Predicate.meaning).Perm ((engine.context.contributions (engine.schema entity) filters).map
        Predicate.meaning) := (Context.perm_contributions h).symm
  have hall := hperm.all_eq (f := fun m => m engine.search r)
  rw [List.all_map, List.all_map] at hall
  rw [admits_eq quiet, admits_eq (quiet.rearranged h)]
  exact hall

/-- A quiet group with contributing children admits what one of them admits alone. -/
theorem admits_group_iff {children : List FilterDescriptor}
    (quiet : engine.context.Quiet (engine.schema entity) [.group children])
    (hsome : ∃ child ∈ children, engine.Contributes entity child) {r : Record} :
    engine.admits entity [.group children] r = true ↔
      ∃ child ∈ children, engine.Contributes entity child ∧
        engine.admits entity [child] r = true := by
  have hchildren := Context.quiet_group.1 quiet
  obtain ⟨first, hfirst, hcontributes⟩ := hsome
  obtain ⟨p, hp⟩ := Option.isSome_iff_exists.1
    ((contributes_iff (hchildren.of_mem hfirst)).1 hcontributes)
  have hempty : (engine.context.contributions (engine.schema entity) children).isEmpty = false :=
    List.isEmpty_eq_false_iff.2
      (List.ne_nil_of_mem (Context.mem_contributions.2 ⟨first, hfirst, hp⟩))
  rw [admits_group quiet, hempty, Bool.false_or, List.any_eq_true]
  constructor
  · rintro ⟨q, hq, hholds⟩
    obtain ⟨child, hchild, hcontribution⟩ := Context.mem_contributions.1 hq
    exact ⟨child, hchild,
      (contributes_and_admits_iff (hchildren.of_mem hchild)).2 ⟨q, hcontribution, hholds⟩⟩
  · rintro ⟨child, hchild, hboth⟩
    obtain ⟨q, hcontribution, hholds⟩ :=
      (contributes_and_admits_iff (hchildren.of_mem hchild)).1 hboth
    exact ⟨q, Context.mem_contributions.2 ⟨child, hchild, hcontribution⟩, hholds⟩

/-- A quiet group without contributing children asks for nothing. -/
theorem contributions_of_idle {children : List FilterDescriptor}
    (quiet : engine.context.Quiet (engine.schema entity) children)
    (hnone : ∀ child ∈ children, ¬ engine.Contributes entity child) :
    engine.context.contributions (engine.schema entity) children = [] := by
  refine List.eq_nil_iff_forall_not_mem.2 ?_
  intro p hp
  obtain ⟨child, hchild, hcontribution⟩ := Context.mem_contributions.1 hp
  exact hnone child hchild ((contributes_iff (quiet.of_mem hchild)).2
    (Option.isSome_iff_exists.2 ⟨p, hcontribution⟩))

/-- A quiet filter contributes exactly when one of its leaves does. -/
theorem contributes_iff_leaves {d : FilterDescriptor}
    (quiet : engine.context.Quiet (engine.schema entity) [d]) :
    engine.Contributes entity d ↔ ∃ leaf ∈ d.leaves, engine.Contributes entity (.leaf leaf) := by
  rw [contributes_iff quiet, Context.contribution_isSome_iff]
  refine exists_congr fun leaf => and_congr_right fun hleaf => ?_
  have halone : engine.context.Quiet (engine.schema entity) [.leaf leaf] := by
    intro other hother
    obtain rfl := List.mem_singleton.1 hother
    exact quiet other (List.mem_append_left _ hleaf)
  rw [contributes_iff halone, Context.contribution]

variable (engine entity)

/-- Compiled filters select sets of records. -/
theorem selection : engine.Selection entity := by
  constructor
  case apply =>
    intro filters h records
    exact applyFilters_eq h records
  case append =>
    intro xs ys h
    have hquiet := compiles_iff_quiet.1 h
    obtain ⟨hxs, hys⟩ := Context.quiet_append.1 hquiet
    refine ⟨compiles_iff_quiet.2 hxs, compiles_iff_quiet.2 hys, ?_⟩
    intro records
    rw [applyFilters_eq h]
    congr 2
    funext r
    rw [admits_eq hquiet, admits_eq hxs, admits_eq hys, Context.contributions_append,
      List.all_append]
  case group =>
    intro children h hsome r
    exact admits_group_iff (compiles_iff_quiet.1 h) hsome
  case idle =>
    intro children h hnone
    have hgroup := compiles_iff_quiet.1 h
    have hnil := contributions_of_idle (Context.quiet_group.1 hgroup) hnone
    constructor
    · rw [contributes_iff hgroup, Context.contribution, hnil]
      exact Bool.false_ne_true
    · intro r
      rw [admits_group hgroup, hnil]
      rfl
  case leaves =>
    intro d h
    exact contributes_iff_leaves (compiles_iff_quiet.1 h)
  case rearranged =>
    intro filters others h hrearranged
    have hquiet := compiles_iff_quiet.1 h
    have hothers := compiles_iff_quiet.2 (hquiet.rearranged hrearranged)
    refine ⟨hothers, ?_⟩
    intro records
    rw [applyFilters_eq h, applyFilters_eq hothers]
    congr 2
    funext r
    exact admits_rearranged hquiet hrearranged r

/-! ### A club -/

/-- A member of a club. -/
def member : Entity := ⟨0, "Member"⟩

/-- An engine for members, who have a name and an age. -/
def club : Engine :=
  { context := ⟨⟨fun _ => [⟨"name", .string, false⟩, ⟨"age", .uint, true⟩]⟩, .empty, {}⟩ }

/-- A member of a name and an age. -/
def memberOf (identity : Nat) (name : String) (age : UInt64) : Record where
  identity := identity
  entity := member
  access := .inPlace
  fields := [("name", .scalar (.string name)), ("age", .scalar (.number (.unsigned age)))]

/-- The member is grown up. -/
def grown : FilterDescriptor :=
  .leaf { field := "age", operator := ">=", values := [.string "18"] }

/-- The member has one of two names. -/
def named : FilterDescriptor := .leaf { field := "name", values := [.string "Ada", .string "Max"] }

/-- A filter without operands. -/
def unasked : FilterDescriptor := .leaf { field := "name" }

/-- A group that asks for nothing vanishes from the group that it stands in, also when all of them
are put in another order. -/
theorem selection_club :
    ¬ club.Contributes member (.group [unasked, .group []]) ∧
      club.applyFilters member [.group [.group [.group [], unasked], named], grown]
        [memberOf 1 "Ada" 36, memberOf 2 "Max" 7, memberOf 3 "Eve" 40] =
          .ok [memberOf 1 "Ada" 36] := by
  have hclub := selection club member
  constructor
  · rw [hclub.leaves _ ⟨none, rfl⟩]
    rintro ⟨leaf, hleaf, p, hp⟩
    obtain rfl := List.mem_singleton.1 hleaf
    cases hp
  · have hrearranged : FilterDescriptor.Rearranged
        [.group [named, .group [unasked, .group []]], grown]
        [.group [.group [.group [], unasked], named], grown] :=
      .group [] [grown] (.trans (.group [named] [] (.perm (List.Perm.swap _ _ _)))
        (.perm (List.Perm.swap _ _ _)))
    rw [(hclub.rearranged _ _ ⟨_, rfl⟩ hrearranged).2]
    rfl

end Engine

end RecordQuery
