import Mathlib.Data.Nat.Find
import RecordQuery.Proofs.OperandSets

/-!
# Names of members

A text stands for a member of an enumeration by its name.  Case does not count, so the names of two
members may agree, and then the first of them is taken, also where the text is spelled exactly as
the other one (`Engine.selection_by_name`).  A member can be named when no member before it has a
name that agrees with its own.  A filter that asks for any other one selects what holds the member
before it.
-/

namespace RecordQuery

/-! ### Coercion -/

namespace Coercion

variable {members : List String} {name : String} {i j : Nat}

/-- A place is that of the first member whose name agrees with a text. -/
structure IsFirst (members : List String) (name : String) (place : Nat) : Prop where
  agrees : ∃ member, members[place]? = some member ∧ Text.agree member name = true
  unnamed : ∀ k < place, ∀ member, members[k]? = some member → Text.agree member name = false

/-- There is one first member whose name agrees with a text. -/
theorem IsFirst.unique (hi : IsFirst members name i) (hj : IsFirst members name j) : i = j := by
  obtain ⟨first, hfirst, hagree⟩ := hi.agrees
  obtain ⟨other, hother, hagree'⟩ := hj.agrees
  rcases Nat.lt_trichotomy i j with hlt | heq | hlt
  · rw [hj.unnamed i hlt first hfirst] at hagree
    cases hagree
  · exact heq
  · rw [hi.unnamed j hlt other hother] at hagree'
    cases hagree'

/-- A text that is trimmed stands for the first member whose name agrees with it. -/
theorem member?_eq_some_iff (trimmed : Text.trim name.toList = name.toList) :
    member? members (.string name) = some j ↔ IsFirst members name j := by
  unfold member?
  dsimp only
  rw [trimmed, String.ofList_toList, List.findIdx?_eq_some_iff_getElem]
  constructor
  · rintro ⟨hj, hagree, hbefore⟩
    refine ⟨⟨_, List.getElem?_eq_getElem hj, hagree⟩, ?_⟩
    intro k hk member hmember
    obtain ⟨hlength, rfl⟩ := List.getElem?_eq_some_iff.1 hmember
    exact Bool.not_eq_true _ ▸ hbefore k hk
  · rintro ⟨⟨member, hmember, hagree⟩, hbefore⟩
    obtain ⟨hj, rfl⟩ := List.getElem?_eq_some_iff.1 hmember
    refine ⟨hj, hagree, ?_⟩
    intro k hk
    rw [hbefore k hk _ (List.getElem?_eq_getElem (Nat.lt_trans hk hj))]
    exact Bool.false_ne_true

/-- For the name of a member there is a first member, at its place or before it. -/
theorem exists_isFirst (h : members[i]? = some name) : ∃ j ≤ i, IsFirst members name j := by
  have hagree : ∃ k member, members[k]? = some member ∧ Text.agree member name = true :=
    ⟨i, name, h, Text.agree_self name⟩
  classical
  refine ⟨Nat.find hagree, Nat.find_min' hagree ⟨name, h, Text.agree_self name⟩,
    Nat.find_spec hagree, ?_⟩
  intro k hk member hmember
  rw [← Bool.not_eq_true]
  intro hother
  exact Nat.find_min hagree hk ⟨member, hmember, hother⟩

/-- A member is the first one of its name when no member before it has a name that agrees. -/
theorem IsFirst.eq_iff (h : members[i]? = some name) (first : IsFirst members name j) :
    j = i ↔ ∀ k < i, ∀ member, members[k]? = some member → Text.agree member name = false := by
  constructor
  · rintro rfl
    exact first.unnamed
  · intro hbefore
    exact first.unique ⟨⟨name, h, Text.agree_self name⟩, hbefore⟩

end Coercion

/-! ### Filters -/

namespace Comparison

/-- Only the place itself equals a place in an enumeration. -/
theorem holdsValue_eq_member {v : Value} {place : Nat} :
    Comparison.eq.holdsValue v (.enumeration place) false = true ↔
      v = .scalar (.enumeration place) := by
  unfold holdsValue holdsAffirmed
  cases v with
  | scalar x => cases x <;> simp [isText, isRelation, Value.order?, Scalar.order?, holds]
  | _ => simp [isText, isRelation, Value.order?]

end Comparison

namespace Context

/-- The leaf asks by name for the records that hold a member: it compares a field of an enumeration
by equality with one text. -/
structure AsksByName (ctx : Context) (schema : Schema) (leaf : FilterLeaf) (path : FieldPath)
    (members : List String) (name : String) : Prop where
  comparison : ctx.IsComparison schema leaf
  plain : leaf.json = false
  filterable : ctx.registry.filterable schema.entity leaf.field = true
  operator : Operator.ofText? leaf.operator = some (.plain .eq)
  resolved : FieldPath.resolve ctx.catalog schema (ctx.pathOf schema leaf) = .ok path
  crossable : ctx.crossable path = true
  kind : path.last.kind = .enumeration members
  values : leaf.values = [.string name]

variable {ctx : Context} {schema : Schema} {leaf : FilterLeaf} {path : FieldPath}
  {members : List String} {name : String} {place : Nat}

/-- A leaf that asks by name compiles to a comparison with the place that the name stands for,
behind the quantifiers of its path. -/
theorem AsksByName.compileLeaf (asks : ctx.AsksByName schema leaf path members name)
    (h : coerce (.string name) (.enumeration members) = .ok (.enumeration place)) :
    ctx.compileLeaf schema leaf = .ok (some (path.collections.foldr .any
      (.compare (.field path.remaining) .eq (.enumeration place) false))) := by
  have hraw : Json.string name ≠ .null := by simp
  have hsupports : supports (.plain .eq) path.last.kind = true := by
    rw [asks.kind]
    rfl
  have hcompare : compareField (.plain .eq) leaf.values path.remaining path.last =
      .ok (some (.compare (.field path.remaining) .eq (.enumeration place) false)) := by
    rw [asks.values, compareField_single hraw]
    refine .value rfl hsupports ?_ ?_
    · rw [asks.kind]
      rfl
    · rw [asks.kind]
      exact h
  refine (compileLeaf_field asks.plain asks.comparison.search
    (asks.comparison.plain asks.plain)).2 ⟨asks.filterable, _, path, asks.operator,
      asks.resolved, quantify_eq_ok.2 ⟨asks.crossable, _, hcompare, rfl⟩⟩

end Context

namespace Engine

open Coercion

/-- The name of a member stands for the first member whose name agrees with it, which is the member
itself when no member before it has such a name.  A filter that asks for the name is accepted, and
selects the records that hold this first member. -/
theorem selection_by_name {members : List String} {i : Nat} {name : String}
    (h : members[i]? = some name) (trimmed : Text.trim name.toList = name.toList) :
    ∃ j ≤ i, IsFirst members name j ∧
      coerce (.string name) (.enumeration members) = .ok (.enumeration j) ∧
      (j = i ↔
        ∀ k < i, ∀ member, members[k]? = some member → Text.agree member name = false) ∧
      ∀ (engine : Engine) (entity : Entity) (leaf : FilterLeaf) (path : FieldPath),
        engine.context.AsksByName (engine.schema entity) leaf path members name →
          (∀ records, engine.applyFilters entity [.leaf leaf] records =
            .ok (records.filter (engine.admits entity [.leaf leaf]))) ∧
          ∀ r, engine.admits entity [.leaf leaf] r = true ↔
            ∃ e, Reaches r path.collections e ∧
              path.remaining.read e = .scalar (.enumeration j) := by
  obtain ⟨j, hj, first⟩ := exists_isFirst h
  have hcoerce : coerce (.string name) (.enumeration members) = .ok (.enumeration j) := by
    unfold coerce scalar?
    dsimp only
    rw [(member?_eq_some_iff trimmed).2 first]
    rfl
  refine ⟨j, hj, first, hcoerce, first.eq_iff h, ?_⟩
  intro engine entity leaf path asks
  have hleaf := asks.compileLeaf hcoerce
  refine ⟨applyFilters_eq ⟨_, compileFilters_of_compileLeaf hleaf⟩, ?_⟩
  intro r
  rw [admits_leaf hleaf, Predicate.holds_foldr_any_iff]
  refine exists_congr fun e => and_congr_right fun _ => ?_
  exact Comparison.holdsValue_eq_member

/-! ### Units -/

/-- Units of length: the name of the last one agrees with that of the first. -/
def units : List String := ["mm", "km", "Mm"]

/-- A ruler. -/
def ruler : Entity := ⟨0, "Ruler"⟩

/-- An engine for rulers, which have a unit. -/
def rulers : Engine :=
  { context := ⟨⟨fun _ => [⟨"unit", .enumeration units, false⟩]⟩, .empty, {}⟩ }

/-- A ruler in a unit. -/
def rulerIn (unit : Nat) : Record where
  identity := unit
  entity := ruler
  access := .inPlace
  fields := [("unit", .scalar (.enumeration unit))]

/-- The ruler is in a unit of this name. -/
def inUnit (name : String) : FilterLeaf := { field := "unit", values := [.string name] }

/-- Rulers in kilometres are found by the name of their unit. -/
theorem selection_by_name_kilometres :
    coerce (.string "km") (.enumeration units) = .ok (.enumeration 1) ∧
      rulers.applyFilters ruler [.leaf (inUnit "km")] [rulerIn 0, rulerIn 1, rulerIn 2] =
        .ok [rulerIn 1] ∧
      ∀ r, rulers.admits ruler [.leaf (inUnit "km")] r = true ↔
        Access.read ["unit"] r = .scalar (.enumeration 1) := by
  have hname : units[1]? = some "km" := rfl
  obtain ⟨j, -, first, hcoerce, hiff, hselects⟩ := selection_by_name hname rfl
  have hj : j = 1 := by
    refine hiff.2 ?_
    intro k hk member hmember
    obtain rfl := Nat.lt_one_iff.1 hk
    cases hmember
    decide
  subst hj
  have asks : rulers.context.AsksByName (rulers.schema ruler) (inUnit "km")
      (.leaf ⟨"unit", .enumeration units, false⟩) units "km" :=
    ⟨⟨rfl, fun _ => rfl⟩, rfl, rfl, rfl, rfl, rfl, rfl, rfl⟩
  obtain ⟨happly, hadmits⟩ := hselects rulers ruler _ _ asks
  refine ⟨hcoerce, ?_, ?_⟩
  · rw [happly]
    rfl
  · intro r
    rw [hadmits]
    exact ⟨fun ⟨e, hreaches, hread⟩ => Reaches.nil_iff.1 hreaches ▸ hread,
      fun hread => ⟨r, .here r, hread⟩⟩

/-- Megametres have a name of their own, which is neither empty nor blank at an end.  It stands for
millimetres nevertheless, and a filter that asks for it finds the rulers in millimetres only. -/
theorem selection_by_name_megametres :
    units.Nodup ∧ (∀ name ∈ units, name ≠ "" ∧ Text.trim name.toList = name.toList) ∧
      units[2]? = some "Mm" ∧
      coerce (.string "Mm") (.enumeration units) = .ok (.enumeration 0) ∧
      rulers.applyFilters ruler [.leaf (inUnit "Mm")] [rulerIn 0, rulerIn 1, rulerIn 2] =
        .ok [rulerIn 0] :=
  ⟨by decide, by decide, rfl, rfl, rfl⟩

end Engine

end RecordQuery
