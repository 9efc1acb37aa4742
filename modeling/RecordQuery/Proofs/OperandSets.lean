import RecordQuery.Proofs.Operands

/-!
# What operands select

The operands of a leaf act as a set.  Neither their order nor repetitions change what is selected,
and two lists of operands select together what one of them selects, or what both select where they
are compared by not-equal and no collection is crossed (`Engine.operandSet`).
-/

namespace RecordQuery

namespace Engine

variable (engine : Engine) (entity : Entity)

/-- The leaf compiles.  A lenient engine also compiles leaves that fail, to nothing. -/
def Accepts (leaf : FilterLeaf) : Prop :=
  ∃ p, engine.context.compileLeaf (engine.schema entity) leaf = .ok p

/-- The operands of the leaf act as a set. -/
structure OperandSet (leaf : FilterLeaf) : Prop where
  /-- Two lists of operands that are accepted are accepted together. -/
  together : ∀ vs ws, engine.Accepts entity (leaf.withValues vs) →
    engine.Accepts entity (leaf.withValues ws) → engine.Accepts entity (leaf.withValues (vs ++ ws))
  /-- Operands that contribute nothing add nothing: with them the leaf compiles as without. -/
  idle : ∀ vs ws, engine.Accepts entity (leaf.withValues vs) →
    ¬ engine.Contributes entity (.leaf (leaf.withValues vs)) →
      engine.Accepts entity (leaf.withValues ws) →
        engine.context.compileFilters (engine.schema entity)
            [.leaf (leaf.withValues (vs ++ ws))] =
          engine.context.compileFilters (engine.schema entity) [.leaf (leaf.withValues ws)] ∧
        engine.context.compileFilters (engine.schema entity)
            [.leaf (leaf.withValues (ws ++ vs))] =
          engine.context.compileFilters (engine.schema entity) [.leaf (leaf.withValues ws)]
  /-- Two lists of operands that contribute select together what one of them selects. -/
  union : engine.context.asksForAll (engine.schema entity) leaf = false →
    ∀ vs ws, engine.Contributes entity (.leaf (leaf.withValues vs)) →
      engine.Contributes entity (.leaf (leaf.withValues ws)) → ∀ records,
        engine.applyFilters entity [.leaf (leaf.withValues (vs ++ ws))] records =
          .ok (records.filter fun r => engine.admits entity [.leaf (leaf.withValues vs)] r ||
            engine.admits entity [.leaf (leaf.withValues ws)] r)
  /-- Where all operands are asked for, and no collection is crossed, they select together what both
  select. -/
  intersection : engine.context.asksForAll (engine.schema entity) leaf = true →
    engine.context.IsDirect (engine.schema entity) leaf →
      ∀ vs ws, engine.Contributes entity (.leaf (leaf.withValues vs)) →
        engine.Contributes entity (.leaf (leaf.withValues ws)) → ∀ records,
          engine.applyFilters entity [.leaf (leaf.withValues (vs ++ ws))] records =
            .ok (records.filter fun r => engine.admits entity [.leaf (leaf.withValues vs)] r &&
              engine.admits entity [.leaf (leaf.withValues ws)] r)
  /-- The same operands in another order, or repeated, select the same records. -/
  same : ∀ vs ws, (∀ raw, raw ∈ vs ↔ raw ∈ ws) → engine.Accepts entity (leaf.withValues vs) →
    engine.Accepts entity (leaf.withValues ws) ∧ ∀ records,
      engine.applyFilters entity [.leaf (leaf.withValues ws)] records =
        engine.applyFilters entity [.leaf (leaf.withValues vs)] records

variable {engine entity}

section Leaves

variable {leaf : FilterLeaf} {p : Option Predicate}

/-- A leaf that compiles does so as a list of filters. -/
theorem compileFilters_of_compileLeaf
    (h : engine.context.compileLeaf (engine.schema entity) leaf = .ok p) :
    engine.context.compileFilters (engine.schema entity) [.leaf leaf] = .ok p := by
  rw [Context.compileFilters_leaf, h]
  rfl

/-- A leaf contributes when it compiles to a predicate. -/
theorem contributes_leaf_iff : engine.Contributes entity (.leaf leaf) ↔
    ∃ q, engine.context.compileLeaf (engine.schema entity) leaf = .ok (some q) := by
  refine exists_congr fun q => ⟨Context.compileLeaf_of_compileFilters, ?_⟩
  exact compileFilters_of_compileLeaf

/-- A leaf that compiles selects by what its predicate says. -/
theorem applyFilters_leaf (h : engine.context.compileLeaf (engine.schema entity) leaf = .ok p)
    (records : List Record) :
    engine.applyFilters entity [.leaf leaf] records =
      .ok (match p.map Predicate.meaning with
        | some meaning => records.filter (meaning engine.search)
        | none => records) := by
  unfold applyFilters
  rw [compileFilters_of_compileLeaf h]
  cases p <;> rfl

/-- A leaf that compiles to a predicate admits what the predicate holds for. -/
theorem admits_leaf {q : Predicate}
    (h : engine.context.compileLeaf (engine.schema entity) leaf = .ok (some q)) (r : Record) :
    engine.admits entity [.leaf leaf] r = q.holds engine.search r := by
  unfold admits
  rw [compileFilters_of_compileLeaf h]

/-- Two lists of operands that contribute select together the junction of what they select. -/
theorem applyFilters_append
    (hlength : ∀ operator, Operator.ofText? leaf.operator = some operator →
      operator.length = false) {vs ws : List Json}
    (hvs : engine.Contributes entity (.leaf (leaf.withValues vs)))
    (hws : engine.Contributes entity (.leaf (leaf.withValues ws)))
    (exact : engine.context.asksForAll (engine.schema entity) leaf = false ∨
      engine.context.IsDirect (engine.schema entity) leaf) (records : List Record) :
    engine.applyFilters entity [.leaf (leaf.withValues (vs ++ ws))] records =
      .ok (records.filter fun r => (engine.context.junctionOf (engine.schema entity) leaf).apply
        (engine.admits entity [.leaf (leaf.withValues vs)] r)
        (engine.admits entity [.leaf (leaf.withValues ws)] r)) := by
  obtain ⟨a, ha⟩ := contributes_leaf_iff.1 hvs
  obtain ⟨b, hb⟩ := contributes_leaf_iff.1 hws
  obtain ⟨both, hboth, hholds⟩ := (Context.takesSet_compileLeaf hlength ha).both ha hb
  rw [applyFilters_leaf hboth]
  simp only [admits_leaf ha, admits_leaf hb, ← hholds exact]
  rfl

end Leaves

variable (engine entity)

/-- Unless a length is asked for, the operands of a leaf act as a set. -/
theorem operandSet {leaf : FilterLeaf}
    (hlength : ∀ operator, Operator.ofText? leaf.operator = some operator →
      operator.length = false) : engine.OperandSet entity leaf := by
  have hset : ∀ {vs p}, engine.context.compileLeaf (engine.schema entity) (leaf.withValues vs) =
      .ok p → Context.TakesSet _ _ _ := fun h => Context.takesSet_compileLeaf hlength h
  constructor
  case together =>
    rintro vs ws ⟨p, hp⟩ ⟨q, hq⟩
    cases p with
    | none => exact ⟨q, ((hset hp).idle hp hq).1⟩
    | some a =>
      cases q with
      | none => exact ⟨some a, ((hset hp).idle hq hp).2⟩
      | some b =>
        obtain ⟨both, hboth, -⟩ := (hset hp).both hp hq
        exact ⟨some both, hboth⟩
  case idle =>
    rintro vs ws ⟨p, hp⟩ hnone ⟨q, hq⟩
    cases p with
    | some a => exact absurd (contributes_leaf_iff.2 ⟨a, hp⟩) hnone
    | none =>
      obtain ⟨hleft, hright⟩ := (hset hp).idle hp hq
      rw [compileFilters_of_compileLeaf hleft, compileFilters_of_compileLeaf hright,
        compileFilters_of_compileLeaf hq]
      exact ⟨rfl, rfl⟩
  case union =>
    intro hany vs ws hvs hws records
    rw [applyFilters_append hlength hvs hws (.inl hany)]
    unfold Context.junctionOf
    rw [hany]
    rfl
  case intersection =>
    intro hall direct vs ws hvs hws records
    rw [applyFilters_append hlength hvs hws (.inr direct)]
    unfold Context.junctionOf
    rw [hall]
    rfl
  case same =>
    rintro vs ws hmem ⟨p, hp⟩
    obtain ⟨q, hq, hmeaning⟩ := (hset hp).same hmem hp
    refine ⟨⟨q, hq⟩, ?_⟩
    intro records
    rw [applyFilters_leaf hq, applyFilters_leaf hp, hmeaning]

/-! ### Members with other names -/

/-- A member whose name is none of the operands. -/
def unnamed : FilterLeaf where
  field := "name"
  operator := "!="

/-- Operands of not-equal that are given one by one, or several times, exclude the same members. -/
theorem operandSet_club : club.OperandSet member unnamed ∧
    club.applyFilters member [.leaf (unnamed.withValues
        ([.string "Max", .string "Ada"] ++ [.string "Max"]))]
      [memberOf 1 "Ada" 36, memberOf 2 "Max" 7, memberOf 3 "Eve" 40] =
        .ok [memberOf 3 "Eve" 40] := by
  have hlength : ∀ operator, Operator.ofText? unnamed.operator = some operator →
      operator.length = false := by
    intro operator hoperator
    cases (Context.ofText?_equality false).2.symm.trans hoperator
    rfl
  have hset := operandSet club member hlength
  refine ⟨hset, ?_⟩
  have hdirect : club.context.IsDirect (club.schema member) unnamed := by
    intro _ path hpath
    cases hpath
    rfl
  have hboth : club.Contributes member
      (.leaf (unnamed.withValues [.string "Max", .string "Ada"])) := ⟨_, rfl⟩
  have hmax : club.Contributes member (.leaf (unnamed.withValues [.string "Max"])) := ⟨_, rfl⟩
  rw [hset.intersection rfl hdirect _ _ hboth hmax]
  rfl

end Engine

end RecordQuery
