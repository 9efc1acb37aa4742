import RecordQuery.Engine
import RecordQuery.Proofs.Conformity
import RecordQuery.Proofs.KeyOrder
import RecordQuery.Proofs.StableSort

/-!
# Sorting records

Over records that fit their layouts each key of a compiled chain reads values of one kind
(`conforms_of_compileKey`).  Values of one kind are never blurred, so that such a chain preorders
the records (`preordersOn_of_terms`), and sorting by it gives the one list that is stable.

A list of sort descriptors can be cut anywhere: sorting by all of them is sorting by the later ones
first and by the earlier ones then.
-/

namespace RecordQuery

/-! ### Values of one kind -/

/-- Values of one kind are never blurred: their numbers have one representation. -/
theorem Value.not_blurred {a b c : Value} {kind : Kind} (ha : a.Conforms kind)
    (hb : b.Conforms kind) : ¬ Blurred a b c := by
  rintro ⟨m, n, x, hm, -, -, rfl, -, -⟩
  obtain ⟨number, rfl, hwhole⟩ := eq_number_of_whole? hm
  have hfloat : kind = .float := by
    cases hb with
    | scalar h => cases kind <;> first | rfl | cases h
  subst hfloat
  cases ha with
  | scalar h =>
    cases number with
    | float y => cases hwhole
    | signed k | unsigned k => cases h

namespace SortTerm

/-- A record ties with itself by every term. -/
theorem order_self (term : SortTerm) (a : Record) : term.order a a = .eq := by
  obtain ⟨key, direction⟩ := term
  cases direction with
  | ascending => exact Value.keyOrder_self _
  | descending =>
    rw [order_descending]
    exact Value.keyOrder_self _

/-- Exchanged records are ordered the other way around by every term. -/
theorem order_swap (term : SortTerm) (a b : Record) : term.order b a = (term.order a b).swap := by
  obtain ⟨key, direction⟩ := term
  cases direction with
  | ascending => exact Value.keyOrder_swap _ _
  | descending =>
    rw [order_descending, order_descending]
    exact Value.keyOrder_swap _ _

/-- Records whose keys are values of one kind are ordered transitively. -/
theorem order_isLE_trans {term : SortTerm} {kind : Kind} {a b c : Record}
    (ha : (term.key.read a).Conforms kind) (hb : (term.key.read b).Conforms kind)
    (hc : (term.key.read c).Conforms kind) (hab : (term.order a b).isLE = true)
    (hbc : (term.order b c).isLE = true) : (term.order a c).isLE = true := by
  obtain ⟨key, direction⟩ := term
  cases direction with
  | ascending =>
    refine (Value.keyOrder_isLE_trans_iff _ _ _).2 ?_ hab hbc
    rintro ⟨hblurred, -⟩
    exact Value.not_blurred ha hb hblurred
  | descending =>
    rw [order_descending] at hab hbc ⊢
    refine (Value.keyOrder_isLE_trans_iff _ _ _).2 ?_ hbc hab
    rintro ⟨hblurred, -⟩
    exact Value.not_blurred hc hb hblurred

end SortTerm

namespace SortChain

/-- A record ties with itself by every chain. -/
theorem ties_self (chain : SortChain) (a : Record) : chain.ties a a = true := by
  rw [ties_iff]
  induction chain with
  | nil => rfl
  | cons term rest ih => rw [order, SortTerm.order_self, ih, Ordering.eq_then]

/-- Exchanged records are ordered the other way around by every chain. -/
theorem order_swap (chain : SortChain) (a b : Record) :
    chain.order b a = (chain.order a b).swap := by
  induction chain with
  | nil => rfl
  | cons term rest ih => rw [order, order, SortTerm.order_swap, ih, Ordering.swap_then]

/-- A chain preorders the records for which each of its keys reads values of one kind. -/
theorem preordersOn_of_terms {chain : SortChain} {P : Record → Prop}
    (hterms : ∀ term ∈ chain, ∃ kind, ∀ r, P r → (term.key.read r).Conforms kind) :
    chain.PreordersOn P := by
  induction chain with
  | nil => exact ⟨fun _ _ => rfl, fun _ _ _ _ => rfl, fun _ _ _ _ _ _ _ _ => rfl⟩
  | cons term rest ih =>
    obtain ⟨kind, hkind⟩ := hterms term List.mem_cons_self
    -- The order of a chain is the lexicographic product of its first term and the rest.
    have hterm : Std.TransCmp fun (a b : Subtype P) => term.order a b :=
      { eq_swap {a b} := term.order_swap b a
        isLE_trans {a b c} := SortTerm.order_isLE_trans (hkind a a.2) (hkind b b.2) (hkind c c.2) }
    have hrest := (ih fun t ht => hterms t (List.mem_cons_of_mem term ht)).transCmp
    have hboth : Std.TransCmp fun (a b : Subtype P) => order (term :: rest) a b :=
      inferInstanceAs (Std.TransCmp (compareLex (fun (a b : Subtype P) => term.order a b)
        fun a b => order rest a b))
    constructor
    case refl =>
      intro a _
      exact ties_iff.1 (ties_self (term :: rest) a)
    case swap =>
      intro a b _ _
      exact order_swap (term :: rest) a b
    case trans =>
      intro a b c ha hb hc
      exact @Std.TransCmp.isLE_trans _ _ hboth ⟨a, ha⟩ ⟨b, hb⟩ ⟨c, hc⟩

/-- Sorting by a chain of two parts is sorting by the second one first and by the first one then. -/
theorem sort_append {xs ys : SortChain} {P : Record → Prop} (hboth : PreordersOn (xs ++ ys) P)
    (hxs : xs.PreordersOn P) (hys : ys.PreordersOn P) {records : List Record}
    (hrecords : ∀ r ∈ records, P r) : sort (xs ++ ys) records = sort xs (sort ys records) := by
  have hfirst := sorts_sort hys hrecords
  have hsecond := sorts_sort hxs fun r hr => hrecords r (hfirst.perm.mem_iff.1 hr)
  exact (sorts_iff_eq_sort hboth hrecords).1 (hfirst.append (ties_self xs) hsecond)

end SortChain

/-! ### What compiled keys read -/

/-- A path that crosses no collection ends on a field that its access reads. -/
theorem FieldPath.Typed.fieldAt?_access {catalog : Catalog} {schema : Schema} {path : FieldPath}
    (typed : path.Typed catalog schema) (hdirect : path.isExistential = false) :
    catalog.fieldAt? schema path.access = some path.last := by
  induction typed with
  | leaf found => exact found
  | @nested schema field entity rest found kind typed ih =>
    have hrest := ih hdirect
    obtain ⟨name, names, haccess⟩ := Catalog.exists_cons_of_fieldAt? hrest
    rw [haccess] at hrest
    rw [access, haccess, Catalog.fieldAt?, found]
    simp only [Option.bind_some, kind, Kind.entity?]
    exact hrest
  | each found kind typed ih => cases hdirect

/-- A JSON path reads null or a text. -/
theorem JsonPath.conforms_value (path : JsonPath) (r : Record) :
    (path.value r).Conforms .string := by
  unfold value
  cases path.text? r with
  | some s => exact .scalar rfl
  | none => exact .null _

namespace Context

variable {ctx : Context} {schema : Schema} {layouts : Layouts}

/-- For records that fit their layouts a compiled key, if it is no key of its own, reads values of
one kind. -/
theorem conforms_of_compileKey (hcatalog : ctx.catalog = layouts.catalog) {entity : Entity}
    {sort : SortDescriptor} {key : SortKey}
    (h : ctx.compileKey (ctx.catalog.schema entity) sort = .ok key)
    (plain : ∀ hook, key ≠ .custom hook) :
    ∃ kind, ∀ r : Record, r.IsOf layouts entity → (key.read r).Conforms kind := by
  obtain ⟨-, path, -, ⟨hook, -, rfl⟩ | ⟨target, -, rfl⟩ | ⟨resolved, hresolved, hdirect, -, rfl⟩⟩ :=
    compileKey_eq_ok h
  · exact absurd rfl (plain hook)
  · refine ⟨.string, ?_⟩
    intro r _
    exact JsonPath.conforms_value target r
  · refine ⟨resolved.last.kind, ?_⟩
    rintro r ⟨rfl, hfits⟩
    have reads := (FieldPath.typed_of_resolve hresolved).fieldAt?_access hdirect
    rw [hcatalog] at reads
    exact Access.conforms_read hfits reads

/-- Descriptors that are put together compile to the chains of both put together. -/
theorem compileSorts_append (xs ys : List SortDescriptor) :
    ctx.compileSorts schema (xs ++ ys) =
      ctx.compileSorts schema xs >>= fun earlier =>
        (ctx.compileSorts schema ys).map fun later => earlier ++ later := by
  induction xs with
  | nil =>
    rw [List.nil_append]
    cases ctx.compileSorts schema ys <;> rfl
  | cons sort xs ih =>
    rw [List.cons_append, compileSorts, compileSorts, ih]
    cases ctx.lenient ((ctx.compileKey schema sort).map fun key =>
      some (⟨key, sort.direction⟩ : SortTerm)) with
    | error e => rfl
    | ok term =>
      cases ctx.compileSorts schema xs with
      | error e => rfl
      | ok earlier =>
        cases ctx.compileSorts schema ys with
        | error e => rfl
        | ok later => simp [bind, Except.bind, Except.map, pure, Except.pure]

/-- Compiled keys, none of them a key of its own, preorder the records of the entity. -/
theorem preordersOn_of_compileSorts (hcatalog : ctx.catalog = layouts.catalog) {entity : Entity}
    {sorts : List SortDescriptor} {chain : SortChain}
    (h : ctx.compileSorts (ctx.catalog.schema entity) sorts = .ok chain)
    (plain : ∀ term ∈ chain, ∀ hook, term.key ≠ .custom hook) :
    chain.PreordersOn (Record.IsOf layouts entity) := by
  refine SortChain.preordersOn_of_terms ?_
  intro term hterm
  obtain ⟨sort, -, hkey, -⟩ := exists_of_mem_compileSorts h term hterm
  exact conforms_of_compileKey hcatalog hkey (plain term hterm)

end Context

/-! ### Sorting by compiled keys -/

namespace Engine

variable {engine : Engine} {layouts : Layouts} {entity : Entity}

/-- Records are sorted by the chain that the keys compile to. -/
theorem applySorts_eq {sorts : List SortDescriptor} {chain : SortChain}
    (h : engine.context.compileSorts (engine.schema entity) sorts = .ok chain)
    (records : List Record) :
    engine.applySorts entity sorts records = .ok (chain.sort records) := by
  unfold applySorts
  rw [h]
  rfl

/-- Sort keys that compile, none of them a key of its own, preorder the records of the entity.
Sorting gives the one list that holds the records in this order and keeps the order of those that
tie.  Keys that are cut in two sort by the second part first and by the first part then; so the
second part decides only where the first one ties. -/
theorem stable_applySorts (hcatalog : engine.context.catalog = layouts.catalog)
    {sorts : List SortDescriptor} {chain : SortChain}
    (hchain : engine.context.compileSorts (engine.schema entity) sorts = .ok chain)
    (plain : ∀ term ∈ chain, ∀ hook, term.key ≠ .custom hook) :
    chain.PreordersOn (Record.IsOf layouts entity) ∧
      ∀ records : List Record, (∀ r ∈ records, r.IsOf layouts entity) →
        engine.applySorts entity sorts records = .ok (chain.sort records) ∧
          (∀ sorted, engine.applySorts entity sorts records = .ok sorted ↔
            chain.Sorts records sorted) ∧
          ∀ xs ys, sorts = xs ++ ys →
            (engine.applySorts entity ys records >>= engine.applySorts entity xs) =
                engine.applySorts entity sorts records ∧
              ∃ earlier, engine.context.compileSorts (engine.schema entity) xs = .ok earlier ∧
                ∀ a b, earlier.ties a b = false → chain.order a b = earlier.order a b := by
  have preorders := Context.preordersOn_of_compileSorts hcatalog hchain plain
  refine ⟨preorders, ?_⟩
  intro records hrecords
  have happly := applySorts_eq hchain records
  refine ⟨happly, ?_, ?_⟩
  · intro sorted
    rw [happly, SortChain.sorts_iff_eq_sort preorders hrecords]
    exact ⟨Except.ok.inj, congrArg _⟩
  · rintro xs ys rfl
    have hparts := hchain
    rw [Context.compileSorts_append] at hparts
    obtain ⟨earlier, hxs, hparts⟩ := Outcome.bind_eq_ok.1 hparts
    obtain ⟨later, hys, rfl⟩ := Outcome.map_eq_ok.1 hparts
    have hearlier := Context.preordersOn_of_compileSorts hcatalog hxs
      fun term hterm => plain term (List.mem_append_left later hterm)
    have hlater := Context.preordersOn_of_compileSorts hcatalog hys
      fun term hterm => plain term (List.mem_append_right earlier hterm)
    refine ⟨?_, earlier, hxs, fun a b => SortChain.order_append_of_not_ties⟩
    rw [happly, applySorts_eq hys, SortChain.sort_append preorders hearlier hlater hrecords]
    exact applySorts_eq hxs (later.sort records)

/-! ### Runners and their coaches -/

/-- A runner, who may have another one as a coach. -/
def runner : Entity := ⟨0, "Runner"⟩

/-- The fields of a runner. -/
def runnerLayout : Layouts := fun _ =>
  { fields := [
      { name := "name", type := .string },
      { name := "pace", type := .float },
      { name := "info", type := .json },
      { name := "coach", type := .option (.box (.record runner)) }] }

/-- An engine for runners that restricts nothing. -/
def race : Engine := { context := ⟨runnerLayout.catalog, .empty, {}⟩ }

/-- A runner with a pace, a club and a coach, if there is one. -/
def runnerOf (identity : Nat) (name : String) (pace : Double) (club : Json) (coach : Stored) :
    Record where
  identity := identity
  entity := runner
  access := .inPlace
  fields := [("name", .scalar (.string name)), ("pace", .scalar (.number (.float pace))),
    ("info", .json (.object [("club", club)])), ("coach", coach)]

/-- A runner without a coach, whose pace is no number. -/
def mo : Record := runnerOf 1 "Mo" .nan .null .absent

/-- A runner without a club, whose coach has no pace. -/
def seb : Record :=
  runnerOf 2 "Seb" (.zero false) .null (.present (.boxed (.record 1 runner .inPlace mo.fields)))

/-- A runner with a club, whose coach has one. -/
def jo : Record :=
  runnerOf 3 "Jo" (.zero true) (.string "Harriers")
    (.present (.boxed (.record 2 runner .inPlace seb.fields)))

/-- The pace of the coach from the last to the first, and then the club.  The second key names no
field, so that it is skipped. -/
def byCoach : List SortDescriptor :=
  [{ field := "Coach.pace", direction := .descending }, { field := "shoes" },
    { field := "info.club", json := true }]

/-- Runners are sorted by the pace of their coach, a missing coach first, and by their club where
that ties. -/
theorem stable_race :
    ∃ chain, race.context.compileSorts (race.schema runner) byCoach = .ok chain ∧
      chain.PreordersOn (Record.IsOf runnerLayout runner) ∧
        chain.Sorts [seb, jo, mo, jo, seb] [mo, seb, seb, jo, jo] ∧
          (race.applySorts runner [{ field := "info.club", json := true }]
            [seb, jo, mo, jo, seb] >>= race.applySorts runner (byCoach.take 2)) =
              race.applySorts runner byCoach [seb, jo, mo, jo, seb] := by
  have hcatalog : race.context.catalog = runnerLayout.catalog := rfl
  have hcompiled : race.context.compileSorts (race.schema runner) byCoach =
      .ok [⟨.field ["coach", "pace"], .descending⟩, ⟨.json ⟨["info"], ["club"]⟩, .ascending⟩] := rfl
  have plain : ∀ term ∈ ([⟨.field ["coach", "pace"], .descending⟩,
      ⟨.json ⟨["info"], ["club"]⟩, .ascending⟩] : SortChain), ∀ hook, term.key ≠ .custom hook := by
    simp
  have hrecords : ∀ r ∈ [seb, jo, mo, jo, seb], r.IsOf runnerLayout runner := by
    intro r hr
    simp only [List.mem_cons, List.not_mem_nil, or_false] at hr
    rcases hr with rfl | rfl | rfl | rfl | rfl <;> exact ⟨rfl, rfl⟩
  obtain ⟨preorders, hsort⟩ := stable_applySorts hcatalog hcompiled plain
  obtain ⟨-, hsorted, hsplit⟩ := hsort _ hrecords
  exact ⟨_, hcompiled, preorders, (hsorted _).1 rfl, (hsplit (byCoach.take 2) _ rfl).1⟩

end Engine

end RecordQuery
