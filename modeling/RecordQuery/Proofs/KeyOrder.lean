import RecordQuery.Proofs.Rounding
import RecordQuery.SortChain

/-!
# The order of sort keys

The order of keys is a total preorder refined by one rule (`keyOrder_eq`): keys are placed by their
type, within a type by a text or a pair of numbers, and whole numbers at the same place by their
value.  The place of a number is that of its nearest double.

The refinement breaks transitivity in exactly one situation (`Value.Blurred`), that of two different
whole numbers with a common nearest double which is a key itself: the double ties with both.
-/

namespace RecordQuery

/-- A comparison of natural numbers as whole numbers. -/
theorem compare_natCast (m n : Nat) : compare (m : Int) (n : Int) = compare m n := by
  rcases Nat.lt_trichotomy m n with h | h | h
  · rw [Nat.compare_eq_lt.2 h]
    exact Int.compare_eq_lt.2 (by omega)
  · subst h
    simp
  · rw [Nat.compare_eq_gt.2 h]
    exact Int.compare_eq_gt.2 (by omega)

/-- The order of whole numbers; what is no whole number ties with everything. -/
def wholeOrder : Option Int → Option Int → Ordering
  | some m, some n => compare m n
  | _, _ => .eq

/-- Exchanged whole numbers are compared the other way around. -/
theorem wholeOrder_swap (m n : Option Int) : wholeOrder n m = (wholeOrder m n).swap := by
  cases m with
  | none => cases n <;> rfl
  | some m =>
    cases n with
    | none => rfl
    | some n => exact Std.OrientedOrd.eq_swap

/-- A whole number ties with itself. -/
theorem wholeOrder_self (m : Option Int) : wholeOrder m m = .eq := by
  cases m with
  | none => rfl
  | some m => exact Std.ReflOrd.compare_self

/-- The strict order of whole numbers is transitive. -/
theorem wholeOrder_lt_trans {m n k : Option Int} (hmn : wholeOrder m n = .lt)
    (hnk : wholeOrder n k = .lt) : wholeOrder m k = .lt := by
  cases m with
  | none => cases hmn
  | some m =>
    cases n with
    | none => cases hmn
    | some n =>
      cases k with
      | none => cases hnk
      | some k =>
        have hmn' : compare m n = .lt := hmn
        have hnk' : compare n k = .lt := hnk
        have hmk : compare m k = .lt := Std.TransCmp.lt_trans hmn' hnk'
        exact hmk

namespace Number

/-- The value of a number that is held as a whole number. -/
def whole? : Number → Option Int
  | .signed n => some n.toInt
  | .unsigned n => some n.toNat
  | .float _ => none

/-- The place of a number: that of its nearest double, and NaN behind all others. -/
def place (n : Number) : Int × Int := if n.isNaN then (1, 0) else (0, n.toDouble.rank)

end Number

namespace Value

/-- The text of a key. -/
def text : Value → String
  | .scalar (.string s) => s
  | _ => ""

/-- The place of a key among the keys of its type, apart from texts. -/
def place : Value → Int × Int
  | .scalar (.number n) => n.place
  | .scalar (.bool b) => (b.toNat, 0)
  | .scalar (.uuid u) => (u.word.toNat, 0)
  | .scalar (.dateTime t) => (t.seconds, t.nanos)
  | .scalar (.date d) => (d.day, 0)
  | .scalar (.time t) => (t.seconds, t.nanos)
  | .scalar (.duration d) => (d.nanoseconds, 0)
  | .scalar (.enumeration index) => (index, 0)
  | _ => (0, 0)

/-- The value of a key that is held as a whole number. -/
def whole? : Value → Option Int
  | .scalar (.number n) => n.whole?
  | _ => none

/-- The order of the places of keys. -/
def placeOrder : Value → Value → Ordering :=
  compareLex (compareOn typeRank)
    (compareLex (compareOn text)
      (compareLex (compareOn fun v => v.place.1) (compareOn fun v => v.place.2)))

instance : Std.TransCmp placeOrder :=
  inferInstanceAs (Std.TransCmp (compareLex (compareOn typeRank) _))

end Value

namespace Number

variable {x y : Number} {m n : Int}

/-- A whole number is compared with doubles as the one nearest to it. -/
theorem toDouble_of_whole? (h : x.whole? = some m) : x.toDouble = Double.ofInt m := by
  cases x with
  | signed k | unsigned k =>
    cases h
    rfl
  | float d => cases h

/-- A number is NaN exactly when its nearest double is. -/
theorem isNaN_toDouble (x : Number) : x.toDouble.isNaN = x.isNaN := by
  cases x with
  | signed k | unsigned k => exact Double.isNaN_ofInt _
  | float d => rfl

/-- Whole numbers compare by value. -/
theorem order?_of_whole? (hx : x.whole? = some m) (hy : y.whole? = some n) :
    x.order? y = some (compare m n) := by
  cases x with
  | signed k =>
    cases hx
    cases y with
    | signed l | unsigned l =>
      cases hy
      rfl
    | float d => cases hy
  | unsigned k =>
    cases hx
    cases y with
    | signed l =>
      cases hy
      rfl
    | unsigned l =>
      cases hy
      rw [compare_natCast]
      rfl
    | float d => cases hy
  | float d => cases hx

/-- A comparison with a double is one of doubles. -/
theorem order?_of_not_whole? (h : x.whole? = none ∨ y.whole? = none) :
    x.order? y = x.toDouble.compare? y.toDouble := by
  cases x with
  | signed k | unsigned k =>
    cases y with
    | signed l | unsigned l => rcases h with h | h <;> cases h
    | float d => rfl
  | float d => cases y <;> rfl

/-- NaN is no whole number. -/
theorem whole?_of_isNaN (h : x.isNaN = true) : x.whole? = none := by
  cases x with
  | signed k | unsigned k => cases h
  | float d => rfl

/-- A double is at the place of a whole number when it is the nearest one to it. -/
theorem place_eq_float_iff (hx : x.whole? = some m) {d : Double} :
    x.place = (Number.float d).place ↔ d.same (Double.ofInt m) = true := by
  have hnumber : x.isNaN = false := by
    rw [← isNaN_toDouble, toDouble_of_whole? hx]
    exact Double.isNaN_ofInt m
  have hplace : x.place = (0, (Double.ofInt m).rank) := by
    unfold place
    rw [hnumber, toDouble_of_whole? hx]
    rfl
  have hfloat : (Number.float d).place = if d.isNaN then (1, 0) else (0, d.rank) := rfl
  rw [hplace, hfloat]
  unfold Double.same
  cases hd : d.isNaN with
  | true =>
    rw [Double.compare?_eq_none.2 (Or.inl hd)]
    simp
  | false =>
    rw [Double.compare?_of_not_isNaN hd (Double.isNaN_ofInt m)]
    simp only [Bool.false_eq_true, if_false, Prod.mk.injEq, true_and, beq_iff_eq,
      Option.some.injEq, Int.compare_eq_eq]
    exact eq_comm

/-- Numbers are ordered by their places, and whole numbers at one place by value. -/
theorem keyOrder_eq (x y : Number) :
    x.keyOrder y =
      ((compare x.place.1 y.place.1).then (compare x.place.2 y.place.2)).then
        (wholeOrder x.whole? y.whole?) := by
  unfold keyOrder place
  cases hx : x.isNaN with
  | true =>
    rw [whole?_of_isNaN hx]
    cases y.isNaN <;> rfl
  | false =>
    cases hy : y.isNaN with
    | true =>
      rw [whole?_of_isNaN hy]
      cases x.whole? <;> rfl
    | false =>
      have hcompare := Double.compare?_of_not_isNaN ((isNaN_toDouble x).trans hx)
        ((isNaN_toDouble y).trans hy)
      cases hm : x.whole? with
      | none =>
        rw [order?_of_not_whole? (Or.inl hm), hcompare]
        exact Ordering.then_eq.symm
      | some m =>
        cases hn : y.whole? with
        | none =>
          rw [order?_of_not_whole? (Or.inr hn), hcompare]
          exact Ordering.then_eq.symm
        | some n =>
          rw [order?_of_whole? hm hn, toDouble_of_whole? hm, toDouble_of_whole? hn]
          exact (Double.compare_rank_ofInt_then m n).symm

end Number

namespace Value

/-- Keys are ordered by their places, and whole numbers at one place by value. -/
theorem keyOrder_eq (a b : Value) :
    a.keyOrder b = (placeOrder a b).then (wholeOrder a.whole? b.whole?) := by
  have hplace : placeOrder a b =
      (compare a.typeRank b.typeRank).then ((compare a.text b.text).then
        ((compare a.place.1 b.place.1).then (compare a.place.2 b.place.2))) := rfl
  rw [hplace]
  cases a with
  | scalar s =>
    cases b with
    | scalar t =>
      -- Keys of different types are told apart by their types, whatever they are.
      cases s <;> cases t <;> first
        | rfl
        | simp [keyOrder, order?, Scalar.order?, typeRank, text, place, wholeOrder, whole?,
            compare_natCast, DateTime.order, Time.order, Number.keyOrder_eq]
    | json _ | record _ | list _ => cases s <;> rfl
  | json _ | record _ | list _ =>
    cases b with
    | scalar t => cases t <;> rfl
    | json _ | record _ | list _ => rfl

/-! ### Laws of the order -/

variable {a b c : Value}

/-- Keys at one place have one type and one place within it. -/
theorem place_eq_of_placeOrder (h : placeOrder a b = .eq) :
    a.typeRank = b.typeRank ∧ a.place = b.place := by
  unfold placeOrder at h
  obtain ⟨htype, h⟩ := compareLex_eq_eq.1 h
  obtain ⟨-, h⟩ := compareLex_eq_eq.1 h
  obtain ⟨hfst, hsnd⟩ := compareLex_eq_eq.1 h
  exact ⟨Std.LawfulEqOrd.eq_of_compare htype,
    Prod.ext (Std.LawfulEqOrd.eq_of_compare hfst) (Std.LawfulEqOrd.eq_of_compare hsnd)⟩

/-- A key ties with itself. -/
theorem keyOrder_self (a : Value) : a.keyOrder a = .eq := by
  have hplace : placeOrder a a = .eq := Std.ReflCmp.compare_self
  rw [keyOrder_eq, wholeOrder_self, hplace]
  rfl

/-- Exchanged keys are ordered the other way around. -/
theorem keyOrder_swap (a b : Value) : b.keyOrder a = (a.keyOrder b).swap := by
  have hplace : placeOrder b a = (placeOrder a b).swap := Std.OrientedCmp.eq_swap
  rw [keyOrder_eq, keyOrder_eq, Ordering.swap_then, ← wholeOrder_swap, ← hplace]

/-- A strict order of keys is transitive. -/
theorem keyOrder_lt_trans (hab : a.keyOrder b = .lt) (hbc : b.keyOrder c = .lt) :
    a.keyOrder c = .lt := by
  rw [keyOrder_eq, Ordering.then_eq_lt] at hab hbc ⊢
  rcases hab with hab | ⟨hab, hwhole⟩
  · rcases hbc with hbc | ⟨hbc, -⟩
    · exact Or.inl (Std.TransCmp.lt_trans hab hbc)
    · exact Or.inl (Std.TransCmp.lt_of_lt_of_eq hab hbc)
  · rcases hbc with hbc | ⟨hbc, hwhole'⟩
    · exact Or.inl (Std.TransCmp.lt_of_eq_of_lt hab hbc)
    · -- All three are at one place, so the values decide twice.
      refine Or.inr ⟨Std.TransCmp.eq_trans hab hbc, ?_⟩
      exact wholeOrder_lt_trans hwhole hwhole'

/-- Two whole numbers of different value, and a double that is the nearest one to both. -/
def Blurred (a b c : Value) : Prop :=
  ∃ m n x, a.whole? = some m ∧ c.whole? = some n ∧ m ≠ n ∧ b = .scalar (.number (.float x)) ∧
    x.same (Double.ofInt m) = true ∧ x.same (Double.ofInt n) = true

/-- The two whole numbers may be exchanged. -/
theorem Blurred.symm (h : Blurred a b c) : Blurred c b a := by
  obtain ⟨m, n, x, ha, hc, hne, hb, hm, hn⟩ := h
  exact ⟨n, m, x, hc, ha, hne.symm, hb, hn, hm⟩

theorem blurred_comm : Blurred a b c ↔ Blurred c b a := ⟨Blurred.symm, Blurred.symm⟩

/-- A whole number is a number. -/
theorem eq_number_of_whole? {m : Int} (h : a.whole? = some m) :
    ∃ x : Number, a = .scalar (.number x) ∧ x.whole? = some m := by
  unfold whole? at h
  split at h
  · next x => exact ⟨x, rfl, h⟩
  · cases h

/-- A number that is no whole number is a double. -/
theorem eq_float_of_typeRank (htype : a.typeRank = 1) (hwhole : a.whole? = none) :
    ∃ d, a = .scalar (.number (.float d)) := by
  cases a with
  | scalar s =>
    cases s with
    | number x =>
      cases x with
      | signed k | unsigned k => cases hwhole
      | float d => exact ⟨d, rfl⟩
    | _ => cases htype
  | json _ | record _ | list _ => cases htype

/-- A whole number and a double are at one place when the double is the nearest one. -/
theorem placeOrder_float_iff {m : Int} (ha : a.whole? = some m) {d : Double} :
    placeOrder a (.scalar (.number (.float d))) = .eq ↔ d.same (Double.ofInt m) = true := by
  obtain ⟨x, rfl, hx⟩ := eq_number_of_whole? ha
  rw [← Number.place_eq_float_iff hx]
  constructor
  · intro h
    exact (place_eq_of_placeOrder h).2
  · intro h
    have hfst : compare x.place.1 (Number.float d).place.1 = .eq := by
      rw [h, Std.ReflOrd.compare_self]
    have hsnd : compare x.place.2 (Number.float d).place.2 = .eq := by
      rw [h, Std.ReflOrd.compare_self]
    exact compareLex_eq_eq.2 ⟨rfl, compareLex_eq_eq.2 ⟨rfl, compareLex_eq_eq.2 ⟨hfst, hsnd⟩⟩⟩

/-- A double that blurs two whole numbers is at the place of both. -/
theorem Blurred.placeOrder_eq (h : Blurred a b c) :
    placeOrder a b = .eq ∧ placeOrder b c = .eq := by
  obtain ⟨m, n, x, ha, hc, -, rfl, hm, hn⟩ := h
  exact ⟨(placeOrder_float_iff ha).2 hm,
    Std.OrientedCmp.eq_symm ((placeOrder_float_iff hc).2 hn)⟩

/-- A double that blurs two whole numbers ties with both, and they do not tie. -/
theorem Blurred.keyOrder (h : Blurred a b c) :
    a.keyOrder b = .eq ∧ b.keyOrder c = .eq ∧ a.keyOrder c ≠ .eq := by
  obtain ⟨hab, hbc⟩ := h.placeOrder_eq
  obtain ⟨m, n, x, ha, hc, hne, rfl, -, -⟩ := h
  have hnone : (Value.scalar (.number (.float x))).whole? = none := rfl
  rw [keyOrder_eq, keyOrder_eq, keyOrder_eq, hab, hbc, Std.TransCmp.eq_trans hab hbc, ha, hc, hnone]
  refine ⟨rfl, rfl, ?_⟩
  intro htie
  exact hne (Int.compare_eq_eq.1 htie)

/-- Where the order of keys fails to be transitive, the three keys are at one place: places are
ordered. -/
theorem placeOrder_eq_of_gt (hab : (a.keyOrder b).isLE = true) (hbc : (b.keyOrder c).isLE = true)
    (hac : a.keyOrder c = .gt) :
    (placeOrder a b = .eq ∧ (wholeOrder a.whole? b.whole?).isLE = true) ∧
      (placeOrder b c = .eq ∧ (wholeOrder b.whole? c.whole?).isLE = true) ∧
        wholeOrder a.whole? c.whole? = .gt := by
  rw [keyOrder_eq, Ordering.isLE_then_iff_or] at hab hbc
  rw [keyOrder_eq, Ordering.then_eq_gt] at hac
  rcases hab with hab | hab
  · have hlt : placeOrder a c = .lt := by
      rcases hbc with hbc | hbc
      · exact Std.TransCmp.lt_trans hab hbc
      · exact Std.TransCmp.lt_of_lt_of_eq hab hbc.1
    rw [hlt] at hac
    simp at hac
  · rcases hbc with hbc | hbc
    · have hlt : placeOrder a c = .lt := Std.TransCmp.lt_of_eq_of_lt hab.1 hbc
      rw [hlt] at hac
      simp at hac
    · have heq : placeOrder a c = .eq := Std.TransCmp.eq_trans hab.1 hbc.1
      rw [heq] at hac
      refine ⟨hab, hbc, ?_⟩
      simpa using hac

/-- Only a double between two whole numbers that it blurs breaks the order. -/
theorem blurred_of_gt (hab : (a.keyOrder b).isLE = true) (hbc : (b.keyOrder c).isLE = true)
    (hac : a.keyOrder c = .gt) : Blurred a b c := by
  obtain ⟨⟨hplaceab, hwab⟩, ⟨hplacebc, hwbc⟩, hwac⟩ := placeOrder_eq_of_gt hab hbc hac
  cases ha : a.whole? with
  | none =>
    rw [ha] at hwac
    cases hwac
  | some m =>
    cases hc : c.whole? with
    | none =>
      rw [ha, hc] at hwac
      cases hwac
    | some n =>
      rw [ha, hc] at hwac
      have hmn : compare m n = .gt := hwac
      have hnone : b.whole? = none := by
        cases hb : b.whole? with
        | none => rfl
        | some k =>
          -- A whole number in between would be ordered by its value.
          rw [ha, hb] at hwab
          rw [hb, hc] at hwbc
          have hle : (compare m n).isLE = true := Std.TransCmp.isLE_trans hwab hwbc
          rw [hmn] at hle
          cases hle
      obtain ⟨x, rfl, -⟩ := eq_number_of_whole? ha
      have htype : b.typeRank = 1 := (place_eq_of_placeOrder hplaceab).1.symm
      obtain ⟨d, rfl⟩ := eq_float_of_typeRank htype hnone
      refine ⟨m, n, d, ha, hc, ?_, rfl, (placeOrder_float_iff ha).1 hplaceab,
        (placeOrder_float_iff hc).1 (Std.OrientedCmp.eq_symm hplacebc)⟩
      rintro rfl
      rw [Std.ReflOrd.compare_self] at hmn
      cases hmn

/-- The order of keys is transitive at three keys unless the one in the middle blurs the others and
these are in the wrong order. -/
theorem keyOrder_isLE_trans_iff (a b c : Value) :
    ((a.keyOrder b).isLE = true → (b.keyOrder c).isLE = true → (a.keyOrder c).isLE = true) ↔
      ¬ (Blurred a b c ∧ a.keyOrder c = .gt) := by
  constructor
  · rintro htrans ⟨hblurred, hgt⟩
    obtain ⟨hab, hbc, -⟩ := hblurred.keyOrder
    have hle := htrans (by rw [hab]; rfl) (by rw [hbc]; rfl)
    rw [hgt] at hle
    cases hle
  · intro hsharp hab hbc
    cases hac : a.keyOrder c with
    | lt => rfl
    | eq => rfl
    | gt => exact absurd ⟨blurred_of_gt hab hbc hac, hac⟩ hsharp

/-- Ties are transitive at three keys unless the one in the middle blurs the others. -/
theorem keyOrder_eq_trans_iff (a b c : Value) :
    (a.keyOrder b = .eq → b.keyOrder c = .eq → a.keyOrder c = .eq) ↔ ¬ Blurred a b c := by
  constructor
  · intro htrans hblurred
    obtain ⟨hab, hbc, hac⟩ := hblurred.keyOrder
    exact hac (htrans hab hbc)
  · intro hsharp hab hbc
    cases hac : a.keyOrder c with
    | eq => rfl
    | gt => exact absurd (blurred_of_gt (by rw [hab]; rfl) (by rw [hbc]; rfl) hac) hsharp
    | lt =>
      -- The same argument from the other end.
      have hba : b.keyOrder a = .eq := by rw [keyOrder_swap, hab]; rfl
      have hcb : c.keyOrder b = .eq := by rw [keyOrder_swap, hbc]; rfl
      have hca : c.keyOrder a = .gt := by rw [keyOrder_swap, hac]; rfl
      exact absurd (blurred_of_gt (by rw [hcb]; rfl) (by rw [hba]; rfl) hca).symm hsharp

end Value

/-! ### Terms of a chain -/

namespace SortTerm

/-- The key of one record is a double that blurs the keys of two others. -/
def Blurs (term : SortTerm) (a b c : Record) : Prop :=
  Value.Blurred (term.key.read a) (term.key.read b) (term.key.read c)

/-- A descending term is the ascending one with the records exchanged. -/
theorem order_descending (key : SortKey) (a b : Record) :
    order ⟨key, .descending⟩ a b = (key.read b).keyOrder (key.read a) :=
  (Value.keyOrder_swap _ _).symm

/-- The order of records by one term, in either direction, is reflexive and antisymmetric, its
strict part is transitive, and it is transitive with ties exactly where no key blurs two others. -/
theorem order_laws (term : SortTerm) (a b c : Record) :
    term.order a a = .eq ∧ term.order b a = (term.order a b).swap ∧
      (term.order a b = .lt → term.order b c = .lt → term.order a c = .lt) ∧
      (((term.order a b).isLE = true → (term.order b c).isLE = true →
          (term.order a c).isLE = true) ↔ ¬ (term.Blurs a b c ∧ term.order a c = .gt)) ∧
      ((term.order a b = .eq → term.order b c = .eq → term.order a c = .eq) ↔
        ¬ term.Blurs a b c) := by
  obtain ⟨key, direction⟩ := term
  cases direction with
  | ascending =>
    exact ⟨Value.keyOrder_self _, Value.keyOrder_swap _ _, Value.keyOrder_lt_trans,
      Value.keyOrder_isLE_trans_iff _ _ _, Value.keyOrder_eq_trans_iff _ _ _⟩
  | descending =>
    simp only [order_descending, Blurs]
    refine ⟨Value.keyOrder_self _, Value.keyOrder_swap _ _, ?_, ?_, ?_⟩
    · intro hab hbc
      exact Value.keyOrder_lt_trans hbc hab
    · rw [imp.swap, Value.keyOrder_isLE_trans_iff, Value.blurred_comm]
    · rw [imp.swap, Value.keyOrder_eq_trans_iff, Value.blurred_comm]

/-! ### A key that blurs two others -/

/-- An entity that is sorted by a key of its own. -/
def parcel : Entity := ⟨0, "Parcel"⟩

/-- A parcel, told apart by its number. -/
def parcelAt (number : Nat) : Record := ⟨number, parcel, .inPlace, []⟩

/-- A sort key of whole numbers around `2 ^ 53`, and of the double that is nearest to both. -/
def weight : SortHook where
  name := "weight"
  entity := parcel
  registration := 0
  keyOf r :=
    match r.identity with
    | 0 => .number (.signed 9007199254740993)
    | 1 => .number (.float (.ofBits 0x4340000000000000))
    | _ => .number (.signed 9007199254740992)

/-- The double ties with both whole numbers, and these are told apart. -/
theorem order_weight :
    order ⟨.custom weight, .ascending⟩ (parcelAt 0) (parcelAt 1) = .eq ∧
      order ⟨.custom weight, .ascending⟩ (parcelAt 1) (parcelAt 2) = .eq ∧
        order ⟨.custom weight, .ascending⟩ (parcelAt 0) (parcelAt 2) = .gt := by
  decide +kernel

end SortTerm

end RecordQuery
