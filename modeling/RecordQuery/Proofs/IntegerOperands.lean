import RecordQuery.Coercion
import RecordQuery.Proofs.DoubleValue

/-!
# Whole numbers as operands

Which words the coercions to whole numbers give for a JSON number is known from its value and from
whether it is written as a whole number (`int?_number_eq_some_iff`, `uint?_number_eq_some_iff`).

With sign, all whole numbers that fit 64 bits become themselves, however they are written.  Those
from `2 ^ 63` up to 1024 above it pass as well, for `2 ^ 63` is the double nearest to them, and
become the largest word (`Coercion.isExact_iff`).  Without sign a double goes through a word with
sign, so above `2 ^ 63` only what is written as a whole number is accepted
(`Coercion.isOk_of_value`).
-/

namespace RecordQuery

open Double (limit)

namespace Numeral

/-- The value of a number. -/
def value : Numeral → ℚ
  | .integer n _ => n
  | .float x => x.value

/-- The number has a value: it is no infinity and not NaN. -/
def isFinite : Numeral → Bool
  | .integer _ _ => true
  | .float x => x.isFinite

/-- The number is written as a whole number. -/
def isInteger : Numeral → Bool
  | .integer _ _ => true
  | .float _ => false

end Numeral

namespace Coercion

/-! ### Words -/

/-- A whole number that reaches no further down than the words with sign, held to the largest of
them, is a word. -/
theorem toInt_ofInt_min {m : Int} (hlow : -limit ≤ m) :
    (Int64.ofInt (min m (limit - 1))).toInt = min m (limit - 1) := by
  have hlimit : limit = 2 ^ 63 := rfl
  exact Int64.toInt_ofInt_of_le (by omega) (by omega)

/-- A whole number that is not negative and fits is a word without sign. -/
theorem toNat_ofNat_toNat {m : Int} (hnonneg : 0 ≤ m) (hlt : m < 2 ^ 64) :
    ((UInt64.ofNat m.toNat).toNat : Int) = m := by
  have hsize : UInt64.size = 2 ^ 64 := rfl
  rw [UInt64.toNat_ofNat_of_lt' (by omega)]
  exact Int.toNat_of_nonneg hnonneg

/-- A double between the bounds becomes its value, the bound above the word below it. -/
theorem whole?_eq_some_iff {x : Double} {i : Int64} :
    whole? x = some i ↔ x.isFinite = true ∧ ∃ m : Int, x.value = m ∧ -limit ≤ m ∧ m ≤ limit ∧
      i.toInt = min m (limit - 1) := by
  have hmin : Int64.minValue.toInt = -limit := Int64.toInt_minValue
  have hmax : Int64.maxValue.toInt = limit - 1 := Int64.toInt_maxValue
  unfold whole?
  rw [hmin, hmax, Int.sub_add_cancel]
  constructor
  · intro h
    split at h
    · next m hm =>
      obtain ⟨hfinite, hvalue⟩ := Double.toInt?_eq_some_iff.1 hm
      split at h
      · next hbounds =>
        cases h
        simp only [Bool.and_eq_true, decide_eq_true_eq] at hbounds
        exact ⟨hfinite, m, hvalue, hbounds.1, hbounds.2, toInt_ofInt_min hbounds.1⟩
      · cases h
    · cases h
  · rintro ⟨hfinite, m, hvalue, hlow, hhigh, hword⟩
    rw [Double.toInt?_eq_some_iff.2 ⟨hfinite, hvalue⟩]
    dsimp only
    rw [decide_eq_true hlow, decide_eq_true hhigh, Bool.and_self, if_pos rfl, Option.some.injEq,
      ← Int64.toInt_inj, hword, toInt_ofInt_min hlow]

/-- A word without sign for one that is not negative. -/
theorem nonNegative?_eq_some_iff {i : Int64} {k : UInt64} :
    nonNegative? i = some k ↔ (k.toNat : Int) = i.toInt := by
  have hlt := i.toInt_lt
  unfold nonNegative?
  by_cases hi : 0 ≤ i.toInt
  · have hword := toNat_ofNat_toNat hi (by omega)
    rw [if_pos hi, Option.some.injEq, ← UInt64.toNat_inj]
    omega
  · rw [if_neg hi]
    refine iff_of_false (by simp) ?_
    omega

/-! ### Numbers written as whole numbers -/

section Integer

variable {n : Int} {inRange : Int64.minValue.toInt ≤ n ∧ n < UInt64.size}

/-- With sign a whole number becomes itself, and up to 1024 above the bound the largest word. -/
theorem int?_integer_eq_some_iff {i : Int64} :
    int? (.number (.integer n inRange)) = some i ↔
      n ≤ limit + 1024 ∧ i.toInt = min n (limit - 1) := by
  have hlimit : limit = 2 ^ 63 := rfl
  have hmin : Int64.minValue.toInt = -2 ^ 63 := Int64.toInt_minValue
  have hmax : Int64.maxValue.toInt = 2 ^ 63 - 1 := Int64.toInt_maxValue
  unfold int? Numeral.toInt64?
  dsimp only [Numeral.toDouble]
  by_cases hfits : n ≤ Int64.maxValue.toInt
  · rw [if_pos hfits, Option.some_or, Option.some.injEq, ← Int64.toInt_inj,
      Int64.toInt_ofInt_of_le (by omega) (by omega)]
    omega
  · rw [if_neg hfits, Option.none_or, whole?_eq_some_iff]
    rcases Int.lt_or_le (limit + 1024) n with hfar | hnear
    · -- What does not round to the bound is a double above it.
      have habove := Double.limit_lt_value_ofInt hfar
      refine iff_of_false ?_ (by omega)
      rintro ⟨-, m, hm, -, hhigh, -⟩
      rw [hm, Int.cast_lt] at habove
      omega
    · rw [Double.ofInt_eq_limit (by omega) hnear, Double.value_ofInt_limit,
        Double.isFinite_ofInt_limit]
      simp only [Int.cast_inj, exists_eq_left', true_and]
      omega

/-- Without sign a whole number becomes itself. -/
theorem uint?_integer_eq_some_iff {k : UInt64} :
    uint? (.number (.integer n inRange)) = some k ↔ (k.toNat : Int) = n := by
  have hsize : UInt64.size = 2 ^ 64 := rfl
  unfold uint? Numeral.toUInt64?
  dsimp only [Numeral.toDouble]
  rcases Int.lt_or_le n 0 with hneg | hnonneg
  · -- The double nearest to a negative number is negative.
    have hbelow := Double.value_ofInt_neg hneg
    rw [if_neg (by omega), Option.none_or, Option.bind_eq_some_iff]
    refine iff_of_false ?_ (by omega)
    rintro ⟨i, hi, hk⟩
    obtain ⟨-, m, hm, -, -, him⟩ := whole?_eq_some_iff.1 hi
    have hword := nonNegative?_eq_some_iff.1 hk
    rw [hm] at hbelow
    norm_cast at hbelow
    omega
  · have hword := toNat_ofNat_toNat hnonneg (by omega)
    rw [if_pos hnonneg, Option.some_or, Option.some.injEq, ← UInt64.toNat_inj]
    omega

end Integer

/-! ### Doubles -/

/-- Without sign a double becomes its value up to the bound, and the bound the word below it. -/
theorem uint?_float_eq_some_iff {x : Double} {k : UInt64} :
    uint? (.number (.float x)) = some k ↔ x.isFinite = true ∧ ∃ m : Int, x.value = m ∧ 0 ≤ m ∧
      m ≤ limit ∧ (k.toNat : Int) = min m (limit - 1) := by
  have hlimit : limit = 2 ^ 63 := rfl
  have hwhole : uint? (.number (.float x)) = (whole? x).bind nonNegative? := rfl
  rw [hwhole, Option.bind_eq_some_iff]
  simp only [whole?_eq_some_iff, nonNegative?_eq_some_iff]
  constructor
  · rintro ⟨i, ⟨hfinite, m, hm, -, hhigh, hi⟩, hk⟩
    exact ⟨hfinite, m, hm, by omega, hhigh, by omega⟩
  · rintro ⟨hfinite, m, hm, hnonneg, hhigh, hk⟩
    have hword : (Int64.ofInt (min m (limit - 1))).toInt = min m (limit - 1) :=
      toInt_ofInt_min (by omega)
    exact ⟨_, ⟨hfinite, m, hm, by omega, hhigh, hword⟩, by omega⟩

/-! ### Numbers -/

section Number

variable {n : Numeral}

/-- With sign a number becomes its value where this is a whole number up to 1024 above the bound,
and from the bound on the largest word. -/
theorem int?_number_eq_some_iff (hfinite : n.isFinite = true) {i : Int64} :
    int? (.number n) = some i ↔ ∃ m : Int, n.value = m ∧ -limit ≤ m ∧ m ≤ limit + 1024 ∧
      i.toInt = min m (limit - 1) := by
  have hlimit : limit = 2 ^ 63 := rfl
  have hmin : Int64.minValue.toInt = -2 ^ 63 := Int64.toInt_minValue
  cases n with
  | integer n hrange =>
    simp only [int?_integer_eq_some_iff, Numeral.value, Int.cast_inj, exists_eq_left']
    omega
  | float x =>
    have hwhole : int? (.number (.float x)) = whole? x := rfl
    have hdouble : x.isFinite = true := hfinite
    rw [hwhole, whole?_eq_some_iff, and_iff_right hdouble]
    refine exists_congr fun m => and_congr_right fun hm => and_congr_right fun _ => ?_
    -- Between the bound and 1024 above it there are no doubles.
    have hgap := Double.value_le_limit_or x
    have hvalue : x.value = m := hm
    rw [hvalue] at hgap
    norm_cast at hgap
    omega

/-- Without sign a number becomes its value where this is a whole number that is not negative, but
a double only up to the bound, and the bound becomes the word below it. -/
theorem uint?_number_eq_some_iff (hfinite : n.isFinite = true) {k : UInt64} :
    uint? (.number n) = some k ↔ ∃ m : Int, n.value = m ∧ 0 ≤ m ∧
      if n.isInteger then (k.toNat : Int) = m
      else m ≤ limit ∧ (k.toNat : Int) = min m (limit - 1) := by
  cases n with
  | integer n hrange =>
    simp only [uint?_integer_eq_some_iff, Numeral.value, Int.cast_inj, exists_eq_left',
      Numeral.isInteger, if_true]
    omega
  | float x =>
    have hdouble : x.isFinite = true := hfinite
    rw [uint?_float_eq_some_iff, and_iff_right hdouble]
    simp only [Numeral.value, Numeral.isInteger, Bool.false_eq_true, if_false]

end Number

/-! ### Outcomes -/

section Outcomes

variable {ω α : Type} {embed : ω → α} {failure : QueryError} {word? : Option ω}

/-- The outcome of a coercion that may give a word: the result that holds the word, or a failure. -/
def outcome (embed : ω → α) (failure : QueryError) : Option ω → Except QueryError α
  | some w => .ok (embed w)
  | none => .error failure

/-- The outcome of a coercion to words is exact for a value: a result holds the word of this value,
and where no word has this value the coercion fails. -/
structure IsExact (wordValue : ω → Int) (embed : ω → α) (failure : QueryError) (value : ℚ)
    (result : Except QueryError α) : Prop where
  value_eq : ∀ a, result = .ok a → ∃ w, a = embed w ∧ (wordValue w : ℚ) = value
  refused : (∀ w, (wordValue w : ℚ) ≠ value) → result = .error failure

/-- An outcome is exact when the word, if there is one, has the value. -/
theorem isExact_outcome (hembed : Function.Injective embed) {wordValue : ω → Int} {value : ℚ} :
    IsExact wordValue embed failure value (outcome embed failure word?) ↔
      ∀ w, word? = some w → (wordValue w : ℚ) = value := by
  constructor
  · rintro h w rfl
    obtain ⟨w', hw, hvalue⟩ := h.value_eq (embed w) rfl
    rwa [hembed hw]
  · intro h
    cases word? with
    | none => exact ⟨fun a ha => (by cases ha), fun _ => rfl⟩
    | some w =>
      have hvalue := h w rfl
      refine ⟨?_, fun hnone => absurd hvalue (hnone w)⟩
      intro a ha
      cases ha
      exact ⟨w, rfl, hvalue⟩

theorem isOk_outcome : (outcome embed failure word?).isOk = true ↔ ∃ w, word? = some w := by
  cases word? <;> simp [outcome, Except.isOk, Except.toBool]

variable (n : Numeral)

theorem coerce_int : coerce (.number n) .int =
    outcome (fun i => .number (.signed i)) (.notConvertible (.number n) .int)
      (int? (.number n)) := by
  unfold coerce
  dsimp only [scalar?]
  cases int? (.number n) <;> rfl

theorem coerce_uint : coerce (.number n) .uint =
    outcome (fun k => .number (.unsigned k)) (.notConvertible (.number n) .uint)
      (uint? (.number n)) := by
  unfold coerce
  dsimp only [scalar?]
  cases uint? (.number n) <;> rfl

theorem coerceLength_number : coerceLength (.number n) =
    outcome id (.notLength (.number n)) (uint? (.number n)) := by
  unfold coerceLength
  cases uint? (.number n) <;> rfl

end Outcomes

/-! ### Exactness -/

variable {n : Numeral}

/-- Next to the bound every number is a whole number. -/
theorem exists_int_of_near (hlow : limit ≤ n.value) (hhigh : n.value ≤ limit + 1024) :
    ∃ m : Int, n.value = m := by
  cases n with
  | integer n hrange => exact ⟨n, rfl⟩
  | float x =>
    have hlow : limit ≤ x.value := hlow
    have hhigh : x.value ≤ limit + 1024 := hhigh
    refine ⟨limit, le_antisymm ?_ hlow⟩
    rcases Double.value_le_limit_or x with h | h
    · exact h
    · linarith

/-- With sign the word has the value of the number, but for the numbers from the bound on. -/
theorem int?_exact_iff (hfinite : n.isFinite = true) :
    (∀ i, int? (.number n) = some i → (i.toInt : ℚ) = n.value) ↔
      ¬ (limit ≤ n.value ∧ n.value ≤ limit + 1024) := by
  have hlimit : limit = 2 ^ 63 := rfl
  simp only [int?_number_eq_some_iff hfinite]
  constructor
  · rintro h ⟨hlow, hhigh⟩
    obtain ⟨m, hm⟩ := exists_int_of_near hlow hhigh
    rw [hm] at hlow hhigh
    norm_cast at hlow hhigh
    have hmax : Int64.maxValue.toInt = min m (limit - 1) := by
      rw [Int64.toInt_maxValue]
      omega
    have hvalue := h Int64.maxValue ⟨m, hm, by omega, by omega, hmax⟩
    rw [hm, hmax, Int.cast_inj] at hvalue
    omega
  · rintro h i ⟨m, hm, -, hhigh, hi⟩
    rw [hm] at h
    rw [hm, hi, Int.cast_inj]
    norm_cast at h
    omega

/-- Without sign the word has the value of the number, but for the double at the bound. -/
theorem uint?_exact_iff (hfinite : n.isFinite = true) :
    (∀ k, uint? (.number n) = some k → ((k.toNat : Int) : ℚ) = n.value) ↔
      (n.isInteger = true ∨ n.value ≠ limit) := by
  have hlimit : limit = 2 ^ 63 := rfl
  simp only [uint?_number_eq_some_iff hfinite]
  cases hinteger : n.isInteger with
  | true =>
    refine iff_of_true ?_ (Or.inl rfl)
    rintro k ⟨m, hm, -, hk⟩
    rw [hm, ← hk]
  | false =>
    simp only [Bool.false_eq_true, if_false, false_or]
    constructor
    · intro h hvalue
      have hword : ((UInt64.ofNat (2 ^ 63 - 1)).toNat : Int) = min limit (limit - 1) := by decide
      have hexact := h _ ⟨limit, hvalue, by omega, Int.le_refl limit, hword⟩
      rw [hvalue, hword, Int.cast_inj] at hexact
      omega
    · rintro h k ⟨m, hm, -, hhigh, hk⟩
      rw [hm, ne_eq, Int.cast_inj] at h
      rw [hm, hk, Int.cast_inj]
      omega

/-- Coercions of a number to whole numbers are exact, with the following exceptions.  With sign a
number from `2 ^ 63` up to 1024 above it is taken for the largest word; without sign, and as a
length, the double `2 ^ 63` is taken for the number below it. -/
theorem isExact_iff (hfinite : n.isFinite = true) :
    (IsExact Int64.toInt (fun i => .number (.signed i)) (.notConvertible (.number n) .int) n.value
        (coerce (.number n) .int) ↔ ¬ (2 ^ 63 ≤ n.value ∧ n.value ≤ 2 ^ 63 + 1024)) ∧
      (IsExact (fun k : UInt64 => k.toNat) (fun k => .number (.unsigned k))
        (.notConvertible (.number n) .uint) n.value (coerce (.number n) .uint) ↔
          ¬ (n.isInteger = false ∧ n.value = 2 ^ 63)) ∧
      (IsExact (fun k : UInt64 => k.toNat) id (.notLength (.number n)) n.value
        (coerceLength (.number n)) ↔ ¬ (n.isInteger = false ∧ n.value = 2 ^ 63)) := by
  have hlimit : (2 ^ 63 : ℚ) = limit := by norm_num [limit]
  have hunsigned : (n.isInteger = true ∨ n.value ≠ limit) ↔
      ¬ (n.isInteger = false ∧ n.value = limit) := by
    rw [not_and_or, Bool.not_eq_false]
  rw [hlimit, coerce_int, coerce_uint, coerceLength_number, ← hunsigned]
  refine ⟨?_, ?_, ?_⟩
  · rw [isExact_outcome, int?_exact_iff hfinite]
    intro i j h
    cases h
    rfl
  · rw [isExact_outcome, uint?_exact_iff hfinite]
    intro i j h
    cases h
    rfl
  · rw [isExact_outcome Function.injective_id, uint?_exact_iff hfinite]

/-- The largest double below `2 ^ 63`. -/
def belowLimit : Numeral := .float (Double.ofBits 0x43dfffffffffffff)

theorem value_belowLimit : belowLimit.value = (9223372036854774784 : Int) :=
  Double.value_eq_intCast_iff.2 (by decide)

/-- The largest double below `2 ^ 63` is taken exactly for every kind. -/
theorem isExact_belowLimit :
    belowLimit.isFinite = true ∧ belowLimit.value = (9223372036854774784 : Int) ∧
      IsExact Int64.toInt (fun i => .number (.signed i))
        (.notConvertible (.number belowLimit) .int) belowLimit.value
        (coerce (.number belowLimit) .int) ∧
      IsExact (fun k : UInt64 => k.toNat) (fun k => .number (.unsigned k))
        (.notConvertible (.number belowLimit) .uint) belowLimit.value
        (coerce (.number belowLimit) .uint) ∧
      IsExact (fun k : UInt64 => k.toNat) id (.notLength (.number belowLimit)) belowLimit.value
        (coerceLength (.number belowLimit)) := by
  have hfinite : belowLimit.isFinite = true := by decide
  obtain ⟨hint, huint, hlength⟩ := isExact_iff hfinite
  rw [value_belowLimit] at hint huint hlength ⊢
  exact ⟨hfinite, rfl, hint.2 (by norm_num), huint.2 (by norm_num), hlength.2 (by norm_num)⟩

/-- The whole number `2 ^ 63`, which is larger than every word with sign. -/
def atLimit : Numeral := .integer 9223372036854775808 (by decide)

/-- With sign `2 ^ 63` is taken for the number below it. -/
theorem coerce_atLimit :
    coerce (.number atLimit) .int = .ok (.number (.signed Int64.maxValue)) ∧
      (Int64.maxValue.toInt : ℚ) ≠ atLimit.value := by
  have hword : int? (.number atLimit) = some Int64.maxValue :=
    int?_integer_eq_some_iff.2 (by decide)
  have hvalue : atLimit.value = (9223372036854775808 : Int) := rfl
  refine ⟨by rw [coerce_int, hword]; rfl, ?_⟩
  rw [hvalue, Int64.toInt_maxValue]
  norm_num

/-! ### Acceptance -/

section Acceptance

variable {m : Int}

/-- With sign whole numbers from the least word up to 1024 above the bound are accepted. -/
theorem isOk_coerce_int (hfinite : n.isFinite = true) (hvalue : n.value = m) :
    (coerce (.number n) .int).isOk = true ↔ -limit ≤ m ∧ m ≤ limit + 1024 := by
  rw [coerce_int, isOk_outcome]
  simp only [int?_number_eq_some_iff hfinite, hvalue, Int.cast_inj, exists_and_left,
    exists_eq_left']
  refine and_congr_right fun hlow => and_iff_left ?_
  exact ⟨_, toInt_ofInt_min hlow⟩

/-- Without sign whole numbers that fit are accepted, but doubles only up to the bound of the words
with sign. -/
theorem exists_uint?_iff (hfinite : n.isFinite = true) (hvalue : n.value = m) :
    (∃ k, uint? (.number n) = some k) ↔
      0 ≤ m ∧ m < 2 ^ 64 ∧ (n.isInteger = true ∨ m ≤ limit) := by
  have hlimit : limit = 2 ^ 63 := rfl
  simp only [uint?_number_eq_some_iff hfinite, hvalue, Int.cast_inj, exists_eq_left']
  cases n.isInteger with
  | true =>
    simp only [if_true, true_or, and_true]
    constructor
    · rintro ⟨k, hnonneg, hk⟩
      have hlt := k.toNat_lt
      omega
    · rintro ⟨hnonneg, hlt⟩
      exact ⟨_, hnonneg, toNat_ofNat_toNat hnonneg hlt⟩
  | false =>
    simp only [Bool.false_eq_true, if_false, false_or]
    constructor
    · rintro ⟨k, hnonneg, hhigh, -⟩
      omega
    · rintro ⟨hnonneg, -, hhigh⟩
      exact ⟨_, hnonneg, hhigh, toNat_ofNat_toNat (by omega) (by omega)⟩

/-- What is written as a whole number fits 64 bits. -/
theorem lt_of_isInteger (hinteger : n.isInteger = true) (hvalue : n.value = m) : m < 2 ^ 64 := by
  have hsize : UInt64.size = 2 ^ 64 := rfl
  cases n with
  | integer n hrange =>
    have hvalue : (n : ℚ) = m := hvalue
    rw [Int.cast_inj] at hvalue
    omega
  | float x => cases hinteger

/-- Without sign numbers of one value are accepted alike when they are written alike, and otherwise
up to the bound of the words with sign. -/
theorem exists_uint?_congr_iff {other : Numeral} (hfinite : n.isFinite = true)
    (hvalue : n.value = m) (hfinite' : other.isFinite = true) (hvalue' : other.value = m) :
    ((∃ k, uint? (.number n) = some k) ↔ ∃ k, uint? (.number other) = some k) ↔
      n.isInteger = other.isInteger ∨ m ≤ limit := by
  have hlimit : limit = 2 ^ 63 := rfl
  have hlt := fun h : n.isInteger = true => lt_of_isInteger h hvalue
  have hlt' := fun h : other.isInteger = true => lt_of_isInteger h hvalue'
  rw [exists_uint?_iff hfinite hvalue, exists_uint?_iff hfinite' hvalue']
  -- Where the two are written differently, the one written as a whole number fits.
  cases hn : n.isInteger <;> cases hother : other.isInteger <;>
    simp only [hn, hother, Bool.false_eq_true, Bool.true_eq_false, false_or, true_or,
      and_true, forall_const, false_implies] at hlt hlt' ⊢ <;>
    omega

/-- Every whole number that fits is accepted with sign, however it is written, and numbers of one
value are accepted alike.  Without sign, and as lengths, the same holds up to `2 ^ 63`; above it
whole numbers that fit are accepted exactly when they are written as whole numbers. -/
theorem isOk_of_value (hfinite : n.isFinite = true) (hvalue : n.value = m) :
    (-2 ^ 63 ≤ m → m < 2 ^ 63 → (coerce (.number n) .int).isOk = true) ∧
      (0 ≤ m → m < 2 ^ 64 →
        ((coerce (.number n) .uint).isOk = true ↔ n.isInteger = true ∨ m ≤ 2 ^ 63) ∧
        ((coerceLength (.number n)).isOk = true ↔ n.isInteger = true ∨ m ≤ 2 ^ 63)) ∧
      ∀ other : Numeral, other.isFinite = true → other.value = m →
        (coerce (.number n) .int).isOk = (coerce (.number other) .int).isOk ∧
        ((coerce (.number n) .uint).isOk = (coerce (.number other) .uint).isOk ↔
          n.isInteger = other.isInteger ∨ m ≤ 2 ^ 63) ∧
        ((coerceLength (.number n)).isOk = (coerceLength (.number other)).isOk ↔
          n.isInteger = other.isInteger ∨ m ≤ 2 ^ 63) := by
  have hlimit : limit = 2 ^ 63 := rfl
  rw [← hlimit]
  refine ⟨?_, ?_, ?_⟩
  · intro hlow hhigh
    exact (isOk_coerce_int hfinite hvalue).2 ⟨hlow, by omega⟩
  · intro hnonneg hlt
    rw [coerce_uint, coerceLength_number, isOk_outcome, isOk_outcome,
      exists_uint?_iff hfinite hvalue, and_iff_right hnonneg, and_iff_right hlt]
    exact ⟨Iff.rfl, Iff.rfl⟩
  · intro other hfinite' hvalue'
    have hunsigned := exists_uint?_congr_iff hfinite hvalue hfinite' hvalue'
    refine ⟨?_, ?_, ?_⟩
    · rw [Bool.eq_iff_iff, isOk_coerce_int hfinite hvalue, isOk_coerce_int hfinite' hvalue']
    · rw [coerce_uint, coerce_uint, Bool.eq_iff_iff, isOk_outcome, isOk_outcome, hunsigned]
    · rw [coerceLength_number, coerceLength_number, Bool.eq_iff_iff, isOk_outcome, isOk_outcome,
        hunsigned]

end Acceptance

/-- The whole number of the value of the largest double below `2 ^ 63`. -/
def belowLimitWhole : Numeral := .integer 9223372036854774784 (by decide)

/-- The largest double below `2 ^ 63` is accepted for every kind, like the whole number of its
value. -/
theorem isOk_belowLimit :
    belowLimit.isFinite = true ∧ belowLimit.value = (9223372036854774784 : Int) ∧
      belowLimitWhole.isFinite = true ∧ belowLimitWhole.value = (9223372036854774784 : Int) ∧
      (coerce (.number belowLimit) .int).isOk = true ∧
      (coerce (.number belowLimit) .uint).isOk = true ∧
      (coerceLength (.number belowLimit)).isOk = true ∧
      (coerce (.number belowLimit) .uint).isOk = (coerce (.number belowLimitWhole) .uint).isOk := by
  have hfinite : belowLimit.isFinite = true := by decide
  obtain ⟨hint, huint, hother⟩ := isOk_of_value hfinite value_belowLimit
  obtain ⟨-, hsame, -⟩ := hother belowLimitWhole rfl rfl
  obtain ⟨hword, hlength⟩ := huint (by decide) (by decide)
  exact ⟨hfinite, value_belowLimit, rfl, rfl, hint (by decide) (by decide),
    hword.2 (.inr (by decide)), hlength.2 (.inr (by decide)), hsame.2 (.inr (by decide))⟩

/-- The double `10 ^ 19`. -/
def largeDouble : Numeral := .float (Double.ofBits 0x43e158e460913d00)

/-- The whole number `10 ^ 19`. -/
def largeWhole : Numeral := .integer 10000000000000000000 (by decide)

/-- Without sign `10 ^ 19` is accepted when it is written as a whole number, but refused as a
double. -/
theorem not_isOk_largeDouble :
    largeDouble.value = largeWhole.value ∧
      coerce (.number largeDouble) .uint = .error (.notConvertible (.number largeDouble) .uint) ∧
      coerceLength (.number largeDouble) = .error (.notLength (.number largeDouble)) ∧
      (coerce (.number largeWhole) .uint).isOk = true := by
  have hvalue : largeDouble.value = (10000000000000000000 : Int) :=
    Double.value_eq_intCast_iff.2 (by decide)
  have hrefused : uint? (.number largeDouble) = none := by decide
  refine ⟨hvalue, ?_, ?_, ?_⟩
  · rw [coerce_uint, hrefused]
    rfl
  · rw [coerceLength_number, hrefused]
    rfl
  · rw [coerce_uint, isOk_outcome, exists_uint?_iff rfl rfl]
    exact ⟨by decide, by decide, .inl rfl⟩

end Coercion

end RecordQuery
