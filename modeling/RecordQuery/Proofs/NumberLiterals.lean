import RecordQuery.Json.Document
import RecordQuery.Proofs.RoundingError

/-!
# The doubles of number literals

A number literal that is no whole number of 64 bits stands for the double nearest to it
(`NumberLiteral.nearest?`).  The reader scales its digits by a power of ten in one step, and since
digits and power are rounded before, it may miss this double by a little.  It does not where both
are doubles themselves: a significand below `2 ^ 53` and a power of ten up to `10 ^ 22`
(`NumberLiteral.IsShort.isExact`).  Whole numbers are always read exactly
(`NumberLiteral.IsWhole.isExact`).
-/

namespace RecordQuery

namespace Double

/-! ### Exact whole numbers -/

/-- Powers of ten up to `10 ^ 22` are doubles. -/
theorem isExact_pow {k : Nat} (h : k ≤ 22) : IsExact (10 ^ k) := by
  have hfive : 5 ^ k < 2 ^ 53 := by
    have hle : 5 ^ k ≤ 5 ^ 22 := Nat.pow_le_pow_right (by decide) h
    omega
  have hten : 10 ^ k = 5 ^ k * 2 ^ k := Nat.mul_pow 5 2 k
  rw [hten]
  exact isExact_mul_two_pow hfive (by omega)

/-- The product of two whole numbers that are doubles is rounded once. -/
theorem mul_ofRatio {m n : Nat} (hm : IsExact m) (hn : IsExact n)
    (hmfinite : (ofRatio false m 1).isFinite = true)
    (hnfinite : (ofRatio false n 1).isFinite = true) :
    (ofRatio false m 1).mul (ofRatio false n 1) = ofRatio false (m * n) 1 := by
  have hproduct : m * unitsPerOne * (n * unitsPerOne) = m * n * (unitsPerOne * unitsPerOne) := by
    ring
  have hscale : nearestMagnitude (m * n * (unitsPerOne * unitsPerOne)) (unitsPerOne * unitsPerOne) =
      nearestMagnitude (m * n) 1 := by
    have hmul := nearestMagnitude_mul_mul (Nat.mul_pos unitsPerOne_pos unitsPerOne_pos) (m * n) 1
    rwa [Nat.one_mul] at hmul
  unfold IsExact at hm hn
  unfold mul
  simp only [isNaN_of_isFinite hmfinite, isNaN_of_isFinite hnfinite,
    isInfinite_of_isFinite hmfinite, isInfinite_of_isFinite hnfinite]
  simp only [ofRatio, hm, hn, hproduct, hscale]
  rfl

/-- The quotient of two whole numbers that are doubles is rounded once. -/
theorem div_ofRatio {m n : Nat} (hm : IsExact m) (hn : IsExact n) (hpos : 0 < n)
    (hmfinite : (ofRatio false m 1).isFinite = true)
    (hnfinite : (ofRatio false n 1).isFinite = true) :
    (ofRatio false m 1).div (ofRatio false n 1) = ofRatio false m n := by
  have hscale : nearestMagnitude (m * unitsPerOne) (n * unitsPerOne) = nearestMagnitude m n :=
    nearestMagnitude_mul_mul unitsPerOne_pos m n
  unfold IsExact at hm hn
  have hne : (ofRatio false n 1).magnitude ≠ 0 := by
    intro hzero
    have hunits : unitsOf (nearestMagnitude n 1) = 0 := by
      rw [show nearestMagnitude n 1 = 0 from hzero]
      rfl
    rw [hn] at hunits
    exact (Nat.mul_pos hpos unitsPerOne_pos).ne' hunits
  unfold div
  simp only [isNaN_of_isFinite hmfinite, isNaN_of_isFinite hnfinite,
    isInfinite_of_isFinite hmfinite, isInfinite_of_isFinite hnfinite, beq_eq_false_iff_ne.2 hne]
  simp only [ofRatio, hm, hn, hscale]
  rfl

theorem roundHalfEven_zero (den : Nat) : roundHalfEven 0 den = 0 := by
  unfold roundHalfEven
  simp only [Nat.zero_div, Nat.zero_mod]
  rcases Nat.eq_zero_or_pos den with rfl | hpos
  · rfl
  · simp [hpos]

/-- The double nearest to zero is zero. -/
theorem ofRatio_zero (negative : Bool) (den : Nat) : ofRatio negative 0 den = zero negative := by
  have hzero : nearestMagnitude 0 den = 0 := by
    rw [nearestMagnitude_eq, spacing, significand, Nat.zero_mul, Nat.zero_div, roundHalfEven_zero]
    rfl
  simp only [ofRatio, zero, hzero]

/-- Quotients up to `2 ^ 53 * 10 ^ 22` are finite. -/
theorem isFinite_ofRatio (negative : Bool) {num den : Nat} (hden : 0 < den)
    (h : num ≤ 2 ^ 53 * 10 ^ 22 * den) : (ofRatio negative num den).isFinite = true := by
  have hbound : nearestMagnitude (2 ^ 53 * 10 ^ 22) 1 < infiniteMagnitude :=
    nearestMagnitude_lt_infinite (by decide : 2 ^ 53 * 10 ^ 22 < 2 ^ (53 + 100)) (by decide)
  have hscale : nearestMagnitude (2 ^ 53 * 10 ^ 22 * den) den =
      nearestMagnitude (2 ^ 53 * 10 ^ 22) 1 := by
    simpa only [Nat.one_mul] using nearestMagnitude_mul_mul hden (2 ^ 53 * 10 ^ 22) 1
  have hle := nearestMagnitude_mono hden h
  rw [hscale] at hle
  exact decide_eq_true (Nat.lt_of_le_of_lt hle hbound)

/-- The sign is put on after rounding. -/
theorem negate_ofRatio (negative : Bool) (num den : Nat) :
    (if negative then (ofRatio false num den).negate else ofRatio false num den) =
      ofRatio negative num den := by
  cases negative <;> rfl

end Double

/-- A decimal of moderate size is rounded as the quotient that it is. -/
theorem DecimalText.roundBy_ofRatio (d : DecimalText) (negative : Bool)
    (h : d.exponent.natAbs ≤ 400) :
    d.roundBy Double.ofRatio negative =
      Double.ofRatio negative (d.coefficient * 10 ^ d.exponent.toNat)
        (10 ^ (-d.exponent).toNat) := by
  have hhigh : ¬ 400 < d.exponent := by omega
  have hlow : ¬ d.exponent + (d.coefficient.log2 + 1) < -400 := by omega
  unfold roundBy
  by_cases hzero : d.coefficient = 0
  · simp [hzero, Double.ofRatio_zero]
  · simp [hzero, hhigh, hlow]

namespace NumberLiteral

/-! ### The double nearest to a literal -/

/-- The decimal that a literal writes, without its sign. -/
def decimal (l : NumberLiteral) : DecimalText :=
  ⟨ofDigits (l.whole ++ l.fraction), l.shownExponent - l.fraction.length⟩

/-- The double nearest to a literal; a literal beyond the largest double has none. -/
def nearestDouble? (l : NumberLiteral) : Option Double :=
  let x := l.decimal.roundBy Double.ofRatio l.negative
  if x.isFinite then some x else none

/-- The number that a literal stands for.  Whole digits that fit 64 bits make a whole number, apart
from negative zero; all other literals stand for the double nearest to them. -/
def nearest? (l : NumberLiteral) : Option Numeral :=
  let n : Int := if l.negative then -(ofDigits l.whole : Int) else ofDigits l.whole
  if h : Int64.minValue.toInt ≤ n ∧ n < UInt64.size then
    if l.fraction.isEmpty && l.exponent.isNone && (!l.negative || n != 0) then
      some (.integer n h)
    else l.nearestDouble?.map .float
  else l.nearestDouble?.map .float

/-- The reader takes a literal for the number that it stands for. -/
def IsExact (l : NumberLiteral) : Prop := l.numeral? = l.nearest?

instance (l : NumberLiteral) : Decidable l.IsExact := inferInstanceAs (Decidable (_ = _))

/-- Only the doubles of a literal may be missed. -/
theorem isExact_of_double? {l : NumberLiteral} (h : l.double? = l.nearestDouble?) : l.IsExact := by
  unfold IsExact numeral? nearest?
  rw [h]

/-- A whole number that fits 64 bits, other than negative zero. -/
structure IsWhole (l : NumberLiteral) : Prop where
  fraction_eq : l.fraction = []
  exponent_eq : l.exponent = none
  lt_size : ofDigits l.whole < UInt64.size
  negative : l.negative = true → 0 < ofDigits l.whole ∧ ofDigits l.whole ≤ 2 ^ 63

/-- A decimal with a significand of at most 53 bits, moved by at most 22 places. -/
structure IsShort (l : NumberLiteral) : Prop where
  significand_lt : l.decimal.coefficient < 2 ^ 53
  exponent_le : l.decimal.exponent.natAbs ≤ 22

/-- Whole numbers of 64 bits are read exactly. -/
theorem IsWhole.isExact {l : NumberLiteral} (h : l.IsWhole) : l.IsExact := by
  obtain ⟨hfraction, hexponent, hsize, hnegative⟩ := h
  have hmin : Int64.minValue.toInt = -2 ^ 63 := by decide
  have hmax : UInt64.size = 2 ^ 64 := rfl
  unfold IsExact numeral? nearest?
  by_cases hsign : l.negative = true
  · obtain ⟨hpos, hle⟩ := hnegative hsign
    have hrange : Int64.minValue.toInt ≤ -(ofDigits l.whole : Int) ∧
        -(ofDigits l.whole : Int) < UInt64.size := by omega
    have hne : ofDigits l.whole ≠ 0 := hpos.ne'
    simp only [hsign, if_true, dif_pos hrange]
    simp [hfraction, hexponent, hne]
  · have hrange : Int64.minValue.toInt ≤ (ofDigits l.whole : Int) ∧
        (ofDigits l.whole : Int) < UInt64.size := by omega
    simp only [Bool.eq_false_iff.2 hsign, Bool.false_eq_true, if_false, dif_pos hrange]
    simp [hfraction, hexponent]

/-! ### Short decimals -/

/-- Digits make a number larger. -/
theorem le_foldl_digits (cs : List Char) (s : Nat) :
    s ≤ cs.foldl (fun n c => 10 * n + (c.toNat - '0'.toNat)) s := by
  induction cs generalizing s with
  | nil => exact Nat.le_refl s
  | cons c cs ih =>
    have hstep : s ≤ 10 * s + (c.toNat - '0'.toNat) := by omega
    exact Nat.le_trans hstep (ih _)

/-- Digits of a number that fits 64 bits are all taken in. -/
theorem gather_eq {s : Nat} {cs : List Char}
    (h : cs.foldl (fun n c => 10 * n + (c.toNat - '0'.toNat)) s < UInt64.size) :
    gather s cs = (cs.foldl (fun n c => 10 * n + (c.toNat - '0'.toNat)) s, []) := by
  induction cs generalizing s with
  | nil => rfl
  | cons c cs ih =>
    have hnext : 10 * s + (c.toNat - '0'.toNat) < UInt64.size :=
      Nat.lt_of_le_of_lt (le_foldl_digits cs _) h
    rw [gather]
    simp only [hnext, if_true]
    exact ih h

/-- Where no digit is left out, the significand is scaled by the power of ten of its last digit. -/
theorem double?_eq {l : NumberLiteral} (h : l.decimal.coefficient < UInt64.size) :
    l.double? = (scale 4 (Double.ofRatio false l.decimal.coefficient 1)
      (max l.decimal.exponent (-2000))).map fun x => if l.negative then x.negate else x := by
  have happend : l.decimal.coefficient =
      l.fraction.foldl (fun n c => 10 * n + (c.toNat - '0'.toNat)) (ofDigits l.whole) :=
    List.foldl_append
  have hfraction := gather_eq (happend ▸ h)
  have hwhole : gather 0 l.whole = (ofDigits l.whole, []) :=
    gather_eq (Nat.lt_of_le_of_lt (le_foldl_digits l.fraction _) (happend ▸ h))
  unfold double?
  simp only [hwhole, hfraction, ← happend]
  simp [decimal]

/-- A power of ten within the reach of one step is scaled by in one step. -/
theorem scale_eq {fuel : Nat} {e : Int} (x : Double) (h : e.natAbs ≤ 308) :
    scale (fuel + 1) x e =
      if 0 ≤ e then
        if (x.mul (Double.ofRatio false (10 ^ e.natAbs) 1)).isInfinite then none
        else some (x.mul (Double.ofRatio false (10 ^ e.natAbs) 1))
      else some (x.div (Double.ofRatio false (10 ^ e.natAbs) 1)) := by
  rw [scale]
  simp only [h, if_true]
  rfl

/-- Short decimals are scaled to the double nearest to them. -/
theorem IsShort.double?_eq {l : NumberLiteral} (h : l.IsShort) : l.double? = l.nearestDouble? := by
  obtain ⟨hsignificand, hexponent⟩ := h
  have hsize : l.decimal.coefficient < UInt64.size := Nat.lt_trans hsignificand (by decide)
  have hmax : max l.decimal.exponent (-2000) = l.decimal.exponent := by omega
  have hpow : 10 ^ l.decimal.exponent.natAbs ≤ 10 ^ 22 := Nat.pow_le_pow_right (by decide) hexponent
  have hexact := Double.isExact_of_lt hsignificand
  have hexactPow := Double.isExact_pow hexponent
  have hfinite : (Double.ofRatio false l.decimal.coefficient 1).isFinite = true :=
    Double.isFinite_ofRatio _ Nat.one_pos (by omega)
  have hfinitePow : (Double.ofRatio false (10 ^ l.decimal.exponent.natAbs) 1).isFinite = true :=
    Double.isFinite_ofRatio _ Nat.one_pos (by omega)
  have hround := DecimalText.roundBy_ofRatio l.decimal l.negative (by omega)
  rw [NumberLiteral.double?_eq hsize, hmax, scale_eq _ (by omega), nearestDouble?, hround]
  by_cases hsign : 0 ≤ l.decimal.exponent
  · have hproduct : l.decimal.coefficient * 10 ^ l.decimal.exponent.natAbs ≤
        2 ^ 53 * 10 ^ 22 * 1 := by
      rw [Nat.mul_one]
      exact Nat.mul_le_mul hsignificand.le hpow
    have hall := fun negative => Double.isFinite_ofRatio negative Nat.one_pos hproduct
    have hnum : l.decimal.exponent.toNat = l.decimal.exponent.natAbs := by omega
    have hden : (-l.decimal.exponent).toNat = 0 := by omega
    rw [if_pos hsign, Double.mul_ofRatio hexact hexactPow hfinite hfinitePow, hnum, hden,
      Nat.pow_zero, Double.isInfinite_of_isFinite (hall false)]
    simp [Double.negate_ofRatio, hall]
  · have hpos : 0 < 10 ^ l.decimal.exponent.natAbs := Nat.pow_pos (by decide)
    have hquotient : l.decimal.coefficient ≤
        2 ^ 53 * 10 ^ 22 * 10 ^ l.decimal.exponent.natAbs := by
      have hsmall : l.decimal.coefficient ≤ 2 ^ 53 * 10 ^ 22 := by omega
      exact Nat.le_trans hsmall (Nat.le_mul_of_pos_right _ hpos)
    have hall := fun negative => Double.isFinite_ofRatio negative hpos hquotient
    have hnum : l.decimal.exponent.toNat = 0 := by omega
    have hden : (-l.decimal.exponent).toNat = l.decimal.exponent.natAbs := by omega
    rw [if_neg hsign, Double.div_ofRatio hexact hexactPow hpos hfinite hfinitePow, hnum, hden,
      Nat.pow_zero, Nat.mul_one]
    simp [Double.negate_ofRatio, hall]

/-- Short decimals are read exactly. -/
theorem IsShort.isExact {l : NumberLiteral} (h : l.IsShort) : l.IsExact :=
  isExact_of_double? h.double?_eq

-- One place more is too many.
example : ¬ IsExact ⟨false, ['1'], [], some (true, ['2', '3'])⟩ := by decide +kernel

end NumberLiteral

end RecordQuery
