import Mathlib.Algebra.Order.Field.Power
import Mathlib.Tactic.FieldSimp
import Mathlib.Tactic.Positivity
import RecordQuery.Double.Reader
import RecordQuery.Proofs.DoubleValue

/-!
# Errors of rounding

The double nearest to a quotient is off by at most a part in `2 ^ 53` of it, or half the finest
spacing, unless the quotient is so large that the double is infinite (`ofRatio_stands`).  A double
that stands for a number with an error (`Stands`) goes on to do so, with a larger error, when it is
multiplied (`Stands.mul`), and the whole number nearest to a double is off by at most a half
(`abs_round_sub_le`).
-/

namespace RecordQuery

namespace Double

/-! ### One rounding -/

/-- A natural number nearest to a quotient is off by at most a half. -/
theorem roundHalfEven_error {num den : Nat} (hden : 0 < den) :
    2 * num ≤ 2 * (roundHalfEven num den * den) + den ∧
      2 * (roundHalfEven num den * den) ≤ 2 * num + den := by
  have hsum := Nat.div_add_mod num den
  have hmod := Nat.mod_lt num hden
  have hdown : num / den * den = den * (num / den) := Nat.mul_comm _ _
  have hup : (num / den + 1) * den = den * (num / den) + den := by rw [Nat.add_mul, hdown, one_mul]
  unfold roundHalfEven
  dsimp only
  split
  · next h =>
    simp only [Bool.or_eq_true, decide_eq_true_eq, Bool.and_eq_true, beq_iff_eq] at h
    rw [hdown]
    omega
  · next h =>
    simp only [Bool.or_eq_true, decide_eq_true_eq, Bool.and_eq_true, beq_iff_eq] at h
    rw [hup]
    omega

/-- Half the finest spacing of doubles. -/
def finest : ℚ := 1 / (2 * unitsPerOne)

theorem unitsPerOne_cast_pos : (0 : ℚ) < unitsPerOne := Nat.cast_pos.2 unitsPerOne_pos

theorem finest_pos : 0 < finest := by
  have hone := unitsPerOne_cast_pos
  unfold finest
  generalize (unitsPerOne : ℚ) = one at hone
  positivity

theorem finest_le : finest ≤ 1 / 2 ^ 100 := by
  have hunits : 2 ^ 100 ≤ unitsPerOne := by decide
  have hone : ((2 : ℚ) ^ 100) ≤ unitsPerOne := by exact_mod_cast hunits
  unfold finest
  generalize (unitsPerOne : ℚ) = one at hone
  exact one_div_le_one_div_of_le (by positivity) (by linarith)

theorem value_of_negative_eq_false {x : Double} (h : x.negative = false) :
    x.value = (unitsOf x.magnitude : ℚ) / unitsPerOne := by
  unfold value units
  rw [h]
  rfl

theorem value_zero (negative : Bool) : (zero negative).value = 0 := by
  have hunits : (zero negative).units = 0 * unitsPerOne := by
    cases negative <;> rfl
  exact_mod_cast value_eq_intCast_iff.2 hunits

/-- Half the spacing at a quotient. -/
theorem half_spacing_le {num den : Nat} (hden : 0 < den) :
    (2 : ℚ) ^ spacing num den / (2 * unitsPerOne) ≤ (num / den : ℚ) / 2 ^ 53 + finest := by
  have hone := unitsPerOne_cast_pos
  have hden' : (0 : ℚ) < den := Nat.cast_pos.2 hden
  have hbits : 0 < spacing num den →
      ((2 : ℚ) ^ (52 + spacing num den)) * den ≤ num * unitsPerOne := fun hpos => by
    have hspacing := shiftLeft_spacing_le hden hpos
    rw [Nat.one_shiftLeft] at hspacing
    exact_mod_cast hspacing
  unfold finest
  generalize (unitsPerOne : ℚ) = one at *
  have hfinest : 0 ≤ 1 / (2 * one) := by positivity
  have hquotient : (0 : ℚ) ≤ (num / den : ℚ) / 2 ^ 53 := by positivity
  rcases Nat.eq_zero_or_pos (spacing num den) with hzero | hpos
  · rw [hzero, pow_zero]
    linarith
  · have hhalf : (2 : ℚ) ^ spacing num den / (2 * one) ≤ (num / den : ℚ) / 2 ^ 53 := by
      have hpow := hbits hpos
      rw [pow_add] at hpow
      rw [div_div, div_le_div_iff₀ (by positivity) (by positivity)]
      linarith
    linarith

/-- The double nearest to a quotient differs from it by at most half the spacing. -/
theorem abs_value_ofRatio_sub_le {num den : Nat} (hden : 0 < den)
    (hfinite : (ofRatio false num den).isFinite = true) :
    |(ofRatio false num den).value - num / den| ≤ (num / den : ℚ) / 2 ^ 53 + finest := by
  have hunits : unitsOf (ofRatio false num den).magnitude =
      significand num den * 2 ^ spacing num den := by
    have hmagnitude : (ofRatio false num den).magnitude =
        min infiniteMagnitude (spacing num den * (1 <<< 52) + significand num den) := rfl
    have hlt : (ofRatio false num den).magnitude < infiniteMagnitude := of_decide_eq_true hfinite
    rw [hmagnitude] at hlt ⊢
    rw [Nat.min_eq_right (by omega), Nat.one_shiftLeft]
    exact unitsOf_spacing_add (Nat.one_shiftLeft 53 ▸ significand_le hden) fun hpos =>
      Nat.one_shiftLeft 52 ▸ le_significand hden hpos
  have hround := @roundHalfEven_error (num * unitsPerOne) (den * 2 ^ spacing num den)
    (Nat.mul_pos hden (Nat.two_pow_pos _))
  have hsignificand : significand num den =
      roundHalfEven (num * unitsPerOne) (den * 2 ^ spacing num den) := by
    unfold significand
    rw [Nat.one_shiftLeft]
  rw [← hsignificand] at hround
  refine le_trans ?_ (half_spacing_le hden)
  rw [value_of_negative_eq_false rfl, hunits]
  obtain ⟨hlow, hhigh⟩ := hround
  have hlow' : 2 * ((num : ℚ) * unitsPerOne) ≤ 2 * (significand num den *
      (den * 2 ^ spacing num den)) + den * 2 ^ spacing num den := by exact_mod_cast hlow
  have hhigh' : 2 * (significand num den * ((den : ℚ) * 2 ^ spacing num den)) ≤
      2 * (num * unitsPerOne) + den * 2 ^ spacing num den := by exact_mod_cast hhigh
  have hone := unitsPerOne_cast_pos
  have hden' : (0 : ℚ) < den := Nat.cast_pos.2 hden
  push_cast
  -- The units stay out of the arithmetic, which would write out their power of two.
  generalize (unitsPerOne : ℚ) = one at *
  have hscaledLow := mul_le_mul_of_nonneg_left hlow' hone.le
  have hscaledHigh := mul_le_mul_of_nonneg_left hhigh' hone.le
  rw [div_sub_div _ _ hone.ne' hden'.ne', abs_le, ← neg_div,
    div_le_div_iff₀ (by positivity) (by positivity),
    div_le_div_iff₀ (by positivity) (by positivity)]
  constructor <;> linarith

/-- A quotient whose nearest double is infinite is large. -/
theorem le_of_isInfinite_ofRatio {num den : Nat} (hden : 0 < den)
    (h : (ofRatio false num den).isInfinite = true) : (2 : ℚ) ^ 200 ≤ num / den := by
  have hmagnitude : (ofRatio false num den).magnitude =
      min infiniteMagnitude (spacing num den * (1 <<< 52) + significand num den) := rfl
  have hinfinite : (ofRatio false num den).magnitude = infiniteMagnitude := beq_iff_eq.1 h
  have hsignificand := @significand_le num den hden
  have hvalue : infiniteMagnitude = 2047 * (1 <<< 52) := rfl
  have hspacing : 2045 ≤ spacing num den := by omega
  have hbits := shiftLeft_spacing_le hden (Nat.lt_of_lt_of_le (by decide) hspacing)
  rw [Nat.one_shiftLeft] at hbits
  have hlarge : 2 ^ 200 * unitsPerOne ≤ 2 ^ (52 + spacing num den) := by
    obtain ⟨p, hp, hone⟩ := exists_unitsPerOne_eq
    rw [hone, ← Nat.pow_add]
    exact Nat.pow_le_pow_right Nat.two_pos (by omega)
  have hquotient : 2 ^ 200 * den ≤ num := by
    refine Nat.le_of_mul_le_mul_right ?_ unitsPerOne_pos
    calc 2 ^ 200 * den * unitsPerOne
      _ = 2 ^ 200 * unitsPerOne * den := Nat.mul_right_comm _ _ _
      _ ≤ 2 ^ (52 + spacing num den) * den := Nat.mul_le_mul_right den hlarge
      _ ≤ num * unitsPerOne := hbits
  rw [le_div_iff₀ (Nat.cast_pos.2 hden)]
  exact_mod_cast hquotient

/-- The double nearest to a quotient is finite and next to it, or the quotient is large. -/
theorem ofRatio_cases {num den : Nat} (hden : 0 < den) :
    ((ofRatio false num den).isFinite = true ∧
        |(ofRatio false num den).value - num / den| ≤ (num / den : ℚ) / 2 ^ 53 + finest) ∨
      ((ofRatio false num den).isInfinite = true ∧ (2 : ℚ) ^ 200 ≤ num / den) := by
  have hle : (ofRatio false num den).magnitude ≤ infiniteMagnitude := Nat.min_le_left _ _
  rcases Nat.lt_or_eq_of_le hle with hlt | heq
  · have hfinite : (ofRatio false num den).isFinite = true := decide_eq_true hlt
    exact .inl ⟨hfinite, abs_value_ofRatio_sub_le hden hfinite⟩
  · have hinfinite : (ofRatio false num den).isInfinite = true := beq_iff_eq.2 heq
    exact .inr ⟨hinfinite, le_of_isInfinite_ofRatio hden hinfinite⟩

/-! ### Doubles that stand for numbers -/

/-- The double, without a minus, stands for a number with an error; an infinity stands for large
numbers. -/
inductive Stands (x : Double) (q e : ℚ) : Prop
  | infinite (hsign : x.negative = false) (hx : x.isInfinite = true) (hq : (2 : ℚ) ^ 100 ≤ q)
  | finite (hsign : x.negative = false) (hx : x.isFinite = true) (herror : |x.value - q| ≤ e)

theorem Stands.negative {x : Double} {q e : ℚ} (h : x.Stands q e) : x.negative = false := by
  cases h <;> assumption

theorem Stands.mono {x : Double} {q e e' : ℚ} (h : x.Stands q e) (he : e ≤ e') :
    x.Stands q e' := by
  cases h with
  | infinite hsign hx hq => exact .infinite hsign hx hq
  | finite hsign hx herror => exact .finite hsign hx (herror.trans he)

theorem isNaN_of_isFinite {x : Double} (h : x.isFinite = true) : x.isNaN = false := by
  have hlt : x.magnitude < infiniteMagnitude := of_decide_eq_true h
  exact decide_eq_false (by omega)

theorem isInfinite_of_isFinite {x : Double} (h : x.isFinite = true) : x.isInfinite = false := by
  have hlt : x.magnitude < infiniteMagnitude := of_decide_eq_true h
  exact beq_eq_false_iff_ne.2 (by omega)

theorem magnitude_ne_zero_of_value_ne_zero {x : Double} (h : x.value ≠ 0) : x.magnitude ≠ 0 := by
  intro hzero
  apply h
  unfold value units
  rw [hzero]
  cases x.negative <;> simp [unitsOf]

/-- A product of finite doubles without a minus is rounded once. -/
theorem mul_cases {x y : Double} (hx : x.isFinite = true) (hy : y.isFinite = true)
    (hxsign : x.negative = false) (hysign : y.negative = false) :
    (x.mul y).negative = false ∧
      (((x.mul y).isFinite = true ∧
          |(x.mul y).value - x.value * y.value| ≤ x.value * y.value / 2 ^ 53 + finest) ∨
        ((x.mul y).isInfinite = true ∧ (2 : ℚ) ^ 200 ≤ x.value * y.value)) := by
  have hmul : x.mul y = ofRatio false (unitsOf x.magnitude * unitsOf y.magnitude)
      (unitsPerOne * unitsPerOne) := by
    unfold mul
    rw [isNaN_of_isFinite hx, isNaN_of_isFinite hy, isInfinite_of_isFinite hx,
      isInfinite_of_isFinite hy, hxsign, hysign]
    rfl
  have hratio : ((unitsOf x.magnitude * unitsOf y.magnitude : Nat) : ℚ) /
      (unitsPerOne * unitsPerOne : Nat) = x.value * y.value := by
    rw [value_of_negative_eq_false hxsign, value_of_negative_eq_false hysign]
    push_cast
    rw [div_mul_div_comm]
  have hcases := @ofRatio_cases (unitsOf x.magnitude * unitsOf y.magnitude)
    (unitsPerOne * unitsPerOne) (Nat.mul_pos unitsPerOne_pos unitsPerOne_pos)
  rw [hratio, ← hmul] at hcases
  exact ⟨by rw [hmul]; rfl, hcases⟩

/-- A product of an infinity with a positive number is infinite. -/
theorem mul_of_isInfinite {x y : Double} (hx : x.isInfinite = true) (hy : y.isFinite = true)
    (hxsign : x.negative = false) (hysign : y.negative = false) (hpos : 0 < y.value) :
    x.mul y = infinity false := by
  have hmagnitude : x.magnitude = infiniteMagnitude := beq_iff_eq.1 hx
  have hnan : x.isNaN = false := decide_eq_false (by omega)
  have hxzero : (x.magnitude == 0) = false := by
    rw [hmagnitude]
    rfl
  have hyzero : (y.magnitude == 0) = false :=
    beq_eq_false_iff_ne.2 (magnitude_ne_zero_of_value_ne_zero hpos.ne')
  unfold mul
  rw [hnan, isNaN_of_isFinite hy, hx, hxzero, hyzero, hxsign, hysign]
  rfl

/-- A product with a number of at most 21 bits stands for the product. -/
theorem Stands.mul {x y : Double} {q e : ℚ} (h : x.Stands q e) (he : e ≤ q + 1)
    (hsign : y.negative = false) (hfinite : y.isFinite = true) (hlow : 1 ≤ y.value)
    (hhigh : y.value ≤ 2 ^ 20) :
    (x.mul y).Stands (q * y.value) ((q + e) * y.value / 2 ^ 53 + finest + e * y.value) := by
  cases h with
  | infinite hxsign hx hq =>
    rw [mul_of_isInfinite hx hfinite hxsign hsign (by linarith)]
    exact .infinite rfl rfl (by nlinarith)
  | finite hxsign hx herror =>
    obtain ⟨herrorLow, herrorHigh⟩ := abs_le.1 herror
    have hfactor : |x.value * y.value - q * y.value| ≤ e * y.value := by
      rw [← sub_mul, abs_mul, abs_of_nonneg (by linarith : (0 : ℚ) ≤ y.value)]
      exact mul_le_mul_of_nonneg_right herror (by linarith)
    have hproduct : x.value * y.value ≤ (q + e) * y.value :=
      mul_le_mul_of_nonneg_right (by linarith) (by linarith)
    obtain ⟨hnegative, ⟨hz, hrounding⟩ | ⟨hz, hlarge⟩⟩ := mul_cases hx hfinite hxsign hsign
    · -- The error of the factor grows with the other factor, and the product is rounded once more.
      refine .finite hnegative hz ?_
      calc |(x.mul y).value - q * y.value|
        _ ≤ |(x.mul y).value - x.value * y.value| + |x.value * y.value - q * y.value| :=
            abs_sub_le _ _ _
        _ ≤ (x.value * y.value / 2 ^ 53 + finest) + e * y.value := add_le_add hrounding hfactor
        _ ≤ (q + e) * y.value / 2 ^ 53 + finest + e * y.value := by linarith
    · refine .infinite hnegative hz ?_
      have hbound : (q + e) * y.value ≤ 2 * (q * y.value) + 2 ^ 20 := by nlinarith
      linarith

/-! ### Nearest whole numbers -/

/-- The whole number nearest to a double is off by at most a half. -/
theorem abs_round_sub_le {x : Double} (hsign : x.negative = false) :
    |(x.round : ℚ) - x.value| ≤ 1 / 2 := by
  have hround : x.round = (2 * (unitsOf x.magnitude : Int) + unitsPerOne) / (2 * unitsPerOne) := by
    unfold round
    rw [hsign]
    rfl
  have hpos : (0 : Int) < 2 * unitsPerOne :=
    Int.mul_pos (by decide) (Int.natCast_pos.2 unitsPerOne_pos)
  have hlow := Int.ediv_mul_le (2 * (unitsOf x.magnitude : Int) + unitsPerOne) hpos.ne'
  have hhigh := Int.lt_ediv_add_one_mul_self (2 * (unitsOf x.magnitude : Int) + unitsPerOne) hpos
  rw [← hround] at hlow hhigh
  have hlow' : (x.round : ℚ) * (2 * unitsPerOne) ≤ 2 * unitsOf x.magnitude + unitsPerOne := by
    exact_mod_cast hlow
  have hhigh' : 2 * (unitsOf x.magnitude : ℚ) + unitsPerOne <
      (x.round + 1) * (2 * unitsPerOne) := by exact_mod_cast hhigh
  have hone := unitsPerOne_cast_pos
  rw [value_of_negative_eq_false hsign]
  generalize (unitsPerOne : ℚ) = one at *
  have hvalue : (unitsOf x.magnitude : ℚ) / one * one = unitsOf x.magnitude :=
    div_mul_cancel₀ _ hone.ne'
  rw [abs_le]
  constructor <;> nlinarith

/-- A double without a minus does not round to a number below zero. -/
theorem round_nonneg {x : Double} (hsign : x.negative = false) : 0 ≤ x.round := by
  unfold round
  rw [hsign]
  exact Int.ediv_nonneg (by omega) (by omega)

/-- Out of the range of 64 bits with sign a double is rounded to the bound. -/
theorem toInt_roundToInt64 {x : Double} (hsign : x.negative = false) (hfinite : x.isFinite = true) :
    x.roundToInt64.toInt = min Int64.maxValue.toInt x.round := by
  have hround := round_nonneg hsign
  have hmax : Int64.maxValue.toInt = 2 ^ 63 - 1 := rfl
  have hmin : Int64.minValue.toInt = -2 ^ 63 := rfl
  unfold roundToInt64
  rw [isNaN_of_isFinite hfinite, isInfinite_of_isFinite hfinite]
  simp only [Bool.false_eq_true, if_false]
  rw [Int64.toInt_ofInt_of_le (by omega) (by omega)]
  omega

theorem roundToInt64_of_isInfinite {x : Double} (hsign : x.negative = false)
    (hinfinite : x.isInfinite = true) : x.roundToInt64 = Int64.maxValue := by
  have hmagnitude : x.magnitude = infiniteMagnitude := beq_iff_eq.1 hinfinite
  have hnan : x.isNaN = false := decide_eq_false (by omega)
  unfold roundToInt64
  rw [hnan, hinfinite, hsign]
  rfl

end Double

/-! ### Decimals -/

/-- The number that an unsigned decimal writes. -/
def DecimalText.value (d : DecimalText) : ℚ := d.coefficient * 10 ^ d.exponent

namespace DecimalText

theorem value_nonneg (d : DecimalText) : 0 ≤ d.value := by
  unfold value
  positivity

/-- A decimal with its power of ten on either side of the quotient. -/
theorem value_eq_div (d : DecimalText) :
    d.value = ((d.coefficient * Nat.pow 10 d.exponent.toNat : Nat) : ℚ) /
      (Nat.pow 10 (-d.exponent).toNat : Nat) := by
  have hten : (10 : ℚ) ≠ 0 := by norm_num
  have hsplit : d.exponent = d.exponent.toNat - ((-d.exponent).toNat : Int) := by omega
  unfold value
  rw [hsplit, zpow_sub₀ hten, zpow_natCast, zpow_natCast, ← hsplit, ← mul_div_assoc]
  push_cast [Nat.pow_eq]
  rfl

/-- A decimal with a large power of ten is large. -/
theorem le_value_of_lt_exponent {d : DecimalText} (hne : d.coefficient ≠ 0)
    (h : 400 < d.exponent) : (2 : ℚ) ^ 100 ≤ d.value := by
  have hcoefficient : (1 : ℚ) ≤ d.coefficient := by exact_mod_cast Nat.one_le_iff_ne_zero.2 hne
  have hpower : (2 : ℚ) ^ 100 ≤ 10 ^ d.exponent := by
    calc (2 : ℚ) ^ 100
      _ ≤ 10 ^ (100 : ℤ) := by norm_num
      _ ≤ 10 ^ d.exponent := zpow_le_zpow_right₀ (by norm_num) (by omega)
  unfold value
  nlinarith

/-- A decimal far behind the point is smaller than half the finest spacing. -/
theorem value_le_finest {d : DecimalText}
    (h : d.exponent + (d.coefficient.log2 + 1) < -400) : d.value ≤ Double.finest := by
  have hten : (0 : ℚ) < 10 ^ d.exponent := by positivity
  have hcoefficient : (d.coefficient : ℚ) ≤ 10 ^ (d.coefficient.log2 + 1 : ℤ) := by
    have hlt : d.coefficient < 2 ^ (d.coefficient.log2 + 1) := Nat.lt_log2_self
    have hle : 2 ^ (d.coefficient.log2 + 1) ≤ 10 ^ (d.coefficient.log2 + 1) :=
      Nat.pow_le_pow_left (by decide) _
    exact_mod_cast (hlt.le.trans hle)
  have hpower : d.value ≤ 10 ^ (-400 : ℤ) := by
    unfold value
    calc (d.coefficient : ℚ) * 10 ^ d.exponent
      _ ≤ 10 ^ (d.coefficient.log2 + 1 : ℤ) * 10 ^ d.exponent :=
          mul_le_mul_of_nonneg_right hcoefficient hten.le
      _ = 10 ^ ((d.coefficient.log2 + 1 : ℤ) + d.exponent) := (zpow_add₀ (by norm_num) _ _).symm
      _ ≤ 10 ^ (-400 : ℤ) := zpow_le_zpow_right₀ (by norm_num) (by omega)
  obtain ⟨digits, hdigits⟩ : ∃ digits : Nat, (digits : Int) = 400 := ⟨400, rfl⟩
  have hunits : 2 * Double.unitsPerOne ≤ 10 ^ digits := by
    obtain ⟨p, hp, hone⟩ := Double.exists_unitsPerOne_eq
    calc 2 * Double.unitsPerOne
      _ = 2 ^ (p + 1) := by rw [hone, Nat.pow_succ, Nat.mul_comm]
      _ ≤ 2 ^ (3 * digits) := Nat.pow_le_pow_right (by decide) (by omega)
      _ = 8 ^ digits := Nat.pow_mul 2 3 digits
      _ ≤ 10 ^ digits := Nat.pow_le_pow_left (by decide) digits
  have hfinest : (1 : ℚ) / 10 ^ digits ≤ Double.finest := by
    have hcast : (2 : ℚ) * Double.unitsPerOne ≤ 10 ^ digits := by exact_mod_cast hunits
    have hone := Double.unitsPerOne_cast_pos
    unfold Double.finest
    generalize (Double.unitsPerOne : ℚ) = one at hone hcast
    exact one_div_le_one_div_of_le (by linarith) hcast
  rw [← hdigits, zpow_neg, zpow_natCast, ← one_div] at hpower
  exact hpower.trans hfinest

/-- The double that a decimal is read as stands for the decimal. -/
theorem roundBy_stands (d : DecimalText) :
    (d.roundBy Double.ofRatio false).Stands d.value (d.value / 2 ^ 53 + Double.finest) := by
  have hnonneg := d.value_nonneg
  have hfinest := Double.finest_pos
  have hzero : (Double.zero false).value = 0 := Double.value_zero false
  unfold roundBy
  split
  · next h =>
    have hvalue : d.value = 0 := by
      rw [value, beq_iff_eq.1 h]
      simp
    refine .finite rfl rfl ?_
    rw [hzero, hvalue]
    simp [hfinest.le]
  · next hne =>
    have hcoefficient : d.coefficient ≠ 0 := by simpa using hne
    split
    · next hlarge => exact .infinite rfl rfl (le_value_of_lt_exponent hcoefficient hlarge)
    · split
      · next hsmall =>
        have hvalue := value_le_finest hsmall
        refine .finite rfl rfl ?_
        rw [hzero, zero_sub, abs_neg, abs_of_nonneg hnonneg]
        linarith [div_nonneg hnonneg (by norm_num : (0 : ℚ) ≤ 2 ^ 53)]
      · rw [value_eq_div]
        rcases Double.ofRatio_cases (Nat.pow_pos (by decide : 0 < 10)) with
          ⟨hfinite, herror⟩ | ⟨hinfinite, hlarge⟩
        · exact .finite rfl hfinite herror
        · exact .infinite rfl hinfinite (le_trans (by norm_num) hlarge)

end DecimalText

end RecordQuery
