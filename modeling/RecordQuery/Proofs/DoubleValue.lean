import Mathlib.Algebra.Order.Field.Rat
import Mathlib.Tactic.Linarith
import Mathlib.Tactic.NormNum
import Mathlib.Tactic.Ring
import RecordQuery.Proofs.Rounding

/-!
# The value of a double

Every finite double has an exact rational value (`Double.value`).  The value grows with the rank
(`value_le_of_rank_le`), so it also grows with a whole number that is rounded
(`value_ofInt_mono`), and `toInt?` gives the value of a double where this is a whole number, and
nothing anywhere else (`toInt?_eq_some_iff`).

Rounding a whole number looks at its first 53 bits (`nearestMagnitude_whole`).  One that has only
zeros behind them is a double (`isExact_mul_two_pow`), and then this is its value
(`value_ofInt_of_isExact`).

Above `2 ^ 63` doubles are 2048 apart.  So a whole number next to this bound rounds to it, and no
double lies between the bound and the next one (`value_le_limit_or`).
-/

namespace RecordQuery.Double

theorem unitsPerOne_pos : 0 < unitsPerOne := by decide

/-! ### Exact values -/

/-- The value of a finite double. -/
def value (x : Double) : ℚ := x.units / unitsPerOne

theorem value_eq_intCast_iff {x : Double} {n : Int} :
    x.value = n ↔ x.units = n * unitsPerOne := by
  have hone : (unitsPerOne : ℚ) ≠ 0 := Nat.cast_ne_zero.2 unitsPerOne_pos.ne'
  unfold value
  rw [div_eq_iff hone]
  exact_mod_cast Iff.rfl

/-- A double is a whole number when it is finite and its value is one. -/
theorem toInt?_eq_some_iff {x : Double} {n : Int} :
    x.toInt? = some n ↔ x.isFinite = true ∧ x.value = n := by
  have hone : (unitsPerOne : Int) ≠ 0 := Int.natCast_ne_zero.2 unitsPerOne_pos.ne'
  rw [value_eq_intCast_iff]
  unfold toInt?
  cases x.isFinite with
  | false => simp
  | true =>
    simp only [Bool.true_and, beq_iff_eq, true_and]
    constructor
    · intro h
      split at h
      · next hmod =>
        cases h
        exact (Int.ediv_mul_cancel_of_emod_eq_zero hmod).symm
      · cases h
    · intro h
      rw [h, if_pos (Int.mul_emod_left n _), Int.mul_ediv_cancel n hone]

/-! ### Order -/

/-- The next magnitude is a larger value. -/
theorem unitsOf_lt_succ (m : Nat) : unitsOf m < unitsOf (m + 1) := by
  unfold unitsOf
  simp only [Nat.one_shiftLeft]
  have hpos : 0 < 2 ^ 52 := Nat.two_pow_pos 52
  rcases Nat.lt_trichotomy (m + 1) (2 ^ 52) with h | h | h
  · rw [if_pos (by omega), if_pos h]
    omega
  · rw [if_pos (by omega), if_neg (by omega), h, Nat.mod_self, Nat.div_self hpos]
    omega
  · rw [if_neg (by omega), if_neg (by omega)]
    have hsum := Nat.div_add_mod m (2 ^ 52)
    have hmod := Nat.mod_lt m hpos
    have hquotient : 1 ≤ m / 2 ^ 52 := (Nat.one_le_div_iff hpos).2 (by omega)
    rcases Nat.lt_or_ge (m % 2 ^ 52 + 1) (2 ^ 52) with hstep | hstep
    · -- The significand grows, and the spacing stays.
      have hdiv : (m + 1) / 2 ^ 52 = m / 2 ^ 52 := by omega
      have hrest : (m + 1) % 2 ^ 52 = m % 2 ^ 52 + 1 := by omega
      rw [hdiv, hrest]
      exact Nat.mul_lt_mul_of_pos_right (by omega) (Nat.two_pow_pos _)
    · -- The spacing doubles, and the significand starts again.
      have hdiv : (m + 1) / 2 ^ 52 - 1 = (m / 2 ^ 52 - 1) + 1 := by omega
      have hrest : (m + 1) % 2 ^ 52 = 0 := by omega
      have hdouble : (2 ^ 52 + 0) * 2 ^ (m / 2 ^ 52 - 1 + 1) =
          (2 ^ 52 + 2 ^ 52) * 2 ^ (m / 2 ^ 52 - 1) := by ring
      rw [hdiv, hrest, hdouble]
      exact Nat.mul_lt_mul_of_pos_right (by omega) (Nat.two_pow_pos _)

/-- A larger magnitude is a larger value. -/
theorem unitsOf_mono {m n : Nat} (h : m ≤ n) : unitsOf m ≤ unitsOf n :=
  (strictMono_nat_of_lt_succ unitsOf_lt_succ).monotone h

/-- A double of larger rank has no smaller value. -/
theorem value_le_of_rank_le {x y : Double} (h : x.rank ≤ y.rank) : x.value ≤ y.value := by
  have hunits : x.units ≤ y.units := by
    obtain ⟨negative, m, hm⟩ := x
    obtain ⟨negative', n, hn⟩ := y
    unfold rank at h
    unfold units
    cases negative <;> cases negative' <;>
      simp only [↓reduceIte, Bool.false_eq_true] at h ⊢
    case false.false =>
      have hmono := unitsOf_mono (show m ≤ n by omega)
      omega
    case false.true =>
      -- Only the two zeros are ordered in this way.
      obtain rfl : m = 0 := by omega
      obtain rfl : n = 0 := by omega
      decide
    case true.false => omega
    case true.true =>
      have hmono := unitsOf_mono (show n ≤ m by omega)
      omega
  unfold value
  exact div_le_div_of_nonneg_right (Int.cast_le.2 hunits) (Nat.cast_nonneg _)

/-- A double of smaller rank has a smaller value. -/
theorem value_lt_of_rank_lt {x y : Double} (h : x.rank < y.rank) : x.value < y.value := by
  have hstrict : StrictMono unitsOf := strictMono_nat_of_lt_succ unitsOf_lt_succ
  have hunits : x.units < y.units := by
    obtain ⟨negative, m, hm⟩ := x
    obtain ⟨negative', n, hn⟩ := y
    unfold rank at h
    unfold units
    cases negative <;> cases negative' <;>
      simp only [↓reduceIte, Bool.false_eq_true] at h ⊢
    case false.false =>
      have hlt := hstrict (show m < n by omega)
      omega
    case false.true => omega
    case true.false =>
      have hm' : 0 < m → 0 < unitsOf m := fun hpos => hstrict hpos
      have hn' : 0 < n → 0 < unitsOf n := fun hpos => hstrict hpos
      omega
    case true.true =>
      have hlt := hstrict (show n < m by omega)
      omega
  unfold value
  exact div_lt_div_of_pos_right (Int.cast_lt.2 hunits) (Nat.cast_pos.2 unitsPerOne_pos)

/-- A larger whole number does not round to a smaller value. -/
theorem value_ofInt_mono {m n : Int} (h : m ≤ n) : (ofInt m).value ≤ (ofInt n).value :=
  value_le_of_rank_le (rank_ofInt_mono h)

/-! ### Bits of whole numbers -/

/-- The units that make one are a power of two.  Its exponent has a name, so that no arithmetic
writes the power out. -/
theorem exists_unitsPerOne_eq : ∃ p, p = 1074 ∧ unitsPerOne = 2 ^ p := by
  obtain ⟨p, hp, hone⟩ : ∃ p, p = 1074 ∧ unitsPerOne = 1 <<< p := ⟨1074, rfl, rfl⟩
  exact ⟨p, hp, hone.trans (Nat.one_shiftLeft p)⟩

/-- A power of two adds to the number of bits. -/
theorem log2_mul_two_pow {n : Nat} (h : n ≠ 0) (p : Nat) : (n * 2 ^ p).log2 = n.log2 + p := by
  have hpos : 0 < 2 ^ p := Nat.two_pow_pos p
  refine (Nat.log2_eq_iff (Nat.mul_ne_zero h hpos.ne')).2 ⟨?_, ?_⟩
  · rw [Nat.pow_add]
    exact Nat.mul_le_mul_right _ (Nat.log2_self_le h)
  · rw [Nat.add_right_comm, Nat.pow_add]
    exact Nat.mul_lt_mul_of_pos_right Nat.lt_log2_self hpos

/-- A whole number is rounded to its first 53 bits. -/
theorem nearestMagnitude_whole {n : Nat} (h : n ≠ 0) :
    nearestMagnitude n 1 = min infiniteMagnitude
      ((n.log2 + 1022) * 2 ^ 52 + roundHalfEven (n * 2 ^ 52) (2 ^ n.log2)) := by
  obtain ⟨p, hp, hone⟩ := exists_unitsPerOne_eq
  obtain ⟨q, rfl⟩ : ∃ q, p = 52 + q := ⟨1022, hp⟩
  have hq : q = 1022 := by omega
  have hspacing : spacing n 1 = n.log2 + q := by
    unfold spacing
    rw [Nat.div_one, hone, log2_mul_two_pow h]
    omega
  have hsignificand : significand n 1 = roundHalfEven (n * 2 ^ 52) (2 ^ n.log2) := by
    unfold significand
    rw [hspacing, hone, Nat.one_mul, Nat.one_shiftLeft, Nat.pow_add, Nat.pow_add, ← Nat.mul_assoc,
      roundHalfEven_mul_mul (Nat.two_pow_pos q)]
  rw [nearestMagnitude_eq, hspacing, hsignificand, hq, Nat.one_shiftLeft]

/-- The spacing at a whole number is bounded by its bits. -/
theorem spacing_le {n b : Nat} (h : n < 2 ^ (53 + b)) : spacing n 1 ≤ 1074 + b := by
  obtain ⟨p, hp, hone⟩ := exists_unitsPerOne_eq
  unfold spacing
  rw [Nat.div_one, hone, ← hp]
  rcases Nat.eq_zero_or_pos n with rfl | hpos
  · simp
  · have hlog := (Nat.log2_lt hpos.ne').2 h
    rw [log2_mul_two_pow hpos.ne']
    omega

/-- Whole numbers of at most 953 bits round to finite doubles. -/
theorem nearestMagnitude_lt_infinite {n b : Nat} (h : n < 2 ^ (53 + b)) (hb : b ≤ 900) :
    nearestMagnitude n 1 < infiniteMagnitude := by
  have hspacing := spacing_le h
  have hsignificand : significand n 1 ≤ 1 <<< 53 := significand_le Nat.one_pos
  have hvalue : infiniteMagnitude = 2047 * (1 <<< 52) := rfl
  rw [nearestMagnitude_eq]
  omega

/-! ### Exact whole numbers -/

/-- The value of the magnitude that a spacing and a significand make. -/
theorem unitsOf_spacing_add {k s : Nat} (hle : s ≤ 2 ^ 53) (hge : 0 < k → 2 ^ 52 ≤ s) :
    unitsOf (k * 2 ^ 52 + s) = s * 2 ^ k := by
  unfold unitsOf
  simp only [Nat.one_shiftLeft]
  rcases Nat.lt_or_ge s (2 ^ 52) with hsmall | hbig
  · obtain rfl : k = 0 := by omega
    rw [if_pos (by omega)]
    simp
  · rw [if_neg (by omega)]
    rcases Nat.lt_or_eq_of_le hle with hlt | rfl
    · have hdiv : (k * 2 ^ 52 + s) / 2 ^ 52 - 1 = k := by omega
      have hmod : 2 ^ 52 + (k * 2 ^ 52 + s) % 2 ^ 52 = s := by omega
      rw [hdiv, hmod]
    · -- The significand of the next power of two belongs to the next spacing.
      have hdiv : (k * 2 ^ 52 + 2 ^ 53) / 2 ^ 52 - 1 = k + 1 := by omega
      have hmod : 2 ^ 52 + (k * 2 ^ 52 + 2 ^ 53) % 2 ^ 52 = 2 ^ 52 := by omega
      rw [hdiv, hmod]
      ring

/-- A whole number is a double. -/
def IsExact (n : Nat) : Prop := unitsOf (nearestMagnitude n 1) = n * unitsPerOne

/-- Whole numbers of at most 53 bits and zeros behind them are doubles. -/
theorem isExact_mul_two_pow {s k : Nat} (hs : s < 2 ^ 53) (hk : k ≤ 900) : IsExact (s * 2 ^ k) := by
  obtain ⟨p, hp, hone⟩ := exists_unitsPerOne_eq
  have hlt : s * 2 ^ k < 2 ^ (53 + k) := by
    rw [Nat.pow_add]
    exact Nat.mul_lt_mul_of_pos_right hs (Nat.two_pow_pos k)
  have hspacing : spacing (s * 2 ^ k) 1 ≤ k + p := by
    have hle := spacing_le hlt
    omega
  have hunits : s * 2 ^ k * unitsPerOne =
      s * 2 ^ (k + p - spacing (s * 2 ^ k) 1) * 2 ^ spacing (s * 2 ^ k) 1 := by
    rw [Nat.mul_assoc, Nat.mul_assoc, ← Nat.pow_add, Nat.sub_add_cancel hspacing, hone,
      ← Nat.pow_add]
  have hsignificand : significand (s * 2 ^ k) 1 * 2 ^ spacing (s * 2 ^ k) 1 =
      s * 2 ^ k * unitsPerOne := by
    have hround : significand (s * 2 ^ k) 1 = s * 2 ^ (k + p - spacing (s * 2 ^ k) 1) := by
      unfold significand
      rw [Nat.one_mul, Nat.one_shiftLeft, hunits, roundHalfEven_mul (Nat.two_pow_pos _)]
    rw [hround, ← hunits]
  have hup : significand (s * 2 ^ k) 1 ≤ 1 <<< 53 := significand_le Nat.one_pos
  have hdown : 0 < spacing (s * 2 ^ k) 1 → 1 <<< 52 ≤ significand (s * 2 ^ k) 1 :=
    le_significand Nat.one_pos
  have hfinite := nearestMagnitude_lt_infinite hlt hk
  rw [Nat.one_shiftLeft] at hup hdown
  unfold IsExact
  rw [nearestMagnitude_eq] at hfinite ⊢
  have hbound := (min_lt_iff.1 hfinite).resolve_left (lt_irrefl _)
  rw [Nat.min_eq_right hbound.le, Nat.one_shiftLeft, unitsOf_spacing_add hup hdown, hsignificand]

/-- Whole numbers of at most 53 bits are doubles. -/
theorem isExact_of_lt {n : Nat} (h : n < 2 ^ 53) : IsExact n := by
  have hexact := isExact_mul_two_pow (k := 0) h (by decide)
  rwa [Nat.pow_zero, Nat.mul_one] at hexact

/-- A whole number that is a double has its value. -/
theorem value_ofInt_of_isExact {n : Int} (h : IsExact n.natAbs) : (ofInt n).value = n := by
  have hunits : unitsOf (ofInt n).magnitude = n.natAbs * unitsPerOne := h
  have hsign : (ofInt n).negative = decide (n < 0) := rfl
  rw [value_eq_intCast_iff, units, hunits, hsign, Nat.cast_mul]
  by_cases hneg : n < 0
  · have habs : (n.natAbs : Int) = -n := by omega
    rw [if_pos (decide_eq_true hneg), habs, neg_mul, neg_neg]
  · have habs : (n.natAbs : Int) = n := by omega
    rw [if_neg (by simpa using hneg), habs]

/-- Natural numbers of at most 53 bits become finite doubles of their value. -/
theorem ofInt_of_lt {n : Nat} (h : n < 2 ^ 53) :
    (ofInt n).negative = false ∧ (ofInt n).isFinite = true ∧ (ofInt n).value = n := by
  refine ⟨?_, ?_, ?_⟩
  · exact decide_eq_false (Int.not_lt.2 (Int.natCast_nonneg n))
  · exact decide_eq_true (nearestMagnitude_lt_infinite (b := 0) h (by decide))
  · exact_mod_cast value_ofInt_of_isExact (n := (n : Int)) (isExact_of_lt h)

/-! ### The bound of 64 bits with sign -/

/-- The smallest whole number above all that fit 64 bits with sign. -/
def limit : Int := 2 ^ 63

/-- The limit is a double. -/
theorem value_ofInt_limit : (ofInt limit).value = limit :=
  value_ofInt_of_isExact (isExact_mul_two_pow (s := 1) (k := 63) (by decide) (by decide))

theorem isFinite_ofInt_limit : (ofInt limit).isFinite = true :=
  decide_eq_true (nearestMagnitude_lt_infinite (b := 11) (by decide) (by decide))

/-- The whole number 2048 above the limit is a double as well. -/
theorem value_ofInt_next : (ofInt (limit + 2048)).value = (limit + 2048 : Int) := by
  have hexact : IsExact ((2 ^ 52 + 1) * 2 ^ 11) := isExact_mul_two_pow (by decide) (by decide)
  exact value_ofInt_of_isExact hexact

/-- The first whole numbers above the limit round to it, and the last ones below the next double
round to that. -/
theorem nearestMagnitude_limit :
    nearestMagnitude (limit + 1024).natAbs 1 = nearestMagnitude limit.natAbs 1 ∧
      nearestMagnitude (limit + 1025).natAbs 1 = nearestMagnitude limit.natAbs 1 + 1 ∧
        nearestMagnitude (limit + 2048).natAbs 1 = nearestMagnitude limit.natAbs 1 + 1 := by
  rw [nearestMagnitude_whole (by decide), nearestMagnitude_whole (by decide),
    nearestMagnitude_whole (by decide), nearestMagnitude_whole (by decide)]
  decide

/-- Up to 1024 above the limit whole numbers round to it. -/
theorem ofInt_eq_limit {n : Int} (hlow : limit ≤ n) (hhigh : n ≤ limit + 1024) :
    ofInt n = ofInt limit := by
  have hlimit : limit = 2 ^ 63 := rfl
  have hfirst : nearestMagnitude limit.natAbs 1 ≤ nearestMagnitude n.natAbs 1 :=
    nearestMagnitude_mono Nat.one_pos (by omega)
  have hlast : nearestMagnitude n.natAbs 1 ≤ nearestMagnitude (limit + 1024).natAbs 1 :=
    nearestMagnitude_mono Nat.one_pos (by omega)
  have hsame := nearestMagnitude_limit.1
  have hmagnitude : nearestMagnitude n.natAbs 1 = nearestMagnitude limit.natAbs 1 := by omega
  have hsign : decide (n < 0) = decide (limit < 0) := by
    rw [decide_eq_false (by omega), decide_eq_false (by omega)]
  unfold ofInt ofRatio
  simp only [hmagnitude, hsign]

/-- Whole numbers further above the limit do not round to it. -/
theorem limit_lt_value_ofInt {n : Int} (h : limit + 1024 < n) : limit < (ofInt n).value := by
  have hranks : (ofInt limit).rank < (ofInt (limit + 1025)).rank := by
    have hmagnitude := nearestMagnitude_limit.2.1
    rw [rank_ofInt, rank_ofInt, if_neg (by decide), if_neg (by decide)]
    omega
  have hmono : (ofInt (limit + 1025)).rank ≤ (ofInt n).rank := rank_ofInt_mono (by omega)
  rw [← value_ofInt_limit]
  exact value_lt_of_rank_lt (hranks.trans_le hmono)

/-- Whole numbers below zero round to negative numbers. -/
theorem value_ofInt_neg {n : Int} (h : n < 0) : (ofInt n).value < 0 := by
  have hlast : (ofInt (-1)).value = (-1 : Int) :=
    value_ofInt_of_isExact (isExact_of_lt (by decide))
  have hmono : (ofInt n).value ≤ (ofInt (-1)).value := value_ofInt_mono (by omega)
  rw [hlast] at hmono
  push_cast at hmono
  linarith

/-- No double lies between the limit and the next double, 2048 above it. -/
theorem value_le_limit_or (x : Double) : x.value ≤ limit ∨ limit + 2048 ≤ x.value := by
  have hranks : (ofInt (limit + 2048)).rank = (ofInt limit).rank + 1 := by
    have hmagnitude := nearestMagnitude_limit.2.2
    rw [rank_ofInt, rank_ofInt, if_neg (by decide), if_neg (by decide)]
    omega
  rcases lt_or_ge (ofInt limit).rank x.rank with h | h
  · right
    have hle := value_le_of_rank_le (x := ofInt (limit + 2048)) (y := x) (by omega)
    rw [value_ofInt_next] at hle
    exact_mod_cast hle
  · left
    rw [← value_ofInt_limit]
    exact value_le_of_rank_le h

end RecordQuery.Double
