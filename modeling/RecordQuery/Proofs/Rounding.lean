import RecordQuery.Double.Arithmetic

/-!
# Rounding keeps the order

The double nearest to a quotient grows with the numerator (`nearestMagnitude_mono`), across the
steps where the spacing of doubles changes as well, and so the double nearest to a whole number
grows with the number (`rank_ofInt_mono`).  Equal quotients have the same nearest double
(`nearestMagnitude_mul_mul`).  Rounding is not injective: whole numbers of more than 53 bits share
their nearest double with neighbours.
-/

namespace RecordQuery.Double

/-! ### Nearest natural numbers -/

/-- A larger numerator does not round to a smaller number. -/
theorem roundHalfEven_mono {num num' : Nat} (den : Nat) (h : num ≤ num') :
    roundHalfEven num den ≤ roundHalfEven num' den := by
  have hq : num / den ≤ num' / den := Nat.div_le_div_right h
  have hsum := Nat.div_add_mod num den
  have hsum' := Nat.div_add_mod num' den
  unfold roundHalfEven
  dsimp only
  rcases Nat.lt_or_ge (num / den) (num' / den) with hlt | hge
  · split <;> split <;> omega
  · -- With equal quotients the larger remainder rounds up if the smaller one does.
    have heq : num / den = num' / den := Nat.le_antisymm hq hge
    rw [← heq] at hsum' ⊢
    have hr : num % den ≤ num' % den := by omega
    split
    · split <;> omega
    · next hup =>
      split
      · next hdown =>
        exfalso
        apply hup
        simp only [Bool.or_eq_true, decide_eq_true_eq, Bool.and_eq_true, beq_iff_eq] at hdown ⊢
        omega
      · exact Nat.le_refl _

/-- A whole quotient rounds to itself. -/
theorem roundHalfEven_mul {den : Nat} (hden : 0 < den) (n : Nat) :
    roundHalfEven (n * den) den = n := by
  unfold roundHalfEven
  dsimp only
  rw [Nat.mul_mod_left, Nat.mul_div_cancel n hden]
  simp [hden]

/-- What is at most a natural number does not round beyond it. -/
theorem roundHalfEven_le {num den n : Nat} (hden : 0 < den) (h : num ≤ n * den) :
    roundHalfEven num den ≤ n := by
  have hround := roundHalfEven_mono den h
  rwa [roundHalfEven_mul hden] at hround

/-- What is at least a natural number does not round below it. -/
theorem le_roundHalfEven {num den n : Nat} (hden : 0 < den) (h : n * den ≤ num) :
    n ≤ roundHalfEven num den := by
  have hround := roundHalfEven_mono den h
  rwa [roundHalfEven_mul hden] at hround

/-! ### Nearest doubles -/

/-- How far the nearest double of a quotient is from the finest spacing. -/
def spacing (num den : Nat) : Nat := (num * unitsPerOne / den).log2 - 52

/-- The digits of the nearest double of a quotient, rounded to its spacing. -/
def significand (num den : Nat) : Nat :=
  roundHalfEven (num * unitsPerOne) (den * (1 <<< spacing num den))

theorem nearestMagnitude_eq (num den : Nat) :
    nearestMagnitude num den =
      min infiniteMagnitude (spacing num den * (1 <<< 52) + significand num den) := rfl

/-- Counted in its spacing a quotient has at most 53 bits. -/
theorem lt_shiftLeft_spacing {num den : Nat} (hden : 0 < den) :
    num * unitsPerOne < 1 <<< (53 + spacing num den) * den := by
  have hlog : num * unitsPerOne / den < 2 ^ ((num * unitsPerOne / den).log2 + 1) :=
    Nat.lt_log2_self
  have hspacing : (num * unitsPerOne / den).log2 + 1 ≤ 53 + spacing num den := by
    unfold spacing
    omega
  have hpow := Nat.lt_of_lt_of_le hlog (Nat.pow_le_pow_right (by decide) hspacing)
  rwa [← Nat.one_shiftLeft, Nat.div_lt_iff_lt_mul hden] at hpow

/-- Above the finest spacing a quotient has at least 53 bits when it is counted in its spacing. -/
theorem shiftLeft_spacing_le {num den : Nat} (hden : 0 < den) (h : 0 < spacing num den) :
    1 <<< (52 + spacing num den) * den ≤ num * unitsPerOne := by
  have hne : num * unitsPerOne / den ≠ 0 := by
    intro hzero
    unfold spacing at h
    rw [hzero] at h
    exact absurd h (by decide)
  have hspacing : 52 + spacing num den = (num * unitsPerOne / den).log2 := by
    unfold spacing at h ⊢
    omega
  have hpow : 2 ^ (52 + spacing num den) ≤ num * unitsPerOne / den := by
    rw [hspacing]
    exact Nat.log2_self_le hne
  rwa [← Nat.one_shiftLeft, Nat.le_div_iff_mul_le hden] at hpow

/-- A significand has at most 53 bits, or is the next power of two. -/
theorem significand_le {num den : Nat} (hden : 0 < den) : significand num den ≤ 1 <<< 53 := by
  have hpow := @lt_shiftLeft_spacing num den hden
  rw [Nat.one_shiftLeft, Nat.pow_add, Nat.mul_assoc] at hpow
  unfold significand
  simp only [Nat.one_shiftLeft]
  refine roundHalfEven_le (Nat.mul_pos hden (Nat.two_pow_pos _)) ?_
  rw [Nat.mul_comm den]
  exact Nat.le_of_lt hpow

/-- Above the finest spacing a significand has at least 53 bits. -/
theorem le_significand {num den : Nat} (hden : 0 < den) (h : 0 < spacing num den) :
    1 <<< 52 ≤ significand num den := by
  have hpow := shiftLeft_spacing_le hden h
  rw [Nat.one_shiftLeft, Nat.pow_add, Nat.mul_assoc] at hpow
  unfold significand
  simp only [Nat.one_shiftLeft]
  refine le_roundHalfEven (Nat.mul_pos hden (Nat.two_pow_pos _)) ?_
  rw [Nat.mul_comm den]
  exact hpow

/-- A larger numerator does not have a finer spacing. -/
theorem spacing_mono {num num' : Nat} (den : Nat) (h : num ≤ num') :
    spacing num den ≤ spacing num' den := by
  have hquotient : num * unitsPerOne / den ≤ num' * unitsPerOne / den :=
    Nat.div_le_div_right (Nat.mul_le_mul_right _ h)
  have hlog : (num * unitsPerOne / den).log2 ≤ (num' * unitsPerOne / den).log2 := by
    rcases Nat.eq_zero_or_pos (num * unitsPerOne / den) with hzero | hpos
    · rw [hzero]
      exact Nat.zero_le _
    · rw [Nat.le_log2 (by omega)]
      exact Nat.le_trans (Nat.log2_self_le (by omega)) hquotient
  unfold spacing
  omega

/-- A larger numerator does not have a nearest double of smaller magnitude. -/
theorem nearestMagnitude_mono {num num' den : Nat} (hden : 0 < den) (h : num ≤ num') :
    nearestMagnitude num den ≤ nearestMagnitude num' den := by
  have hstep : spacing num den * (1 <<< 52) + significand num den ≤
      spacing num' den * (1 <<< 52) + significand num' den := by
    rcases Nat.lt_or_ge (spacing num den) (spacing num' den) with hlt | hge
    · -- A coarser spacing starts where the finer one ends.
      have hup : significand num den ≤ 1 <<< 53 := significand_le hden
      have hdown : 1 <<< 52 ≤ significand num' den := le_significand hden (by omega)
      omega
    · have heq : spacing num den = spacing num' den :=
        Nat.le_antisymm (spacing_mono den h) hge
      have hround : significand num den ≤ significand num' den := by
        unfold significand
        rw [← heq]
        exact roundHalfEven_mono _ (Nat.mul_le_mul_right _ h)
      omega
  rw [nearestMagnitude_eq, nearestMagnitude_eq]
  omega

/-! ### Equal quotients -/

/-- Rounding sees the quotient only. -/
theorem roundHalfEven_mul_mul {c : Nat} (hc : 0 < c) (num den : Nat) :
    roundHalfEven (num * c) (den * c) = roundHalfEven num den := by
  have hquotient : num * c / (den * c) = num / den := Nat.mul_div_mul_right num den hc
  have hrest : num * c % (den * c) = num % den * c := Nat.mul_mod_mul_right c num den
  have hlt : 2 * (num % den * c) < den * c ↔ 2 * (num % den) < den := by
    rw [← Nat.mul_assoc]
    exact Nat.mul_lt_mul_right hc
  have heq : 2 * (num % den * c) = den * c ↔ 2 * (num % den) = den := by
    rw [← Nat.mul_assoc]
    exact Nat.mul_left_inj (Nat.ne_of_gt hc)
  unfold roundHalfEven
  simp only [hquotient, hrest, hlt, beq_iff_eq, heq, Bool.or_eq_true, decide_eq_true_eq,
    Bool.and_eq_true]

/-- Equal quotients have the same nearest double. -/
theorem nearestMagnitude_mul_mul {c : Nat} (hc : 0 < c) (num den : Nat) :
    nearestMagnitude (num * c) (den * c) = nearestMagnitude num den := by
  have hspacing : spacing (num * c) (den * c) = spacing num den := by
    unfold spacing
    rw [Nat.mul_right_comm, Nat.mul_div_mul_right _ _ hc]
  have hsignificand : significand (num * c) (den * c) = significand num den := by
    unfold significand
    rw [hspacing, Nat.mul_right_comm, Nat.mul_right_comm den, roundHalfEven_mul_mul hc]
  rw [nearestMagnitude_eq, nearestMagnitude_eq, hspacing, hsignificand]

/-! ### Whole numbers -/

/-- The double nearest to a whole number is a number. -/
theorem isNaN_ofInt (n : Int) : (ofInt n).isNaN = false := by
  have hle : (ofInt n).magnitude ≤ infiniteMagnitude := Nat.min_le_left _ _
  unfold isNaN
  rw [decide_eq_false_iff_not]
  omega

/-- The rank of the double nearest to a whole number. -/
theorem rank_ofInt (n : Int) :
    (ofInt n).rank = if n < 0 then -(nearestMagnitude n.natAbs 1 : Int)
      else nearestMagnitude n.natAbs 1 := by
  unfold rank ofInt ofRatio
  by_cases hn : n < 0 <;> simp [hn]

/-- A larger whole number does not have a smaller nearest double. -/
theorem rank_ofInt_mono {m n : Int} (h : m ≤ n) : (ofInt m).rank ≤ (ofInt n).rank := by
  rw [rank_ofInt, rank_ofInt]
  by_cases hm : m < 0
  · by_cases hn : n < 0
    · have hmono : nearestMagnitude n.natAbs 1 ≤ nearestMagnitude m.natAbs 1 :=
        nearestMagnitude_mono Nat.one_pos (by omega)
      rw [if_pos hm, if_pos hn]
      omega
    · rw [if_pos hm, if_neg hn]
      omega
  · have hn : ¬ n < 0 := by omega
    have hmono : nearestMagnitude m.natAbs 1 ≤ nearestMagnitude n.natAbs 1 :=
      nearestMagnitude_mono Nat.one_pos (by omega)
    rw [if_neg hm, if_neg hn]
    omega

/-- Whole numbers are ordered by their nearest doubles, and at one double by value. -/
theorem compare_rank_ofInt_then (m n : Int) :
    (compare (ofInt m).rank (ofInt n).rank).then (compare m n) = compare m n := by
  rcases Int.lt_trichotomy m n with h | h | h
  · have hrank : (ofInt m).rank ≤ (ofInt n).rank := rank_ofInt_mono (Int.le_of_lt h)
    rw [Int.compare_eq_lt.2 h, Ordering.then_eq_lt]
    rcases Int.lt_or_eq_of_le hrank with hlt | heq
    · exact Or.inl (Int.compare_eq_lt.2 hlt)
    · exact Or.inr ⟨Int.compare_eq_eq.2 heq, rfl⟩
  · subst h
    simp
  · have hrank : (ofInt n).rank ≤ (ofInt m).rank := rank_ofInt_mono (Int.le_of_lt h)
    rw [Int.compare_eq_gt.2 h, Ordering.then_eq_gt]
    rcases Int.lt_or_eq_of_le hrank with hlt | heq
    · exact Or.inl (Int.compare_eq_gt.2 hlt)
    · exact Or.inr ⟨Int.compare_eq_eq.2 heq.symm, rfl⟩

end RecordQuery.Double
