import RecordQuery.Proofs.DurationText
import RecordQuery.Proofs.RoundingError

/-!
# The sign of a duration

A minus in front of a text negates the duration that is read (`ofText?_minus`).  The form with
designators has no other signs, so that there the sign in front is the sign of the duration.  In the
clock form each component but the seconds may have a sign of its own, of which only the bound on the
minutes takes notice, and the sign in front is the sign of the duration when the components add up
to a number that is not below zero (`leadingSign_of_ofText?`).
-/

namespace RecordQuery

open Text

namespace Double

/-- A double that stands for a number does not round to a whole number below zero. -/
theorem Stands.roundToInt64_mem {x : Double} {q e : ℚ} (h : x.Stands q e) :
    0 ≤ x.roundToInt64.toInt ∧ x.roundToInt64.toInt ≤ Duration.maxMilliseconds := by
  have hmax : Int64.maxValue.toInt = Duration.maxMilliseconds := rfl
  cases h with
  | infinite hsign hx _ =>
    rw [roundToInt64_of_isInfinite hsign hx]
    exact ⟨by decide, le_of_eq hmax⟩
  | finite hsign hx _ =>
    have hround := round_nonneg hsign
    have hnonneg : 0 ≤ Duration.maxMilliseconds := by decide
    rw [toInt_roundToInt64 hsign hx, hmax]
    omega

end Double

namespace Duration

/-! ### Milliseconds of an amount -/

namespace Amount

/-- The milliseconds that the amount writes. -/
def exact (p : Amount) : ℚ := p.decimal.value * p.unit * 1000

theorem exact_nonneg (p : Amount) : 0 ≤ p.exact := by
  have hdecimal := p.decimal.value_nonneg
  unfold exact
  positivity

/-- The length of a unit is a double. -/
theorem ofInt_unit (p : Amount) :
    (Double.ofInt p.unit).negative = false ∧ (Double.ofInt p.unit).isFinite = true ∧
      (Double.ofInt p.unit).value = p.unit := by
  have hbits : ∀ unit ∈ unitLengths, unit < 2 ^ 53 := by decide
  exact Double.ofInt_of_lt (hbits p.unit p.unit_mem)

/-- A thousand is a double. -/
theorem ofInt_thousand :
    (Double.ofInt 1000).negative = false ∧ (Double.ofInt 1000).isFinite = true ∧
      (Double.ofInt 1000).value = 1000 := by
  exact_mod_cast Double.ofInt_of_lt (n := 1000) (by decide)

/-- The product stands for the milliseconds that the amount writes. -/
theorem product_stands (p : Amount) : p.product.Stands p.exact (p.exact / 2 ^ 51 + 1 / 2) := by
  obtain ⟨husign, hufinite, huvalue⟩ := p.ofInt_unit
  obtain ⟨htsign, htfinite, htvalue⟩ := ofInt_thousand
  have hunit : 1 ≤ p.unit ∧ p.unit ≤ 2 ^ 20 := by
    have hbounds : ∀ unit ∈ unitLengths, 1 ≤ unit ∧ unit ≤ 2 ^ 20 := by decide
    exact hbounds p.unit p.unit_mem
  have hlow : (1 : ℚ) ≤ p.unit := by exact_mod_cast hunit.1
  have hhigh : (p.unit : ℚ) ≤ 2 ^ 20 := by exact_mod_cast hunit.2
  have hdecimal := p.decimal.value_nonneg
  have hunitNonneg : (0 : ℚ) ≤ p.unit := Nat.cast_nonneg _
  have hproduct : 0 ≤ p.decimal.value * p.unit := mul_nonneg hdecimal hunitNonneg
  have hfinest := Double.finest_pos
  have hfinestLe := Double.finest_le
  have hfinestUnit : Double.finest * p.unit ≤ 1 / 2 ^ 80 := by
    calc Double.finest * p.unit
      _ ≤ 1 / 2 ^ 100 * 2 ^ 20 := mul_le_mul hfinestLe hhigh hunitNonneg (by norm_num)
      _ = 1 / 2 ^ 80 := by norm_num
  -- The amount, the seconds and the milliseconds are rounded one after the other.
  have hamount := p.decimal.roundBy_stands
  have hseconds := hamount.mul (by linarith) husign hufinite (by rw [huvalue]; exact hlow)
    (by rw [huvalue]; exact hhigh)
  rw [huvalue] at hseconds
  have hmilliseconds := hseconds.mul (by linarith) htsign htfinite (by rw [htvalue]; norm_num)
    (by rw [htvalue]; norm_num)
  rw [htvalue] at hmilliseconds
  refine hmilliseconds.mono ?_
  unfold exact
  linarith

theorem milliseconds_mem (p : Amount) : 0 ≤ p.milliseconds ∧ p.milliseconds ≤ maxMilliseconds :=
  p.product_stands.roundToInt64_mem

end Amount

/-- The sum of amounts is not below zero. -/
theorem sum_milliseconds_nonneg (parts : List Amount) :
    0 ≤ (parts.map Amount.milliseconds).sum := by
  refine List.sum_nonneg fun ms hms => ?_
  obtain ⟨p, -, rfl⟩ := List.mem_map.1 hms
  exact p.milliseconds_mem.1

/-! ### Components of a clock -/

/-- A whole number without a minus in front is not below zero. -/
theorem readInt64?_nonneg {cs : List Char} {n : Int64} (h : readInt64? cs = some n)
    (hminus : hasMinus cs = false) : 0 ≤ n.toInt := by
  have hsign : (takeSign cs).1 = false := by
    unfold takeSign
    split
    · cases hminus
    · rfl
    · rfl
  obtain ⟨m, hread, hrange⟩ := Option.bind_eq_some_iff.1 h
  have hm : 0 ≤ m := by
    unfold readInt? at hread
    simp only [hsign] at hread
    split at hread
    · cases hread
    · cases hread
      exact Int.natCast_nonneg _
  split at hrange
  · next hbounds =>
    cases hrange
    simp only [Bool.and_eq_true, decide_eq_true_eq] at hbounds
    rwa [Int64.toInt_ofInt_of_le (by simpa using hbounds.1) (by
      have hmax : Int64.maxValue.toInt = 2 ^ 63 - 1 := rfl
      omega)]
  · cases hrange

/-- The seconds of a clock are a number from zero on and below sixty. -/
theorem readSeconds?_bounds {cs : List Char} {x : Double} (h : readSeconds? cs = some x) :
    x.isFinite = true ∧ 0 ≤ x.value ∧ x.value < 60 := by
  obtain ⟨y, -, hbounds⟩ := Option.bind_eq_some_iff.1 h
  split at hbounds
  · next hrange =>
    cases hbounds
    simp only [Bool.and_eq_true, decide_eq_true_eq] at hrange
    obtain ⟨⟨-, hlow⟩, hhigh⟩ := hrange
    obtain ⟨hsign, hfinite, hvalue⟩ := Double.ofInt_of_lt (n := 60) (by decide)
    have hsixty : (Double.ofInt 60).rank < Double.infiniteMagnitude := by
      rw [Double.rank, if_neg (by simpa using hsign)]
      exact_mod_cast of_decide_eq_true hfinite
    refine ⟨?_, ?_, ?_⟩
    · have hmagnitude : x.magnitude < Double.infiniteMagnitude := by
        have hrank : x.rank < Double.infiniteMagnitude := hhigh.trans hsixty
        unfold Double.rank at hlow hrank
        cases hsign : x.negative <;>
          simp only [hsign, if_true, if_false, Bool.false_eq_true] at hlow hrank <;> omega
      exact decide_eq_true hmagnitude
    · have hrank : (Double.zero false).rank ≤ x.rank := (Double.rank_zero false).trans_le hlow
      rw [← Double.value_zero false]
      exact Double.value_le_of_rank_le hrank
    · have hlt := (Double.value_lt_of_rank_lt hhigh).trans_eq hvalue
      exact_mod_cast hlt
  · cases hbounds

theorem Clock.Reads.seconds_bounds {c : Clock} {days hours minutes : Int64} {seconds : Double}
    (h : c.Reads days hours minutes seconds) :
    seconds.isFinite = true ∧ 0 ≤ seconds.value ∧ seconds.value < 60 := by
  have hread := h.seconds
  unfold Clock.readSeconds? at hread
  split at hread
  · exact readSeconds?_bounds hread
  · cases hread
    rw [Double.value_zero]
    exact ⟨by decide, le_rfl, by norm_num⟩

/-- Of the doubles with a minus only the zero has a value that is not below zero. -/
theorem eq_zero_of_negative {x : Double} (hsign : x.negative = true) (hnonneg : 0 ≤ x.value) :
    x = Double.zero true := by
  have hmagnitude : x.magnitude = 0 := by
    rcases Nat.eq_zero_or_pos x.magnitude with hzero | hpos
    · exact hzero
    · have hrank : x.rank < (Double.zero false).rank := by
        rw [Double.rank_zero]
        unfold Double.rank
        rw [hsign, if_pos rfl]
        omega
      have hlt := Double.value_lt_of_rank_lt hrank
      rw [Double.value_zero] at hlt
      linarith
  obtain ⟨negative, magnitude, hbound⟩ := x
  obtain rfl : negative = true := hsign
  obtain rfl : magnitude = 0 := hmagnitude
  rfl

/-- Both zeros make no milliseconds. -/
theorem secondsMilliseconds_zero : ∀ negative, secondsMilliseconds (Double.zero negative) = 0 := by
  decide +kernel

/-- The milliseconds of the seconds of a clock are not below zero. -/
theorem secondsMilliseconds_nonneg {x : Double} (hfinite : x.isFinite = true)
    (hnonneg : 0 ≤ x.value) : 0 ≤ secondsMilliseconds x := by
  cases hsign : x.negative with
  | true =>
    rw [eq_zero_of_negative hsign hnonneg, secondsMilliseconds_zero]
  | false =>
    obtain ⟨htsign, htfinite, htvalue⟩ := Amount.ofInt_thousand
    have hself : x.Stands x.value 0 := .finite hsign hfinite (by simp)
    exact (hself.mul (by linarith) htsign htfinite (by rw [htvalue]; norm_num)
      (by rw [htvalue]; norm_num)).roundToInt64_mem.1

/-! ### Signs in front -/

/-- Without a minus in front of the text the duration is not below zero, and with one not above. -/
def LeadingSign (text : String) (d : Duration) : Prop :=
  (hasMinus (trim text.toList) = false → 0 ≤ d.nanoseconds) ∧
    (hasMinus (trim text.toList) = true → d.nanoseconds ≤ 0)

theorem leadingSign_directed_iff {text : String} {ms : Int} :
    LeadingSign text (directed (hasMinus (trim text.toList)) (ofMilliseconds ms)) ↔ 0 ≤ ms := by
  unfold LeadingSign directed ofMilliseconds negate
  cases hasMinus (trim text.toList) <;>
    simp only [if_true, if_false, Bool.false_eq_true, reduceCtorEq, true_implies, false_implies,
      true_and, and_true] <;> omega

/-- A text that is read is its sign and a text without a sign that is read. -/
theorem exists_unsigned {text : String} {d : Duration} (h : ofText? text = some d) :
    ∃ e, ofText?.unsigned? (behindMinus (trim text.toList)) = some e ∧
      d = directed (hasMinus (trim text.toList)) e := by
  rw [ofText?_eq, Option.map_eq_some_iff] at h
  obtain ⟨e, he, hd⟩ := h
  exact ⟨e, he, hd.symm⟩

/-- A minus in front of a text without one negates the duration. -/
theorem ofText?_minus {text : String} {d : Duration} (h : ofText? text = some d)
    (hminus : hasMinus (trim text.toList) = false) :
    ofText? (String.ofList ('-' :: trim text.toList)) = some d.negate := by
  obtain ⟨e, he, rfl⟩ := exists_unsigned h
  have htrim : trim (String.ofList ('-' :: trim text.toList)).toList = '-' :: trim text.toList := by
    rw [String.toList_ofList]
    exact trim_cons_trim (by decide) text.toList
  have hbody : behindMinus (trim text.toList) = trim text.toList := by
    unfold behindMinus
    rw [hminus]
    rfl
  have hbehind : behindMinus ('-' :: trim text.toList) = trim text.toList := rfl
  have hfront : hasMinus ('-' :: trim text.toList) = true := rfl
  rw [hbody] at he
  rw [ofText?_eq, htrim, hbehind, hfront, he, hminus]
  rfl

/-- Designated amounts have the sign in front. -/
theorem leadingSign_of_designates {text : String} {d : Duration} {parts : List Amount}
    (h : ofText? text = some d) (hparts : Designates (behindMinus (trim text.toList)) parts) :
    LeadingSign text d := by
  obtain ⟨e, he, rfl⟩ := exists_unsigned h
  rw [unsigned?_of_designates hparts] at he
  split at he
  · cases he
  · have hall : ∀ ms ∈ parts.map Amount.milliseconds, 0 ≤ ms ∧ ms ≤ maxMilliseconds := by
      intro ms hms
      obtain ⟨p, -, rfl⟩ := List.mem_map.1 hms
      exact p.milliseconds_mem
    obtain ⟨-, rfl⟩ := (zero_sum?_eq_some_iff hall).1 he
    exact leadingSign_directed_iff.2 (sum_milliseconds_nonneg parts)

/-- The duration of a clock is the directed sum of its components. -/
theorem eq_directed_of_reads {text : String} {d : Duration} {c : Clock}
    (h : ofText? text = some d) (hseparated : c.Separated)
    (htext : c.text = behindMinus (trim text.toList)) {days hours minutes : Int64}
    {seconds : Double} (hreads : c.Reads days hours minutes seconds) :
    minutes.toInt < 60 ∧ d = directed (hasMinus (trim text.toList)) (ofMilliseconds
      (clockMilliseconds days.toInt hours.toInt minutes.toInt seconds).sum) := by
  obtain ⟨e, he, rfl⟩ := exists_unsigned h
  rw [← htext, unsigned?_text hseparated hreads] at he
  split at he
  · next hminutes =>
    have hzero : zero = ofMilliseconds 0 := rfl
    rw [hzero, sum?_eq_some_iff inRange_zero] at he
    rw [he.2.2, Int.zero_add]
    exact ⟨hminutes, rfl⟩
  · cases he

/-- Components without a minus do not add up to a number below zero. -/
theorem sum_clockMilliseconds_nonneg {c : Clock} {days hours minutes : Int64} {seconds : Double}
    (hreads : c.Reads days hours minutes seconds)
    (hparts : ∀ part ∈ c.parts, hasMinus part = false) :
    0 ≤ (clockMilliseconds days.toInt hours.toInt minutes.toInt seconds).sum := by
  have hdays : 0 ≤ days.toInt := by
    have hread := hreads.days
    unfold Clock.readDays? at hread
    split at hread
    · next text htext => exact readInt64?_nonneg hread (hparts text (by simp [Clock.parts, htext]))
    · cases hread
      decide
  have hhours : 0 ≤ hours.toInt :=
    readInt64?_nonneg hreads.hours (hparts c.hours (by simp [Clock.parts]))
  have hminutes : 0 ≤ minutes.toInt :=
    readInt64?_nonneg hreads.minutes (hparts c.minutes (by simp [Clock.parts]))
  obtain ⟨hfinite, hlow, -⟩ := hreads.seconds_bounds
  have hseconds := secondsMilliseconds_nonneg hfinite hlow
  simp only [clockMilliseconds, List.sum_cons, List.sum_nil]
  omega

/-- A minus in front of a text without one negates its duration.  Designated amounts have the sign
in front.  A clock has less than sixty minutes and less than sixty seconds, none of them below zero
without a minus of their own, and it has the sign in front exactly when its components do not add up
to a number below zero, which they do not if none of them has a minus. -/
theorem leadingSign_of_ofText? {text : String} {d : Duration} (h : ofText? text = some d) :
    (hasMinus (trim text.toList) = false →
      ofText? (String.ofList ('-' :: trim text.toList)) = some d.negate) ∧
      ((∃ parts, Designates (behindMinus (trim text.toList)) parts ∧ LeadingSign text d) ∨
        ∃ (c : Clock) (days hours minutes : Int64) (seconds : Double),
          c.Separated ∧ c.text = behindMinus (trim text.toList) ∧
            c.Reads days hours minutes seconds ∧ minutes.toInt < 60 ∧ 0 ≤ seconds.value ∧
            seconds.value < 60 ∧ (hasMinus c.minutes = false → 0 ≤ minutes.toInt) ∧
            (LeadingSign text d ↔
              0 ≤ (clockMilliseconds days.toInt hours.toInt minutes.toInt seconds).sum) ∧
            ((∀ part ∈ c.parts, hasMinus part = false) → LeadingSign text d)) := by
  refine ⟨ofText?_minus h, ?_⟩
  obtain ⟨e, he, -⟩ := exists_unsigned h
  rcases exists_form he with ⟨parts, hparts⟩ | ⟨c, hseparated, htext, days, hours, minutes, seconds,
    hreads⟩
  · exact .inl ⟨parts, hparts, leadingSign_of_designates h hparts⟩
  · obtain ⟨hminutes, hd⟩ := eq_directed_of_reads h hseparated htext hreads
    obtain ⟨-, hlow, hhigh⟩ := hreads.seconds_bounds
    have hsign : LeadingSign text d ↔
        0 ≤ (clockMilliseconds days.toInt hours.toInt minutes.toInt seconds).sum := by
      rw [hd]
      exact leadingSign_directed_iff
    refine .inr ⟨c, days, hours, minutes, seconds, hseparated, htext, hreads, hminutes, hlow, hhigh,
      ?_, hsign, fun hparts => hsign.2 (sum_clockMilliseconds_nonneg hreads hparts)⟩
    exact readInt64?_nonneg hreads.minutes

/-- A day and two hours have the sign in front, and a minus negates half an hour. -/
theorem leadingSign_day :
    LeadingSign "P1DT2H" ⟨93600000000000⟩ ∧
      ofText? (String.ofList ('-' :: trim " 0:30 ".toList)) = some ⟨-1800000000000⟩ := by
  obtain ⟨hday, hhalf⟩ : ofText? "P1DT2H" = some ⟨93600000000000⟩ ∧
      ofText? " 0:30 " = some ⟨1800000000000⟩ := by decide +kernel
  refine ⟨?_, (leadingSign_of_ofText? hhalf).1 (by decide)⟩
  rcases (leadingSign_of_ofText? hday).2 with
    ⟨-, -, h⟩ | ⟨c, days, hours, minutes, seconds, -, htext, hreads, -⟩
  · exact h
  · exact absurd htext (hreads.text_ne (.inl rfl) "1DT2H".toList)

/-- Minutes with a minus of their own make a duration below zero without a minus in front. -/
theorem not_leadingSign_minutes :
    ofText? "0:-30" = some ⟨-1800000000000⟩ ∧ ¬ LeadingSign "0:-30" ⟨-1800000000000⟩ := by
  refine ⟨by decide +kernel, fun h => ?_⟩
  exact absurd (h.1 (by decide)) (by decide)

end Duration

end RecordQuery
