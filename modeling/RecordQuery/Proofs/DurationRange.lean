import Mathlib.Algebra.Order.BigOperators.Group.List
import Mathlib.Data.List.Forall2
import RecordQuery.Coercion
import RecordQuery.Proofs.DurationSign

/-!
# The range of durations

A duration is the sum of its components up to the rounding of their decimals, and a text of which a
component or a running total is out of range by more than that is a conversion failure
(`Faithful`).  This holds of all clocks, whose whole components are exact, and of all lists of
amounts but those with a lone one that is out of range (`Lone`): an amount is held within 64 bits
before its range is checked, and then it is the largest duration, which is in range as long as
nothing is added to it (`ofText?_faithful`).
-/

namespace RecordQuery

open Text

namespace Double

/-- Within 64 bits the whole number nearest to a double stands for the same number. -/
theorem Stands.abs_roundToInt64_sub_le {x : Double} {q e : ℚ} (h : x.Stands q e)
    (hlimit : q + e + 1 / 2 ≤ Duration.maxMilliseconds) (he : 0 ≤ e) :
    |(x.roundToInt64.toInt : ℚ) - q| ≤ e + 1 / 2 := by
  have hmax : ((Duration.maxMilliseconds : Int) : ℚ) = 2 ^ 63 - 1 := by
    norm_num [Duration.maxMilliseconds]
  rw [hmax] at hlimit
  cases h with
  | infinite _ _ hq => norm_num at hq hlimit; linarith
  | finite hsign hx herror =>
    have hround := abs_le.1 (abs_round_sub_le hsign)
    have hvalue := abs_le.1 herror
    have hle : x.round ≤ Int64.maxValue.toInt := by
      have hcast : (x.round : ℚ) ≤ ((2 ^ 63 - 1 : Int) : ℚ) := by
        push_cast
        linarith
      exact_mod_cast hcast
    rw [toInt_roundToInt64 hsign hx, Int.min_eq_right hle, abs_le]
    constructor <;> linarith

end Double

namespace Duration

/-! ### Components -/

/-- A component of a duration: its exact milliseconds, and how far rounding may take them. -/
structure Component where
  exact : ℚ
  slack : ℚ

namespace Component

/-- The sum of exact milliseconds. -/
def total (components : List Component) : ℚ := (components.map exact).sum

/-- How far rounding may take a sum. -/
def totalSlack (components : List Component) : ℚ := (components.map slack).sum

/-- The milliseconds are those of the component up to rounding. -/
def Measures (c : Component) (ms : Int) : Prop := |(ms : ℚ) - c.exact| ≤ c.slack

/-- Some component or running total is out of range by more than rounding explains. -/
def Overflows (components : List Component) : Prop :=
  (∃ c ∈ components, maxMilliseconds + c.slack < |c.exact|) ∨
    ∃ front, front <+: components ∧ maxMilliseconds + totalSlack front < |total front|

/-- A sum is measured up to the rounding of its components. -/
theorem abs_sum_sub_total_le {parts : List Int} {components : List Component}
    (h : List.Forall₂ Measures components parts) :
    |((parts.sum : Int) : ℚ) - total components| ≤ totalSlack components := by
  induction h with
  | nil => simp [total, totalSlack]
  | @cons c ms components parts hms _ ih =>
    have hms' := abs_le.1 hms
    have ih' := abs_le.1 ih
    have htotal : total (c :: components) = c.exact + total components := rfl
    have hslack : totalSlack (c :: components) = c.slack + totalSlack components := rfl
    rw [htotal, hslack, List.sum_cons, Int.cast_add, abs_le]
    constructor <;> linarith

theorem exists_measured {parts : List Int} {components : List Component}
    (h : List.Forall₂ Measures components parts) {c : Component} (hc : c ∈ components) :
    ∃ ms ∈ parts, c.Measures ms := by
  induction h with
  | nil => cases hc
  | cons hms _ ih =>
    rcases List.mem_cons.1 hc with rfl | hrest
    · exact ⟨_, List.mem_cons_self, hms⟩
    · obtain ⟨ms, hmem, hmeasures⟩ := ih hrest
      exact ⟨ms, List.mem_cons_of_mem _ hmem, hmeasures⟩

/-- What is in range stays so up to rounding. -/
theorem abs_le_of_inRange {ms : Int} {q e : ℚ} (hrange : InRange ms) (h : |(ms : ℚ) - q| ≤ e) :
    |q| ≤ maxMilliseconds + e := by
  have hlow : (-maxMilliseconds : ℚ) ≤ ms := by exact_mod_cast hrange.1
  have hhigh : (ms : ℚ) ≤ maxMilliseconds := by exact_mod_cast hrange.2
  obtain ⟨herrorLow, herrorHigh⟩ := abs_le.1 h
  rw [abs_le]
  constructor <;> linarith

/-- Components that overflow have no sum. -/
theorem not_overflows_of_sum? {parts : List Int} {components : List Component}
    (h : List.Forall₂ Measures components parts) {d : Duration}
    (hsum : zero.sum? parts = some d) : ¬ Overflows components := by
  have hzero : zero = ofMilliseconds 0 := rfl
  rw [hzero, sum?_eq_some_iff inRange_zero] at hsum
  obtain ⟨hparts, hfronts, -⟩ := hsum
  rintro (⟨c, hc, hover⟩ | ⟨front, hinitial, hover⟩)
  · obtain ⟨ms, hmem, hmeasures⟩ := exists_measured h hc
    exact absurd hover (not_lt.2 (abs_le_of_inRange (hparts ms hmem) hmeasures))
  · have hfront := List.forall₂_take front.length h
    rw [← List.prefix_iff_eq_take.1 hinitial] at hfront
    have hrange := hfronts _ (List.take_prefix front.length parts)
    rw [Int.zero_add] at hrange
    exact absurd hover (not_lt.2 (abs_le_of_inRange hrange (abs_sum_sub_total_le hfront)))

end Component

/-! ### Amounts -/

namespace Amount

/-- The component that an amount is. -/
def component (p : Amount) : Component := ⟨p.exact, p.exact / 2 ^ 51 + 1⟩

/-- The product of an amount is beyond what 64 bits hold. -/
def Exceeds (p : Amount) : Prop :=
  p.product.isInfinite = true ∨ maxMilliseconds < p.product.round

/-- An amount that exceeds 64 bits is held at the bound. -/
theorem milliseconds_of_exceeds {p : Amount} (h : p.Exceeds) :
    p.milliseconds = maxMilliseconds := by
  have hmax : Int64.maxValue.toInt = maxMilliseconds := rfl
  have hsign := p.product_stands.negative
  unfold milliseconds
  rcases h with hinfinite | hround
  · rw [Double.roundToInt64_of_isInfinite hsign hinfinite, hmax]
  · cases p.product_stands with
    | infinite _ hinfinite _ => rw [Double.roundToInt64_of_isInfinite hsign hinfinite, hmax]
    | finite _ hfinite _ =>
      rw [Double.toInt_roundToInt64 hsign hfinite, hmax]
      omega

/-- Any other amount is measured up to rounding. -/
theorem measures_of_not_exceeds {p : Amount} (h : ¬ p.Exceeds) :
    p.component.Measures p.milliseconds := by
  have hmax : Int64.maxValue.toInt = maxMilliseconds := rfl
  obtain ⟨hinfinite, hround⟩ := not_or.1 h
  cases p.product_stands with
  | infinite _ hx _ => exact absurd hx hinfinite
  | finite hsign hfinite herror =>
    have hmilliseconds : p.milliseconds = p.product.round := by
      unfold milliseconds
      rw [Double.toInt_roundToInt64 hsign hfinite, hmax]
      omega
    have hhalf := Double.abs_round_sub_le hsign
    unfold Component.Measures component
    rw [hmilliseconds]
    calc |(p.product.round : ℚ) - p.exact|
      _ ≤ |(p.product.round : ℚ) - p.product.value| + |p.product.value - p.exact| :=
          abs_sub_le _ _ _
      _ ≤ 1 / 2 + (p.exact / 2 ^ 51 + 1 / 2) := add_le_add hhalf herror
      _ = p.exact / 2 ^ 51 + 1 := by ring

/-- An amount that is out of range by more than rounding explains exceeds 64 bits. -/
theorem exceeds_of_lt {p : Amount} (h : maxMilliseconds + p.component.slack < p.exact) :
    p.Exceeds := by
  by_contra hnot
  have hmeasures := abs_le.1 (measures_of_not_exceeds hnot)
  have hle : (p.milliseconds : ℚ) ≤ maxMilliseconds := by exact_mod_cast p.milliseconds_mem.2
  have hexact : p.component.exact = p.exact := rfl
  rw [hexact] at hmeasures
  linarith

/-- An amount that exceeds 64 bits is out of range up to rounding. -/
theorem lt_of_exceeds {p : Amount} (h : p.Exceeds) :
    maxMilliseconds < p.exact + p.component.slack := by
  have hslack : p.component.slack = p.exact / 2 ^ 51 + 1 := rfl
  have hnonneg := p.exact_nonneg
  rw [hslack]
  cases p.product_stands with
  | infinite _ _ hlarge =>
    have hmax : ((maxMilliseconds : Int) : ℚ) = 2 ^ 63 - 1 := by norm_num [maxMilliseconds]
    rw [hmax]
    norm_num at hlarge ⊢
    linarith
  | finite hsign hfinite herror =>
    have hround : maxMilliseconds < p.product.round := by
      refine h.resolve_left ?_
      rw [Double.isInfinite_of_isFinite hfinite]
      decide
    have hcast : (maxMilliseconds : ℚ) < p.product.round := by exact_mod_cast hround
    have hhalf := abs_le.1 (Double.abs_round_sub_le hsign)
    have herror' := abs_le.1 herror
    linarith

end Amount

/-- One amount exceeds 64 bits, and no other one makes a millisecond. -/
def Lone (parts : List Amount) : Prop :=
  ∃ front p back, parts = front ++ p :: back ∧ p.Exceeds ∧
    ∀ q ∈ front ++ back, q.milliseconds = 0

/-- A sum of nothing is nothing. -/
theorem sum_milliseconds_eq_zero {parts : List Amount} (h : ∀ q ∈ parts, q.milliseconds = 0) :
    (parts.map Amount.milliseconds).sum = 0 := by
  refine List.sum_eq_zero fun ms hms => ?_
  obtain ⟨q, hq, rfl⟩ := List.mem_map.1 hms
  exact h q hq

/-- Where amounts sum to nothing, each of them makes nothing. -/
theorem milliseconds_eq_zero {parts : List Amount}
    (h : (parts.map Amount.milliseconds).sum ≤ 0) : ∀ q ∈ parts, q.milliseconds = 0 := by
  have hnonneg : ∀ ms ∈ parts.map Amount.milliseconds, 0 ≤ ms := by
    intro ms hms
    obtain ⟨p, -, rfl⟩ := List.mem_map.1 hms
    exact p.milliseconds_mem.1
  intro q hq
  have hle := List.single_le_sum hnonneg q.milliseconds (List.mem_map_of_mem hq)
  exact Int.le_antisymm (hle.trans h) q.milliseconds_mem.1

/-- The sum of amounts is a duration when it is in range. -/
theorem sum?_amounts {parts : List Amount} {d : Duration} :
    zero.sum? (parts.map Amount.milliseconds) = some d ↔
      (parts.map Amount.milliseconds).sum ≤ maxMilliseconds ∧
        d = ofMilliseconds (parts.map Amount.milliseconds).sum := by
  refine zero_sum?_eq_some_iff fun ms hms => ?_
  obtain ⟨p, -, rfl⟩ := List.mem_map.1 hms
  exact p.milliseconds_mem

/-- A lone amount that exceeds 64 bits is accepted, and is held at the bound. -/
theorem sum?_of_lone {parts : List Amount} (h : Lone parts) :
    zero.sum? (parts.map Amount.milliseconds) = some (ofMilliseconds maxMilliseconds) := by
  obtain ⟨front, p, back, rfl, hp, hrest⟩ := h
  have hfront := sum_milliseconds_eq_zero fun q hq => hrest q (List.mem_append_left _ hq)
  have hback := sum_milliseconds_eq_zero fun q hq => hrest q (List.mem_append_right _ hq)
  have hsum : ((front ++ p :: back).map Amount.milliseconds).sum = maxMilliseconds := by
    rw [List.map_append, List.map_cons, List.sum_append, List.sum_cons, hfront, hback,
      p.milliseconds_of_exceeds hp, Int.zero_add, Int.add_zero]
  rw [sum?_amounts, hsum]
  exact ⟨le_rfl, rfl⟩

/-- In a sum that is accepted no amount exceeds 64 bits, unless it is a lone one. -/
theorem lone_of_sum? {parts : List Amount} {d : Duration}
    (h : zero.sum? (parts.map Amount.milliseconds) = some d) {p : Amount} (hp : p ∈ parts)
    (hexceeds : p.Exceeds) : Lone parts := by
  obtain ⟨hle, -⟩ := sum?_amounts.1 h
  obtain ⟨front, back, rfl⟩ := List.append_of_mem hp
  -- The amount makes up the whole range, so that the sum of the others is nothing.
  rw [List.map_append, List.map_cons, List.sum_append, List.sum_cons,
    p.milliseconds_of_exceeds hexceeds] at hle
  have hfront := sum_milliseconds_nonneg front
  have hback := sum_milliseconds_nonneg back
  refine ⟨front, p, back, rfl, hexceeds, milliseconds_eq_zero ?_⟩
  rw [List.map_append, List.sum_append]
  omega

/-- Amounts that are accepted without a lone one are measured up to rounding. -/
theorem measures_of_sum? {parts : List Amount} {d : Duration}
    (h : zero.sum? (parts.map Amount.milliseconds) = some d) (hlone : ¬ Lone parts) :
    List.Forall₂ Component.Measures (parts.map Amount.component)
      (parts.map Amount.milliseconds) := by
  rw [List.forall₂_map_left_iff, List.forall₂_map_right_iff, List.forall₂_same]
  exact fun p hp => p.measures_of_not_exceeds fun hexceeds => hlone (lone_of_sum? h hp hexceeds)

/-! ### Clocks -/

/-- The number that a decimal with a sign writes. -/
def exactNumber (cs : List Char) : ℚ :=
  match DecimalText.ofText? (takeSign cs).2 with
  | some decimal => if (takeSign cs).1 then -decimal.value else decimal.value
  | none => 0

/-- The seconds that a clock writes. -/
def Clock.exactSeconds (c : Clock) : ℚ :=
  match c.seconds with
  | some seconds => exactNumber seconds
  | none => 0

/-- The components of a clock: whole days, hours and minutes, and a decimal of seconds. -/
def Clock.components (c : Clock) (days hours minutes : Int) : List Component :=
  [⟨days * 86400000, 0⟩, ⟨hours * 3600000, 0⟩, ⟨minutes * 60000, 0⟩, ⟨c.exactSeconds * 1000, 1⟩]

/-- A finite double that is read is a decimal with a sign, rounded. -/
theorem exists_decimal {cs : List Char} {x : Double} (h : Double.ofText? cs = some x)
    (hfinite : x.isFinite = true) :
    ∃ decimal, DecimalText.ofText? (takeSign cs).2 = some decimal ∧
      x = decimal.roundBy Double.ofRatio (takeSign cs).1 := by
  unfold Double.ofText? Double.readBy? at h
  split at h
  next negative body hsign =>
  rw [hsign]
  dsimp only at h
  split at h
  · cases h
    cases hfinite
  · split at h
    · cases h
      cases hfinite
    · obtain ⟨decimal, hdecimal, hx⟩ := Option.map_eq_some_iff.1 h
      exact ⟨decimal, hdecimal, hx.symm⟩

/-- The sign of a decimal is that of its double, and does not change the magnitude. -/
theorem roundBy_eq (decimal : DecimalText) (negative : Bool) :
    decimal.roundBy Double.ofRatio negative =
      { decimal.roundBy Double.ofRatio false with negative := negative } := by
  unfold DecimalText.roundBy
  split
  · rfl
  · split
    · rfl
    · split <;> rfl

/-- A decimal with a minus that is read as a double from zero on is next to nothing. -/
theorem value_le_of_roundBy_true {decimal : DecimalText}
    (h : 0 ≤ (decimal.roundBy Double.ofRatio true).value) :
    decimal.roundBy Double.ofRatio true = Double.zero true ∧ decimal.value ≤ 1 / 1000 := by
  have hzero : decimal.roundBy Double.ofRatio true = Double.zero true :=
    eq_zero_of_negative (by rw [roundBy_eq]) h
  have hmagnitude : (decimal.roundBy Double.ofRatio false).magnitude = 0 := by
    rw [roundBy_eq] at hzero
    exact congrArg Double.magnitude hzero
  have hnonneg := decimal.value_nonneg
  have hfinest := Double.finest_le
  refine ⟨hzero, ?_⟩
  cases decimal.roundBy_stands with
  | infinite _ hinfinite _ =>
    have hlarge := beq_iff_eq.1 hinfinite
    rw [hmagnitude] at hlarge
    cases hlarge
  | finite hsign _ herror =>
    have hvalue : (decimal.roundBy Double.ofRatio false).value = 0 := by
      rw [Double.value_of_negative_eq_false hsign, hmagnitude]
      simp [Double.unitsOf]
    rw [hvalue, zero_sub, abs_neg, abs_of_nonneg hnonneg] at herror
    linarith

/-- The seconds of a clock are measured up to rounding. -/
theorem abs_secondsMilliseconds_sub_le {cs : List Char} {x : Double}
    (h : readSeconds? cs = some x) :
    |(secondsMilliseconds x : ℚ) - exactNumber cs * 1000| ≤ 1 := by
  obtain ⟨hfinite, hlow, hhigh⟩ := readSeconds?_bounds h
  have hread : Double.ofText? cs = some x := by
    obtain ⟨y, hy, hbounds⟩ := Option.bind_eq_some_iff.1 h
    split at hbounds
    · cases hbounds
      exact hy
    · cases hbounds
  obtain ⟨decimal, hdecimal, hx⟩ := exists_decimal hread hfinite
  have hnonneg := decimal.value_nonneg
  unfold exactNumber
  rw [hdecimal]
  dsimp only
  cases hsign : (takeSign cs).1 with
  | true =>
    rw [hx, hsign] at hlow ⊢
    obtain ⟨hzero, hsmall⟩ := value_le_of_roundBy_true hlow
    rw [hzero, secondsMilliseconds_zero, if_pos rfl, abs_le]
    push_cast
    constructor <;> linarith
  | false =>
    rw [hsign] at hx
    obtain ⟨htsign, htfinite, htvalue⟩ := Amount.ofInt_thousand
    have hfinestLe := Double.finest_le
    have hfinestPos := Double.finest_pos
    have hstands := decimal.roundBy_stands
    rw [← hx] at hstands
    have hbound : decimal.value ≤ 61 := by
      cases hstands with
      | infinite _ hinfinite _ =>
        rw [Double.isInfinite_of_isFinite hfinite] at hinfinite
        cases hinfinite
      | finite _ _ herror =>
        have herror' := abs_le.1 herror
        linarith
    have hms := hstands.mul (by linarith) htsign htfinite (by rw [htvalue]; norm_num)
      (by rw [htvalue]; norm_num)
    rw [htvalue] at hms
    have hmax : ((maxMilliseconds : Int) : ℚ) = 2 ^ 63 - 1 := by norm_num [maxMilliseconds]
    have herror := hms.abs_roundToInt64_sub_le (by rw [hmax]; linarith) (by linarith)
    rw [if_neg (by decide)]
    refine le_trans herror ?_
    linarith

theorem Clock.Reads.measures {c : Clock} {days hours minutes : Int64} {seconds : Double}
    (h : c.Reads days hours minutes seconds) :
    List.Forall₂ Component.Measures (c.components days.toInt hours.toInt minutes.toInt)
      (clockMilliseconds days.toInt hours.toInt minutes.toInt seconds) := by
  have hseconds : |(secondsMilliseconds seconds : ℚ) - c.exactSeconds * 1000| ≤ 1 := by
    have hread := h.seconds
    unfold Clock.readSeconds? at hread
    unfold Clock.exactSeconds
    cases hwritten : c.seconds with
    | some text =>
      rw [hwritten] at hread
      exact abs_secondsMilliseconds_sub_le hread
    | none =>
      rw [hwritten] at hread
      cases hread
      rw [secondsMilliseconds_zero]
      norm_num
  have hwhole : ∀ n : Int, (⟨n, 0⟩ : Component).Measures n := by
    intro n
    unfold Component.Measures
    simp
  unfold Clock.components clockMilliseconds
  refine .cons ?_ (.cons ?_ (.cons ?_ (.cons hseconds .nil)))
  · exact_mod_cast hwhole (days.toInt * 86400000)
  · exact_mod_cast hwhole (hours.toInt * 3600000)
  · exact_mod_cast hwhole (minutes.toInt * 60000)

/-! ### Texts -/

/-- The text is no duration where the components overflow, and any duration that is read from it is
their sum up to rounding. -/
structure Faithful (text : String) (components : List Component) : Prop where
  failure : Component.Overflows components →
    coerce (.string text) .duration = .error (.notConvertible (.string text) .duration)
  sum : ∀ d, ofText? text = some d → ∃ ms : Int,
    d = directed (hasMinus (trim text.toList)) (ofMilliseconds ms) ∧
      |(ms : ℚ) - Component.total components| ≤ Component.totalSlack components ∧
      ((∀ c ∈ components, 0 ≤ c.exact) →
        ∀ c ∈ components, c.exact ≤ ms + Component.totalSlack components)

/-- Among components that are not below zero none is larger than the sum. -/
theorem Component.exact_le_total {components : List Component}
    (h : ∀ c ∈ components, 0 ≤ c.exact) : ∀ c ∈ components, c.exact ≤ total components := by
  have hall : ∀ q ∈ components.map exact, 0 ≤ q := by
    intro q hq
    obtain ⟨c, hc, rfl⟩ := List.mem_map.1 hq
    exact h c hc
  exact fun c hc => List.single_le_sum hall c.exact (List.mem_map_of_mem hc)

/-- A text is faithful when the sums that are read from it are those of measured components. -/
theorem faithful_of_measures {text : String} {components : List Component} (parts : List Int)
    (h : ∀ e, ofText?.unsigned? (behindMinus (trim text.toList)) = some e →
      zero.sum? parts = some e ∧ List.Forall₂ Component.Measures components parts) :
    Faithful text components := by
  refine ⟨fun hover => ?_, fun d hd => ?_⟩
  · have hnone : ofText? text = none := by
      rw [Option.eq_none_iff_forall_ne_some]
      intro d hd
      obtain ⟨e, he, -⟩ := exists_unsigned hd
      obtain ⟨hparts, hmeasures⟩ := h e he
      exact Component.not_overflows_of_sum? hmeasures hparts hover
    have hscalar : Coercion.scalar? (.string text) .duration = none := by
      rw [Coercion.scalar?, Coercion.duration?, hnone]
      rfl
    rw [coerce, hscalar]
    exact fun hnull => by cases hnull
  · obtain ⟨e, he, rfl⟩ := exists_unsigned hd
    obtain ⟨hparts, hmeasures⟩ := h e he
    have hzero : zero = ofMilliseconds 0 := rfl
    rw [hzero, sum?_eq_some_iff inRange_zero, Int.zero_add] at hparts
    have herror := Component.abs_sum_sub_total_le hmeasures
    refine ⟨parts.sum, by rw [hparts.2.2], herror, fun hnonneg c hc => ?_⟩
    have hle := Component.exact_le_total hnonneg c hc
    have herror' := abs_le.1 herror
    linarith

/-- Amounts without a lone one that is out of range are read faithfully, and so are clocks.  A lone
amount that is out of range is read as the largest duration.  No other texts are read. -/
theorem ofText?_faithful (text : String) :
    (∀ parts, Designates (behindMinus (trim text.toList)) parts →
      (¬ Lone parts → Faithful text (parts.map Amount.component)) ∧
        (Lone parts →
          (∃ p ∈ parts, maxMilliseconds < p.exact + p.component.slack) ∧
            ofText? text = some (directed (hasMinus (trim text.toList))
              (ofMilliseconds maxMilliseconds)))) ∧
      (∀ (c : Clock) (days hours minutes : Int64) (seconds : Double), c.Separated →
        c.text = behindMinus (trim text.toList) → c.Reads days hours minutes seconds →
          Faithful text (c.components days.toInt hours.toInt minutes.toInt)) ∧
      ∀ d, ofText? text = some d →
        (∃ parts, Designates (behindMinus (trim text.toList)) parts) ∨
          ∃ c : Clock, c.Separated ∧ c.text = behindMinus (trim text.toList) ∧
            ∃ days hours minutes seconds, c.Reads days hours minutes seconds := by
  refine ⟨fun parts hparts => ⟨fun hlone => ?_, fun hlone => ⟨?_, ?_⟩⟩, ?_, ?_⟩
  · refine faithful_of_measures (parts.map Amount.milliseconds) fun e he => ?_
    rw [unsigned?_of_designates hparts] at he
    split at he
    · cases he
    · exact ⟨he, measures_of_sum? he hlone⟩
  · obtain ⟨front, p, back, rfl, hp, -⟩ := hlone
    exact ⟨p, List.mem_append_right _ List.mem_cons_self, p.lt_of_exceeds hp⟩
  · have hne : parts.isEmpty = false := by
      obtain ⟨front, p, back, rfl, -⟩ := hlone
      simp
    rw [ofText?_eq, unsigned?_of_designates hparts, hne, sum?_of_lone hlone]
    rfl
  · intro c days hours minutes seconds hseparated htext hreads
    refine faithful_of_measures (clockMilliseconds days.toInt hours.toInt minutes.toInt seconds)
      fun e he => ?_
    rw [← htext, unsigned?_text hseparated hreads] at he
    split at he
    · exact ⟨he, hreads.measures⟩
    · cases he
  · intro d h
    obtain ⟨e, he, -⟩ := exists_unsigned h
    exact exists_form he

/-- Far more days than are in range. -/
def manyDays : Amount := ⟨⟨9999999999999999, 0⟩, 86400, by decide⟩

/-- A second. -/
def oneSecond : Amount := ⟨⟨1, 0⟩, 1, by decide⟩

theorem manyDays_overflow : maxMilliseconds + manyDays.component.slack < manyDays.exact := by
  norm_num [manyDays, Amount.component, Amount.exact, DecimalText.value, maxMilliseconds]

theorem designates_manyDays {behind : List Char} {parts : List Amount}
    (h : Designated false behind parts) :
    Designates ('P' :: ("9999999999999999".toList ++ 'D' :: behind)) (manyDays :: parts) :=
  ⟨'P', _, rfl, .inl rfl, .amount (by decide) (by rfl) rfl h⟩

/-- The days and the second are two amounts that make something. -/
theorem not_lone_manyDays : ¬ Lone [manyDays, oneSecond] := by
  have hdays : manyDays.milliseconds ≠ 0 := by
    rw [Amount.milliseconds_of_exceeds (Amount.exceeds_of_lt manyDays_overflow)]
    decide
  have hsecond : oneSecond.milliseconds ≠ 0 := by decide +kernel
  rintro ⟨front, p, back, hsplit, -, hrest⟩
  cases front with
  | nil =>
    obtain ⟨-, rfl⟩ := List.cons.inj hsplit
    exact hsecond (hrest oneSecond (by simp))
  | cons q front =>
    obtain ⟨rfl, -⟩ := List.cons.inj hsplit
    exact hdays (hrest manyDays (by simp))

/-- A clock of too many days. -/
def manyDaysClock : Clock := ⟨some "200000000000".toList, ['0', '0'], ['0', '0'], none⟩

/-- Too many days and a second are a conversion failure, and so are too many days of a clock. -/
theorem ofText?_faithful_manyDays :
    coerce (.string "P9999999999999999DT1S") .duration =
        .error (.notConvertible (.string "P9999999999999999DT1S") .duration) ∧
      coerce (.string "200000000000.00:00") .duration =
        .error (.notConvertible (.string "200000000000.00:00") .duration) := by
  constructor
  · have hsecond : Designated false ('T' :: (['1'] ++ 'S' :: [])) [oneSecond] :=
      .time (.inl rfl) (.amount rfl rfl rfl (.nil true))
    have hbody : behindMinus (trim "P9999999999999999DT1S".toList) =
        'P' :: ("9999999999999999".toList ++ 'D' :: 'T' :: (['1'] ++ 'S' :: [])) := by
      decide
    have hparts := (ofText?_faithful "P9999999999999999DT1S").1 [manyDays, oneSecond]
      (hbody ▸ designates_manyDays hsecond)
    refine (hparts.1 not_lone_manyDays).failure (.inl ⟨manyDays.component, by simp, ?_⟩)
    exact manyDays_overflow.trans_le (le_abs_self _)
  · have hseparated : manyDaysClock.Separated := ⟨by decide, by decide⟩
    have hreads : manyDaysClock.Reads 200000000000 0 0 (Double.zero false) :=
      ⟨by decide, by decide, by decide, rfl⟩
    have hfaithful := (ofText?_faithful "200000000000.00:00").2.1 manyDaysClock _ _ _ _ hseparated
      (by decide) hreads
    refine hfaithful.failure (.inl ⟨_, List.mem_cons_self, ?_⟩)
    have hdays : (200000000000 : Int64).toInt = 200000000000 := by decide
    rw [hdays]
    norm_num [maxMilliseconds]

/-- Too many days alone are read as the largest duration. -/
theorem not_faithful_manyDays :
    Designates (behindMinus (trim "P9999999999999999D".toList)) [manyDays] ∧
      ofText? "P9999999999999999D" = some ⟨9223372036854775807000000⟩ ∧
      ¬ Faithful "P9999999999999999D" [manyDays.component] := by
  have hbody : behindMinus (trim "P9999999999999999D".toList) =
      'P' :: ("9999999999999999".toList ++ 'D' :: []) := by decide
  have hread : ofText? "P9999999999999999D" = some ⟨9223372036854775807000000⟩ := by
    decide +kernel
  refine ⟨hbody ▸ designates_manyDays (.nil false), hread, fun h => ?_⟩
  have hfailure := h.failure (.inl ⟨manyDays.component, List.mem_cons_self,
    manyDays_overflow.trans_le (le_abs_self _)⟩)
  have hscalar : Coercion.scalar? (.string "P9999999999999999D") .duration =
      some (.duration ⟨9223372036854775807000000⟩) := by
    rw [Coercion.scalar?, Coercion.duration?, hread]
    rfl
  simp only [coerce, hscalar, reduceCtorEq] at hfailure

end Duration

end RecordQuery
