import Mathlib.Algebra.Order.BigOperators.Group.List
import Mathlib.Algebra.Order.Field.Rat
import Mathlib.Data.List.TakeDrop
import Mathlib.Data.List.TakeWhile
import RecordQuery.Calendar.Duration

/-!
# Texts of durations

A duration is written with a minus in front or without one, and then in one of two forms.  In the
form with designators (`Designated`) it is a list of amounts, each of a unit; in the clock form
(`Clock`) it has up to four components.  Either way it is a sum of components in milliseconds, of
which each one and each partial sum has to be in range (`sum?_eq_some_iff`).
-/

namespace RecordQuery

open Text

namespace Duration

/-! ### Sums -/

/-- The most milliseconds that a duration has on either side of zero. -/
def maxMilliseconds : Int := 9223372036854775807

/-- The milliseconds make a duration. -/
def InRange (ms : Int) : Prop := -maxMilliseconds ≤ ms ∧ ms ≤ maxMilliseconds

/-- The duration of a number of milliseconds. -/
def ofMilliseconds (ms : Int) : Duration := ⟨ms * 1000000⟩

theorem ofMilliseconds?_eq_some_iff {ms : Int} {d : Duration} :
    ofMilliseconds? ms = some d ↔ InRange ms ∧ d = ofMilliseconds ms := by
  have hmax : Int64.maxValue.toInt = maxMilliseconds := rfl
  unfold ofMilliseconds? InRange
  rw [hmax]
  simp only [Bool.and_eq_true, decide_eq_true_eq]
  split
  · next h => simp [h, ofMilliseconds, eq_comm]
  · next h => simp [h]

theorem add?_eq_some_iff {m n : Int} {d : Duration} :
    (ofMilliseconds m).add? (ofMilliseconds n) = some d ↔
      InRange (m + n) ∧ d = ofMilliseconds (m + n) := by
  have hmax : Int64.maxValue.toInt = maxMilliseconds := rfl
  have hsum : m * 1000000 + n * 1000000 = (m + n) * 1000000 := (Int.add_mul m n 1000000).symm
  unfold add? InRange ofMilliseconds
  simp only [hmax, hsum, Bool.and_eq_true, decide_eq_true_eq]
  split
  · next h =>
    have hrange : -maxMilliseconds ≤ m + n ∧ m + n ≤ maxMilliseconds := by omega
    simp [hrange, eq_comm]
  · next h =>
    have hrange : ¬ (-maxMilliseconds ≤ m + n ∧ m + n ≤ maxMilliseconds) := by omega
    simp [hrange]

/-- Adds components in milliseconds one after the other. -/
def sum? (total : Duration) : List Int → Option Duration
  | [] => some total
  | ms :: rest => do
    let part ← ofMilliseconds? ms
    let next ← total.add? part
    sum? next rest

/-- The first component is added when it and the sum with it are in range. -/
theorem ofMilliseconds_sum?_cons {n ms : Int} {rest : List Int} {d : Duration} :
    (ofMilliseconds n).sum? (ms :: rest) = some d ↔
      InRange ms ∧ InRange (n + ms) ∧ (ofMilliseconds (n + ms)).sum? rest = some d := by
  simp only [sum?, Option.bind_eq_bind, Option.bind_eq_some_iff, ofMilliseconds?_eq_some_iff]
  constructor
  · rintro ⟨part, ⟨hms, rfl⟩, next, hnext, hrest⟩
    obtain ⟨hsum, rfl⟩ := add?_eq_some_iff.1 hnext
    exact ⟨hms, hsum, hrest⟩
  · rintro ⟨hms, hsum, hrest⟩
    exact ⟨_, ⟨hms, rfl⟩, _, add?_eq_some_iff.2 ⟨hsum, rfl⟩, hrest⟩

/-- A sum is a duration when every component and every partial sum is in range. -/
theorem sum?_eq_some_iff {n : Int} {parts : List Int} {d : Duration} (hn : InRange n) :
    (ofMilliseconds n).sum? parts = some d ↔
      (∀ ms ∈ parts, InRange ms) ∧ (∀ front, front <+: parts → InRange (n + front.sum)) ∧
        d = ofMilliseconds (n + parts.sum) := by
  induction parts generalizing n with
  | nil =>
    have hfronts : ∀ front : List Int, front <+: [] → InRange (n + front.sum) := by
      intro front hinitial
      rw [List.prefix_nil.1 hinitial]
      simpa using hn
    rw [sum?, Option.some.injEq, List.sum_nil, Int.add_zero, eq_comm]
    exact ⟨fun hd => ⟨by simp, hfronts, hd⟩, fun h => h.2.2⟩
  | cons ms rest ih =>
    rw [ofMilliseconds_sum?_cons]
    constructor
    · rintro ⟨hms, hsum, hrest⟩
      obtain ⟨hparts, hfronts, rfl⟩ := (ih hsum).1 hrest
      refine ⟨List.forall_mem_cons.2 ⟨hms, hparts⟩, ?_, ?_⟩
      · intro front hinitial
        rcases List.prefix_cons_iff.1 hinitial with rfl | ⟨front, rfl, hrest⟩
        · simpa using hn
        · rw [List.sum_cons, ← Int.add_assoc]
          exact hfronts front hrest
      · rw [List.sum_cons, Int.add_assoc]
    · rintro ⟨hparts, hfronts, rfl⟩
      obtain ⟨hms, hparts⟩ := List.forall_mem_cons.1 hparts
      -- The sum with the first component is the partial sum of one component.
      have hsum : InRange (n + ms) := by
        simpa using hfronts [ms] (List.prefix_cons_iff.2 (.inr ⟨[], rfl, List.nil_prefix⟩))
      refine ⟨hms, hsum, (ih hsum).2 ⟨hparts, ?_, ?_⟩⟩
      · intro front hinitial
        rw [Int.add_assoc, ← List.sum_cons]
        exact hfronts _ (List.prefix_cons_iff.2 (.inr ⟨front, rfl, hinitial⟩))
      · rw [List.sum_cons, Int.add_assoc]

theorem inRange_zero : InRange 0 := by
  unfold InRange maxMilliseconds
  omega

/-- Where no component is below zero, the partial sums are in range when the whole sum is. -/
theorem zero_sum?_eq_some_iff {parts : List Int} {d : Duration}
    (hparts : ∀ ms ∈ parts, 0 ≤ ms ∧ ms ≤ maxMilliseconds) :
    zero.sum? parts = some d ↔ parts.sum ≤ maxMilliseconds ∧ d = ofMilliseconds parts.sum := by
  have hzero : zero = ofMilliseconds 0 := rfl
  rw [hzero, sum?_eq_some_iff inRange_zero]
  simp only [Int.zero_add]
  constructor
  · rintro ⟨-, hfronts, hd⟩
    exact ⟨(hfronts parts List.prefix_rfl).2, hd⟩
  · rintro ⟨hsum, hd⟩
    refine ⟨fun ms hms => ?_, ?_, hd⟩
    · have hbounds := hparts ms hms
      unfold InRange maxMilliseconds at *
      omega
    · rintro front ⟨back, rfl⟩
      have hfront : 0 ≤ front.sum :=
        List.sum_nonneg fun ms hms => (hparts ms (List.mem_append_left _ hms)).1
      have hback : 0 ≤ back.sum :=
        List.sum_nonneg fun ms hms => (hparts ms (List.mem_append_right _ hms)).1
      rw [List.sum_append] at hsum
      unfold InRange maxMilliseconds at *
      omega

/-! ### Signs -/

/-- There is a minus in front. -/
def hasMinus (cs : List Char) : Bool := cs.head? == some '-'

/-- What is behind the minus in front, if there is one. -/
def behindMinus (cs : List Char) : List Char := if hasMinus cs then cs.tail else cs

/-- The duration or its negation. -/
def directed (minus : Bool) (d : Duration) : Duration := if minus then d.negate else d

/-- A minus in front negates what follows. -/
theorem ofText?_eq (text : String) :
    ofText? text = (ofText?.unsigned? (behindMinus (trim text.toList))).map
      (directed (hasMinus (trim text.toList))) := by
  unfold ofText? behindMinus
  split
  · next body htext =>
    rw [htext]
    rfl
  · next body htext =>
    have hminus : hasMinus (trim text.toList) = false := by
      cases hbody : trim text.toList with
      | nil => rfl
      | cons c cs =>
        have hc : c ≠ '-' := by
          rintro rfl
          exact htext cs hbody
        simp [hasMinus, hc]
    rw [hminus]
    exact Option.map_id'.symm

/-! ### The form with designators -/

/-- The seconds of a week, a day, an hour, a minute and a second. -/
def unitLengths : List Nat := [604800, 86400, 3600, 60, 1]

theorem mem_unitLengths {inTime : Bool} {letter : Char} {unit : Nat}
    (h : unitSeconds? inTime letter = some unit) : unit ∈ unitLengths := by
  unfold unitSeconds? at h
  split at h <;> cases h <;> decide

/-- An amount of a unit, which is given in seconds. -/
structure Amount where
  decimal : DecimalText
  unit : Nat
  unit_mem : unit ∈ unitLengths

namespace Amount

/-- The product of the amount, the unit and a thousand, rounded to a double three times. -/
def product (p : Amount) : Double :=
  ((p.decimal.roundBy Double.ofRatio false).mul (Double.ofInt p.unit)).mul (Double.ofInt 1000)

/-- The milliseconds of the amount, held within 64 bits. -/
def milliseconds (p : Amount) : Int := p.product.roundToInt64.toInt

end Amount

/-- A character of an amount. -/
def isAmountChar (c : Char) : Bool := c.isDigit || c == '.'

/-- The text behind the `P`, or behind its `T`, consists of these amounts. -/
inductive Designated : Bool → List Char → List Amount → Prop
  | nil (inTime : Bool) : Designated inTime [] []
  | time {mark : Char} {cs : List Char} {parts : List Amount} (hmark : mark = 'T' ∨ mark = 't')
      (hparts : Designated true cs parts) : Designated false (mark :: cs) parts
  | amount {inTime : Bool} {number : List Char} {decimal : DecimalText} {letter : Char}
      {unit : Nat} {cs : List Char} {parts : List Amount}
      (hnumber : number.all isAmountChar = true)
      (hdecimal : DecimalText.ofText? number = some decimal)
      (hunit : unitSeconds? inTime letter = some unit) (hparts : Designated inTime cs parts) :
      Designated inTime (number ++ letter :: cs)
        (⟨decimal, unit, mem_unitLengths hunit⟩ :: parts)

/-- What holds of the ten digits and the point holds of every character of an amount. -/
theorem of_isAmountChar {P : Char → Prop} [DecidablePred P]
    (h : "0123456789.".toList.all (fun c => decide (P c)) = true) {c : Char}
    (hc : isAmountChar c = true) : P c := by
  have hdigits : ∀ n < 58, 48 ≤ n → Char.ofNat n ∈ "0123456789.".toList := by decide
  refine of_decide_eq_true (List.all_eq_true.1 h c ?_)
  rcases Bool.or_eq_true_iff.1 hc with hdigit | hpoint
  · simp only [Char.isDigit, Bool.and_eq_true, decide_eq_true_eq, ge_iff_le,
      UInt32.le_iff_toNat_le] at hdigit
    rw [← Char.ofNat_toNat c]
    exact hdigits c.toNat (Nat.lt_succ_of_le hdigit.2) hdigit.1
  · rw [beq_iff_eq.1 hpoint]
    decide

/-- The letter of a unit is no character of an amount. -/
theorem isAmountChar_of_unitSeconds? {inTime : Bool} {letter : Char} {unit : Nat}
    (h : unitSeconds? inTime letter = some unit) : isAmountChar letter = false := by
  rw [← Bool.not_eq_true]
  intro hletter
  have hnone : unitSeconds? inTime letter = none :=
    of_isAmountChar (P := fun c => unitSeconds? inTime c = none) (by cases inTime <;> decide)
      hletter
  rw [hnone] at h
  cases h

/-- Digits and points are read as a number without a sign. -/
theorem ofText?_of_isAmountChar {number : List Char} (h : number.all isAmountChar = true) :
    Double.ofText? number =
      (DecimalText.ofText? number).map (DecimalText.roundBy Double.ofRatio false) := by
  have hall : ∀ c ∈ number, isAmountChar c = true := List.all_eq_true.1 h
  have hsign : takeSign number = (false, number) := by
    cases number with
    | nil => rfl
    | cons c cs =>
      have hplain : c ≠ '-' ∧ c ≠ '+' :=
        of_isAmountChar (P := fun c => c ≠ '-' ∧ c ≠ '+') (by decide) (hall c List.mem_cons_self)
      unfold takeSign
      split
      · next heq => exact absurd (List.cons.inj heq).1 hplain.1
      · next heq => exact absurd (List.cons.inj heq).1 hplain.2
      · rfl
  have hword : number.map Char.toLower = number := by
    calc number.map Char.toLower
      _ = number.map id := List.map_congr_left fun c hc =>
          of_isAmountChar (P := fun c => c.toLower = c) (by decide) (hall c hc)
      _ = number := List.map_id number
  -- No word begins with a character of an amount.
  have hne : ∀ {c cs}, isAmountChar c = false → (number == c :: cs) = false := by
    intro c cs hc
    rw [beq_eq_false_iff_ne]
    rintro rfl
    exact absurd (hall c List.mem_cons_self) (by rw [hc]; decide)
  have hletters : isAmountChar 'i' = false ∧ isAmountChar 'n' = false := by decide
  unfold Double.ofText? Double.readBy?
  rw [hsign]
  simp only [hword, hne hletters.1, hne hletters.2]
  rfl

/-- The first of several components is added first. -/
theorem sum?_cons (total : Duration) (ms : Int) (rest : List Int) :
    total.sum? (ms :: rest) = (total.sum? [ms]).bind fun next => next.sum? rest := by
  simp [sum?, Option.bind_assoc]

namespace Components

variable {s : Components} {c : Char}

/-- A character of an amount goes to its number. -/
theorem next?_of_isAmountChar (h : isAmountChar c = true) :
    s.next? c = some { s with number := c :: s.number } := by
  have hmark : c ≠ 'T' ∧ c ≠ 't' := of_isAmountChar (P := fun c => c ≠ 'T' ∧ c ≠ 't') (by decide) h
  have hchar : (c.isDigit || c == '.') = true := h
  unfold next?
  rw [if_neg (by simp [hmark]), if_pos hchar]

theorem foldlM_next?_number {number : List Char} (h : number.all isAmountChar = true)
    (s : Components) :
    number.foldlM next? s = some { s with number := number.reverse ++ s.number } := by
  induction number generalizing s with
  | nil => rfl
  | cons c cs ih =>
    rw [List.all_cons, Bool.and_eq_true] at h
    obtain ⟨hc, hcs⟩ := h
    rw [List.foldlM_cons, next?_of_isAmountChar hc, Option.bind_eq_bind, Option.bind_some, ih hcs]
    simp

/-- The letter of a unit closes an amount. -/
theorem next?_of_unitSeconds? {decimal : DecimalText} {unit : Nat}
    (hnumber : s.number.reverse.all isAmountChar = true)
    (hdecimal : DecimalText.ofText? s.number.reverse = some decimal)
    (hunit : unitSeconds? s.inTime c = some unit) :
    s.next? c =
      (s.total.sum? [(⟨decimal, unit, mem_unitLengths hunit⟩ : Amount).milliseconds]).map
        fun total => { s with total := total, number := [], any := true } := by
  have hchar : (c.isDigit || c == '.') = false := isAmountChar_of_unitSeconds? hunit
  have hmark : ¬ ((c == 'T' || c == 't') && !s.inTime && s.number.isEmpty) = true := by
    intro h
    simp only [Bool.and_eq_true, Bool.not_eq_true', Bool.or_eq_true, beq_iff_eq] at h
    rw [h.1.2] at hunit
    rcases h.1.1 with rfl | rfl <;> cases hunit
  have hpart : ofAmount? (decimal.roundBy Double.ofRatio false) (Double.ofInt unit) =
      ofMilliseconds? (⟨decimal, unit, mem_unitLengths hunit⟩ : Amount).milliseconds := rfl
  unfold next?
  rw [if_neg hmark, hchar, ofText?_of_isAmountChar hnumber, hdecimal, hunit]
  simp only [Bool.false_eq_true, if_false, Option.map_some, Option.bind_eq_bind, Option.bind_some,
    hpart, sum?]
  cases ofMilliseconds? (⟨decimal, unit, mem_unitLengths hunit⟩ : Amount).milliseconds with
  | none => rfl
  | some part =>
    rw [Option.bind_some, Option.bind_some]
    cases s.total.add? part <;> rfl

/-- Reading designated amounts adds them.  Whether the last of them stand behind a `T` does not
depend on what is added. -/
theorem foldlM_next?_of_designated {inTime : Bool} {cs : List Char} {parts : List Amount}
    (h : Designated inTime cs parts) :
    ∃ last, ∀ total any, cs.foldlM next? ⟨total, inTime, [], any⟩ =
      (total.sum? (parts.map Amount.milliseconds)).map fun sum =>
        ⟨sum, last, [], any || !parts.isEmpty⟩ := by
  induction h with
  | nil inTime =>
    refine ⟨inTime, fun total any => ?_⟩
    rw [List.foldlM_nil, List.isEmpty_nil, Bool.not_true, Bool.or_false]
    rfl
  | @time mark cs parts hmark _ ih =>
    obtain ⟨last, ih⟩ := ih
    refine ⟨last, fun total any => ?_⟩
    have hnext : next? ⟨total, false, [], any⟩ mark = some ⟨total, true, [], any⟩ := by
      rcases hmark with rfl | rfl <;> rfl
    rw [List.foldlM_cons, hnext]
    exact ih total any
  | @amount inTime number decimal letter unit cs parts hnumber hdecimal hunit _ ih =>
    obtain ⟨last, ih⟩ := ih
    refine ⟨last, fun total any => ?_⟩
    rw [List.foldlM_append, foldlM_next?_number hnumber, Option.bind_eq_bind, Option.bind_some,
      List.append_nil, List.foldlM_cons, next?_of_unitSeconds? (by simpa using hnumber)
        (by simpa using hdecimal) hunit, List.map_cons,
      sum?_cons total _ (parts.map Amount.milliseconds)]
    cases total.sum? [(⟨decimal, unit, mem_unitLengths hunit⟩ : Amount).milliseconds] with
    | none => rfl
    | some sum =>
      simp only [Option.map_some, Option.bind_eq_bind, Option.bind_some, ih, List.isEmpty_cons,
        Bool.not_false, Bool.or_true, Bool.true_or]

/-- What is read to its end consists of designated amounts. -/
theorem exists_designated_of_foldlM {cs : List Char} {s s' : Components}
    (hnumber : s.number.all isAmountChar = true) (h : cs.foldlM next? s = some s')
    (hend : s'.number = []) : ∃ parts, Designated s.inTime (s.number.reverse ++ cs) parts := by
  -- The number that is being read is put back in front of the rest of the text.
  induction cs generalizing s with
  | nil =>
    cases h
    rw [hend]
    exact ⟨[], .nil _⟩
  | cons c cs ih =>
    rw [List.foldlM_cons, Option.bind_eq_bind, Option.bind_eq_some_iff] at h
    obtain ⟨next, hnext, hrest⟩ := h
    unfold next? at hnext
    split at hnext
    · next hmark =>
      cases hnext
      simp only [Bool.and_eq_true, Bool.not_eq_true', Bool.or_eq_true, beq_iff_eq,
        List.isEmpty_iff] at hmark
      obtain ⟨⟨hmark, hdate⟩, hempty⟩ := hmark
      have htime : ({ s with inTime := true } : Components).number.all isAmountChar = true :=
        hnumber
      obtain ⟨parts, hparts⟩ := ih htime hrest
      rw [hempty, List.reverse_nil, List.nil_append] at hparts ⊢
      rw [hdate]
      exact ⟨parts, .time hmark hparts⟩
    · split at hnext
      · next hchar =>
        cases hnext
        obtain ⟨parts, hparts⟩ := ih (by rw [List.all_cons, hnumber, Bool.and_true]; exact hchar)
          hrest
        rw [List.reverse_cons, List.append_assoc, List.singleton_append] at hparts
        exact ⟨parts, hparts⟩
      · have hreverse : s.number.reverse.all isAmountChar = true := by
          rw [List.all_reverse]
          exact hnumber
        rw [ofText?_of_isAmountChar hreverse] at hnext
        simp only [Option.bind_eq_bind, Option.bind_eq_some_iff, Option.map_eq_some_iff] at hnext
        obtain ⟨_, ⟨decimal, hdecimal, -⟩, unit, hunit, _, -, _, -, hnext⟩ := hnext
        cases hnext
        obtain ⟨parts, hparts⟩ := ih rfl hrest
        exact ⟨_, .amount hreverse hdecimal hunit hparts⟩

end Components

/-- Designated amounts are read as their sum, unless there is none. -/
theorem readDesignated?_eq {cs : List Char} {parts : List Amount} (h : Designated false cs parts) :
    readDesignated? cs =
      if parts.isEmpty then none else zero.sum? (parts.map Amount.milliseconds) := by
  obtain ⟨last, hfold⟩ := Components.foldlM_next?_of_designated h
  have hstart : cs.foldlM Components.next? ({} : Components) =
      (zero.sum? (parts.map Amount.milliseconds)).map fun sum =>
        ⟨sum, last, [], false || !parts.isEmpty⟩ := hfold zero false
  unfold readDesignated?
  rw [hstart]
  cases zero.sum? (parts.map Amount.milliseconds) with
  | none => simp
  | some sum => cases parts <;> rfl

/-- Only designated amounts are read. -/
theorem exists_designated {cs : List Char} {d : Duration} (h : readDesignated? cs = some d) :
    ∃ parts, Designated false cs parts := by
  unfold readDesignated? at h
  simp only [Option.bind_eq_bind, Option.bind_eq_some_iff] at h
  obtain ⟨s, hs, hread⟩ := h
  split at hread
  · next hend =>
    rw [Bool.and_eq_true, List.isEmpty_iff] at hend
    exact Components.exists_designated_of_foldlM rfl hs hend.1
  · cases hread

/-! ### The clock form -/

/-- The components of a clock as they are written. -/
structure Clock where
  days : Option (List Char)
  hours : List Char
  minutes : List Char
  seconds : Option (List Char)

namespace Clock

/-- The components that are written, in their order. -/
def parts (c : Clock) : List (List Char) :=
  c.days.toList ++ [c.hours, c.minutes] ++ c.seconds.toList

/-- The days, if any, and the hours. -/
def first (c : Clock) : List Char :=
  match c.days with
  | some days => days ++ '.' :: c.hours
  | none => c.hours

/-- The clock as it is written. -/
def text (c : Clock) : List Char := joined ':' (c.first :: c.minutes :: c.seconds.toList)

/-- The components do not contain the separators that stand behind them. -/
structure Separated (c : Clock) : Prop where
  colon : ∀ part ∈ c.parts, ':' ∉ part
  point : '.' ∉ c.days.getD c.hours

/-- The number of the days, which is zero when they are not written. -/
def readDays? (c : Clock) : Option Int64 :=
  match c.days with
  | some days => readInt64? days
  | none => some 0

/-- The number of the seconds, which is zero when they are not written. -/
def readSeconds? (c : Clock) : Option Double :=
  match c.seconds with
  | some seconds => Duration.readSeconds? seconds
  | none => some (Double.zero false)

/-- The components are read as these numbers. -/
structure Reads (c : Clock) (days hours minutes : Int64) (seconds : Double) : Prop where
  days : c.readDays? = some days
  hours : readInt64? c.hours = some hours
  minutes : readInt64? c.minutes = some minutes
  seconds : c.readSeconds? = some seconds

end Clock

theorem splitPoint_eq (cs : List Char) :
    splitPoint cs =
      match cs.dropWhile (· != '.') with
      | [] => none
      | _ :: after => some (cs.takeWhile (· != '.'), after) := by
  unfold splitPoint
  rw [List.span_eq_takeWhile_dropWhile]
  cases cs.dropWhile (· != '.') <;> rfl

/-- A text is split at its first point. -/
theorem splitPoint_append {before : List Char} (h : '.' ∉ before) (after : List Char) :
    splitPoint (before ++ '.' :: after) = some (before, after) := by
  have hbefore : ∀ c ∈ before, (c != '.') = true := by
    intro c hc
    rw [bne_iff_ne]
    rintro rfl
    exact h hc
  rw [splitPoint_eq, List.dropWhile_append_of_pos hbefore, List.takeWhile_append_of_pos hbefore]
  simp

theorem splitPoint_eq_some {cs before after : List Char}
    (h : splitPoint cs = some (before, after)) : cs = before ++ '.' :: after ∧ '.' ∉ before := by
  rw [splitPoint_eq] at h
  split at h
  · cases h
  · next c rest hdrop =>
    cases h
    have hhead := List.head?_dropWhile_not (· != '.') cs
    rw [hdrop] at hhead
    obtain rfl : c = '.' := by simpa using hhead
    refine ⟨?_, fun hmem => ?_⟩
    · rw [← hdrop, List.takeWhile_append_dropWhile]
    · simpa using List.mem_takeWhile_imp hmem

theorem splitPoint_eq_none_iff {cs : List Char} : splitPoint cs = none ↔ '.' ∉ cs := by
  rw [splitPoint_eq]
  constructor
  · intro h hmem
    split at h
    · next hdrop => simpa using List.dropWhile_eq_nil_iff.1 hdrop '.' hmem
    · cases h
  · intro h
    have hdrop : cs.dropWhile (· != '.') = [] := by
      refine List.dropWhile_eq_nil_iff.2 fun c hc => ?_
      rw [bne_iff_ne]
      rintro rfl
      exact h hc
    rw [hdrop]

namespace Clock

variable {c : Clock}

/-- The components of a clock are found again. -/
theorem pieces_text (h : c.Separated) :
    pieces (· == ':') c.text = c.first :: c.minutes :: c.seconds.toList := by
  refine pieces_joined (List.cons_ne_nil _ _) fun part hpart => ?_
  have hparts : ∀ part ∈ c.parts, ':' ∉ part := h.colon
  obtain ⟨days, hours, minutes, seconds⟩ := c
  rcases List.mem_cons.1 hpart with rfl | hrest
  · cases days with
    | none => exact hparts hours (by simp [parts])
    | some days =>
      have hdays := hparts days (by simp [parts])
      have hhours := hparts hours (by simp [parts])
      simp [first, hdays, hhours]
  · rcases List.mem_cons.1 hrest with rfl | hseconds
    · exact hparts _ (by simp [parts])
    · exact hparts part (List.mem_append_right _ hseconds)

/-- A text of two or three pieces is a clock. -/
theorem exists_of_pieces {cs first minutes : List Char} {seconds : Option (List Char)}
    (h : pieces (· == ':') cs = first :: minutes :: seconds.toList) :
    ∃ c : Clock, c.Separated ∧ c.text = cs := by
  have hpieces : ∀ part ∈ first :: minutes :: seconds.toList, ':' ∉ part := fun part hpart =>
    not_mem_of_mem_pieces (h ▸ hpart)
  have hjoined : joined ':' (first :: minutes :: seconds.toList) = cs := by
    rw [← h, joined_pieces]
  obtain ⟨hfirst, hrest⟩ := List.forall_mem_cons.1 hpieces
  cases hsplit : splitPoint first with
  | none =>
    refine ⟨⟨none, first, minutes, seconds⟩, ⟨?_, splitPoint_eq_none_iff.1 hsplit⟩, hjoined⟩
    exact hpieces
  | some parts =>
    obtain ⟨days, hours⟩ := parts
    obtain ⟨rfl, hpoint⟩ := splitPoint_eq_some hsplit
    refine ⟨⟨some days, hours, minutes, seconds⟩, ⟨?_, hpoint⟩, hjoined⟩
    have hdays : ':' ∉ days := fun hmem => hfirst (List.mem_append_left _ hmem)
    have hhours : ':' ∉ hours := fun hmem =>
      hfirst (List.mem_append_right _ (List.mem_cons_of_mem _ hmem))
    exact List.forall_mem_cons.2 ⟨hdays, List.forall_mem_cons.2 ⟨hhours, hrest⟩⟩

theorem readDaysHours?_first (h : c.Separated) :
    readDaysHours? c.first = do return (← c.readDays?, ← readInt64? c.hours) := by
  obtain ⟨days, hours, minutes, seconds⟩ := c
  cases days with
  | none =>
    have hsplit : splitPoint hours = none := splitPoint_eq_none_iff.2 h.point
    simp only [readDaysHours?, first, readDays?, hsplit]
    cases readInt64? hours <;> rfl
  | some days =>
    have hsplit : splitPoint (days ++ '.' :: hours) = some (days, hours) :=
      splitPoint_append h.point hours
    simp only [readDaysHours?, first, readDays?, hsplit]

end Clock

/-- The seconds of a clock in milliseconds. -/
def secondsMilliseconds (seconds : Double) : Int :=
  (seconds.mul (Double.ofInt 1000)).roundToInt64.toInt

/-- The components of a clock in milliseconds. -/
def clockMilliseconds (days hours minutes : Int) (seconds : Double) : List Int :=
  [days * 86400000, hours * 3600000, minutes * 60000, secondsMilliseconds seconds]

/-- The duration of a clock is the sum of its components. -/
theorem ofClock?_eq (days hours minutes : Int) (seconds : Double) :
    ofClock? days hours minutes seconds =
      zero.sum? (clockMilliseconds days hours minutes seconds) := by
  have hzero : ∀ {ms d}, ofMilliseconds? ms = some d → zero.add? d = some d := by
    intro ms d h
    obtain ⟨hrange, rfl⟩ := ofMilliseconds?_eq_some_iff.1 h
    have hsum := add?_eq_some_iff (m := 0) (n := ms) (d := ofMilliseconds ms)
    rw [Int.zero_add] at hsum
    exact hsum.2 ⟨hrange, rfl⟩
  have hseconds : (seconds.mul (Double.ofInt 1000)).roundToInt64.toInt =
      secondsMilliseconds seconds := rfl
  unfold ofClock? clockMilliseconds
  simp only [sum?, hseconds]
  cases hd : ofMilliseconds? (days * 86400000) with
  | none => simp
  | some d =>
    cases ofMilliseconds? (hours * 3600000) with
    | none => simp
    | some h =>
      cases ofMilliseconds? (minutes * 60000) with
      | none => simp
      | some m =>
        cases ofMilliseconds? (secondsMilliseconds seconds) with
        | none => simp
        | some s => simp [hzero hd]

/-- A clock is read component by component. -/
theorem readClock?_text {c : Clock} (h : c.Separated) :
    readClock? c.text =
      c.readDays?.bind fun days => (readInt64? c.hours).bind fun hours =>
        (readInt64? c.minutes).bind fun minutes => c.readSeconds?.bind fun seconds =>
          if minutes < 60 then ofClock? days.toInt hours.toInt minutes.toInt seconds
          else none := by
  have hread : readClock? c.text =
      (readDaysHours? c.first).bind fun first =>
        (readInt64? c.minutes).bind fun minutes => c.readSeconds?.bind fun seconds =>
          if minutes < 60 then ofClock? first.1.toInt first.2.toInt minutes.toInt seconds
          else none := by
    unfold readClock? Clock.readSeconds?
    rw [Clock.pieces_text h]
    cases c.seconds <;> rfl
  rw [hread, Clock.readDaysHours?_first h]
  cases c.readDays? with
  | none => rfl
  | some days => cases readInt64? c.hours <;> rfl

/-- A clock of numbers is read as its sum, unless there are sixty minutes or more. -/
theorem readClock?_of_reads {c : Clock} (h : c.Separated) {days hours minutes : Int64}
    {seconds : Double} (hreads : c.Reads days hours minutes seconds) :
    readClock? c.text =
      if minutes.toInt < 60 then
        zero.sum? (clockMilliseconds days.toInt hours.toInt minutes.toInt seconds)
      else none := by
  have hlt : minutes < 60 ↔ minutes.toInt < 60 := Int64.lt_iff_toInt_lt
  rw [readClock?_text h, hreads.days, hreads.hours, hreads.minutes, hreads.seconds]
  simp only [Option.bind_some, hlt, ofClock?_eq]

/-- A clock that is read consists of numbers. -/
theorem exists_reads {c : Clock} (h : c.Separated) {d : Duration}
    (hread : readClock? c.text = some d) :
    ∃ days hours minutes seconds, c.Reads days hours minutes seconds := by
  rw [readClock?_text h] at hread
  simp only [Option.bind_eq_some_iff] at hread
  obtain ⟨days, hdays, hours, hhours, minutes, hminutes, seconds, hseconds, -⟩ := hread
  exact ⟨days, hours, minutes, seconds, hdays, hhours, hminutes, hseconds⟩

/-- Only clocks are read as clocks. -/
theorem exists_clock {cs : List Char} {d : Duration} (h : readClock? cs = some d) :
    ∃ c : Clock, c.Separated ∧ c.text = cs := by
  unfold readClock? at h
  split at h
  · next first minutes hpieces =>
    have hnone : pieces (· == ':') cs = first :: minutes :: (none : Option (List Char)).toList :=
      hpieces
    exact Clock.exists_of_pieces hnone
  · next first minutes seconds hpieces =>
    have hsome : pieces (· == ':') cs = first :: minutes :: (some seconds).toList := hpieces
    exact Clock.exists_of_pieces hsome
  · cases h

/-! ### Texts without a sign -/

/-- The text consists of a `P` and these amounts. -/
def Designates (body : List Char) (parts : List Amount) : Prop :=
  ∃ mark rest, body = mark :: rest ∧ (mark = 'P' ∨ mark = 'p') ∧ Designated false rest parts

theorem unsigned?_of_designates {body : List Char} {parts : List Amount}
    (h : Designates body parts) :
    ofText?.unsigned? body =
      if parts.isEmpty then none else zero.sum? (parts.map Amount.milliseconds) := by
  obtain ⟨mark, rest, rfl, rfl | rfl, hparts⟩ := h <;> exact readDesignated?_eq hparts

/-- A clock of numbers does not begin with a letter. -/
theorem Clock.Reads.text_ne {c : Clock} {days hours minutes : Int64} {seconds : Double}
    (h : c.Reads days hours minutes seconds) {mark : Char} (hmark : mark = 'P' ∨ mark = 'p')
    (rest : List Char) : c.text ≠ mark :: rest := by
  have hletter : ∀ cs, readInt64? (mark :: cs) = none := by
    intro cs
    rcases hmark with rfl | rfl <;> rfl
  have hfront : ∀ {n : Int64} {cs behind : List Char}, readInt64? cs = some n →
      cs ++ behind ≠ mark :: rest := by
    intro n cs behind hread htext
    cases cs with
    | nil => cases hread
    | cons letter cs =>
      obtain rfl : letter = mark := (List.cons.inj htext).1
      cases (hletter cs).symm.trans hread
  obtain ⟨days, hours, minutes, seconds⟩ := c
  cases days with
  | none => exact hfront h.hours
  | some days =>
    intro htext
    simp only [text, first, joined, List.append_assoc] at htext
    exact hfront h.days htext

theorem unsigned?_text {c : Clock} (h : c.Separated) {days hours minutes : Int64}
    {seconds : Double} (hreads : c.Reads days hours minutes seconds) :
    ofText?.unsigned? c.text =
      if minutes.toInt < 60 then
        zero.sum? (clockMilliseconds days.toInt hours.toInt minutes.toInt seconds)
      else none := by
  rw [← readClock?_of_reads h hreads]
  unfold ofText?.unsigned?
  split
  · next rest htext => exact absurd htext (hreads.text_ne (.inl rfl) rest)
  · next rest htext => exact absurd htext (hreads.text_ne (.inr rfl) rest)
  · rfl

/-- A text that is read consists of a `P` and amounts or is a clock of numbers. -/
theorem exists_form {body : List Char} {d : Duration} (h : ofText?.unsigned? body = some d) :
    (∃ parts, Designates body parts) ∨
      ∃ c : Clock, c.Separated ∧ c.text = body ∧
        ∃ days hours minutes seconds, c.Reads days hours minutes seconds := by
  unfold ofText?.unsigned? at h
  split at h
  · next rest =>
    obtain ⟨parts, hparts⟩ := exists_designated h
    exact .inl ⟨parts, _, rest, rfl, .inl rfl, hparts⟩
  · next rest =>
    obtain ⟨parts, hparts⟩ := exists_designated h
    exact .inl ⟨parts, _, rest, rfl, .inr rfl, hparts⟩
  · obtain ⟨c, hseparated, rfl⟩ := exists_clock h
    exact .inr ⟨c, hseparated, rfl, exists_reads hseparated h⟩

end Duration

end RecordQuery
