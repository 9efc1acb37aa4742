import Mathlib.Data.List.TakeWhile
import RecordQuery.Calendar.Reader

/-!
# The dates of date-times

Dates and date-times are read from the same forms of text, which are tried in different orders.  The
order does not matter: in each form the layout of dates reads the front of the text, and what it
reads there is the date that the date-time shows (`Calendar.BeginsWith`).  So both readers accept
the same texts and agree on the date (`Calendar.dates_agree`).
-/

namespace RecordQuery

/-! ### Dates and clocks -/

/-- A time of day is within a day. -/
theorem Time.seconds_lt_of_ofClock? {hour minute second nanos : Nat} {time : Time}
    (h : Time.ofClock? hour minute second nanos = some time) : time.seconds < 86400 := by
  unfold ofClock? at h
  by_cases hclock : (hour < 24 && minute < 60 && second ≤ 60) = true
  · rw [if_pos hclock] at h
    simp only [Bool.and_eq_true, decide_eq_true_eq] at hclock
    by_cases hleap : (second == 60) = true
    · rw [if_pos hleap] at h
      cases h
      dsimp only
      omega
    · rw [if_neg hleap] at h
      have hsecond : second ≠ 60 := by simpa using hleap
      cases h
      dsimp only
      omega
  · rw [if_neg hclock] at h
    cases h

/-- A date-time shows the date that it is made of. -/
theorem DateTime.localDate_ofLocal (date : Date) {time : Time} (h : time.seconds < 86400)
    (offset : Int) : (ofLocal date time offset).localDate = date := by
  have hday : (date.day * 86400 + time.seconds - offset + offset) / 86400 = date.day := by omega
  exact congrArg Date.mk hday

namespace Calendar

open Text

/-! ### Layouts -/

namespace Layout

variable {f : Fields} {cs : List Char} {p : Part} {layout : Layout}

/-- A text is read by a layout when this uses it up. -/
theorem read_eq_some_iff : layout.read cs = some f ↔ layout.readFront {} cs = some (f, []) := by
  unfold read
  rcases layout.readFront {} cs with _ | ⟨g, _ | ⟨c, rest⟩⟩
  · simp
  · simp
  · simp

/-- The part in front is read first. -/
theorem readFront_cons : readFront f cs (p :: layout) =
    (p.read f cs).bind fun (g, rest) => readFront g rest layout := by
  rw [readFront]
  rcases p.read f cs with _ | ⟨g, rest⟩ <;> rfl

/-- Two layouts behind each other read one after the other. -/
theorem readFront_append (f : Fields) (cs : List Char) (front back : Layout) :
    readFront f cs (front ++ back) =
      (readFront f cs front).bind fun (g, rest) => readFront g rest back := by
  induction front generalizing f cs with
  | nil => rfl
  | cons p front ih =>
    rw [List.cons_append, readFront_cons, readFront_cons, Option.bind_assoc]
    congr 1
    funext ⟨g, rest⟩
    exact ih g rest

end Layout

/-- A part that belongs to no date. -/
def Part.isDateless : Part → Bool
  | .year | .month | .day => false
  | _ => true

/-- What stands behind a date in a layout of date-times: parts of no date, which do not read the
empty text. -/
structure Layout.IsClock (layout : Layout) : Prop where
  dateless : ∀ p ∈ layout, p.isDateless = true
  readFront_nil : ∀ f, layout.readFront f [] = none

section Dateless

variable {f g : Fields} {cs rest : List Char}

/-- A part that belongs to no date leaves the date as it is. -/
theorem Part.date?_of_read {p : Part} (hp : p.isDateless = true)
    (h : p.read f cs = some (g, rest)) : g.date? = f.date? := by
  cases p with
  | year | month | day => cases hp
  | hour | minute | second | fraction =>
    obtain ⟨⟨n, rest⟩, -, ⟨⟩⟩ := Option.map_eq_some_iff.1 h
    rfl
  | blanks =>
    cases h
    rfl
  | char c =>
    rcases cs with _ | ⟨d, cs⟩
    · cases h
    · change (if c == d then some (f, cs) else none) = _ at h
      by_cases hsame : (c == d) = true
      · rw [if_pos hsame] at h
        cases h
        rfl
      · rw [if_neg hsame] at h
        cases h

/-- So do all such parts together. -/
theorem Layout.date?_of_readFront {layout : Layout} (hlayout : ∀ p ∈ layout, p.isDateless = true)
    (h : layout.readFront f cs = some (g, rest)) : g.date? = f.date? := by
  induction layout generalizing f cs with
  | nil =>
    cases h
    rfl
  | cons p layout ih =>
    obtain ⟨hp, hrest⟩ := List.forall_mem_cons.1 hlayout
    rw [readFront_cons] at h
    obtain ⟨⟨f', cs'⟩, hread, h⟩ := Option.bind_eq_some_iff.1 h
    exact (ih hrest h).trans (p.date?_of_read hp hread)

end Dateless

/-- Each layout of date-times is that of dates with a clock behind it. -/
theorem exists_isClock_of_mem {layout : Layout} (h : layout ∈ dateTimeLayouts) :
    ∃ clock : Layout, clock.IsClock ∧ layout = dateLayout ++ clock := by
  unfold dateTimeLayouts at h
  simp only [List.mem_cons, List.not_mem_nil, or_false] at h
  obtain rfl | rfl | rfl := h
  all_goals exact ⟨_, ⟨by decide, fun _ => rfl⟩, rfl⟩

/-! ### Texts that begin with a date -/

/-- A text begins with a date: the layout of dates reads it, up to the rest of the text. -/
def BeginsWith (cs : List Char) (date : Date) (rest : List Char) : Prop :=
  ∃ f, dateLayout.readFront {} cs = some (f, rest) ∧ f.date? = some date

variable {cs rest : List Char} {date : Date} {t : DateTime}

/-- A text begins with one date at most. -/
theorem BeginsWith.unique {date' : Date} {rest' : List Char} (h : BeginsWith cs date rest)
    (h' : BeginsWith cs date' rest') : date = date' ∧ rest = rest' := by
  obtain ⟨f, hf, hdate⟩ := h
  obtain ⟨g, hg, hdate'⟩ := h'
  obtain ⟨rfl, rfl⟩ := Prod.ext_iff.1 (Option.some.inj (hf.symm.trans hg))
  exact ⟨Option.some.inj (hdate.symm.trans hdate'), rfl⟩

/-- A bare date is a text that begins with a date and has no rest. -/
theorem readPlainDate?_eq_some_iff : readPlainDate? cs = some date ↔ BeginsWith cs date [] := by
  unfold readPlainDate?
  simp only [Option.bind_eq_some_iff, Layout.read_eq_some_iff]
  rfl

/-- A date-time that is read by a layout shows the date that the text begins with. -/
theorem beginsWith_of_readLocal? {layout : Layout} (hlayout : layout ∈ dateTimeLayouts)
    (h : readLocal? cs layout = some t) : ∃ rest, rest ≠ [] ∧ BeginsWith cs t.localDate rest := by
  obtain ⟨clock, hclock, rfl⟩ := exists_isClock_of_mem hlayout
  obtain ⟨f, hf, h⟩ := Option.bind_eq_some_iff.1 h
  obtain ⟨date, hdate, h⟩ := Option.bind_eq_some_iff.1 h
  obtain ⟨time, htime, ⟨⟩⟩ := Option.bind_eq_some_iff.1 h
  rw [Layout.read_eq_some_iff, Layout.readFront_append] at hf
  obtain ⟨⟨g, rest⟩, hg, hback⟩ := Option.bind_eq_some_iff.1 hf
  refine ⟨rest, ?_, g, hg, ?_⟩
  · rintro rfl
    cases (hclock.readFront_nil g).symm.trans hback
  · rw [← Layout.date?_of_readFront hclock.dateless hback, hdate,
      DateTime.localDate_ofLocal date (Time.seconds_lt_of_ofClock? htime)]

/-! ### The Internet form -/

/-- A digit is not blank, nor is it a sign. -/
theorem isBlank_eq_false_of_isDigit {c : Char} (h : c.isDigit = true) :
    isBlank c = false ∧ c ≠ '-' ∧ c ≠ '+' := by
  simp only [Char.isDigit, Bool.and_eq_true, decide_eq_true_eq, ge_iff_le,
    UInt32.le_iff_toNat_le] at h
  have hlow : 48 ≤ c.toNat := h.1
  have hhigh : c.toNat ≤ 57 := h.2
  refine ⟨?_, ?_, ?_⟩
  · simp only [isBlank, Bool.or_eq_false_iff, Bool.and_eq_false_iff, decide_eq_false_iff_not,
      beq_eq_false_iff_ne]
    omega
  · rintro rfl
    exact absurd hlow (by decide)
  · rintro rfl
    exact absurd hlow (by decide)

/-- A number of an exact width is one of up to this width, and begins with a digit. -/
theorem upTo_of_exactly {width n : Nat} (hwidth : 0 < width)
    (h : exactly width cs = some (n, rest)) :
    upTo width cs = some (n, rest) ∧ ∃ c cs', cs = c :: cs' ∧ c.isDigit = true := by
  unfold exactly at h
  by_cases hdigits : ((cs.take width).length == width && (cs.take width).all Char.isDigit) = true
  · rw [if_pos hdigits] at h
    obtain ⟨hlength, hall⟩ := Bool.and_eq_true_iff.1 hdigits
    have hlength : (cs.take width).length = width := beq_iff_eq.1 hlength
    have hwhole : (cs.take width).takeWhile Char.isDigit = cs.take width :=
      List.takeWhile_eq_self_iff.2 (List.all_eq_true.1 hall)
    rcases cs with _ | ⟨c, cs⟩
    · rw [List.take_nil] at hlength
      exact absurd hlength hwidth.ne
    · obtain ⟨width, rfl⟩ := Nat.exists_eq_succ_of_ne_zero hwidth.ne'
      refine ⟨?_, c, cs, rfl, List.all_eq_true.1 hall c (by simp)⟩
      rw [upTo, hwhole, hlength]
      exact h
  · rw [if_neg hdigits] at h
    cases h

/-- A year of four digits is read alike by a layout. -/
theorem read_year_of_exactly {n : Nat} (f : Fields) (h : exactly 4 cs = some (n, rest)) :
    Part.read f cs .year = some ({ f with year := n }, rest) := by
  obtain ⟨hread, c, cs, rfl, hc⟩ := upTo_of_exactly (by decide) h
  obtain ⟨hblank, hminus, hplus⟩ := isBlank_eq_false_of_isDigit hc
  have htrim : trimLeft (c :: cs) = c :: cs := List.dropWhile_cons_of_neg (by simp [hblank])
  have hyear : readYear (c :: cs) = some ((n : Int), rest) := by
    unfold readYear
    split
    · next heq => exact absurd (List.cons.inj heq).1 hminus
    · next heq => exact absurd (List.cons.inj heq).1 hplus
    · rw [hread]
      rfl
  rw [Part.read, htrim, hyear]
  rfl

/-- So is a number of two digits, in whatever field. -/
theorem upTo_trimLeft_of_exactly {n : Nat} (h : exactly 2 cs = some (n, rest)) :
    upTo 2 (trimLeft cs) = some (n, rest) := by
  obtain ⟨hread, c, cs, rfl, hc⟩ := upTo_of_exactly (by decide) h
  have htrim : trimLeft (c :: cs) = c :: cs :=
    List.dropWhile_cons_of_neg (by simp [(isBlank_eq_false_of_isDigit hc).1])
  rw [htrim, hread]

/-- What is dropped stands in front. -/
theorem exists_of_dropChar? {p : Char → Bool} (h : dropChar? p cs = some rest) :
    ∃ c, p c = true ∧ cs = c :: rest := by
  rcases cs with _ | ⟨c, cs⟩
  · cases h
  · change (if p c = true then some cs else none) = some rest at h
    by_cases hc : p c = true
    · rw [if_pos hc] at h
      cases h
      exact ⟨c, hc, rfl⟩
    · rw [if_neg hc] at h
      cases h

/-- A hyphen is dropped by a layout too. -/
theorem read_hyphen_of_dropChar? (f : Fields) (h : dropChar? (· == '-') cs = some rest) :
    Part.read f cs (.char '-') = some (f, rest) := by
  obtain ⟨c, hc, rfl⟩ := exists_of_dropChar? h
  obtain rfl := beq_iff_eq.1 hc
  rfl

/-- An Internet date-time shows the date that the text begins with. -/
theorem beginsWith_of_readInternet? (h : readInternet? cs = some t) :
    ∃ rest, rest ≠ [] ∧ BeginsWith cs t.localDate rest := by
  obtain ⟨⟨year, cs₁⟩, hyear, h⟩ := Option.bind_eq_some_iff.1 h
  obtain ⟨cs₂, hhyphen, h⟩ := Option.bind_eq_some_iff.1 h
  obtain ⟨⟨month, cs₃⟩, hmonth, h⟩ := Option.bind_eq_some_iff.1 h
  obtain ⟨cs₄, hhyphen', h⟩ := Option.bind_eq_some_iff.1 h
  obtain ⟨⟨day, rest⟩, hday, h⟩ := Option.bind_eq_some_iff.1 h
  obtain ⟨behind, hbehind, h⟩ := Option.bind_eq_some_iff.1 h
  -- Of the clock and the offset behind it, only the time matters.
  obtain ⟨hour, -, h⟩ := Option.bind_eq_some_iff.1 h
  obtain ⟨_, -, h⟩ := Option.bind_eq_some_iff.1 h
  obtain ⟨minute, -, h⟩ := Option.bind_eq_some_iff.1 h
  obtain ⟨_, -, h⟩ := Option.bind_eq_some_iff.1 h
  obtain ⟨second, -, h⟩ := Option.bind_eq_some_iff.1 h
  obtain ⟨nanos, -, h⟩ := Option.bind_eq_some_iff.1 h
  obtain ⟨offset, -, h⟩ := Option.bind_eq_some_iff.1 h
  obtain ⟨date, hdate, h⟩ := Option.bind_eq_some_iff.1 h
  obtain ⟨time, htime, ⟨⟩⟩ := Option.bind_eq_some_iff.1 h
  have hreadMonth (f : Fields) :
      Part.read f cs₂ .month = some ({ f with month := month }, cs₃) := by
    rw [Part.read, upTo_trimLeft_of_exactly hmonth]
    rfl
  have hreadDay (f : Fields) : Part.read f cs₄ .day = some ({ f with day := day }, rest) := by
    rw [Part.read, upTo_trimLeft_of_exactly hday]
    rfl
  refine ⟨rest, ?_, { year := year, month := month, day := day }, ?_, ?_⟩
  · obtain ⟨c, -, rfl⟩ := exists_of_dropChar? hbehind
    exact List.cons_ne_nil c behind
  · unfold dateLayout
    simp only [Layout.readFront_cons, read_year_of_exactly _ hyear, hreadMonth, hreadDay,
      read_hyphen_of_dropChar? _ hhyphen, read_hyphen_of_dropChar? _ hhyphen', Option.bind_some]
    rfl
  · rw [DateTime.localDate_ofLocal date (Time.seconds_lt_of_ofClock? htime)]
    exact hdate

/-! ### Agreement -/

/-- The date that a date-time shows stands at the front of its text. -/
theorem localDate_of_ofText? {text : String} (h : DateTime.ofText? text = some t) :
    ∃ rest, BeginsWith (trim text.toList) t.localDate rest := by
  unfold DateTime.ofText? at h
  simp only [Option.or_eq_some_iff] at h
  obtain hinternet | ⟨-, hlocal | ⟨-, hplain⟩⟩ := h
  · obtain ⟨rest, -, hbegins⟩ := beginsWith_of_readInternet? hinternet
    exact ⟨rest, hbegins⟩
  · obtain ⟨layout, hlayout, hread⟩ := List.exists_of_findSome?_eq_some hlocal
    obtain ⟨rest, -, hbegins⟩ := beginsWith_of_readLocal? hlayout hread
    exact ⟨rest, hbegins⟩
  · obtain ⟨date, hdate, rfl⟩ := Option.map_eq_some_iff.1 hplain
    rw [DateTime.localDate_ofLocal date (by decide)]
    exact ⟨[], readPlainDate?_eq_some_iff.1 hdate⟩

/-- A bare date has none of the other forms, and is taken as its midnight. -/
theorem ofText?_of_readPlainDate? {text : String}
    (h : readPlainDate? (trim text.toList) = some date) :
    DateTime.ofText? text = some (.ofLocal date .midnight 0) := by
  have hbare := readPlainDate?_eq_some_iff.1 h
  have hinternet : readInternet? (trim text.toList) = none := by
    rw [Option.eq_none_iff_forall_ne_some]
    intro t ht
    obtain ⟨rest, hrest, hbegins⟩ := beginsWith_of_readInternet? ht
    exact hrest (hbegins.unique hbare).2
  have hlocal : dateTimeLayouts.findSome? (readLocal? (trim text.toList)) = none := by
    rw [List.findSome?_eq_none_iff]
    intro layout hlayout
    rw [Option.eq_none_iff_forall_ne_some]
    intro t ht
    obtain ⟨rest, hrest, hbegins⟩ := beginsWith_of_readLocal? hlayout ht
    exact hrest (hbegins.unique hbare).2
  unfold DateTime.ofText?
  dsimp only
  rw [hinternet, Option.none_or, hlocal, Option.none_or, h]
  rfl

/-- A text is read as a date exactly when it is read as a date-time, and the date is the one that
the date-time shows.  It stands at the front of the text, in whichever form this is written; a text
that has nothing behind it is the midnight of this date. -/
theorem dates_agree (text : String) :
    Date.ofText? text = (DateTime.ofText? text).map DateTime.localDate ∧
      (∀ t, DateTime.ofText? text = some t →
        ∃ rest, BeginsWith (trim text.toList) t.localDate rest) ∧
      ∀ date, BeginsWith (trim text.toList) date [] →
        DateTime.ofText? text = some (.ofLocal date .midnight 0) := by
  refine ⟨?_, fun t => localDate_of_ofText?, fun date hbegins => ?_⟩
  · unfold Date.ofText?
    rcases hplain : readPlainDate? (trim text.toList) with _ | date
    · exact Option.none_or
    · rw [ofText?_of_readPlainDate? hplain, Option.map_some,
        DateTime.localDate_ofLocal date (by decide)]
      rfl
  · exact ofText?_of_readPlainDate? (readPlainDate?_eq_some_iff.2 hbegins)

/-- An evening eight hours behind UTC is still on the last of February, and the bare date is
midnight. -/
theorem dates_agree_february :
    DateTime.ofText? " 2024-02-29t23:30:00-08:00 " = some ⟨1709278200, 0, -28800⟩ ∧
      Date.ofText? " 2024-02-29t23:30:00-08:00 " = some ⟨19782⟩ ∧
      (∃ rest, BeginsWith (trim " 2024-02-29t23:30:00-08:00 ".toList) ⟨19782⟩ rest) ∧
      BeginsWith (trim "+2024- 2-29".toList) ⟨19782⟩ [] ∧
      DateTime.ofText? "+2024- 2-29" = some ⟨1709164800, 0, 0⟩ := by
  obtain ⟨hdate, hfront, -⟩ := dates_agree " 2024-02-29t23:30:00-08:00 "
  obtain ⟨-, -, hmidnight⟩ := dates_agree "+2024- 2-29"
  have hread : DateTime.ofText? " 2024-02-29t23:30:00-08:00 " =
      some ⟨1709278200, 0, -28800⟩ := by decide
  have hbare : BeginsWith (trim "+2024- 2-29".toList) ⟨19782⟩ [] :=
    readPlainDate?_eq_some_iff.1 (by decide)
  rw [hread] at hdate
  exact ⟨hread, hdate, hfront _ hread, hbare, hmidnight _ hbare⟩

end Calendar

end RecordQuery
