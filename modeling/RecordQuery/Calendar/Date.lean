/-!
# Dates

A date of the proleptic Gregorian calendar is held as its day number, counted from 1970-01-01.
`Date.ofCivil?` gives the date of a year, month and day, and `Date.civil` reads them back.
-/

namespace RecordQuery

/-- A calendar day. -/
structure Date where
  day : Int
deriving DecidableEq

namespace Date

/-- A year with 366 days. -/
def isLeap (year : Int) : Bool := year % 4 == 0 && (year % 100 != 0 || year % 400 == 0)

/-- The lengths of the months of a year. -/
def monthLengths (year : Int) : List Nat :=
  [31, if isLeap year then 29 else 28, 31, 30, 31, 30, 31, 31, 30, 31, 30, 31]

/-- The years that dates may have. -/
def yearInRange (year : Int) : Bool := -262143 ≤ year && year ≤ 262142

/-- The days from 0001-01-01 to the first day of a year. -/
def daysBeforeYear (year : Int) : Int :=
  365 * (year - 1) + (year - 1) / 4 - (year - 1) / 100 + (year - 1) / 400

/-- The days from 0001-01-01 to 1970-01-01. -/
def epochDay : Int := daysBeforeYear 1970

/-- The days of a year before the month behind the given number of months. -/
def daysBeforeMonth (year : Int) (months : Nat) : Nat :=
  ((monthLengths year).take months).foldl (· + ·) 0

/-- The date of a year, month and day, if there is one. -/
def ofCivil? (year : Int) (month day : Nat) : Option Date :=
  match month, (monthLengths year)[month - 1]? with
  | 0, _ => none
  | _, none => none
  | m + 1, some length =>
    if yearInRange year && 1 ≤ day && day ≤ length then
      some ⟨daysBeforeYear year + daysBeforeMonth year m + (day - 1 : Nat) - epochDay⟩
    else none

/-- The month and day at a distance of `n` days from the first of the first of the given months. -/
def monthAndDay (month : Nat) (n : Nat) : List Nat → Nat × Nat
  | [] => (month, n + 1)
  | length :: rest => if n < length then (month, n + 1) else monthAndDay (month + 1) (n - length) rest

/-- The year, month and day of a date. -/
def civil (date : Date) : Int × Nat × Nat :=
  let n := date.day + epochDay
  let inCycle := n % 146097
  let century := min 3 (inCycle / 36524)
  let inCentury := inCycle - century * 36524
  let olympiad := inCentury / 1461
  let inOlympiad := inCentury - olympiad * 1461
  let rest := min 3 (inOlympiad / 365)
  let year := n / 146097 * 400 + century * 100 + olympiad * 4 + rest + 1
  (year, monthAndDay 1 (inOlympiad - rest * 365).toNat (monthLengths year))

/-- The earliest date. -/
def earliest : Date := ⟨daysBeforeYear (-262143) - epochDay⟩

/-- The latest date. -/
def latest : Date := ⟨daysBeforeYear 262143 - 1 - epochDay⟩

end Date

end RecordQuery
