import RecordQuery.Double.Reader
import RecordQuery.Text.Blank
import RecordQuery.Text.Pieces

/-!
# Durations

A duration counts nanoseconds.  Durations that are read lie within `2 ^ 63 - 1` milliseconds on
either side of zero, and so does every partial sum.  Two forms are read: `P` with weeks, days, and
after a `T` hours, minutes and seconds; and a clock `[days.]hours:minutes[:seconds]`.  A minus in
front negates either form.
-/

namespace RecordQuery

open Text

/-- A span of time. -/
structure Duration where
  nanoseconds : Int
deriving DecidableEq

namespace Duration

/-- No time at all. -/
def zero : Duration := ⟨0⟩

/-- The duration of the same length in the other direction. -/
def negate (d : Duration) : Duration := ⟨-d.nanoseconds⟩

/-- A span of milliseconds, if it is in range. -/
def ofMilliseconds? (ms : Int) : Option Duration :=
  if -Int64.maxValue.toInt ≤ ms && ms ≤ Int64.maxValue.toInt then some ⟨ms * 1000000⟩ else none

/-- The sum of two durations, if it is in range. -/
def add? (a b : Duration) : Option Duration :=
  let limit := Int64.maxValue.toInt * 1000000
  let n := a.nanoseconds + b.nanoseconds
  if -limit ≤ n && n ≤ limit then some ⟨n⟩ else none

/-- The span that a decimal amount of seconds-long units makes: the product in doubles, to the
nearest millisecond, held within 64 bits. -/
def ofAmount? (amount unit : Double) : Option Duration :=
  ofMilliseconds? ((amount.mul unit).mul (Double.ofInt 1000)).roundToInt64.toInt

/-! ### The form with designators -/

/-- The seconds of the unit that a letter names, before or after the `T`. -/
def unitSeconds? (inTime : Bool) (letter : Char) : Option Nat :=
  match inTime, letter.toUpper with
  | false, 'W' => some 604800
  | false, 'D' => some 86400
  | true, 'H' => some 3600
  | true, 'M' => some 60
  | true, 'S' => some 1
  | _, _ => none

/-- The components read so far. -/
structure Components where
  total : Duration := zero
  inTime : Bool := false
  /-- The number in front of the next letter, reversed. -/
  number : List Char := []
  /-- Whether there was a component. -/
  any : Bool := false

/-- Reads one character after the `P`. -/
def Components.next? (s : Components) (c : Char) : Option Components :=
  if (c == 'T' || c == 't') && !s.inTime && s.number.isEmpty then some { s with inTime := true }
  else if c.isDigit || c == '.' then some { s with number := c :: s.number }
  else do
    let amount ← Double.ofText? s.number.reverse
    let unit ← unitSeconds? s.inTime c
    let part ← ofAmount? amount (Double.ofInt unit)
    let total ← s.total.add? part
    return { s with total := total, number := [], any := true }

/-- Reads what follows the `P`. -/
def readDesignated? (cs : List Char) : Option Duration := do
  let s ← cs.foldlM Components.next? ({} : Components)
  if s.number.isEmpty && s.any then some s.total else none

/-! ### The clock form -/

/-- Splits at the first point. -/
def splitPoint (cs : List Char) : Option (List Char × List Char) :=
  match cs.span (· != '.') with
  | (_, []) => none
  | (before, _ :: after) => some (before, after)

/-- The days and hours of the first part of a clock. -/
def readDaysHours? (cs : List Char) : Option (Int64 × Int64) :=
  match splitPoint cs with
  | some (days, hours) => do return (← readInt64? days, ← readInt64? hours)
  | none => (readInt64? cs).map fun h => (0, h)

/-- The seconds of a clock: at least zero and below sixty. -/
def readSeconds? (cs : List Char) : Option Double := do
  let s ← Double.ofText? cs
  if !s.isNaN && 0 ≤ s.rank && s.rank < (Double.ofInt 60).rank then some s else none

/-- The duration of the parts of a clock. -/
def ofClock? (days hours minutes : Int) (seconds : Double) : Option Duration := do
  let d ← ofMilliseconds? (days * 86400000)
  let h ← ofMilliseconds? (hours * 3600000)
  let m ← ofMilliseconds? (minutes * 60000)
  let s ← ofMilliseconds? (seconds.mul (Double.ofInt 1000)).roundToInt64.toInt
  ((← (← d.add? h).add? m).add? s)

/-- Reads a clock. -/
def readClock? (cs : List Char) : Option Duration :=
  match pieces (· == ':') cs with
  | [first, minutes] => read first minutes none
  | [first, minutes, seconds] => read first minutes (some seconds)
  | _ => none
where
  /-- Reads the parts between the colons. -/
  read (first minutes : List Char) (seconds : Option (List Char)) : Option Duration := do
    let (days, hours) ← readDaysHours? first
    let m ← readInt64? minutes
    let s ← match seconds with
      | some cs => readSeconds? cs
      | none => some (Double.zero false)
    if m < 60 then ofClock? days.toInt hours.toInt m.toInt s else none

/-- Reads a duration. -/
def ofText? (text : String) : Option Duration :=
  match trim text.toList with
  | '-' :: body => (unsigned? body).map negate
  | body => unsigned? body
where
  /-- Reads a duration without the sign in front. -/
  unsigned? (body : List Char) : Option Duration :=
    match body with
    | 'P' :: rest => readDesignated? rest
    | 'p' :: rest => readDesignated? rest
    | _ => readClock? body

end Duration

end RecordQuery
