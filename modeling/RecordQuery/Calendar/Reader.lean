import RecordQuery.Calendar.Time
import RecordQuery.Double.Reader
import RecordQuery.Text.Blank

/-!
# Reading dates and times

Two readers.  `readInternet?` takes the Internet date-time, every field with its full number of
digits and always with an offset.  `Layout.read` takes a text by a layout, a list of fields and
fixed characters: blanks may precede each number, numbers take as many digits as there are up to
the width of their field, and the text has to be used up.

`readDateTime?` tries the Internet form and then layouts of date-times and dates, `readDate?` the
layout of dates and then all date-times, `readTime?` the layouts of times.
-/

namespace RecordQuery

namespace Calendar

open Text

/-- One part of a layout. -/
inductive Part where
  | year
  | month
  | day
  | hour
  | minute
  | second
  | fraction
  | blanks
  | char (c : Char)

/-- A layout is a list of parts. -/
abbrev Layout := List Part

/-- The numbers that a text gives for the fields of a layout. -/
structure Fields where
  year : Int := 0
  month : Nat := 0
  day : Nat := 0
  hour : Nat := 0
  minute : Nat := 0
  second : Nat := 0
  nanos : Nat := 0

/-- The date of the fields. -/
def Fields.date? (f : Fields) : Option Date := Date.ofCivil? f.year f.month f.day

/-- The time of the fields. -/
def Fields.time? (f : Fields) : Option Time := Time.ofClock? f.hour f.minute f.second f.nanos

/-! ### Numbers -/

/-- At least one digit and at most `width`. -/
def upTo (width : Nat) (cs : List Char) : Option (Nat × List Char) :=
  let digits := (cs.take width).takeWhile Char.isDigit
  if digits.isEmpty then none else some (ofDigits digits, cs.drop digits.length)

/-- Exactly `width` digits. -/
def exactly (width : Nat) (cs : List Char) : Option (Nat × List Char) :=
  let digits := cs.take width
  if digits.length == width && digits.all Char.isDigit then some (ofDigits digits, cs.drop width)
  else none

/-- A year: up to four digits, or any number of them after a sign. -/
def readYear (cs : List Char) : Option (Int × List Char) :=
  match cs with
  | '-' :: r => (upTo r.length r).map fun (n, rest) => (-(n : Int), rest)
  | '+' :: r => (upTo r.length r).map fun (n, rest) => ((n : Int), rest)
  | _ => (upTo 4 cs).map fun (n, rest) => ((n : Int), rest)

/-- The nanoseconds of the digits of a fraction; digits after the ninth are dropped. -/
def nanosOf (digits : List Char) : Nat :=
  let kept := digits.take 9
  ofDigits kept * Nat.pow 10 (9 - kept.length)

/-- An optional fraction of a second; a point needs a digit behind it. -/
def readFraction (cs : List Char) : Option (Nat × List Char) :=
  match cs with
  | '.' :: r =>
    let (digits, rest) := takeDigits r
    if digits.isEmpty then none else some (nanosOf digits, rest)
  | _ => some (0, cs)

/-! ### Layouts -/

/-- Reads one part of a layout. -/
def Part.read (f : Fields) (cs : List Char) : Part → Option (Fields × List Char)
  | .year => (readYear (trimLeft cs)).map fun (n, rest) => ({ f with year := n }, rest)
  | .month => (upTo 2 (trimLeft cs)).map fun (n, rest) => ({ f with month := n }, rest)
  | .day => (upTo 2 (trimLeft cs)).map fun (n, rest) => ({ f with day := n }, rest)
  | .hour => (upTo 2 (trimLeft cs)).map fun (n, rest) => ({ f with hour := n }, rest)
  | .minute => (upTo 2 (trimLeft cs)).map fun (n, rest) => ({ f with minute := n }, rest)
  | .second => (upTo 2 (trimLeft cs)).map fun (n, rest) => ({ f with second := n }, rest)
  | .fraction => (readFraction cs).map fun (n, rest) => ({ f with nanos := n }, rest)
  | .blanks => some (f, trimLeft cs)
  | .char c =>
    match cs with
    | d :: rest => if c == d then some (f, rest) else none
    | [] => none

/-- Reads the front of a text by a layout, adding to the fields read so far. -/
def Layout.readFront (f : Fields) (cs : List Char) : Layout → Option (Fields × List Char)
  | [] => some (f, cs)
  | p :: ps =>
    match p.read f cs with
    | some (f, rest) => readFront f rest ps
    | none => none

/-- Reads a whole text by a layout. -/
def Layout.read (layout : Layout) (cs : List Char) : Option Fields :=
  match layout.readFront {} cs with
  | some (f, []) => some f
  | _ => none

/-- `year-month-day`. -/
def dateLayout : Layout := [.year, .char '-', .month, .char '-', .day]

/-- `hour:minute`. -/
def shortTimeLayout : Layout := [.hour, .char ':', .minute]

/-- `hour:minute:second`, with or without a fraction. -/
def timeLayout : Layout := shortTimeLayout ++ [.char ':', .second, .fraction]

/-- The layouts of date-times without an offset. -/
def dateTimeLayouts : List Layout :=
  [dateLayout ++ .char 'T' :: timeLayout,
   dateLayout ++ .blanks :: timeLayout,
   dateLayout ++ .char 'T' :: shortTimeLayout]

/-- Reads a date by its layout. -/
def readPlainDate? (cs : List Char) : Option Date := (dateLayout.read cs).bind Fields.date?

/-- Reads a date-time by a layout, taken as UTC. -/
def readLocal? (cs : List Char) (layout : Layout) : Option DateTime := do
  let f ← layout.read cs
  return .ofLocal (← f.date?) (← f.time?) 0

/-! ### The Internet form -/

/-- Drops one given character. -/
def dropChar? (p : Char → Bool) (cs : List Char) : Option (List Char) :=
  match cs with
  | c :: rest => if p c then some rest else none
  | [] => none

/-- The offset at the end of a text, in seconds: `Z`, or a sign, hours and minutes. -/
def readOffset? (cs : List Char) : Option Int :=
  match cs with
  | [] => none
  | sign :: r =>
    if sign == 'Z' || sign == 'z' then if r.isEmpty then some 0 else none
    else if sign == '+' || sign == '-' || sign == '\u2212' then do
      let (hours, r) ← exactly 2 r
      let r ← dropChar? (· == ':') r
      let (minutes, r) ← exactly 2 r
      if r.isEmpty && hours < 24 && minutes < 60 then
        let seconds : Int := hours * 3600 + minutes * 60
        some (if sign == '+' then seconds else -seconds)
      else none
    else none

/-- Reads an Internet date-time. -/
def readInternet? (cs : List Char) : Option DateTime := do
  let (year, cs) ← exactly 4 cs
  let cs ← dropChar? (· == '-') cs
  let (month, cs) ← exactly 2 cs
  let cs ← dropChar? (· == '-') cs
  let (day, cs) ← exactly 2 cs
  let cs ← dropChar? (fun c => c == 'T' || c == 't' || c == ' ') cs
  let (hour, cs) ← exactly 2 cs
  let cs ← dropChar? (· == ':') cs
  let (minute, cs) ← exactly 2 cs
  let cs ← dropChar? (· == ':') cs
  let (second, cs) ← exactly 2 cs
  let (nanos, cs) ← readFraction cs
  let offset ← readOffset? cs
  return .ofLocal (← Date.ofCivil? year month day) (← Time.ofClock? hour minute second nanos) offset

end Calendar

open Calendar Text

/-- Reads a date-time: the Internet form, a date-time without offset taken as UTC, or a date taken
as its midnight in UTC. -/
def DateTime.ofText? (text : String) : Option DateTime :=
  let cs := trim text.toList
  (readInternet? cs).or <|
    (dateTimeLayouts.findSome? (readLocal? cs)).or <|
      (readPlainDate? cs).map fun d => .ofLocal d .midnight 0

/-- Reads a date: a bare date, or the date that a date-time shows. -/
def Date.ofText? (text : String) : Option Date :=
  (readPlainDate? (trim text.toList)).or ((DateTime.ofText? text).map DateTime.localDate)

/-- Reads a time of day, with or without seconds. -/
def Time.ofText? (text : String) : Option Time :=
  let cs := trim text.toList
  ((timeLayout.read cs).bind Fields.time?).or ((shortTimeLayout.read cs).bind Fields.time?)

end RecordQuery
