import RecordQuery.Calendar.Reader
import RecordQuery.Text.Ascii

/-!
# Loose dates and times

Records give their dates and times in a looser form than queries do.  Blanks may stand around every
number, years may have a sign and then any number of digits, and the offset of a date-time is `UTC`,
`Z`, or hours and minutes with or without a colon between them.
-/

namespace RecordQuery

namespace Calendar

open Text

/-- `year-month-day`, with blanks. -/
def looseDateLayout : Layout := [.year, .blanks, .char '-', .month, .blanks, .char '-', .day]

/-- `hour:minute`, with blanks. -/
def looseHourLayout : Layout := [.hour, .blanks, .char ':', .minute]

/-- `:second`, with or without a fraction, with blanks. -/
def looseSecondLayout : Layout := [.blanks, .char ':', .second, .fraction, .blanks]

/-- The offset at the front of a text, in seconds. -/
def readLooseOffset (cs : List Char) : Option (Int × List Char) :=
  if foldAscii (cs.take 3) == ['u', 't', 'c'] then some (0, cs.drop 3)
  else
    match cs with
    | [] => none
    | sign :: r =>
      if sign == 'Z' || sign == 'z' then some (0, r)
      else if sign == '+' || sign == '-' || sign == '\u2212' then do
        let (hours, r) ← exactly 2 r
        let (minutes, r) ← exactly 2 (r.dropWhile fun c => c == ':' || isBlank c)
        if hours < 24 && minutes < 60 then
          let seconds : Int := hours * 3600 + minutes * 60
          some (if sign == '+' then seconds else -seconds, r)
        else none
      else none

/-- Reads a date-time with an offset. -/
def readLooseInstant? (cs : List Char) : Option DateTime := do
  let (f, cs) ← looseDateLayout.readFront {} cs
  let cs ← dropChar? (fun c => c == 'T' || c == 't' || c == ' ') cs
  let (f, cs) ← (looseHourLayout ++ looseSecondLayout).readFront f cs
  let (offset, cs) ← readLooseOffset cs
  if allBlank cs then return .ofLocal (← f.date?) (← f.time?) offset else none

/-- Reads a date-time without an offset, taken as UTC. -/
def readLooseLocal? (cs : List Char) : Option DateTime :=
  readLocal? cs (looseDateLayout ++ .blanks :: .char 'T' :: looseHourLayout ++ looseSecondLayout)

end Calendar

open Calendar

/-- Reads a date-time of a record, with or without an offset. -/
def DateTime.ofLoose? (text : String) : Option DateTime :=
  (readLooseInstant? text.toList).or (readLooseLocal? text.toList)

/-- Reads a date of a record. -/
def Date.ofLoose? (text : String) : Option Date :=
  (Layout.read (looseDateLayout ++ [.blanks]) text.toList).bind Fields.date?

/-- Reads a time of a record, with or without seconds. -/
def Time.ofLoose? (text : String) : Option Time :=
  ((Layout.read (looseHourLayout ++ looseSecondLayout) text.toList).or
    (Layout.read (looseHourLayout ++ [.blanks]) text.toList)).bind Fields.time?

end RecordQuery
