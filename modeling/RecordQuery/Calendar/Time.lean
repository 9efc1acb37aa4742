import RecordQuery.Calendar.Date

/-!
# Times and date-times

A time of day counts seconds from midnight and nanoseconds; a leap second is the second before it
with a billion nanoseconds more.  A date-time is an instant together with the offset of the place
where it was written.
-/

namespace RecordQuery

/-- A time of day. -/
structure Time where
  seconds : Nat
  nanos : Nat
deriving DecidableEq

/-- An instant, as Unix seconds and nanoseconds, and an offset from UTC in seconds. -/
structure DateTime where
  seconds : Int
  nanos : Nat
  offset : Int
deriving DecidableEq

namespace Time

/-- Midnight. -/
def midnight : Time := ⟨0, 0⟩

/-- The time of an hour, minute and second; second 60 is a leap second. -/
def ofClock? (hour minute second nanos : Nat) : Option Time :=
  if hour < 24 && minute < 60 && second ≤ 60 then
    if second == 60 then some ⟨hour * 3600 + minute * 60 + 59, nanos + 1000000000⟩
    else some ⟨hour * 3600 + minute * 60 + second, nanos⟩
  else none

/-- The order of times. -/
def order (a b : Time) : Ordering := (compare a.seconds b.seconds).then (compare a.nanos b.nanos)

end Time

namespace DateTime

/-- The seconds of a day. -/
def daySeconds : Int := 86400

/-- The date-time that shows a date and a time at an offset. -/
def ofLocal (date : Date) (time : Time) (offset : Int) : DateTime :=
  ⟨date.day * daySeconds + time.seconds - offset, time.nanos, offset⟩

/-- The date that a date-time shows at its own offset. -/
def localDate (t : DateTime) : Date := ⟨(t.seconds + t.offset) / daySeconds⟩

/-- The instant a number of milliseconds after 1970-01-01, if its date is in range. -/
def ofMilliseconds? (ms : Int) : Option DateTime :=
  let seconds := ms / 1000
  let day := seconds / daySeconds
  if Date.earliest.day ≤ day && day ≤ Date.latest.day then
    some ⟨seconds, (ms % 1000).toNat * 1000000, 0⟩
  else none

/-- The order of instants; the offset does not matter. -/
def order (a b : DateTime) : Ordering :=
  (compare a.seconds b.seconds).then (compare a.nanos b.nanos)

end DateTime

end RecordQuery
