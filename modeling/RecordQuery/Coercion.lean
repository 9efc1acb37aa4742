import RecordQuery.Calendar.Reader
import RecordQuery.QueryError
import RecordQuery.Scalar
import RecordQuery.Text.Ascii

/-!
# Coercion of operands

The operands of a filter are JSON values.  Before they are compared with a field each is coerced to
the kind of the field: texts are read as dates, numbers, members of enumerations and so on, numbers
become the representation of the field.  Null is null for every kind.  Documents, records and
collections are no kinds to coerce to.
-/

namespace RecordQuery

namespace Coercion

open Text

/-- A double that is a whole number between the bounds of 64 bits with sign.  The bound above is
taken as a double, and what reaches it is held to the largest whole number. -/
def whole? (x : Double) : Option Int64 :=
  match x.toInt? with
  | some n =>
    if Int64.minValue.toInt ≤ n && n ≤ Int64.maxValue.toInt + 1 then
      some (Int64.ofInt (min n Int64.maxValue.toInt))
    else none
  | none => none

/-- A whole number that is not negative. -/
def nonNegative? (n : Int64) : Option UInt64 :=
  if 0 ≤ n.toInt then some (UInt64.ofNat n.toInt.toNat) else none

/-- A whole number with sign. -/
def int? : Json → Option Int64
  | .number n => n.toInt64?.or (whole? n.toDouble)
  | .string s => readInt64? (trim s.toList)
  | _ => none

/-- A whole number without sign. -/
def uint? : Json → Option UInt64
  | .number n => n.toUInt64?.or ((whole? n.toDouble).bind nonNegative?)
  | .string s => readUInt64? (trim s.toList)
  | _ => none

/-- A double. -/
def float? : Json → Option Double
  | .number n => some n.toDouble
  | .string s => Double.ofText? (trim s.toList)
  | _ => none

/-- A truth value, or its name in any case. -/
def bool? : Json → Option Bool
  | .bool b => some b
  | .string s =>
    let word := String.ofList (trim s.toList)
    if agree word "true" then some true
    else if agree word "false" then some false
    else none
  | _ => none

/-- A uuid, written as text. -/
def uuid? : Json → Option Uuid
  | .string s => Uuid.ofText? (trim s.toList)
  | _ => none

/-- A date-time, written as text or as milliseconds. -/
def dateTime? : Json → Option DateTime
  | .string s => DateTime.ofText? s
  | .number n => n.toInt64?.bind fun ms => DateTime.ofMilliseconds? ms.toInt
  | _ => none

/-- A date, written as text. -/
def date? : Json → Option Date
  | .string s => Date.ofText? s
  | _ => none

/-- A time of day, written as text. -/
def time? : Json → Option Time
  | .string s => Time.ofText? s
  | _ => none

/-- A duration, written as text or as milliseconds. -/
def duration? : Json → Option Duration
  | .string s => Duration.ofText? s
  | .number n => n.toInt64?.bind fun ms => Duration.ofMilliseconds? ms.toInt
  | _ => none

/-- The place of a member of an enumeration: the first member of that name in any case, or the place
itself. -/
def member? (members : List String) : Json → Option Nat
  | .string s => members.findIdx? fun m => agree m (String.ofList (trim s.toList))
  | .number n => n.toUInt64?.bind fun i => if i.toNat < members.length then some i.toNat else none
  | _ => none

/-- The scalar of a kind that a value other than null stands for. -/
def scalar? (raw : Json) : Kind → Option Scalar
  | .string => raw.text?.map .string
  | .int => (int? raw).map fun n => .number (.signed n)
  | .uint => (uint? raw).map fun n => .number (.unsigned n)
  | .float => (float? raw).map fun x => .number (.float x)
  | .bool => (bool? raw).map .bool
  | .uuid => (uuid? raw).map .uuid
  | .dateTime => (dateTime? raw).map .dateTime
  | .date => (date? raw).map .date
  | .time => (time? raw).map .time
  | .duration => (duration? raw).map .duration
  | .enumeration members => (member? members raw).map .enumeration
  | .json | .record _ | .list _ => none

end Coercion

/-- Coerces an operand to a kind. -/
def coerce (raw : Json) (kind : Kind) : Except QueryError Scalar :=
  match raw with
  | .null => .ok .null
  | raw =>
    match Coercion.scalar? raw kind with
    | some s => .ok s
    | none => .error (.notConvertible raw kind)

/-- Coerces the operand of a length comparison. -/
def coerceLength (raw : Json) : Except QueryError UInt64 :=
  match Coercion.uint? raw with
  | some n => .ok n
  | none => .error (.notLength raw)

end RecordQuery
