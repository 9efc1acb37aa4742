import RecordQuery.Calendar.Duration
import RecordQuery.Calendar.Time
import RecordQuery.Double.Text
import RecordQuery.Uuid

/-!
# Scalars

A scalar is a single value: what operands are coerced to and what sort keys are made of.  Values of
one type are ordered by that type, numbers across their three representations; null comes after
everything else, and values of different types do not compare.
-/

namespace RecordQuery

/-- A number in one of three representations. -/
inductive Number where
  | signed (n : Int64)
  | unsigned (n : UInt64)
  | float (x : Double)
deriving DecidableEq

namespace Number

/-- The number as a double, rounded when it is a whole number. -/
def toDouble : Number → Double
  | .signed n => Double.ofInt n.toInt
  | .unsigned n => Double.ofInt n.toNat
  | .float x => x

/-- The order of numbers.  Whole numbers compare by value, and a whole number compares with a double
as the double nearest to it; NaN compares with nothing. -/
def order? : Number → Number → Option Ordering
  | .signed m, .signed n => some (compare m.toInt n.toInt)
  | .unsigned m, .unsigned n => some (compare m.toNat n.toNat)
  | .signed m, .unsigned n => some (compare m.toInt n.toNat)
  | .unsigned m, .signed n => some (compare (m.toNat : Int) n.toInt)
  | x, y => x.toDouble.compare? y.toDouble

/-- Equality within one representation. -/
def same : Number → Number → Bool
  | .signed m, .signed n => m == n
  | .unsigned m, .unsigned n => m == n
  | .float x, .float y => x.same y
  | _, _ => false

/-- The text of a number: whole numbers in decimal, doubles without powers of ten. -/
def text : Number → String
  | .signed n => toString n.toInt
  | .unsigned n => toString n.toNat
  | .float x => x.plainText

end Number

/-- A single value. -/
inductive Scalar where
  | null
  | string (s : String)
  | number (n : Number)
  | bool (b : Bool)
  | uuid (u : Uuid)
  | dateTime (t : DateTime)
  | date (d : Date)
  | time (t : Time)
  | duration (d : Duration)
  /-- A member of an enumeration, by its place. -/
  | enumeration (index : Nat)
deriving DecidableEq

namespace Scalar

/-- The order of scalars: null after everything else, otherwise within one type only. -/
def order? : Scalar → Scalar → Option Ordering
  | .null, .null => some .eq
  | .null, _ => some .gt
  | _, .null => some .lt
  | .string a, .string b => some (compare a b)
  | .number a, .number b => a.order? b
  | .bool a, .bool b => some (compare a.toNat b.toNat)
  | .uuid a, .uuid b => some (compare a.word.toNat b.word.toNat)
  | .dateTime a, .dateTime b => some (a.order b)
  | .date a, .date b => some (compare a.day b.day)
  | .time a, .time b => some (a.order b)
  | .duration a, .duration b => some (compare a.nanoseconds b.nanoseconds)
  | .enumeration a, .enumeration b => some (compare a b)
  | _, _ => none

/-- Equality of operands: numbers within one representation, date-times by their instant. -/
def same : Scalar → Scalar → Bool
  | .number a, .number b => a.same b
  | .dateTime a, .dateTime b => a.order b == .eq
  | a, b => a == b

end Scalar

end RecordQuery
