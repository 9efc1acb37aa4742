import RecordQuery.Json.Basic
import RecordQuery.Scalar

/-!
# Tagged scalars

A scalar is written as a JSON object with one member, whose key names the type: so no two scalars
share a form, and the representation of a number is kept.  Null is written as null, and all NaN have
one form.  `Scalar.tagged` writes and `Scalar.ofTagged?` reads.
-/

namespace RecordQuery

/-- The object with one member. -/
def Json.tag (key : String) (content : Json) : Json := .object [(key, content)]

/-- Whole decimal digits as a JSON string. -/
def Json.digits (n : Int) : Json := .string (toString n)

/-- The bits of a double as sixteen hexadecimal digits. -/
def Double.tagged (x : Double) : Json := .string (if x.isNaN then "nan" else x.hexText)

/-- The form of a number: its representation and its digits. -/
def Number.tagged : Number → Json
  | .signed n => .tag "i64" (.digits n.toInt)
  | .unsigned n => .tag "u64" (.digits n.toNat)
  | .float x => .tag "f64" x.tagged

namespace Scalar

/-- The form of a scalar. -/
def tagged : Scalar → Json
  | .null => .null
  | .string s => .tag "string" (.string s)
  | .number n => n.tagged
  | .bool b => .tag "bool" (.bool b)
  | .uuid u => .tag "uuid" (.string u.text)
  | .dateTime t => .tag "datetime" (.array [.digits t.seconds, .ofInt t.nanos, .ofInt t.offset])
  | .date d =>
    let (year, month, day) := d.civil
    .tag "date" (.array [.ofInt year, .ofInt month, .ofInt day])
  | .time t => .tag "time" (.array [.ofInt t.seconds, .ofInt t.nanos])
  | .duration d => .tag "duration" (.digits d.nanoseconds)
  | .enumeration index => .tag "enum" (.ofInt index)

/-- The whole number of a string of decimal digits. -/
def ofDigits? : Json → Option Int
  | .string s => readInt? s.toList
  | _ => none

/-- The double of sixteen hexadecimal digits. -/
def doubleOfTagged? : Json → Option Double
  | .string s =>
    if s == "nan" then some Double.nan
    else (Text.hexNumber? s.toList).map Double.ofBits
  | _ => none

/-- The scalar of a type that a tag names. -/
def ofContent? (tag : String) (content : Json) : Option Scalar :=
  match tag, content with
  | "string", .string s => some (.string s)
  | "i64", digits => (ofDigits? digits).map fun n => .number (.signed (.ofInt n))
  | "u64", digits => (ofDigits? digits).map fun n => .number (.unsigned (.ofNat n.toNat))
  | "f64", bits => (doubleOfTagged? bits).map fun x => .number (.float x)
  | "bool", .bool b => some (.bool b)
  | "uuid", .string s => (Uuid.ofText? s.toList).map .uuid
  | "datetime", .array [seconds, nanos, offset] => do
    return .dateTime ⟨← ofDigits? seconds, (← nanos.int?).toNat, ← offset.int?⟩
  | "date", .array [year, month, day] => do
    return .date (← Date.ofCivil? (← year.int?) (← month.int?).toNat (← day.int?).toNat)
  | "time", .array [seconds, nanos] => do
    return .time ⟨(← seconds.int?).toNat, (← nanos.int?).toNat⟩
  | "duration", digits => (ofDigits? digits).map fun n => .duration ⟨n⟩
  | "enum", index => index.int?.map fun i => .enumeration i.toNat
  | _, _ => none

/-- The scalar of a form. -/
def ofTagged? : Json → Option Scalar
  | .null => some .null
  | .object [(tag, content)] => ofContent? tag content
  | _ => none

@[simp] theorem ofTagged?_null : ofTagged? .null = some .null := rfl

end Scalar

end RecordQuery
