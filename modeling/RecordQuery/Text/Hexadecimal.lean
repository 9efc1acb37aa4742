/-!
# Hexadecimal digits

Hexadecimal digits are read in either case and written small.
-/

namespace RecordQuery.Text

/-- The value of a hexadecimal digit. -/
def hexDigit? (c : Char) : Option Nat :=
  if c.isDigit then some (c.toNat - '0'.toNat)
  else if 'a' ≤ c && c ≤ 'f' then some (c.toNat - 'a'.toNat + 10)
  else if 'A' ≤ c && c ≤ 'F' then some (c.toNat - 'A'.toNat + 10)
  else none

/-- The number that digits of a base write, the leading one first. -/
def ofDigitsIn (base : Nat) (digits : List Nat) : Nat := digits.foldl (fun n d => base * n + d) 0

/-- The number of hexadecimal digits. -/
def hexNumber? (cs : List Char) : Option Nat := (cs.mapM hexDigit?).map (ofDigitsIn 16)

/-- The hexadecimal digits of a number, filled up with zeros in front to a width. -/
def hexDigits (width n : Nat) : List Char :=
  let ds := Nat.toDigits 16 n
  List.replicate (width - ds.length) '0' ++ ds

end RecordQuery.Text
