/-!
# Doubles

A double is an IEEE 754 binary64 number, held as its sign and the 63 low bits of its word.  Read as
a natural number these bits grow with the absolute value, so the order of doubles is the order of
`rank`.  Every finite double is a whole multiple of `2 ^ -1074`; `units` counts how many, and all
arithmetic here is exact arithmetic on units followed by one rounding.
-/

namespace RecordQuery

/-- An IEEE 754 binary64 number. -/
structure Double where
  negative : Bool
  magnitude : Nat
  magnitude_lt : magnitude < 1 <<< 63
deriving DecidableEq

namespace Double

/-- The magnitude of the infinities; what lies above it is no number. -/
def infiniteMagnitude : Nat := 0x7FF0000000000000

/-- The double of a 64-bit word. -/
def ofBits (word : Nat) : Double where
  negative := decide (1 <<< 63 ≤ word % (1 <<< 64))
  magnitude := word % (1 <<< 63)
  magnitude_lt := Nat.mod_lt _ (by decide)

/-- The 64-bit word of a double. -/
def toBits (x : Double) : Nat := (if x.negative then 1 <<< 63 else 0) + x.magnitude

/-- The double is not a number. -/
def isNaN (x : Double) : Bool := infiniteMagnitude < x.magnitude

/-- The double is one of the two infinities. -/
def isInfinite (x : Double) : Bool := x.magnitude == infiniteMagnitude

/-- The double is a number with a finite value. -/
def isFinite (x : Double) : Bool := x.magnitude < infiniteMagnitude

/-- The zero of the given sign. -/
def zero (negative : Bool) : Double := ⟨negative, 0, by decide⟩

/-- The infinity of the given sign. -/
def infinity (negative : Bool) : Double := ⟨negative, infiniteMagnitude, by decide⟩

/-- The quiet NaN. -/
def nan : Double := ⟨false, 0x7FF8000000000000, by decide⟩

/-- The double of the other sign. -/
def negate (x : Double) : Double := { x with negative := !x.negative }

/-! ### Exact value -/

/-- The absolute value that belongs to a magnitude, in units of `2 ^ -1074`. -/
def unitsOf (magnitude : Nat) : Nat :=
  if magnitude < 1 <<< 52 then magnitude
  else (1 <<< 52 + magnitude % (1 <<< 52)) * (1 <<< (magnitude / (1 <<< 52) - 1))

/-- The value of a finite double in units of `2 ^ -1074`. -/
def units (x : Double) : Int :=
  if x.negative then -(unitsOf x.magnitude : Int) else unitsOf x.magnitude

/-- How many units make one. -/
def unitsPerOne : Nat := 1 <<< 1074

/-- The exact value of a double that is a whole number. -/
def toInt? (x : Double) : Option Int :=
  if x.isFinite && x.units % unitsPerOne == 0 then some (x.units / unitsPerOne) else none

/-! ### Order -/

/-- The place of a double on the line: NaN apart, a smaller rank is a smaller value. -/
def rank (x : Double) : Int :=
  if x.negative then -(x.magnitude : Int) else x.magnitude

/-- The IEEE comparison: NaN compares with nothing, and the two zeros are equal. -/
def compare? (x y : Double) : Option Ordering :=
  if x.isNaN || y.isNaN then none else some (compare x.rank y.rank)

/-- IEEE equality. -/
def same (x y : Double) : Bool := x.compare? y == some .eq

@[simp] theorem rank_zero (negative : Bool) : (zero negative).rank = 0 := by
  cases negative <;> rfl

theorem compare?_eq_none {x y : Double} : x.compare? y = none ↔ x.isNaN = true ∨ y.isNaN = true := by
  unfold compare?
  split <;> simp_all

theorem compare?_of_not_isNaN {x y : Double} (hx : x.isNaN = false) (hy : y.isNaN = false) :
    x.compare? y = some (compare x.rank y.rank) := by
  simp [compare?, hx, hy]

end Double

end RecordQuery
