import RecordQuery.Double.Basic

/-!
# Rounding and arithmetic of doubles

`ofRatio` takes an exact quotient of natural numbers to the nearest double, a tie to the even
neighbour; products, quotients and whole numbers are rounded through it.  `nearestSingle` rounds to
binary32 instead and gives the result as a double, which is exact.
-/

namespace RecordQuery.Double

/-- The natural number nearest to `num / den`, a half going to the even neighbour. -/
def roundHalfEven (num den : Nat) : Nat :=
  let q := num / den
  let r := num % den
  if 2 * r < den || (2 * r == den && q % 2 == 0) then q else q + 1

/-- The magnitude of the double nearest to `num / den`. -/
def nearestMagnitude (num den : Nat) : Nat :=
  let shift := (num * unitsPerOne / den).log2 - 52
  let rounded := roundHalfEven (num * unitsPerOne) (den * (1 <<< shift))
  min infiniteMagnitude (shift * (1 <<< 52) + rounded)

theorem nearestMagnitude_lt (num den : Nat) : nearestMagnitude num den < 1 <<< 63 :=
  Nat.lt_of_le_of_lt (Nat.min_le_left _ _) (by decide)

/-- The double nearest to `num / den`, with the given sign; `den` is positive. -/
def ofRatio (negative : Bool) (num den : Nat) : Double :=
  ⟨negative, nearestMagnitude num den, nearestMagnitude_lt num den⟩

/-- The double nearest to a whole number. -/
def ofInt (n : Int) : Double := ofRatio (decide (n < 0)) n.natAbs 1

/-- The product of two doubles. -/
def mul (x y : Double) : Double :=
  let negative := x.negative != y.negative
  if x.isNaN || y.isNaN then nan
  else if x.isInfinite || y.isInfinite then
    if x.magnitude == 0 || y.magnitude == 0 then nan else infinity negative
  else ofRatio negative (unitsOf x.magnitude * unitsOf y.magnitude) (unitsPerOne * unitsPerOne)

/-- The quotient of two doubles. -/
def div (x y : Double) : Double :=
  let negative := x.negative != y.negative
  if x.isNaN || y.isNaN then nan
  else if x.isInfinite then if y.isInfinite then nan else infinity negative
  else if y.isInfinite then zero negative
  else if y.magnitude == 0 then if x.magnitude == 0 then nan else infinity negative
  else ofRatio negative (unitsOf x.magnitude) (unitsOf y.magnitude)

/-- The whole number nearest to a finite double, a half going away from zero. -/
def round (x : Double) : Int :=
  let n : Int := (2 * unitsOf x.magnitude + unitsPerOne) / (2 * unitsPerOne)
  if x.negative then -n else n

/-- The nearest whole number that fits 64 bits with sign: out of range it is the bound on the side
of the double, and zero for NaN. -/
def roundToInt64 (x : Double) : Int64 :=
  if x.isNaN then 0
  else if x.isInfinite then if x.negative then Int64.minValue else Int64.maxValue
  else Int64.ofInt (max Int64.minValue.toInt (min Int64.maxValue.toInt x.round))

/-! ### Single precision -/

/-- The largest count of `2 ^ -149` units that a finite single holds, plus one. -/
def singleLimit : Nat := 1 <<< 277

/-- The single nearest to `num / den`, as a double. -/
def nearestSingle (negative : Bool) (num den : Nat) : Double :=
  let shift := (num * (1 <<< 149) / den).log2 - 23
  let n := roundHalfEven (num * (1 <<< 149)) (den * (1 <<< shift)) * (1 <<< shift)
  if singleLimit ≤ n then infinity negative else ofRatio negative n (1 <<< 149)

/-- The double rounded to single precision. -/
def toSingle (x : Double) : Double :=
  if x.isFinite then nearestSingle x.negative (unitsOf x.magnitude) unitsPerOne else x

end RecordQuery.Double
