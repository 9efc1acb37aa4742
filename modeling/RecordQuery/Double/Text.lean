import RecordQuery.Double.Arithmetic
import RecordQuery.Text.Hexadecimal

/-!
# Shortest decimal text

The text of a double shows the fewest decimal digits that read back as the same double, and of
those the nearest to its value.  `shortest` finds the digits by trying one digit, then two, and so
on: on the grid of decimals with that many digits, a point inside the interval of reals that round
to the double is one of the two neighbours of the value, so only these are tested.  `plainText` and
`jsonText` lay the digits out, and differ in where a value in the middle of two decimals goes.
-/

namespace RecordQuery.Double

/-- Decimal digits `d₁d₂…dₙ` standing for `0.d₁d₂…dₙ * 10 ^ point`. -/
structure Digits where
  digits : List Char
  point : Int

/-- The reals that round to a positive finite double, in half units: bounds, value and whether the
bounds belong to it. -/
structure RoundingInterval where
  low : Nat
  value : Nat
  high : Nat
  closed : Bool

/-- The interval of a positive magnitude. -/
def roundingInterval (magnitude : Nat) : RoundingInterval where
  low := unitsOf (magnitude - 1) + unitsOf magnitude
  value := 2 * unitsOf magnitude
  high := unitsOf magnitude + unitsOf (magnitude + 1)
  closed := magnitude % 2 == 0

/-- The point `n * num / den` lies in the interval. -/
def RoundingInterval.holds (i : RoundingInterval) (n num den : Nat) : Bool :=
  if i.closed then i.low * den ≤ n * num && n * num ≤ i.high * den
  else i.low * den < n * num && n * num < i.high * den

/-- Which of two neighbours stands for a value exactly in the middle between them. -/
inductive Tie where
  /-- The one with the even last digit. -/
  | toEven
  /-- The one further from zero. -/
  | upward
deriving DecidableEq

/-- The neighbour of the value among `below` and `below + 1` times `num / den`. -/
def RoundingInterval.nearer (i : RoundingInterval) (tie : Tie) (below num den : Nat) : Nat :=
  match compare (2 * i.value * den) ((2 * below + 1) * num), tie with
  | .lt, _ => below
  | .gt, _ => below + 1
  | .eq, .toEven => if below % 2 == 0 then below else below + 1
  | .eq, .upward => below + 1

/-- The multiple of `num / den` in the interval that lies nearest to the value, if one of the
value's two neighbours does. -/
def RoundingInterval.nearest? (i : RoundingInterval) (tie : Tie) (num den : Nat) : Option Nat :=
  let below := i.value * den / num
  match i.holds below num den, i.holds (below + 1) num den with
  | true, true => some (i.nearer tie below num den)
  | true, false => some below
  | false, true => some (below + 1)
  | false, false => none

/-- The number of decimal digits of a natural number. -/
def digitCount (n : Nat) : Nat := (Nat.toDigits 10 n).length

/-- The power `p` with `10 ^ (p - 1) ≤ num / den < 10 ^ p`. -/
def decimalPoint (num den : Nat) : Int :=
  if den ≤ num then digitCount (num / den)
  else
    let p : Int := 1 - (digitCount (den / num) : Int)
    if num * Nat.pow 10 (-p).toNat < den then p else p + 1

/-- The first grid, from `count` digits on, that has a point in the interval. -/
def shortestFrom (i : RoundingInterval) (tie : Tie) (point : Int) : Nat → Nat → Digits
  | 0, _ => ⟨[], point⟩
  | fuel + 1, count =>
    let step := point - count
    let unit := Nat.pow 10 step.toNat * (2 * unitsPerOne)
    match i.nearest? tie unit (Nat.pow 10 (-step).toNat) with
    | some n =>
      let text := Nat.toDigits 10 n
      ⟨(text.reverse.dropWhile (· == '0')).reverse, step + text.length⟩
    | none => shortestFrom i tie point fuel (count + 1)

/-- The shortest digits of a positive magnitude; seventeen always suffice. -/
def shortest (tie : Tie) (magnitude : Nat) : Digits :=
  let i := roundingInterval magnitude
  shortestFrom i tie (decimalPoint i.value (2 * unitsPerOne)) 17 1

/-- Digits with the point where it belongs and no power of ten.  A whole number ends in `whole`. -/
def Digits.positional (d : Digits) (whole : List Char) : List Char :=
  let n : Int := d.digits.length
  if d.point ≤ 0 then '0' :: '.' :: (List.replicate (-d.point).toNat '0' ++ d.digits)
  else if n ≤ d.point then d.digits ++ List.replicate (d.point - n).toNat '0' ++ whole
  else d.digits.take d.point.toNat ++ '.' :: d.digits.drop d.point.toNat

/-- Digits as one digit, a fraction and a power of ten that always shows its sign. -/
def Digits.scientific (d : Digits) : List Char :=
  let e := d.point - 1
  let mantissa := match d.digits with
    | [] => ['0']
    | [c] => [c]
    | c :: cs => c :: '.' :: cs
  mantissa ++ 'e' :: (if e < 0 then '-' else '+') :: Nat.toDigits 10 e.natAbs

/-- The sign in front of a text. -/
def withSign (negative : Bool) (cs : List Char) : String :=
  String.ofList (if negative then '-' :: cs else cs)

/-- The text of a double without powers of ten; a tie between digits goes upward. -/
def plainText (x : Double) : String :=
  if x.isNaN then "NaN"
  else if x.isInfinite then withSign x.negative ['i', 'n', 'f']
  else if x.magnitude == 0 then withSign x.negative ['0']
  else withSign x.negative ((shortest .upward x.magnitude).positional [])

/-- The text of a double in a JSON document: positional from `1e-5` up to `1e16`, and always with
a fraction or a power of ten; a tie between digits goes to the even one.  What JSON cannot write is
null. -/
def jsonText (x : Double) : String :=
  if !x.isFinite then "null"
  else if x.magnitude == 0 then withSign x.negative ['0', '.', '0']
  else
    let d := shortest .toEven x.magnitude
    withSign x.negative
      (if -5 < d.point && d.point ≤ 16 then d.positional ['.', '0'] else d.scientific)

/-- The sixteen hexadecimal digits of a double's word. -/
def hexText (x : Double) : String :=
  String.ofList (Text.hexDigits 16 x.toBits)

end RecordQuery.Double
