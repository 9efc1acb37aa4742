import RecordQuery.Double.Arithmetic

/-!
# Reading decimal text

`DecimalText` is an unsigned decimal as it is written: whole digits, fraction digits and a power of
ten.  `ofText?` reads a signed decimal, an infinity or a NaN and rounds it correctly.  A result
beyond the largest double is an infinity.
-/

namespace RecordQuery

/-- The number that decimal digits write. -/
def ofDigits (cs : List Char) : Nat := cs.foldl (fun n c => 10 * n + (c.toNat - '0'.toNat)) 0

/-- A run of digits at the front of a text, and what follows it. -/
def takeDigits (cs : List Char) : List Char × List Char := cs.span Char.isDigit

/-- A sign at the front of a text is minus; a plus is dropped. -/
def takeSign : List Char → Bool × List Char
  | '-' :: cs => (true, cs)
  | '+' :: cs => (false, cs)
  | cs => (false, cs)

/-- An unsigned decimal: `coefficient * 10 ^ exponent`. -/
structure DecimalText where
  coefficient : Nat
  exponent : Int

namespace DecimalText

/-- The power of ten at the end of a decimal, zero when there is none. -/
def exponentText? : List Char → Option Int
  | [] => some 0
  | c :: cs =>
    if c == 'e' || c == 'E' then
      let (negative, digits) := takeSign cs
      if digits.isEmpty || !digits.all Char.isDigit then none
      else some (if negative then -(ofDigits digits : Int) else ofDigits digits)
    else none

/-- Reads digits with an optional point among or beside them and an optional power of ten. -/
def ofText? (cs : List Char) : Option DecimalText :=
  let (whole, rest) := takeDigits cs
  let (fraction, rest) :=
    match rest with
    | '.' :: r => takeDigits r
    | r => ([], r)
  if whole.isEmpty && fraction.isEmpty then none
  else (exponentText? rest).map fun e => ⟨ofDigits (whole ++ fraction), e - fraction.length⟩

/-- The exact value as a quotient, rounded by `round`.  Beyond four hundred places on either side
the result no longer depends on the digits. -/
def roundBy (round : Bool → Nat → Nat → Double) (negative : Bool) (d : DecimalText) : Double :=
  if d.coefficient == 0 then Double.zero negative
  else if 400 < d.exponent then Double.infinity negative
  else if d.exponent + (d.coefficient.log2 + 1) < -400 then Double.zero negative
  else
    round negative (d.coefficient * Nat.pow 10 d.exponent.toNat) (Nat.pow 10 (-d.exponent).toNat)

end DecimalText

/-- Reads a float by rounding its exact value with `round`. -/
def Double.readBy? (round : Bool → Nat → Nat → Double) (cs : List Char) : Option Double :=
  let (negative, body) := takeSign cs
  let word := body.map Char.toLower
  if word == ['i', 'n', 'f'] || word == ['i', 'n', 'f', 'i', 'n', 'i', 't', 'y'] then
    some (infinity negative)
  else if word == ['n', 'a', 'n'] then some nan
  else (DecimalText.ofText? body).map (DecimalText.roundBy round negative)

/-- Reads a double. -/
def Double.ofText? (cs : List Char) : Option Double := readBy? ofRatio cs

/-- Reads a single, as a double. -/
def Double.ofSingleText? (cs : List Char) : Option Double := readBy? nearestSingle cs

/-! ### Whole numbers -/

/-- Reads a whole number with an optional sign. -/
def readInt? (cs : List Char) : Option Int :=
  let (negative, digits) := takeSign cs
  if digits.isEmpty || !digits.all Char.isDigit then none
  else some (if negative then -(ofDigits digits : Int) else ofDigits digits)

/-- Reads a whole number that fits 64 bits with sign. -/
def readInt64? (cs : List Char) : Option Int64 :=
  (readInt? cs).bind fun n =>
    if Int64.minValue.toInt ≤ n && n ≤ Int64.maxValue.toInt then some (Int64.ofInt n) else none

/-- Reads a whole number that fits 64 bits without sign; a minus is never accepted. -/
def readUInt64? (cs : List Char) : Option UInt64 :=
  let digits := match cs with
    | '+' :: r => r
    | r => r
  if digits.isEmpty || !digits.all Char.isDigit then none
  else if ofDigits digits < UInt64.size then some (UInt64.ofNat (ofDigits digits)) else none

end RecordQuery
