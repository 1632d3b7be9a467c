import EntSchema.Decimal.Binary64

/-!
# Shortest decimal text

A double-precision number is written with the fewest decimal digits that read back as the same
number; of two candidates with equally many digits the nearer one is taken.  A layout says which
sizes are written in plain notation and which with an exponent.
-/

namespace EntSchema.Decimal

/-! ## Digits -/

/-- A decimal number `coefficient · 10 ^ power`. -/
structure Scientific where
  coefficient : Nat
  power : Int
  deriving DecidableEq, Repr

def Scientific.toFraction (x : Scientific) : Fraction :=
  Fraction.ofPower x.coefficient 10 x.power

def digitsOf (n : Nat) : List Char :=
  Nat.toDigits 10 n

/-- How often a fraction below one has to be multiplied by ten to reach one, at most `bound`
times. -/
def placesBelowOne : Nat → Fraction → Nat
  | 0, _ => 0
  | bound + 1, value =>
    if value.denominator ≤ value.numerator then 0
    else placesBelowOne bound ⟨value.numerator * 10, value.denominator⟩ + 1

/-- The power of ten of the first digit of a positive fraction that is a number of the format. -/
def leadingPower (value : Fraction) : Int :=
  if value.denominator ≤ value.numerator then ((digitsOf value.floor).length : Int) - 1
  else -(placesBelowOne 400 value : Int)

/-- The decimal numbers next to a value on the grid of a power of ten, the nearer one first. -/
def neighbours (value : Fraction) (power : Int) : List Scientific :=
  let scaled := value.div (Fraction.ofPower 1 10 power)
  let below : Scientific := ⟨scaled.floor, power⟩
  let above : Scientific := ⟨scaled.floor + 1, power⟩
  if scaled.round = scaled.floor then [below, above] else [above, below]

/-- The first decimal number that reads back as `x`, trying `count` grids from `power` downwards. -/
def firstReadingBack (x : Magnitude) : Nat → Int → Scientific
  | 0, power => ⟨(x.toFraction.div (Fraction.ofPower 1 10 power)).floor, power⟩
  | count + 1, power =>
    match (neighbours x.toFraction power).find?
        (fun d => Magnitude.nearest? d.toFraction = some x) with
    | some d => d
    | none => firstReadingBack x count (power - 1)

/-- The decimal number with the fewest digits that reads back as a positive magnitude. -/
def shortest (x : Magnitude) : Scientific :=
  firstReadingBack x 17 (leadingPower x.toFraction)

/-! ## Layout -/

/-- Which sizes are written in plain notation: those whose first digit stands for a power of ten
between the two bounds. -/
structure Layout where
  plainFrom : Int
  plainTo : Int

/-- Digits with a point after the digit of power zero; `power` is that of the first digit. -/
def plainText (digits : List Char) (power : Int) : List Char :=
  if power < 0 then
    '0' :: '.' :: (List.replicate ((-power).toNat - 1) '0' ++ digits)
  else
    let whole := power.toNat + 1
    if digits.length ≤ whole then
      digits ++ List.replicate (whole - digits.length) '0' ++ ['.', '0']
    else digits.take whole ++ '.' :: digits.drop whole

/-- Digits with a point after the first one and the power of ten behind an `e`, its sign always
written. -/
def exponentText (digits : List Char) (power : Int) : List Char :=
  let mantissa :=
    match digits with
    | [] => []
    | [d] => [d]
    | d :: rest => d :: '.' :: rest
  mantissa ++ 'e' :: (if power < 0 then '-' else '+') :: digitsOf power.natAbs

def Scientific.text (layout : Layout) (x : Scientific) : List Char :=
  let all := digitsOf x.coefficient
  let power := x.power + (all.length : Int) - 1
  let digits := (all.reverse.dropWhile (· == '0')).reverse
  if layout.plainFrom ≤ power ∧ power ≤ layout.plainTo then plainText digits power
  else exponentText digits power

def Binary64.text (layout : Layout) (x : Binary64) : List Char :=
  let unsigned :=
    if x.magnitude.isZero then ['0', '.', '0'] else (shortest x.magnitude).text layout
  if x.negative then '-' :: unsigned else unsigned

end EntSchema.Decimal
