/-!
# Double-precision numbers

The finite numbers of the binary64 format, held exactly: a significand below `2 ^ 53` times a power
of two from `2 ^ (-1074)` to `2 ^ 971`.  All arithmetic is on natural numbers and rounds once, to
the nearest number of the format, a half going to the even significand.
-/

namespace EntSchema.Decimal

/-! ## Fractions -/

structure Fraction where
  numerator : Nat
  denominator : Nat
  deriving DecidableEq, Repr

/-- The fraction `coefficient · base ^ power`. -/
def Fraction.ofPower (coefficient base : Nat) (power : Int) : Fraction :=
  if 0 ≤ power then ⟨coefficient * Nat.pow base power.toNat, 1⟩
  else ⟨coefficient, Nat.pow base (-power).toNat⟩

def Fraction.mul (a b : Fraction) : Fraction :=
  ⟨a.numerator * b.numerator, a.denominator * b.denominator⟩

def Fraction.div (a b : Fraction) : Fraction :=
  ⟨a.numerator * b.denominator, a.denominator * b.numerator⟩

def Fraction.floor (a : Fraction) : Nat :=
  a.numerator / a.denominator

/-- The nearest natural number, a half going to the even one. -/
def Fraction.round (a : Fraction) : Nat :=
  let rest := a.numerator % a.denominator
  if 2 * rest > a.denominator ∨ (2 * rest = a.denominator ∧ a.floor % 2 = 1) then a.floor + 1
  else a.floor

/-! ## Magnitudes -/

/-- A non-negative finite number of the format: `significand · 2 ^ exponent`, with a significand
below `2 ^ 53` and an exponent from -1074 to 971. -/
structure Magnitude where
  significand : Nat
  exponent : Int
  deriving DecidableEq, Repr

namespace Magnitude

def leastExponent : Int := -1074

def greatestExponent : Int := 971

def zero : Magnitude := ⟨0, leastExponent⟩

def isZero (x : Magnitude) : Bool := x.significand == 0

def toFraction (x : Magnitude) : Fraction :=
  Fraction.ofPower x.significand 2 x.exponent

/-- The number of the format nearest to a fraction; none when that would be beyond its range. -/
def nearest? (value : Fraction) : Option Magnitude :=
  if value.numerator = 0 then some zero
  else
    let scaled (exponent : Int) := value.mul (Fraction.ofPower 1 2 (-exponent))
    let guess : Int :=
      max leastExponent ((value.numerator.log2 : Int) - value.denominator.log2 - 53)
    let exponent := if (scaled guess).floor < Nat.pow 2 53 then guess else guess + 1
    let significand := (scaled exponent).round
    let rounded : Magnitude :=
      if significand = Nat.pow 2 53 then ⟨Nat.pow 2 52, exponent + 1⟩ else ⟨significand, exponent⟩
    if greatestExponent < rounded.exponent then none else some rounded

/-- The number of the format nearest to a power of ten, zero beyond the range. -/
def powerOfTen (power : Nat) : Magnitude :=
  (nearest? ⟨Nat.pow 10 power, 1⟩).getD zero

/-- The rounded product of two magnitudes; none beyond the range. -/
def mul? (x y : Magnitude) : Option Magnitude :=
  nearest? (x.toFraction.mul y.toFraction)

def div? (x y : Magnitude) : Option Magnitude :=
  nearest? (x.toFraction.div y.toFraction)

end Magnitude

/-! ## Numbers with a sign -/

/-- A finite number of the format; zero has either sign. -/
structure Binary64 where
  negative : Bool
  magnitude : Magnitude
  deriving DecidableEq, Repr

end EntSchema.Decimal
