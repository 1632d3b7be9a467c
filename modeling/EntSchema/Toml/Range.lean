import EntSchema.Decimal.Binary64
import EntSchema.Toml.Scalars

/-!
# Ranges of TOML numbers

A document may hold numbers of any size.  Whoever takes values from it, even without a use for them,
holds them in numbers of a fixed width: `Value.fits` tells whether all numbers of a value have their
place there.
-/

namespace EntSchema.Toml

/-! ## Integers -/

structure IntegerRange where
  least : Int
  greatest : Int
  deriving DecidableEq, Repr

/-- The integers that fit in a number of bits, with a sign or without one. -/
def IntegerRange.ofBits (bits : Nat) : IntegerRange :=
  ⟨-Nat.pow 2 (bits - 1), Nat.pow 2 bits - 1⟩

/-! ## Numbers with a fraction or an exponent -/

/-- The power of ten behind the `e` that a text starts with, and 0 when it is empty. -/
def exponentOf : List Char → Int
  | [] => 0
  | _ :: digits =>
    let (negative, digits) := dropSign digits
    if negative then -(groupedValue 10 digits : Int) else groupedValue 10 digits

/-- Whether digits times a power of ten are below the double-precision infinity.  Only a number of
between 300 and 310 digits has to be worked out for that. -/
def isBelowInfinity (digits : List Char) (power : Int) : Bool :=
  let digits := digits.dropWhile (· == '0')
  let size := digits.length + power
  if digits.isEmpty || size < 300 then true
  else if 310 < size then false
  else (Decimal.Magnitude.nearest? (.ofPower (groupedValue 10 digits) 10 power)).isSome

/-- Whether the number that a text stands for is finite, or is called infinite by the text. -/
def isHeld (text : List Char) : Bool :=
  let unsigned := (dropSign text).2
  if unsigned == ['i', 'n', 'f'] || unsigned == ['n', 'a', 'n'] then true
  else
    let digits := unsigned.filter (· != '_')
    let whole := digits.takeWhile isDigit
    match digits.drop whole.length with
    | '.' :: rest =>
      let fraction := rest.takeWhile isDigit
      isBelowInfinity (whole ++ fraction)
        (exponentOf (rest.drop fraction.length) - fraction.length)
    | rest => isBelowInfinity whole (exponentOf rest)

/-! ## Values -/

mutual

/-- Whether all numbers of a value can be held. -/
def Value.fits (range : IntegerRange) : Value → Bool
  | .integer value => range.least ≤ value && value ≤ range.greatest
  | .float text => isHeld text
  | .misspelt _ => false
  | .array _ items => itemsFit range items
  | .table _ entries => entriesFit range entries
  | .string _ | .boolean _ | .datetime _ => true

def itemsFit (range : IntegerRange) : List Value → Bool
  | [] => true
  | item :: items => item.fits range && itemsFit range items

def entriesFit (range : IntegerRange) : List (String × Value) → Bool
  | [] => true
  | (_, value) :: entries => value.fits range && entriesFit range entries

end

end EntSchema.Toml
