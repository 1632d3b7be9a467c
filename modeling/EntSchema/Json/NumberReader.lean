import EntSchema.Json.Fault
import EntSchema.Json.Value

/-!
# Reading numbers

The digits of a number are gathered in a 64-bit significand for as long as they fit; what does not
fit is left out and only counts for the power of ten.  A number without point and exponent whose
digits all fit, and that fits 64 bits with its sign, is exact.  Any other is the significand as a
double-precision number, multiplied or divided once by a power of ten of the same precision, so it
may be off by a unit in the last place.
-/

namespace EntSchema.Json

/-! ## Digits -/

def isDigit (c : Char) : Bool := '0' ≤ c && c ≤ '9'

def digitValue (c : Char) : Nat := c.toNat - '0'.toNat

/-- Digits appended to a number as long as it stays within `limit`: the number, and how many digits
were left out because one of them did not fit. -/
def gather (limit : Nat) : Nat → List Char → Nat × Nat
  | value, [] => (value, 0)
  | value, d :: digits =>
    if value * 10 + digitValue d ≤ limit then gather limit (value * 10 + digitValue d) digits
    else (value, digits.length + 1)

def greatestSignificand : Nat := Nat.pow 2 64 - 1

def greatestExponent : Nat := Nat.pow 2 31 - 1

/-! ## Powers of ten -/

/-- The largest power of ten with a double-precision number. -/
def greatestPower : Nat := 308

/-- A magnitude divided `count` times by the largest power of ten. -/
def divideRepeatedly : Nat → Decimal.Magnitude → Option Decimal.Magnitude
  | 0, x => some x
  | count + 1, x =>
    if x.isZero then some x
    else (x.div? (Decimal.Magnitude.powerOfTen greatestPower)).bind (divideRepeatedly count)

/-- A magnitude times a power of ten, rounded at each operation; none beyond the range. -/
def scale? (x : Decimal.Magnitude) (power : Int) : Option Decimal.Magnitude :=
  if 0 ≤ power then
    if power ≤ greatestPower then x.mul? (Decimal.Magnitude.powerOfTen power.toNat)
    else if x.isZero then some x
    else none
  else
    let places := (-power).toNat
    let full := (places - 1) / greatestPower
    (divideRepeatedly full x).bind fun y =>
      y.div? (Decimal.Magnitude.powerOfTen (places - full * greatestPower))

def readFloat (negative : Bool) (significand : Nat) (power : Int) (rest : List Char) :
    Except Fault (Number × List Char) :=
  match (Decimal.Magnitude.nearest? ⟨significand, 1⟩).bind (scale? · power) with
  | some x => .ok (.float ⟨negative, x⟩, rest)
  | none => .error (.before .numberOutOfRange rest)

/-! ## The parts of a number -/

/-- The power of ten behind an `e`.  None stands for one so far below zero, or of a significand
that is zero, that the number is zero. -/
def readPower (isZero : Bool) (text : List Char) : Except Fault (Option Int × List Char) :=
  let (negative, text) :=
    match text with
    | '+' :: rest => (false, rest)
    | '-' :: rest => (true, rest)
    | _ => (false, text)
  let digits := text.takeWhile isDigit
  let rest := text.dropWhile isDigit
  if digits.isEmpty then
    .error (if rest.isEmpty then .atEnd .endInValue else .at .invalidNumber rest)
  else
    match gather greatestExponent 0 digits with
    | (power, 0) => .ok (some (if negative then -(power : Int) else power), rest)
    | (_, leftOut) =>
      if negative || isZero then .ok (none, rest)
      else .error (.before .numberOutOfRange (text.drop (digits.length - leftOut + 1)))

def readAfterDigits (negative : Bool) (significand : Nat) (power : Int) (text : List Char) :
    Except Fault (Number × List Char) :=
  match text with
  | 'e' :: rest | 'E' :: rest => do
    match ← readPower (significand == 0) rest with
    | (some more, rest) => readFloat negative significand (power + more) rest
    | (none, rest) => .ok (.float ⟨negative, .zero⟩, rest)
  | _ => readFloat negative significand power text

def readFraction (negative : Bool) (significand : Nat) (power : Int) (text : List Char) :
    Except Fault (Number × List Char) :=
  let digits := text.takeWhile isDigit
  let rest := text.dropWhile isDigit
  if digits.isEmpty then
    .error (if rest.isEmpty then .atEnd .endInValue else .at .invalidNumber rest)
  else
    let (significand, leftOut) := gather greatestSignificand significand digits
    readAfterDigits negative significand (power - (digits.length - leftOut : Nat)) rest

/-- The value of a number that has neither point nor exponent, with as many digits left out as did
not fit. -/
def readWhole (negative : Bool) (significand leftOut : Nat) (rest : List Char) :
    Except Fault (Number × List Char) :=
  if leftOut ≠ 0 then readFloat negative significand leftOut rest
  else if !negative then .ok (.integer significand, rest)
  else if significand = 0 || Nat.pow 2 63 < significand then readFloat true significand 0 rest
  else .ok (.integer (-(significand : Int)), rest)

def readNumber (negative : Bool) (text : List Char) : Except Fault (Number × List Char) :=
  let digits := text.takeWhile isDigit
  let rest := text.dropWhile isDigit
  match digits with
  | [] => .error (if rest.isEmpty then .atEnd .endInValue else .at .invalidNumber rest)
  | '0' :: d :: more => .error (.at .invalidNumber (d :: more ++ rest))
  | _ =>
    let (significand, leftOut) := gather greatestSignificand 0 digits
    match rest with
    | '.' :: rest => readFraction negative significand leftOut rest
    | 'e' :: _ | 'E' :: _ => readAfterDigits negative significand leftOut rest
    | _ => readWhole negative significand leftOut rest

end EntSchema.Json
