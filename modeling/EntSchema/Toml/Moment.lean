import EntSchema.Toml.Digits

/-!
# Dates and times

A date, a time of day, or both and then perhaps the distance to universal time.  The ways to write
one differ in the letter or blank between date and time, in the seconds, which may be left out, and
in the digits of their fraction; `Moment.text` is the one way in which it is shown.
-/

namespace EntSchema.Toml

/-! ## Parts -/

structure Date where
  year : Nat
  month : Nat
  day : Nat
  deriving DecidableEq, Repr

/-- A time of day, to the billionth of a second.  Some minutes have 61 seconds. -/
structure TimeOfDay where
  hour : Nat
  minute : Nat
  second : Nat
  nanosecond : Nat
  deriving DecidableEq, Repr

/-- The distance of a time to universal time: none, as a letter says, or some minutes. -/
inductive Offset where
  | universal
  | minutes (count : Int)
  deriving DecidableEq, Repr

/-- A date, a time or both; where both are given, the distance to universal time may be unknown. -/
inductive Moment where
  | date (day : Date)
  | time (clock : TimeOfDay)
  | both (day : Date) (clock : TimeOfDay) (offset? : Option Offset)
  deriving DecidableEq, Repr

/-! ## Reading -/

def daysOf (year month : Nat) : Nat :=
  if month = 2 then
    if year % 4 = 0 && (year % 100 ≠ 0 || year % 400 = 0) then 29 else 28
  else if month = 4 || month = 6 || month = 9 || month = 11 then 30
  else 31

def readDate (text : List Char) : Option (Date × List Char) := do
  let (year, rest) ← readDigits 4 text
  let '-' :: rest := rest | none
  let (month, rest) ← readDigits 2 rest
  let '-' :: rest := rest | none
  let (day, rest) ← readDigits 2 rest
  if 1 ≤ month && month ≤ 12 && 1 ≤ day && day ≤ daysOf year month then
    return (⟨year, month, day⟩, rest)
  else none

/-- The billionths of a second in the fraction that a text may start with, and the rest.  Digits
behind the ninth do not count. -/
def readSecondFraction (text : List Char) : Option (Nat × List Char) :=
  match text with
  | '.' :: rest =>
    let digits := rest.takeWhile isDigit
    let counted := digits.take 9
    if digits.isEmpty then none
    else some (groupedValue 10 counted * Nat.pow 10 (9 - counted.length), rest.drop digits.length)
  | _ => some (0, text)

def readTime (text : List Char) : Option (TimeOfDay × List Char) := do
  let (hour, rest) ← readDigits 2 text
  let ':' :: rest := rest | none
  let (minute, rest) ← readDigits 2 rest
  if 23 < hour || 59 < minute then none
  else
    match rest with
    | ':' :: rest => do
      let (second, rest) ← readDigits 2 rest
      let (nanosecond, rest) ← readSecondFraction rest
      if 60 < second then none else return (⟨hour, minute, second, nanosecond⟩, rest)
    | _ => return (⟨hour, minute, 0, 0⟩, rest)

/-- The distance to universal time that a text is, if it is not empty. -/
def offset? (text : List Char) : Option (Option Offset) :=
  match text with
  | [] => some none
  | ['Z'] | ['z'] => some (some .universal)
  | '+' :: rest => (distance? rest).map fun count => some (.minutes count)
  | '-' :: rest => (distance? rest).map fun count => some (.minutes (-count))
  | _ => none
where
  distance? (text : List Char) : Option Nat := do
    let (hours, rest) ← readDigits 2 text
    let ':' :: rest := rest | none
    let (minutes, []) ← readDigits 2 rest | none
    if 23 < hours || 59 < minutes then none else return hours * 60 + minutes

def moment? (text : List Char) : Option Moment :=
  match readDate text with
  | some (date, []) => some (.date date)
  | some (date, c :: rest) =>
    if c == 'T' || c == 't' || c == ' ' then do
      let (time, rest) ← readTime rest
      return .both date time (← offset? rest)
    else none
  | none => do
    let (time, []) ← readTime text | none
    return .time time

/-! ## Showing -/

def Date.text (date : Date) : List Char :=
  paddedDigits 4 date.year ++ '-' :: paddedDigits 2 date.month ++ '-' :: paddedDigits 2 date.day

/-- The text of the billionths of a second: no zeros at the end, and nothing when there are none. -/
def fractionText (nanosecond : Nat) : List Char :=
  if nanosecond = 0 then []
  else '.' :: ((paddedDigits 9 nanosecond).reverse.dropWhile (· == '0')).reverse

def TimeOfDay.text (time : TimeOfDay) : List Char :=
  paddedDigits 2 time.hour ++ ':' :: paddedDigits 2 time.minute ++ ':' :: paddedDigits 2 time.second
    ++ fractionText time.nanosecond

/-- The text of the distance to universal time; no minutes are shown as more, not as less. -/
def Offset.text : Offset → List Char
  | .universal => ['Z']
  | .minutes count =>
    (if count < 0 then '-' else '+') ::
      paddedDigits 2 (count.natAbs / 60) ++ ':' :: paddedDigits 2 (count.natAbs % 60)

def Moment.text : Moment → String
  | .date day => String.ofList day.text
  | .time clock => String.ofList clock.text
  | .both day clock offset? =>
    String.ofList (day.text ++ 'T' :: clock.text ++ (offset?.map Offset.text).getD [])

end EntSchema.Toml
