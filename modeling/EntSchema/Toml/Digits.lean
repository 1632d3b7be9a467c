/-!
# Digits in TOML

Digits make up numbers, dates, times and escapes.  Those of a number may be grouped by underscores,
each of which stands between two digits.
-/

namespace EntSchema.Toml

def isDigit (c : Char) : Bool := '0' ≤ c && c ≤ '9'

def hexValue? (c : Char) : Option Nat :=
  if isDigit c then some (c.toNat - '0'.toNat)
  else if 'a' ≤ c && c ≤ 'f' then some (c.toNat - 'a'.toNat + 10)
  else if 'A' ≤ c && c ≤ 'F' then some (c.toNat - 'A'.toNat + 10)
  else none

def isHexDigit (c : Char) : Bool := (hexValue? c).isSome

/-- Whether digits are grouped well: each underscore stands between two digits, and there is at
least one. -/
def wellGrouped (isDigit : Char → Bool) : List Char → Bool
  | [] => false
  | [c] => isDigit c
  | c :: '_' :: rest => isDigit c && wellGrouped isDigit rest
  | c :: rest => isDigit c && wellGrouped isDigit rest

def groupedValue (base : Nat) (digits : List Char) : Nat :=
  digits.foldl (fun value c => if c = '_' then value else value * base + (hexValue? c).getD 0) 0

/-- A text without the sign that it may start with, and whether that is a minus. -/
def dropSign : List Char → Bool × List Char
  | '+' :: rest => (false, rest)
  | '-' :: rest => (true, rest)
  | text => (false, text)

/-- The value of `count` decimal digits at the start of a text, and the rest. -/
def readDigits (count : Nat) (text : List Char) : Option (Nat × List Char) :=
  let digits := text.take count
  if digits.length = count && digits.all isDigit then
    some (groupedValue 10 digits, text.drop count)
  else none

/-- At least `width` decimal digits of a number, filled up with leading zeros. -/
def paddedDigits (width value : Nat) : List Char :=
  (Nat.toDigits 10 value).leftpad width '0'

end EntSchema.Toml
