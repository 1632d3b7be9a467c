import EntSchema.Json.Value

/-!
# Compact JSON text

A value as text without any white space.  Text is escaped as little as JSON allows: the quote, the
backslash and the characters below the space.
-/

namespace EntSchema.Json

/-! ## Numbers -/

/-- Numbers are written plainly while their first digit stands for a power of ten from -5 to 15. -/
def numberLayout : Decimal.Layout := ⟨-5, 15⟩

def integerText (value : Int) : List Char :=
  if value < 0 then '-' :: Decimal.digitsOf value.natAbs else Decimal.digitsOf value.natAbs

def Number.chars : Number → List Char
  | .integer value => integerText value
  | .float value => value.text numberLayout

def Number.text (n : Number) : String := String.ofList n.chars

/-! ## Text -/

/-- A character as it is written between the quotes. -/
def escapeChar (c : Char) : List Char :=
  if c = '"' then ['\\', '"']
  else if c = '\\' then ['\\', '\\']
  else if c = '\x08' then ['\\', 'b']
  else if c = '\t' then ['\\', 't']
  else if c = '\n' then ['\\', 'n']
  else if c = '\x0c' then ['\\', 'f']
  else if c = '\r' then ['\\', 'r']
  else if c.toNat < 0x20 then
    ['\\', 'u', '0', '0', Nat.digitChar (c.toNat / 16), Nat.digitChar (c.toNat % 16)]
  else [c]

def stringChars (text : String) : List Char :=
  '"' :: (text.toList.flatMap escapeChar ++ ['"'])

/-! ## Values -/

mutual

def Value.chars : Value → List Char
  | .null => ['n', 'u', 'l', 'l']
  | .bool true => ['t', 'r', 'u', 'e']
  | .bool false => ['f', 'a', 'l', 's', 'e']
  | .number n => n.chars
  | .string s => stringChars s
  | .array [] => ['[', ']']
  | .array (item :: items) => '[' :: (item.chars ++ itemsChars items)
  | .object [] => ['{', '}']
  | .object ((key, value) :: members) =>
    '{' :: (stringChars key ++ ':' :: (value.chars ++ membersChars members))

/-- The items after the first one, each behind a comma, and the closing bracket. -/
def itemsChars : List Value → List Char
  | [] => [']']
  | item :: items => ',' :: (item.chars ++ itemsChars items)

def membersChars : List (String × Value) → List Char
  | [] => ['}']
  | (key, value) :: members =>
    ',' :: (stringChars key ++ ':' :: (value.chars ++ membersChars members))

end

/-- A value as compact text. -/
def Value.compact (value : Value) : String := String.ofList value.chars

end EntSchema.Json
