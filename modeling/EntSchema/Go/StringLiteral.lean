/-!
# Go string literals

An interpreted string literal of Go stands between double quotes.  `quote` writes one: a quote, a
backslash and the three common layout characters get their short escapes, every other control
character its four hexadecimal digits, and all else stands for itself.  `scan` is Go's reader of
such a literal, as far as it knows the escapes that `quote` writes.
-/

namespace EntSchema.Go

/-! ## Hexadecimal digits -/

def hexDigit (value : Nat) : Char :=
  if value < 10 then Char.ofNat ('0'.toNat + value) else Char.ofNat ('a'.toNat + (value - 10))

def hexValue? (c : Char) : Option Nat :=
  if '0' ≤ c ∧ c ≤ '9' then some (c.toNat - '0'.toNat)
  else if 'a' ≤ c ∧ c ≤ 'f' then some (c.toNat - 'a'.toNat + 10)
  else if 'A' ≤ c ∧ c ≤ 'F' then some (c.toNat - 'A'.toNat + 10)
  else none

def fourHexDigits (value : Nat) : List Char :=
  [hexDigit (value / 4096 % 16), hexDigit (value / 256 % 16), hexDigit (value / 16 % 16),
    hexDigit (value % 16)]

/-! ## Writing -/

/-- Whether a character is a control character: general category `Cc`. -/
def isControl (c : Char) : Bool :=
  c.toNat < 0x20 || (0x7f ≤ c.toNat && c.toNat < 0xa0)

def escape (c : Char) : List Char :=
  if c = '"' then ['\\', '"']
  else if c = '\\' then ['\\', '\\']
  else if c = '\n' then ['\\', 'n']
  else if c = '\r' then ['\\', 'r']
  else if c = '\t' then ['\\', 't']
  else if isControl c then '\\' :: 'u' :: fourHexDigits c.toNat
  else [c]

def quoteChars (text : List Char) : List Char :=
  '"' :: (text.flatMap escape ++ ['"'])

/-- Text as an interpreted string literal. -/
def quote (text : String) : String :=
  String.ofList (quoteChars text.toList)

@[simp] theorem toList_quote (text : String) : (quote text).toList = quoteChars text.toList := by
  simp [quote]

/-! ## Reading -/

/-- The rest of a literal after its opening quote: the text that it stands for, and what follows its
closing quote. -/
def scanBody : List Char → Option (List Char × List Char)
  | [] => none
  | '"' :: rest => some ([], rest)
  | '\n' :: _ => none
  | '\\' :: '"' :: rest => (scanBody rest).map fun (text, after) => ('"' :: text, after)
  | '\\' :: '\\' :: rest => (scanBody rest).map fun (text, after) => ('\\' :: text, after)
  | '\\' :: 'n' :: rest => (scanBody rest).map fun (text, after) => ('\n' :: text, after)
  | '\\' :: 'r' :: rest => (scanBody rest).map fun (text, after) => ('\r' :: text, after)
  | '\\' :: 't' :: rest => (scanBody rest).map fun (text, after) => ('\t' :: text, after)
  | '\\' :: 'u' :: a :: b :: c :: d :: rest =>
    match hexValue? a, hexValue? b, hexValue? c, hexValue? d with
    | some a, some b, some c, some d =>
      let code := ((a * 16 + b) * 16 + c) * 16 + d
      if code.isValidChar then
        (scanBody rest).map fun (text, after) => (Char.ofNat code :: text, after)
      else none
    | _, _, _, _ => none
  | '\\' :: _ => none
  | c :: rest => (scanBody rest).map fun (text, after) => (c :: text, after)

/-- A literal at the start of a text: what it stands for, and the text after it. -/
def scan : List Char → Option (List Char × List Char)
  | '"' :: rest => scanBody rest
  | _ => none

end EntSchema.Go
