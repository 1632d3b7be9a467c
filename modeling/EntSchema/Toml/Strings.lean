import EntSchema.Toml.Digits

/-!
# TOML strings

The four forms of text: between single or triple quotes, which are double quotes where escapes count
and apostrophes where nothing is escaped.  A line end between triple quotes is kept as it is
written.  Every reader takes a text behind the opening quotes and gives the string and the rest, or
nothing when the text is wrong.  The readers count down from a bound on the number of characters.
-/

namespace EntSchema.Toml

/-! ## Characters -/

/-- Whether a character may stand in a string or comment as itself: all but the controls other than
the tab. -/
def isPlain (c : Char) : Bool :=
  c == '\t' || (0x20 ≤ c.toNat && c.toNat ≠ 0x7f)

def isSpace (c : Char) : Bool := c == ' ' || c == '\t'

/-- The line end that a text starts with, one character or two, and the rest. -/
def readLineEnd : List Char → Option (List Char × List Char)
  | '\n' :: rest => some (['\n'], rest)
  | '\r' :: '\n' :: rest => some (['\r', '\n'], rest)
  | _ => none

def lineEnd? (text : List Char) : Option (List Char) := (readLineEnd text).map Prod.snd

/-! ## Escapes -/

/-- The value of `count` hexadecimal digits behind a value, and the rest. -/
def readHex : Nat → Nat → List Char → Option (Nat × List Char)
  | 0, value, rest => some (value, rest)
  | _ + 1, _, [] => none
  | count + 1, value, c :: rest => do readHex count (value * 16 + (← hexValue? c)) rest

def readCode (count : Nat) (text : List Char) : Option (Char × List Char) := do
  let (code, rest) ← readHex count 0 text
  if code.isValidChar then return (Char.ofNat code, rest) else none

def readEscape : List Char → Option (Char × List Char)
  | 'b' :: rest => some ('\x08', rest)
  | 't' :: rest => some ('\t', rest)
  | 'n' :: rest => some ('\n', rest)
  | 'f' :: rest => some ('\x0c', rest)
  | 'r' :: rest => some ('\r', rest)
  | 'e' :: rest => some ('\x1b', rest)
  | '"' :: rest => some ('"', rest)
  | '\\' :: rest => some ('\\', rest)
  | 'x' :: rest => readCode 2 rest
  | 'u' :: rest => readCode 4 rest
  | 'U' :: rest => readCode 8 rest
  | _ => none

/-! ## Strings on one line -/

def readBasic : Nat → List Char → Option (List Char × List Char)
  | 0, _ => none
  | _ + 1, [] => none
  | bound + 1, c :: rest =>
    if c = '"' then some ([], rest)
    else if c = '\\' then do
      let (c, rest) ← readEscape rest
      let (text, rest) ← readBasic bound rest
      return (c :: text, rest)
    else if isPlain c then do
      let (text, rest) ← readBasic bound rest
      return (c :: text, rest)
    else none

def readLiteral : List Char → Option (List Char × List Char)
  | [] => none
  | c :: rest =>
    if c = '\'' then some ([], rest)
    else if isPlain c then do
      let (text, rest) ← readLiteral rest
      return (c :: text, rest)
    else none

/-! ## Strings on several lines -/

/-- The rest of a text behind a line end that a string on several lines starts with. -/
def dropFirstLineEnd (text : List Char) : List Char := (lineEnd? text).getD text

/-- Three quotes at the start of a text close a string on several lines, and up to two more right
behind them belong to it: those, and the rest. -/
def closing? (quote : Char) (text : List Char) : Option (List Char × List Char) :=
  let quotes := text.takeWhile (· == quote)
  if quotes.length < 3 then none
  else
    let inside := min (quotes.length - 3) 2
    some (List.replicate inside quote, text.drop (3 + inside))

def dropBlankLines : List Char → List Char
  | '\r' :: '\n' :: rest => dropBlankLines rest
  | c :: rest => if isSpace c || c == '\n' then dropBlankLines rest else c :: rest
  | [] => []

/-- The rest behind a backslash at the end of a line, with all blanks and line ends after it. -/
def continuation? (text : List Char) : Option (List Char) :=
  (lineEnd? (text.dropWhile isSpace)).map dropBlankLines

def readMultiBasic : Nat → List Char → Option (List Char × List Char)
  | 0, _ => none
  | _ + 1, [] => none
  | bound + 1, c :: rest =>
    match closing? '"' (c :: rest), readLineEnd (c :: rest) with
    | some closed, _ => some closed
    | none, some (lineEnd, rest) => do
      let (text, rest) ← readMultiBasic bound rest
      return (lineEnd ++ text, rest)
    | none, none =>
      if c = '\\' then
        match continuation? rest with
        | some rest => readMultiBasic bound rest
        | none => do
          let (c, rest) ← readEscape rest
          let (text, rest) ← readMultiBasic bound rest
          return (c :: text, rest)
      else if isPlain c then do
        let (text, rest) ← readMultiBasic bound rest
        return (c :: text, rest)
      else none

def readMultiLiteral : Nat → List Char → Option (List Char × List Char)
  | 0, _ => none
  | _ + 1, [] => none
  | bound + 1, c :: rest =>
    match closing? '\'' (c :: rest), readLineEnd (c :: rest) with
    | some closed, _ => some closed
    | none, some (lineEnd, rest) => do
      let (text, rest) ← readMultiLiteral bound rest
      return (lineEnd ++ text, rest)
    | none, none =>
      if isPlain c then do
        let (text, rest) ← readMultiLiteral bound rest
        return (c :: text, rest)
      else none

end EntSchema.Toml
