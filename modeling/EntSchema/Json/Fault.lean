/-!
# Faults of JSON text

Why a text is no JSON, and where.  A place is the number of bytes that follow it, which a reader
knows without counting what it has read; a line and a column are worked out once, for the message.
-/

namespace EntSchema.Json

/-! ## Causes -/

/-- Why a text is not JSON. -/
inductive Cause where
  | endInValue
  | endInString
  | endInList
  | endInObject
  | expectedValue
  | expectedWord
  | invalidNumber
  | numberOutOfRange
  | controlCharacter
  | invalidEscape
  | unfinishedPair
  | loneSurrogate
  | trailingComma
  | expectedListEnd
  | expectedObjectEnd
  | keyNotString
  | expectedColon
  | tooDeep
  | trailingCharacters
  deriving DecidableEq, Repr

def Cause.message : Cause → String
  | .endInValue => "EOF while parsing a value"
  | .endInString => "EOF while parsing a string"
  | .endInList => "EOF while parsing a list"
  | .endInObject => "EOF while parsing an object"
  | .expectedValue => "expected value"
  | .expectedWord => "expected ident"
  | .invalidNumber => "invalid number"
  | .numberOutOfRange => "number out of range"
  | .controlCharacter => "control character (\\u0000-\\u001F) found while parsing a string"
  | .invalidEscape => "invalid escape"
  | .unfinishedPair => "unexpected end of hex escape"
  | .loneSurrogate => "lone leading surrogate in hex escape"
  | .trailingComma => "trailing comma"
  | .expectedListEnd => "expected `,` or `]`"
  | .expectedObjectEnd => r"expected `,` or `}`"
  | .keyNotString => "key must be a string"
  | .expectedColon => "expected `:`"
  | .tooDeep => "recursion limit exceeded"
  | .trailingCharacters => "trailing characters"

def Cause.isEnd : Cause → Bool
  | .endInValue | .endInString | .endInList | .endInObject => true
  | _ => false

/-! ## Places -/

def byteCount (text : List Char) : Nat :=
  text.foldr (fun c bytes => c.utf8Size + bytes) 0

/-- A cause and its place, as the number of bytes that follow the place. -/
structure Fault where
  cause : Cause
  left : Nat
  deriving DecidableEq, Repr

def Fault.atEnd (cause : Cause) : Fault := ⟨cause, 0⟩

def Fault.before (cause : Cause) (rest : List Char) : Fault := ⟨cause, byteCount rest⟩

/-- A fault `count` bytes into the rest of the text. -/
def Fault.into (cause : Cause) (count : Nat) (rest : List Char) : Fault :=
  ⟨cause, byteCount rest - count⟩

/-- A fault just after the byte that the rest of the text starts with. -/
def Fault.at (cause : Cause) (rest : List Char) : Fault := Fault.into cause 1 rest

/-! ## Lines and columns -/

/-- The line, and the bytes of it before a place, of the place `offset` bytes into a text that
starts `column` bytes into line `line`. -/
def lineColumn (line column : Nat) : List Char → Nat → Nat × Nat
  | [], _ => (line, column)
  | c :: rest, offset =>
    if offset < c.utf8Size then (line, column + offset)
    else if c = '\n' then lineColumn (line + 1) 0 rest (offset - c.utf8Size)
    else lineColumn line (column + c.utf8Size) rest (offset - c.utf8Size)

/-- A fault of a text with its line, counted from one, and its column in bytes. -/
structure SyntaxError where
  cause : Cause
  line : Nat
  column : Nat
  deriving DecidableEq, Repr

def Fault.toSyntaxError (fault : Fault) (text : List Char) : SyntaxError :=
  let place := lineColumn 1 0 text (byteCount text - fault.left)
  ⟨fault.cause, place.1, place.2⟩

def SyntaxError.message (e : SyntaxError) : String :=
  e.cause.message ++ " at line " ++ toString e.line ++ " column " ++ toString e.column

end EntSchema.Json
