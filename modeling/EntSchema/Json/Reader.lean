import EntSchema.Json.NumberReader

/-!
# Reading JSON text

A reader takes the start of a text and gives back a value and the rest.  Nesting is bounded: the
reader of a value that may hold `depth` more levels reads its items with the reader for one level
less, which is also what makes the reading end.  The loops over the items of one level count down
from the length of the text, of which every item takes some.
-/

namespace EntSchema.Json

def skipBlank (text : List Char) : List Char :=
  text.dropWhile fun c => c == ' ' || c == '\n' || c == '\t' || c == '\r'

/-! ## Words -/

def readWord : List Char → List Char → Except Fault (List Char)
  | [], rest => .ok rest
  | _ :: _, [] => .error (.atEnd .endInValue)
  | w :: word, c :: rest =>
    if c = w then readWord word rest else .error (.at .expectedWord (c :: rest))

/-! ## Strings -/

def hexValue? (c : Char) : Option Nat :=
  if isDigit c then some (digitValue c)
  else if 'a' ≤ c && c ≤ 'f' then some (c.toNat - 'a'.toNat + 10)
  else if 'A' ≤ c && c ≤ 'F' then some (c.toNat - 'A'.toNat + 10)
  else none

/-- The value of the four hexadecimal digits at the start of a text, and the rest. -/
def readHex (text : List Char) : Except Fault (Nat × List Char) :=
  let fault : Fault :=
    if byteCount text < 4 then .atEnd .endInString else .into .invalidEscape 4 text
  match text with
  | a :: b :: c :: d :: rest =>
    match hexValue? a, hexValue? b, hexValue? c, hexValue? d with
    | some a, some b, some c, some d => .ok (((a * 16 + b) * 16 + c) * 16 + d, rest)
    | _, _, _, _ => .error fault
  | _ => .error fault

def isHighSurrogate (unit : Nat) : Bool := 0xd800 ≤ unit && unit < 0xdc00

def isLowSurrogate (unit : Nat) : Bool := 0xdc00 ≤ unit && unit < 0xe000

/-- The character of an escape by number, and the rest: one code unit, or a surrogate pair of
two. -/
def readUnicode (text : List Char) : Except Fault (Char × List Char) := do
  let (unit, rest) ← readHex text
  if isLowSurrogate unit then .error (.before .loneSurrogate rest)
  else if isHighSurrogate unit then
    match rest with
    | [] | ['\\'] => .error (.atEnd .endInString)
    | '\\' :: 'u' :: second => do
      let (low, rest) ← readHex second
      if isLowSurrogate low then
        .ok (Char.ofNat ((unit - 0xd800) * 0x400 + (low - 0xdc00) + 0x10000), rest)
      else .error (.before .loneSurrogate rest)
    | '\\' :: other => .error (.at .unfinishedPair other)
    | other => .error (.at .unfinishedPair other)
  else .ok (Char.ofNat unit, rest)

def readEscape (text : List Char) : Except Fault (Char × List Char) :=
  match text with
  | [] => .error (.atEnd .endInString)
  | '"' :: rest => .ok ('"', rest)
  | '\\' :: rest => .ok ('\\', rest)
  | '/' :: rest => .ok ('/', rest)
  | 'b' :: rest => .ok ('\x08', rest)
  | 'f' :: rest => .ok ('\x0c', rest)
  | 'n' :: rest => .ok ('\n', rest)
  | 'r' :: rest => .ok ('\r', rest)
  | 't' :: rest => .ok ('\t', rest)
  | 'u' :: rest => readUnicode rest
  | other => .error (.at .invalidEscape other)

/-- At most `bound` characters of a string behind its opening quote, and the rest after the closing
one. -/
def readStringBody : Nat → List Char → Except Fault (List Char × List Char)
  | 0, _ => .error (.atEnd .endInString)
  | _ + 1, [] => .error (.atEnd .endInString)
  | bound + 1, c :: rest =>
    if c = '"' then .ok ([], rest)
    else if c = '\\' then do
      let (c, rest) ← readEscape rest
      let (text, rest) ← readStringBody bound rest
      .ok (c :: text, rest)
    else if c < ' ' then .error (.at .controlCharacter (c :: rest))
    else do
      let (text, rest) ← readStringBody bound rest
      .ok (c :: text, rest)

def readString (text : List Char) : Except Fault (String × List Char) := do
  let (chars, rest) ← readStringBody (text.length + 1) text
  .ok (String.ofList chars, rest)

/-! ## Arrays -/

/-- At most `bound` further items of an array behind one of its items, and the rest. -/
def readMoreItems (readItem : List Char → Except Fault (Value × List Char)) :
    Nat → List Char → Except Fault (List Value × List Char)
  | 0, _ => .error (.atEnd .endInList)
  | bound + 1, text =>
    match skipBlank text with
    | [] => .error (.atEnd .endInList)
    | ']' :: rest => .ok ([], rest)
    | ',' :: rest =>
      match skipBlank rest with
      | [] => .error (.atEnd .endInValue)
      | ']' :: after => .error (.at .trailingComma (']' :: after))
      | next => do
        let (item, rest) ← readItem next
        let (items, rest) ← readMoreItems readItem bound rest
        .ok (item :: items, rest)
    | other => .error (.at .expectedListEnd other)

def readArray (readItem : List Char → Except Fault (Value × List Char)) (text : List Char) :
    Except Fault (Value × List Char) :=
  match skipBlank text with
  | [] => .error (.atEnd .endInList)
  | ']' :: rest => .ok (.array [], rest)
  | first => do
    let (item, rest) ← readItem first
    let (items, rest) ← readMoreItems readItem (rest.length + 1) rest
    .ok (.array (item :: items), rest)

/-! ## Objects -/

/-- A member of an object behind the opening quote of its key, and the rest. -/
def readMember (readItem : List Char → Except Fault (Value × List Char)) (text : List Char) :
    Except Fault ((String × Value) × List Char) := do
  let (key, rest) ← readString text
  match skipBlank rest with
  | [] => .error (.atEnd .endInObject)
  | ':' :: rest => do
    let (value, rest) ← readItem rest
    .ok ((key, value), rest)
  | other => .error (.at .expectedColon other)

def readMoreMembers (readItem : List Char → Except Fault (Value × List Char)) :
    Nat → List Char → Except Fault (List (String × Value) × List Char)
  | 0, _ => .error (.atEnd .endInObject)
  | bound + 1, text =>
    match skipBlank text with
    | [] => .error (.atEnd .endInObject)
    | '}' :: rest => .ok ([], rest)
    | ',' :: rest =>
      match skipBlank rest with
      | [] => .error (.atEnd .endInValue)
      | '"' :: rest => do
        let (member, rest) ← readMember readItem rest
        let (members, rest) ← readMoreMembers readItem bound rest
        .ok (member :: members, rest)
      | '}' :: after => .error (.at .trailingComma ('}' :: after))
      | other => .error (.at .keyNotString other)
    | other => .error (.at .expectedObjectEnd other)

/-- An object behind its opening brace, and the rest.  Its members are sorted by their keys. -/
def readObject (readItem : List Char → Except Fault (Value × List Char)) (text : List Char) :
    Except Fault (Value × List Char) :=
  match skipBlank text with
  | [] => .error (.atEnd .endInObject)
  | '}' :: rest => .ok (.object [], rest)
  | '"' :: rest => do
    let (member, rest) ← readMember readItem rest
    let (members, rest) ← readMoreMembers readItem (rest.length + 1) rest
    .ok (.object (sortMembers (member :: members)), rest)
  | other => .error (.at .keyNotString other)

/-! ## Values -/

/-- A value with at most `depth` levels of arrays and objects, and the rest. -/
def readValue (depth : Nat) (text : List Char) : Except Fault (Value × List Char) :=
  match skipBlank text with
  | [] => .error (.atEnd .endInValue)
  | 'n' :: rest => do
    .ok (.null, ← readWord ['u', 'l', 'l'] rest)
  | 't' :: rest => do
    .ok (.bool true, ← readWord ['r', 'u', 'e'] rest)
  | 'f' :: rest => do
    .ok (.bool false, ← readWord ['a', 'l', 's', 'e'] rest)
  | '"' :: rest => do
    let (text, rest) ← readString rest
    .ok (.string text, rest)
  | '-' :: rest => do
    let (n, rest) ← readNumber true rest
    .ok (.number n, rest)
  | '[' :: rest =>
    match depth with
    | 0 => .error (.at .tooDeep ('[' :: rest))
    | depth + 1 => readArray (readValue depth) rest
  | '{' :: rest =>
    match depth with
    | 0 => .error (.at .tooDeep ('{' :: rest))
    | depth + 1 => readObject (readValue depth) rest
  | c :: rest =>
    if isDigit c then do
      let (n, rest) ← readNumber false (c :: rest)
      .ok (.number n, rest)
    else .error (.at .expectedValue (c :: rest))

/-- The levels of arrays and objects that a text may have. -/
def greatestDepth : Nat := 127

def readText (text : List Char) : Except Fault Value := do
  let (value, rest) ← readValue greatestDepth text
  match skipBlank rest with
  | [] => .ok value
  | other => .error (.at .trailingCharacters other)

/-- The value that a text stands for, or the fault in it. -/
def parse (text : String) : Except SyntaxError Value :=
  (readText text.toList).mapError (·.toSyntaxError text.toList)

end EntSchema.Json
