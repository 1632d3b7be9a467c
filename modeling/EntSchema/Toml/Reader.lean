import EntSchema.Toml.Scalars
import EntSchema.Toml.Strings

/-!
# Reading TOML

A document is read line by line into its tables.  Arrays and inline tables may go over several
lines, also around the equals signs in them, and be nested to a fixed depth, which is what makes the
reading of a value end.  The loops count down from the length of the text.  Only whether a text is
right is told, not what is wrong with it.
-/

namespace EntSchema.Toml

/-! ## Blanks and comments -/

def skipSpaces (text : List Char) : List Char := text.dropWhile isSpace

/-- A text from the end of the comment that it may start with. -/
def skipComment (text : List Char) : Option (List Char) :=
  match text with
  | '#' :: rest => inside rest
  | _ => some text
where
  inside : List Char → Option (List Char)
    | [] => some []
    | c :: rest =>
      if (lineEnd? (c :: rest)).isSome then some (c :: rest)
      else if isPlain c then inside rest
      else none

def endLine (text : List Char) : Option (List Char) := do
  match ← skipComment (skipSpaces text) with
  | [] => return []
  | rest => lineEnd? rest

def skipTrivia : Nat → List Char → Option (List Char)
  | 0, _ => none
  | bound + 1, text => do
    let rest ← skipComment (skipSpaces text)
    match lineEnd? rest with
    | some rest => skipTrivia bound rest
    | none => return rest

def skipAll (text : List Char) : Option (List Char) := skipTrivia (text.length + 1) text

/-! ## Keys -/

def isBareChar (c : Char) : Bool := c.isAlphanum || c == '_' || c == '-'

def readKeyPart (text : List Char) : Option (String × List Char) :=
  match text with
  | '"' :: rest => do
    let (key, rest) ← readBasic (rest.length + 1) rest
    return (String.ofList key, rest)
  | '\'' :: rest => do
    let (key, rest) ← readLiteral rest
    return (String.ofList key, rest)
  | _ =>
    let key := text.takeWhile isBareChar
    if key.isEmpty then none else some (String.ofList key, text.drop key.length)

/-- A key of at most `bound` parts with points between them, and the rest. -/
def readKeyParts : Nat → List Char → Option (List String × List Char)
  | 0, _ => none
  | bound + 1, text => do
    let (part, rest) ← readKeyPart text
    match skipSpaces rest with
    | '.' :: rest => do
      let (parts, rest) ← readKeyParts bound (skipSpaces rest)
      return (part :: parts, rest)
    | rest => return ([part], rest)

def readKey (text : List Char) : Option (List String × List Char) :=
  readKeyParts (text.length + 1) text

/-- A key with its value, and the rest.  `skip` passes over what may stand around the equals
sign. -/
def readPair (skip : List Char → Option (List Char))
    (readItem : List Char → Option (Value × List Char)) (text : List Char) :
    Option ((List String × Value) × List Char) := do
  let (key, rest) ← readKey text
  let '=' :: rest ← skip rest | none
  let (value, rest) ← readItem (← skip rest)
  return ((key, value), rest)

/-! ## Arrays and inline tables -/

/-- At most `bound` items of an array, and the rest behind its bracket. -/
def readItems (readItem : List Char → Option (Value × List Char)) :
    Nat → List Char → Option (List Value × List Char)
  | 0, _ => none
  | bound + 1, text => do
    match ← skipAll text with
    | ']' :: rest => return ([], rest)
    | start => do
      let (item, rest) ← readItem start
      match ← skipAll rest with
      | ',' :: rest => do
        let (items, rest) ← readItems readItem bound rest
        return (item :: items, rest)
      | ']' :: rest => return ([item], rest)
      | _ => none

/-- At most `bound` pairs of an inline table that already holds `table`, and the rest behind its
brace. -/
def readPairs (readItem : List Char → Option (Value × List Char)) :
    Nat → Table → List Char → Option (Table × List Char)
  | 0, _, _ => none
  | bound + 1, table, text => do
    match ← skipAll text with
    | '}' :: rest => return (table, rest)
    | start => do
      let ((key, value), rest) ← readPair skipAll readItem start
      let table ← assign value true key table
      match ← skipAll rest with
      | ',' :: rest => readPairs readItem bound table rest
      | '}' :: rest => return (table, rest)
      | _ => none

/-! ## Values -/

/-- A value with at most `depth` levels of arrays and inline tables, and the rest. -/
def readValue (depth : Nat) (text : List Char) : Option (Value × List Char) :=
  match text with
  | '"' :: '"' :: '"' :: rest => do
    let start := dropFirstLineEnd rest
    let (value, rest) ← readMultiBasic (start.length + 1) start
    return (.string (String.ofList value), rest)
  | '"' :: rest => do
    let (value, rest) ← readBasic (rest.length + 1) rest
    return (.string (String.ofList value), rest)
  | '\'' :: '\'' :: '\'' :: rest => do
    let start := dropFirstLineEnd rest
    let (value, rest) ← readMultiLiteral (start.length + 1) start
    return (.string (String.ofList value), rest)
  | '\'' :: rest => do
    let (value, rest) ← readLiteral rest
    return (.string (String.ofList value), rest)
  | '[' :: rest =>
    match depth with
    | 0 => none
    | depth + 1 => do
      let (items, rest) ← readItems (readValue depth) (rest.length + 1) rest
      return (.array false items, rest)
  | '{' :: rest =>
    match depth with
    | 0 => none
    | depth + 1 => do
      let (table, rest) ← readPairs (readValue depth) (rest.length + 1) [] rest
      return (.table .inline table, rest)
  | _ => readScalar text

/-- The levels of arrays and inline tables that a document may have. -/
def greatestDepth : Nat := 80

/-! ## Documents -/

/-- A document as far as it is read: its tables, and the header of the lines to come. -/
structure State where
  root : Table
  header : List String

/-- The rest behind a header with its brackets, and the document after it. -/
def readHeader (doubled : Bool) (state : State) (text : List Char) :
    Option (State × List Char) := do
  let (keys, rest) ← readKey (skipSpaces text)
  let rest ← match doubled, rest with
    | false, ']' :: rest => some rest
    | true, ']' :: ']' :: rest => some rest
    | _, _ => none
  return (⟨← openHeader doubled keys state.root, keys⟩, ← endLine rest)

def readLine (state : State) (text : List Char) : Option (State × List Char) :=
  match skipSpaces text with
  | '[' :: '[' :: rest => readHeader true state rest
  | '[' :: rest => readHeader false state rest
  | start =>
    match endLine start with
    | some rest => some (state, rest)
    | none => do
      let ((key, value), rest) ←
        readPair (some ∘ skipSpaces) (readValue greatestDepth) start
      let root ← enterAll (assign value true key) state.header state.root
      return ({ state with root := root }, ← endLine rest)

def readLines : Nat → State → List Char → Option Table
  | _, state, [] => some state.root
  | 0, _, _ :: _ => none
  | bound + 1, state, text => do
    let (state, rest) ← readLine state text
    readLines bound state rest

/-- The tables of a TOML text; a byte order mark in front of it does not count. -/
def parse (text : String) : Option Table :=
  let chars := match text.toList with
    | '\ufeff' :: rest => rest
    | chars => chars
  readLines (chars.length + 1) ⟨[], []⟩ chars

end EntSchema.Toml
