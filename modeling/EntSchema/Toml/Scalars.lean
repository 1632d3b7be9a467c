import EntSchema.Toml.Table

/-!
# TOML numbers, dates and words

The values that are written without quotes and brackets: truth values, integers, numbers with a
fraction or exponent, dates and times.  What begins like an integer and turns out to be none is a
value too, which is refused only by those who want to know it.
-/

namespace EntSchema.Toml

/-! ## Numbers -/

def isDecimal (digits : List Char) : Bool :=
  wellGrouped isDigit digits && (digits == ['0'] || digits.head? != some '0')

def isInBase (base : Nat) (digits : List Char) : Bool :=
  wellGrouped (fun c =>
    isDigit c && c.toNat < '0'.toNat + base ||
      base == 16 && ('a' ≤ c && c ≤ 'f' || 'A' ≤ c && c ≤ 'F')) digits

def integer? (text : List Char) : Option Int :=
  match text with
  | '0' :: 'x' :: digits => if isInBase 16 digits then some (groupedValue 16 digits) else none
  | '0' :: 'o' :: digits => if isInBase 8 digits then some (groupedValue 8 digits) else none
  | '0' :: 'b' :: digits => if isInBase 2 digits then some (groupedValue 2 digits) else none
  | _ =>
    let (negative, digits) := dropSign text
    if isDecimal digits then
      some (if negative then -(groupedValue 10 digits : Int) else groupedValue 10 digits)
    else none

/-- Whether a run of characters is a number with a fraction or an exponent, an infinity or no
number. -/
def isFloat (text : List Char) : Bool :=
  let (_, unsigned) := dropSign text
  if unsigned == ['i', 'n', 'f'] || unsigned == ['n', 'a', 'n'] then true
  else
    let whole := unsigned.takeWhile fun c => isDigit c || c == '_'
    let rest := unsigned.drop whole.length
    isDecimal whole &&
      match rest with
      | '.' :: rest =>
        let fraction := rest.takeWhile fun c => isDigit c || c == '_'
        wellGrouped isDigit fraction && isExponent (rest.drop fraction.length) true
      | rest => isExponent rest false
where
  /-- Whether a text is an exponent; `orNothing` also takes the empty text. -/
  isExponent (text : List Char) (orNothing : Bool) : Bool :=
    match text with
    | [] => orNothing
    | 'e' :: rest | 'E' :: rest => wellGrouped isDigit (dropSign rest).2
    | _ => false

/-! ## Integers that are none -/

/-- Whether groups of digits behind the first one start and end with hexadecimal digits.  Only the
start of the last group is looked at, and nothing inside a group. -/
def haveDigitEnds : List (List Char) → Bool
  | [] => true
  | [group] => group.head?.any isHexDigit
  | group :: groups =>
    group.head?.any isHexDigit && group.getLast?.any isHexDigit && haveDigitEnds groups

/-- Whether a run begins like an integer: a base without digits, or a group of decimal digits and
further groups that look like digits from outside. -/
def isIntegerLike (run : List Char) : Bool :=
  if run == ['0', 'x'] || run == ['0', 'o'] || run == ['0', 'b'] then true
  else
    match (dropSign run).2.splitOn '_' with
    | first :: group :: groups =>
      !first.isEmpty && first.all isDigit && first.head? != some '0' &&
        haveDigitEnds (group :: groups) &&
        !run.any fun c => c == '.' || c == 'e' || c == 'E' || c == ' ' || c == '\t'
    | _ => false

/-! ## Reading -/

def isDelimiter (c : Char) : Bool :=
  ['=', ',', '[', ']', '{', '}', '#', '\r', '\n'].contains c

/-- The characters of a value without quotes, and the rest.  A blank may stand among them, but not
at the end. -/
def scalarRun (text : List Char) : List Char × List Char :=
  let run := text.takeWhile (!isDelimiter ·)
  ((run.reverse.dropWhile fun c => c == ' ' || c == '\t').reverse, text.drop run.length)

def scalar? (run : List Char) : Option Value :=
  if run == ['t', 'r', 'u', 'e'] then some (.boolean true)
  else if run == ['f', 'a', 'l', 's', 'e'] then some (.boolean false)
  else
    match integer? run, moment? run with
    | some value, _ => some (.integer value)
    | none, some moment => some (.datetime moment)
    | none, none =>
      if isFloat run then some (.float run)
      else if isIntegerLike run then some (.misspelt run)
      else none

def readScalar (text : List Char) : Option (Value × List Char) := do
  let (run, rest) := scalarRun text
  return (← scalar? run, rest)

end EntSchema.Toml
