import EntSchema.Text.Alphanumeric
import EntSchema.Text.LetterCase

/-!
# Words and snake case

A name is cut into words in two steps.  Everything that is neither alphabetic nor numeric
separates; what is left between separators is cut where its letter case changes: after a
lower-case letter that an upper-case one follows (`userProfile`), and before the last capital of a
row that a lower-case letter follows (`HTTPServer`).  Characters without case, digits among them,
belong to the word that they stand in and do not change its case.

The snake case of a name is its words, lower-cased and joined by underscores.
-/

namespace EntSchema.Text

/-! ## Runs between separators -/

/-- The runs of alphanumeric characters of a text, in order.  The first part of the result is the
run that the text starts with, empty when it starts with a separator. -/
def alphanumericRuns : List Char → List Char × List (List Char)
  | [] => ([], [])
  | c :: rest =>
    let (run, runs) := alphanumericRuns rest
    if isAlphanumeric c then (c :: run, runs)
    else ([], if run.isEmpty then runs else run :: runs)

def nameRuns (text : List Char) : List (List Char) :=
  let (run, runs) := alphanumericRuns text
  if run.isEmpty then runs else run :: runs

/-! ## Words of a run -/

/-- The case of the last cased letter of a word so far, if it has one. -/
inductive WordCase where
  | uncased
  | lower
  | upper
  deriving DecidableEq, Repr

def WordCase.after (wordCase : WordCase) (c : Char) : WordCase :=
  if isLowercase c then .lower
  else if isUppercase c then .upper
  else wordCase

/-- A character put in front of the first of some parts. -/
def consFirst (c : Char) : List (List Char) → List (List Char)
  | [] => [[c]]
  | part :: parts => (c :: part) :: parts

/-- The words of the rest of a run, given the case of the word that the rest continues.  The first
word of the result is the continued part, which is empty when the word ends right here. -/
def wordsFrom : WordCase → List Char → List (List Char)
  | _, [] => [[]]
  | _, [c] => [[c]]
  | wordCase, c :: next :: rest =>
    if wordCase.after c = .lower && isUppercase next then
      [c] :: wordsFrom .uncased (next :: rest)
    else if wordCase = .upper && isUppercase c && isLowercase next then
      [] :: consFirst c (wordsFrom .uncased (next :: rest))
    else
      consFirst c (wordsFrom (wordCase.after c) (next :: rest))

def words (text : List Char) : List (List Char) :=
  (nameRuns text).flatMap (wordsFrom .uncased)

/-! ## Snake case -/

/-- A name in snake case: its words, lower-cased and joined by underscores. -/
def snakeCase (name : String) : String :=
  String.ofList (['_'].intercalate ((words name.toList).map lowerWord))

end EntSchema.Text
