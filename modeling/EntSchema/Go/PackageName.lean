import EntSchema.Text.Letters

/-!
# Package names of Go

What the Go language takes behind the word `package`: an identifier that is neither a keyword nor
the blank identifier.  An identifier is a letter with letters and decimal digits behind it, where
the underscore counts as a letter.
-/

namespace EntSchema.Go

/-- The keywords of the language, in the order in which it lists them. -/
def reservedWords : List String :=
  ["break", "default", "func", "interface", "select", "case", "defer", "go", "map", "struct",
    "chan", "else", "goto", "package", "switch", "const", "fallthrough", "if", "range", "type",
    "continue", "for", "import", "return", "var"]

def blankIdentifier : String := "_"

def isLetterOrUnderscore (c : Char) : Bool :=
  c == '_' || Text.isLetter c

def isWordCharacter (c : Char) : Bool :=
  isLetterOrUnderscore c || Text.isDecimalDigit c

/-- Whether a name can stand in a package clause. -/
structure IsPackageName (name : String) : Prop where
  form : ∃ c rest, name.toList = c :: rest ∧ isLetterOrUnderscore c = true ∧
    ∀ d ∈ rest, isWordCharacter d = true
  not_reserved : name ∉ reservedWords
  not_blank : name ≠ blankIdentifier

end EntSchema.Go
