import EntSchema.Text.Alphanumeric

/-!
# Go identifiers

The names that the settings accept for a package: an underscore or an alphabetic character, then
underscores, alphabetic and numeric characters, and none of the words that Go keeps for itself.
-/

namespace EntSchema.Go

/-- The words that Go keeps for itself. -/
def keywords : List String :=
  ["break", "case", "chan", "const", "continue", "default", "defer", "else", "fallthrough", "for",
    "func", "go", "goto", "if", "import", "interface", "map", "package", "range", "return",
    "select", "struct", "switch", "type", "var"]

def startsIdentifier (c : Char) : Bool :=
  c == '_' || Text.isAlphabetic c

def continuesIdentifier (c : Char) : Bool :=
  c == '_' || Text.isAlphanumeric c

def hasIdentifierForm : List Char → Bool
  | [] => false
  | c :: rest => startsIdentifier c && rest.all continuesIdentifier

/-- Whether a name is accepted as the name of a package. -/
def isIdentifier (name : String) : Bool :=
  hasIdentifierForm name.toList && !keywords.contains name

end EntSchema.Go
