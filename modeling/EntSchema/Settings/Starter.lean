import EntSchema.Go.Identifier
import EntSchema.Settings.Basic
import EntSchema.Text.Replace

/-!
# Starter settings

The settings file for a new project: a fixed text with three places for the document, the directory
of the files and their package.  The places are filled one after another, so a value that holds the
mark of a later place is filled in too.
-/

namespace EntSchema

/-- What goes into a settings file for a new project, and whether it is written over one that is
there. -/
structure StarterOptions where
  schema : Path
  output : Path
  force : Bool
  deriving DecidableEq, Repr

def StarterOptions.standard : StarterOptions :=
  ⟨Settings.standard.schema, OutputSettings.standard.directory, false⟩

namespace Starter

/-! ## The text -/

/-- The mark of the place of a value. -/
def mark (name : String) : String := r"{{" ++ name ++ r"}}"

def schemaMark : String := mark "schema"

def directoryMark : String := mark "output-dir"

def packageMark : String := mark "package"

/-- The lines in front of the document.  `runLines` stand in front of the directory, `packageLines`
in front of the package, and `typesLines` behind it. -/
def headLines : List String :=
  ["# entgen configuration",
    "#",
    "# Every key is optional; the values below are the ones entgen would use",
    "# without this file, except where `entgen init` was given flags.",
    "",
    "# Prisma DMMF document to read (`prisma generate` can emit it as JSON)"]

def runLines : List String :=
  ["",
    "# trace, debug, info, warn or error (RUST_LOG takes precedence)",
    "log_level = \"info\"",
    "",
    "# Run `go generate` on the ent package after writing the schemas",
    "go_generate = false",
    "",
    "[output]",
    "# Directory receiving one .go file per model"]

def packageLines : List String :=
  ["",
    "# Go package clause of the generated files"]

def typesLines : List String :=
  ["",
    "# Extra or overriding type mappings, source type -> ent field builder.",
    "# A string names the builder; a table also passes a literal argument.",
    "[types]",
    "# Citext = \"String\"",
    r#"# Json = { target = "JSON", literal = "map[string]any{}" }"#]

def line (name value : String) : String := name ++ " = \"" ++ value ++ "\""

/-- The lines of the text, with something in its three places. -/
def linesWith (schema directory package : String) : List String :=
  headLines ++ line "schema" schema :: (runLines ++ line "dir" directory ::
    (packageLines ++ line "package" package :: typesLines))

def textWith (schema directory package : String) : String :=
  textOfLines (linesWith schema directory package)

/-- The text with the marks in it. -/
def template : String := textWith schemaMark directoryMark packageMark

/-! ## Filling the places -/

/-- A character as it is written between the quotes of a TOML string. -/
def escapeChar (c : Char) : List Char :=
  if c = '\\' then ['\\', '\\']
  else if c = '"' then ['\\', '"']
  else [c]

def escaped (path : Path) : String := String.ofList (path.text.toList.flatMap escapeChar)

/-- The package that goes with a directory: its name, if Go takes that, and else the standard. -/
def packageFor (directory : Path) : String :=
  match directory.fileName? with
  | some name => if Go.isIdentifier name then name else OutputSettings.standard.package
  | none => OutputSettings.standard.package

def text (options : StarterOptions) : String :=
  let withSchema := Text.replaceAll schemaMark (escaped options.schema) template
  let withDirectory := Text.replaceAll directoryMark (escaped options.output) withSchema
  Text.replaceAll packageMark (packageFor options.output) withDirectory

end Starter

end EntSchema
