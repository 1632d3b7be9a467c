import EntSchema.Command.Host
import EntSchema.GenerationError
import EntSchema.Settings.Validation
import EntSchema.Text.Replace
import EntSchema.Text.Shown

/-!
# Errors of commands

Why a command fails: what it was about to do, and the errors behind that, outermost first.  A report
puts them under each other.
-/

namespace EntSchema

/-- Why a command fails. -/
inductive CommandError where
  | unreadableSettings (path : Path) (fault : IoFault)
  | malformedSettings
  | invalidSettings (fault : SettingsFault)
  | unloadableDocument (path : Path) (error : GenerationError)
  | unrenderable (fault : MissingEnum)
  | unwritable (directory : Path) (fault : StoreFault)
  | goNotStarted (fault : IoFault)
  | goFailed (ending : Ending)
  | settingsExist (path : Path)
  | unwritableSettings (path : Path) (fault : IoFault)
  deriving DecidableEq, Repr

namespace CommandError

/-- A path between quotes, with escapes for what cannot be seen. -/
def quoted (path : Path) : String := Text.shown path.text

def statusText : Ending → String
  | .status code => "Some(" ++ toString code ++ ")"
  | .signal => "None"

def message : CommandError → String
  | .unreadableSettings path _ => "Failed to read config: " ++ quoted path
  | .malformedSettings => "Failed to parse config"
  | .invalidSettings fault => fault.message
  | .unloadableDocument path _ => "Failed to load model document: " ++ quoted path
  | .unrenderable _ => "Failed to render schemas"
  | .unwritable directory _ => "Failed to write schemas to " ++ quoted directory
  | .goNotStarted _ => "Failed to execute go generate"
  | .goFailed ending => "go generate failed with exit code: " ++ statusText ending
  | .settingsExist path => path.text ++ " already exists (use --force to overwrite)"
  | .unwritableSettings path _ => "Failed to write config: " ++ quoted path

/-- The wordings of the errors behind an error, outermost first. -/
def causes : CommandError → List String
  | .unreadableSettings _ fault | .goNotStarted fault | .unwritableSettings _ fault =>
    [fault.message]
  | .unloadableDocument _ error => error.chain
  | .unrenderable fault => (GenerationError.missingEnum fault).chain
  | .unwritable _ fault => (GenerationError.ofStoreFault fault).chain
  | .malformedSettings | .invalidSettings _ | .goFailed _ | .settingsExist _ => []

/-! ## Reports -/

def indentLines (margin : String) (text : String) : String :=
  Text.replaceAll "\n" ("\n" ++ margin) text

def numbered (item : String × Nat) : String :=
  "    " ++ toString item.2 ++ ": " ++ indentLines "       " item.1

/-- The causes as lines: a single one without a number. -/
def causeLines : List String → List String
  | [] => []
  | [cause] => ["    " ++ indentLines "    " cause]
  | causes => causes.zipIdx.map numbered

/-- The report of an error, without a line end behind it. -/
def report (error : CommandError) : String :=
  let head := "Error: " ++ error.message
  if error.causes.isEmpty then head
  else "\n".intercalate (head :: "" :: "Caused by:" :: causeLines error.causes)

end CommandError

end EntSchema
