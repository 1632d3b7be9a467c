import EntSchema.Command.Error
import EntSchema.Settings.Decoding

/-!
# Steps of commands

A command acts on a host until it is done or fails.  These are the steps that commands share: lines
on the standard output, events in the log, and the loading of settings and documents.
-/

namespace EntSchema

/-- Something done on a host that may fail. -/
abbrev Command (m : Type → Type) (α : Type) := ExceptT CommandError m α

namespace Command

variable {m : Type → Type} [Monad m] {α ε : Type}

/-- A step of a host, with its fault as the error of a command. -/
def orFail (error : ε → CommandError) (step : m (Except ε α)) : Command m α :=
  ExceptT.mk do return (← step).mapError error

variable [Host m]

/-! ## Output -/

def print (text : String) : Command m Unit :=
  ExceptT.lift (Host.print text)

def say (line : String) : Command m Unit :=
  print (line ++ "\n")

def log (event : Log.Event) : Command m Unit :=
  ExceptT.lift (Host.log event)

def logAll (events : List Log.Event) : Command m Unit :=
  events.forM log

/-! ## Settings -/

/-- The settings file that is looked for in the working directory when none is named. -/
def settingsFile : Path := ⟨"entgen.toml"⟩

def readSettings (path : Path) : Command m Settings := do
  let text ← orFail (.unreadableSettings path) (Host.readFile path)
  match Settings.parse? text with
  | some settings => return settings
  | none => throw .malformedSettings

/-- The settings in the named file, which has to be there, or else in the usual file, if it is
there. -/
def loadSettings : Option Path → Command m Settings
  | some path => readSettings path
  | none => do
    if ← ExceptT.lift (Host.isFile settingsFile) then readSettings settingsFile
    else return .standard

/-- The settings of a run: loaded, with overrides in their place, then judged. -/
def resolveSettings (path? : Option Path) (overrides : Overrides) : Command m Settings := do
  let settings ← loadSettings path?
  orFail .invalidSettings (pure ((settings.apply overrides).validate))

/-! ## Documents -/

def loadDocument (path : Path) : Command m Model.Document := do
  let text ← orFail (fun fault => .unloadableDocument path (.io path fault)) (Host.readFile path)
  orFail (fun error => .unloadableDocument path (.document error))
    (pure (Model.Document.parse text))

def render (settings : Settings) (document : Model.Document) : Command m (List GeneratedFile) := do
  let options := settings.generationOptions
  logAll (options.generationEvents document)
  orFail .unrenderable (pure (options.generate document))

end Command

end EntSchema
