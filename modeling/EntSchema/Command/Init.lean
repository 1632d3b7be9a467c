import EntSchema.Command.Steps
import EntSchema.Settings.Starter

/-!
# The init command

Writes the settings file of a new project, over one that is there only when it is told to.
-/

namespace EntSchema.Command

variable {m : Type → Type} [Monad m] [Host m]

def startedEvent (path : Path) : Log.Event :=
  ⟨.command, .info, "wrote starter config", [("path", path.text)]⟩

def nextSteps (path schema : Path) : List String :=
  ["✓ Created " ++ path.text,
    "",
    "Next steps:",
    "  1. Export the Prisma DMMF to " ++ schema.text,
    "  2. Run `entgen generate`"]

/-- Writes a settings file into a directory, and gives its path. -/
def init (directory : Path) (options : StarterOptions) : Command m Path := do
  let path := directory.join settingsFile
  if (← ExceptT.lift (Host.holds path)) && !options.force then throw (.settingsExist path)
  orFail (.unwritableSettings path) (Host.writeFile path (Starter.text options))
  log (startedEvent path)
  (nextSteps path options.schema).forM say
  return path

end EntSchema.Command
