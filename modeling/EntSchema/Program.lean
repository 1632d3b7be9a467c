import EntSchema.Command.Check
import EntSchema.Command.Generate
import EntSchema.Command.Init
import EntSchema.CommandLine

/-!
# The program

A run from the arguments to the exit status: the command line is read, the settings are resolved,
the log is started, and the command does its work.
-/

namespace EntSchema.Program

/-! ## Texts -/

def versionLine : String := "entgen 0.3.0\n"

def usage : String :=
  "Generate ent schemas from Prisma models\n\n" ++
    "Usage: entgen [--log-level <LEVEL>] [COMMAND]\n\n" ++
    "Commands:\n" ++
    "  generate  Generate ent schema files (the default)\n" ++
    "            [-c FILE] [-s FILE] [-o DIR] [-p NAME] [--go-generate] [--dry-run]\n" ++
    "  check     Validate entgen.toml and render the model document in memory\n" ++
    "            [-c FILE] [-s FILE]\n" ++
    "  init      Create a starter entgen.toml in the current directory\n" ++
    "            [-s FILE] [-o DIR] [--force]\n"

/-! ## Runs -/

/-- How a run ends; `misuse` is for a command line that makes no sense. -/
inductive Result where
  | success
  | failure (error : CommandError)
  | misuse
  deriving DecidableEq, Repr

def Result.status : Result → UInt32
  | .success => 0
  | .failure _ => 1
  | .misuse => 2

def Result.report? : Result → Option String
  | .failure error => some error.report
  | .success | .misuse => none

variable {m : Type → Type} [Monad m] [Host m]

/-- Starts the log; `environment?` is the filter that the environment names. -/
def openLog (environment? : Option String) (level : String) : Command m Unit :=
  ExceptT.lift (Host.openLog (.choose environment? level))

def perform (environment? : Option String) : Invocation → Command m Unit
  | .generate path? overrides dryRun => do
    let settings ← Command.resolveSettings path? overrides
    openLog environment? settings.logLevel
    Command.generate settings dryRun
  | .check path? overrides => do
    let settings ← Command.resolveSettings path? overrides
    openLog environment? settings.logLevel
    Command.check path? settings
  | .init options logLevel? => do
    openLog environment? (logLevel?.getD Settings.standard.logLevel)
    let _ ← Command.init ⟨"."⟩ options
  | .version => Command.print versionLine
  | .help => Command.print usage

/-- A run with the given arguments. -/
def run (environment? : Option String) (arguments : List String) : m Result := do
  match CommandLine.parse arguments with
  | none => return .misuse
  | some invocation =>
    match ← (perform environment? invocation).run with
    | .ok () => return .success
    | .error error => return .failure error

end EntSchema.Program
