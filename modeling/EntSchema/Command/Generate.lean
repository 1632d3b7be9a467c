import EntSchema.Command.Steps
import EntSchema.Storage.Memory

/-!
# The generate command

Loads the document, generates its files and writes them, or shows them where nothing is to be
written.  The `go generate` step follows the writing when the settings ask for it.

The order in which the files are written is left open to a way of persisting; `generate` writes one
after another, in the order of the document.
-/

namespace EntSchema.Command

variable {m : Type → Type} [Monad m] [Host m]

/-! ## Writing -/

/-- A way to persist files, in memory where they are only shown, and on a host. -/
structure Persisting (m : Type → Type) where
  inMemory : Path → List GeneratedFile → Persisted × MemoryStore
  onHost : Path → List GeneratedFile → m Persisted

/-- Persisting one file after another. -/
def Persisting.inTurn : Persisting m := ⟨persistInMemory, persist⟩

def generatedEvent (count : Nat) (directory : Path) : Log.Event :=
  ⟨.command, .info, "generated ent schemas",
    [("files", toString count), ("output", directory.text)]⟩

/-- Shows files as they would be written. -/
def showFiles (way : Persisting m) (directory : Path) (files : List GeneratedFile) :
    Command m Unit := do
  let (persisted, store) := way.inMemory directory files
  logAll persisted.events
  print store.preview
  say ("Dry run: nothing written to " ++ directory.text)

def writeFiles (way : Persisting m) (directory : Path) (files : List GeneratedFile) :
    Command m Unit := do
  let persisted ← ExceptT.lift (way.onHost directory files)
  logAll persisted.events
  let count ← orFail (.unwritable directory) (pure persisted.result)
  log (generatedEvent count directory)
  say ("✓ Generated " ++ toString count ++ " schema file(s) in " ++ directory.text)

/-! ## The step after it -/

def finishedEvent (package : Path) : Log.Event :=
  ⟨.command, .info, "go generate finished", [("package", package.text)]⟩

/-- Runs `go generate` on the package that holds a directory of schemas. -/
def runGoGenerate (directory : Path) : Command m Unit := do
  let package := directory.packageDirectory
  say ("Running go generate in: " ++ package.text)
  match ← orFail .goNotStarted (Host.goGenerate package) with
  | .status 0 => do
    log (finishedEvent package)
    say "✓ go generate successful!"
  | ending => throw (.goFailed ending)

/-! ## The command -/

/-- Generates the files of the document of some settings and persists them in some way; `dryRun`
only shows them. -/
def generateBy (way : Persisting m) (settings : Settings) (dryRun : Bool) : Command m Unit := do
  say ("Reading model document: " ++ settings.schema.text)
  let document ← loadDocument settings.schema
  let directory := settings.output.directory
  let files ← render settings document
  if dryRun then showFiles way directory files
  else do
    writeFiles way directory files
    if settings.goGenerate then runGoGenerate directory
    say "\nDone!"

def generate (settings : Settings) (dryRun : Bool) : Command m Unit :=
  generateBy .inTurn settings dryRun

end EntSchema.Command
