import EntSchema.Log.Filter
import EntSchema.Storage.Store

/-!
# Hosts

What the commands need of the place where they run: files, a standard output, a log, and the
`go generate` step.  The commands are written for any host, so that they can be run in a session
that is a value and on a computer alike.
-/

namespace EntSchema

/-- How a program ended: with a status of its own, of which 0 stands for success, or by a signal. -/
inductive Ending where
  | status (code : Int)
  | signal
  deriving DecidableEq, Repr

/-- A place where commands run, as the effects of a monad.  A text is written over a file that is
there, a directory is made with those above it, and events are kept from `openLog` on, as far as
they pass its filter. -/
class Host (m : Type → Type) where
  readFile : Path → m (Except IoFault String)
  writeFile : Path → String → m (Except IoFault Unit)
  makeDirectories : Path → m (Except IoFault Unit)
  holds : Path → m Bool
  isFile : Path → m Bool
  print : String → m Unit
  openLog : Log.Filter → m Unit
  log : Log.Event → m Unit
  goGenerate : Path → m (Except IoFault Ending)

/-- The files of a host as a store. -/
instance {m : Type → Type} [Monad m] [Host m] : Store m where
  ensureDirectory path :=
    return (← Host.makeDirectories path).mapError (.io path)
  writeFile path source :=
    return (← Host.writeFile path source).mapError (.io path)

end EntSchema
