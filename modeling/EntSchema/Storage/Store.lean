import EntSchema.Generation
import EntSchema.Storage.IoFault

/-!
# Stores of generated files

A store makes directories and writes files.  `persist` makes the directory once, before any file is
written, and then writes every file whatever becomes of the others.  The writes do not depend on
each other, so a store may carry them out in any order; the order of the list is one of them.
-/

namespace EntSchema

/-! ## Stores -/

/-- Why a store does not do what it is asked; `brokenOff` is for a write that did not come to its
end. -/
inductive StoreFault where
  | io (path : Path) (fault : IoFault)
  | brokenOff
  deriving DecidableEq, Repr

/-- A place for generated files, as the effects of a monad.  A directory is made with those above
it, and a file is written over one that is there. -/
class Store (m : Type → Type) where
  ensureDirectory : Path → m (Except StoreFault Unit)
  writeFile : Path → String → m (Except StoreFault Unit)

/-! ## Persisting -/

/-- What came of persisting some files. -/
structure Persisted where
  written : List Path
  fault? : Option StoreFault
  deriving DecidableEq, Repr

/-- The number of files written, or the first fault. -/
def Persisted.result (persisted : Persisted) : Except StoreFault Nat :=
  match persisted.fault? with
  | some fault => .error fault
  | none => .ok persisted.written.length

def writtenEvent (path : Path) : Log.Event :=
  ⟨.generation, .debug, "wrote schema file", [("path", path.text)]⟩

def Persisted.events (persisted : Persisted) : List Log.Event :=
  persisted.written.map writtenEvent

variable {m : Type → Type} [Monad m] [Store m]

def writeAll : List GeneratedFile → m Persisted
  | [] => return ⟨[], none⟩
  | file :: rest => do
    let outcome ← Store.writeFile file.path file.source
    let others ← writeAll rest
    match outcome with
    | .ok () => return ⟨file.path :: others.written, others.fault?⟩
    | .error fault => return ⟨others.written, some fault⟩

def persist (directory : Path) (files : List GeneratedFile) : m Persisted := do
  match ← Store.ensureDirectory directory with
  | .ok () => writeAll files
  | .error fault => return ⟨[], some fault⟩

end EntSchema
