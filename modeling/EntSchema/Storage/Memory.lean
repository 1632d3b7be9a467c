import EntSchema.Entries
import EntSchema.Storage.Store

/-!
# Files in memory

A store that keeps everything, for previews.  Files are kept in the order of their paths, each path
as it was first written.
-/

namespace EntSchema

/-- The directories in the order in which they were asked for, with repetitions, and the files in
the order of their paths. -/
structure MemoryStore where
  directories : List Path
  files : List (Path × String)
  deriving DecidableEq, Repr

namespace MemoryStore

def empty : MemoryStore := ⟨[], []⟩

def addDirectory (store : MemoryStore) (path : Path) : MemoryStore :=
  { store with directories := store.directories ++ [path] }

def putFile (store : MemoryStore) (path : Path) (source : String) : MemoryStore :=
  { store with files := Entries.putSorted Path.cmp path source store.files }

/-- The text of a file, under any spelling of its path. -/
def file? (store : MemoryStore) (path : Path) : Option String :=
  Entries.find? Path.cmp path store.files

/-- The files as text: each behind a line with its path, and with an empty line after it. -/
def preview (store : MemoryStore) : String :=
  String.join (store.files.map fun (path, source) =>
    "// ---- " ++ path.text ++ " ----\n" ++ source ++ "\n")

end MemoryStore

instance : Store (StateM MemoryStore) where
  ensureDirectory path := do
    modify (·.addDirectory path)
    return .ok ()
  writeFile path source := do
    modify (·.putFile path source)
    return .ok ()

/-- What persisting files in memory leaves behind. -/
def persistInMemory (directory : Path) (files : List GeneratedFile) : Persisted × MemoryStore :=
  Id.run ((persist directory files : StateM MemoryStore Persisted).run MemoryStore.empty)

end EntSchema
