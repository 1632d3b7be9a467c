import EntSchema.Entries
import EntSchema.Path
import EntSchema.Storage.IoFault

/-!
# File trees

Directories and files as a value, with the operations that the commands need.  A path is walked from
the root or from the working directory, name by name: every name but the last has to be that of a
directory, a dot stays, two dots go up, and further slashes say nothing, except that only a
directory may have one behind its name.
-/

namespace EntSchema

/-! ## Trees -/

/-- What stands in a file: a text, or bytes that are no UTF-8 text. -/
inductive FileContent where
  | text (text : String)
  | binary (bytes : List UInt8)
  deriving DecidableEq, Repr

inductive FileNode where
  | directory
  | file (content : FileContent)
  deriving DecidableEq, Repr

/-- A place in a tree: the names from the root down. -/
abbrev Location := List String

/-- Directories and files, and the directory from which relative paths start. -/
structure FileTree where
  working : Location
  nodes : List (Location × FileNode)
  deriving DecidableEq, Repr

namespace FileTree

/-- What stands at a place; the root is a directory. -/
def node? (tree : FileTree) (location : Location) : Option FileNode :=
  if location = [] then some .directory else Entries.get? location tree.nodes

def put (tree : FileTree) (location : Location) (node : FileNode) : FileTree :=
  { tree with nodes := Entries.put location node tree.nodes }

/-- Putting something at a place below the root changes what stands there, and nothing else. -/
theorem node?_put (tree : FileTree) {location : Location} (h : location ≠ [])
    (asked : Location) (node : FileNode) :
    (tree.put location node).node? asked =
      if asked = location then some node else tree.node? asked := by
  unfold node? put
  by_cases hroot : asked = []
  · subst asked
    simp [Ne.symm h]
  · simp [hroot, Entries.get?_put]

/-! ## Walking a path -/

/-- Where a walk ends: in a directory, or at a name in one that may stand for nothing yet. -/
structure Destination where
  directory : Location
  name? : Option String
  deriving DecidableEq, Repr

def Destination.location (destination : Destination) : Location :=
  destination.directory ++ destination.name?.toList

def longestName : Nat := 255

def pathBound : Nat := 4096

/-- The walk along the parts of a path, from a directory on. -/
def walk (tree : FileTree) (start : Location) : List String → Except IoFault Destination
  | [] => .ok ⟨start, none⟩
  | part :: rest =>
    if part = "." then walk tree start rest
    else if part = ".." then walk tree start.dropLast rest
    else if longestName < part.utf8ByteSize then .error .nameTooLong
    else if rest = [] then .ok ⟨start, some part⟩
    else
      match tree.node? (start ++ [part]) with
      | none => .error .notFound
      | some (.file _) => .error .notDirectory
      | some .directory => walk tree (start ++ [part]) rest

/-- The parts of a path between its slashes that are not empty. -/
def partsOf (path : Path) : List String :=
  ((path.text.toList.splitOn '/').filter (· ≠ [])).map String.ofList

def endsInSlash (path : Path) : Bool :=
  path.text.toList.getLast? == some '/'

def locate (tree : FileTree) (path : Path) : Except IoFault Destination :=
  if path.text.toList.contains '\x00' then .error .zeroInPath
  else if path.text.isEmpty then .error .notFound
  else if pathBound ≤ path.text.utf8ByteSize then .error .nameTooLong
  else walk tree (if path.isAbsolute then [] else tree.working) (partsOf path)

/-- What a path stands for, and its place. -/
def find (tree : FileTree) (path : Path) : Except IoFault (Location × FileNode) := do
  let destination ← tree.locate path
  match tree.node? destination.location with
  | none => .error .notFound
  | some .directory => return (destination.location, .directory)
  | some (.file content) =>
    if endsInSlash path then .error .notDirectory
    else return (destination.location, .file content)

/-! ## Questions -/

def holds (tree : FileTree) (path : Path) : Bool :=
  match tree.find path with
  | .ok _ => true
  | .error _ => false

def isFile (tree : FileTree) (path : Path) : Bool :=
  match tree.find path with
  | .ok (_, .file _) => true
  | _ => false

def isDirectory (tree : FileTree) (path : Path) : Bool :=
  match tree.find path with
  | .ok (_, .directory) => true
  | _ => false

def read (tree : FileTree) (path : Path) : Except IoFault String := do
  match ← tree.find path with
  | (_, .directory) => .error .isDirectory
  | (_, .file (.binary _)) => .error .notUtf8
  | (_, .file (.text text)) => return text

/-! ## Changes -/

/-- The tree with a text in the file that a path stands for, or in a new one. -/
def write (tree : FileTree) (path : Path) (text : String) : Except IoFault FileTree := do
  let destination ← tree.locate path
  if endsInSlash path then .error .isDirectory
  else
    match tree.node? destination.location with
    | some .directory => .error .isDirectory
    | _ => return tree.put destination.location (.file (.text text))

def makeDirectory (tree : FileTree) (path : Path) : Except IoFault FileTree := do
  let destination ← tree.locate path
  match tree.node? destination.location with
  | some _ => .error .alreadyExists
  | none => return tree.put destination.location .directory

/-- What came of making directories.  Some may have been made before one could not be. -/
structure Made where
  tree : FileTree
  fault? : Option IoFault
  deriving DecidableEq, Repr

/-- The outcome of making one directory, which may also be there already. -/
def makeOrKeep (tree : FileTree) (path : Path) : Made :=
  match tree.makeDirectory path with
  | .ok tree => ⟨tree, none⟩
  | .error fault => ⟨tree, if tree.isDirectory path then none else some fault⟩

/-- Makes a directory, after at most `bound` directories above it that are missing. -/
def makeWithin : Nat → FileTree → Path → Made
  | 0, tree, path => tree.makeOrKeep path
  | bound + 1, tree, path =>
    if path.text.isEmpty then ⟨tree, none⟩
    else
      match tree.makeDirectory path, path.parent? with
      | .error .notFound, some parent =>
        let above := makeWithin bound tree parent
        if above.fault?.isSome then above else above.tree.makeOrKeep path
      | _, _ => tree.makeOrKeep path

/-- Makes a directory and those above it, where there are none. -/
def makeDirectories (tree : FileTree) (path : Path) : Made :=
  makeWithin (path.text.length + 1) tree path

/-! ## Projects -/

/-- The tree with something at a place, and directories where nothing stands above it. -/
def plant (tree : FileTree) (location : Location) (node : FileNode) : FileTree :=
  let above := (List.range location.length).map (location.take ·)
  let missing := above.filter fun location => (tree.node? location).isNone
  (missing.foldl (fun tree location => tree.put location .directory) tree).put location node

def ofWorking (working : Location) : FileTree :=
  plant ⟨working, []⟩ working .directory

def plantBelow (tree : FileTree) (path : Path) (node : FileNode) : FileTree :=
  tree.plant (tree.working ++ partsOf path) node

/-- A place below the working directory as a path; a directory has a slash behind its name. -/
def shownBelow (tree : FileTree) (location : Location) (node : FileNode) : String :=
  "/".intercalate (location.drop tree.working.length) ++
    match node with
    | .directory => "/"
    | .file _ => ""

/-- What stands below the working directory and did not stand there before, by its path. -/
def changesSince (tree before : FileTree) : List (String × FileNode) :=
  let below := tree.nodes.filter fun (location, node) =>
    tree.working.isPrefixOf location ∧ location ≠ tree.working ∧ before.node? location ≠ some node
  let shown := below.map fun (location, node) => (tree.shownBelow location node, node)
  shown.mergeSort fun a b => (compare a.1 b.1).isLE

end FileTree

end EntSchema
