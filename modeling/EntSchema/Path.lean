/-!
# Paths

A path is text; slashes separate its components.  Empty parts, and dots other than a leading one,
name nothing of their own, so different texts may have the same components.  Paths are compared by
their components and shown as they were written.
-/

namespace EntSchema

/-- A path, as it was written. -/
structure Path where
  text : String
  deriving DecidableEq, Repr

namespace Path

/-! ## Components -/

/-- A component of a path: the slash at the start of an absolute path, the dot at the start of a
relative one, two dots, or a name. -/
inductive Component where
  | root
  | here
  | up
  | name (name : List Char)
  deriving DecidableEq, Repr

/-- A path in two parts: its start, which is a slash, a dot or nothing, and the parts between the
slashes of the rest. -/
structure Anatomy where
  head : List Char
  parts : List (List Char)
  deriving DecidableEq, Repr

def isAbsolute (path : Path) : Bool :=
  path.text.toList.head? == some '/'

def anatomy (path : Path) : Anatomy :=
  match path.text.toList with
  | '/' :: rest => ⟨['/'], rest.splitOn '/'⟩
  | ['.'] => ⟨['.'], [[]]⟩
  | '.' :: '/' :: rest => ⟨['.'], [] :: rest.splitOn '/'⟩
  | text => ⟨[], text.splitOn '/'⟩

/-- Whether a part between slashes names nothing. -/
def isSilent (part : List Char) : Bool :=
  part == [] || part == ['.']

def Component.ofPart (part : List Char) : Component :=
  if part = ['.', '.'] then .up else .name part

def Component.ofHead : List Char → List Component
  | ['/'] => [.root]
  | ['.'] => [.here]
  | _ => []

def components (path : Path) : List Component :=
  let anatomy := path.anatomy
  Component.ofHead anatomy.head ++
    (anatomy.parts.filter (!isSilent ·)).map Component.ofPart

/-! ## Order -/

def Component.rank : Component → Nat
  | .root => 0
  | .here => 1
  | .up => 2
  | .name _ => 3

/-- Components are ordered by their kinds, names by their characters. -/
def Component.cmp (a b : Component) : Ordering :=
  match a, b with
  | .name a, .name b => compare (String.ofList a) (String.ofList b)
  | a, b => compare a.rank b.rank

def cmpComponents : List Component → List Component → Ordering
  | [], [] => .eq
  | [], _ :: _ => .lt
  | _ :: _, [] => .gt
  | a :: as, b :: bs => (a.cmp b).then (cmpComponents as bs)

def cmp (a b : Path) : Ordering :=
  cmpComponents a.components b.components

/-! ## Taking paths apart and together -/

/-- The parts of a path up to the last one that names something. -/
def trimParts (parts : List (List Char)) : List (List Char) :=
  (parts.reverse.dropWhile isSilent).reverse

def ofParts (head : List Char) (parts : List (List Char)) : Path :=
  ⟨String.ofList (head ++ ['/'].intercalate parts)⟩

/-- The path without its last component; none for the root and for the empty path. -/
def parent? (path : Path) : Option Path :=
  let anatomy := path.anatomy
  match (trimParts anatomy.parts).reverse with
  | _ :: before => some (ofParts anatomy.head (trimParts before.reverse))
  | [] => if anatomy.head = ['.'] then some ⟨""⟩ else none

/-- The name at the end of a path; none when the path ends at the root, in a leading dot or going
up. -/
def fileName? (path : Path) : Option String :=
  match path.components.getLast? with
  | some (.name name) => some (String.ofList name)
  | _ => none

/-- A path taken from a directory: an absolute one stands for itself. -/
def join (directory path : Path) : Path :=
  if path.isAbsolute then path
  else if directory.text.isEmpty || directory.text.toList.getLast? = some '/' then
    ⟨directory.text ++ path.text⟩
  else ⟨directory.text ++ "/" ++ path.text⟩

/-- The directory that holds a schema directory, where the `go generate` step runs: the path without
its last component, or the working directory when that leaves nothing. -/
def packageDirectory (schemaDirectory : Path) : Path :=
  match schemaDirectory.parent? with
  | some parent => if parent.text.isEmpty then ⟨"."⟩ else parent
  | none => ⟨"."⟩

end Path

end EntSchema
