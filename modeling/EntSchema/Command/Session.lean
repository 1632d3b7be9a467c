import EntSchema.Command.Host
import EntSchema.FileTree

/-!
# Sessions

A host that is a value: a file tree, what has been printed and logged, and what stands for the `go`
program.  Running a command on a session gives the session after it.
-/

namespace EntSchema

/-- What stands for the `go` program: what it prints when it runs in a directory, and how the run
ends. -/
structure GoProgram where
  printed : Location → String
  ending : Ending

/-- A place where commands run, as a value.  The log has no filter before it is started. -/
structure Session where
  tree : FileTree
  goProgram? : Option GoProgram
  output : String
  filter? : Option Log.Filter
  events : List Log.Event

namespace Session

def ofTree (tree : FileTree) (goProgram? : Option GoProgram) : Session :=
  ⟨tree, goProgram?, "", none, []⟩

def print (session : Session) (text : String) : Session :=
  { session with output := session.output ++ text }

/-- The session with an event logged, if the log is started and the event passes its filter. -/
def log (session : Session) (event : Log.Event) : Session :=
  match session.filter? with
  | some filter =>
    if filter.passes event then { session with events := session.events ++ [event] } else session
  | none => session

/-- The session with a text written to a file, or why it is not. -/
def writeFile (session : Session) (path : Path) (text : String) :
    Except IoFault Unit × Session :=
  match session.tree.write path text with
  | .ok tree => (.ok (), { session with tree := tree })
  | .error fault => (.error fault, session)

def makeDirectories (session : Session) (path : Path) : Except IoFault Unit × Session :=
  let made := session.tree.makeDirectories path
  let outcome := match made.fault? with
    | some fault => .error fault
    | none => .ok ()
  (outcome, { session with tree := made.tree })

/-- The session after the `go` program has run in a directory, or why it has not. -/
def goGenerate (session : Session) (path : Path) : Except IoFault Ending × Session :=
  match session.tree.find path, session.goProgram? with
  | .error fault, _ => (.error fault, session)
  | .ok (_, .file _), _ => (.error .notDirectory, session)
  | .ok (_, .directory), none => (.error .notFound, session)
  | .ok (location, .directory), some program =>
    (.ok program.ending, session.print (program.printed location))

end Session

instance : Host (StateM Session) where
  readFile path := do return (← get).tree.read path
  writeFile path text := modifyGet (·.writeFile path text)
  makeDirectories path := modifyGet (·.makeDirectories path)
  holds path := do return (← get).tree.holds path
  isFile path := do return (← get).tree.isFile path
  print text := modify (·.print text)
  openLog filter := modify fun session => { session with filter? := some filter }
  log event := modify (·.log event)
  goGenerate path := modifyGet (·.goGenerate path)

end EntSchema
