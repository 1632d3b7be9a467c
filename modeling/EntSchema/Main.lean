import EntSchema.Program

/-!
# The computer as a host

The commands on the files, the standard streams and the environment of the computer.  No other
program can be started from here, so the `go generate` step always fails.
-/

namespace EntSchema.Computer

/-- The effects of the computer, beside the filter of the log once it is started. -/
abbrev Effects := StateT (Option Log.Filter) IO

def faultOf (error : IO.Error) : IoFault :=
  match error with
  | .noFileOrDirectory _ code details | .alreadyExists _ code details
  | .inappropriateType _ code details | .invalidArgument _ code details
  | .permissionDenied _ code details | .resourceExhausted _ code details
  | .noSuchThing _ code details | .otherError code details => ofCode code details
  | error => .other (toString error)
where
  /-- The fault with a number of Linux, which may come with a minus sign. -/
  ofCode (code : UInt32) (details : String) : IoFault :=
    match min code (-code) with
    | 2 => .notFound
    | 17 => .alreadyExists
    | 20 => .notDirectory
    | 21 => .isDirectory
    | 36 => .nameTooLong
    | code => .other (details ++ " (os error " ++ toString code ++ ")")

/-- A step of the system, with its error as a fault. -/
def attempt {α : Type} (step : IO α) : Effects (Except IoFault α) := do
  match ← step.toBaseIO with
  | .ok value => return .ok value
  | .error error => return .error (faultOf error)

def readFile (path : Path) : Effects (Except IoFault String) := do
  match ← attempt (IO.FS.readBinFile path.text) with
  | .error fault => return .error fault
  | .ok bytes =>
    match String.fromUTF8? bytes with
    | some text => return .ok text
    | none => return .error .notUtf8

def holds (path : Path) : IO Bool := do
  match ← (IO.FS.realPath path.text).toBaseIO with
  | .ok _ => return true
  | .error _ => return false

/-- Whether a path stands for something else than a directory. -/
def isFile (path : Path) : IO Bool := do
  match ← (IO.FS.realPath path.text).toBaseIO with
  | .ok found => return !(← found.isDir)
  | .error _ => return false

instance : Host Effects where
  readFile := readFile
  writeFile path text := attempt (IO.FS.writeFile path.text text)
  makeDirectories path :=
    if path.text.isEmpty then return .ok () else attempt (IO.FS.createDirAll path.text)
  holds path := holds path
  isFile path := isFile path
  print text := (IO.print text : IO Unit)
  openLog filter := set (some filter)
  log event := do
    if (← get).any (·.passes event) then IO.eprintln event.line
  goGenerate _ := return .error (.other "no program can be started")

end EntSchema.Computer

def main (arguments : List String) : IO UInt32 := do
  let environment? ← IO.getEnv "RUST_LOG"
  let run : EntSchema.Computer.Effects EntSchema.Program.Result :=
    EntSchema.Program.run environment? arguments
  let (result, _) ← run.run none
  if let some report := result.report? then IO.eprintln report
  if result = .misuse then IO.eprint EntSchema.Program.usage
  return result.status
