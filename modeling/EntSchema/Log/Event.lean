/-!
# Log events

What the program reports while it works: a level, a message, and named values.  Events come from the
generation of schemas or from the commands around it, and a filter can tell the two apart.
-/

namespace EntSchema.Log

/-- How much an event matters. -/
inductive Level where
  | trace
  | debug
  | info
  | warn
  | error
  deriving DecidableEq, Repr

/-- The weight of a level; the finest has the least. -/
def Level.weight : Level → Nat
  | .trace => 1
  | .debug => 2
  | .info => 3
  | .warn => 4
  | .error => 5

def Level.name : Level → String
  | .trace => "trace"
  | .debug => "debug"
  | .info => "info"
  | .warn => "warn"
  | .error => "error"

/-- The name of a level in a log line. -/
def Level.tag : Level → String
  | .trace => "TRACE"
  | .debug => "DEBUG"
  | .info => "INFO"
  | .warn => "WARN"
  | .error => "ERROR"

def Level.all : List Level := [.trace, .debug, .info, .warn, .error]

inductive Source where
  | generation
  | command
  deriving DecidableEq, Repr

def Source.target : Source → String
  | .generation => "entgen_core"
  | .command => "entgen"

structure Event where
  source : Source
  level : Level
  message : String
  values : List (String × String)
  deriving DecidableEq, Repr

/-- An event as a line: its level, its message and its values. -/
def Event.line (event : Event) : String :=
  event.level.tag ++ " " ++ event.message ++
    String.join (event.values.map fun (name, value) => " " ++ name ++ "=" ++ value)

end EntSchema.Log
