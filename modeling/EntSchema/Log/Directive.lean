import EntSchema.Log.Event
import EntSchema.Text.Alphanumeric
import EntSchema.Text.Blank

/-!
# Directives of a log filter

A directive sets the finest level that passes from some sources.  It is written as a level, which is
then meant for everything; as a target, from which everything passes; or as both with an equals sign
between them.  Brackets behind the target narrow it to the events with a certain value or to those
of a certain stretch of work.
-/

namespace EntSchema.Log

/-- Which events of its sources a directive is meant for: all of them, those that have a value of
some name, or those within a stretch of work with a name or a value of its own (no event is). -/
inductive Reach where
  | everything
  | havingValue (name : String)
  | withinWork
  deriving DecidableEq, Repr

/-- What passes a filter from the sources whose names start with `target`, up to the finest level,
if any does. -/
structure Directive where
  target : String
  reach : Reach
  finest? : Option Level
  deriving DecidableEq, Repr

/-! ## Meaning -/

/-- Whether an event is within a reach.  The message counts as a value of its own. -/
def Reach.contains (reach : Reach) (event : Event) : Bool :=
  match reach with
  | .everything => true
  | .havingValue name => name == "message" || (event.values.map Prod.fst).contains name
  | .withinWork => false

def Directive.isFor (directive : Directive) (event : Event) : Bool :=
  directive.target.toList.isPrefixOf event.source.target.toList && directive.reach.contains event

def Directive.passes (directive : Directive) (event : Event) : Bool :=
  match directive.finest? with
  | some finest => finest.weight ≤ event.level.weight
  | none => false

/-- Whether a reach is narrower than another one; of two values the one with the later name is. -/
def Reach.isNarrower : Reach → Reach → Bool
  | .havingValue name, .havingValue other => other < name
  | .havingValue _, .everything => true
  | _, _ => false

def Directive.isNarrower (directive other : Directive) : Bool :=
  other.target.length < directive.target.length ||
    other.target.length == directive.target.length && directive.reach.isNarrower other.reach

/-! ## Levels -/

/-- The names of levels, in small letters, with the levels that they stand for; `off` stands for
none. -/
def levelNames : List (String × Option Level) :=
  [("trace", some .trace), ("debug", some .debug), ("info", some .info), ("warn", some .warn),
    ("error", some .error), ("off", none)]

/-- The level that a number stands for, without its leading zeros, so that nothing is left of the
number zero. -/
def levelNumber? : List Char → Option (Option Level)
  | [] => some none
  | ['1'] => some (some .error)
  | ['2'] => some (some .warn)
  | ['3'] => some (some .info)
  | ['4'] => some (some .debug)
  | ['5'] => some (some .trace)
  | _ => none

def level? (text : List Char) : Option (Option Level) :=
  match levelNames.find? fun entry => entry.1.toList = text.map Char.toLower with
  | some (_, finest?) => some finest?
  | none =>
    let digits := match text with
      | '+' :: digits => digits
      | digits => digits
    if digits.isEmpty then none else levelNumber? (digits.dropWhile (· == '0'))

/-! ## Reading -/

def mayStart (c : Char) : Bool :=
  Text.isAlphanumeric c || c == '-' || c == ':' || c == '_' || c == '['

/-- The reach that is written behind an opening bracket, and the rest behind the closing one: the
name of a stretch of work, and in braces perhaps a value of it. -/
def readReach (text : List Char) : Option (Reach × List Char) :=
  let work := text.takeWhile fun c => c != ']' && c != '{'
  match text.drop work.length with
  | ']' :: rest => some (.withinWork, rest)
  | '{' :: rest =>
    let value := rest.takeWhile (· != '}')
    match rest.drop value.length with
    | '}' :: ']' :: rest =>
      if value.isEmpty then none
      else if work.isEmpty && !value.contains '=' then
        some (.havingValue (String.ofList value), rest)
      else some (.withinWork, rest)
    | _ => none
  | _ => none

/-- The level that is written behind a target: nothing, or an equals sign and a level, which may be
left out.  Without a level everything passes. -/
def finestBehind? (text : List Char) : Option (Option Level) :=
  match text with
  | ['='] => some (some .trace)
  | '=' :: level => level? level
  | rest => if rest.all Text.isBlank then some (some .trace) else none

/-- The directive that a text stands for.  Blanks in front of it belong to the target and allow no
level behind it, and blanks at its end belong to what they follow. -/
def directive? (text : List Char) : Option Directive := do
  let start := text.dropWhile Text.isBlank
  if !start.head?.any mayStart then none
  else
    let target := text.takeWhile fun c => c != '=' && c != '['
    let (reach, rest) ← match text.drop target.length with
      | '[' :: rest => readReach rest
      | rest => some (.everything, rest)
    if rest.head? = some '=' && start.length < text.length then none
    else
      match level? text with
      | some finest? => return ⟨"", .everything, finest?⟩
      | none => return ⟨String.ofList target, reach, ← finestBehind? rest⟩

end EntSchema.Log
