import EntSchema.Log.Directive

/-!
# Log filters

A filter is a list of directives with commas between them.  Of several that are meant for an event
the narrowest counts: the one with the longest target, and among those one for certain values.
Events that no directive is meant for do not pass.
-/

namespace EntSchema.Log

/-- The directives of a filter; of two that are equally narrow the later one counts. -/
structure Filter where
  directives : List Directive
  deriving DecidableEq, Repr

namespace Filter

/-- The directive that counts for an event, beside one that counted so far. -/
def better (event : Event) (best? : Option Directive) (directive : Directive) :
    Option Directive :=
  if !directive.isFor event then best?
  else
    match best? with
    | some best => if best.isNarrower directive then some best else some directive
    | none => some directive

def directiveFor? (filter : Filter) (event : Event) : Option Directive :=
  filter.directives.foldl (better event) none

def passes (filter : Filter) (event : Event) : Bool :=
  match filter.directiveFor? event with
  | some directive => directive.passes event
  | none => false

/-! ## Reading -/

def items (text : String) : List (List Char) :=
  (text.toList.splitOn ',').filter (· ≠ [])

/-- The filter with some directives; without any, errors pass. -/
def ofDirectives (directives : List Directive) : Filter :=
  if directives.isEmpty then ⟨[⟨"", .everything, some .error⟩]⟩ else ⟨directives⟩

def parse? (text : String) : Option Filter := ofDirectives <$> (items text).mapM directive?

/-- The filter that a text stands for, without the directives that make no sense. -/
def parseLeniently (text : String) : Filter := ofDirectives ((items text).filterMap directive?)

/-- The filter for a run: the one that the environment names, unless that is blank or makes no
sense, and otherwise the level of the settings. -/
def choose (environment? : Option String) (level : String) : Filter :=
  let text := (environment?.filter (!Text.isBlankText ·)).getD level
  (parse? text).getD (parseLeniently level)

end Filter

end EntSchema.Log
