import EntSchema.Settings.Starter

/-!
# The command line

Arguments are read from left to right.  Options stand before or behind the name of a command and
belong to what they stand behind, but for the level of the log, which may stand at both places.  A
value follows its option as the next argument or in the same one.  The first thing that is wrong
makes the whole command line wrong.
-/

namespace EntSchema

/-- What the program is asked to do. -/
inductive Invocation where
  | generate (settingsPath? : Option Path) (overrides : Overrides) (dryRun : Bool)
  | check (settingsPath? : Option Path) (overrides : Overrides)
  | init (options : StarterOptions) (logLevel? : Option String)
  | version
  | help
  deriving DecidableEq, Repr

namespace CommandLine

/-! ## Options -/

/-- What an option wants for a value; a path is not empty. -/
inductive ValueKind where
  | nothing
  | text
  | path
  deriving DecidableEq, Repr

/-- An option of a command, by a name behind two dashes or a letter behind one. -/
structure OptionSpec where
  name : String
  letter? : Option Char
  kind : ValueKind
  deriving DecidableEq, Repr

/-- The options that ask for something else than a run. -/
inductive Question where
  | version
  | help
  deriving DecidableEq, Repr

/-- The options at one place of a command line, and the questions that may be asked there. -/
structure Grammar where
  options : List OptionSpec
  questions : List (String × Char × Question)

def logLevelOption : OptionSpec := ⟨"log-level", none, .text⟩

def configOption : OptionSpec := ⟨"config", some 'c', .path⟩

def schemaOption : OptionSpec := ⟨"schema", some 's', .path⟩

def outputOption : OptionSpec := ⟨"output", some 'o', .path⟩

def packageOption : OptionSpec := ⟨"package", some 'p', .text⟩

def goGenerateOption : OptionSpec := ⟨"go-generate", none, .nothing⟩

def dryRunOption : OptionSpec := ⟨"dry-run", none, .nothing⟩

def forceOption : OptionSpec := ⟨"force", none, .nothing⟩

def helpQuestion : String × Char × Question := ("help", 'h', .help)

def mainGrammar : Grammar := ⟨[logLevelOption], [helpQuestion, ("version", 'V', .version)]⟩

def generateGrammar : Grammar :=
  ⟨[configOption, schemaOption, outputOption, packageOption, goGenerateOption, dryRunOption,
    logLevelOption], [helpQuestion]⟩

def checkGrammar : Grammar := ⟨[configOption, schemaOption, logLevelOption], [helpQuestion]⟩

def initGrammar : Grammar :=
  ⟨[schemaOption, outputOption, forceOption, logLevelOption], [helpQuestion]⟩

/-! ## Single arguments -/

/-- What an argument is.  A divider is two dashes alone, behind which no options follow; a word is
anything that is no option, a lone dash as well. -/
inductive Argument where
  | divider
  | long (name : String) (value? : Option String)
  | short (letter : Char) (rest : String)
  | word (text : String)
  deriving DecidableEq, Repr

/-- The text before the first equals sign, and the text behind it if there is one. -/
def cutAtEquals (text : List Char) : String × Option String :=
  let name := text.takeWhile (· ≠ '=')
  (String.ofList name,
    match text.drop name.length with
    | _ :: value => some (String.ofList value)
    | [] => none)

def Argument.ofText (text : String) : Argument :=
  match text.toList with
  | ['-', '-'] => .divider
  | '-' :: '-' :: rest => let (name, value?) := cutAtEquals rest; .long name value?
  | '-' :: letter :: rest => .short letter (String.ofList rest)
  | _ => .word text

def attachedValue (rest : String) : Option String :=
  match rest.toList with
  | [] => none
  | '=' :: value => some (String.ofList value)
  | _ => some rest

/-! ## Runs of options -/

/-- Options as they were given, each once, with their values; an option without a value has an empty
one. -/
abbrev Given := List (String × String)

/-- What comes of reading options: those up to a word, which is the first of the rest, or all of
them, or a question, which is answered whatever follows. -/
inductive Outcome where
  | word (given : Given) (word : String) (rest : List String)
  | done (given : Given)
  | question (question : Question)
  | wrong
  deriving DecidableEq, Repr

/-- The options with one more, which must not be there yet and has to have a value of its kind. -/
def give (option : OptionSpec) (value : String) (given : Given) : Option Given :=
  if given.any (·.1 == option.name) || (option.kind = .path && value.isEmpty) then none
  else some (given ++ [(option.name, value)])

inductive Request where
  | question (question : Question)
  | option (option : OptionSpec) (value? : Option String)
  deriving DecidableEq, Repr

def Grammar.ofLong? (grammar : Grammar) (name : String) (value? : Option String) :
    Option Request :=
  match grammar.questions.find? (·.1 == name), value? with
  | some (_, _, question), none => some (.question question)
  | some _, some _ => none
  | none, _ => (grammar.options.find? (·.name == name)).map (.option · value?)

def Grammar.ofShort? (grammar : Grammar) (letter : Char) (rest : String) : Option Request :=
  match grammar.questions.find? (·.2.1 == letter) with
  | some (_, _, question) => some (.question question)
  | none =>
    (grammar.options.find? (·.letter? == some letter)).map (.option · (attachedValue rest))

/-- What an argument asks; none for a word, the divider and what is unknown. -/
def Grammar.request? (grammar : Grammar) : Argument → Option Request
  | .long name value? => grammar.ofLong? name value?
  | .short letter rest => grammar.ofShort? letter rest
  | .divider | .word _ => none

/-- What becomes of an option with the value in its argument: it is given, or it waits for the next
argument. -/
inductive Receipt where
  | given (given : Given)
  | waiting (option : OptionSpec)
  deriving DecidableEq, Repr

def receive (given : Given) (option : OptionSpec) (value? : Option String) : Option Receipt :=
  match option.kind, value? with
  | .nothing, none => (give option "" given).map .given
  | .nothing, some _ => none
  | _, some value => (give option value given).map .given
  | _, none => some (.waiting option)

/-- Reads options up to the first word; an option that waits takes the next argument for its
value. -/
def readOptions (grammar : Grammar) : Option OptionSpec → Given → List String → Outcome
  | none, given, [] => .done given
  | some _, _, [] => .wrong
  | some option, given, text :: rest =>
    match Argument.ofText text with
    | .word value =>
      match give option value given with
      | some given => readOptions grammar none given rest
      | none => .wrong
    | _ => .wrong
  | none, given, text :: rest =>
    match Argument.ofText text with
    | .divider => if rest.isEmpty then .done given else .wrong
    | .word word => .word given word rest
    | argument =>
      match grammar.request? argument with
      | none => .wrong
      | some (.question question) => .question question
      | some (.option option value?) =>
        match receive given option value? with
        | some (.given given) => readOptions grammar none given rest
        | some (.waiting option) => readOptions grammar (some option) given rest
        | none => .wrong

/-! ## Commands -/

def textOf (option : OptionSpec) (given : Given) : Option String :=
  Entries.get? option.name given

def pathOf (option : OptionSpec) (given : Given) : Option Path :=
  (textOf option given).map Path.mk

def wasGiven (option : OptionSpec) (given : Given) : Bool :=
  (textOf option given).isSome

def overridesOf (given : Given) : Overrides :=
  ⟨pathOf schemaOption given, pathOf outputOption given, textOf packageOption given,
    textOf logLevelOption given, wasGiven goGenerateOption given⟩

/-- A command: the options that may stand behind its name, and what they ask for. -/
structure CommandSpec where
  grammar : Grammar
  invocation : Given → Invocation

def generateCommand : CommandSpec :=
  ⟨generateGrammar, fun given =>
    .generate (pathOf configOption given) (overridesOf given) (wasGiven dryRunOption given)⟩

def checkCommand : CommandSpec :=
  ⟨checkGrammar, fun given => .check (pathOf configOption given) (overridesOf given)⟩

def initCommand : CommandSpec :=
  ⟨initGrammar, fun given =>
    .init
      ⟨(pathOf schemaOption given).getD StarterOptions.standard.schema,
        (pathOf outputOption given).getD StarterOptions.standard.output,
        wasGiven forceOption given⟩
      (textOf logLevelOption given)⟩

def commands : List (String × CommandSpec) :=
  [("generate", generateCommand), ("check", checkCommand), ("init", initCommand)]

def helpName : String := "help"

def Question.invocation : Question → Invocation
  | .version => .version
  | .help => .help

/-- What a command is asked to do with the arguments behind its name; `before` are the options in
front of the name, which count where those behind it say nothing. -/
def parseCommand (command : CommandSpec) (before : Given) (arguments : List String) :
    Option Invocation :=
  match readOptions command.grammar none [] arguments with
  | .done given => some (command.invocation (given ++ before))
  | .question question => some question.invocation
  | .word .. | .wrong => none

def parseHelp (arguments : List String) : Option Invocation :=
  match arguments with
  | [] => some .help
  | [name] =>
    if name == helpName || (commands.map Prod.fst).contains name then some .help else none
  | _ => none

/-- What the arguments of a command line ask for; none when they make no sense.  Without a command
files are generated. -/
def parse (arguments : List String) : Option Invocation :=
  match readOptions mainGrammar none [] arguments with
  | .wrong => none
  | .question question => some question.invocation
  | .done given => some (generateCommand.invocation given)
  | .word before name rest =>
    if name = helpName then parseHelp rest
    else do parseCommand (← Entries.get? name commands) before rest

end CommandLine

end EntSchema
