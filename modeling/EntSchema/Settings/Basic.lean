import EntSchema.Generation

/-!
# Settings

What can be set for a run: the document to read, the level of the log, whether `go generate`
follows, where the files go, and mappings of types beside the built-in ones.  Every setting has a
standard value, and what is said on the command line wins over what the settings say.
-/

namespace EntSchema

/-! ## The settings -/

structure OutputSettings where
  directory : Path
  package : String
  deriving DecidableEq, Repr

/-- What a type is to be declared with: a field builder alone, or one with a further argument. -/
inductive TypeOverride where
  | builder (target : String)
  | detailed (target : String) (literal? : Option String)
  deriving DecidableEq, Repr

/-- The settings of a run, with the overrides in the order of the types. -/
structure Settings where
  schema : Path
  logLevel : String
  goGenerate : Bool
  output : OutputSettings
  types : List (String × TypeOverride)
  deriving DecidableEq, Repr

def OutputSettings.standard : OutputSettings := ⟨⟨"ent/schema"⟩, "schema"⟩

/-- The settings when nothing is said. -/
def Settings.standard : Settings := ⟨⟨"prisma/dmmf.json"⟩, "info", false, .standard, []⟩

/-! ## Overrides -/

/-- The settings that the command line gives. -/
structure Overrides where
  schema? : Option Path
  output? : Option Path
  package? : Option String
  logLevel? : Option String
  goGenerate : Bool
  deriving DecidableEq, Repr

def Overrides.none : Overrides := ⟨.none, .none, .none, .none, false⟩

/-- The settings with overrides in their place; `go generate` is run when either asks for it. -/
def Settings.apply (settings : Settings) (overrides : Overrides) : Settings :=
  { settings with
    schema := overrides.schema?.getD settings.schema
    logLevel := overrides.logLevel?.getD settings.logLevel
    goGenerate := settings.goGenerate || overrides.goGenerate
    output :=
      ⟨overrides.output?.getD settings.output.directory,
        overrides.package?.getD settings.output.package⟩ }

@[simp] theorem Settings.apply_none (settings : Settings) : settings.apply .none = settings := by
  simp [Settings.apply, Overrides.none]

/-! ## Use in a generation -/

def TypeOverride.target : TypeOverride → String
  | .builder target => target
  | .detailed target _ => target

def TypeOverride.mapping : TypeOverride → TypeMapping
  | .builder target => ⟨target, none⟩
  | .detailed target literal? => ⟨target, literal?⟩

namespace Settings

/-- The built-in mappings with the overrides in their place. -/
def typeTable (settings : Settings) : TypeTable :=
  settings.types.foldl (fun table (source, override) => table.insert source override.mapping)
    .builtin

def generationOptions (settings : Settings) : GenerationOptions :=
  { GenerationOptions.standard with
    outputDirectory := settings.output.directory
    package := settings.output.package
    types := settings.typeTable }

end Settings

end EntSchema
