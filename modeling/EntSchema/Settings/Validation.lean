import EntSchema.Go.Identifier
import EntSchema.Settings.Basic

/-!
# Validation of settings

Settings are judged as a whole, after the overrides of the command line.  Of several faults the
first one counts: the directory, the package, the level of the log, then the overrides of types in
their order.
-/

namespace EntSchema

/-- What is wrong with settings. -/
inductive SettingsFault where
  | emptyDirectory
  | invalidPackage (name : String)
  | invalidLogLevel (name : String)
  | emptyTypeSource
  | emptyTypeTarget (source : String)
  deriving DecidableEq, Repr

def SettingsFault.message : SettingsFault → String
  | .emptyDirectory => "Output directory cannot be empty"
  | .invalidPackage name => "Output package '" ++ name ++ "' is not a valid Go package name"
  | .invalidLogLevel name =>
    "Invalid log level '" ++ name ++ "' (expected one of: " ++
      ", ".intercalate (Log.Level.all.map Log.Level.name) ++ ")"
  | .emptyTypeSource => "Type override source cannot be empty"
  | .emptyTypeTarget source => "Type override target cannot be empty for '" ++ source ++ "'"

def TypeOverride.fault? (source : String) (override : TypeOverride) : Option SettingsFault :=
  if source.isEmpty then some .emptyTypeSource
  else if override.target.isEmpty then some (.emptyTypeTarget source)
  else none

namespace Settings

/-- The first thing that is wrong with settings. -/
def fault? (settings : Settings) : Option SettingsFault :=
  if settings.output.directory.text.isEmpty then some .emptyDirectory
  else if !Go.isIdentifier settings.output.package then
    some (.invalidPackage settings.output.package)
  else if !(Log.Level.all.map Log.Level.name).contains settings.logLevel then
    some (.invalidLogLevel settings.logLevel)
  else settings.types.findSome? fun (source, override) => override.fault? source

/-- The settings themselves, if nothing is wrong with them. -/
def validate (settings : Settings) : Except SettingsFault Settings :=
  match settings.fault? with
  | some fault => .error fault
  | none => .ok settings

end Settings

end EntSchema
