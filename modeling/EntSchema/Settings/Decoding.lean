import EntSchema.Settings.Basic
import EntSchema.Toml.Range
import EntSchema.Toml.Reader

/-!
# Settings from TOML

A text gives settings or it does not; what is wrong with one that does not is not told.  A setting
that the text leaves out has its standard value, and names that are no settings are passed over.
-/

namespace EntSchema

open Toml (Value Table)

namespace Settings

/-! ## Single values -/

def text? : Value → Option String
  | .string text => some text
  | _ => none

def path? (value : Value) : Option Path := (text? value).map Path.mk

def boolean? : Value → Option Bool
  | .boolean value => some value
  | _ => none

/-- The name of the one entry that a date or time has when it stands where a table is wanted. -/
def datetimeKey : String := "$__toml_private_datetime"

def entries? : Value → Option Table
  | .table _ entries => some entries
  | .datetime moment => some [(datetimeKey, .string moment.text)]
  | _ => none

/-- What a table says under a name, or the standard when it says nothing. -/
def setting? {α : Type} (decode : Value → Option α) (standard : α) (name : String)
    (table : Table) : Option α :=
  match Entries.get? name table with
  | some value => decode value
  | none => some standard

/-! ## Names that are no settings -/

/-- The integers that can be passed over. -/
def passedOver : Toml.IntegerRange := .ofBits 128

/-- The integers that may stand in the override of a type. -/
def inOverride : Toml.IntegerRange := .ofBits 64

/-- Whether everything in a table beside the settings of those names can be passed over. -/
def othersFit (names : List String) (table : Table) : Bool :=
  table.all fun (name, value) => names.contains name || value.fits passedOver

/-! ## Parts of the settings -/

/-- Where the files go: a table, or the values of its entries in order, the last of which may be
left out. -/
def output? : Value → Option OutputSettings
  | .array _ [] => some .standard
  | .array _ [directory] => do return ⟨← path? directory, OutputSettings.standard.package⟩
  | .array _ (directory :: package :: _) => do return ⟨← path? directory, ← text? package⟩
  | value => do
    let table ← entries? value
    if othersFit ["dir", "package"] table then
      return ⟨← setting? path? OutputSettings.standard.directory "dir" table,
        ← setting? text? OutputSettings.standard.package "package" table⟩
    else none

/-- The override of a type: the name of a builder, or a table with that name and, if the builder
needs one, a further argument. -/
def override? (value : Value) : Option TypeOverride :=
  match value with
  | .string target => some (.builder target)
  | .table _ entries => do
    if value.fits inOverride then
      let target ← text? (← Entries.get? "target" entries)
      let literal ← setting? (fun value => (text? value).map some) none "literal" entries
      return .detailed target literal
    else none
  | _ => none

def types? (value : Value) : Option (List (String × TypeOverride)) := do
  (← entries? value).foldlM (fun types (source, value) => do
    return Entries.putSorted compare source (← override? value) types) []

/-! ## Settings -/

def names : List String := ["schema", "log_level", "go_generate", "output", "types"]

def ofTable? (table : Table) : Option Settings :=
  if othersFit names table then do
    return {
      schema := ← setting? path? standard.schema "schema" table
      logLevel := ← setting? text? standard.logLevel "log_level" table
      goGenerate := ← setting? boolean? standard.goGenerate "go_generate" table
      output := ← setting? output? standard.output "output" table
      types := ← setting? types? standard.types "types" table }
  else none

def parse? (text : String) : Option Settings := do
  ofTable? (← Toml.parse text)

end Settings

end EntSchema
