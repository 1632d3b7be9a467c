import EntSchema.Command.Steps

/-!
# The check command

Loads the document and generates its files without writing them, and tells what was found.
-/

namespace EntSchema.Command

variable {m : Type → Type} [Monad m] [Host m]

def findings (settings : Settings) (document : Model.Document) (files : List GeneratedFile) :
    List String :=
  ["✓ Schema: " ++ settings.schema.text,
    "✓ Output: " ++ settings.output.directory.text ++
      " (package " ++ settings.output.package ++ ")",
    "✓ Enums: " ++ toString document.enums.length,
    "✓ Models: " ++ toString document.entities.length,
    "✓ Type overrides: " ++ toString settings.types.length,
    "✓ Rendered files: " ++ toString files.length,
    "",
    "Configuration is valid!"]

/-- Checks settings, which come from the named file or else from the usual one, and their
document. -/
def check (path? : Option Path) (settings : Settings) : Command m Unit := do
  say ("Checking configuration: " ++ (path?.getD settingsFile).text)
  let document ← loadDocument settings.schema
  let files ← render settings document
  (findings settings document files).forM say

end EntSchema.Command
