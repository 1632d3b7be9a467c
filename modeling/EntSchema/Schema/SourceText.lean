import EntSchema.Schema.Building

/-!
# Source text of a schema

The Go file of an entity, line by line: the package, the imports that the declarations need, the
type, and one accessor each for the declared fields and edges.  Every declaration takes one line.
-/

namespace EntSchema

/-! ## Parts of the file -/

/-- The imports: a package of builders only where something is built with it. -/
def importLines (schema : EntitySchema) : List String :=
  ["import (", "\t\"entgo.io/ent\""] ++
    (if schema.edges.isEmpty then [] else ["\t\"entgo.io/ent/schema/edge\""]) ++
    (if schema.fields.isEmpty then [] else ["\t\"entgo.io/ent/schema/field\""]) ++ [")"]

/-- The body of an accessor: nothing, or a list of fragments of a type. -/
def returnLines (type : String) (fragments : List String) : List String :=
  if fragments.isEmpty then ["\treturn nil"]
  else
    ("\treturn []" ++ type ++ r"{") ::
      (fragments.map fun fragment => "\t\t" ++ fragment ++ ",") ++ ["\t" ++ r"}"]

/-- An accessor with its comment; `plural` names what it gives and `type` its items. -/
def accessorLines (name plural type : String) (fragments : List String) : List String :=
  ["// " ++ plural ++ " of " ++ name ++ ".",
    "func (" ++ name ++ ") " ++ plural ++ "() []" ++ type ++ r" {"] ++
    returnLines type fragments ++ [r"}"]

def typeLines (name : String) : List String :=
  ["// " ++ name ++ " holds the schema definition for the " ++ name ++ " entity.",
    "type " ++ name ++ r" struct {", "\tent.Schema", r"}"]

/-! ## The file -/

def sourceLines (package : String) (schema : EntitySchema) : List String :=
  ["package " ++ package, ""] ++ importLines schema ++ [""] ++ typeLines schema.name ++ [""] ++
    accessorLines schema.name "Fields" "ent.Field" (schema.fields.map FieldDecl.text) ++ [""] ++
    accessorLines schema.name "Edges" "ent.Edge" (schema.edges.map EdgeDecl.text)

/-- Lines as text, each with its line feed. -/
def textOfLines (lines : List String) : String :=
  String.join (lines.map (· ++ "\n"))

@[simp] theorem textOfLines_nil : textOfLines [] = "" := rfl

theorem textOfLines_cons (line : String) (lines : List String) :
    textOfLines (line :: lines) = line ++ "\n" ++ textOfLines lines := by
  simp [textOfLines, String.append_assoc]

theorem toList_textOfLines_cons (line : String) (lines : List String) :
    (textOfLines (line :: lines)).toList = line.toList ++ '\n' :: (textOfLines lines).toList := by
  simp [textOfLines_cons]

/-- The text of the file of a schema in a package. -/
def sourceText (package : String) (schema : EntitySchema) : String :=
  textOfLines (sourceLines package schema)

end EntSchema
