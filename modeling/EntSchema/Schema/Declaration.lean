import EntSchema.Go.StringLiteral
import EntSchema.Json.Writer
import EntSchema.Model.Document

/-!
# Declarations

What an ent schema declares for an entity: fields, which are typed or choices from an enum, and
edges to other entities.  Each declaration has one fragment of Go text.
-/

namespace EntSchema

open Model (Field Default)

/-! ## Literals -/

/-- A default that Go can write as a literal. -/
inductive Literal where
  | bool (value : Bool)
  | number (text : String)
  | string (value : String)
  deriving DecidableEq, Repr

/-- The literal of a default; none for a default that only a call can make. -/
def Literal.ofDefault? : Default → Option Literal
  | .bool value => some (.bool value)
  | .number value => some (.number value.text)
  | .string value => some (.string value)
  | .other _ => none

def Literal.text : Literal → String
  | .bool true => "true"
  | .bool false => "false"
  | .number text => text
  | .string value => Go.quote value

/-! ## Modifiers -/

/-- What is chained behind the builder of a field. -/
inductive Modifier where
  | optional
  | default (value : Literal)
  deriving DecidableEq, Repr

def Modifier.text : Modifier → String
  | .optional => ".Optional()"
  | .default value => ".Default(" ++ value.text ++ ")"

def defaultLiteral? (field : Field) : Option Literal :=
  field.default?.bind Literal.ofDefault?

/-- The modifiers of a field: first that it is optional, then its default. -/
def modifiersOf (field : Field) : List Modifier :=
  (if field.isRequired then [] else [.optional]) ++
    (defaultLiteral? field).toList.map .default

/-! ## Fields -/

/-- A declared field: one made by the builder of a type, with a further argument if the builder
needs one, or one with the values of an enum. -/
inductive FieldDecl where
  | typed (builder name : String) (literal? : Option String) (modifiers : List Modifier)
  | enumeration (name : String) (values : List String) (modifiers : List Modifier)
  deriving DecidableEq, Repr

def FieldDecl.name : FieldDecl → String
  | .typed _ name _ _ => name
  | .enumeration name _ _ => name

def FieldDecl.modifiers : FieldDecl → List Modifier
  | .typed _ _ _ modifiers => modifiers
  | .enumeration _ _ modifiers => modifiers

/-- The call of the builder of a declared field. -/
def FieldDecl.callText : FieldDecl → String
  | .typed builder name literal? _ =>
    let argument := match literal? with
      | some literal => ", " ++ literal
      | none => ""
    "field." ++ builder ++ "(" ++ Go.quote name ++ argument ++ ")"
  | .enumeration name values _ =>
    "field.Enum(" ++ Go.quote name ++ ").Values(" ++ ",".intercalate (values.map Go.quote) ++ ")"

def FieldDecl.text (declaration : FieldDecl) : String :=
  declaration.callText ++ String.join (declaration.modifiers.map Modifier.text)

/-! ## Edges -/

/-- A declared edge, always from this entity to another. -/
structure EdgeDecl where
  name : String
  target : String
  deriving DecidableEq, Repr

def EdgeDecl.text (edge : EdgeDecl) : String :=
  "edge.To(" ++ Go.quote edge.name ++ ", " ++ edge.target ++ ".Type)"

def EdgeDecl.ofField (field : Field) : EdgeDecl := ⟨field.name, field.type⟩

end EntSchema
