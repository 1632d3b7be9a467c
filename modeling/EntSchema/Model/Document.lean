import EntSchema.Json.Value

/-!
# Model documents

A document lists enums, with the names of their values, and entities, with their fields.  A field
is a scalar, a choice from an enum or a relation to an entity; what its type names depends on which
of these it is.
-/

namespace EntSchema.Model

/-! ## Enums -/

/-- A named list of symbolic values. -/
structure EnumDef where
  name : String
  values : List String
  deriving DecidableEq, Repr

/-! ## Fields -/

/-- What a field holds. -/
inductive Kind where
  | scalar
  | enumeration
  | relation
  deriving DecidableEq, Repr

/-- The value that a field takes when none is given; `other` is anything without a literal, such as
a call that generates values. -/
inductive Default where
  | bool (value : Bool)
  | number (value : Json.Number)
  | string (value : String)
  | other (value : Json.Value)
  deriving DecidableEq, Repr

/-- A field of an entity.  Its type is the name of a primitive type, of an enum or of an entity,
depending on the kind. -/
structure Field where
  name : String
  kind : Kind
  type : String
  isRequired : Bool
  default? : Option Default
  keyFields? : Option (List String)
  deriving DecidableEq, Repr

namespace Field

/-- A required field without default and key fields. -/
def plain (name : String) (kind : Kind) (type : String) : Field :=
  ⟨name, kind, type, true, none, none⟩

def scalar (name type : String) : Field := plain name .scalar type

def enumeration (name enumName : String) : Field := plain name .enumeration enumName

def relation (name target : String) (keyFields : List String) : Field :=
  { plain name .relation target with keyFields? := some keyFields }

def optional (field : Field) : Field := { field with isRequired := false }

def withDefault (field : Field) (default : Default) : Field :=
  { field with default? := some default }

/-- The key fields that the document lists for a field, whatever its kind. -/
def keyFields (field : Field) : List String := field.keyFields?.getD []

end Field

/-! ## Entities and documents -/

structure Entity where
  name : String
  fields : List Field
  deriving DecidableEq, Repr

/-- The enums and entities of a data model, in order. -/
structure Document where
  enums : List EnumDef
  entities : List Entity
  deriving DecidableEq, Repr

end EntSchema.Model
