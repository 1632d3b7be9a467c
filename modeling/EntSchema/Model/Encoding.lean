import EntSchema.Json.Writer
import EntSchema.Model.Document

/-!
# Encoding documents

A document as a JSON value with every member of every record, in declared order.
-/

namespace EntSchema.Model

open Json (Value)

/-- The name that a kind is written with. -/
def Kind.name : Kind → String
  | .scalar => "scalar"
  | .enumeration => "enum"
  | .relation => "object"

def Default.toValue : Default → Value
  | .bool value => .bool value
  | .number value => .number value
  | .string value => .string value
  | .other value => value

/-- An optional value, `null` when there is none. -/
def optionValue {α : Type} (toValue : α → Value) : Option α → Value
  | none => .null
  | some value => toValue value

def Field.toValue (field : Field) : Value :=
  .object
    [("name", .string field.name), ("kind", .string field.kind.name),
      ("type", .string field.type), ("isRequired", .bool field.isRequired),
      ("default", optionValue Default.toValue field.default?),
      ("relationFromFields",
        optionValue (fun names => .array (names.map .string)) field.keyFields?)]

def EnumDef.toValue (definition : EnumDef) : Value :=
  .object
    [("name", .string definition.name),
      ("values", .array (definition.values.map fun name => .object [("name", .string name)]))]

def Entity.toValue (entity : Entity) : Value :=
  .object [("name", .string entity.name), ("fields", .array (entity.fields.map Field.toValue))]

def Document.toValue (document : Document) : Value :=
  .object
    [("enums", .array (document.enums.map EnumDef.toValue)),
      ("models", .array (document.entities.map Entity.toValue))]

/-- A document as compact JSON text. -/
def Document.toText (document : Document) : String :=
  document.toValue.compact

end EntSchema.Model
