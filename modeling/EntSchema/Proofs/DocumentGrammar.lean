import EntSchema.Model.Document
import Mathlib.Data.List.Forall2

/-!
# Which values encode which documents

The grammar of documents, as relations between JSON values and what they stand for.  No relation
says how a value is read or what is wrong with one that encodes nothing.

A record is an object that has its members under their keys, whatever else it has, or a list that
has them in their declared order and may stop after the last one that is needed.  Both are one
thing seen through `Parts`: a way to ask for a member.
-/

namespace EntSchema.Model

open Json (Value member?)

/-- Which values encode which things. -/
abbrev Encoding (α : Type) := Value → α → Prop

variable {α : Type}

/-! ## Plain values -/

inductive EncodesText : Encoding String
  | text (value : String) : EncodesText (.string value) value

inductive EncodesBool : Encoding Bool
  | bool (value : Bool) : EncodesBool (.bool value) value

/-- A list encodes its items one by one. -/
inductive EncodesList (Encodes : Encoding α) : Encoding (List α)
  | list {items : List Value} {values : List α} (hitems : List.Forall₂ Encodes items values) :
    EncodesList Encodes (.array items) values

/-! ## Members of records -/

/-- The members of a record, each asked for by its key and its place. -/
abbrev Parts := String → Nat → Option Value

/-- A member that has to be there. -/
inductive Needed (Encodes : Encoding α) : Option Value → α → Prop
  | given {value : Value} {a : α} (hvalue : Encodes value a) : Needed Encodes (some value) a

/-- A member that may be left out. -/
inductive Defaulted (Encodes : Encoding α) (default : α) : Option Value → α → Prop
  | absent : Defaulted Encodes default none default
  | given {value : Value} {a : α} (hvalue : Encodes value a) :
    Defaulted Encodes default (some value) a

/-- A record of at most `size` members, of which `Has` says what they have to be. -/
inductive EncodesRecord (size : Nat) (Has : Parts → α → Prop) : Encoding α
  | object {members : List (String × Value)} {record : α}
    (hparts : Has (fun key _ => member? members key) record) :
    EncodesRecord size Has (.object members) record
  | list {items : List Value} {record : α} (hsize : items.length ≤ size)
    (hparts : Has (fun _ place => items[place]?) record) :
    EncodesRecord size Has (.array items) record

/-! ## Enums -/

structure EnumValueParts (part : Parts) (name : String) : Prop where
  name : Needed EncodesText (part "name" 0) name

def EncodesEnumValue : Encoding String := EncodesRecord 1 EnumValueParts

structure EnumParts (part : Parts) (definition : EnumDef) : Prop where
  name : Needed EncodesText (part "name" 0) definition.name
  values : Defaulted (EncodesList EncodesEnumValue) [] (part "values" 1) definition.values

def EncodesEnum : Encoding EnumDef := EncodesRecord 2 EnumParts

/-! ## Fields -/

/-- The names of the kinds. -/
inductive KindNamed : String → Kind → Prop
  | scalar : KindNamed "scalar" .scalar
  | unsupported : KindNamed "unsupported" .scalar
  | enumeration : KindNamed "enum" .enumeration
  | object : KindNamed "object" .relation
  | relation : KindNamed "relation" .relation

/-- A kind is its name, alone or as the one key of an object. -/
inductive EncodesKind : Encoding Kind
  | name {name : String} {kind : Kind} (hname : KindNamed name kind) :
    EncodesKind (.string name) kind
  | object {name : String} {kind : Kind} (hname : KindNamed name kind) :
    EncodesKind (.object [(name, .null)]) kind

/-- Every value is a default; what has no literal is kept as it is. -/
inductive EncodesDefault : Encoding (Option Default)
  | null : EncodesDefault .null none
  | bool (value : Bool) : EncodesDefault (.bool value) (some (.bool value))
  | number (value : Json.Number) : EncodesDefault (.number value) (some (.number value))
  | string (value : String) : EncodesDefault (.string value) (some (.string value))
  | array (items : List Value) : EncodesDefault (.array items) (some (.other (.array items)))
  | object (members : List (String × Value)) :
    EncodesDefault (.object members) (some (.other (.object members)))

inductive EncodesKeyFields : Encoding (Option (List String))
  | null : EncodesKeyFields .null none
  | list {value : Value} {names : List String} (hnames : EncodesList EncodesText value names) :
    EncodesKeyFields value (some names)

structure FieldParts (part : Parts) (field : Field) : Prop where
  name : Needed EncodesText (part "name" 0) field.name
  kind : Needed EncodesKind (part "kind" 1) field.kind
  type : Needed EncodesText (part "type" 2) field.type
  isRequired : Defaulted EncodesBool true (part "isRequired" 3) field.isRequired
  default? : Defaulted EncodesDefault none (part "default" 4) field.default?
  keyFields? : Defaulted EncodesKeyFields none (part "relationFromFields" 5) field.keyFields?

def EncodesField : Encoding Field := EncodesRecord 6 FieldParts

/-! ## Entities and documents -/

structure EntityParts (part : Parts) (entity : Entity) : Prop where
  name : Needed EncodesText (part "name" 0) entity.name
  fields : Defaulted (EncodesList EncodesField) [] (part "fields" 1) entity.fields

def EncodesEntity : Encoding Entity := EncodesRecord 2 EntityParts

/-- A document may leave out its enums but not its entities. -/
structure DocumentParts (part : Parts) (document : Document) : Prop where
  enums : Defaulted (EncodesList EncodesEnum) [] (part "enums" 0) document.enums
  entities : Needed (EncodesList EncodesEntity) (part "models" 1) document.entities

def EncodesDocument : Encoding Document := EncodesRecord 2 DocumentParts

/-- A value holds a data model: an object with the key `datamodel` holds what is there, and any
other value is itself the data model. -/
inductive HoldsDatamodel : Value → Value → Prop
  | wrapped {members : List (String × Value)} {datamodel : Value}
    (hmember : member? members "datamodel" = some datamodel) :
    HoldsDatamodel (.object members) datamodel
  | bare {value : Value}
    (hnone : ∀ members, value = .object members → member? members "datamodel" = none) :
    HoldsDatamodel value value

end EntSchema.Model
