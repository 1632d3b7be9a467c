import EntSchema.Json.Reader
import EntSchema.Model.DecodingError
import EntSchema.Model.Document

/-!
# Decoding documents

Every record of a document is an object, or a list of its members in their declared order.  An
object may hold other members, which do not count; a list may leave out members at its end that
have a default.  The members of an object are looked at in the order of their keys, so of several
faults the one under the least key is reported; that a needed member is missing is noticed only
after all others.
-/

namespace EntSchema.Model

open Json (Value member?)

/-- What a value decodes to, or why it does not. -/
abbrev Decoder (α : Type) := Value → Except ShapeError α

/-! ## Plain values -/

def decodeText : Decoder String
  | .string value => .ok value
  | found => .error (.wrongType found .text)

def decodeBool : Decoder Bool
  | .bool value => .ok value
  | found => .error (.wrongType found .boolean)

def decodeList {α : Type} (decode : Decoder α) : Decoder (List α)
  | .array items => items.mapM decode
  | found => .error (.wrongType found .sequence)

def decodeOption {α : Type} (decode : Decoder α) : Decoder (Option α)
  | .null => .ok none
  | value => some <$> decode value

/-! ## Members of records -/

/-- The decoded member of an object, if the object has it. -/
def ofMember {α : Type} (members : List (String × Value)) (key : String) (decode : Decoder α) :
    Except ShapeError (Option α) :=
  (member? members key).mapM decode

def need {α : Type} (key : String) : Option α → Except ShapeError α
  | some value => .ok value
  | none => .error (.missingMember key)

/-- The record that a list is read as: its name and how many members it has. -/
structure Shape where
  name : String
  size : Nat

/-- The decoded item of a list, if the list reaches it. -/
def ofItem {α : Type} (items : List Value) (place : Nat) (decode : Decoder α) :
    Except ShapeError (Option α) :=
  (items[place]?).mapM decode

def needItem {α : Type} (shape : Shape) (items : List Value) (place : Nat) (decode : Decoder α) :
    Except ShapeError α :=
  match items[place]? with
  | some value => decode value
  | none => .error (.tooShort place shape.name shape.size)

/-- A list that holds no more than the members of a record. -/
def endItems (shape : Shape) (items : List Value) : Except ShapeError Unit :=
  if shape.size < items.length then .error (.tooLong items.length) else .ok ()

/-- Reads a record from an object or from a list. -/
def decodeRecord {α : Type} (shape : Shape)
    (ofMembers : List (String × Value) → Except ShapeError α)
    (ofItems : List Value → Except ShapeError α) : Decoder α
  | .object members => ofMembers members
  | .array items => do
    let record ← ofItems items
    endItems shape items
    return record
  | found => .error (.wrongType found (.record shape.name))

/-! ## Enums -/

def enumValueShape : Shape := ⟨"EnumValue", 1⟩

def decodeEnumValue : Decoder String :=
  decodeRecord enumValueShape
    (fun members => do need "name" (← ofMember members "name" decodeText))
    (fun items => needItem enumValueShape items 0 decodeText)

def enumShape : Shape := ⟨"Enum", 2⟩

def decodeEnum : Decoder EnumDef :=
  decodeRecord enumShape
    (fun members => do
      let name? ← ofMember members "name" decodeText
      let values? ← ofMember members "values" (decodeList decodeEnumValue)
      let name ← need "name" name?
      return ⟨name, values?.getD []⟩)
    (fun items => do
      let name ← needItem enumShape items 0 decodeText
      let values? ← ofItem items 1 (decodeList decodeEnumValue)
      return ⟨name, values?.getD []⟩)

/-! ## Fields -/

def Kind.ofName? : String → Option Kind
  | "scalar" => some .scalar
  | "unsupported" => some .scalar
  | "enum" => some .enumeration
  | "object" => some .relation
  | "relation" => some .relation
  | _ => none

def decodeKindName (name : String) : Except ShapeError Kind :=
  match Kind.ofName? name with
  | some kind => .ok kind
  | none => .error (.unknownKind name)

/-- Reads a kind: its name, or an object with that name as its only key and `null` beside it. -/
def decodeKind : Decoder Kind
  | .string name => decodeKindName name
  | .object [(name, value)] => do
    let kind ← decodeKindName name
    match value with
    | .null => return kind
    | found => .error (.wrongType found .unit)
  | .object _ => .error .kindNotSingle
  | found => .error (.wrongType found .kind)

/-- Reads a default, which any value but `null` is. -/
def Default.ofValue? : Value → Option Default
  | .null => none
  | .bool value => some (.bool value)
  | .number value => some (.number value)
  | .string value => some (.string value)
  | value => some (.other value)

def decodeDefault : Decoder (Option Default) := fun value => .ok (Default.ofValue? value)

def decodeKeyFields : Decoder (Option (List String)) := decodeOption (decodeList decodeText)

def fieldShape : Shape := ⟨"Field", 6⟩

def decodeField : Decoder Field :=
  decodeRecord fieldShape
    (fun members => do
      let default? ← ofMember members "default" decodeDefault
      let isRequired? ← ofMember members "isRequired" decodeBool
      let kind? ← ofMember members "kind" decodeKind
      let name? ← ofMember members "name" decodeText
      let keyFields? ← ofMember members "relationFromFields" decodeKeyFields
      let type? ← ofMember members "type" decodeText
      let name ← need "name" name?
      let kind ← need "kind" kind?
      let type ← need "type" type?
      return ⟨name, kind, type, isRequired?.getD true, default?.getD none, keyFields?.getD none⟩)
    (fun items => do
      let name ← needItem fieldShape items 0 decodeText
      let kind ← needItem fieldShape items 1 decodeKind
      let type ← needItem fieldShape items 2 decodeText
      let isRequired? ← ofItem items 3 decodeBool
      let default? ← ofItem items 4 decodeDefault
      let keyFields? ← ofItem items 5 decodeKeyFields
      return ⟨name, kind, type, isRequired?.getD true, default?.getD none, keyFields?.getD none⟩)

/-! ## Entities and documents -/

def entityShape : Shape := ⟨"Entity", 2⟩

def decodeEntity : Decoder Entity :=
  decodeRecord entityShape
    (fun members => do
      let fields? ← ofMember members "fields" (decodeList decodeField)
      let name? ← ofMember members "name" decodeText
      let name ← need "name" name?
      return ⟨name, fields?.getD []⟩)
    (fun items => do
      let name ← needItem entityShape items 0 decodeText
      let fields? ← ofItem items 1 (decodeList decodeField)
      return ⟨name, fields?.getD []⟩)

/-- The shape of a data model, which has to say what its entities are. -/
def datamodelShape : Shape := ⟨"Datamodel", 2⟩

/-- Reads a document that has to say what its entities are. -/
def Document.decode : Decoder Document :=
  decodeRecord datamodelShape
    (fun members => do
      let enums? ← ofMember members "enums" (decodeList decodeEnum)
      let entities? ← ofMember members "models" (decodeList decodeEntity)
      let entities ← need "models" entities?
      return ⟨enums?.getD [], entities⟩)
    (fun items => do
      let enums? ← ofItem items 0 (decodeList decodeEnum)
      let entities ← needItem datamodelShape items 1 (decodeList decodeEntity)
      return ⟨enums?.getD [], entities⟩)

def documentShape : Shape := ⟨"Document", 2⟩

/-- Reads a document that may leave out its entities. -/
def Document.decodeLenient : Decoder Document :=
  decodeRecord documentShape
    (fun members => do
      let enums? ← ofMember members "enums" (decodeList decodeEnum)
      let entities? ← ofMember members "models" (decodeList decodeEntity)
      return ⟨enums?.getD [], entities?.getD []⟩)
    (fun items => do
      let enums? ← ofItem items 0 (decodeList decodeEnum)
      let entities? ← ofItem items 1 (decodeList decodeEntity)
      return ⟨enums?.getD [], entities?.getD []⟩)

/-! ## Texts -/

/-- The part of a value that holds the data model: the member `datamodel` of an object that has
one, whatever it is, and the value itself otherwise. -/
def datamodelOf : Value → Value
  | .object members => (member? members "datamodel").getD (.object members)
  | value => value

def parseJson (text : String) : Except DecodingError Value :=
  (Json.parse text).mapError .notJson

/-- The document that a text stands for. -/
def Document.parse (text : String) : Except DecodingError Document := do
  let value ← parseJson text
  (Document.decode (datamodelOf value)).mapError .shape

/-- The document that a text stands for, read leniently and without looking for a data model in
it. -/
def Document.parseLenient (text : String) : Except DecodingError Document := do
  let value ← parseJson text
  (Document.decodeLenient value).mapError .shape

end EntSchema.Model
