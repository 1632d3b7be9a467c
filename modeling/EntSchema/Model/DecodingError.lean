import EntSchema.Json.Fault
import EntSchema.Json.Writer
import EntSchema.Text.Shown

/-!
# Reasons why a text is no document

A text may fail to be JSON; its value may fail to have the shape of a document.
-/

namespace EntSchema.Model

/-- What a value of the wrong type was wanted for. -/
inductive Expectation where
  | text
  | boolean
  | sequence
  | record (name : String)
  | kind
  | unit
  deriving DecidableEq, Repr

def Expectation.message : Expectation → String
  | .text => "a string"
  | .boolean => "a boolean"
  | .sequence => "a sequence"
  | .record name => "struct " ++ name
  | .kind => "string or map"
  | .unit => "unit"

/-- Why a JSON value is not a document.  A record that is given as a list may end before its last
needed member, or go on after its last one. -/
inductive ShapeError where
  | missingMember (key : String)
  | wrongType (found : Json.Value) (expected : Expectation)
  | unknownKind (name : String)
  | kindNotSingle
  | tooShort (count : Nat) (record : String) (members : Nat)
  | tooLong (count : Nat)
  deriving DecidableEq, Repr

/-- What a value is called in a message. -/
def describe : Json.Value → String
  | .null => "null"
  | .bool value => "boolean `" ++ (if value then "true" else "false") ++ "`"
  | .number (.integer value) => "integer `" ++ (Json.Number.integer value).text ++ "`"
  | .number (.float value) => "floating point `" ++ (Json.Number.float value).text ++ "`"
  | .string value => "string " ++ Text.shown value
  | .array _ => "sequence"
  | .object _ => "map"

def elementCount (count : Nat) : String :=
  if count = 1 then "1 element" else toString count ++ " elements"

def ShapeError.message : ShapeError → String
  | .missingMember key => "missing field `" ++ key ++ "`"
  | .wrongType found expected =>
    "invalid type: " ++ describe found ++ ", expected " ++ expected.message
  | .unknownKind name =>
    "unknown variant `" ++ name ++
      "`, expected one of `scalar`, `unsupported`, `enum`, `object`, `relation`"
  | .kindNotSingle => "invalid value: map, expected map with a single key"
  | .tooShort count record members =>
    "invalid length " ++ toString count ++ ", expected struct " ++ record ++ " with " ++
      elementCount members
  | .tooLong count =>
    "invalid length " ++ toString count ++ ", expected fewer elements in array"

/-- Why a text is not a document. -/
inductive DecodingError where
  | notJson (error : Json.SyntaxError)
  | shape (error : ShapeError)
  deriving DecidableEq, Repr

def DecodingError.message : DecodingError → String
  | .notJson error => error.message
  | .shape error => error.message

/-- The three classes of decoding errors. -/
inductive ErrorClass where
  | grammar
  | ending
  | data
  deriving DecidableEq, Repr

def DecodingError.errorClass : DecodingError → ErrorClass
  | .notJson error => if error.cause.isEnd then .ending else .grammar
  | .shape _ => .data

end EntSchema.Model
