import EntSchema.Model.Decoding
import EntSchema.Storage.Store

/-!
# Errors of generation

Everything that can end the way from the text of a document to stored files.
-/

namespace EntSchema

/-- Why no files come of a document. -/
inductive GenerationError where
  | missingEnum (fault : MissingEnum)
  | document (error : Model.DecodingError)
  | io (path : Path) (fault : IoFault)
  | brokenOff
  deriving DecidableEq, Repr

namespace GenerationError

def ofStoreFault : StoreFault → GenerationError
  | .io path fault => .io path fault
  | .brokenOff => .brokenOff

def message : GenerationError → String
  | .missingEnum fault => fault.message
  | .document error => "invalid model document: " ++ error.message
  | .io path fault => "I/O error at " ++ path.text ++ ": " ++ fault.message
  | .brokenOff => "write task failed"

/-- The wording of the error behind an error, if there is one. -/
def cause? : GenerationError → Option String
  | .document error => some error.message
  | .io _ fault => some fault.message
  | .missingEnum _ | .brokenOff => none

/-- The wordings of an error and of the error behind it. -/
def chain (error : GenerationError) : List String :=
  error.message :: error.cause?.toList

end GenerationError

end EntSchema
