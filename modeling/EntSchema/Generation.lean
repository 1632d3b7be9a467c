import EntSchema.Path
import EntSchema.Schema.SourceText
import EntSchema.Text.SnakeCase

/-!
# Generation

One file per entity of a document, in the order of the document, or the first fault.  The path of a
file comes from the name of the entity alone, its text from the entity and the enums that it names.
-/

namespace EntSchema

open Model (Document Entity Index)
open Log (Event)

/-! ## Options -/

/-- Where files go and what they are made with.  The extension is without its point. -/
structure GenerationOptions where
  outputDirectory : Path
  package : String
  extension : String
  types : TypeTable
  deriving DecidableEq, Repr

def GenerationOptions.standard : GenerationOptions :=
  ⟨⟨"ent/schema"⟩, "schema", "go", .builtin⟩

structure GeneratedFile where
  path : Path
  source : String
  deriving DecidableEq, Repr

namespace GenerationOptions

def fileName (options : GenerationOptions) (entityName : String) : String :=
  Text.snakeCase entityName ++ "." ++ options.extension

/-- The path of the file of an entity. -/
def pathFor (options : GenerationOptions) (entityName : String) : Path :=
  options.outputDirectory.join ⟨options.fileName entityName⟩

/-! ## Files -/

def fileOf (options : GenerationOptions) (index : Index) (entity : Entity) :
    Except MissingEnum GeneratedFile := do
  let schema ← EntitySchema.build entity index options.types
  return ⟨options.pathFor entity.name, sourceText options.package schema⟩

/-- The files of a document, or the first enum field whose enum is not defined. -/
def generate (options : GenerationOptions) (document : Document) :
    Except MissingEnum (List GeneratedFile) :=
  document.entities.mapM (options.fileOf (Index.ofDocument document))

/-! ## Events -/

def indexedEvent (index : Index) : Event :=
  ⟨.generation, .debug, "built model index",
    [("entities", toString index.entityCount), ("enums", toString index.enumCount)]⟩

/-- The events of the files of some entities, up to the first one that fails. -/
def fileEvents (options : GenerationOptions) (index : Index) : List Entity → List Event
  | [] => []
  | entity :: rest =>
    EntitySchema.buildEvents entity index options.types ++
      match EntitySchema.build entity index options.types with
      | .ok _ => fileEvents options index rest
      | .error _ => []

def generationEvents (options : GenerationOptions) (document : Document) : List Event :=
  let index := Index.ofDocument document
  indexedEvent index :: options.fileEvents index document.entities

end GenerationOptions

end EntSchema
