import EntSchema.Entries
import EntSchema.Model.Classification

/-!
# Index of a document

Look-up of enums, entities and classifications by name.  The index is built by going through the
document once; a name that comes again takes the place of the earlier one.
-/

namespace EntSchema.Model

/-- An entity with its place in the document, counted from zero. -/
structure IndexedEntity where
  position : Nat
  entity : Entity
  deriving DecidableEq, Repr

/-- A classification with the place of the entity that it was made of.  The entity inside a
classification is a value, and other entities of the document may equal it. -/
structure IndexedClassification where
  position : Nat
  classification : Classification
  deriving DecidableEq, Repr

structure Index where
  enums : List (String × EnumDef)
  entities : List (String × IndexedEntity)
  classifications : List (String × IndexedClassification)
  deriving DecidableEq, Repr

namespace Index

def empty : Index := ⟨[], [], []⟩

def insertEnum (index : Index) (definition : EnumDef) : Index :=
  { index with enums := Entries.put definition.name definition index.enums }

def insertEntity (index : Index) (indexed : IndexedEntity) : Index :=
  let name := indexed.entity.name
  { index with
    entities := Entries.put name indexed index.entities
    classifications :=
      Entries.put name ⟨indexed.position, indexed.entity.classify⟩ index.classifications }

def ofDocument (document : Document) : Index :=
  let withEnums := document.enums.foldl insertEnum empty
  document.entities.zipIdx.foldl
    (fun index (entity, position) => index.insertEntity ⟨position, entity⟩) withEnums

def enum? (index : Index) (name : String) : Option EnumDef :=
  Entries.get? name index.enums

def entity? (index : Index) (name : String) : Option IndexedEntity :=
  Entries.get? name index.entities

/-- The classification of a name, with the place of its entity. -/
def indexedClassification? (index : Index) (name : String) : Option IndexedClassification :=
  Entries.get? name index.classifications

def classification? (index : Index) (name : String) : Option Classification :=
  (index.indexedClassification? name).map IndexedClassification.classification

/-- The number of different names of enums. -/
def enumCount (index : Index) : Nat := index.enums.length

def entityCount (index : Index) : Nat := index.entities.length

/-- The classification of an entity: the one in the index when it is of this very entity, and a
fresh one when the index knows another entity of the name, or none. -/
def classificationOf (index : Index) (entity : Entity) : Classification :=
  match index.classification? entity.name with
  | some known => if known.entity = entity then known else entity.classify
  | none => entity.classify

end Index

end EntSchema.Model
