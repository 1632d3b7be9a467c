import EntSchema.Model.Document

/-!
# Classification of fields

The fields of an entity, parted by their kinds.  A scalar that holds the key of one of the
relations is left out of the scalars, because the relation already stands for it.
-/

namespace EntSchema.Model

/-- The fields of an entity by kind, each part in the order of the entity.  `scalars` is without
those that hold a key of a relation; `relationKeys` repeats a name that is listed again. -/
structure Classification where
  entity : Entity
  enums : List Field
  scalars : List Field
  relations : List Field
  relationKeys : List String
  deriving DecidableEq, Repr

def Classification.isRelationKey (classification : Classification) (name : String) : Bool :=
  classification.relationKeys.contains name

def Entity.fieldsOf (entity : Entity) (kind : Kind) : List Field :=
  entity.fields.filter (·.kind = kind)

def Entity.relationKeys (entity : Entity) : List String :=
  (entity.fieldsOf .relation).flatMap Field.keyFields

def Entity.classify (entity : Entity) : Classification where
  entity := entity
  enums := entity.fieldsOf .enumeration
  scalars := (entity.fieldsOf .scalar).filter fun field => !entity.relationKeys.contains field.name
  relations := entity.fieldsOf .relation
  relationKeys := entity.relationKeys

@[simp] theorem Entity.classify_entity (entity : Entity) : entity.classify.entity = entity := rfl

@[simp] theorem Entity.classify_relations (entity : Entity) :
    entity.classify.relations = entity.fieldsOf .relation := rfl

@[simp] theorem Entity.classify_relationKeys (entity : Entity) :
    entity.classify.relationKeys = entity.relationKeys := rfl

theorem Entity.mem_fieldsOf {entity : Entity} {kind : Kind} {field : Field} :
    field ∈ entity.fieldsOf kind ↔ field ∈ entity.fields ∧ field.kind = kind := by
  simp [Entity.fieldsOf]

/-- The keys of an entity are what its relations list; lists of other fields do not count. -/
theorem Entity.mem_relationKeys {entity : Entity} {name : String} :
    name ∈ entity.relationKeys ↔
      ∃ relation ∈ entity.fields, relation.kind = .relation ∧ name ∈ relation.keyFields := by
  simp [Entity.relationKeys, Entity.mem_fieldsOf, and_assoc]

theorem Entity.isRelationKey_classify_iff {entity : Entity} {name : String} :
    entity.classify.isRelationKey name = true ↔ name ∈ entity.relationKeys := by
  simp [Classification.isRelationKey]

end EntSchema.Model
