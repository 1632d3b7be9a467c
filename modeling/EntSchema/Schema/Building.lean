import EntSchema.Log.Event
import EntSchema.Model.Index
import EntSchema.Schema.Declaration
import EntSchema.TypeTable

/-!
# Building schemas

The schema of an entity declares an edge for every relation, and a field for every enum field and
for every scalar that holds no key of a relation and has a mapped type, all in the order of the
entity.  An enum field whose enum the document does not define is the one thing that cannot be
declared.
-/

namespace EntSchema

open Model (Field Entity Classification Index)
open Log (Event)

/-! ## The fate of a field -/

/-- An enum field whose enum is not defined. -/
structure MissingEnum where
  entity : String
  field : String
  enumName : String
  deriving DecidableEq, Repr

def MissingEnum.message (fault : MissingEnum) : String :=
  "field `" ++ fault.entity ++ "." ++ fault.field ++ "` references undefined enum `" ++
    fault.enumName ++ "`"

/-- What becomes of a field in the list of declared fields.  A relation is declared as an edge
instead, and stands for the fields that hold its key. -/
inductive Fate where
  | declared (declaration : FieldDecl)
  | relation
  | relationKey
  | unmapped
  | undefinedEnum
  deriving DecidableEq, Repr

def fateOf (classification : Classification) (index : Index) (types : TypeTable) (field : Field) :
    Fate :=
  match field.kind with
  | .relation => .relation
  | .enumeration =>
    match index.enum? field.type with
    | none => .undefinedEnum
    | some definition =>
      .declared (.enumeration field.name definition.values (modifiersOf field))
  | .scalar =>
    if classification.isRelationKey field.name then .relationKey
    else
      match types.lookup? field.type with
      | none => .unmapped
      | some mapping =>
        .declared (.typed mapping.target field.name mapping.literal? (modifiersOf field))

/-- The declaration of a field, if it has one in the list of declared fields. -/
def declare (classification : Classification) (index : Index) (types : TypeTable) (field : Field) :
    Except MissingEnum (Option FieldDecl) :=
  match fateOf classification index types field with
  | .declared declaration => .ok (some declaration)
  | .undefinedEnum => .error ⟨classification.entity.name, field.name, field.type⟩
  | .relation | .relationKey | .unmapped => .ok none

section

variable {classification : Classification} {index : Index} {types : TypeTable} {field : Field}

theorem declare_of_relation (hkind : field.kind = .relation) :
    declare classification index types field = .ok none := by
  simp [declare, fateOf, hkind]

theorem declare_of_enumeration (hkind : field.kind = .enumeration) :
    declare classification index types field =
      match index.enum? field.type with
      | none => .error ⟨classification.entity.name, field.name, field.type⟩
      | some definition =>
        .ok (some (.enumeration field.name definition.values (modifiersOf field))) := by
  unfold declare fateOf
  rw [hkind]
  cases index.enum? field.type <;> rfl

theorem declare_of_scalar (hkind : field.kind = .scalar) :
    declare classification index types field =
      .ok (if classification.isRelationKey field.name then none
        else (types.lookup? field.type).map fun mapping =>
          .typed mapping.target field.name mapping.literal? (modifiersOf field)) := by
  unfold declare fateOf
  rw [hkind]
  cases classification.isRelationKey field.name with
  | true => rfl
  | false => cases types.lookup? field.type <;> rfl

end

/-! ## Schemas -/

structure EntitySchema where
  name : String
  fields : List FieldDecl
  edges : List EdgeDecl
  deriving DecidableEq, Repr

/-- The schema of an entity whose fields are classified as given, or the first of its fields whose
enum is not defined. -/
def EntitySchema.buildWith (classification : Classification) (entity : Entity) (index : Index)
    (types : TypeTable) : Except MissingEnum EntitySchema := do
  let declarations ← entity.fields.mapM (declare classification index types)
  return ⟨entity.name, declarations.filterMap id, classification.relations.map EdgeDecl.ofField⟩

def EntitySchema.build (entity : Entity) (index : Index) (types : TypeTable) :
    Except MissingEnum EntitySchema :=
  buildWith (index.classificationOf entity) entity index types

/-! ## Events -/

def unmappedEvent (entity : Entity) (field : Field) : Event :=
  ⟨.generation, .debug, "skipping field with unmapped type",
    [("entity", entity.name), ("field", field.name), ("ty", field.type)]⟩

/-- The event of a declared field whose default has no literal. -/
def omittedDefaultEvent (field : Field) : Event :=
  ⟨.generation, .debug, "omitting default without a literal form", [("field", field.name)]⟩

def hasOmittedDefault (field : Field) : Bool :=
  field.default?.isSome && (defaultLiteral? field).isNone

def fieldEvents (classification : Classification) (index : Index) (types : TypeTable)
    (field : Field) : List Event :=
  match fateOf classification index types field with
  | .declared _ => if hasOmittedDefault field then [omittedDefaultEvent field] else []
  | .unmapped => [unmappedEvent classification.entity field]
  | .relation | .relationKey | .undefinedEnum => []

def builtEvent (schema : EntitySchema) : Event :=
  ⟨.generation, .trace, "rendered entity schema",
    [("entity", schema.name), ("fields", toString schema.fields.length)]⟩

/-- The events of building a schema: those of the fields up to one whose enum is not defined, and
that of the finished schema. -/
def EntitySchema.buildEvents (entity : Entity) (index : Index) (types : TypeTable) : List Event :=
  let classification := index.classificationOf entity
  let seen := entity.fields.takeWhile fun field =>
    fateOf classification index types field ≠ .undefinedEnum
  seen.flatMap (fieldEvents classification index types) ++
    match EntitySchema.build entity index types with
    | .ok schema => [builtEvent schema]
    | .error _ => []

end EntSchema
