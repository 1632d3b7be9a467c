import EntSchema.Proofs.LastDefinition
import EntSchema.Proofs.Traversal
import EntSchema.Schema.Building

/-!
# What becomes of every field of an entity

A schema is built by going through the fields of an entity, with the classification of the entity at
hand and a table of types.  This module says what comes out of it without either of them: every
field has a `Standing`, read off its kind, its type and the key lists of the relations beside it,
and a declared field is declared as `DeclaredAs` says.

The main result is `build_accounts_for_every_field`.  A schema that is built has one edge for each
relation and one declaration for each field that is to be declared, in the order of the entity, and
nothing else; the declarations are in step with the parts of the classification; and with the keys
of relations and the fields of unmapped types, that is every field of the entity once.
-/

namespace EntSchema

open Model (Document EnumDef Entity Field Index)

/-! ## Standing of a field -/

/-- Whether one of the relations of an entity lists a name among its key fields. -/
def Model.Entity.listsKey (entity : Entity) (name : String) : Bool :=
  entity.fields.any fun relation => relation.kind = .relation && relation.keyFields.contains name

/-- The classification takes for keys exactly the names that the relations list.  Key lists of
other fields do not count. -/
lemma Model.Entity.isRelationKey_classify (entity : Entity) (name : String) :
    entity.classify.isRelationKey name = entity.listsKey name := by
  rw [Bool.eq_iff_iff, Entity.isRelationKey_classify_iff, Entity.mem_relationKeys]
  simp [Entity.listsKey]

/-- How a schema stands for a field of its entity. -/
inductive Standing where
  | edge
  | declaration
  | relationKey
  | unmapped
  deriving DecidableEq, Repr

/-- How a schema made with a table of types stands for a field. -/
def Model.Entity.standing (entity : Entity) (types : TypeTable) (field : Field) : Standing :=
  match field.kind with
  | .relation => .edge
  | .enumeration => .declaration
  | .scalar =>
    if entity.listsKey field.name then .relationKey
    else if (types.lookup? field.type).isSome then .declaration
    else .unmapped

def Model.Entity.fieldsStanding (entity : Entity) (types : TypeTable) (standing : Standing) :
    List Field :=
  entity.fields.filter (entity.standing types · = standing)

lemma Model.Entity.fieldsStanding_eq_filterMap (entity : Entity) (types : TypeTable)
    (standing : Standing) :
    entity.fieldsStanding types standing = entity.fields.filterMap fun field =>
      if entity.standing types field = standing then some field else none := by
  rw [Entity.fieldsStanding, ← List.filterMap_eq_filter]
  simp [Option.guard]

/-- The fields of the four standings are all fields of the entity. -/
lemma Model.Entity.length_fieldsStanding (entity : Entity) (types : TypeTable) :
    (entity.fieldsStanding types .edge).length +
        (entity.fieldsStanding types .declaration).length +
        (entity.fieldsStanding types .relationKey).length +
        (entity.fieldsStanding types .unmapped).length = entity.fields.length := by
  unfold Entity.fieldsStanding
  generalize entity.standing types = standing
  induction entity.fields with
  | nil => rfl
  | cons field rest ih =>
    cases hstanding : standing field <;>
      simp [hstanding] at ih ⊢ <;> omega

lemma Model.Entity.standing_eq_edge_iff {entity : Entity} {types : TypeTable} {field : Field} :
    entity.standing types field = .edge ↔ field.kind = .relation := by
  unfold Entity.standing
  split
  · simp_all
  · simp_all
  · split
    · simp_all
    · split <;> simp_all

lemma Model.Entity.fieldsStanding_edge (entity : Entity) (types : TypeTable) :
    entity.fieldsStanding types .edge = entity.fieldsOf .relation := by
  simp only [Entity.fieldsStanding, Entity.fieldsOf, Entity.standing_eq_edge_iff]

/-! ## The declaration of a field -/

/-- The modifiers that a field calls for: that it is optional, if it is, and then its default, if
that is a truth value, a number or a text. -/
def calledModifiers (field : Field) : List Modifier :=
  (if field.isRequired then [] else [.optional]) ++
    match field.default? with
    | some (.bool value) => [.default (.bool value)]
    | some (.number value) => [.default (.number value.text)]
    | some (.string value) => [.default (.string value)]
    | some (.other _) | none => []

lemma modifiersOf_eq_calledModifiers (field : Field) :
    modifiersOf field = calledModifiers field := by
  unfold modifiersOf calledModifiers defaultLiteral?
  rcases field.default? with _ | _ | _ | _ | _ <;> rfl

/-- A declaration is the one that a field calls for, given the enums of a document and a table of
types. -/
inductive DeclaredAs (document : Document) (types : TypeTable) : Field → FieldDecl → Prop
  /-- An enum field has the values of the last enum of its name. -/
  | enumeration {field : Field} {definition : EnumDef} (hkind : field.kind = .enumeration)
      (hlast : document.lastEnum? field.type = some definition) :
      DeclaredAs document types field
        (.enumeration field.name definition.values (calledModifiers field))
  /-- A scalar has the builder and the argument that its type is mapped to. -/
  | typed {field : Field} {mapping : TypeMapping} (hkind : field.kind = .scalar)
      (hmapped : types.lookup? field.type = some mapping) :
      DeclaredAs document types field
        (.typed mapping.target field.name mapping.literal? (calledModifiers field))

/-- Whether a declared field is made by the builder of a type. -/
def FieldDecl.isTyped : FieldDecl → Bool
  | .typed .. => true
  | .enumeration .. => false

lemma DeclaredAs.kind_eq {document : Document} {types : TypeTable} {field : Field}
    {declaration : FieldDecl} (h : DeclaredAs document types field declaration) :
    field.kind = if declaration.isTyped then .scalar else .enumeration := by
  cases h with
  | enumeration hkind _ => exact hkind
  | typed hkind _ => exact hkind

/-- **One field.**  When `declare` succeeds it declares the fields that stand by a declaration, as
they call for it, and no other. -/
lemma declare_classify {document : Document} {entity : Entity} {types : TypeTable} {field : Field}
    {declaration? : Option FieldDecl}
    (h : declare entity.classify (Index.ofDocument document) types field = .ok declaration?) :
    Option.Rel (DeclaredAs document types)
      (if entity.standing types field = .declaration then some field else none) declaration? := by
  unfold Entity.standing
  cases hkind : field.kind with
  | relation =>
    rw [declare_of_relation hkind] at h
    cases h
    exact .none
  | enumeration =>
    rw [declare_of_enumeration hkind, Index.enum?_ofDocument, modifiersOf_eq_calledModifiers] at h
    cases hlast : document.lastEnum? field.type with
    | none => simp [hlast] at h
    | some definition =>
      rw [hlast] at h
      cases h
      exact .some (.enumeration hkind hlast)
  | scalar =>
    rw [declare_of_scalar hkind, Entity.isRelationKey_classify,
      modifiersOf_eq_calledModifiers] at h
    cases h
    cases hkey : entity.listsKey field.name with
    | true => exact .none
    | false =>
      cases hmapped : types.lookup? field.type with
      | none => exact .none
      | some mapping => exact .some (.typed hkind hmapped)

/-! ## The parts of the classification -/

/-- The scalars of the classification whose types are mapped are the scalars that stand by a
declaration. -/
lemma Model.Entity.filter_scalars_classify (entity : Entity) (types : TypeTable) :
    (entity.classify.scalars.filter fun field => (types.lookup? field.type).isSome) =
      (entity.fieldsStanding types .declaration).filter (·.kind = .scalar) := by
  have hkeys (name : String) : entity.relationKeys.contains name = entity.listsKey name :=
    entity.isRelationKey_classify name
  simp only [Entity.classify, Entity.fieldsOf, Entity.fieldsStanding, List.filter_filter, hkeys]
  refine List.filter_congr fun field _ => ?_
  unfold Entity.standing
  cases field.kind <;> cases entity.listsKey field.name <;>
    cases (types.lookup? field.type).isSome <;> rfl

/-- The enum fields of the classification are the enum fields that stand by a declaration, those
among them included whose names a relation lists. -/
lemma Model.Entity.enums_classify (entity : Entity) (types : TypeTable) :
    entity.classify.enums =
      (entity.fieldsStanding types .declaration).filter (·.kind = .enumeration) := by
  simp only [Entity.classify, Entity.fieldsOf, Entity.fieldsStanding, List.filter_filter]
  refine List.filter_congr fun field _ => ?_
  unfold Entity.standing
  cases field.kind <;> cases entity.listsKey field.name <;>
    cases (types.lookup? field.type).isSome <;> rfl

/-! ## The account of a schema -/

/-- A schema accounts for the fields of an entity, given the enums of a document and a table of
types. -/
structure Accounts (document : Document) (entity : Entity) (types : TypeTable)
    (schema : EntitySchema) : Prop where
  name : schema.name = entity.name
  /-- One edge for each relation, in the order of the entity. -/
  edges : schema.edges =
    (entity.fields.filter (·.kind = .relation)).map fun relation => ⟨relation.name, relation.type⟩
  /-- One declaration for each field that stands by one, in the order of the entity. -/
  fields : List.Forall₂ (DeclaredAs document types) (entity.fieldsStanding types .declaration)
    schema.fields
  /-- The typed declarations are those of the classified scalars whose types are mapped. -/
  typed : List.Forall₂ (DeclaredAs document types)
    (entity.classify.scalars.filter fun field => (types.lookup? field.type).isSome)
    (schema.fields.filter FieldDecl.isTyped)
  /-- The other declarations are those of the classified enum fields. -/
  enumerations : List.Forall₂ (DeclaredAs document types) entity.classify.enums
    (schema.fields.filter (!·.isTyped))
  relations : schema.edges = entity.classify.relations.map EdgeDecl.ofField
  /-- With the keys and the fields of unmapped types, these are all fields, each once. -/
  once : schema.edges.length + schema.fields.length +
    (entity.fieldsStanding types .relationKey).length +
    (entity.fieldsStanding types .unmapped).length = entity.fields.length

/-- **Every field of an entity is accounted for exactly once.**  Whatever the document and the
table of types, a schema that is built accounts for the fields of its entity; the order is that of
the entity, and the renderer and the classification pick the same fields. -/
theorem build_accounts_for_every_field {document : Document} {entity : Entity} {types : TypeTable}
    {schema : EntitySchema}
    (built : EntitySchema.build entity (Index.ofDocument document) types = .ok schema) :
    Accounts document entity types schema := by
  rw [EntitySchema.build, Index.classificationOf_ofDocument, EntitySchema.buildWith,
    bind_pure_eq_ok_iff] at built
  obtain ⟨declarations, hdeclarations, rfl⟩ := built
  have hfields : List.Forall₂ (DeclaredAs document types)
      (entity.fieldsStanding types .declaration) (declarations.filterMap id) := by
    rw [Entity.fieldsStanding_eq_filterMap]
    exact List.rel_filterMap (fun _ _ h => declare_classify h) (mapM_eq_ok_iff.1 hdeclarations)
  refine ⟨rfl, rfl, hfields, ?_, ?_, rfl, ?_⟩
  · rw [Entity.filter_scalars_classify]
    refine List.rel_filter (fun _ _ h => ?_) hfields
    simp [h.kind_eq]
  · rw [Entity.enums_classify entity types]
    refine List.rel_filter (fun _ _ h => ?_) hfields
    simp [h.kind_eq]
  · have hall := entity.length_fieldsStanding types
    rw [Entity.fieldsStanding_edge, hfields.length_eq] at hall
    simpa using hall

/-- An entity with fields of every standing: a key that comes before its relation, an enum field
whose name a relation lists, an unmapped type, a name that two fields share, and defaults with and
without a literal. -/
def accountEntity : Entity :=
  ⟨"Account",
    [(Field.scalar "id" "Int").withDefault (.other (.array [])), .scalar "ownerId" "String",
      .relation "owner" "User" ["ownerId", "role"],
      (Field.enumeration "role" "Role").optional.withDefault (.string "USER"),
      .scalar "place" "Unsupported", .scalar "id" "Json", .relation "posts" "Post" []]⟩

/-- A document with that entity, in which an enum is defined twice. -/
def accountDocument : Document :=
  ⟨[⟨"Role", ["GUEST"]⟩, ⟨"Role", ["USER", "ADMIN"]⟩], [accountEntity]⟩

/-- The schema of that entity. -/
def accountSchema : EntitySchema :=
  ⟨"Account",
    [.typed "Int" "id" none [],
      .enumeration "role" ["USER", "ADMIN"] [.optional, .default (.string "USER")],
      .typed "JSON" "id" (some TypeTable.jsonZeroValue) []],
    [⟨"owner", "User"⟩, ⟨"posts", "Post"⟩]⟩

theorem accountSchema_accounts :
    EntitySchema.build accountEntity (Index.ofDocument accountDocument) .builtin =
        .ok accountSchema ∧
      Accounts accountDocument accountEntity .builtin accountSchema :=
  ⟨rfl, build_accounts_for_every_field rfl⟩

end EntSchema
