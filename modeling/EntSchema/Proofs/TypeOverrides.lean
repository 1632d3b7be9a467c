import EntSchema.Proofs.EntityLocality
import EntSchema.Proofs.FieldAccounting
import EntSchema.Proofs.FileCollisions
import EntSchema.Proofs.SettingsGrammar

/-!
# What a mapping of a type changes

A mapping put into a table of types is looked at for scalars of its type only, and not for those
that hold the key of a relation.  So a run with the new table and one with the old table can be laid
side by side, field by field (`declare_insert`): they differ at those scalars, which the new table
declares at their places whatever the old one did with them, and nowhere else.

Settings put in one mapping after another.  Types of different names do not get into each other's
way, so the table that results is the built-in one with the overrides laid over it
(`lookup?_typeTable`), in whatever order they came.
-/

namespace EntSchema

open Model (Document Entity Field Index)

/-! ## Declarations of scalars -/

/-- How a field is declared with a mapping. -/
def TypeMapping.declaration (mapping : TypeMapping) (field : Field) : FieldDecl :=
  .typed mapping.target field.name mapping.literal? (calledModifiers field)

/-- Whether a field is a scalar of a type that holds no key of a relation of its entity. -/
def Model.Entity.isScalarOf (entity : Entity) (source : String) (field : Field) : Bool :=
  field.kind = .scalar && field.type = source && !entity.listsKey field.name

section Declarations

variable {entity : Entity} {index : Index} {types types' : TypeTable} {field : Field}

lemma declare_classify_of_scalar (hkind : field.kind = .scalar) :
    declare entity.classify index types field =
      .ok (if entity.listsKey field.name then none
        else (types.lookup? field.type).map fun mapping => mapping.declaration field) := by
  rw [declare_of_scalar hkind, Entity.isRelationKey_classify, modifiersOf_eq_calledModifiers]
  rfl

/-- A table is looked at for the type of a scalar and for nothing else. -/
lemma declare_congr_lookup {classification : Model.Classification}
    (h : field.kind = .scalar → types'.lookup? field.type = types.lookup? field.type) :
    declare classification index types' field = declare classification index types field := by
  cases hkind : field.kind with
  | relation => rw [declare_of_relation hkind, declare_of_relation hkind]
  | enumeration => rw [declare_of_enumeration hkind, declare_of_enumeration hkind]
  | scalar => rw [declare_of_scalar hkind, declare_of_scalar hkind, h hkind]

/-- **One field.**  A new mapping declares the scalars of its type and leaves all other fields to
the table that it is put into. -/
lemma declare_insert (source : String) (mapping : TypeMapping) :
    declare entity.classify index (types.insert source mapping) field =
      if entity.isScalarOf source field then .ok (some (mapping.declaration field))
      else declare entity.classify index types field := by
  unfold Entity.isScalarOf
  by_cases hkind : field.kind = .scalar
  · by_cases htype : field.type = source
    · rw [declare_classify_of_scalar hkind, declare_classify_of_scalar hkind,
        TypeTable.lookup?_insert, if_pos htype]
      cases entity.listsKey field.name <;> simp [hkind, htype]
    · rw [if_neg (by simp [htype])]
      apply declare_congr_lookup
      intro _
      rw [TypeTable.lookup?_insert, if_neg htype]
  · rw [if_neg (by simp [hkind])]
    apply declare_congr_lookup
    intro hscalar
    exact absurd hscalar hkind

end Declarations

/-! ## Schemas -/

/-- What is declared for the fields of an entity, each at its place, when a mapping of a type is
put in place of whatever there was. -/
def Model.Entity.withMapping (entity : Entity) (source : String) (mapping : TypeMapping)
    (slots : List (Option FieldDecl)) : List (Option FieldDecl) :=
  entity.fields.zipWith
    (fun field slot =>
      if entity.isScalarOf source field then some (mapping.declaration field) else slot) slots

/-- The schemas that an entity has with a table of types and with one more mapping in it. -/
structure DifferByMapping (document : Document) (entity : Entity) (types : TypeTable)
    (source : String) (mapping : TypeMapping) (schema schema' : EntitySchema) : Prop where
  built : EntitySchema.build entity (Index.ofDocument document) types = .ok schema
  built' : EntitySchema.build entity (Index.ofDocument document) (types.insert source mapping) =
    .ok schema'
  name : schema'.name = schema.name
  edges : schema'.edges = schema.edges
  /-- Field by field, the declaration is the old one unless the mapping is for the field. -/
  fields : ∃ slots,
    List.Forall₂ (fun field slot =>
      declare entity.classify (Index.ofDocument document) types field = .ok slot)
        entity.fields slots ∧
    schema.fields = slots.filterMap id ∧
    schema'.fields = (entity.withMapping source mapping slots).filterMap id

section Schemas

variable {document : Document} {entity : Entity} {types : TypeTable} {schema : EntitySchema}

lemma EntitySchema.build_eq_ok_iff :
    build entity (Index.ofDocument document) types = .ok schema ↔
      ∃ slots, List.Forall₂ (fun field slot =>
          declare entity.classify (Index.ofDocument document) types field = .ok slot)
            entity.fields slots ∧
        schema = ⟨entity.name, slots.filterMap id,
          (entity.fieldsOf .relation).map EdgeDecl.ofField⟩ := by
  rw [build_ofDocument, buildWith, bind_pure_eq_ok_iff]
  simp only [mapM_eq_ok_iff, eq_comm (a := schema), Entity.classify_relations]

lemma forall₂_withMapping {source : String} {mapping : TypeMapping}
    {slots : List (Option FieldDecl)}
    (h : List.Forall₂ (fun field slot =>
      declare entity.classify (Index.ofDocument document) types field = .ok slot)
        entity.fields slots) :
    List.Forall₂ (fun field slot =>
      declare entity.classify (Index.ofDocument document) (types.insert source mapping) field =
        .ok slot) entity.fields (entity.withMapping source mapping slots) := by
  unfold Entity.withMapping
  generalize entity.fields = fields at h
  induction h with
  | nil => exact .nil
  | @cons field slot fields slots hfield hfields ih =>
    refine .cons ?_ ih
    dsimp only
    rw [declare_insert, hfield]
    by_cases hscalar : entity.isScalarOf source field = true
    · rw [if_pos hscalar, if_pos hscalar]
    · rw [if_neg hscalar, if_neg hscalar]

/-- **One entity.**  It has a schema with one more mapping when it had one before, and the two
differ by the mapping. -/
lemma exists_differByMapping
    (built : EntitySchema.build entity (Index.ofDocument document) types = .ok schema)
    (source : String) (mapping : TypeMapping) :
    ∃ schema', DifferByMapping document entity types source mapping schema schema' := by
  obtain ⟨slots, hslots, rfl⟩ := EntitySchema.build_eq_ok_iff.1 built
  have built' := EntitySchema.build_eq_ok_iff.2
    ⟨entity.withMapping source mapping slots, forall₂_withMapping hslots, rfl⟩
  exact ⟨_, built, built', rfl, rfl, slots, hslots, rfl, rfl⟩

end Schemas

/-! ## Generated files -/

namespace GenerationOptions

/-- The options with the mapping of one type added or replaced. -/
def withMapping (options : GenerationOptions) (source : String) (mapping : TypeMapping) :
    GenerationOptions :=
  { options with types := options.types.insert source mapping }

/-- Tables that map all types alike give the same files. -/
lemma generate_congr_lookup (options : GenerationOptions) {types : TypeTable}
    (h : ∀ source, types.lookup? source = options.types.lookup? source) (document : Document) :
    generate { options with types := types } document = options.generate document := by
  refine mapM_congr fun entity _ => ?_
  have hbuild : EntitySchema.build entity (Index.ofDocument document) types =
      EntitySchema.build entity (Index.ofDocument document) options.types := by
    unfold EntitySchema.build EntitySchema.buildWith
    rw [mapM_congr fun field _ => declare_congr_lookup fun _ => h field.type]
  unfold fileOf
  rw [hbuild]
  rfl

end GenerationOptions

/-- What one more mapping changes in the generated files of a document. -/
structure ChangesByMapping (options : GenerationOptions) (document : Document) (source : String)
    (mapping : TypeMapping) : Prop where
  /-- Both runs fail, with the same fault, or neither does. -/
  fault : ∀ fault, (options.withMapping source mapping).generate document = .error fault ↔
    options.generate document = .error fault
  paths : ∀ files files', options.generate document = .ok files →
    (options.withMapping source mapping).generate document = .ok files' →
      files'.map GeneratedFile.path = files.map GeneratedFile.path
  /-- Each file is that of a schema, and the schemas differ by the mapping. -/
  files : ∀ files files' : List GeneratedFile, options.generate document = .ok files →
    (options.withMapping source mapping).generate document = .ok files' →
      ∀ (place : Nat) (entity : Entity), document.entities[place]? = some entity →
        ∃ schema schema' : EntitySchema,
          files[place]? =
              some ⟨options.pathFor entity.name, sourceText options.package schema⟩ ∧
          files'[place]? =
              some ⟨options.pathFor entity.name, sourceText options.package schema'⟩ ∧
          DifferByMapping document entity options.types source mapping schema schema'

lemma changesByMapping (options : GenerationOptions) (document : Document) (source : String)
    (mapping : TypeMapping) : ChangesByMapping options document source mapping := by
  constructor
  case fault =>
    intro fault
    rw [GenerationOptions.generate_eq_error_iff, GenerationOptions.generate_eq_error_iff]
  case paths =>
    intro files files' generated generated'
    rw [GenerationOptions.map_path_of_generate generated,
      GenerationOptions.map_path_of_generate generated']
    rfl
  case files =>
    intro files files' generated generated' place entity hplace
    obtain ⟨schema, hschema, hfile⟩ := GenerationOptions.getElem?_of_generate generated hplace
    obtain ⟨schema', hschema', hfile'⟩ :=
      GenerationOptions.getElem?_of_generate generated' hplace
    obtain ⟨changed, hchanged⟩ := exists_differByMapping hschema source mapping
    obtain rfl : changed = schema' := Except.ok.inj (hchanged.built'.symm.trans hschema')
    exact ⟨schema, changed, hfile, hfile', hchanged⟩

/-! ## The overrides of settings -/

namespace Entries

variable {κ α : Type} [DecidableEq κ] {key : κ} {entries : List (κ × α)}

lemma get?_eq_none_of_notMem (h : key ∉ entries.map Prod.fst) : get? key entries = none := by
  rw [Option.eq_none_iff_forall_ne_some]
  intro value hfound
  exact h (List.mem_map.2 ⟨_, mem_of_get?_eq_some hfound, rfl⟩)

end Entries

namespace Settings

/-- The mapping of a type with some settings: its override if there is one, and else the built-in
one. -/
def mapping? (settings : Settings) (source : String) : Option TypeMapping :=
  ((Entries.get? source settings.types).map TypeOverride.mapping).or
    (TypeTable.builtin.lookup? source)

/-- The settings with their overrides of types in another order. -/
def reordered (settings : Settings) (order : List (String × TypeOverride)) : Settings :=
  { settings with types := order }

variable {settings : Settings}

/-- Overrides that are put into a table one after another lie over what it has. -/
lemma lookup?_foldl_insert {types : List (String × TypeOverride)}
    (hdistinct : (types.map Prod.fst).Nodup) (table : TypeTable) (asked : String) :
    (types.foldl (fun table (source, override) => table.insert source override.mapping)
        table).lookup? asked =
      ((Entries.get? asked types).map TypeOverride.mapping).or (table.lookup? asked) := by
  induction types generalizing table with
  | nil => rfl
  | cons first rest ih =>
    obtain ⟨source, override⟩ := first
    obtain ⟨hsource, hrest⟩ := List.nodup_cons.1 hdistinct
    rw [List.foldl_cons, ih hrest, TypeTable.lookup?_insert]
    by_cases hasked : asked = source
    · subst hasked
      have hlater : Entries.get? asked rest = none := Entries.get?_eq_none_of_notMem hsource
      simp [hlater, Entries.get?]
    · simp [hasked, Entries.get?]

lemma lookup?_typeTable (hdistinct : (settings.types.map Prod.fst).Nodup) (asked : String) :
    settings.typeTable.lookup? asked = settings.mapping? asked :=
  lookup?_foldl_insert hdistinct .builtin asked

lemma mapping?_reordered {order : List (String × TypeOverride)}
    (hperm : order.Perm settings.types) (hdistinct : (settings.types.map Prod.fst).Nodup)
    (asked : String) : (settings.reordered order).mapping? asked = settings.mapping? asked := by
  have hsame : Entries.get? asked order = Entries.get? asked settings.types :=
    Entries.get?_of_perm hperm hdistinct
  unfold mapping? reordered
  rw [hsame]

/-- What is declared and generated with the overrides of settings, in whatever order they are put
into the table. -/
structure RendersByOverrides (settings : Settings) (document : Document) : Prop where
  table : ∀ order : List (String × TypeOverride), order.Perm settings.types → ∀ source,
    (settings.reordered order).typeTable.lookup? source = settings.mapping? source
  generated : ∀ order : List (String × TypeOverride), order.Perm settings.types →
    (settings.reordered order).generationOptions.generate document =
      settings.generationOptions.generate document
  /-- A scalar is declared by the mapping of its type, or left out when there is none. -/
  scalars : ∀ order : List (String × TypeOverride), order.Perm settings.types →
    ∀ (entity : Entity) (field : Field), field.kind = .scalar →
      declare entity.classify (Index.ofDocument document) (settings.reordered order).typeTable
          field =
        .ok (if entity.listsKey field.name then none
          else (settings.mapping? field.type).map fun mapping => mapping.declaration field)

lemma rendersByOverrides (hdistinct : (settings.types.map Prod.fst).Nodup) (document : Document) :
    RendersByOverrides settings document := by
  have htable : ∀ order : List (String × TypeOverride), order.Perm settings.types → ∀ source,
      (settings.reordered order).typeTable.lookup? source = settings.mapping? source := by
    intro order hperm source
    have horder : ((settings.reordered order).types.map Prod.fst).Nodup :=
      (hperm.map Prod.fst).nodup_iff.2 hdistinct
    rw [lookup?_typeTable horder, mapping?_reordered hperm hdistinct]
  constructor
  case table => exact htable
  case generated =>
    intro order hperm
    refine settings.generationOptions.generate_congr_lookup (fun source => ?_) document
    rw [htable order hperm source]
    exact (lookup?_typeTable hdistinct source).symm
  case scalars =>
    intro order hperm entity field hkind
    rw [declare_classify_of_scalar hkind, htable order hperm]

end Settings

/-- An entity with an enum, a relation and two scalars of one type name, of which one is the key of
the relation. -/
def crewEntity : Entity :=
  ⟨"Crew",
    [.enumeration "role" "Role", .scalar "roleId" "Role", .relation "group" "Role" ["roleId"],
      (Field.scalar "roles" "Role").optional]⟩

def crewDocument : Document := ⟨[⟨"Role", ["USER", "ADMIN"]⟩], [crewEntity]⟩

/-- A builder with a further argument. -/
def listMapping : TypeMapping := ⟨"JSON", some "[]string{}"⟩

/-- Settings with that mapping and another one. -/
def crewSettings : Settings :=
  { Settings.standard with
    types := [("Json", .builder "String"), ("Role", .detailed "JSON" (some "[]string{}"))] }

end EntSchema
