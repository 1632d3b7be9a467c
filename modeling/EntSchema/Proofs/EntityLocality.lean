import EntSchema.Proofs.FirstMissingEnum
import Mathlib.Data.List.Nodup
import Mathlib.Logic.Relation

/-!
# What the file of an entity depends on

The file of an entity is made from the entity, the enums that it names, the options, and nothing
else of the document.  Two things could spoil this.  Enums are looked up by name, so another
definition of the name could take the place of the one that is meant; and classifications are
looked up by the name of the entity, so an entity could be declared with the classification of
another one of its name.

`EntitySchema.build_congr` is the two-run form: schemas built with the indexes of two documents are
the same as soon as the enums that the entity names agree.  `EditedBeside` lists the edits that a
document can see without the entity noticing; each keeps the enums that the entity names
(`EditedBeside.lastEnum?_eq`), so a whole series of them does.  `file_depends_only_on_entity` puts
both together.
-/

namespace EntSchema

open Model (Document EnumDef Entity Field Index Classification)

/-! ## Agreement on the enums of an entity -/

/-- Two indexes agree on the enums that an entity names: each is defined in neither of them, or has
the same values in both. -/
def EnumsAgree (entity : Entity) (index index' : Index) : Prop :=
  ∀ field ∈ entity.fields, field.kind = .enumeration →
    (index.enum? field.type).map EnumDef.values = (index'.enum? field.type).map EnumDef.values

/-- A field is declared alike wherever its enum has the same values. -/
lemma declare_congr {classification : Classification} {index index' : Index} {types : TypeTable}
    {field : Field} (h : field.kind = .enumeration →
      (index.enum? field.type).map EnumDef.values =
        (index'.enum? field.type).map EnumDef.values) :
    declare classification index types field = declare classification index' types field := by
  cases hkind : field.kind with
  | relation => rw [declare_of_relation hkind, declare_of_relation hkind]
  | scalar => rw [declare_of_scalar hkind, declare_of_scalar hkind]
  | enumeration =>
    have hvalues := h hkind
    rw [declare_of_enumeration hkind, declare_of_enumeration hkind]
    cases hfirst : index.enum? field.type <;> cases hsecond : index'.enum? field.type <;>
      simp_all

lemma EntitySchema.buildWith_congr {classification : Classification} {entity : Entity}
    {index index' : Index} {types : TypeTable} (h : EnumsAgree entity index index') :
    buildWith classification entity index types = buildWith classification entity index' types := by
  unfold buildWith
  rw [mapM_congr fun field hfield => declare_congr (h field hfield)]

lemma EntitySchema.build_ofDocument (entity : Entity) (document : Document) (types : TypeTable) :
    build entity (Index.ofDocument document) types =
      buildWith entity.classify entity (Index.ofDocument document) types := by
  rw [build, Index.classificationOf_ofDocument]

/-- **Two documents, one schema.**  Neither document need hold the entity; either may hold others of
its name. -/
lemma EntitySchema.build_congr {entity : Entity} {document document' : Document}
    {types : TypeTable}
    (h : EnumsAgree entity (Index.ofDocument document) (Index.ofDocument document')) :
    build entity (Index.ofDocument document) types =
      build entity (Index.ofDocument document') types := by
  rw [build_ofDocument, build_ofDocument, buildWith_congr h]

/-- The generated file at the place of an entity is the one that its own schema gives. -/
lemma GenerationOptions.getElem?_of_generate {options : GenerationOptions} {document : Document}
    {files : List GeneratedFile} (generated : options.generate document = .ok files)
    {entity : Entity} {place : Nat} (hplace : document.entities[place]? = some entity) :
    ∃ schema, EntitySchema.build entity (Index.ofDocument document) options.types = .ok schema ∧
      files[place]? = some ⟨options.pathFor entity.name, sourceText options.package schema⟩ := by
  have hfiles := generate_eq_ok_iff.1 generated
  obtain ⟨hbound, rfl⟩ := List.getElem?_eq_some_iff.1 hplace
  have hbound' : place < files.length := hfiles.length_eq ▸ hbound
  obtain ⟨schema, hschema, hfile⟩ := hfiles.get hbound hbound'
  refine ⟨schema, hschema, ?_⟩
  rw [List.getElem?_eq_getElem hbound']
  exact congrArg some hfile

/-! ## Edits beside an entity -/

/-- Whether an enum field of an entity names an enum. -/
def Model.Entity.NamesEnum (entity : Entity) (name : String) : Prop :=
  ∃ field ∈ entity.fields, field.kind = .enumeration ∧ field.type = name

/-- One edit of a document that leaves alone an entity and the enums that it names. -/
inductive EditedBeside (entity : Entity) : Document → Document → Prop
  /-- Entities come, go, change or change places, also those of the same name. -/
  | entities {enums : List EnumDef} (others others' : List Entity) :
      EditedBeside entity ⟨enums, others⟩ ⟨enums, others'⟩
  | reorderEnums {enums enums' : List EnumDef} {entities : List Entity}
      (hperm : enums.Perm enums') (hdistinct : (enums.map EnumDef.name).Nodup) :
      EditedBeside entity ⟨enums, entities⟩ ⟨enums', entities⟩
  /-- Two neighbouring enums of different names change places, whatever names there are besides. -/
  | swapEnums {before after : List EnumDef} {first second : EnumDef} {entities : List Entity}
      (hne : first.name ≠ second.name) :
      EditedBeside entity ⟨before ++ first :: second :: after, entities⟩
        ⟨before ++ second :: first :: after, entities⟩
  | changeEnums {before removed added after : List EnumDef} {entities : List Entity}
      (hunnamed : ∀ definition ∈ removed ++ added, ¬ entity.NamesEnum definition.name) :
      EditedBeside entity ⟨before ++ removed ++ after, entities⟩
        ⟨before ++ added ++ after, entities⟩

/-- Items of distinct keys may change places without their filtering by a key noticing. -/
lemma filter_key_eq_of_perm {α κ : Type} [DecidableEq κ] {key : α → κ} {items items' : List α}
    (hperm : items.Perm items') (hdistinct : (items.map key).Nodup) (asked : κ) :
    items.filter (key · = asked) = items'.filter (key · = asked) := by
  have hfound := hperm.filter (key · = asked)
  have hkeys : ((items.filter (key · = asked)).map key).Nodup :=
    hdistinct.sublist (List.filter_sublist.map key)
  have hall : ∀ item ∈ items.filter (key · = asked), key item = asked := by simp
  -- Of distinct keys at most one is the key asked for.
  rcases hitems : items.filter (key · = asked) with _ | ⟨item, _ | ⟨other, rest⟩⟩
  · rw [hitems] at hfound
    exact (List.nil_perm.1 hfound).symm
  · rw [hitems] at hfound
    exact List.singleton_perm.1 hfound
  · rw [hitems] at hkeys hall
    have hsame : key item = key other :=
      (hall item (by simp)).trans (hall other (by simp)).symm
    simp [hsame] at hkeys

lemma filter_name_eq_nil {entity : Entity} {definitions : List EnumDef} {name : String}
    (hunnamed : ∀ definition ∈ definitions, ¬ entity.NamesEnum definition.name)
    (hname : entity.NamesEnum name) : definitions.filter (·.name = name) = [] := by
  rw [List.filter_eq_nil_iff]
  intro definition hmem hdefinition
  exact hunnamed definition hmem (of_decide_eq_true hdefinition ▸ hname)

/-- **One edit.**  It keeps the last enum of every name that the entity names. -/
lemma EditedBeside.lastEnum?_eq {entity : Entity} {document document' : Document}
    (hedit : EditedBeside entity document document') {name : String}
    (hname : entity.NamesEnum name) : document.lastEnum? name = document'.lastEnum? name := by
  unfold Document.lastEnum?
  cases hedit with
  | entities others others' => rfl
  | reorderEnums hperm hdistinct =>
    simp only [filter_key_eq_of_perm hperm hdistinct]
  | @swapEnums before after first second _ hne =>
    congr 1
    rw [List.filter_append, List.filter_append]
    by_cases hfirst : first.name = name
    · have hsecond : second.name ≠ name := fun h => hne (hfirst.trans h.symm)
      simp [hfirst, hsecond]
    · simp [List.filter_cons, hfirst]
  | changeEnums hunnamed =>
    rw [List.forall_mem_append] at hunnamed
    simp only [List.filter_append, filter_name_eq_nil hunnamed.1 hname,
      filter_name_eq_nil hunnamed.2 hname]

/-- **A series of edits.**  Afterwards every enum that the entity names is the one it was. -/
lemma EditedBeside.enumsAgree {entity : Entity} {document document' : Document}
    (hedits : Relation.ReflTransGen (EditedBeside entity) document document') :
    EnumsAgree entity (Index.ofDocument document) (Index.ofDocument document') := by
  intro field hfield hkind
  have hname : entity.NamesEnum field.type := ⟨field, hfield, hkind, rfl⟩
  have hlast : document.lastEnum? field.type = document'.lastEnum? field.type := by
    induction hedits with
    | refl => rfl
    | tail _ hedit ih => exact ih.trans (hedit.lastEnum?_eq hname)
  rw [Index.enum?_ofDocument, Index.enum?_ofDocument, hlast]

/-! ## The file of an entity -/

/-- The files of an entity are the same in two documents that agree on the enums that it names,
wherever it stands in either. -/
lemma GenerationOptions.file_eq_of_enumsAgree {options : GenerationOptions} {entity : Entity}
    {document document' : Document} {files files' : List GeneratedFile} {place place' : Nat}
    (hagree : EnumsAgree entity (Index.ofDocument document) (Index.ofDocument document'))
    (hplace : document.entities[place]? = some entity)
    (hplace' : document'.entities[place']? = some entity)
    (generated : options.generate document = .ok files)
    (generated' : options.generate document' = .ok files') :
    ∃ file, files[place]? = some file ∧ files'[place']? = some file := by
  obtain ⟨schema, hschema, hfile⟩ := getElem?_of_generate generated hplace
  obtain ⟨schema', hschema', hfile'⟩ := getElem?_of_generate generated' hplace'
  rw [EntitySchema.build_congr hagree, hschema', Except.ok.injEq] at hschema
  subst hschema
  exact ⟨_, hfile, hfile'⟩

/-- **The file of an entity depends on the entity and on the enums that it names.**  Built with the
index of any document its schema, or its fault, is decided by the values of those enums; the
classification that an index may hold for it is as good as a fresh one; and whatever series of edits
beside the entity leads from one document to another, both give it the same file. -/
theorem file_depends_only_on_entity (options : GenerationOptions) (entity : Entity) :
    (∀ document document' : Document,
      EnumsAgree entity (Index.ofDocument document) (Index.ofDocument document') →
        EntitySchema.build entity (Index.ofDocument document) options.types =
          EntitySchema.build entity (Index.ofDocument document') options.types) ∧
    (∀ (document : Document) (known : Classification),
      (Index.ofDocument document).classification? entity.name = some known →
      known.entity = entity →
        EntitySchema.buildWith known entity (Index.ofDocument document) options.types =
          EntitySchema.buildWith entity.classify entity (Index.ofDocument document)
            options.types) ∧
    ∀ (document document' : Document) (files files' : List GeneratedFile) (place place' : Nat),
      Relation.ReflTransGen (EditedBeside entity) document document' →
      document.entities[place]? = some entity → document'.entities[place']? = some entity →
      options.generate document = .ok files → options.generate document' = .ok files' →
        ∃ file, files[place]? = some file ∧ files'[place']? = some file := by
  refine ⟨fun document document' h => EntitySchema.build_congr h, ?_, ?_⟩
  · intro document known hknown hentity
    rw [Index.eq_classify_of_classification? hknown, hentity]
  · intro document document' files files' place place' hedits hplace hplace' hfiles hfiles'
    exact GenerationOptions.file_eq_of_enumsAgree (EditedBeside.enumsAgree hedits) hplace hplace'
      hfiles hfiles'

/-- An entity with the key of a relation and an enum field. -/
def memberEntity : Entity :=
  ⟨"Member", [.scalar "teamId" "String", .relation "team" "Team" ["teamId"],
    .enumeration "role" "Role"]⟩

/-- Another entity of the same name, in which the field of the key is an ordinary scalar. -/
def otherMemberEntity : Entity :=
  ⟨"Member", [.scalar "teamId" "String"]⟩

/-- The later of two entities of one name, whose classification the index holds, becomes the
earlier one, whose name leads to the classification of the other; its enum moves and an enum beside
it changes. -/
theorem memberEntity_file_unchanged :
    ∃ file files files',
      GenerationOptions.standard.generate
          ⟨[⟨"Role", ["OWNER"]⟩, ⟨"Status", ["OPEN"]⟩], [otherMemberEntity, memberEntity]⟩ =
        .ok files ∧
      GenerationOptions.standard.generate
          ⟨[⟨"Status", ["OPEN", "DONE"]⟩, ⟨"Role", ["OWNER"]⟩],
            [memberEntity, otherMemberEntity]⟩ = .ok files' ∧
      files[1]? = some file ∧ files'[0]? = some file := by
  have hswap : EditedBeside memberEntity
      ⟨[⟨"Role", ["OWNER"]⟩, ⟨"Status", ["OPEN"]⟩], [otherMemberEntity, memberEntity]⟩
      ⟨[⟨"Status", ["OPEN"]⟩, ⟨"Role", ["OWNER"]⟩], [otherMemberEntity, memberEntity]⟩ :=
    .reorderEnums (.swap ..) (by decide)
  have hchange : EditedBeside memberEntity
      ⟨[⟨"Status", ["OPEN"]⟩, ⟨"Role", ["OWNER"]⟩], [otherMemberEntity, memberEntity]⟩
      ⟨[⟨"Status", ["OPEN", "DONE"]⟩, ⟨"Role", ["OWNER"]⟩],
        [otherMemberEntity, memberEntity]⟩ := by
    refine @EditedBeside.changeEnums memberEntity [] [⟨"Status", ["OPEN"]⟩]
      [⟨"Status", ["OPEN", "DONE"]⟩] _ _ ?_
    simp [Model.Entity.NamesEnum, memberEntity, Field.scalar, Field.relation, Field.enumeration,
      Field.plain]
  have hentities : EditedBeside memberEntity
      ⟨[⟨"Status", ["OPEN", "DONE"]⟩, ⟨"Role", ["OWNER"]⟩], [otherMemberEntity, memberEntity]⟩
      ⟨[⟨"Status", ["OPEN", "DONE"]⟩, ⟨"Role", ["OWNER"]⟩], [memberEntity, otherMemberEntity]⟩ :=
    .entities ..
  obtain ⟨file, hfile, hfile'⟩ :=
    (file_depends_only_on_entity .standard memberEntity).2.2 _ _ _ _ 1 0
      (((Relation.ReflTransGen.single hswap).tail hchange).tail hentities) rfl rfl rfl rfl
  exact ⟨file, _, _, rfl, rfl, hfile, hfile'⟩

end EntSchema
