import EntSchema.Generation
import EntSchema.Proofs.LastDefinition
import EntSchema.Proofs.Traversal

/-!
# When generation fails

Generating the files of a document can fail for one reason only: an enum field names an enum that
the document does not define.  `Document.missingEnums` lists all such faults, entity by entity and
field by field, from the document alone; neither the index nor a classification occurs in it.

The main result is `generate_all_or_nothing`: generation fails exactly with the first fault of the
list, whatever comes behind it, and without a fault it gives one file per entity, in the order of
the document.  It is put together from one equation for each layer: `fault?_declare` for a field,
`fault?_build` for an entity and `fault?_generate` for a document.
-/

namespace EntSchema

open Model (Document Entity Field Index)

/-! ## The faults of a document -/

/-- Whether a field is an enum field whose enum the document does not define. -/
def Model.Document.lacksEnumOf (document : Document) (field : Field) : Bool :=
  field.kind = .enumeration && document.enums.all (·.name ≠ field.type)

/-- The faults of an entity, in the order of its fields. -/
def Model.Document.missingEnumsOf (document : Document) (entity : Entity) : List MissingEnum :=
  (entity.fields.filter document.lacksEnumOf).map fun field =>
    ⟨entity.name, field.name, field.type⟩

/-- The faults of a document, in the order of its entities and their fields. -/
def Model.Document.missingEnums (document : Document) : List MissingEnum :=
  document.entities.flatMap document.missingEnumsOf

lemma Model.Document.lacksEnumOf_iff {document : Document} {field : Field} :
    document.lacksEnumOf field = true ↔
      field.kind = .enumeration ∧ ∀ definition ∈ document.enums, definition.name ≠ field.type := by
  simp [Document.lacksEnumOf]

lemma Model.Document.lacksEnumOf_eq_isNone {document : Document} {field : Field}
    (hkind : field.kind = .enumeration) :
    document.lacksEnumOf field = (document.lastEnum? field.type).isNone := by
  rw [Bool.eq_iff_iff, Document.lacksEnumOf_iff, Option.isNone_iff_eq_none,
    Document.lastEnum?_eq_none_iff]
  simp [hkind]

lemma Model.Document.lacksEnumOf_of_ne {document : Document} {field : Field}
    (hkind : field.kind ≠ .enumeration) : document.lacksEnumOf field = false := by
  simp [Document.lacksEnumOf, hkind]

lemma Model.Document.missingEnums_eq_nil_iff {document : Document} :
    document.missingEnums = [] ↔
      ∀ entity ∈ document.entities, ∀ field ∈ entity.fields, field.kind = .enumeration →
        ∃ definition ∈ document.enums, definition.name = field.type := by
  simp [Document.missingEnums, Document.missingEnumsOf, Document.lacksEnumOf]

lemma Model.Document.missingEnums_ne_nil_iff {document : Document} :
    document.missingEnums ≠ [] ↔
      ∃ entity ∈ document.entities, ∃ field ∈ entity.fields, field.kind = .enumeration ∧
        ∀ definition ∈ document.enums, definition.name ≠ field.type := by
  rw [Ne, Document.missingEnums_eq_nil_iff]
  push Not
  rfl

/-! ## One equation for each layer -/

/-- Declaring a field fails for a missing enum and for nothing else: keys of relations, unmapped
types and defaults without a literal are passed over. -/
lemma fault?_declare (document : Document) (entity : Entity) (types : TypeTable) (field : Field) :
    fault? (declare entity.classify (Index.ofDocument document) types field) =
      if document.lacksEnumOf field then some ⟨entity.name, field.name, field.type⟩ else none := by
  cases hkind : field.kind with
  | relation =>
    rw [declare_of_relation hkind, Document.lacksEnumOf_of_ne (by simp [hkind])]
    rfl
  | enumeration =>
    rw [declare_of_enumeration hkind, Index.enum?_ofDocument,
      Document.lacksEnumOf_eq_isNone hkind]
    cases document.lastEnum? field.type <;> rfl
  | scalar =>
    rw [declare_of_scalar hkind, Document.lacksEnumOf_of_ne (by simp [hkind])]
    rfl

/-- Building a schema fails with the first fault of the entity. -/
lemma fault?_build (document : Document) (entity : Entity) (types : TypeTable) :
    fault? (EntitySchema.build entity (Index.ofDocument document) types) =
      (document.missingEnumsOf entity).head? := by
  rw [EntitySchema.build, Index.classificationOf_ofDocument, EntitySchema.buildWith,
    fault?_bind_pure, fault?_mapM, Document.missingEnumsOf, List.head?_map, List.head?_filter]
  induction entity.fields with
  | nil => rfl
  | cons field rest ih =>
    rw [List.findSome?_cons, List.find?_cons, fault?_declare]
    cases document.lacksEnumOf field with
    | true => rfl
    | false => exact ih

namespace GenerationOptions

variable {options : GenerationOptions} {document : Document}

/-- Generating the files of a document fails with the first fault of the document. -/
lemma fault?_generate (options : GenerationOptions) (document : Document) :
    fault? (options.generate document) = document.missingEnums.head? := by
  rw [generate, fault?_mapM, Document.missingEnums, List.head?_flatMap]
  congr 1
  funext entity
  rw [fileOf, fault?_bind_pure, fault?_build]

lemma generate_eq_error_iff {fault : MissingEnum} :
    options.generate document = .error fault ↔ document.missingEnums.head? = some fault := by
  rw [← fault?_generate options document, fault?_eq_some_iff]

lemma exists_generate_eq_error_iff :
    (∃ fault, options.generate document = .error fault) ↔ document.missingEnums ≠ [] := by
  simp only [generate_eq_error_iff]
  rw [← Option.isSome_iff_exists, List.isSome_head?]

lemma exists_generate_eq_ok_iff :
    (∃ files, options.generate document = .ok files) ↔ document.missingEnums = [] := by
  rw [← fault?_eq_none_iff, fault?_generate, List.head?_eq_none_iff]

/-- The file of an entity is at the path of its name and holds the text of its own schema. -/
lemma fileOf_eq_ok_iff {index : Index} {entity : Entity} {file : GeneratedFile} :
    options.fileOf index entity = .ok file ↔
      ∃ schema, EntitySchema.build entity index options.types = .ok schema ∧
        file = ⟨options.pathFor entity.name, sourceText options.package schema⟩ := by
  rw [fileOf, bind_pure_eq_ok_iff]
  simp only [eq_comm (a := file)]

/-- The generated files are those of the entities, each at its place. -/
lemma generate_eq_ok_iff {files : List GeneratedFile} :
    options.generate document = .ok files ↔
      List.Forall₂ (fun entity file =>
          ∃ schema, EntitySchema.build entity (Index.ofDocument document) options.types =
              .ok schema ∧
            file = ⟨options.pathFor entity.name, sourceText options.package schema⟩)
        document.entities files := by
  rw [generate, mapM_eq_ok_iff]
  simp only [fileOf_eq_ok_iff]

/-- **Generation is all or nothing.**  It fails exactly when some enum field names an enum that the
document does not define, and then with the first such field; nothing else makes it fail.
Otherwise there is one file per entity, in the order of the document, at the path of the name of the
entity and with the text of its schema. -/
theorem generate_all_or_nothing (options : GenerationOptions) (document : Document) :
    ((∃ fault, options.generate document = .error fault) ↔
      ∃ entity ∈ document.entities, ∃ field ∈ entity.fields, field.kind = .enumeration ∧
        ∀ definition ∈ document.enums, definition.name ≠ field.type) ∧
    (∀ fault, options.generate document = .error fault ↔
      document.missingEnums.head? = some fault) ∧
    ((∃ files, options.generate document = .ok files) ↔
      ∀ entity ∈ document.entities, ∀ field ∈ entity.fields, field.kind = .enumeration →
        ∃ definition ∈ document.enums, definition.name = field.type) ∧
    ∀ files, options.generate document = .ok files ↔
      List.Forall₂ (fun entity file =>
          ∃ schema, EntitySchema.build entity (Index.ofDocument document) options.types =
              .ok schema ∧
            file = ⟨options.pathFor entity.name, sourceText options.package schema⟩)
        document.entities files := by
  refine ⟨?_, fun fault => generate_eq_error_iff, ?_, fun files => generate_eq_ok_iff⟩
  · rw [exists_generate_eq_error_iff, Document.missingEnums_ne_nil_iff]
  · rw [exists_generate_eq_ok_iff, Document.missingEnums_eq_nil_iff]

/-- The second entity has the first fault; neither the unmapped type and the relation to nowhere
before it nor the fault behind it count. -/
example :
    standard.generate
        ⟨[⟨"Role", ["USER"]⟩],
          [⟨"User", [.enumeration "role" "Role", .scalar "place" "Unsupported"]⟩,
            ⟨"Post", [.relation "owner" "Nobody" [], .enumeration "status" "Status"]⟩,
            ⟨"Page", [.enumeration "layout" "Layout"]⟩]⟩ =
      .error ⟨"Post", "status", "Status"⟩ := rfl

end GenerationOptions

end EntSchema
