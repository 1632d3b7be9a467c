import EntSchema.Model.Index
import Mathlib.Data.List.Basic

/-!
# The last definition of a name

The index of a document is filled by going through the document once, every name taking the place
of an earlier one.  So a look-up in it answers with the *last* definition of the name: this is
`Index.enum?_ofDocument` for enums and `Index.classification?_ofDocument` for the classifications
of entities.

A name that several entities share makes the index hold the classification of the last of them.
`Index.classificationOf_ofDocument` is why that does no harm: whatever document the index was made
of, the classification that an entity is declared with is the one of its own fields.
-/

namespace EntSchema

namespace Entries

variable {κ α β : Type} [DecidableEq κ]

/-- Of the items that were put in under a key, the last one is found there. -/
lemma get?_foldl_put (key : β → κ) (value : β → α) (asked : κ) (items : List β)
    (entries : List (κ × α)) :
    get? asked (items.foldl (fun entries item => put (key item) (value item) entries) entries) =
      ((items.filter (key · = asked)).getLast?.map value).or (get? asked entries) := by
  induction items generalizing entries with
  | nil => rfl
  | cons item rest ih =>
    rw [List.foldl_cons, ih, get?_put, List.filter_cons]
    by_cases hkey : key item = asked
    · subst hkey
      cases hlast : (rest.filter (key · = key item)).getLast? <;>
        simp [List.getLast?_cons, hlast]
    · simp [hkey, Ne.symm hkey]

end Entries

namespace Model

/-! ## Last definitions -/

/-- The last enum of a name in a document. -/
def Document.lastEnum? (document : Document) (name : String) : Option EnumDef :=
  (document.enums.filter (·.name = name)).getLast?

/-- The last entity of a name in a document. -/
def Document.lastEntity? (document : Document) (name : String) : Option Entity :=
  (document.entities.filter (·.name = name)).getLast?

lemma Document.lastEnum?_eq_none_iff {document : Document} {name : String} :
    document.lastEnum? name = none ↔ ∀ definition ∈ document.enums, definition.name ≠ name := by
  simp [Document.lastEnum?]

/-- The last entity of a name is also the last one when the entities are numbered. -/
lemma Document.lastEntity?_eq (document : Document) (name : String) :
    document.lastEntity? name =
      (document.entities.zipIdx.filter (·.1.name = name)).getLast?.map Prod.fst := by
  unfold Document.lastEntity?
  conv_lhs => rw [← List.zipIdx_map_fst 0 document.entities, List.filter_map, List.getLast?_map]
  rfl

/-! ## The maps of an index -/

namespace Index

lemma foldl_insertEnum (definitions : List EnumDef) (index : Index) :
    definitions.foldl insertEnum index =
      { index with
        enums := definitions.foldl
          (fun entries definition => Entries.put definition.name definition entries)
          index.enums } := by
  induction definitions generalizing index with
  | nil => rfl
  | cons definition rest ih => exact ih (index.insertEnum definition)

lemma foldl_insertEntity (items : List (Entity × Nat)) (index : Index) :
    items.foldl (fun index (entity, position) => index.insertEntity ⟨position, entity⟩) index =
      { index with
        entities := items.foldl
          (fun entries item => Entries.put item.1.name (IndexedEntity.mk item.2 item.1) entries)
          index.entities
        classifications := items.foldl
          (fun entries item =>
            Entries.put item.1.name (IndexedClassification.mk item.2 item.1.classify) entries)
          index.classifications } := by
  induction items generalizing index with
  | nil => rfl
  | cons item rest ih => exact ih (index.insertEntity ⟨item.2, item.1⟩)

/-- Each of the maps of an index is filled on its own. -/
lemma ofDocument_eq (document : Document) :
    ofDocument document =
      ⟨document.enums.foldl
          (fun entries definition => Entries.put definition.name definition entries) [],
        document.entities.zipIdx.foldl
          (fun entries item => Entries.put item.1.name (IndexedEntity.mk item.2 item.1) entries)
          [],
        document.entities.zipIdx.foldl
          (fun entries item =>
            Entries.put item.1.name (IndexedClassification.mk item.2 item.1.classify) entries)
          []⟩ := by
  rw [ofDocument, foldl_insertEnum, foldl_insertEntity]
  rfl

/-- The enum that an index knows under a name is the last one of the document. -/
theorem enum?_ofDocument (document : Document) (name : String) :
    (ofDocument document).enum? name = document.lastEnum? name := by
  have hfound := Entries.get?_foldl_put EnumDef.name id name document.enums []
  rw [enum?, ofDocument_eq]
  simpa [Document.lastEnum?] using hfound

/-- The classification that an index knows under a name is that of the last entity of the
document. -/
theorem classification?_ofDocument (document : Document) (name : String) :
    (ofDocument document).classification? name =
      (document.lastEntity? name).map Entity.classify := by
  have hfound := Entries.get?_foldl_put (fun item : Entity × Nat => item.1.name)
    (fun item => IndexedClassification.mk item.2 item.1.classify) name document.entities.zipIdx []
  rw [classification?, indexedClassification?, ofDocument_eq, hfound, Entries.get?_nil,
    Option.or_none, document.lastEntity?_eq, Option.map_map, Option.map_map]
  rfl

/-- A classification in an index is the one of the entity that it says it is of. -/
lemma eq_classify_of_classification? {document : Document} {name : String}
    {known : Classification} (h : (ofDocument document).classification? name = some known) :
    known = known.entity.classify := by
  rw [classification?_ofDocument, Option.map_eq_some_iff] at h
  obtain ⟨entity, -, rfl⟩ := h
  rfl

/-- An entity is declared with the classification of its own fields, also when the index knows
another entity under its name, or none. -/
theorem classificationOf_ofDocument (document : Document) (entity : Entity) :
    (ofDocument document).classificationOf entity = entity.classify := by
  unfold classificationOf
  split
  · rename_i known hknown
    split
    · rename_i hentity
      rw [eq_classify_of_classification? hknown, hentity]
    · rfl
  · rfl

end Index

end Model

end EntSchema
