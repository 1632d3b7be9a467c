import EntSchema.Model.Classification
import EntSchema.Proofs.DecodingExactness

/-!
# Key lists of fields that are no relations

Key fields mean something for relations only, and classification goes by the lists of relations
alone.  Decoding does not: it takes over the list of every field, as the text has it.  So the key
fields that are gathered over all fields of an entity need not be the keys of its relations.

A list is *stray* when the value of a field has it and the kind beside it is no relation; this is
said of the text (`TextHasStrayKeys`), without decoding it.  The main result,
`keyFields_of_others_iff`, says that stray lists are all there is to it: without them only relations
have key fields, and an entity with them still agrees with its classification if its relations list
the same names.
-/

namespace EntSchema.Model

open Json (Value member?)

variable {α : Type}

/-! ## Stray lists in a text -/

/-- The members of a value that is read as a record. -/
def partsOf : Value → Parts
  | .object members => fun key _ => member? members key
  | .array items => fun _ place => items[place]?
  | _ => fun _ _ => none

/-- The items of a member that is a list; any other member, or a missing one, has none. -/
def itemsOf : Option Value → List Value
  | some (.array items) => items
  | _ => []

/-- The value of a field lists key fields, and its kind is no relation. -/
def ListsStrayKeys (value : Value) : Prop :=
  itemsOf (partsOf value "relationFromFields" 5) ≠ [] ∧
    ¬ Needed EncodesKind (partsOf value "kind" 1) .relation

/-- One of the fields of an entity lists stray keys. -/
def EntityHasStrayKeys (value : Value) : Prop :=
  ∃ field ∈ itemsOf (partsOf value "fields" 1), ListsStrayKeys field

/-- One of the entities of a data model has stray keys. -/
def DatamodelHasStrayKeys (value : Value) : Prop :=
  ∃ entity ∈ itemsOf (partsOf value "models" 1), EntityHasStrayKeys entity

/-- A text is JSON of a value that holds a data model with stray keys. -/
def TextHasStrayKeys (text : String) : Prop :=
  ∃ value datamodel, Json.parse text = .ok value ∧ HoldsDatamodel value datamodel ∧
    DatamodelHasStrayKeys datamodel

/-! ## Members of encodings -/

lemma EncodesRecord.has_partsOf {size : Nat} {Has : Parts → α → Prop} {value : Value} {a : α}
    (h : EncodesRecord size Has value a) : Has (partsOf value) a := by
  cases h with
  | object hparts => exact hparts
  | list hsize hparts => exact hparts

lemma EncodesList.forall₂_itemsOf {Encodes : Encoding α} {value : Value} {values : List α}
    (h : EncodesList Encodes value values) :
    List.Forall₂ Encodes (itemsOf (some value)) values := by
  obtain ⟨hitems⟩ := h
  exact hitems

lemma Needed.forall₂_itemsOf {Encodes : Encoding α} {part : Option Value} {values : List α}
    (h : Needed (EncodesList Encodes) part values) :
    List.Forall₂ Encodes (itemsOf part) values := by
  obtain ⟨hvalue⟩ := h
  exact hvalue.forall₂_itemsOf

lemma Defaulted.forall₂_itemsOf {Encodes : Encoding α} {part : Option Value} {values : List α}
    (h : Defaulted (EncodesList Encodes) [] part values) :
    List.Forall₂ Encodes (itemsOf part) values := by
  obtain hnone | hvalue := h
  · exact .nil
  · exact hvalue.forall₂_itemsOf

/-- The key fields of a field are the texts that its value lists, whatever its kind. -/
lemma FieldParts.forall₂_keyFields {part : Parts} {field : Field} (h : FieldParts part field) :
    List.Forall₂ EncodesText (itemsOf (part "relationFromFields" 5)) field.keyFields := by
  have hkeys := h.keyFields?
  unfold Field.keyFields
  generalize part "relationFromFields" 5 = given at hkeys
  generalize field.keyFields? = names at hkeys
  cases hkeys with
  | absent => exact .nil
  | given hvalue =>
    cases hvalue with
    | null => exact .nil
    | list hnames => exact hnames.forall₂_itemsOf

/-- A value encodes one kind. -/
lemma needed_relation_iff {part : Option Value} {kind : Kind} (h : Needed EncodesKind part kind) :
    Needed EncodesKind part .relation ↔ kind = .relation := by
  constructor
  · rintro ⟨hrelation⟩
    obtain ⟨hkind⟩ := h
    have hdecoded := (exact_decodeKind _ _).2 hkind
    rw [(exact_decodeKind _ _).2 hrelation] at hdecoded
    exact (Except.ok.inj hdecoded).symm
  · rintro rfl
    exact h

/-! ## Stray lists are taken over -/

lemma exists_mem_iff_of_forall₂ {β : Type} {p : α → Prop} {q : β → Prop} {xs : List α}
    {ys : List β} (h : List.Forall₂ (fun x y => p x ↔ q y) xs ys) :
    (∃ x ∈ xs, p x) ↔ ∃ y ∈ ys, q y := by
  induction h with
  | nil => simp
  | cons hfirst _ ih => simp only [List.exists_mem_cons_iff, hfirst, ih]

lemma EncodesField.listsStrayKeys_iff {value : Value} {field : Field}
    (h : EncodesField value field) :
    ListsStrayKeys value ↔ field.kind ≠ .relation ∧ field.keyFields ≠ [] := by
  have hparts : FieldParts (partsOf value) field := EncodesRecord.has_partsOf h
  have hlisted : itemsOf (partsOf value "relationFromFields" 5) = [] ↔ field.keyFields = [] := by
    rw [← List.length_eq_zero_iff, hparts.forall₂_keyFields.length_eq, List.length_eq_zero_iff]
  rw [ListsStrayKeys, needed_relation_iff hparts.kind, ne_eq, hlisted, and_comm]

lemma EncodesEntity.hasStrayKeys_iff {value : Value} {entity : Entity}
    (h : EncodesEntity value entity) :
    EntityHasStrayKeys value ↔
      ∃ field ∈ entity.fields, field.kind ≠ .relation ∧ field.keyFields ≠ [] := by
  have hparts : EntityParts (partsOf value) entity := EncodesRecord.has_partsOf h
  exact exists_mem_iff_of_forall₂ <|
    hparts.fields.forall₂_itemsOf.imp fun _ _ hfield => EncodesField.listsStrayKeys_iff hfield

lemma EncodesDocument.hasStrayKeys_iff {value : Value} {document : Document}
    (h : EncodesDocument value document) :
    DatamodelHasStrayKeys value ↔ ∃ entity ∈ document.entities,
      ∃ field ∈ entity.fields, field.kind ≠ .relation ∧ field.keyFields ≠ [] := by
  have hparts : DocumentParts (partsOf value) document := EncodesRecord.has_partsOf h
  exact exists_mem_iff_of_forall₂ <|
    hparts.entities.forall₂_itemsOf.imp fun _ _ hentity => EncodesEntity.hasStrayKeys_iff hentity

lemma textHasStrayKeys_iff {text : String} {document : Document}
    (h : Document.parse text = .ok document) :
    TextHasStrayKeys text ↔ ∃ entity ∈ document.entities,
      ∃ field ∈ entity.fields, field.kind ≠ .relation ∧ field.keyFields ≠ [] := by
  obtain ⟨value, hvalue, hdecode⟩ := bind_eq_ok_iff.1 h
  have hparse : Json.parse text = .ok value := mapError_eq_ok_iff.1 hvalue
  have hencodes : EncodesDocument (datamodelOf value) document :=
    (exact_decode _ _).1 (mapError_eq_ok_iff.1 hdecode)
  rw [← EncodesDocument.hasStrayKeys_iff hencodes]
  constructor
  · rintro ⟨found, datamodel, hfound, hholds, hstray⟩
    rw [hparse] at hfound
    obtain rfl := Except.ok.inj hfound
    rwa [holdsDatamodel_iff.1 hholds]
  · intro hstray
    exact ⟨value, datamodelOf value, hparse, holdsDatamodel_iff.2 rfl, hstray⟩

/-! ## Keys of all fields and keys of relations -/

/-- The key fields of all fields of an entity. -/
def Entity.allKeyFields (entity : Entity) : List String :=
  entity.fields.flatMap Field.keyFields

section Gathered

variable {entity : Entity}

/-- Where only relations have key fields, gathering over all fields gathers the keys of the
relations. -/
lemma allKeyFields_eq_relationKeys
    (h : ∀ field ∈ entity.fields, field.kind ≠ .relation → field.keyFields = []) :
    entity.allKeyFields = entity.relationKeys := by
  unfold Entity.allKeyFields Entity.relationKeys Entity.fieldsOf
  generalize entity.fields = fields at h ⊢
  induction fields with
  | nil => rfl
  | cons field rest ih =>
    obtain ⟨hfield, hrest⟩ := List.forall_mem_cons.1 h
    rw [List.flatMap_cons, ih hrest, List.filter_cons]
    by_cases hkind : field.kind = .relation
    · simp [hkind]
    · simp [hkind, hfield hkind]

/-- The keys gathered over all fields are those of the relations exactly when the relations list
what the other fields list. -/
lemma allKeyFields_same_iff :
    (∀ name, name ∈ entity.allKeyFields ↔ name ∈ entity.relationKeys) ↔
      ∀ field ∈ entity.fields, field.kind ≠ .relation →
        ∀ name ∈ field.keyFields, name ∈ entity.relationKeys := by
  constructor
  · intro hsame field hfield _ name hname
    exact (hsame name).1 (List.mem_flatMap.2 ⟨field, hfield, hname⟩)
  · intro hothers name
    constructor
    · intro hname
      obtain ⟨field, hfield, hlisted⟩ := List.mem_flatMap.1 hname
      by_cases hkind : field.kind = .relation
      · exact Entity.mem_relationKeys.2 ⟨field, hfield, hkind, hlisted⟩
      · exact hothers field hfield hkind name hlisted
    · intro hname
      obtain ⟨field, hfield, -, hlisted⟩ := Entity.mem_relationKeys.1 hname
      exact List.mem_flatMap.2 ⟨field, hfield, hlisted⟩

end Gathered

/-- **When key lists belong to relations only.**  In a document that was read from a text the other
fields have no key fields exactly when the text has no stray lists, and then the keys gathered over
all fields of an entity are those of its classification.  In any case the two are the same names
exactly when every name that another field lists is a key of some relation as well. -/
theorem keyFields_of_others_iff {text : String} {document : Document}
    (h : Document.parse text = .ok document) :
    ((∀ entity ∈ document.entities, ∀ field ∈ entity.fields,
        field.kind ≠ .relation → field.keyFields = []) ↔ ¬ TextHasStrayKeys text) ∧
    (¬ TextHasStrayKeys text →
      ∀ entity ∈ document.entities, entity.allKeyFields = entity.classify.relationKeys) ∧
    ∀ entity ∈ document.entities,
      (∀ name, name ∈ entity.allKeyFields ↔ name ∈ entity.classify.relationKeys) ↔
        ∀ field ∈ entity.fields, field.kind ≠ .relation → ∀ name ∈ field.keyFields,
          entity.classify.isRelationKey name = true := by
  have hothers : (∀ entity ∈ document.entities, ∀ field ∈ entity.fields,
      field.kind ≠ .relation → field.keyFields = []) ↔ ¬ TextHasStrayKeys text := by
    rw [textHasStrayKeys_iff h]
    push Not
    rfl
  refine ⟨hothers, fun hstray entity hentity => ?_, fun entity _ => ?_⟩
  · exact allKeyFields_eq_relationKeys (hothers.2 hstray entity hentity)
  · simp only [Entity.classify_relationKeys, Entity.isRelationKey_classify_iff,
      allKeyFields_same_iff]

/-- A text with one stray list, whose name a relation lists too.  The enum field has a list as well,
but an empty one. -/
def sharedKeyText : String :=
  r#"{"models":[["Tag",[["id","scalar","Int",true,null,["by"]],"# ++
    r#"["by","enum","By",true,null,[]],"# ++
    r#"["on",{"object":null},"Tag",true,null,["by"]]]]]}"#

/-- The entity of that text. -/
def sharedKeyEntity : Entity :=
  ⟨"Tag",
    [{ Field.scalar "id" "Int" with keyFields? := some ["by"] },
      { Field.enumeration "by" "By" with keyFields? := some [] },
      .relation "on" "Tag" ["by"]]⟩

theorem sharedKeyText_has_stray_keys :
    Document.parse sharedKeyText = .ok ⟨[], [sharedKeyEntity]⟩ ∧
    TextHasStrayKeys sharedKeyText ∧
    ∀ name, name ∈ sharedKeyEntity.allKeyFields ↔
      name ∈ sharedKeyEntity.classify.relationKeys := by
  have hparse : Document.parse sharedKeyText = .ok ⟨[], [sharedKeyEntity]⟩ := by decide +kernel
  obtain ⟨hothers, -, hsame⟩ := keyFields_of_others_iff hparse
  refine ⟨hparse, ?_, (hsame sharedKeyEntity List.mem_cons_self).2 (by decide)⟩
  by_contra hstray
  have hnone := hothers.2 hstray sharedKeyEntity List.mem_cons_self
  exact absurd hnone (by decide)

/-- A text whose only key list is that of a scalar. -/
def strayText : String :=
  r#"{"models":[{"name":"Account","fields":["# ++
    r#"{"name":"id","kind":"scalar","type":"Int","# ++
      r#""relationFromFields":["ownerId"]},"# ++
    r#"{"name":"ownerId","kind":"scalar","type":"String"}]}]}"#

/-- The entity of that text. -/
def strayEntity : Entity :=
  ⟨"Account",
    [{ Field.scalar "id" "Int" with keyFields? := some ["ownerId"] }, .scalar "ownerId" "String"]⟩

/-- A scalar keeps its key list, and the classification knows nothing of it. -/
theorem strayText_keeps_its_list :
    Document.parse strayText = .ok ⟨[], [strayEntity]⟩ ∧
    (∃ field ∈ strayEntity.fields, field.kind ≠ .relation ∧ field.keyFields = ["ownerId"]) ∧
    strayEntity.allKeyFields = ["ownerId"] ∧ strayEntity.classify.relationKeys = [] := by
  refine ⟨by decide +kernel, ?_, rfl, rfl⟩
  exact ⟨_, List.mem_cons_self, by decide, rfl⟩

end EntSchema.Model
