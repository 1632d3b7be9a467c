import EntSchema.Model.Encoding
import EntSchema.Proofs.CanonicalValues
import EntSchema.Proofs.DecodingExactness

/-!
# Documents survive being written

A document that was read from a text is read back from the text that is written for it.  Two things
have to be known about it, and both come from its having been read.

* Its defaults are canonical values, and a default that is kept as it is never is one of the values
  that have a literal, or it would come back as that literal (`Field.HasCanonicalDefault`).
* Its defaults are not too deep: what is written for a document has as many levels around a default
  as the shallowest value that encodes the document.

That the parts of what was written encode the parts of the document is `ComesBack`, proved from the
inside of a document out.
-/

namespace EntSchema.Model

open Json (Value member? sortMembers IsCanonical ReadsBack MemberReadsBack)

variable {α : Type} {depth : Nat}

/-! ## Documents without floating-point numbers -/

/-- Whether there is no floating-point number in the default of a field. -/
def Field.isFloatFree (field : Field) : Bool :=
  field.default?.all fun default => default.toValue.isFloatFree

/-- Whether there is no floating-point number in any default of a document. -/
def Document.isFloatFree (document : Document) : Bool :=
  document.entities.all fun entity => entity.fields.all Field.isFloatFree

lemma Field.isFloatFree_written {field : Field} (h : field.isFloatFree = true) :
    (optionValue Default.toValue field.default?).isFloatFree = true := by
  unfold Field.isFloatFree at h
  cases hdefault : field.default? with
  | none => rfl
  | some default =>
    rw [hdefault] at h
    exact h

/-! ## Canonical defaults -/

/-- What is written for the default of a field encodes it and is canonical. -/
def Field.HasCanonicalDefault (depth : Nat) (field : Field) : Prop :=
  EncodesDefault (optionValue Default.toValue field.default?) field.default? ∧
    IsCanonical depth (optionValue Default.toValue field.default?)

/-- A default is written as the value that it was read from. -/
lemma EncodesDefault.optionValue_eq {value : Value} {default? : Option Default}
    (h : EncodesDefault value default?) : optionValue Default.toValue default? = value := by
  cases h <;> rfl

/-- The members of a canonical record are canonical. -/
lemma EncodesRecord.exists_parts {size : Nat} {Has : Parts → α → Prop} {value : Value} {a : α}
    (h : EncodesRecord size Has value a) (hvalue : IsCanonical (depth + 1) value) :
    ∃ part : Parts, Has part a ∧
      ∀ key place member, part key place = some member → IsCanonical depth member := by
  cases h with
  | @object members _ hparts =>
    cases hvalue with
    | object hsorted hmembers =>
      refine ⟨_, hparts, fun key place member hmember => ?_⟩
      exact hmembers _ (Entries.mem_of_get?_eq_some hmember)
  | @list items _ hsize hparts =>
    cases hvalue with
    | array hitems =>
      exact ⟨_, hparts, fun key place member hmember => hitems _ (List.mem_of_getElem? hmember)⟩

/-- The items of a canonical list are canonical. -/
lemma EncodesList.exists_of_mem {Encodes : Encoding α} {value : Value} {items : List α}
    (h : EncodesList Encodes value items) (hvalue : IsCanonical (depth + 1) value) :
    ∀ a ∈ items, ∃ item, Encodes item a ∧ IsCanonical depth item := by
  obtain ⟨hencodes⟩ := h
  cases hvalue with
  | array hcanonical =>
    induction hencodes with
    | nil => exact fun a hmem => absurd hmem List.not_mem_nil
    | @cons item a items values hfirst hothers ih =>
      obtain ⟨hitem, hitems⟩ := List.forall_mem_cons.1 hcanonical
      exact List.forall_mem_cons.2 ⟨⟨item, hfirst, hitem⟩, ih hitems⟩

lemma Needed.exists_eq_some {Encodes : Encoding α} {part : Option Value} {a : α}
    (h : Needed Encodes part a) : ∃ value, part = some value ∧ Encodes value a := by
  cases h with
  | given hvalue => exact ⟨_, rfl, hvalue⟩

lemma Defaulted.eq_or_exists {Encodes : Encoding α} {default : α} {part : Option Value} {a : α}
    (h : Defaulted Encodes default part a) :
    a = default ∨ ∃ value, part = some value ∧ Encodes value a := by
  cases h with
  | absent => exact .inl rfl
  | given hvalue => exact .inr ⟨_, rfl, hvalue⟩

lemma EncodesField.hasCanonicalDefault {value : Value} {field : Field}
    (h : EncodesField value field) (hvalue : IsCanonical (depth + 1) value) :
    field.HasCanonicalDefault depth := by
  obtain ⟨part, hparts, hcanonical⟩ := EncodesRecord.exists_parts h hvalue
  rcases hparts.default?.eq_or_exists with hnone | ⟨default, hpart, hencodes⟩
  · unfold Field.HasCanonicalDefault
    rw [hnone]
    exact ⟨.null, .null⟩
  · unfold Field.HasCanonicalDefault
    rw [hencodes.optionValue_eq]
    exact ⟨hencodes, hcanonical _ _ _ hpart⟩

lemma EncodesEntity.hasCanonicalDefault {value : Value} {entity : Entity}
    (h : EncodesEntity value entity) (hvalue : IsCanonical (depth + 3) value) :
    ∀ field ∈ entity.fields, field.HasCanonicalDefault depth := by
  obtain ⟨part, hparts, hcanonical⟩ := EncodesRecord.exists_parts h hvalue
  rcases hparts.fields.eq_or_exists with hnil | ⟨fields, hpart, hencodes⟩
  · rw [hnil]
    exact fun field hmem => absurd hmem List.not_mem_nil
  · intro field hmem
    obtain ⟨item, hitem, hdepth⟩ := hencodes.exists_of_mem (hcanonical _ _ _ hpart) field hmem
    exact EncodesField.hasCanonicalDefault hitem hdepth

/-- The defaults of a document lie at least five levels inside the values that encode it. -/
lemma EncodesDocument.hasCanonicalDefault {value : Value} {document : Document}
    (h : EncodesDocument value document) (hvalue : IsCanonical (depth + 5) value) :
    ∀ entity ∈ document.entities, ∀ field ∈ entity.fields, field.HasCanonicalDefault depth := by
  obtain ⟨part, hparts, hcanonical⟩ := EncodesRecord.exists_parts h hvalue
  obtain ⟨entities, hpart, hencodes⟩ := hparts.entities.exists_eq_some
  intro entity hmem
  obtain ⟨item, hitem, hdepth⟩ := hencodes.exists_of_mem (hcanonical _ _ _ hpart) entity hmem
  exact EncodesEntity.hasCanonicalDefault hitem hdepth

/-! ## What is written comes back -/

/-- What is written for a thing is read back as a value that encodes it. -/
def ComesBack (Encodes : Encoding α) (depth : Nat) (written : Value) (a : α) : Prop :=
  ∃ value, ReadsBack depth written value ∧ Encodes value a

lemma comesBack_list {Encodes : Encoding α} {toValue : α → Value} {items : List α}
    (h : ∀ a ∈ items, ComesBack Encodes depth (toValue a) a) :
    ComesBack (EncodesList Encodes) (depth + 1) (.array (items.map toValue)) items := by
  have hvalues : ∃ values, List.Forall₂ (ReadsBack depth) (items.map toValue) values ∧
      List.Forall₂ Encodes values items := by
    induction items with
    | nil => exact ⟨[], .nil, .nil⟩
    | cons a items ih =>
      obtain ⟨hfirst, hothers⟩ := List.forall_mem_cons.1 h
      obtain ⟨value, hread, hencodes⟩ := hfirst
      obtain ⟨values, hreads, hencode⟩ := ih hothers
      exact ⟨value :: values, .cons hread hreads, .cons hencodes hencode⟩
  obtain ⟨values, hreads, hencode⟩ := hvalues
  exact ⟨.array values, Json.readsBack_array hreads, .list hencode⟩

/-- A record is encoded by its members in any order. -/
lemma encodesRecord_sortMembers {size : Nat} {Has : Parts → α → Prop} {a : α}
    {members : List (String × Value)} (hkeys : (members.map Prod.fst).Nodup)
    (hparts : Has (fun key _ => member? members key) a) :
    EncodesRecord size Has (.object (sortMembers members)) a := by
  refine .object ?_
  have hsorted : (fun key (_ : Nat) => member? (sortMembers members) key) =
      fun key _ => member? members key := by
    funext key _
    exact Json.member?_sortMembers hkeys key
  rw [hsorted]
  exact hparts

lemma comesBack_record {size : Nat} {Has : Parts → α → Prop} {a : α}
    {written members : List (String × Value)}
    (hreads : List.Forall₂ (MemberReadsBack depth) written members)
    (hkeys : (members.map Prod.fst).Nodup) (hparts : Has (fun key _ => member? members key) a) :
    ComesBack (EncodesRecord size Has) (depth + 1) (.object written) a :=
  ⟨_, Json.readsBack_object hreads, encodesRecord_sortMembers hkeys hparts⟩

lemma readsBack_textMember (key text : String) :
    MemberReadsBack depth (key, .string text) (key, .string text) :=
  (Json.readsBack_string text).member key

lemma comesBack_enumValue (name : String) :
    ComesBack EncodesEnumValue (depth + 1) (.object [("name", .string name)]) name := by
  refine comesBack_record (.cons (readsBack_textMember "name" name) .nil) ?_ ⟨.given (.text name)⟩
  simp

lemma comesBack_enum (definition : EnumDef) :
    ComesBack EncodesEnum (depth + 3) definition.toValue definition := by
  obtain ⟨values, hread, hencodes⟩ : ComesBack (EncodesList EncodesEnumValue) (depth + 2)
      (.array (definition.values.map fun name => .object [("name", .string name)]))
      definition.values :=
    comesBack_list fun name _ => comesBack_enumValue name
  refine comesBack_record (.cons (readsBack_textMember "name" definition.name)
    (.cons (hread.member "values") .nil)) ?_ ⟨.given (.text _), .given hencodes⟩
  simp

lemma comesBack_keyFields (names? : Option (List String)) :
    ComesBack EncodesKeyFields (depth + 1)
      (optionValue (fun names => .array (names.map .string)) names?) names? := by
  cases names? with
  | none => exact ⟨.null, Json.readsBack_null, .null⟩
  | some names =>
    obtain ⟨value, hread, hencodes⟩ : ComesBack (EncodesList EncodesText) (depth + 1)
        (.array (names.map .string)) names :=
      comesBack_list fun name _ => ⟨_, Json.readsBack_string name, .text name⟩
    exact ⟨value, hread, .list hencodes⟩

lemma encodesKind_name (kind : Kind) : EncodesKind (.string kind.name) kind := by
  cases kind with
  | scalar => exact .name .scalar
  | enumeration => exact .name .enumeration
  | relation => exact .name .object

lemma comesBack_field {field : Field} (hdefault : field.HasCanonicalDefault (depth + 1))
    (hfree : field.isFloatFree = true) :
    ComesBack EncodesField (depth + 2) field.toValue field := by
  obtain ⟨hencodes, hcanonical⟩ := hdefault
  have hdefaultRead := Json.readsBack_of_isCanonical hcanonical (Field.isFloatFree_written hfree)
  obtain ⟨keys, hkeysRead, hkeys⟩ : ComesBack EncodesKeyFields (depth + 1) _ field.keyFields? :=
    comesBack_keyFields field.keyFields?
  refine comesBack_record (.cons (readsBack_textMember "name" field.name)
    (.cons (readsBack_textMember "kind" field.kind.name)
    (.cons (readsBack_textMember "type" field.type)
    (.cons ((Json.readsBack_bool field.isRequired).member "isRequired")
    (.cons (hdefaultRead.member "default")
    (.cons (hkeysRead.member "relationFromFields") .nil)))))) ?_
    ⟨.given (.text _), .given (encodesKind_name _), .given (.text _), .given (.bool _),
      .given hencodes, .given hkeys⟩
  simp

lemma comesBack_entity {entity : Entity}
    (hdefaults : ∀ field ∈ entity.fields, field.HasCanonicalDefault (depth + 1))
    (hfree : entity.fields.all Field.isFloatFree = true) :
    ComesBack EncodesEntity (depth + 4) entity.toValue entity := by
  rw [List.all_eq_true] at hfree
  obtain ⟨fields, hread, hencodes⟩ : ComesBack (EncodesList EncodesField) (depth + 3)
      (.array (entity.fields.map Field.toValue)) entity.fields :=
    comesBack_list fun field hmem => comesBack_field (hdefaults field hmem) (hfree field hmem)
  refine comesBack_record (.cons (readsBack_textMember "name" entity.name)
    (.cons (hread.member "fields") .nil)) ?_ ⟨.given (.text _), .given hencodes⟩
  simp

/-- What is written for a document is itself the data model: it has no member that could be taken
for one. -/
lemma readsBack_document {document : Document}
    (hdefaults : ∀ entity ∈ document.entities, ∀ field ∈ entity.fields,
      field.HasCanonicalDefault (depth + 1)) (hfree : document.isFloatFree = true) :
    ∃ value, ReadsBack (depth + 6) document.toValue value ∧ datamodelOf value = value ∧
      EncodesDocument value document := by
  rw [Document.isFloatFree, List.all_eq_true] at hfree
  obtain ⟨enums, henumsRead, henums⟩ : ComesBack (EncodesList EncodesEnum) (depth + 5)
      (.array (document.enums.map EnumDef.toValue)) document.enums :=
    comesBack_list fun definition _ => comesBack_enum definition
  obtain ⟨entities, hentitiesRead, hentities⟩ : ComesBack (EncodesList EncodesEntity) (depth + 5)
      (.array (document.entities.map Entity.toValue)) document.entities :=
    comesBack_list fun entity hmem => comesBack_entity (hdefaults entity hmem) (hfree entity hmem)
  have hkeys : ([("enums", enums), ("models", entities)].map Prod.fst).Nodup := by simp
  refine ⟨_, Json.readsBack_object (.cons (henumsRead.member "enums")
    (.cons (hentitiesRead.member "models") .nil)), ?_,
    encodesRecord_sortMembers hkeys ⟨.given henums, .given hentities⟩⟩
  have hnone :
      member? (sortMembers [("enums", enums), ("models", entities)]) "datamodel" = none := by
    rw [Json.member?_sortMembers hkeys]
    rfl
  rw [datamodelOf, hnone]
  rfl

/-! ## Texts -/

lemma isCanonical_datamodelOf {value : Value} (h : IsCanonical depth value) :
    IsCanonical depth (datamodelOf value) := by
  cases h with
  | @object depth members hsorted hmembers =>
    cases hmember : member? members "datamodel" with
    | none =>
      rw [datamodelOf, hmember]
      exact .object hsorted hmembers
    | some datamodel =>
      rw [datamodelOf, hmember]
      exact (hmembers _ (Entries.mem_of_get?_eq_some hmember)).mono (Nat.le_succ depth)
  | null => exact .null
  | bool value => exact .bool value
  | number hfits => exact .number hfits
  | string value => exact .string value
  | array hitems => exact .array hitems

/-- **Documents survive being written.**  A document that was read from a text, and has no
floating-point number in its defaults, is read back from the text that is written for it. -/
theorem parse_toText_of_parse {text : String} {document : Document}
    (h : Document.parse text = .ok document) (hfree : document.isFloatFree = true) :
    Document.parse document.toText = .ok document := by
  obtain ⟨value, hvalue, hdecode⟩ := bind_eq_ok_iff.1 h
  have hcanonical : IsCanonical Json.greatestDepth (datamodelOf value) :=
    isCanonical_datamodelOf (Json.isCanonical_of_parse (mapError_eq_ok_iff.1 hvalue))
  have hencodes : EncodesDocument (datamodelOf value) document :=
    (exact_decode _ _).1 (mapError_eq_ok_iff.1 hdecode)
  obtain ⟨written, hread, hbare, hwritten⟩ :=
    readsBack_document (EncodesDocument.hasCanonicalDefault hencodes hcanonical) hfree
  have hparse : Json.parse document.toText = .ok written := Json.parse_compact hread
  refine bind_eq_ok_iff.2 ⟨written, mapError_eq_ok_iff.2 hparse, mapError_eq_ok_iff.2 ?_⟩
  rw [hbare]
  exact (exact_decode _ _).2 hwritten

/-- Lists for records, a kind by its other name, keys out of order and escapes are all written
another way, and mean the same. -/
theorem bio_survives_writing :
    ∃ document : Document,
      document.entities = [⟨"User", [⟨"bio", .scalar, "Text", false,
        some (.other (.array
          [.object [("a", .number (.integer (-7))), ("b", .null)], .string "\x01\""])),
        none⟩]⟩] ∧
      Document.parse r#"{"datamodel":[[],[["User",[["bio","unsupported","Text",
        false,[{"b":null,"a":-7},"\u0001\""]]]]]]}"# = .ok document ∧
      document.isFloatFree = true ∧ Document.parse document.toText = .ok document := by
  refine ⟨⟨[], _⟩, rfl, ?read, ?free, parse_toText_of_parse ?read ?free⟩
  case read => decide +kernel
  case free => rfl

end EntSchema.Model
