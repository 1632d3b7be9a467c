import EntSchema.Proofs.DistinctValues
import EntSchema.Proofs.LastDefinition

/-!
# What an index knows of a document

The maps of an index are filled by putting in one item after another, so what is found under a name
is the last item that has it, wherever in the document that stands (`IsLastOf`), and the keys of a
map are the different names (`length_foldl_put`).

Entities and classifications go into two maps.  That an entry of one has the place of the entry of
the other and is made of the entity there is an invariant of every insertion, `Index.InStep`.  From
it, and not from what the maps answer, it follows that a classification belongs to the occurrence
that is found beside it, also where the document has equal entities.  The main result,
`ofDocument_views_last`, puts this together.
-/

namespace EntSchema

namespace Entries

/-! ## Keys of filled maps -/

section Keys

variable {κ α β : Type} [DecidableEq κ]

lemma mem_keys_put {key asked : κ} {value : α} {entries : List (κ × α)} :
    asked ∈ (put key value entries).map Prod.fst ↔
      asked = key ∨ asked ∈ entries.map Prod.fst := by
  rw [keys_put]
  split
  · rename_i hold
    constructor
    · exact .inr
    · rintro (rfl | hasked)
      · exact hold
      · exact hasked
  · rw [List.mem_append, List.mem_singleton, or_comm]

lemma nodup_keys_put {key : κ} {value : α} {entries : List (κ × α)}
    (h : (entries.map Prod.fst).Nodup) : ((put key value entries).map Prod.fst).Nodup := by
  rw [keys_put]
  split
  · exact h
  · rename_i hnew
    exact List.nodup_append.2 ⟨h, List.nodup_singleton key, fun old hold other hother heq =>
      hnew (List.mem_singleton.1 hother ▸ heq ▸ hold)⟩

variable (key : β → κ) (value : β → α) (items : List β)

lemma mem_keys_foldl_put {asked : κ} {entries : List (κ × α)} :
    asked ∈ (items.foldl (fun entries item => put (key item) (value item) entries)
        entries).map Prod.fst ↔
      asked ∈ items.map key ∨ asked ∈ entries.map Prod.fst := by
  induction items generalizing entries with
  | nil => simp
  | cons item rest ih =>
    rw [List.foldl_cons, ih, mem_keys_put, List.map_cons, List.mem_cons]
    tauto

lemma nodup_keys_foldl_put {entries : List (κ × α)} (h : (entries.map Prod.fst).Nodup) :
    ((items.foldl (fun entries item => put (key item) (value item) entries)
      entries).map Prod.fst).Nodup := by
  induction items generalizing entries with
  | nil => exact h
  | cons item rest ih => exact ih (nodup_keys_put h)

/-- A map that is filled from nothing has as many entries as there are different keys. -/
lemma length_foldl_put :
    (items.foldl (fun entries item => put (key item) (value item) entries) []).length =
      (items.map key).dedup.length := by
  rw [← List.length_map Prod.fst]
  refine length_eq_length_dedup (nodup_keys_foldl_put key value items List.nodup_nil) ?_
  intro asked
  rw [mem_keys_foldl_put]
  simp

end Keys

/-! ## Maps of the same entries -/

section Values

variable {κ α β : Type} [DecidableEq κ] (f : α → β)

lemma map_put (key : κ) (value : α) (entries : List (κ × α)) :
    (put key value entries).map (Prod.map id f) =
      put key (f value) (entries.map (Prod.map id f)) := by
  induction entries with
  | nil => rfl
  | cons entry rest ih =>
    obtain ⟨other, kept⟩ := entry
    rw [put, List.map_cons, Prod.map_apply, id_eq, put]
    split
    · rfl
    · rw [List.map_cons, ih]
      rfl

lemma get?_map (asked : κ) (entries : List (κ × α)) :
    get? asked (entries.map (Prod.map id f)) = (get? asked entries).map f := by
  induction entries with
  | nil => rfl
  | cons entry rest ih =>
    obtain ⟨other, kept⟩ := entry
    rw [List.map_cons, Prod.map_apply, id_eq, get?, get?, ih]
    split <;> rfl

end Values

end Entries

namespace Model

/-! ## The last item of a name -/

section Last

variable {α : Type} {nameOf : α → String} {items : List α} {name : String}

/-- An item stands at a place of a list under a name that no item behind it has. -/
def IsLastOf (nameOf : α → String) (items : List α) (name : String) (place : Nat) (item : α) :
    Prop :=
  nameOf item = name ∧ ∃ before after, items = before ++ item :: after ∧ before.length = place ∧
    ∀ other ∈ after, nameOf other ≠ name

lemma getLast?_filter_eq_some_iff {p : α → Bool} {item : α} :
    (items.filter p).getLast? = some item ↔
      p item = true ∧ ∃ before after, items = before ++ item :: after ∧
        ∀ other ∈ after, p other = false := by
  rw [List.getLast?_filter, List.find?_eq_some_iff_append]
  refine and_congr_right fun _ => ⟨?_, ?_⟩
  · rintro ⟨after, before, hitems, hafter⟩
    refine ⟨before.reverse, after.reverse, ?_, fun other hother => ?_⟩
    · simpa using congrArg List.reverse hitems
    · simpa using hafter other (List.mem_reverse.1 hother)
  · rintro ⟨before, after, rfl, hafter⟩
    refine ⟨after.reverse, before.reverse, by simp, fun other hother => ?_⟩
    simpa using hafter other (List.mem_reverse.1 hother)

lemma getLast?_filter_name_eq_some_iff {item : α} :
    (items.filter (nameOf · = name)).getLast? = some item ↔
      ∃ place, IsLastOf nameOf items name place item := by
  rw [getLast?_filter_eq_some_iff]
  constructor
  · rintro ⟨hname, before, after, hitems, hafter⟩
    exact ⟨before.length, by simpa using hname, before, after, hitems, rfl, by simpa using hafter⟩
  · rintro ⟨place, hname, before, after, hitems, -, hafter⟩
    exact ⟨by simpa using hname, before, after, hitems, by simpa using hafter⟩

/-- The places that the items of a list are numbered with are where they stand. -/
lemma getLast?_filter_zipIdx_eq_some_iff {item : α} {place : Nat} :
    (items.zipIdx.filter (nameOf ·.1 = name)).getLast? = some (item, place) ↔
      IsLastOf nameOf items name place item := by
  rw [getLast?_filter_eq_some_iff]
  constructor
  · rintro ⟨hname, before, after, hitems, hafter⟩
    have hsplit : items = before.map Prod.fst ++ item :: after.map Prod.fst := by
      simpa [List.zipIdx_map_fst] using congrArg (List.map Prod.fst) hitems
    have hplace : items.zipIdx[before.length]? = some (item, place) := by
      rw [hitems, List.getElem?_append_right (Nat.le_refl _), Nat.sub_self]
      rfl
    rw [List.getElem?_zipIdx, Option.map_eq_some_iff] at hplace
    obtain ⟨found, -, heq⟩ := hplace
    refine ⟨by simpa using hname, _, _, hsplit, ?_, ?_⟩
    · simpa using congrArg Prod.snd heq
    · rintro _ hother
      obtain ⟨other, hmem, rfl⟩ := List.mem_map.1 hother
      simpa using hafter other hmem
  · rintro ⟨hname, before, after, rfl, rfl, hafter⟩
    refine ⟨by simpa using hname, before.zipIdx, after.zipIdx (before.length + 1), ?_, ?_⟩
    · simp [List.zipIdx_append, List.zipIdx_cons]
    · intro other hother
      simpa using hafter other.1 (List.fst_mem_of_mem_zipIdx hother)

end Last

namespace Index

/-! ## Entities -/

/-- The entity that an index knows under a name is the last one of the document, with its place. -/
lemma entity?_ofDocument (document : Document) (name : String) :
    (ofDocument document).entity? name =
      (document.entities.zipIdx.filter (·.1.name = name)).getLast?.map
        fun item => ⟨item.2, item.1⟩ := by
  have hfound := Entries.get?_foldl_put (fun item : Entity × Nat => item.1.name)
    (fun item => IndexedEntity.mk item.2 item.1) name document.entities.zipIdx []
  rw [entity?, ofDocument_eq, hfound, Entries.get?_nil, Option.or_none]

lemma entity?_ofDocument_eq_some_iff {document : Document} {name : String} {place : Nat}
    {entity : Entity} :
    (ofDocument document).entity? name = some ⟨place, entity⟩ ↔
      IsLastOf Entity.name document.entities name place entity := by
  rw [entity?_ofDocument, Option.map_eq_some_iff, ← getLast?_filter_zipIdx_eq_some_iff]
  constructor
  · rintro ⟨item, hitem, heq⟩
    cases heq
    exact hitem
  · intro hlast
    exact ⟨(entity, place), hlast, rfl⟩

lemma entity?_ofDocument_eq_none_iff {document : Document} {name : String} :
    (ofDocument document).entity? name = none ↔
      ∀ entity ∈ document.entities, entity.name ≠ name := by
  rw [entity?_ofDocument, Option.map_eq_none_iff, List.getLast?_eq_none_iff,
    List.filter_eq_nil_iff]
  constructor
  · intro h entity hentity
    rw [← List.zipIdx_map_fst 0 document.entities] at hentity
    obtain ⟨item, hitem, rfl⟩ := List.mem_map.1 hentity
    simpa using h item hitem
  · intro h item hitem
    simpa using h item.1 (List.fst_mem_of_mem_zipIdx hitem)

/-! ## Maps in step -/

/-- Entry by entry, the classifications of an index are made of its entities and keep their
places. -/
def InStep (index : Index) : Prop :=
  index.classifications = index.entities.map
    (Prod.map id fun indexed => ⟨indexed.position, indexed.entity.classify⟩)

lemma InStep.insertEnum {index : Index} (h : index.InStep) (definition : EnumDef) :
    (index.insertEnum definition).InStep := h

lemma InStep.insertEntity {index : Index} (h : index.InStep) (indexed : IndexedEntity) :
    (index.insertEntity indexed).InStep := by
  unfold InStep at h ⊢
  rw [Index.insertEntity, h, Entries.map_put]

lemma inStep_ofDocument (document : Document) : (ofDocument document).InStep := by
  have henums : (document.enums.foldl Index.insertEnum empty).InStep :=
    List.foldlRecOn (motive := InStep) _ _ rfl fun _ h definition _ => h.insertEnum definition
  exact List.foldlRecOn (motive := InStep) _ _ henums fun _ h _ _ => h.insertEntity _

lemma InStep.indexedClassification?_eq {index : Index} (h : index.InStep) (name : String) :
    index.indexedClassification? name =
      (index.entity? name).map fun indexed => ⟨indexed.position, indexed.entity.classify⟩ := by
  rw [indexedClassification?, h, Entries.get?_map, entity?]

lemma InStep.classification?_eq {index : Index} (h : index.InStep) (name : String) :
    index.classification? name =
      (index.entity? name).map fun indexed => indexed.entity.classify := by
  rw [classification?, h.indexedClassification?_eq, Option.map_map]
  rfl

lemma InStep.indexedClassification?_eq_some_iff {index : Index} (h : index.InStep) {name : String}
    {place : Nat} {classification : Classification} :
    index.indexedClassification? name = some ⟨place, classification⟩ ↔
      ∃ entity, index.entity? name = some ⟨place, entity⟩ ∧ classification = entity.classify := by
  rw [h.indexedClassification?_eq, Option.map_eq_some_iff]
  constructor
  · rintro ⟨indexed, hindexed, heq⟩
    cases heq
    exact ⟨indexed.entity, hindexed, rfl⟩
  · rintro ⟨entity, hentity, rfl⟩
    exact ⟨⟨place, entity⟩, hentity, rfl⟩

end Index

/-! ## The view of a document -/

/-- An index is the view of a document in which the last definition of a name counts. -/
structure ViewsLast (document : Document) (index : Index) : Prop where
  /-- An enum is found under a name exactly when it is the last one of that name. -/
  enum? : ∀ name definition, index.enum? name = some definition ↔
    ∃ place, IsLastOf EnumDef.name document.enums name place definition
  noEnum : ∀ name, index.enum? name = none ↔
    ∀ definition ∈ document.enums, definition.name ≠ name
  /-- An entity is found under a name, with its place, exactly when it is the last one of that
  name. -/
  entity? : ∀ name place entity, index.entity? name = some ⟨place, entity⟩ ↔
    IsLastOf Entity.name document.entities name place entity
  noEntity : ∀ name, index.entity? name = none ↔
    ∀ entity ∈ document.entities, entity.name ≠ name
  inStep : index.InStep
  /-- A classification belongs to the very occurrence that is found under its name. -/
  occurrence : ∀ name place classification,
    index.indexedClassification? name = some ⟨place, classification⟩ ↔
      ∃ entity, index.entity? name = some ⟨place, entity⟩ ∧ classification = entity.classify
  noClassification : ∀ name, index.indexedClassification? name = none ↔ index.entity? name = none
  classification? : ∀ name, index.classification? name =
    (index.entity? name).map fun indexed => indexed.entity.classify
  /-- A classification says itself which entity it is of. -/
  classified : ∀ name, (index.classification? name).map Classification.entity =
    (index.entity? name).map IndexedEntity.entity
  enumCount : index.enumCount = (document.enums.map EnumDef.name).dedup.length
  /-- As many enums are counted as there are exactly when no two have one name. -/
  allEnums : index.enumCount = document.enums.length ↔
    (document.enums.map EnumDef.name).Nodup
  entityCount : index.entityCount = (document.entities.map Entity.name).dedup.length
  /-- As many entities are counted as there are exactly when no two have one name. -/
  allEntities : index.entityCount = document.entities.length ↔
    (document.entities.map Entity.name).Nodup

/-- **The last definition of a name counts.**  The index of any document is its view in which the
last definition of a name counts, with its maps in step. -/
theorem ofDocument_views_last (document : Document) :
    ViewsLast document (Index.ofDocument document) := by
  have hstep := Index.inStep_ofDocument document
  have henums : (Index.ofDocument document).enumCount =
      (document.enums.map EnumDef.name).dedup.length := by
    rw [Index.enumCount, Index.ofDocument_eq]
    exact Entries.length_foldl_put EnumDef.name id document.enums
  have hentities : (Index.ofDocument document).entityCount =
      (document.entities.map Entity.name).dedup.length := by
    have hnames : document.entities.zipIdx.map (fun item => item.1.name) =
        document.entities.map Entity.name := by
      rw [← Function.comp_def Entity.name Prod.fst, ← List.map_map, List.zipIdx_map_fst]
    rw [Index.entityCount, Index.ofDocument_eq, Entries.length_foldl_put, hnames]
  constructor
  case enum? =>
    intro name definition
    rw [Index.enum?_ofDocument, Document.lastEnum?, getLast?_filter_name_eq_some_iff]
  case noEnum =>
    intro name
    rw [Index.enum?_ofDocument, Document.lastEnum?_eq_none_iff]
  case entity? => exact fun _ _ _ => Index.entity?_ofDocument_eq_some_iff
  case noEntity => exact fun _ => Index.entity?_ofDocument_eq_none_iff
  case inStep => exact hstep
  case occurrence => exact fun _ _ _ => hstep.indexedClassification?_eq_some_iff
  case noClassification =>
    intro name
    rw [hstep.indexedClassification?_eq, Option.map_eq_none_iff]
  case classification? => exact hstep.classification?_eq
  case classified =>
    intro name
    rw [hstep.classification?_eq, Option.map_map]
    rfl
  case enumCount => exact henums
  case allEnums =>
    rw [henums, ← length_dedup_eq_iff, List.length_map]
  case entityCount => exact hentities
  case allEntities =>
    rw [hentities, ← length_dedup_eq_iff, List.length_map]

/-- Of two equal entities the index knows the later one, and its classification. -/
example :
    let index := Index.ofDocument ⟨[], [⟨"User", []⟩, ⟨"Tag", []⟩, ⟨"User", []⟩]⟩
    index.entity? "User" = some ⟨2, ⟨"User", []⟩⟩ ∧
      index.indexedClassification? "User" = some ⟨2, ⟨⟨"User", []⟩, [], [], [], []⟩⟩ ∧
      index.entityCount = 2 :=
  ⟨rfl, rfl, rfl⟩

end Model

end EntSchema
