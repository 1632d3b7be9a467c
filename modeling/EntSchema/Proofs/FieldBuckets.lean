import EntSchema.Proofs.FieldAccounting
import Mathlib.Data.List.FinRange

/-!
# Classification parts the fields of an entity

The three lists of a classification, and with them the scalars that hold keys of relations, share
out the fields of the entity: every field goes to exactly one of them and each keeps the order of
the entity.  Fields may share a name, and even be equal, so `SharesOut` is about the places of the
list of fields and not about names or fields.

The main result is `classify_partitions_fields`.  It comes down to `bucket_classify`: a list of the
classification holds the fields that belong there by their kind and by what the relations list.
-/

namespace EntSchema

/-! ## Shares of a list -/

section Shares

variable {ι α : Type} {share : ι → List α} {items : List α}

/-- Lists that share out the places of a list among them: each holds the items of its own places,
in order, and every place belongs to exactly one of them. -/
def SharesOut (share : ι → List α) (items : List α) : Prop :=
  ∃ places : ι → List (Fin items.length),
    (∀ i, (places i).Pairwise (· < ·)) ∧
    (∀ i, share i = (places i).map (items[·])) ∧
    ∀ place, ∃! i, place ∈ places i

lemma SharesOut.sublist (h : SharesOut share items) (i : ι) : (share i).Sublist items := by
  obtain ⟨places, hsorted, hshare, -⟩ := h
  rw [hshare i]
  exact List.map_getElem_sublist (hsorted i)

/-- Items are shared out by what a function says of them. -/
lemma sharesOut_filter [DecidableEq ι] (f : α → ι) (items : List α) :
    SharesOut (fun i => items.filter (f · = i)) items := by
  refine ⟨fun i => (List.finRange items.length).filter fun place => f items[place] = i,
    fun i => ?_, fun i => ?_, fun place => ?_⟩
  · exact (List.pairwise_lt_finRange items.length).filter _
  · nth_rewrite 1 [← List.map_getElem_finRange items]
    exact List.filter_map
  · refine ⟨f items[place], by simp, fun i hi => ?_⟩
    exact (of_decide_eq_true (List.mem_filter.1 hi).2).symm

end Shares

namespace Model

/-! ## Buckets -/

/-- Where a field of an entity can go. -/
inductive Bucket where
  | enumeration
  | scalar
  | relation
  | key
  deriving DecidableEq, Repr

/-- The fields that a classification has in a bucket.  The keys have no list of their own; they are
the scalars of the entity whose names the classification takes for keys. -/
def Classification.bucket (classification : Classification) : Bucket → List Field
  | .enumeration => classification.enums
  | .scalar => classification.scalars
  | .relation => classification.relations
  | .key => classification.entity.fields.filter fun field =>
    field.kind = .scalar && classification.isRelationKey field.name

/-- The bucket that a field of an entity belongs in. -/
def Entity.bucketOf (entity : Entity) (field : Field) : Bucket :=
  match field.kind with
  | .enumeration => .enumeration
  | .relation => .relation
  | .scalar => if entity.listsKey field.name then .key else .scalar

section Entity

variable (entity : Entity)

/-- A bucket of the classification holds the fields that belong in it. -/
lemma bucket_classify (bucket : Bucket) :
    entity.classify.bucket bucket = entity.fields.filter (entity.bucketOf · = bucket) := by
  have hkeys (name : String) : entity.relationKeys.contains name = entity.listsKey name :=
    entity.isRelationKey_classify name
  unfold Classification.bucket Entity.bucketOf
  cases bucket with
  | enumeration =>
    refine List.filter_congr fun field _ => ?_
    cases field.kind <;> cases entity.listsKey field.name <;> rfl
  | scalar =>
    simp only [Entity.classify, Entity.fieldsOf, List.filter_filter, hkeys]
    refine List.filter_congr fun field _ => ?_
    cases field.kind <;> cases entity.listsKey field.name <;> rfl
  | relation =>
    refine List.filter_congr fun field _ => ?_
    cases field.kind <;> cases entity.listsKey field.name <;> rfl
  | key =>
    simp only [Entity.classify_entity, entity.isRelationKey_classify]
    refine List.filter_congr fun field _ => ?_
    cases field.kind <;> cases entity.listsKey field.name <;> rfl

/-- A classification partitions the fields of an entity. -/
structure Partitions (classification : Classification) : Prop where
  /-- Every field of the entity, at every place, is in exactly one of the buckets. -/
  sharesOut : SharesOut classification.bucket entity.fields
  /-- Each bucket keeps the order of the entity. -/
  sublist : ∀ bucket, (classification.bucket bucket).Sublist entity.fields
  enums : ∀ field ∈ classification.enums, field.kind = .enumeration
  scalars : ∀ field ∈ classification.scalars, field.kind = .scalar
  relations : ∀ field ∈ classification.relations, field.kind = .relation
  /-- The keys are the names that relations list; lists of other fields do not count. -/
  isRelationKey : ∀ name, classification.isRelationKey name = true ↔
    ∃ relation ∈ entity.fields, relation.kind = .relation ∧ name ∈ relation.keyFields
  /-- Where no relation has keys, no scalar is left out. -/
  noKeys : (∀ relation ∈ classification.relations, relation.keyFields = []) →
    classification.scalars = entity.fields.filter (·.kind = .scalar)

/-- **Classification partitions the fields of an entity.** -/
theorem classify_partitions_fields : Partitions entity entity.classify := by
  have hshares : SharesOut entity.classify.bucket entity.fields := by
    have hbuckets : entity.classify.bucket =
        fun bucket => entity.fields.filter (entity.bucketOf · = bucket) :=
      funext (bucket_classify entity)
    rw [hbuckets]
    exact sharesOut_filter entity.bucketOf entity.fields
  constructor
  case sharesOut => exact hshares
  case sublist => exact hshares.sublist
  case enums => exact fun field hfield => (Entity.mem_fieldsOf.1 hfield).2
  case scalars => exact fun field hfield => (Entity.mem_fieldsOf.1 (List.mem_filter.1 hfield).1).2
  case relations => exact fun field hfield => (Entity.mem_fieldsOf.1 hfield).2
  case isRelationKey =>
    exact fun name => Entity.isRelationKey_classify_iff.trans Entity.mem_relationKeys
  case noKeys =>
    intro hnone
    have hkeys : entity.relationKeys = [] := List.flatMap_eq_nil_iff.2 hnone
    refine List.filter_eq_self.2 fun field _ => ?_
    rw [hkeys]
    rfl

end Entity

end Model

end EntSchema
