import Mathlib.Data.List.Dedup
import Mathlib.Data.List.Perm.Lattice

/-!
# Counting distinct values

Maps and stores hold one entry per key, so what they count are the distinct values of a list,
`List.dedup`.  Such a count is found from membership alone (`length_eq_length_dedup`), it is the
length of the list exactly when no value comes twice (`length_dedup_eq_iff`), and functions that
tell the same items apart have the same count (`length_dedup_map_eq`).
-/

namespace EntSchema

variable {α β γ : Type} [DecidableEq β] [DecidableEq γ]

lemma length_eq_length_dedup {values others : List β} (hdistinct : values.Nodup)
    (hmem : ∀ value, value ∈ values ↔ value ∈ others) : values.length = others.dedup.length := by
  have hperm : values.Perm others.dedup := by
    refine (List.perm_ext_iff_of_nodup hdistinct others.nodup_dedup).2 fun value => ?_
    rw [hmem, List.mem_dedup]
  exact hperm.length_eq

lemma length_dedup_eq_iff {values : List β} :
    values.dedup.length = values.length ↔ values.Nodup :=
  values.dedup_sublist.length_eq.trans List.dedup_eq_self

section TellingApart

variable {f : α → β} {g : α → γ} {items : List α}

lemma length_dedup_map_eq (h : ∀ a ∈ items, ∀ b ∈ items, f a = f b ↔ g a = g b) :
    (items.map f).dedup.length = (items.map g).dedup.length := by
  induction items with
  | nil => rfl
  | cons item rest ih =>
    have hrest := ih fun a ha b hb => h a (List.mem_cons_of_mem _ ha) b (List.mem_cons_of_mem _ hb)
    have hmem : f item ∈ rest.map f ↔ g item ∈ rest.map g := by
      rw [List.mem_map, List.mem_map]
      refine exists_congr fun a => and_congr_right fun ha => ?_
      exact h a (List.mem_cons_of_mem _ ha) item List.mem_cons_self
    by_cases hf : f item ∈ rest.map f
    · rw [List.map_cons, List.map_cons, List.dedup_cons_of_mem hf,
        List.dedup_cons_of_mem (hmem.1 hf), hrest]
    · rw [List.map_cons, List.map_cons, List.dedup_cons_of_notMem hf,
        List.dedup_cons_of_notMem (mt hmem.2 hf), List.length_cons, List.length_cons, hrest]

lemma nodup_map_iff (h : ∀ a ∈ items, ∀ b ∈ items, f a = f b ↔ g a = g b) :
    (items.map f).Nodup ↔ (items.map g).Nodup := by
  rw [← length_dedup_eq_iff, ← length_dedup_eq_iff, length_dedup_map_eq h, List.length_map,
    List.length_map]

end TellingApart

end EntSchema
