import EntSchema.Entries
import Mathlib.Data.List.Basic

/-!
# Entries sorted by their keys

`putSorted` writes into a map whose keys are compared and not equated: keys that compare equal are
one key, spelled differently.  `find?_putSorted` is the law of the map, `sorted_putSorted` its
invariant, and entries under different keys may be put in any order (`putSorted_comm`).  Keys are
counted through any function `code` that takes the same value exactly on the keys that compare
equal (`nodup_codes`, `mem_codes_putSorted`).
-/

namespace EntSchema.Entries

open Std (TransCmp)

variable {κ α γ : Type} {cmp : κ → κ → Ordering}

/-! ## Looking up what was put -/

/-- What is found after an entry was put: the entry under all spellings of its key, and what was
found before under all others. -/
lemma find?_putSorted [TransCmp cmp] (key asked : κ) (value : α) (entries : List (κ × α)) :
    find? cmp asked (putSorted cmp key value entries) =
      if cmp asked key = .eq then some value else find? cmp asked entries := by
  induction entries with
  | nil => rfl
  | cons entry rest ih =>
    obtain ⟨other, kept⟩ := entry
    unfold putSorted
    cases hkey : cmp key other with
    | lt => rfl
    | eq =>
      have hasked : cmp asked other = cmp asked key :=
        (TransCmp.congr_right hkey).symm
      simp only [find?, hasked]
      split <;> rfl
    | gt =>
      simp only [find?, ih]
      by_cases hother : cmp asked other = .eq
      · have hasked : cmp asked key = .lt := by
          rw [TransCmp.congr_left hother]
          exact Std.OrientedCmp.lt_of_gt hkey
        simp [hother, hasked]
      · simp [hother]

/-! ## Looking among different keys -/

section Get

variable [DecidableEq κ] {entries others : List (κ × α)} {key : κ}

lemma mem_of_get?_eq_some {value : α} (h : get? key entries = some value) :
    (key, value) ∈ entries := by
  induction entries with
  | nil => cases h
  | cons entry rest ih =>
    obtain ⟨other, kept⟩ := entry
    unfold get? at h
    split at h
    · rename_i hkey
      cases h
      rw [hkey]
      exact List.mem_cons_self
    · exact List.mem_cons_of_mem _ (ih h)

/-- Of entries under different keys, the one under a key is what is found there. -/
lemma get?_eq_some_iff_mem (h : (entries.map Prod.fst).Nodup) {value : α} :
    get? key entries = some value ↔ (key, value) ∈ entries := by
  refine ⟨mem_of_get?_eq_some, fun hmem => ?_⟩
  induction entries with
  | nil => cases hmem
  | cons entry rest ih =>
    obtain ⟨other, kept⟩ := entry
    obtain ⟨hother, hrest⟩ := List.nodup_cons.1 h
    unfold get?
    rcases List.mem_cons.1 hmem with heq | hlater
    · cases heq
      exact if_pos rfl
    · have hkey : key ≠ other := by
        rintro rfl
        exact hother (List.mem_map.2 ⟨_, hlater, rfl⟩)
      rw [if_neg hkey]
      exact ih hrest hlater

/-- Entries under different keys may be looked through in any order. -/
lemma get?_of_perm (hperm : entries.Perm others) (h : (others.map Prod.fst).Nodup) :
    get? key entries = get? key others := by
  have hentries : (entries.map Prod.fst).Nodup := (hperm.map Prod.fst).nodup_iff.2 h
  refine Option.ext fun value => ?_
  rw [get?_eq_some_iff_mem hentries, get?_eq_some_iff_mem h]
  exact hperm.mem_iff

end Get

/-! ## Putting several entries -/

/-- Putting an entry a second time changes nothing. -/
lemma putSorted_putSorted_self [TransCmp cmp] (key : κ) (value : α) (entries : List (κ × α)) :
    putSorted cmp key value (putSorted cmp key value entries) =
      putSorted cmp key value entries := by
  have hself : cmp key key = .eq := Std.ReflCmp.compare_self
  induction entries with
  | nil => simp only [putSorted, hself]
  | cons entry rest ih =>
    obtain ⟨other, kept⟩ := entry
    cases hkey : cmp key other with
    | lt => simp only [putSorted, hkey, hself]
    | eq => simp only [putSorted, hkey]
    | gt => simp only [putSorted, hkey, ih]

lemma putSorted_comm_of_lt [TransCmp cmp] {a b : κ} (hlt : cmp a b = .lt) (x y : α)
    (entries : List (κ × α)) :
    putSorted cmp a x (putSorted cmp b y entries) =
      putSorted cmp b y (putSorted cmp a x entries) := by
  have hgt : cmp b a = .gt := Std.OrientedCmp.gt_of_lt hlt
  induction entries with
  | nil => simp only [putSorted, hlt, hgt]
  | cons entry rest ih =>
    obtain ⟨other, kept⟩ := entry
    cases hb : cmp b other with
    | lt =>
      have ha : cmp a other = .lt := TransCmp.lt_trans hlt hb
      simp only [putSorted, ha, hb, hlt, hgt]
    | eq =>
      have ha : cmp a other = .lt := by rw [← TransCmp.congr_right hb, hlt]
      simp only [putSorted, ha, hb, hgt]
    | gt =>
      -- The larger key goes behind the entry at hand; the smaller one may go anywhere.
      cases ha : cmp a other <;> simp only [putSorted, ha, hb, hgt, ih]

/-- Entries under different keys may be put in either order. -/
lemma putSorted_comm [TransCmp cmp] {a b : κ} (hne : cmp a b ≠ .eq) (x y : α)
    (entries : List (κ × α)) :
    putSorted cmp a x (putSorted cmp b y entries) =
      putSorted cmp b y (putSorted cmp a x entries) := by
  cases hab : cmp a b with
  | lt => exact putSorted_comm_of_lt hab x y entries
  | eq => exact absurd hab hne
  | gt => exact (putSorted_comm_of_lt (Std.OrientedCmp.lt_of_gt hab) y x entries).symm

/-! ## The order of the keys -/

/-- Whether entries are in the order of their keys, without repetitions. -/
def Sorted (cmp : κ → κ → Ordering) (entries : List (κ × α)) : Prop :=
  entries.Pairwise fun entry next => cmp entry.1 next.1 = .lt

lemma mem_putSorted {key : κ} {value : α} {entries : List (κ × α)} {entry : κ × α}
    (h : entry ∈ putSorted cmp key value entries) :
    entry.1 = key ∨ ∃ old ∈ entries, old.1 = entry.1 := by
  induction entries with
  | nil => exact .inl (by simp_all [putSorted])
  | cons first rest ih =>
    obtain ⟨other, kept⟩ := first
    unfold putSorted at h
    split at h
    · rcases List.mem_cons.1 h with rfl | hold
      · exact .inl rfl
      · exact .inr ⟨entry, hold, rfl⟩
    · rcases List.mem_cons.1 h with rfl | hold
      · exact .inr ⟨(other, kept), by simp, rfl⟩
      · exact .inr ⟨entry, List.mem_cons_of_mem _ hold, rfl⟩
    · rcases List.mem_cons.1 h with rfl | hput
      · exact .inr ⟨(other, kept), by simp, rfl⟩
      · obtain hkey | ⟨old, hold, heq⟩ := ih hput
        · exact .inl hkey
        · exact .inr ⟨old, List.mem_cons_of_mem _ hold, heq⟩

/-- Putting an entry keeps the order of the keys. -/
lemma sorted_putSorted [TransCmp cmp] (key : κ) (value : α) {entries : List (κ × α)}
    (h : Sorted cmp entries) : Sorted cmp (putSorted cmp key value entries) := by
  induction entries with
  | nil => exact List.pairwise_singleton _ _
  | cons first rest ih =>
    obtain ⟨other, kept⟩ := first
    obtain ⟨hfirst, hrest⟩ := List.pairwise_cons.1 h
    unfold putSorted
    split
    · rename_i hlt
      refine List.pairwise_cons.2 ⟨fun entry hentry => ?_, h⟩
      rcases List.mem_cons.1 hentry with rfl | hentry
      · exact hlt
      · exact TransCmp.lt_trans hlt (hfirst entry hentry)
    · exact List.pairwise_cons.2 ⟨hfirst, hrest⟩
    · rename_i hgt
      refine List.pairwise_cons.2 ⟨fun entry hentry => ?_, ih hrest⟩
      obtain hkey | ⟨old, hold, heq⟩ := mem_putSorted hentry
      · rw [hkey]
        exact Std.OrientedCmp.lt_of_gt hgt
      · rw [← heq]
        exact hfirst old hold

/-- An entry under a new key is there beside the others. -/
lemma perm_putSorted {key : κ} (value : α) {entries : List (κ × α)}
    (h : ∀ entry ∈ entries, cmp key entry.1 ≠ .eq) :
    (putSorted cmp key value entries).Perm ((key, value) :: entries) := by
  induction entries with
  | nil => exact .refl _
  | cons first rest ih =>
    obtain ⟨other, kept⟩ := first
    obtain ⟨hfirst, hrest⟩ := List.forall_mem_cons.1 h
    unfold putSorted
    split
    · exact .refl _
    · rename_i heq
      exact absurd heq hfirst
    · exact ((ih hrest).cons _).trans (.swap _ _ _)

/-- What holds of all values still does after an entry was put, if it holds of the new value. -/
lemma forall_values_putSorted {P : α → Prop} {key : κ} {value : α} {entries : List (κ × α)}
    (hvalue : P value) (h : ∀ entry ∈ entries, P entry.2) :
    ∀ entry ∈ putSorted cmp key value entries, P entry.2 := by
  induction entries with
  | nil =>
    intro entry hentry
    rw [List.mem_singleton.1 hentry]
    exact hvalue
  | cons first rest ih =>
    obtain ⟨other, kept⟩ := first
    obtain ⟨hkept, hrest⟩ := List.forall_mem_cons.1 h
    unfold putSorted
    split
    · exact List.forall_mem_cons.2 ⟨hvalue, h⟩
    · exact List.forall_mem_cons.2 ⟨hvalue, hrest⟩
    · exact List.forall_mem_cons.2 ⟨hkept, ih hrest⟩

/-- An entry behind all others is put at the end. -/
lemma putSorted_eq_append {key : κ} {value : α} {entries : List (κ × α)}
    (h : ∀ entry ∈ entries, cmp key entry.1 = .gt) :
    putSorted cmp key value entries = entries ++ [(key, value)] := by
  induction entries with
  | nil => rfl
  | cons first rest ih =>
    obtain ⟨other, kept⟩ := first
    obtain ⟨hfirst, hrest⟩ := List.forall_mem_cons.1 h
    simp only [putSorted, hfirst, ih hrest, List.cons_append]

/-! ## The keys up to spelling -/

variable {code : κ → γ}

/-- The keys after an entry was put, up to spelling. -/
lemma mem_codes_putSorted (hcode : ∀ a b, cmp a b = .eq → code a = code b) (key : κ) (value : α)
    (entries : List (κ × α)) (asked : γ) :
    asked ∈ (putSorted cmp key value entries).map (code ∘ Prod.fst) ↔
      asked = code key ∨ asked ∈ entries.map (code ∘ Prod.fst) := by
  induction entries with
  | nil => simp [putSorted]
  | cons first rest ih =>
    obtain ⟨other, kept⟩ := first
    unfold putSorted
    split
    · simp
    · rename_i heq
      simp [hcode key other heq]
    · rw [List.map_cons, List.mem_cons, ih, List.map_cons, List.mem_cons]
      exact or_left_comm

/-- Sorted entries hold no two spellings of one key. -/
lemma nodup_codes [TransCmp cmp] (hcode : ∀ a b, code a = code b → cmp a b = .eq)
    {entries : List (κ × α)} (h : Sorted cmp entries) :
    (entries.map (code ∘ Prod.fst)).Nodup := by
  refine List.pairwise_map.2 (h.imp fun {entry next} hlt heq => ?_)
  rw [hcode entry.1 next.1 heq] at hlt
  exact absurd hlt (by decide)

end EntSchema.Entries
