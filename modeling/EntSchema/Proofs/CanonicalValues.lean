import EntSchema.Proofs.DecimalText
import EntSchema.Proofs.SortedEntries

/-!
# The values that texts stand for

Not every value is read from a text: the reader gives integers of 64 bits, floating-point numbers
of the format, objects whose members stand in the order of their keys, and no more levels than it
was allowed.  `IsCanonical` says this
of a value, and `isCanonical_of_readValue` that it holds of every value read.

A value of this form is read back from what is written for it, unless a floating-point number is in
it, of which the digits that are written need not be those that were read
(`readsBack_of_isCanonical`).
-/

namespace EntSchema.Json

open Entries (Sorted)
open scoped List

/-! ## Sorted members -/

section SortMembers

variable {members : List (String × Value)}

lemma sortMembers_concat (members : List (String × Value)) (key : String) (value : Value) :
    sortMembers (members ++ [(key, value)]) =
      Entries.putSorted compare key value (sortMembers members) := by
  unfold sortMembers
  rw [List.foldl_append]
  rfl

lemma sorted_sortMembers (members : List (String × Value)) :
    Sorted compare (sortMembers members) := by
  induction members using List.reverseRecOn with
  | nil => exact List.Pairwise.nil
  | append_singleton members member ih =>
    obtain ⟨key, value⟩ := member
    rw [sortMembers_concat]
    exact Entries.sorted_putSorted key value ih

lemma forall_values_sortMembers {P : Value → Prop} (h : ∀ member ∈ members, P member.2) :
    ∀ member ∈ sortMembers members, P member.2 := by
  induction members using List.reverseRecOn with
  | nil => exact h
  | append_singleton members member ih =>
    obtain ⟨key, value⟩ := member
    obtain ⟨hmembers, hvalue⟩ := List.forall_mem_append.1 h
    rw [sortMembers_concat]
    exact Entries.forall_values_putSorted (hvalue _ (List.mem_singleton_self _)) (ih hmembers)

/-- Members in the order of their keys are left as they are. -/
lemma sortMembers_of_sorted (h : Sorted compare members) : sortMembers members = members := by
  induction members using List.reverseRecOn with
  | nil => rfl
  | append_singleton members member ih =>
    obtain ⟨key, value⟩ := member
    obtain ⟨hmembers, -, hlast⟩ := List.pairwise_append.1 h
    rw [sortMembers_concat, ih hmembers]
    refine Entries.putSorted_eq_append fun entry hentry => ?_
    exact Std.OrientedCmp.gt_of_lt (hlast entry hentry _ (List.mem_singleton_self _))

/-- Sorting members of different keys loses none of them. -/
lemma perm_sortMembers (h : (members.map Prod.fst).Nodup) :
    (sortMembers members).Perm members := by
  induction members using List.reverseRecOn with
  | nil => exact .refl _
  | append_singleton members member ih =>
    obtain ⟨key, value⟩ := member
    have hkeys := (List.perm_append_singleton key (members.map Prod.fst)).nodup_iff.1
      (by simpa using h)
    obtain ⟨hkey, hmembers⟩ := List.nodup_cons.1 hkeys
    have hnew : ∀ entry ∈ sortMembers members, compare key entry.1 ≠ .eq := by
      intro entry hentry heq
      rw [Std.LawfulEqCmp.compare_eq_iff_eq] at heq
      rw [heq] at hkey
      exact hkey (List.mem_map_of_mem ((ih hmembers).mem_iff.1 hentry))
    rw [sortMembers_concat]
    calc Entries.putSorted compare key value (sortMembers members)
      _ ~ (key, value) :: sortMembers members := Entries.perm_putSorted value hnew
      _ ~ (key, value) :: members := (ih hmembers).cons _
      _ ~ members ++ [(key, value)] := (List.perm_append_singleton _ _).symm

lemma member?_sortMembers (h : (members.map Prod.fst).Nodup) (key : String) :
    member? (sortMembers members) key = member? members key :=
  Entries.get?_of_perm (perm_sortMembers h) h

end SortMembers

/-! ## The values that are read -/

/-- Whether a number is a 64-bit integer, or a floating-point number of the format. -/
def Number.Fits : Number → Prop
  | .integer value => FitsWord value
  | .float value => value.magnitude.InFormat

/-- The values that a text may stand for, with at most `depth` levels of lists and objects. -/
inductive IsCanonical : Nat → Value → Prop
  | null {depth : Nat} : IsCanonical depth .null
  | bool {depth : Nat} (value : Bool) : IsCanonical depth (.bool value)
  | number {depth : Nat} {value : Number} (hfits : value.Fits) : IsCanonical depth (.number value)
  | string {depth : Nat} (value : String) : IsCanonical depth (.string value)
  | array {depth : Nat} {items : List Value} (hitems : ∀ item ∈ items, IsCanonical depth item) :
    IsCanonical (depth + 1) (.array items)
  | object {depth : Nat} {members : List (String × Value)} (hsorted : Sorted compare members)
    (hmembers : ∀ member ∈ members, IsCanonical depth member.2) :
    IsCanonical (depth + 1) (.object members)

lemma IsCanonical.mono {depth deeper : Nat} {value : Value} (h : IsCanonical depth value)
    (hle : depth ≤ deeper) : IsCanonical deeper value := by
  induction h generalizing deeper with
  | null => exact .null
  | bool value => exact .bool value
  | number hfits => exact .number hfits
  | string value => exact .string value
  | array hitems ih =>
    cases deeper with
    | zero => exact absurd hle (Nat.not_succ_le_zero _)
    | succ deeper => exact .array fun item hitem => ih item hitem (Nat.le_of_succ_le_succ hle)
  | object hsorted hmembers ih =>
    cases deeper with
    | zero => exact absurd hle (Nat.not_succ_le_zero _)
    | succ deeper =>
      exact .object hsorted fun member hmember => ih member hmember (Nat.le_of_succ_le_succ hle)

section Numbers

variable {negative : Bool} {significand : Nat} {power : Int} {text rest : List Char} {n : Number}

lemma inFormat_of_scale? {x y : Decimal.Magnitude} (hx : x.InFormat)
    (h : scale? x power = some y) : y.InFormat := by
  unfold scale? at h
  split at h
  · split at h
    · exact Decimal.Magnitude.inFormat_of_nearest? h
    split at h
    · cases h
      exact hx
    · cases h
  · obtain ⟨scaled, -, h⟩ := Option.bind_eq_some_iff.1 h
    exact Decimal.Magnitude.inFormat_of_nearest? h

lemma fits_of_readFloat (h : readFloat negative significand power text = .ok (n, rest)) :
    n.Fits := by
  unfold readFloat at h
  split at h
  · rename_i x hscaled
    cases h
    obtain ⟨start, hstart, hscale⟩ := Option.bind_eq_some_iff.1 hscaled
    exact inFormat_of_scale? (Decimal.Magnitude.inFormat_of_nearest? hstart) hscale
  · cases h

lemma fits_of_readAfterDigits
    (h : readAfterDigits negative significand power text = .ok (n, rest)) : n.Fits := by
  unfold readAfterDigits at h
  split at h
  case h_3 => exact fits_of_readFloat h
  -- The exponent is the same thing behind either letter.
  all_goals
    obtain ⟨⟨power?, after⟩, -, h⟩ := bind_eq_ok_iff.1 h
    cases power? with
    | none =>
      cases h
      exact le_refl Decimal.Magnitude.leastExponent
    | some power => exact fits_of_readFloat h

lemma fits_of_readFraction (h : readFraction negative significand power text = .ok (n, rest)) :
    n.Fits := by
  unfold readFraction at h
  dsimp only at h
  split at h
  · cases h
  · exact fits_of_readAfterDigits h

lemma gather_le {limit value : Nat} (h : value ≤ limit) (digits : List Char) :
    (gather limit value digits).1 ≤ limit := by
  induction digits generalizing value with
  | nil => exact h
  | cons d digits ih =>
    unfold gather
    split
    · rename_i hfits
      exact ih hfits
    · exact h

lemma fits_of_readWhole {leftOut : Nat} (hle : significand ≤ greatestSignificand)
    (h : readWhole negative significand leftOut text = .ok (n, rest)) : n.Fits := by
  have hbound : greatestSignificand = 2 ^ 64 - 1 := rfl
  have hhalf : Nat.pow 2 63 = 2 ^ 63 := rfl
  unfold readWhole at h
  split at h
  · exact fits_of_readFloat h
  split at h
  · cases h
    exact ⟨by omega, by omega⟩
  split at h
  · exact fits_of_readFloat h
  · rename_i hrange
    simp only [Bool.or_eq_true, decide_eq_true_eq, not_or, Nat.not_lt] at hrange
    cases h
    exact ⟨by omega, by omega⟩

lemma fits_of_readNumber (h : readNumber negative text = .ok (n, rest)) : n.Fits := by
  unfold readNumber at h
  dsimp only at h
  split at h
  · cases h
  · cases h
  split at h
  · exact fits_of_readFraction h
  · exact fits_of_readAfterDigits h
  · exact fits_of_readAfterDigits h
  · exact fits_of_readWhole (gather_le (Nat.zero_le _) _) h

end Numbers

section Readers

variable {readItem : List Char → Except Fault (Value × List Char)} {P : Value → Prop}
  (hitem : ∀ text item rest, readItem text = .ok (item, rest) → P item)

include hitem

lemma forall_of_readMoreItems {bound : Nat} {text rest : List Char} {items : List Value}
    (h : readMoreItems readItem bound text = .ok (items, rest)) : ∀ item ∈ items, P item := by
  induction bound generalizing text items with
  | zero => cases h
  | succ bound ih =>
    unfold readMoreItems at h
    split at h
    · cases h
    · cases h
      exact fun item hmem => absurd hmem List.not_mem_nil
    · split at h
      · cases h
      · cases h
      · obtain ⟨⟨item, after⟩, hread, h⟩ := bind_eq_ok_iff.1 h
        obtain ⟨⟨others, last⟩, hothers, h⟩ := bind_eq_ok_iff.1 h
        cases h
        exact List.forall_mem_cons.2 ⟨hitem _ _ _ hread, ih hothers⟩
    · cases h

lemma forall_of_readArray {text rest : List Char} {value : Value}
    (h : readArray readItem text = .ok (value, rest)) :
    ∃ items, value = .array items ∧ ∀ item ∈ items, P item := by
  unfold readArray at h
  split at h
  · cases h
  · cases h
    exact ⟨[], rfl, fun item hmem => absurd hmem List.not_mem_nil⟩
  · obtain ⟨⟨item, after⟩, hread, h⟩ := bind_eq_ok_iff.1 h
    obtain ⟨⟨others, last⟩, hothers, h⟩ := bind_eq_ok_iff.1 h
    cases h
    exact ⟨_, rfl, List.forall_mem_cons.2
      ⟨hitem _ _ _ hread, forall_of_readMoreItems hitem hothers⟩⟩

lemma value_of_readMember {text rest : List Char} {member : String × Value}
    (h : readMember readItem text = .ok (member, rest)) : P member.2 := by
  unfold readMember at h
  obtain ⟨⟨key, after⟩, -, h⟩ := bind_eq_ok_iff.1 h
  dsimp only at h
  split at h
  · cases h
  · obtain ⟨⟨value, last⟩, hread, h⟩ := bind_eq_ok_iff.1 h
    cases h
    exact hitem _ _ _ hread
  · cases h

lemma forall_of_readMoreMembers {bound : Nat} {text rest : List Char}
    {members : List (String × Value)}
    (h : readMoreMembers readItem bound text = .ok (members, rest)) :
    ∀ member ∈ members, P member.2 := by
  induction bound generalizing text members with
  | zero => cases h
  | succ bound ih =>
    unfold readMoreMembers at h
    split at h
    · cases h
    · cases h
      exact fun member hmem => absurd hmem List.not_mem_nil
    · split at h
      · cases h
      · obtain ⟨⟨member, after⟩, hread, h⟩ := bind_eq_ok_iff.1 h
        obtain ⟨⟨others, last⟩, hothers, h⟩ := bind_eq_ok_iff.1 h
        cases h
        exact List.forall_mem_cons.2 ⟨value_of_readMember hitem hread, ih hothers⟩
      · cases h
      · cases h
    · cases h

lemma forall_of_readObject {text rest : List Char} {value : Value}
    (h : readObject readItem text = .ok (value, rest)) :
    ∃ members, value = .object members ∧ Sorted compare members ∧
      ∀ member ∈ members, P member.2 := by
  unfold readObject at h
  split at h
  · cases h
  · cases h
    exact ⟨[], rfl, List.Pairwise.nil, fun member hmem => absurd hmem List.not_mem_nil⟩
  · obtain ⟨⟨member, after⟩, hread, h⟩ := bind_eq_ok_iff.1 h
    obtain ⟨⟨others, last⟩, hothers, h⟩ := bind_eq_ok_iff.1 h
    cases h
    have hmembers : ∀ read ∈ member :: others, P read.2 := by
      rw [List.forall_mem_cons]
      exact ⟨value_of_readMember hitem hread, forall_of_readMoreMembers hitem hothers⟩
    exact ⟨_, rfl, sorted_sortMembers _, forall_values_sortMembers hmembers⟩
  · cases h

end Readers

/-- Every value that is read is canonical. -/
lemma isCanonical_of_readValue {depth : Nat} {text rest : List Char} {value : Value}
    (h : readValue depth text = .ok (value, rest)) : IsCanonical depth value := by
  induction depth using Nat.strongRecOn generalizing text rest value with
  | ind depth ih =>
    unfold readValue at h
    split at h
    case h_1 => cases h
    case h_2 | h_3 | h_4 =>
      obtain ⟨after, -, h⟩ := bind_eq_ok_iff.1 h
      cases h
      constructor
    case h_5 =>
      obtain ⟨⟨string, after⟩, -, h⟩ := bind_eq_ok_iff.1 h
      cases h
      exact .string string
    case h_6 =>
      obtain ⟨⟨n, after⟩, hread, h⟩ := bind_eq_ok_iff.1 h
      cases h
      exact .number (fits_of_readNumber hread)
    case h_7 =>
      cases depth with
      | zero => cases h
      | succ depth =>
        obtain ⟨items, rfl, hitems⟩ :=
          forall_of_readArray (fun _ _ _ => ih depth (Nat.lt_succ_self depth)) h
        exact .array hitems
    case h_8 =>
      cases depth with
      | zero => cases h
      | succ depth =>
        obtain ⟨members, rfl, hsorted, hmembers⟩ :=
          forall_of_readObject (fun _ _ _ => ih depth (Nat.lt_succ_self depth)) h
        exact .object hsorted hmembers
    case h_9 =>
      split at h
      · obtain ⟨⟨n, after⟩, hread, h⟩ := bind_eq_ok_iff.1 h
        cases h
        exact .number (fits_of_readNumber hread)
      · cases h

lemma isCanonical_of_parse {text : String} {value : Value} (h : parse text = .ok value) :
    IsCanonical greatestDepth value := by
  obtain ⟨⟨read, rest⟩, hread, h⟩ := bind_eq_ok_iff.1 (mapError_eq_ok_iff.1 h)
  dsimp only at h
  split at h
  · cases h
    exact isCanonical_of_readValue hread
  · cases h

/-! ## Values without floating-point numbers -/

mutual

/-- Whether there is no floating-point number in a value. -/
def Value.isFloatFree : Value → Bool
  | .number (.float _) => false
  | .array items => itemsFloatFree items
  | .object members => membersFloatFree members
  | _ => true

/-- Whether there is no floating-point number in any of some items. -/
def itemsFloatFree : List Value → Bool
  | [] => true
  | item :: items => item.isFloatFree && itemsFloatFree items

/-- Whether there is no floating-point number in any of some members. -/
def membersFloatFree : List (String × Value) → Bool
  | [] => true
  | (_, value) :: members => value.isFloatFree && membersFloatFree members

end

lemma itemsFloatFree_eq_all (items : List Value) :
    itemsFloatFree items = items.all Value.isFloatFree := by
  induction items with
  | nil => rfl
  | cons item items ih => rw [itemsFloatFree, ih, List.all_cons]

lemma membersFloatFree_eq_all (members : List (String × Value)) :
    membersFloatFree members = members.all fun member => member.2.isFloatFree := by
  induction members with
  | nil => rfl
  | cons member members ih => rw [membersFloatFree, ih, List.all_cons]

/-- A canonical value without floating-point numbers is read back as itself. -/
lemma readsBack_of_isCanonical {depth : Nat} {value : Value} (h : IsCanonical depth value)
    (hfree : value.isFloatFree = true) : ReadsBack depth value value := by
  induction h with
  | null => exact readsBack_null
  | bool value => exact readsBack_bool value
  | @number depth value hfits =>
    cases value with
    | integer value => exact readsBack_integer hfits
    | float value => cases hfree
  | string value => exact readsBack_string value
  | @array depth items hitems ih =>
    rw [Value.isFloatFree, itemsFloatFree_eq_all, List.all_eq_true] at hfree
    exact readsBack_array (List.forall₂_same.2 fun item hitem => ih item hitem (hfree item hitem))
  | @object depth members hsorted hmembers ih =>
    rw [Value.isFloatFree, membersFloatFree_eq_all, List.all_eq_true] at hfree
    have hread := readsBack_object
      (List.forall₂_same.2 fun member hmember => ⟨rfl, ih member hmember (hfree member hmember)⟩)
    rw [sortMembers_of_sorted hsorted] at hread
    exact hread

end EntSchema.Json
