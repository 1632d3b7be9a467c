import EntSchema.Text.Replace
import Mathlib.Data.List.Infix
import Mathlib.Data.List.Perm.Basic

/-!
# Filling the places of a text

Some places of a text are marked, and a value goes to each mark.  There are two ways to bring them
there.  `fillAtOnce` goes through the text once and writes the value of each mark that it meets;
what it has written it does not look at again.  `fillInTurn` replaces one mark after another in the
whole text, values that are there already included.

The two come to the same, whatever the order of the marks, exactly when no value holds the mark of
another place, unless that mark stands for itself (`fillInTurn_mark_iff`).  Both work between the
characters that no mark has (`fillBehind_append_cons`), so what a text is filled to can be said part
by part.
-/

namespace EntSchema.Text

/-! ## Places -/

/-- A mark and the value that goes to its places. -/
structure Place where
  mark : String
  value : String
  /-- There is something to be seen where the value goes. -/
  marked : mark ≠ ""
  deriving DecidableEq, Repr

namespace Place

/-- Whether a text starts with the mark of a place. -/
def standsAt (place : Place) (text : List Char) : Bool :=
  place.mark.toList.isPrefixOf text

/-- Whether a text holds the mark of a place. -/
def IsIn (place : Place) (text : String) : Prop :=
  place.mark.toList <:+: text.toList

instance (place : Place) (text : String) : Decidable (place.IsIn text) :=
  inferInstanceAs (Decidable (_ <:+: _))

/-- A text with a value in all places of its mark. -/
def fill (place : Place) (text : String) : String :=
  replaceAll place.mark place.value text

end Place

/-- The first place whose mark a text starts with. -/
def placeAt (places : List Place) (text : List Char) : Option Place :=
  places.find? (·.standsAt text)

/-- A text behind its first `skipped` characters with each mark replaced by its value. -/
def fillBehind (places : List Place) : Nat → List Char → List Char
  | _, [] => []
  | skipped + 1, _ :: rest => fillBehind places skipped rest
  | 0, c :: rest =>
    match placeAt places (c :: rest) with
    | some place => place.value.toList ++ fillBehind places (place.mark.toList.length - 1) rest
    | none => c :: fillBehind places 0 rest

/-- A text with the values in their places, all of them at once. -/
def fillAtOnce (places : List Place) (text : String) : String :=
  String.ofList (fillBehind places 0 text.toList)

/-- A text with the values in their places, one place after another. -/
def fillInTurn (places : List Place) (text : String) : String :=
  places.foldl (fun text place => place.fill text) text

/-! ## Filling at once -/

section AtOnce

variable {places : List Place} {place : Place} {c : Char}

lemma Place.toList_mark_ne_nil (place : Place) : place.mark.toList ≠ [] := by
  simpa using place.marked

lemma Place.standsAt_iff {text : List Char} :
    place.standsAt text = true ↔ place.mark.toList <+: text :=
  List.isPrefixOf_iff_prefix

/-- A mark does not reach across a character that it does not have. -/
lemma Place.standsAt_append_cons (hc : c ∉ place.mark.toList) (text rest : List Char) :
    place.standsAt (text ++ c :: rest) = place.standsAt text := by
  rw [Bool.eq_iff_iff, standsAt_iff, standsAt_iff]
  refine ⟨fun hmark => ?_, fun hmark => hmark.trans (List.prefix_append _ _)⟩
  rcases List.prefix_or_prefix_of_prefix hmark (List.prefix_append text (c :: rest)) with
    hshort | ⟨more, hlong⟩
  · exact hshort
  · cases more with
    | nil => exact ⟨[], by simpa using hlong.symm⟩
    | cons d more =>
      rw [← hlong, List.prefix_append_right_inj] at hmark
      have hd : d = c := (List.cons_prefix_cons.1 hmark).1
      exact absurd (by simp [← hlong, hd]) hc

lemma placeAt_eq_none {text : List Char}
    (h : ∀ place ∈ places, ¬place.mark.toList <+: text) : placeAt places text = none :=
  List.find?_eq_none.2 fun place hplace hmark => h place hplace (Place.standsAt_iff.1 hmark)

lemma prefix_of_placeAt {text : List Char} (h : placeAt places text = some place) :
    place ∈ places ∧ place.mark.toList <+: text := by
  have hmark : place.standsAt text = true := by simpa using List.find?_some h
  exact ⟨List.mem_of_find?_eq_some h, Place.standsAt_iff.1 hmark⟩

lemma placeAt_append_cons (hc : ∀ place ∈ places, c ∉ place.mark.toList) (text rest : List Char) :
    placeAt places (text ++ c :: rest) = placeAt places text := by
  induction places with
  | nil => rfl
  | cons place later ih =>
    obtain ⟨hplace, hlater⟩ := List.forall_mem_cons.1 hc
    have hrest := ih hlater
    unfold placeAt at hrest ⊢
    rw [List.find?_cons, List.find?_cons, Place.standsAt_append_cons hplace, hrest]

@[simp] lemma fillBehind_nil (places : List Place) (skipped : Nat) :
    fillBehind places skipped [] = [] := by
  cases skipped <;> rfl

/-- With one place only, filling is replacing. -/
lemma fillBehind_singleton (place : Place) (skipped : Nat) (text : List Char) :
    fillBehind [place] skipped text =
      replaceBehind place.mark.toList place.value.toList skipped text := by
  fun_induction replaceBehind place.mark.toList place.value.toList skipped text with
  | case1 => simp
  | case2 skipped c rest ih => exact ih
  | case3 c rest hmark ih => simp [fillBehind, placeAt, Place.standsAt, hmark, ih]
  | case4 c rest hmark ih => simp [fillBehind, placeAt, Place.standsAt, hmark, ih]

lemma fillAtOnce_singleton (place : Place) (text : String) :
    fillAtOnce [place] text = place.fill text := by
  rw [fillAtOnce, fillBehind_singleton, Place.fill, replaceAll]

/-- Texts on both sides of a character that no mark has are filled on their own. -/
lemma fillBehind_append_cons (hc : ∀ place ∈ places, c ∉ place.mark.toList) {skipped : Nat}
    {text : List Char} (hskipped : skipped ≤ text.length) (rest : List Char) :
    fillBehind places skipped (text ++ c :: rest) =
      fillBehind places skipped text ++ c :: fillBehind places 0 rest := by
  induction text generalizing skipped with
  | nil =>
    obtain rfl : skipped = 0 := by simpa using hskipped
    have hnone : placeAt places (c :: rest) = none := by
      rw [← List.nil_append (c :: rest), placeAt_append_cons hc]
      exact placeAt_eq_none fun place _ => by simpa using place.marked
    rw [List.nil_append, fillBehind_nil, fillBehind, hnone]
    rfl
  | cons d text ih =>
    cases skipped with
    | succ skipped => exact ih (by simpa using hskipped)
    | zero =>
      have hplace := placeAt_append_cons hc (d :: text) rest
      rw [List.cons_append] at hplace ⊢
      rw [fillBehind, fillBehind, hplace]
      cases hmark : placeAt places (d :: text) with
      | none => simp [ih]
      | some place =>
        have hlength := (prefix_of_placeAt hmark).2.length_le
        rw [List.length_cons] at hlength
        have hskipped : place.mark.toList.length - 1 ≤ text.length := by omega
        simp [ih hskipped]

lemma fillBehind_eq_drop (places : List Place) (skipped : Nat) (text : List Char) :
    fillBehind places skipped text = fillBehind places 0 (text.drop skipped) := by
  induction skipped generalizing text with
  | zero => rfl
  | succ skipped ih => cases text <;> simp [fillBehind, ih]

/-- A text without marks stays as it is. -/
lemma fillAtOnce_eq_self {text : String} (h : ∀ place ∈ places, ¬place.IsIn text) :
    fillAtOnce places text = text := by
  have hchars : ∀ chars : List Char, (∀ place ∈ places, ¬place.mark.toList <:+: chars) →
      fillBehind places 0 chars = chars := by
    intro chars hfree
    induction chars with
    | nil => rfl
    | cons c rest ih =>
      have hnone : placeAt places (c :: rest) = none :=
        placeAt_eq_none fun place hplace hmark => hfree place hplace hmark.isInfix
      have hrest := ih fun place hplace hmark =>
        hfree place hplace (hmark.trans (List.suffix_cons c rest).isInfix)
      rw [fillBehind, hnone, hrest]
  rw [fillAtOnce, hchars text.toList h, String.ofList_toList]

end AtOnce

/-! ## Marks on their own -/

/-- Whether some places are told apart by their marks: none stands within the mark of another. -/
structure AreDistinct (places : List Place) : Prop where
  nodup : places.Nodup
  eq_of_isIn : ∀ place ∈ places, ∀ other ∈ places, other.IsIn place.mark → other = place

section Distinct

variable {places : List Place} {place : Place}

lemma fillAtOnce_mark (h : AreDistinct places) (hplace : place ∈ places) :
    fillAtOnce places place.mark = place.value := by
  obtain ⟨c, rest, hmark⟩ := List.exists_cons_of_ne_nil place.toList_mark_ne_nil
  have hfind : placeAt places (c :: rest) = some place := by
    cases hother : placeAt places (c :: rest) with
    | none =>
      have hself : place.standsAt (c :: rest) = true :=
        Place.standsAt_iff.2 (hmark ▸ List.prefix_rfl)
      exact absurd hself (List.find?_eq_none.1 hother place hplace)
    | some other =>
      obtain ⟨hmem, hprefix⟩ := prefix_of_placeAt hother
      rw [← hmark] at hprefix
      rw [h.eq_of_isIn place hplace other hmem hprefix.isInfix]
  have hskipped : fillBehind places (place.mark.toList.length - 1) rest = [] := by
    rw [fillBehind_eq_drop, hmark]
    simp
  rw [fillAtOnce, hmark, fillBehind, hfind]
  simp [hskipped]

lemma Place.fill_mark (place : Place) : place.fill place.mark = place.value := by
  have hdistinct : AreDistinct [place] := ⟨by simp, by simp⟩
  rw [← fillAtOnce_singleton, fillAtOnce_mark hdistinct List.mem_cons_self]

end Distinct

/-! ## What a value replaces -/

section Replacing

variable {pattern replacement : List Char}

/-- What is skipped together with its first character is the pattern that a text starts with. -/
lemma append_drop_of_starts (hpattern : pattern ≠ []) {c : Char} {rest : List Char}
    (h : pattern <+: c :: rest) : pattern ++ rest.drop (pattern.length - 1) = c :: rest := by
  obtain ⟨behind, hbehind⟩ := h
  obtain ⟨d, more, rfl⟩ := List.exists_cons_of_ne_nil hpattern
  rw [List.cons_append] at hbehind
  obtain ⟨rfl, rfl⟩ := List.cons.inj hbehind
  simp

lemma replaceBehind_pattern (hpattern : pattern ≠ []) (rest : List Char) :
    replaceBehind pattern replacement 0 (pattern ++ rest) =
      replacement ++ replaceBehind pattern replacement 0 rest := by
  obtain ⟨c, more, rfl⟩ := List.exists_cons_of_ne_nil hpattern
  have hprefix : (c :: more).isPrefixOf (c :: (more ++ rest)) = true := by
    rw [List.isPrefixOf_iff_prefix]
    exact List.prefix_append (c :: more) rest
  rw [List.cons_append, replaceBehind, if_pos hprefix, replaceBehind_eq_drop]
  simp

lemma length_le_replaceBehind (hpattern : pattern ≠ [])
    (h : pattern.length ≤ replacement.length) (skipped : Nat) (text : List Char) :
    text.length ≤ skipped + (replaceBehind pattern replacement skipped text).length := by
  have hpositive := List.length_pos_iff.2 hpattern
  fun_induction replaceBehind pattern replacement skipped text with
  | case1 => simp
  | case2 skipped c rest ih => simp only [List.length_cons]; omega
  | case3 c rest hmark ih => simp only [List.length_cons, List.length_append]; omega
  | case4 c rest hmark ih => simp only [List.length_cons]; omega

lemma length_replaceBehind_le (hpattern : pattern ≠ [])
    (h : replacement.length ≤ pattern.length) {skipped : Nat} {text : List Char}
    (hskipped : skipped ≤ text.length) :
    skipped + (replaceBehind pattern replacement skipped text).length ≤ text.length := by
  have hpositive := List.length_pos_iff.2 hpattern
  fun_induction replaceBehind pattern replacement skipped text with
  | case1 => simpa using hskipped
  | case2 skipped c rest ih =>
    simp only [List.length_cons] at hskipped ⊢
    have hrest := ih (by omega)
    omega
  | case3 c rest hmark ih =>
    have hlength := (List.isPrefixOf_iff_prefix.1 hmark).length_le
    simp only [List.length_cons, List.length_append] at hlength ⊢
    have hrest := ih (by omega)
    omega
  | case4 c rest hmark ih =>
    have hrest := ih (by omega)
    simp only [List.length_cons]
    omega

/-- What a longer or a shorter replacement changes at the start is not made up for later. -/
lemma eq_of_replaceBehind_eq (hpattern : pattern ≠ []) {rest : List Char}
    (h : replacement ++ replaceBehind pattern replacement 0 rest = pattern ++ rest) :
    replacement = pattern := by
  have hlength := congrArg List.length h
  rw [List.length_append, List.length_append] at hlength
  have hsame : replacement.length = pattern.length := by
    rcases Nat.le_total pattern.length replacement.length with hlong | hshort
    · have hrest := length_le_replaceBehind hpattern hlong 0 rest
      omega
    · have hrest := length_replaceBehind_le hpattern hshort (Nat.zero_le rest.length)
      omega
  exact List.append_inj_left h hsame

lemma replaceBehind_eq_self (hpattern : pattern ≠ []) {text : List Char} (skipped : Nat)
    (h : pattern <:+: text → replacement = pattern) :
    replaceBehind pattern replacement skipped text = text.drop skipped := by
  have hrest {c : Char} {rest : List Char} (h : pattern <:+: c :: rest → replacement = pattern)
      (hheld : pattern <:+: rest) : replacement = pattern :=
    h (hheld.trans (List.suffix_cons c rest).isInfix)
  fun_induction replaceBehind pattern replacement skipped text with
  | case1 => simp
  | case2 skipped c rest ih => simpa using ih (hrest h)
  | case3 c rest hmark ih =>
    have hstarts := List.isPrefixOf_iff_prefix.1 hmark
    rw [ih (hrest h), h hstarts.isInfix, append_drop_of_starts hpattern hstarts, List.drop_zero]
  | case4 c rest hmark ih => simpa using ih (hrest h)

/-- Replacing leaves a text as it is only if nothing is replaced, or only by itself. -/
lemma replaceBehind_eq_self_iff (hpattern : pattern ≠ []) {text : List Char} :
    replaceBehind pattern replacement 0 text = text ↔
      (pattern <:+: text → replacement = pattern) := by
  constructor
  · intro hself hheld
    induction text with
    | nil => exact absurd (List.infix_nil.1 hheld) hpattern
    | cons c rest ih =>
      by_cases hmark : pattern <+: c :: rest
      · obtain ⟨behind, hbehind⟩ := hmark
        rw [← hbehind, replaceBehind_pattern hpattern] at hself
        exact eq_of_replaceBehind_eq hpattern hself
      · rw [replaceBehind, if_neg (by simpa using hmark)] at hself
        refine ih (List.cons.inj hself).2 ?_
        exact (List.infix_cons_iff.1 hheld).resolve_left hmark
  · exact replaceBehind_eq_self hpattern 0

lemma mem_replaceBehind {text : List Char} {skipped : Nat} {c : Char}
    (h : c ∈ replaceBehind pattern replacement skipped text) : c ∈ replacement ∨ c ∈ text := by
  fun_induction replaceBehind pattern replacement skipped text with
  | case1 => exact absurd h List.not_mem_nil
  | case2 skipped d rest ih => exact (ih h).imp_right (List.mem_cons_of_mem d)
  | case3 d rest hmark ih =>
    rcases List.mem_append.1 h with hvalue | hlater
    · exact .inl hvalue
    · exact (ih hlater).imp_right (List.mem_cons_of_mem d)
  | case4 d rest hmark ih =>
    rcases List.mem_cons.1 h with rfl | hlater
    · exact .inr List.mem_cons_self
    · exact (ih hlater).imp_right (List.mem_cons_of_mem d)

end Replacing

/-- Filling a place leaves a text as it is exactly when the mark is not there, or stands for
itself. -/
lemma Place.fill_eq_self_iff {place : Place} {text : String} :
    place.fill text = text ↔ (place.IsIn text → place.value = place.mark) := by
  rw [← String.toList_inj, fill, replaceAll, String.toList_ofList,
    replaceBehind_eq_self_iff place.toList_mark_ne_nil, IsIn, String.toList_inj]

/-! ## Filling in turn -/

/-- Whether no value holds the mark of another place, unless that mark stands for itself. -/
def AreApart (places : List Place) : Prop :=
  ∀ place ∈ places, ∀ other ∈ places, place ≠ other →
    other.IsIn place.value → other.value = other.mark

instance (places : List Place) : Decidable (AreApart places) :=
  inferInstanceAs (Decidable (∀ place ∈ places, ∀ other ∈ places, _))

section InTurn

variable {places order : List Place} {place : Place} {text : String}

@[simp] lemma fillInTurn_nil (text : String) : fillInTurn [] text = text := rfl

@[simp] lemma fillInTurn_cons (place : Place) (later : List Place) (text : String) :
    fillInTurn (place :: later) text = fillInTurn later (place.fill text) := rfl

lemma fillInTurn_append (before after : List Place) (text : String) :
    fillInTurn (before ++ after) text = fillInTurn after (fillInTurn before text) :=
  List.foldl_append

lemma fillInTurn_eq_self (h : ∀ place ∈ order, place.fill text = text) :
    fillInTurn order text = text := by
  induction order with
  | nil => rfl
  | cons place later ih =>
    obtain ⟨hplace, hlater⟩ := List.forall_mem_cons.1 h
    rw [fillInTurn_cons, hplace, ih hlater]

/-- What holds of all characters of a text and of the values holds of those of the filled text. -/
lemma forall_mem_fillInTurn {P : Char → Prop}
    (hplaces : ∀ place ∈ places, ∀ c ∈ place.value.toList, P c) (htext : ∀ c ∈ text.toList, P c) :
    ∀ c ∈ (fillInTurn places text).toList, P c := by
  induction places generalizing text with
  | nil => exact htext
  | cons place later ih =>
    obtain ⟨hplace, hlater⟩ := List.forall_mem_cons.1 hplaces
    rw [fillInTurn_cons]
    refine ih hlater fun c hc => ?_
    rw [Place.fill, replaceAll, String.toList_ofList] at hc
    exact (mem_replaceBehind hc).elim (hplace c) (htext c)

/-- Until its turn comes a mark stays as it is; its value is seen by the places behind it. -/
lemma fillInTurn_mark (before : List Place) {after : List Place}
    (h : AreDistinct (before ++ place :: after)) :
    fillInTurn (before ++ place :: after) place.mark = fillInTurn after place.value := by
  have hnotMem : place ∉ before := fun hmem =>
    (List.nodup_append.1 h.nodup).2.2 place hmem place List.mem_cons_self rfl
  have hbefore : fillInTurn before place.mark = place.mark := by
    refine fillInTurn_eq_self fun other hother => Place.fill_eq_self_iff.2 fun hin => ?_
    have heq := h.eq_of_isIn place (by simp) other (List.mem_append_left _ hother) hin
    exact absurd (heq ▸ hother) hnotMem
  rw [fillInTurn_append, hbefore, fillInTurn_cons, Place.fill_mark]

lemma AreDistinct.of_perm (h : AreDistinct places) (hperm : order.Perm places) :
    AreDistinct order where
  nodup := hperm.nodup_iff.2 h.nodup
  eq_of_isIn := fun place hplace other hother =>
    h.eq_of_isIn place (hperm.mem_iff.1 hplace) other (hperm.mem_iff.1 hother)

/-- **Places can be filled in any order** exactly when no value holds the mark of another place,
unless that mark stands for itself. -/
theorem fillInTurn_mark_iff (h : AreDistinct places) :
    (∀ order, order.Perm places → ∀ place ∈ places, fillInTurn order place.mark = place.value) ↔
      AreApart places := by
  constructor
  · intro hturns place hplace other hmem hne
    -- Of all orders take one in which the other place is filled right behind this one.
    have hfirst : places.Perm (place :: places.erase place) := List.perm_cons_erase hplace
    have hleft : other ∈ places.erase place :=
      (List.mem_cons.1 (hfirst.mem_iff.1 hmem)).resolve_left (Ne.symm hne)
    have hboth : places.Perm ([place, other] ++ (places.erase place).erase other) :=
      hfirst.trans ((List.perm_cons_erase hleft).cons place)
    have hperm := (hboth.trans List.perm_append_comm).symm
    have hturn := hturns _ hperm place hplace
    rw [fillInTurn_mark _ (h.of_perm hperm)] at hturn
    exact Place.fill_eq_self_iff.1 hturn
  · intro hapart order hperm place hplace
    obtain ⟨before, after, rfl⟩ := List.append_of_mem (hperm.mem_iff.2 hplace)
    have hdistinct := h.of_perm hperm
    have hafter : place ∉ after :=
      (List.nodup_cons.1 (List.nodup_append.1 hdistinct.nodup).2.1).1
    rw [fillInTurn_mark before hdistinct]
    refine fillInTurn_eq_self fun other hmem => Place.fill_eq_self_iff.2 ?_
    refine hapart place hplace other (hperm.mem_iff.1 (by simp [hmem])) ?_
    rintro rfl
    exact hafter hmem

end InTurn

end EntSchema.Text
