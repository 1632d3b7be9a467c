import EntSchema.Text.SnakeCase
import Mathlib.Data.List.Basic

/-!
# What snake case keeps of a name

Snake case forgets letter case and where the underscores of a name stood; it keeps the lower-cased
words.  On identifiers nothing else is lost: `snakeCase_eq_iff` says that two of them have one snake
case exactly when they have the same lower-cased words.

The words of a name are what its alphanumeric characters are cut into (`flatten_words`); no
character is lost on the way, whatever the case automaton decides, and no word is empty
(`ne_nil_of_mem_words`).  Lower-cased they are made of lower-case letters and digits, none of which
is an underscore, so that splitting a snake case at its underscores gives them back.
-/

namespace EntSchema.Text

/-! ## ASCII names -/

/-- Whether all characters of a name are ASCII. -/
def IsAscii (name : String) : Prop :=
  ∀ c ∈ name.toList, c.toNat < 128

/-- Whether a name is an ASCII letter with ASCII letters, digits and underscores behind it. -/
def isIdentifier (name : String) : Bool :=
  match name.toList with
  | [] => false
  | c :: rest => c.isAlpha && rest.all fun d => d.isAlphanum || d == '_'

lemma exists_of_isIdentifier {name : String} (h : isIdentifier name = true) :
    ∃ c rest, name.toList = c :: rest ∧ c.isAlpha = true ∧
      ∀ d ∈ rest, d.isAlphanum = true ∨ d = '_' := by
  unfold isIdentifier at h
  split at h
  · exact absurd h (by simp)
  · rename_i c rest hname
    rw [Bool.and_eq_true, List.all_eq_true] at h
    exact ⟨c, rest, hname, h.1, by simpa using h.2⟩

lemma toNat_lt_of_isAlphanum {c : Char} (h : c.isAlphanum = true) : c.toNat < 128 := by
  have hclass : c.isAlphanum = (decide ('A'.val ≤ c.val ∧ c.val ≤ 'Z'.val) ||
      (decide ('a'.val ≤ c.val) && decide (c.val ≤ 'z'.val)) ||
      (decide ('0'.val ≤ c.val) && decide (c.val ≤ '9'.val))) := rfl
  rw [hclass] at h
  simp [UInt32.le_iff_toNat_le, ← Char.toNat_val] at h ⊢
  omega

lemma isAscii_of_isIdentifier {name : String} (h : isIdentifier name = true) : IsAscii name := by
  obtain ⟨c, rest, hname, hc, hrest⟩ := exists_of_isIdentifier h
  intro d hd
  rw [hname] at hd
  rcases List.mem_cons.1 hd with rfl | hd
  · exact toNat_lt_of_isAlphanum (by simp [Char.isAlphanum, hc])
  · obtain halphanum | rfl := hrest d hd
    · exact toNat_lt_of_isAlphanum halphanum
    · decide

/-! ## ASCII characters

The tables of letters and of lower-case forms agree with the ASCII functions on the first 128 code
points, which are few enough to be tried one after another. -/

lemma forall_ascii {p : Char → Prop} (h : ∀ n < 128, p (Char.ofNat n)) {c : Char}
    (hc : c.toNat < 128) : p c := by
  have hn := h c.toNat hc
  rwa [Char.ofNat_toNat] at hn

lemma isAlphanumeric_of_ascii {c : Char} (hc : c.toNat < 128) : isAlphanumeric c = c.isAlphanum :=
  forall_ascii (p := fun c => isAlphanumeric c = c.isAlphanum) (by decide) hc

lemma lowerChar_of_ascii {c : Char} (hc : c.toNat < 128) : lowerChar c = [c.toLower] :=
  forall_ascii (p := fun c => lowerChar c = [c.toLower]) (by decide) hc

/-- Whether a character is a lower-case ASCII letter or an ASCII digit. -/
def isSmall (c : Char) : Bool :=
  c.isLower || c.isDigit

lemma isAlphanum_of_isSmall {c : Char} (h : isSmall c = true) : c.isAlphanum = true := by
  have hclass : c.isAlphanum = (c.isUpper || c.isLower || c.isDigit) := rfl
  rcases Bool.or_eq_true_iff.1 h with hlower | hdigit
  · simp [hclass, hlower]
  · simp [hclass, hdigit]

lemma isSmall_toLower {c : Char} (h : c.isAlphanum = true) : isSmall c.toLower = true :=
  forall_ascii (p := fun c => c.isAlphanum = true → isSmall c.toLower = true) (by decide)
    (toNat_lt_of_isAlphanum h) h

/-! ## Words lose no character -/

@[simp] lemma flatten_consFirst (c : Char) (parts : List (List Char)) :
    (consFirst c parts).flatten = c :: parts.flatten := by
  cases parts <;> simp [consFirst]

/-- A run is cut into words without losing a character. -/
@[simp] lemma flatten_wordsFrom (wordCase : WordCase) (run : List Char) :
    (wordsFrom wordCase run).flatten = run := by
  fun_induction wordsFrom wordCase run with
  | case1 => rfl
  | case2 => rfl
  | case3 wordCase c next rest _ ih => simp [ih]
  | case4 wordCase c next rest _ _ ih => simp [ih]
  | case5 wordCase c next rest _ _ ih => simp [ih]

/-- The runs hold the alphanumeric characters of a text, in order. -/
lemma flatten_alphanumericRuns (text : List Char) :
    (alphanumericRuns text).1 ++ (alphanumericRuns text).2.flatten =
      text.filter isAlphanumeric := by
  induction text with
  | nil => rfl
  | cons c rest ih =>
    rw [alphanumericRuns]
    by_cases hc : isAlphanumeric c = true
    · simp [hc, ih]
    · cases hrun : (alphanumericRuns rest).1 <;> simp [hc, hrun, ← ih]

lemma flatten_nameRuns (text : List Char) :
    (nameRuns text).flatten = text.filter isAlphanumeric := by
  rw [nameRuns, ← flatten_alphanumericRuns]
  cases hrun : (alphanumericRuns text).1 <;> simp [hrun]

/-- The words of a text are what its alphanumeric characters are cut into. -/
lemma flatten_words (text : List Char) : (words text).flatten = text.filter isAlphanumeric := by
  have hruns : ((nameRuns text).map (wordsFrom .uncased)).map List.flatten = nameRuns text := by
    rw [List.map_map]
    exact (List.map_congr_left fun run _ => flatten_wordsFrom .uncased run).trans (List.map_id _)
  rw [words, List.flatMap_def, List.flatten_flatten, hruns, flatten_nameRuns]

/-! ## No word is empty -/

lemma ne_nil_of_mem_alphanumericRuns {text run : List Char}
    (h : run ∈ (alphanumericRuns text).2) : run ≠ [] := by
  induction text with
  | nil => exact absurd h List.not_mem_nil
  | cons c rest ih =>
    rw [alphanumericRuns] at h
    by_cases hc : isAlphanumeric c = true
    · exact ih (by simpa [hc] using h)
    · cases hrun : (alphanumericRuns rest).1 with
      | nil => exact ih (by simpa [hc, hrun] using h)
      | cons d first =>
        rcases List.mem_cons.1 (by simpa [hc, hrun] using h) with rfl | hlater
        · simp
        · exact ih hlater

lemma ne_nil_of_mem_nameRuns {text run : List Char} (h : run ∈ nameRuns text) : run ≠ [] := by
  unfold nameRuns at h
  cases hrun : (alphanumericRuns text).1 with
  | nil => exact ne_nil_of_mem_alphanumericRuns (by simpa [hrun] using h)
  | cons c first =>
    rcases List.mem_cons.1 (by simpa [hrun] using h) with rfl | hlater
    · simp
    · exact ne_nil_of_mem_alphanumericRuns hlater

@[simp] lemma tail_consFirst (c : Char) (parts : List (List Char)) :
    (consFirst c parts).tail = parts.tail := by
  cases parts <;> rfl

lemma ne_nil_of_mem_consFirst {c : Char} {parts : List (List Char)}
    (h : ∀ part ∈ parts.tail, part ≠ []) : ∀ part ∈ consFirst c parts, part ≠ [] := by
  cases parts with
  | nil => simp [consFirst]
  | cons first rest => simpa [consFirst] using h

/-- Only the first part of what is left of a run can be empty, and only where a row of capitals
stands before it. -/
lemma ne_nil_of_mem_wordsFrom (wordCase : WordCase) (run : List Char) :
    (∀ word ∈ (wordsFrom wordCase run).tail, word ≠ []) ∧
      (wordCase ≠ .upper → run ≠ [] → ∀ word ∈ wordsFrom wordCase run, word ≠ []) := by
  fun_induction wordsFrom wordCase run with
  | case1 => simp
  | case2 => simp
  | case3 wordCase c next rest _ ih =>
    have hrest := ih.2 (by decide) (List.cons_ne_nil next rest)
    exact ⟨hrest, fun _ _ => List.forall_mem_cons.2 ⟨List.cons_ne_nil c [], hrest⟩⟩
  | case4 wordCase c next rest _ hcapital ih =>
    refine ⟨ne_nil_of_mem_consFirst ih.1, fun hcase => ?_⟩
    simp only [Bool.and_eq_true, decide_eq_true_eq] at hcapital
    exact absurd hcapital.1.1 hcase
  | case5 wordCase c next rest _ _ ih =>
    exact ⟨by simpa using ih.1, fun _ _ => ne_nil_of_mem_consFirst ih.1⟩

/-- The words of a text are not empty. -/
lemma ne_nil_of_mem_words {text word : List Char} (h : word ∈ words text) : word ≠ [] := by
  obtain ⟨run, hrun, hword⟩ := List.mem_flatMap.1 h
  exact (ne_nil_of_mem_wordsFrom .uncased run).2 (by decide) (ne_nil_of_mem_nameRuns hrun) word
    hword

/-! ## Lower-cased words -/

/-- The words of a name, lower-cased. -/
def lowerWords (name : String) : List (List Char) :=
  (words name.toList).map lowerWord

/-- The letters and digits of a name up to case. -/
def bareLetters (name : String) : List Char :=
  (name.toList.filter Char.isAlphanum).map Char.toLower

lemma snakeCase_eq (name : String) :
    snakeCase name = String.ofList (['_'].intercalate (lowerWords name)) := rfl

lemma lowerWord_of_ascii {word : List Char} (h : ∀ c ∈ word, c.toNat < 128) :
    lowerWord word = word.map Char.toLower := by
  induction word with
  | nil => rfl
  | cons c rest ih =>
    obtain ⟨hc, hrest⟩ := List.forall_mem_cons.1 h
    have hsigma : c ≠ 'Σ' := by
      intro hsigma
      exact absurd hc (by rw [hsigma]; decide)
    cases rest with
    | nil => simp [lowerWord, hsigma, lowerChar_of_ascii hc]
    | cons d rest => simp [lowerWord_cons_cons, lowerChar_of_ascii hc, ih hrest]

lemma mem_intercalate {separator c : Char} {parts : List (List Char)}
    (h : c ∈ [separator].intercalate parts) : c = separator ∨ ∃ part ∈ parts, c ∈ part := by
  induction parts with
  | nil => exact absurd h (by simp)
  | cons part rest ih =>
    cases rest with
    | nil => exact .inr ⟨part, by simp, by simpa using h⟩
    | cons next rest =>
      rw [List.intercalate_cons_cons, List.mem_append, List.mem_append, List.mem_singleton] at h
      obtain (hpart | hseparator) | hrest := h
      · exact .inr ⟨part, by simp, hpart⟩
      · exact .inl hseparator
      · obtain hseparator | ⟨word, hword, hmem⟩ := ih hrest
        · exact .inl hseparator
        · exact .inr ⟨word, List.mem_cons_of_mem _ hword, hmem⟩

section Ascii

variable {name other : String}

lemma filter_isAlphanumeric (h : IsAscii name) :
    name.toList.filter isAlphanumeric = name.toList.filter Char.isAlphanum :=
  List.filter_congr fun c hc => isAlphanumeric_of_ascii (h c hc)

/-- The words of an ASCII name are made of ASCII letters and digits. -/
lemma isAlphanum_of_mem_words (h : IsAscii name) {word : List Char}
    (hword : word ∈ words name.toList) : ∀ c ∈ word, c.isAlphanum = true := by
  intro c hc
  have hflat : c ∈ (words name.toList).flatten := List.mem_flatten.2 ⟨word, hword, hc⟩
  rw [flatten_words, filter_isAlphanumeric h] at hflat
  exact (List.mem_filter.1 hflat).2

lemma lowerWords_eq (h : IsAscii name) :
    lowerWords name = (words name.toList).map (List.map Char.toLower) :=
  List.map_congr_left fun _ hword => lowerWord_of_ascii fun c hc =>
    toNat_lt_of_isAlphanum (isAlphanum_of_mem_words h hword c hc)

lemma isSmall_of_mem_lowerWords (h : IsAscii name) {word : List Char}
    (hword : word ∈ lowerWords name) : ∀ c ∈ word, isSmall c = true := by
  rw [lowerWords_eq h] at hword
  obtain ⟨cased, hcased, rfl⟩ := List.mem_map.1 hword
  intro c hc
  obtain ⟨d, hd, rfl⟩ := List.mem_map.1 hc
  exact isSmall_toLower (isAlphanum_of_mem_words h hcased d hd)

lemma isAlphanum_of_mem_lowerWords (h : IsAscii name) {word : List Char}
    (hword : word ∈ lowerWords name) : ∀ c ∈ word, c.isAlphanum = true :=
  fun c hc => isAlphanum_of_isSmall (isSmall_of_mem_lowerWords h hword c hc)

lemma ne_nil_of_mem_lowerWords (h : IsAscii name) {word : List Char}
    (hword : word ∈ lowerWords name) : word ≠ [] := by
  rw [lowerWords_eq h] at hword
  obtain ⟨cased, hcased, rfl⟩ := List.mem_map.1 hword
  simpa using ne_nil_of_mem_words hcased

/-- Together the lower-cased words are the letters and digits up to case. -/
lemma flatten_lowerWords (h : IsAscii name) : (lowerWords name).flatten = bareLetters name := by
  rw [lowerWords_eq h, ← List.map_flatten, flatten_words, filter_isAlphanumeric h, bareLetters]

/-! ## Reading the words off the snake case -/

/-- The snake case of an ASCII name is made of ASCII letters, digits and underscores. -/
lemma isAlphanum_or_of_mem_snakeCase (h : IsAscii name) {c : Char}
    (hc : c ∈ (snakeCase name).toList) : c.isAlphanum = true ∨ c = '_' := by
  rw [snakeCase_eq, String.toList_ofList] at hc
  obtain rfl | ⟨word, hword, hmem⟩ := mem_intercalate hc
  · exact .inr rfl
  · exact .inl (isAlphanum_of_mem_lowerWords h hword c hmem)

lemma splitOn_snakeCase (h : IsAscii name) (hne : lowerWords name ≠ []) :
    (snakeCase name).toList.splitOn '_' = lowerWords name := by
  rw [snakeCase_eq, String.toList_ofList]
  refine List.splitOn_intercalate '_' (fun word hword hmem => ?_) hne
  exact absurd (isAlphanum_of_mem_lowerWords h hword '_' hmem) (by decide)

lemma bareLetters_ne_nil (h : isIdentifier name = true) : bareLetters name ≠ [] := by
  obtain ⟨c, rest, hname, hc, -⟩ := exists_of_isIdentifier h
  simp [bareLetters, hname, Char.isAlphanum, hc]

lemma lowerWords_ne_nil (h : isIdentifier name = true) : lowerWords name ≠ [] := by
  intro hnil
  have hbare := flatten_lowerWords (isAscii_of_isIdentifier h)
  rw [hnil] at hbare
  exact bareLetters_ne_nil h hbare.symm

lemma snakeCase_ne_nil (h : isIdentifier name = true) : (snakeCase name).toList ≠ [] := by
  intro hnil
  have hbare := flatten_lowerWords (isAscii_of_isIdentifier h)
  rw [← splitOn_snakeCase (isAscii_of_isIdentifier h) (lowerWords_ne_nil h), hnil] at hbare
  exact bareLetters_ne_nil h hbare.symm

/-- **Snake case keeps the words of an identifier.**  Two identifiers have the same snake case
exactly when they have the same words up to case. -/
theorem snakeCase_eq_iff (hname : isIdentifier name = true) (hother : isIdentifier other = true) :
    snakeCase name = snakeCase other ↔ lowerWords name = lowerWords other := by
  constructor
  · intro h
    rw [← splitOn_snakeCase (isAscii_of_isIdentifier hname) (lowerWords_ne_nil hname),
      ← splitOn_snakeCase (isAscii_of_isIdentifier hother) (lowerWords_ne_nil hother), h]
  · intro h
    rw [snakeCase_eq, snakeCase_eq, h]

end Ascii

end EntSchema.Text
