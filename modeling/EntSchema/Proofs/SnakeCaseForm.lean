import EntSchema.Proofs.NameWords

/-!
# The form of a snake case

The snake case of an ASCII name has one form, `IsSnakeCase`: words of lower-case letters and digits,
none of them empty, with one underscore between two of them.  The main result,
`snakeCase_is_canonical`, says that this form loses nothing of a name but case and separators, and
that the names which have it already are the ones that snake case leaves as they are.

The second half is about cutting up again what was joined.  The underscores part a text of that
form into its words (`nameRuns_intercalate`), and a word is not cut any further, because the
automaton of `wordsFrom` cuts only next to a capital (`wordsFrom_of_forall_not_isUppercase`).
-/

namespace EntSchema.Text

/-! ## Texts in snake case -/

/-- Whether a text is in snake case: words of lower-case letters and digits, none of them empty,
joined by single underscores.  No words at all make the empty text. -/
def IsSnakeCase (text : List Char) : Prop :=
  ∃ parts : List (List Char), (∀ part ∈ parts, part ≠ [] ∧ ∀ c ∈ part, isSmall c = true) ∧
    text = ['_'].intercalate parts

section Small

variable {c : Char}

lemma isAlphanumeric_of_isSmall (h : isSmall c = true) : isAlphanumeric c = true := by
  have halphanum := isAlphanum_of_isSmall h
  rw [isAlphanumeric_of_ascii (toNat_lt_of_isAlphanum halphanum), halphanum]

lemma not_isUppercase_of_isSmall (h : isSmall c = true) : isUppercase c = false :=
  forall_ascii (p := fun c => isSmall c = true → isUppercase c = false) (by decide)
    (toNat_lt_of_isAlphanum (isAlphanum_of_isSmall h)) h

lemma toLower_of_isSmall (h : isSmall c = true) : c.toLower = c :=
  forall_ascii (p := fun c => isSmall c = true → c.toLower = c) (by decide)
    (toNat_lt_of_isAlphanum (isAlphanum_of_isSmall h)) h

end Small

/-! ## Cutting up joined words -/

/-- A text starts with the alphanumeric characters that are put in front of it. -/
lemma alphanumericRuns_append {run : List Char} (h : ∀ c ∈ run, isAlphanumeric c = true)
    (text : List Char) :
    alphanumericRuns (run ++ text) =
      (run ++ (alphanumericRuns text).1, (alphanumericRuns text).2) := by
  induction run with
  | nil => rfl
  | cons c run ih =>
    obtain ⟨hc, hrun⟩ := List.forall_mem_cons.1 h
    rw [List.cons_append, alphanumericRuns, ih hrun]
    simp [hc]

lemma nameRuns_append_separator {run : List Char} (hne : run ≠ [])
    (h : ∀ c ∈ run, isAlphanumeric c = true) {separator : Char}
    (hseparator : isAlphanumeric separator = false) (text : List Char) :
    nameRuns (run ++ separator :: text) = run :: nameRuns text := by
  have hruns : alphanumericRuns (separator :: text) = ([], nameRuns text) := by
    simp [alphanumericRuns, hseparator, nameRuns]
  rw [nameRuns, alphanumericRuns_append h, hruns]
  simp [hne]

lemma nameRuns_of_forall_isAlphanumeric {run : List Char} (hne : run ≠ [])
    (h : ∀ c ∈ run, isAlphanumeric c = true) : nameRuns run = [run] := by
  have hruns := alphanumericRuns_append h []
  rw [List.append_nil] at hruns
  rw [nameRuns, hruns]
  simp [alphanumericRuns, hne]

/-- Runs that are joined by underscores are found again between them. -/
lemma nameRuns_intercalate {runs : List (List Char)}
    (h : ∀ run ∈ runs, run ≠ [] ∧ ∀ c ∈ run, isAlphanumeric c = true) :
    nameRuns (['_'].intercalate runs) = runs := by
  induction runs with
  | nil => rfl
  | cons run rest ih =>
    obtain ⟨⟨hne, hrun⟩, hrest⟩ := List.forall_mem_cons.1 h
    cases rest with
    | nil => simpa using nameRuns_of_forall_isAlphanumeric hne hrun
    | cons next rest =>
      rw [List.intercalate_cons_cons, List.append_assoc, List.singleton_append,
        nameRuns_append_separator hne hrun (by decide), ih hrest]

/-- A run without capitals is one word, whatever stands before it. -/
lemma wordsFrom_of_forall_not_isUppercase (wordCase : WordCase) {run : List Char} (hne : run ≠ [])
    (h : ∀ c ∈ run, isUppercase c = false) : wordsFrom wordCase run = [run] := by
  fun_induction wordsFrom wordCase run with
  | case1 => exact absurd rfl hne
  | case2 => rfl
  | case3 wordCase c next rest hcut ih => simp [h next (by simp)] at hcut
  | case4 wordCase c next rest _ hcut ih => simp [h c (by simp)] at hcut
  | case5 wordCase c next rest _ _ ih =>
    rw [ih (List.cons_ne_nil next rest) (List.forall_mem_cons.1 h).2]
    rfl

section Parts

variable {parts : List (List Char)}

/-- The words of a text in snake case are the ones that it was joined from. -/
lemma words_intercalate (h : ∀ part ∈ parts, part ≠ [] ∧ ∀ c ∈ part, isSmall c = true) :
    words (['_'].intercalate parts) = parts := by
  have hruns : nameRuns (['_'].intercalate parts) = parts := by
    refine nameRuns_intercalate fun part hpart => ?_
    obtain ⟨hne, hsmall⟩ := h part hpart
    exact ⟨hne, fun c hc => isAlphanumeric_of_isSmall (hsmall c hc)⟩
  have hwhole : ∀ part ∈ parts, wordsFrom .uncased part = [part] := by
    intro part hpart
    obtain ⟨hne, hsmall⟩ := h part hpart
    exact wordsFrom_of_forall_not_isUppercase .uncased hne fun c hc =>
      not_isUppercase_of_isSmall (hsmall c hc)
  rw [words, hruns, List.flatMap_congr hwhole, List.flatMap_singleton']

/-- Without its underscores a text in snake case is its words in a row. -/
lemma filter_intercalate (h : ∀ part ∈ parts, '_' ∉ part) :
    (['_'].intercalate parts).filter (· ≠ '_') = parts.flatten := by
  induction parts with
  | nil => rfl
  | cons part rest ih =>
    obtain ⟨hpart, hrest⟩ := List.forall_mem_cons.1 h
    have hkept : part.filter (· ≠ '_') = part := by
      refine List.filter_eq_self.2 fun c hc => decide_eq_true ?_
      rintro rfl
      exact hpart hc
    cases rest with
    | nil => simpa using hkept
    | cons next rest =>
      rw [List.intercalate_cons_cons, List.filter_append, List.filter_append, hkept, ih hrest]
      simp

end Parts

/-! ## Names -/

section Names

variable {name : String}

/-- A name in snake case is its own snake case. -/
lemma IsSnakeCase.snakeCase_eq (h : IsSnakeCase name.toList) : snakeCase name = name := by
  obtain ⟨parts, hparts, hname⟩ := h
  have hlower : parts.map lowerWord = parts := by
    refine (List.map_congr_left fun part hpart => ?_).trans (List.map_id parts)
    have hsmall := (hparts part hpart).2
    have hascii : ∀ c ∈ part, c.toNat < 128 := fun c hc =>
      toNat_lt_of_isAlphanum (isAlphanum_of_isSmall (hsmall c hc))
    rw [lowerWord_of_ascii hascii, List.map_congr_left fun c hc => toLower_of_isSmall (hsmall c hc)]
    exact List.map_id part
  rw [snakeCase, hname, words_intercalate hparts, hlower, ← hname, String.ofList_toList]

lemma isSnakeCase_snakeCase (h : IsAscii name) : IsSnakeCase (snakeCase name).toList := by
  refine ⟨lowerWords name, fun word hword => ?_, by rw [snakeCase_eq, String.toList_ofList]⟩
  exact ⟨ne_nil_of_mem_lowerWords h hword, isSmall_of_mem_lowerWords h hword⟩

/-- The snake case of an ASCII name keeps the letters and digits of the name up to case. -/
lemma filter_snakeCase (h : IsAscii name) :
    (snakeCase name).toList.filter (· ≠ '_') = bareLetters name := by
  rw [snakeCase_eq, String.toList_ofList, filter_intercalate, flatten_lowerWords h]
  intro word hword hmem
  exact absurd (isAlphanum_of_mem_lowerWords h hword '_' hmem) (by decide)

lemma bareLetters_eq_nil_iff :
    bareLetters name = [] ↔ ∀ c ∈ name.toList, c.isAlphanum = false := by
  simp [bareLetters, List.filter_eq_nil_iff]

lemma snakeCase_eq_empty_iff (h : IsAscii name) : snakeCase name = "" ↔ bareLetters name = [] := by
  constructor
  · intro hempty
    rw [← filter_snakeCase h, hempty]
    rfl
  · intro hbare
    have hflat := flatten_lowerWords h
    rw [hbare, List.flatten_eq_nil_iff] at hflat
    have hwords : lowerWords name = [] := by
      refine List.eq_nil_iff_forall_not_mem.2 fun word hword => ?_
      exact ne_nil_of_mem_lowerWords h hword (hflat word hword)
    rw [snakeCase_eq, hwords]
    rfl

/-- **Snake case is a canonical form that loses case and separators only.**  The snake case of an
ASCII name is in snake case; without its underscores it is the letters and digits of the name,
lower-cased; it is empty exactly when the name has no letters and digits; a name is its own snake
case exactly when it is in snake case; and so snake case applied again changes nothing. -/
theorem snakeCase_is_canonical (h : IsAscii name) :
    IsSnakeCase (snakeCase name).toList ∧
    (snakeCase name).toList.filter (· ≠ '_') =
      (name.toList.filter Char.isAlphanum).map Char.toLower ∧
    (snakeCase name = "" ↔ ∀ c ∈ name.toList, c.isAlphanum = false) ∧
    (snakeCase name = name ↔ IsSnakeCase name.toList) ∧
    snakeCase (snakeCase name) = snakeCase name := by
  have hform := isSnakeCase_snakeCase h
  refine ⟨hform, filter_snakeCase h, ?_, ⟨fun hsame => ?_, IsSnakeCase.snakeCase_eq⟩,
    hform.snakeCase_eq⟩
  · rw [snakeCase_eq_empty_iff h, bareLetters_eq_nil_iff]
  · rwa [hsame] at hform

/-- Capitals in a row before small letters, digits between capitals, and separators in rows and at
both ends. -/
theorem jumbledName_is_canonical :
    IsAscii "__HTTPServer2GO--v10 X9y_" ∧
    snakeCase "__HTTPServer2GO--v10 X9y_" = "http_server2_go_v10_x9y" ∧
    IsSnakeCase "http_server2_go_v10_x9y".toList ∧
    snakeCase "http_server2_go_v10_x9y" = "http_server2_go_v10_x9y" := by
  have hall : "__HTTPServer2GO--v10 X9y_".toList.all (·.toNat < 128) = true := by decide
  have hascii : IsAscii "__HTTPServer2GO--v10 X9y_" := by
    intro c hc
    exact of_decide_eq_true (List.all_eq_true.1 hall c hc)
  have hstem : snakeCase "__HTTPServer2GO--v10 X9y_" = "http_server2_go_v10_x9y" := by
    decide +kernel
  obtain ⟨hform, -, -, -, hagain⟩ := snakeCase_is_canonical hascii
  rw [hstem] at hform hagain
  exact ⟨hascii, hstem, hform, hagain⟩

end Names

end EntSchema.Text
