import EntSchema.Go.StringLiteral
import EntSchema.Proofs.NameWords
import EntSchema.Proofs.RunTables
import EntSchema.Text.Blank

/-!
# Characters of a snake case

A name may hold any characters; its snake case holds none that mean something in a path, breaks a
line or is not seen.  The main result is `isHarmless_of_mem_snakeCase`.

Two things could go wrong.  A letter or digit could itself be such a character: the tables of
letters and digits are compared with the table of the barred characters (`barredRuns`).  And
lower-casing could bring one back: the lower-case forms are the runs of capitals moved by a
distance, so the moved runs are compared as well, and so that no form is taken for the character
zero they have to stay within the code points of characters.
-/

namespace EntSchema.Text

/-! ## Barred characters -/

/-- Whether a character is no separator of paths, no dot, no control character and no white
space. -/
structure IsHarmless (c : Char) : Prop where
  slash : c ≠ '/'
  backslash : c ≠ '\\'
  dot : c ≠ '.'
  nul : c ≠ '\x00'
  control : Go.isControl c = false
  blank : isBlank c = false

/-- The code points of the characters that are not harmless. -/
def barredRuns : List Run :=
  [⟨0x0, 0x20, 1⟩, ⟨0x2e, 0x2f, 1⟩, ⟨0x5c, 0x5c, 1⟩, ⟨0x7f, 0xa0, 1⟩, ⟨0x1680, 0x1680, 1⟩,
    ⟨0x2000, 0x200a, 1⟩, ⟨0x2028, 0x2029, 1⟩, ⟨0x202f, 0x202f, 1⟩, ⟨0x205f, 0x205f, 1⟩,
    ⟨0x3000, 0x3000, 1⟩]

lemma ascend_barredRuns : Ascend barredRuns := by decide

variable {c d : Char}

lemma covers_barredRuns_of_isControl (h : Go.isControl c = true) :
    covers barredRuns c.toNat = true := by
  have hcode : c.toNat < 0x20 ∨ 0x7f ≤ c.toNat ∧ c.toNat < 0xa0 := by
    simpa [Go.isControl] using h
  rcases hcode with hlow | ⟨habove, hbelow⟩
  · have hrun : Run.mk 0x0 0x20 1 ∈ barredRuns := by decide
    apply covers_of_contains ascend_barredRuns hrun
    exact Run.contains_iff.2 ⟨Nat.zero_le _, Nat.le_of_lt hlow, Nat.mod_one _⟩
  · have hrun : Run.mk 0x7f 0xa0 1 ∈ barredRuns := by decide
    apply covers_of_contains ascend_barredRuns hrun
    exact Run.contains_iff.2 ⟨habove, Nat.le_of_lt hbelow, Nat.mod_one _⟩

lemma covers_barredRuns_of_isBlank (h : isBlank c = true) : covers barredRuns c.toNat = true :=
  covers_of_runsWithin (by decide : runsWithin blankRuns barredRuns = true) ascend_barredRuns h

lemma isHarmless_of_not_barred (h : covers barredRuns c.toNat = false) : IsHarmless c := by
  have hne : ∀ e : Char, covers barredRuns e.toNat = true → c ≠ e := by
    rintro e hbarred rfl
    rw [h] at hbarred
    exact absurd hbarred (by simp)
  constructor
  case slash => exact hne '/' (by decide)
  case backslash => exact hne '\\' (by decide)
  case dot => exact hne '.' (by decide)
  case nul => exact hne '\x00' (by decide)
  case control =>
    refine Bool.eq_false_iff.2 fun hcontrol => ?_
    exact hne c (covers_barredRuns_of_isControl hcontrol) rfl
  case blank =>
    refine Bool.eq_false_iff.2 fun hblank => ?_
    exact hne c (covers_barredRuns_of_isBlank hblank) rfl

/-! ## Letters and digits -/

lemma not_barred_of_isAlphanumeric (h : isAlphanumeric c = true) :
    covers barredRuns c.toNat = false := by
  have hletters : runsApart barredRuns alphabeticRuns = true := by decide +kernel
  have hdigits : runsApart barredRuns numericRuns = true := by decide +kernel
  refine Bool.eq_false_iff.2 fun hbarred => ?_
  rcases Bool.or_eq_true_iff.1 h with hletter | hdigit
  · have hnot : isAlphabetic c = false :=
      not_covers_of_runsApart hletters ascend_barredRuns (by decide +kernel) hbarred
    rw [hnot] at hletter
    exact absurd hletter (by simp)
  · have hnot : isNumeric c = false :=
      not_covers_of_runsApart hdigits ascend_barredRuns (by decide +kernel) hbarred
    rw [hnot] at hdigit
    exact absurd hdigit (by simp)

/-! ## Lower-case forms -/

lemma lowerShift_cases (shifts : List (Run × Int)) (code : Nat) :
    lowerShift shifts code = 0 ∨
      ∃ entry ∈ shifts, entry.1.contains code = true ∧ lowerShift shifts code = entry.2 := by
  induction shifts with
  | nil => exact .inl rfl
  | cons entry rest ih =>
    obtain ⟨run, shift⟩ := entry
    rw [lowerShift]
    split_ifs with hbelow hcontains
    · exact .inl rfl
    · exact .inr ⟨(run, shift), List.mem_cons_self, hcontains, rfl⟩
    · rcases ih with hzero | ⟨entry, hentry, hfound, hshift⟩
      · exact .inl hzero
      · exact .inr ⟨entry, List.mem_cons_of_mem _ hentry, hfound, hshift⟩

/-- Whether the characters of a run, moved by a distance, are characters and none of them is
barred. -/
def Run.StaysHarmless (run : Run) (distance : Int) : Prop :=
  0 ≤ run.first + distance ∧ run.last + distance < 0xd800 ∧
      (∀ barred ∈ barredRuns, barred.isApart (run.moved distance) = true) ∨
    0xdfff < run.first + distance ∧ run.last + distance < 0x110000

instance (run : Run) (distance : Int) : Decidable (run.StaysHarmless distance) :=
  inferInstanceAs (Decidable (_ ∧ _ ∧ _ ∨ _))

lemma staysHarmless_of_mem_lowerShifts : ∀ entry ∈ lowerShifts, entry.1.StaysHarmless entry.2 := by
  decide +kernel

lemma Run.StaysHarmless.not_barred {run : Run} {distance : Int} {code : Nat}
    (h : run.StaysHarmless distance) (hcode : run.contains code = true) :
    covers barredRuns (Char.ofNat (code + distance).toNat).toNat = false := by
  obtain ⟨hfirst, hlast, -⟩ := Run.contains_iff.1 hcode
  have hvalid : ((code : Int) + distance).toNat.isValidChar := by
    rcases h with ⟨hlow, hhigh, -⟩ | ⟨hlow, hhigh⟩
    · exact .inl (by omega)
    · exact .inr ⟨by omega, by omega⟩
  have hcode' : (Char.ofNat ((code : Int) + distance).toNat).toNat =
      ((code : Int) + distance).toNat := by
    rw [Char.ofNat, dif_pos hvalid]
    rfl
  rw [hcode']
  refine Bool.eq_false_iff.2 fun hbarred => ?_
  obtain ⟨barred, hmem, hcontains⟩ := exists_contains_of_covers hbarred
  rcases h with ⟨hlow, -, hapart⟩ | ⟨hlow, -⟩
  · have hnot := Run.not_contains_of_isApart (hapart barred hmem) hcontains
    rw [Run.contains_moved hlow hcode] at hnot
    exact absurd hnot (by simp)
  · -- Everything that is barred stands below the surrogates.
    have hbelow : ∀ barred ∈ barredRuns, barred.last ≤ 0x3000 := by decide
    have hlow' := (Run.contains_iff.1 hcontains).2.1
    have hbarred' := hbelow barred hmem
    omega

/-- Lower-casing brings back nothing that is barred. -/
lemma not_barred_of_mem_lowerChar (hc : isAlphanumeric c = true) (hd : d ∈ lowerChar c) :
    covers barredRuns d.toNat = false := by
  unfold lowerChar at hd
  by_cases hdotted : c = '\u0130'
  · rw [if_pos hdotted] at hd
    rcases List.mem_cons.1 hd with rfl | hd
    · decide
    · rw [List.mem_singleton.1 hd]
      decide
  · rw [if_neg hdotted, List.mem_singleton] at hd
    rw [hd]
    rcases lowerShift_cases lowerShifts c.toNat with hzero | ⟨entry, hentry, hcontains, hshift⟩
    · rw [hzero, Int.add_zero, Int.toNat_natCast, Char.ofNat_toNat]
      exact not_barred_of_isAlphanumeric hc
    · rw [hshift]
      exact (staysHarmless_of_mem_lowerShifts entry hentry).not_barred hcontains

lemma not_barred_of_mem_lowerWord {word : List Char} (hword : ∀ c ∈ word, isAlphanumeric c = true)
    (hd : d ∈ lowerWord word) : covers barredRuns d.toNat = false := by
  induction word with
  | nil => exact absurd hd List.not_mem_nil
  | cons c rest ih =>
    obtain ⟨hc, hrest⟩ := List.forall_mem_cons.1 hword
    cases rest with
    | nil =>
      rw [lowerWord] at hd
      split_ifs at hd with hsigma
      · rw [List.mem_singleton.1 hd]
        decide
      · exact not_barred_of_mem_lowerChar hc hd
    | cons next rest =>
      rw [lowerWord_cons_cons, List.mem_append] at hd
      rcases hd with hfirst | hlater
      · exact not_barred_of_mem_lowerChar hc hfirst
      · exact ih hrest hlater

/-- **A snake case is harmless**, whatever characters the name has. -/
theorem isHarmless_of_mem_snakeCase {name : String} (hc : c ∈ (snakeCase name).toList) :
    IsHarmless c := by
  apply isHarmless_of_not_barred
  rw [snakeCase_eq, String.toList_ofList] at hc
  rcases mem_intercalate hc with rfl | ⟨lower, hlower, hmem⟩
  · decide
  · obtain ⟨word, hword, rfl⟩ := List.mem_map.1 hlower
    refine not_barred_of_mem_lowerWord (fun kept hkept => ?_) hmem
    have hflat : kept ∈ (words name.toList).flatten := List.mem_flatten.2 ⟨word, hword, hkept⟩
    rw [flatten_words] at hflat
    exact (List.mem_filter.1 hflat).2

end EntSchema.Text
