import EntSchema.Go.Identifier
import EntSchema.Go.PackageName
import EntSchema.Proofs.RunTables
import EntSchema.Settings.Starter
import EntSchema.Settings.Validation

/-!
# Which accepted packages Go takes

The settings accept a package when `Go.isIdentifier` does, and the starter settings name a package
after its directory under the same condition.  Whatever Go takes is accepted; but not everything
that is accepted is taken: the blank identifier, and characters that are alphabetic or numeric
without being letters or decimal digits.  The main result, `accepts_exactly_packageNames_iff`, is
the exact condition on a name under which acceptance is right.
-/

namespace EntSchema.Go

open Text (isAlphabetic isAlphanumeric isNumeric isLetter isDecimalDigit covers)

/-! ## Classes of characters -/

variable {c : Char} {name : String}

lemma ascend_alphabeticRuns : Text.Ascend Text.alphabeticRuns := by decide +kernel

lemma isAlphabetic_of_isLetter (h : isLetter c = true) : isAlphabetic c = true := by
  have hwithin : Text.runsWithin Text.letterRuns Text.alphabeticRuns = true := by decide +kernel
  exact Text.covers_of_runsWithin hwithin ascend_alphabeticRuns h

lemma isNumeric_of_isDecimalDigit (h : isDecimalDigit c = true) : isNumeric c = true := by
  have hwithin : Text.runsWithin Text.decimalRuns Text.numericRuns = true := by decide +kernel
  exact Text.covers_of_runsWithin hwithin (by decide +kernel) h

/-- No digit is alphabetic, so none can start a name that is accepted. -/
lemma not_isDecimalDigit_of_isAlphabetic (h : isAlphabetic c = true) :
    isDecimalDigit c = false := by
  have hapart : Text.runsApart Text.decimalRuns Text.alphabeticRuns = true := by decide +kernel
  refine Bool.eq_false_iff.2 fun hdigit => ?_
  have hnot : isAlphabetic c = false :=
    Text.not_covers_of_runsApart hapart (by decide +kernel) ascend_alphabeticRuns hdigit
  rw [h] at hnot
  exact absurd hnot (by simp)

lemma startsIdentifier_of_isLetterOrUnderscore (h : isLetterOrUnderscore c = true) :
    startsIdentifier c = true := by
  rcases Bool.or_eq_true_iff.1 h with hunderscore | hletter
  · exact Bool.or_eq_true_iff.2 (.inl hunderscore)
  · exact Bool.or_eq_true_iff.2 (.inr (isAlphabetic_of_isLetter hletter))

lemma continuesIdentifier_of_isWordCharacter (h : isWordCharacter c = true) :
    continuesIdentifier c = true := by
  rcases Bool.or_eq_true_iff.1 h with hstart | hdigit
  · rcases Bool.or_eq_true_iff.1 hstart with hunderscore | hletter
    · exact Bool.or_eq_true_iff.2 (.inl hunderscore)
    · have halphabetic := isAlphabetic_of_isLetter hletter
      exact Bool.or_eq_true_iff.2 (.inr (Bool.or_eq_true_iff.2 (.inl halphabetic)))
  · have hnumeric := isNumeric_of_isDecimalDigit hdigit
    exact Bool.or_eq_true_iff.2 (.inr (Bool.or_eq_true_iff.2 (.inr hnumeric)))

/-- What starts an accepted name and may stand in a name of Go may also start one. -/
lemma isLetterOrUnderscore_of_startsIdentifier (h : startsIdentifier c = true)
    (hword : isWordCharacter c = true) : isLetterOrUnderscore c = true := by
  rcases Bool.or_eq_true_iff.1 hword with hstart | hdigit
  · exact hstart
  · rcases Bool.or_eq_true_iff.1 h with hunderscore | halphabetic
    · exact Bool.or_eq_true_iff.2 (.inl hunderscore)
    · rw [not_isDecimalDigit_of_isAlphabetic halphabetic] at hdigit
      exact absurd hdigit (by simp)

/-! ## Names -/

lemma mem_keywords_iff : name ∈ keywords ↔ name ∈ reservedWords := by
  have hsame : keywords.Perm reservedWords := by decide
  exact hsame.mem_iff

lemma isIdentifier_iff :
    isIdentifier name = true ↔
      (∃ c rest, name.toList = c :: rest ∧ startsIdentifier c = true ∧
        ∀ d ∈ rest, continuesIdentifier d = true) ∧ name ∉ reservedWords := by
  have hkeywords : (!keywords.contains name) = true ↔ name ∉ reservedWords := by
    rw [← mem_keywords_iff]
    simp
  rw [isIdentifier, Bool.and_eq_true, hkeywords]
  refine and_congr_left fun _ => ?_
  cases name.toList with
  | nil => simp [hasIdentifierForm]
  | cons c rest =>
    rw [hasIdentifierForm, Bool.and_eq_true, List.all_eq_true]
    constructor
    · rintro ⟨hstart, hrest⟩
      exact ⟨c, rest, rfl, hstart, hrest⟩
    · rintro ⟨d, others, hname, hstart, hrest⟩
      obtain ⟨rfl, rfl⟩ := List.cons.inj hname
      exact ⟨hstart, hrest⟩

/-- Whether a name holds only what Go takes in the name of a package, in any order, and is not the
blank identifier. -/
structure KeepsToGo (name : String) : Prop where
  not_blank : name ≠ blankIdentifier
  characters : ∀ c ∈ name.toList, isWordCharacter c = true

/-- Of the accepted names Go takes those that keep to it. -/
lemma isPackageName_iff : IsPackageName name ↔ isIdentifier name = true ∧ KeepsToGo name := by
  constructor
  · rintro ⟨⟨c, rest, hname, hstart, hrest⟩, hreserved, hblank⟩
    refine ⟨isIdentifier_iff.2 ⟨⟨c, rest, hname, ?_, ?_⟩, hreserved⟩, hblank, ?_⟩
    · exact startsIdentifier_of_isLetterOrUnderscore hstart
    · intro d hd
      exact continuesIdentifier_of_isWordCharacter (hrest d hd)
    · intro d hd
      rw [hname] at hd
      rcases List.mem_cons.1 hd with rfl | hd
      · exact Bool.or_eq_true_iff.2 (.inl hstart)
      · exact hrest d hd
  · rintro ⟨hidentifier, hblank, hcharacters⟩
    obtain ⟨⟨c, rest, hname, hstart, -⟩, hreserved⟩ := isIdentifier_iff.1 hidentifier
    rw [hname, List.forall_mem_cons] at hcharacters
    obtain ⟨hc, hrest⟩ := hcharacters
    exact ⟨⟨c, rest, hname, isLetterOrUnderscore_of_startsIdentifier hstart hc, hrest⟩,
      hreserved, hblank⟩

/-! ## Acceptance -/

lemma fault?_ne_invalidPackage (source : String) (override : TypeOverride) :
    override.fault? source ≠ some (.invalidPackage name) := by
  unfold TypeOverride.fault?
  split_ifs <;> simp

/-- Settings with a directory are refused for their package exactly when it is not accepted. -/
lemma fault?_eq_invalidPackage_iff {settings : Settings}
    (hdirectory : settings.output.directory.text ≠ "") :
    settings.fault? = some (.invalidPackage settings.output.package) ↔
      isIdentifier settings.output.package = false := by
  have hnamed : settings.output.directory.text.isEmpty = false := by simpa using hdirectory
  unfold Settings.fault?
  rw [hnamed]
  by_cases hpackage : isIdentifier settings.output.package = true
  · -- Behind the package no other fault is about a package.
    have hlater : (settings.types.findSome? fun entry => entry.2.fault? entry.1) ≠
        some (.invalidPackage settings.output.package) := by
      intro hfound
      obtain ⟨entry, -, hfault⟩ := List.exists_of_findSome?_eq_some hfound
      exact fault?_ne_invalidPackage entry.1 entry.2 hfault
    simp only [hpackage, Bool.false_eq_true, if_false, Bool.not_true]
    constructor
    · intro hfault
      split_ifs at hfault with hlevel
      · cases hfault
      · exact absurd hfault hlater
    · intro hcontra
      cases hcontra
  · have hnot : isIdentifier settings.output.package = false := Bool.eq_false_iff.2 hpackage
    simp [hnot]

/-- **When acceptance is right.**  Go takes the accepted names that keep to it, and no others.  So
acceptance is right about a name exactly when the name, if accepted, has only characters that Go
takes and is not the blank identifier.  The settings and the package that goes with a directory
follow acceptance, and nothing else. -/
theorem accepts_exactly_packageNames_iff (name : String) :
    (IsPackageName name ↔ isIdentifier name = true ∧ KeepsToGo name) ∧
    ((isIdentifier name = true ↔ IsPackageName name) ↔
      (isIdentifier name = true → KeepsToGo name)) ∧
    (∀ settings : Settings, settings.output.directory.text ≠ "" → settings.output.package = name →
      (settings.fault? = some (.invalidPackage name) ↔ isIdentifier name = false)) ∧
    ∀ directory : Path, directory.fileName? = some name →
      Starter.packageFor directory = if isIdentifier name = true then name else "schema" := by
  refine ⟨isPackageName_iff, ?_, ?_, ?_⟩
  · rw [isPackageName_iff]
    constructor
    · intro hsame haccepted
      exact (hsame.1 haccepted).2
    · intro hkeeps
      exact ⟨fun haccepted => ⟨haccepted, hkeeps haccepted⟩, fun hboth => hboth.1⟩
  · rintro settings hdirectory rfl
    exact fault?_eq_invalidPackage_iff hdirectory
  · intro directory hname
    rw [Starter.packageFor, hname]
    rfl

/-- The standard settings with the blank identifier for a package. -/
def blankSettings : Settings :=
  { Settings.standard with output := { OutputSettings.standard with package := "_" } }

/-- The blank identifier is accepted, and so are a superscript behind a letter, a Roman numeral and
a mark in front: no package can have these names. -/
theorem blankIdentifier_is_accepted :
    (∀ name ∈ ["_", "x²", "Ⅷ", "\u0345x"], isIdentifier name = true ∧ ¬ IsPackageName name) ∧
    blankSettings.validate = .ok blankSettings ∧ Starter.packageFor ⟨"ent/_"⟩ = "_" := by
  refine ⟨?_, by decide +kernel, by decide +kernel⟩
  have haccepted : ∀ name ∈ ["_", "x²", "Ⅷ", "\u0345x"], isIdentifier name = true := by
    decide +kernel
  have hstrays : ∀ name ∈ ["_", "x²", "Ⅷ", "\u0345x"],
      name = blankIdentifier ∨ name.toList.all isWordCharacter = false := by
    decide +kernel
  intro name hname
  refine ⟨haccepted name hname, fun hpackage => ?_⟩
  obtain ⟨-, hblank, hcharacters⟩ := isPackageName_iff.1 hpackage
  rcases hstrays name hname with hname | hstray
  · exact hblank hname
  · rw [List.all_eq_true.2 hcharacters] at hstray
    exact absurd hstray (by simp)

end EntSchema.Go
