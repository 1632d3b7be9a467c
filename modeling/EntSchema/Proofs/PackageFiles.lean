import EntSchema.Proofs.ConfinedPaths
import EntSchema.Proofs.NameWords

/-!
# Which generated files belong to the package

The `go` tool reads a directory as a package.  It passes over files whose names start with an
underscore or a dot, and it leaves a file whose name ends in `_test.go` to the tests of the package.
The names of generated files follow from the names of the entities, so a file belongs to the package
or does not by what its entity is called.

No file is passed over: words are not empty, so the snake case of an identifier starts with a letter
or digit.  But the words of an identifier may end in the word `test`, and then the entity is missing
from the package.  The main result, `isTestFile_iff_last_word`, says that this happens to no other
names.
-/

namespace EntSchema

open Text (isIdentifier lowerWords snakeCase)

/-! ## Files of a package -/

namespace Go

/-- Whether the `go` tool passes a file over because of the start of its name. -/
def isPassedOver (fileName : String) : Bool :=
  match fileName.toList with
  | c :: _ => c == '_' || c == '.'
  | [] => false

/-- Whether the `go` tool leaves a file to the tests of its package. -/
def isTestFile (fileName : String) : Bool :=
  "_test.go".toList.isSuffixOf fileName.toList

/-- The stem of a source file says whether it is left to the tests. -/
lemma isTestFile_append_iff (stem : String) :
    isTestFile (stem ++ ".go") = true ↔ '_' :: "test".toList <:+ stem.toList := by
  have hsuffix : "_test.go".toList = '_' :: "test".toList ++ ".go".toList := rfl
  rw [isTestFile, List.isSuffixOf_iff_suffix, String.toList_append, hsuffix,
    List.suffix_append_self_iff]

end Go

/-! ## The ends of a snake case -/

namespace Text

lemma intercalate_concat (separator : Char) {before : List (List Char)} (h : before ≠ [])
    (last : List Char) :
    [separator].intercalate (before ++ [last]) =
      [separator].intercalate before ++ separator :: last := by
  induction before with
  | nil => exact absurd rfl h
  | cons first rest ih =>
    cases rest with
    | nil => simp [List.intercalate_cons_cons]
    | cons next rest =>
      have hrest := ih (List.cons_ne_nil next rest)
      rw [List.cons_append] at hrest
      rw [List.cons_append, List.cons_append, List.intercalate_cons_cons,
        List.intercalate_cons_cons, hrest]
      simp

variable {name : String}

/-- What the snake case of an ASCII name ends in is its last word, if another word stands before. -/
lemma suffix_snakeCase_iff (h : IsAscii name) {word : List Char} (hword : '_' ∉ word) :
    '_' :: word <:+ (snakeCase name).toList ↔
      ∃ before, before ≠ [] ∧ lowerWords name = before ++ [word] := by
  rw [snakeCase_eq, String.toList_ofList]
  constructor
  · rintro ⟨stem, hstem⟩
    have hne : lowerWords name ≠ [] := by
      intro hnil
      rw [hnil] at hstem
      simp at hstem
    have hfree : ∀ part ∈ lowerWords name, '_' ∉ part := by
      intro part hpart hmem
      exact absurd (isAlphanum_of_mem_lowerWords h hpart '_' hmem) (by decide)
    refine ⟨stem.splitOn '_', List.splitOn_ne_nil '_' stem, ?_⟩
    rw [← List.splitOn_intercalate '_' hfree hne, ← hstem, List.splitOn_append_cons_self,
      List.splitOn_eq_singleton hword]
  · rintro ⟨before, hbefore, hwords⟩
    rw [hwords, intercalate_concat '_' hbefore]
    exact List.suffix_append _ _

/-- The snake case of an identifier starts with a letter or digit. -/
lemma exists_cons_snakeCase (h : isIdentifier name = true) :
    ∃ c rest, (snakeCase name).toList = c :: rest ∧ c.isAlphanum = true := by
  have hascii := isAscii_of_isIdentifier h
  obtain ⟨first, later, hwords⟩ := List.exists_cons_of_ne_nil (lowerWords_ne_nil h)
  have hfirst : first ∈ lowerWords name := by simp [hwords]
  obtain ⟨c, rest, rfl⟩ := List.exists_cons_of_ne_nil (ne_nil_of_mem_lowerWords hascii hfirst)
  have hc := isAlphanum_of_mem_lowerWords hascii hfirst c List.mem_cons_self
  have hstem : (snakeCase name).toList = c :: ['_'].intercalate (rest :: later) := by
    rw [snakeCase_eq, String.toList_ofList, hwords]
    cases later <;> simp [List.intercalate_cons_cons]
  exact ⟨c, _, hstem, hc⟩

end Text

/-! ## Generated files -/

namespace GenerationOptions

variable {options : GenerationOptions} {name : String}

/-- The path of a file ends in its name. -/
lemma fileName?_pathFor (h : IsFileEnding options.extension) (entityName : String) :
    (options.pathFor entityName).fileName? = some (options.fileName entityName) := by
  obtain ⟨hstart, hcomponents⟩ := Path.components_of_isPlainName (isPlainName_fileName h entityName)
  rw [Path.fileName?, pathFor, Path.components_join _ hstart, hcomponents]
  simp

lemma isPassedOver_fileName (h : isIdentifier name = true) :
    Go.isPassedOver (options.fileName name) = false := by
  obtain ⟨c, rest, hstem, hc⟩ := Text.exists_cons_snakeCase h
  have hunderscore : c ≠ '_' := fun heq => absurd (heq ▸ hc) (by decide)
  have hdot : c ≠ '.' := fun heq => absurd (heq ▸ hc) (by decide)
  rw [Go.isPassedOver, toList_fileName, hstem]
  simp [hunderscore, hdot]

/-- **A generated file belongs to its package unless its entity is called a test.**  The file of an
identifier has a stem, and its name is never passed over; it is left to the tests exactly when the
words of the identifier are more than one and the last of them is `test`, in any case. -/
theorem isTestFile_iff_last_word (hextension : options.extension = "go")
    (h : isIdentifier name = true) :
    (options.pathFor name).fileName? = some (snakeCase name ++ ".go") ∧
    snakeCase name ≠ "" ∧
    Go.isPassedOver (snakeCase name ++ ".go") = false ∧
    (Go.isTestFile (snakeCase name ++ ".go") = true ↔
      ∃ before, before ≠ [] ∧ lowerWords name = before ++ ["test".toList]) := by
  have hname : options.fileName name = snakeCase name ++ ".go" := by
    rw [fileName, hextension, String.append_assoc]
    rfl
  have hending : IsFileEnding options.extension := hextension ▸ isFileEnding_go
  refine ⟨?_, ?_, ?_, ?_⟩
  · rw [fileName?_pathFor hending, hname]
  · simpa using Text.snakeCase_ne_nil h
  · rw [← hname, isPassedOver_fileName h]
  · rw [Go.isTestFile_append_iff,
      Text.suffix_snakeCase_iff (Text.isAscii_of_isIdentifier h) (by decide)]

/-- The word `test` at the end of a longer word, and alone. -/
theorem contest_is_no_test :
    standard.extension = "go" ∧ isIdentifier "Contest" = true ∧ isIdentifier "TEST" = true ∧
    (standard.pathFor "Contest").fileName? = some "contest.go" ∧
    Go.isTestFile "contest.go" = false ∧
    (standard.pathFor "TEST").fileName? = some "test.go" ∧ Go.isTestFile "test.go" = false := by
  have hextension : standard.extension = "go" := rfl
  have hidentifier : isIdentifier "Contest" = true := by decide
  have hidentifier' : isIdentifier "TEST" = true := by decide
  obtain ⟨hname, -, -, hiff⟩ := isTestFile_iff_last_word hextension hidentifier
  obtain ⟨hname', -, -, hiff'⟩ := isTestFile_iff_last_word hextension hidentifier'
  have hstem : snakeCase "Contest" = "contest" := by decide +kernel
  have hstem' : snakeCase "TEST" = "test" := by decide +kernel
  have hwords : lowerWords "Contest" = ["contest".toList] := by decide +kernel
  have hwords' : lowerWords "TEST" = ["test".toList] := by decide +kernel
  rw [hstem, hwords] at hiff
  rw [hstem', hwords'] at hiff'
  rw [hstem] at hname
  rw [hstem'] at hname'
  have hone : ∀ word : List Char, ¬∃ before, before ≠ [] ∧ [word] = before ++ ["test".toList] := by
    rintro word ⟨before, hbefore, hlast⟩
    have hlength := congrArg List.length hlast
    simp [hbefore] at hlength
  have htest : Go.isTestFile "contest.go" = false := Bool.eq_false_iff.2 (mt hiff.1 (hone _))
  have htest' : Go.isTestFile "test.go" = false := Bool.eq_false_iff.2 (mt hiff'.1 (hone _))
  exact ⟨hextension, hidentifier, hidentifier', hname, htest, hname', htest'⟩

/-- An entity whose last word is `test` is missing from the package. -/
theorem userTest_is_left_to_tests :
    standard.extension = "go" ∧ isIdentifier "UserTest" = true ∧
    standard.pathFor "UserTest" = ⟨"ent/schema/user_test.go"⟩ ∧
    (standard.pathFor "UserTest").fileName? = some "user_test.go" ∧
    Go.isTestFile "user_test.go" = true := by
  refine ⟨rfl, by decide, ?_, ?_, by decide⟩ <;> decide +kernel

end GenerationOptions

end EntSchema
