import EntSchema.Generation
import EntSchema.Proofs.FilePlaces
import EntSchema.Proofs.PathComponents

/-!
# Generated files stay in the output directory

Names of entities come from a document that nobody has looked at, and they go into paths.  The main
result, `file_stays_in_outputDirectory`, says that they cannot lead anywhere else: the path of a
file is the output directory and one more component, a plain name made of the snake case of the name
of the entity.  So the path of a file is never absolute on its own, and never goes up.

The output directory may be spelled in any way, and the name may be empty once it is in snake case:
then the ending alone is the name of the file, which is why the ending must not be a single dot.
-/

namespace EntSchema

namespace Path

/-- A plain name is one component. -/
lemma components_of_isPlainName {name : String} (h : FileTree.IsPlainName name) :
    start (Path.mk name).text.toList = [] ∧ (Path.mk name).components = [.name name.toList] := by
  have hne : name.toList ≠ [] := by simpa using h.nonempty
  have hdot : name.toList ≠ ['.'] := fun hdot => h.dot (String.toList_inj.1 hdot)
  have hdots : name.toList ≠ ['.', '.'] := fun hdots => h.dots (String.toList_inj.1 hdots)
  have hstart : start name.toList = [] := by
    have hslash := h.slash
    unfold start
    split <;> simp_all
  refine ⟨hstart, ?_⟩
  rw [components_eq, hstart, List.nil_append, namedParts, List.splitOn_eq_singleton h.slash]
  simp [isSilent, Component.ofPart, hne, hdot, hdots]

/-- Joining writes a path without a root behind the directory, and a slash in between where one is
needed. -/
lemma text_join (directory : Path) {path : Path} (h : path.isAbsolute = false) :
    ∃ separator, (separator = "" ∨ separator = "/") ∧
      (directory.join path).text = directory.text ++ separator ++ path.text := by
  unfold join
  rw [h, if_neg (by simp)]
  split_ifs with hclosed
  · exact ⟨"", .inl rfl, by simp⟩
  · exact ⟨"/", .inr rfl, rfl⟩

end Path

namespace GenerationOptions

variable {options : GenerationOptions}

/-- **A generated file stays in the output directory**, whatever its entity is called.  The stem of
its name holds no separator, no dot, no control character and no white space; its path is the output
directory and one more component, which is a plain name; and it is written as the text of the
directory with that name behind it. -/
theorem file_stays_in_outputDirectory (h : IsFileEnding options.extension) (entityName : String) :
    (∀ c ∈ (Text.snakeCase entityName).toList, Text.IsHarmless c) ∧
    options.fileName entityName = Text.snakeCase entityName ++ "." ++ options.extension ∧
    FileTree.IsPlainName (options.fileName entityName) ∧
    (options.pathFor entityName).components =
      options.outputDirectory.components ++ [.name (options.fileName entityName).toList] ∧
    ∃ separator, (separator = "" ∨ separator = "/") ∧ (options.pathFor entityName).text =
      options.outputDirectory.text ++ separator ++ options.fileName entityName := by
  have hplain := isPlainName_fileName h entityName
  obtain ⟨hstart, hcomponents⟩ := Path.components_of_isPlainName hplain
  have hrelative : (Path.mk (options.fileName entityName)).isAbsolute = false := by
    refine Bool.eq_false_iff.2 fun habsolute => hplain.slash ?_
    exact List.mem_of_head? (by simpa [Path.isAbsolute] using habsolute)
  refine ⟨fun c hc => Text.isHarmless_of_mem_snakeCase hc, rfl, hplain, ?_, ?_⟩
  · rw [pathFor, Path.components_join _ hstart, hcomponents]
  · exact Path.text_join _ hrelative

/-- A name that looks like a path from the root, and one of which nothing is left. -/
theorem passwd_stays_in_outputDirectory :
    IsFileEnding standard.extension ∧
    (standard.pathFor "/../..\\etc/ passwd\x00").components =
      [.name ['e', 'n', 't'], .name ['s', 'c', 'h', 'e', 'm', 'a'],
        .name "etc_passwd.go".toList] ∧
    (standard.pathFor "..").components =
      [.name ['e', 'n', 't'], .name ['s', 'c', 'h', 'e', 'm', 'a'], .name ['.', 'g', 'o']] := by
  have hending : IsFileEnding standard.extension := isFileEnding_go
  have hdirectory : standard.outputDirectory.components =
      [.name ['e', 'n', 't'], .name ['s', 'c', 'h', 'e', 'm', 'a']] := by decide
  obtain ⟨-, -, -, hpasswd, -⟩ :=
    file_stays_in_outputDirectory hending "/../..\\etc/ passwd\x00"
  obtain ⟨-, -, -, hdots, -⟩ := file_stays_in_outputDirectory hending ".."
  have hname : standard.fileName "/../..\\etc/ passwd\x00" = "etc_passwd.go" := by decide +kernel
  have hname' : standard.fileName ".." = ".go" := by decide +kernel
  rw [hdirectory, hname] at hpasswd
  rw [hdirectory, hname'] at hdots
  exact ⟨hending, hpasswd, hdots⟩

end GenerationOptions

end EntSchema
