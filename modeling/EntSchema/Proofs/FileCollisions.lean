import EntSchema.Proofs.DistinctValues
import EntSchema.Proofs.FirstMissingEnum
import EntSchema.Proofs.NameWords
import EntSchema.Proofs.PersistedFiles

/-!
# When two entities share a file

The path of a file is the snake case of the name of its entity between a directory and an ending.
Nothing checks that the snake cases of a document are distinct, and they need not be: letter case
and underscores are forgotten, so `UserProfile` and `User_Profile` have one file between them.
Persisting then writes it twice, counts two files and keeps the source that came last.

The main result is the exact condition under which no file is lost: the names of the entities have
distinct words up to case.  It comes from `components_pathFor_eq_iff`, which says when two paths are
one, and from counting: what a store holds are the different paths that were written.
-/

namespace EntSchema

open Model (Document Entity)
open Text (isIdentifier lowerWords snakeCase)

/-! ## Paths of names -/

lemma isStem_snakeCase {name : String} (h : isIdentifier name = true) :
    Path.IsStem (snakeCase name) := by
  have hchars : ∀ c ∈ (snakeCase name).toList, c.isAlphanum = true ∨ c = '_' :=
    fun c hc => Text.isAlphanum_or_of_mem_snakeCase (Text.isAscii_of_isIdentifier h) hc
  refine ⟨Text.snakeCase_ne_nil h, fun hmem => ?_, fun hmem => ?_⟩
  · exact absurd (hchars '/' hmem) (by decide)
  · exact absurd (hchars '.' hmem) (by decide)

/-- Two identifiers have one path exactly when they have the same words up to case, whatever the
directory and the ending. -/
lemma GenerationOptions.components_pathFor_eq_iff (options : GenerationOptions)
    {name other : String} (hname : isIdentifier name = true)
    (hother : isIdentifier other = true) :
    (options.pathFor name).components = (options.pathFor other).components ↔
      lowerWords name = lowerWords other := by
  obtain ⟨part, tail, hstem⟩ := Path.exists_components_of_stem options.extension
  have hpath : ∀ {name : String}, isIdentifier name = true →
      (options.pathFor name).components = options.outputDirectory.components ++
        .name ((snakeCase name).toList ++ part) :: tail := by
    intro name h
    rw [pathFor, fileName, Path.components_join _ ((isStem_snakeCase h).isFileName _).start_eq,
      hstem _ (isStem_snakeCase h)]
  rw [hpath hname, hpath hother, ← Text.snakeCase_eq_iff hname hother]
  simp [String.toList_inj]

/-! ## The condition -/

/-- Whether the names of the entities of a document have distinct words up to case. -/
def Model.Document.HasDistinctWords (document : Document) : Prop :=
  (document.entities.map fun entity => lowerWords entity.name).Nodup

instance (document : Document) : Decidable document.HasDistinctWords :=
  inferInstanceAs (Decidable (List.Nodup _))

section Generated

variable {options : GenerationOptions} {document : Document} {files : List GeneratedFile}

lemma GenerationOptions.map_path_of_generate (generated : options.generate document = .ok files) :
    files.map GeneratedFile.path =
      document.entities.map fun entity => options.pathFor entity.name := by
  have hpaths : List.Forall₂ (fun entity file => options.pathFor entity.name = file.path)
      document.entities files := by
    refine (generate_eq_ok_iff.1 generated).imp fun entity file hfile => ?_
    obtain ⟨schema, -, heq⟩ := hfile
    rw [heq]
  rw [eq_comm, ← List.forall₂_eq_eq_eq, List.forall₂_map_left_iff, List.forall₂_map_right_iff]
  exact hpaths

lemma GenerationOptions.map_components_of_generate
    (generated : options.generate document = .ok files) :
    files.map (·.path.components) =
      document.entities.map fun entity => (options.pathFor entity.name).components := by
  have hmap := congrArg (List.map Path.components) (map_path_of_generate generated)
  rw [List.map_map, List.map_map] at hmap
  exact hmap

/-- **No file is lost exactly when the names have distinct words.**  The writes may come in any
order.  As many files are reported as there are entities; as many are there as there are different
words; and when the words are distinct every entity's own source is found at its path. -/
theorem no_file_lost_iff
    (identifiers : ∀ entity ∈ document.entities, isIdentifier entity.name = true)
    (generated : options.generate document = .ok files) {written : List GeneratedFile}
    (order : written.Perm files) (directory : Path) :
    ((document.entities.map fun entity => snakeCase entity.name).Nodup ↔
      document.HasDistinctWords) ∧
    ((files.map (·.path.components)).Nodup ↔ document.HasDistinctWords) ∧
    (persistInMemory directory written).1.result = .ok document.entities.length ∧
    (persistInMemory directory written).2.files.length =
      (document.entities.map fun entity => lowerWords entity.name).dedup.length ∧
    ((persistInMemory directory written).1.result =
        .ok (persistInMemory directory written).2.files.length ↔ document.HasDistinctWords) ∧
    (document.HasDistinctWords → ∀ file ∈ files,
      (persistInMemory directory written).2.file? file.path = some file.source) := by
  have hpaths := GenerationOptions.map_components_of_generate generated
  have hlength : written.length = document.entities.length := by
    have hcount := congrArg List.length hpaths
    rw [order.length_eq]
    simpa using hcount
  have hwords : ∀ entity ∈ document.entities, ∀ other ∈ document.entities,
      (options.pathFor entity.name).components = (options.pathFor other.name).components ↔
        lowerWords entity.name = lowerWords other.name :=
    fun entity hentity other hother =>
      options.components_pathFor_eq_iff (identifiers entity hentity) (identifiers other hother)
  have hstems : ∀ entity ∈ document.entities, ∀ other ∈ document.entities,
      snakeCase entity.name = snakeCase other.name ↔
        lowerWords entity.name = lowerWords other.name :=
    fun entity hentity other hother =>
      Text.snakeCase_eq_iff (identifiers entity hentity) (identifiers other hother)
  have hresult : (persistInMemory directory written).1.result =
      .ok document.entities.length := by
    rw [result_persistInMemory, hlength]
  have hthere : (persistInMemory directory written).2.files.length =
      (document.entities.map fun entity => lowerWords entity.name).dedup.length := by
    rw [length_files_persistInMemory, (order.map _).dedup.length_eq, hpaths,
      length_dedup_map_eq hwords]
  have hdistinct : (files.map (·.path.components)).Nodup ↔ document.HasDistinctWords := by
    rw [hpaths, nodup_map_iff hwords]
    rfl
  refine ⟨nodup_map_iff hstems, hdistinct, hresult, hthere, ?_, ?_⟩
  · rw [hresult, hthere, Except.ok.injEq, eq_comm, Document.HasDistinctWords, ← length_dedup_eq_iff,
      List.length_map]
  · intro h file hfile
    refine file?_persistInMemory_of_nodup directory ?_ (order.mem_iff.2 hfile)
    exact (order.map _).nodup_iff.2 (hdistinct.2 h)

end Generated

/-! ## Two documents -/

/-- A document whose names have the same letters up to case, cut into different words. -/
def wordwiseDocument : Document :=
  ⟨[], [⟨"UserProfile", []⟩, ⟨"Userprofile", []⟩]⟩

/-- Different words are enough for two files, also when they are written in the other order. -/
theorem wordwiseDocument_keeps_its_files :
    (∀ entity ∈ wordwiseDocument.entities, isIdentifier entity.name = true) ∧
    wordwiseDocument.HasDistinctWords ∧
    ∃ files, GenerationOptions.standard.generate wordwiseDocument = .ok files ∧
      (persistInMemory ⟨"ent/schema"⟩ files.reverse).1.result = .ok 2 ∧
      (persistInMemory ⟨"ent/schema"⟩ files.reverse).2.files.length = 2 ∧
      ∀ file ∈ files,
        (persistInMemory ⟨"ent/schema"⟩ files.reverse).2.file? file.path = some file.source := by
  have hidentifiers :
      ∀ entity ∈ wordwiseDocument.entities, isIdentifier entity.name = true := by decide
  have hwords : wordwiseDocument.HasDistinctWords := by decide
  obtain ⟨files, hfiles⟩ : ∃ files,
      GenerationOptions.standard.generate wordwiseDocument = .ok files := ⟨_, rfl⟩
  obtain ⟨-, -, hresult, hthere, -, hkept⟩ :=
    no_file_lost_iff hidentifiers hfiles files.reverse_perm ⟨"ent/schema"⟩
  exact ⟨hidentifiers, hwords, files, hfiles, hresult, hthere, hkept hwords⟩

/-- A document whose names are different identifiers with the same words. -/
def sharedDocument : Document :=
  ⟨[], [⟨"UserProfile", []⟩, ⟨"User_Profile", []⟩]⟩

/-- Two entities of different names share a file: both files have one path, two writes are
reported, and one file is there. -/
theorem sharedDocument_loses_a_file :
    (∀ entity ∈ sharedDocument.entities, isIdentifier entity.name = true) ∧
    (sharedDocument.entities.map Entity.name).Nodup ∧
    ∃ files, GenerationOptions.standard.generate sharedDocument = .ok files ∧
      files.map GeneratedFile.path =
        [⟨"ent/schema/user_profile.go"⟩, ⟨"ent/schema/user_profile.go"⟩] ∧
      (persistInMemory ⟨"ent/schema"⟩ files).1.result = .ok 2 ∧
      (persistInMemory ⟨"ent/schema"⟩ files).2.files.length = 1 := by
  obtain ⟨files, hfiles⟩ : ∃ files,
      GenerationOptions.standard.generate sharedDocument = .ok files := ⟨_, rfl⟩
  have hpaths : files.map GeneratedFile.path =
      [⟨"ent/schema/user_profile.go"⟩, ⟨"ent/schema/user_profile.go"⟩] :=
    GenerationOptions.map_path_of_generate hfiles
  have hcomponents := congrArg (List.map Path.components) hpaths
  rw [List.map_map] at hcomponents
  refine ⟨by decide, by decide, files, hfiles, hpaths, ?_, ?_⟩
  · rw [result_persistInMemory, ← List.length_map GeneratedFile.path, hpaths]
    rfl
  · rw [length_files_persistInMemory]
    refine (congrArg (fun places => places.dedup.length) hcomponents).trans ?_
    simp

end EntSchema
