import EntSchema.Proofs.DistinctValues
import EntSchema.Proofs.PathComponents
import EntSchema.Proofs.SortedEntries
import EntSchema.Storage.Memory

/-!
# What persisting files leaves behind

Persisting in memory makes the directory and then puts one file after another
(`persistInMemory_eq`); no write fails, so the number of files that is reported is the number of
writes.  The store holds one file per path, and paths are told apart by their components.  How many
files are there says `length_files_persistInMemory`; a file whose path no other file has is found
there as it was generated (`file?_persistInMemory_of_nodup`).
-/

namespace EntSchema

/-! ## One write after another -/

/-- A store after some files were written to it. -/
def MemoryStore.putFiles (store : MemoryStore) (files : List GeneratedFile) : MemoryStore :=
  files.foldl (fun store file => store.putFile file.path file.source) store

/-- Writing files to memory does not fail and puts one after another. -/
lemma writeAll_run (files : List GeneratedFile) (store : MemoryStore) :
    Id.run ((writeAll files : StateM MemoryStore Persisted).run store) =
      (⟨files.map GeneratedFile.path, none⟩, store.putFiles files) := by
  induction files generalizing store with
  | nil => rfl
  | cons file rest ih =>
    have hrest := ih (store.putFile file.path file.source)
    have hstep : (writeAll (file :: rest) : StateM MemoryStore Persisted).run store = do
        let others ← (writeAll rest : StateM MemoryStore Persisted).run
          (store.putFile file.path file.source)
        return (⟨file.path :: others.1.written, others.1.fault?⟩, others.2) := rfl
    rw [hstep, Id.run_bind, hrest]
    rfl

lemma persistInMemory_eq (directory : Path) (files : List GeneratedFile) :
    persistInMemory directory files =
      (⟨files.map GeneratedFile.path, none⟩,
        (MemoryStore.empty.addDirectory directory).putFiles files) :=
  writeAll_run files (MemoryStore.empty.addDirectory directory)

/-! ## What is there afterwards -/

namespace MemoryStore

variable {store : MemoryStore}

/-- Whether the files of a store are in the order of their paths, each path once. -/
def InOrder (store : MemoryStore) : Prop :=
  Entries.Sorted Path.cmp store.files

/-- The components of the paths of the files of a store. -/
def places (store : MemoryStore) : List (List Path.Component) :=
  store.files.map (Path.components ∘ Prod.fst)

lemma InOrder.putFile (h : store.InOrder) (path : Path) (source : String) :
    (store.putFile path source).InOrder :=
  Entries.sorted_putSorted path source h

lemma InOrder.putFiles (h : store.InOrder) (files : List GeneratedFile) :
    (store.putFiles files).InOrder := by
  induction files generalizing store with
  | nil => exact h
  | cons file rest ih => exact ih (h.putFile file.path file.source)

lemma InOrder.nodup_places (h : store.InOrder) : store.places.Nodup :=
  Entries.nodup_codes (fun _ _ => Path.cmp_eq_iff.2) h

lemma mem_places_putFile {path : Path} {source : String} {place : List Path.Component} :
    place ∈ (store.putFile path source).places ↔
      place = path.components ∨ place ∈ store.places := by
  have hcode : ∀ a b : Path, Path.cmp a b = .eq → a.components = b.components :=
    fun _ _ => Path.cmp_eq_iff.1
  unfold places putFile
  exact Entries.mem_codes_putSorted hcode path source store.files place

lemma mem_places_putFiles (store : MemoryStore) (files : List GeneratedFile)
    {place : List Path.Component} :
    place ∈ (store.putFiles files).places ↔
      place ∈ files.map (·.path.components) ∨ place ∈ store.places := by
  induction files generalizing store with
  | nil => simp [MemoryStore.putFiles]
  | cons file rest ih =>
    have hrest := ih (store.putFile file.path file.source)
    rw [mem_places_putFile] at hrest
    rw [List.map_cons, List.mem_cons, or_assoc, or_left_comm]
    exact hrest

lemma file?_putFile (store : MemoryStore) (path asked : Path) (source : String) :
    (store.putFile path source).file? asked =
      if path.components = asked.components then some source else store.file? asked := by
  have hcmp : Path.cmp asked path = .eq ↔ path.components = asked.components :=
    Path.cmp_eq_iff.trans eq_comm
  unfold file? putFile
  rw [Entries.find?_putSorted]
  simp only [hcmp]

/-- At a path stands what was written there last. -/
lemma file?_putFiles (store : MemoryStore) (files : List GeneratedFile) (asked : Path) :
    (store.putFiles files).file? asked =
      (((files.filter (·.path.components = asked.components)).getLast?).map
        GeneratedFile.source).or (store.file? asked) := by
  induction files generalizing store with
  | nil => rfl
  | cons file rest ih =>
    have hrest := ih (store.putFile file.path file.source)
    rw [file?_putFile] at hrest
    refine hrest.trans ?_
    by_cases hpath : file.path.components = asked.components
    · rw [if_pos hpath, List.filter_cons_of_pos (by simpa using hpath), List.getLast?_cons]
      cases (rest.filter (·.path.components = asked.components)).getLast? <;> rfl
    · rw [if_neg hpath, List.filter_cons_of_neg (by simpa using hpath)]

/-- At a path that is written stands the source of one of the files with that path. -/
lemma file?_putFiles_of_mem (store : MemoryStore) {files : List GeneratedFile}
    {file : GeneratedFile} {asked : Path} (hfile : file ∈ files)
    (hpath : file.path.components = asked.components) :
    ∃ last ∈ files, last.path.components = asked.components ∧
      (store.putFiles files).file? asked = some last.source := by
  have hmem : file ∈ files.filter (·.path.components = asked.components) :=
    List.mem_filter.2 ⟨hfile, decide_eq_true hpath⟩
  obtain ⟨last, hlast⟩ := Option.ne_none_iff_exists'.1
    (mt List.getLast?_eq_none_iff.1 (List.ne_nil_of_mem hmem))
  obtain ⟨hwritten, hasked⟩ := List.mem_filter.1 (List.mem_of_getLast? hlast)
  refine ⟨last, hwritten, of_decide_eq_true hasked, ?_⟩
  rw [file?_putFiles, hlast]
  rfl

lemma file?_putFiles_of_forall_ne (store : MemoryStore) {files : List GeneratedFile}
    {asked : Path} (h : ∀ file ∈ files, file.path.components ≠ asked.components) :
    (store.putFiles files).file? asked = store.file? asked := by
  have hnone : files.filter (·.path.components = asked.components) = [] :=
    List.filter_eq_nil_iff.2 fun file hfile => by simpa using h file hfile
  rw [file?_putFiles, hnone]
  rfl

/-! ## The order of the writes -/

lemma putFiles_append (store : MemoryStore) (files more : List GeneratedFile) :
    store.putFiles (files ++ more) = (store.putFiles files).putFiles more :=
  List.foldl_append

lemma files_putFiles_congr {store other : MemoryStore} (h : store.files = other.files)
    (files : List GeneratedFile) : (store.putFiles files).files = (other.putFiles files).files := by
  induction files generalizing store other with
  | nil => exact h
  | cons file rest ih =>
    have hput : (store.putFile file.path file.source).files =
        (other.putFile file.path file.source).files := by
      unfold putFile
      rw [h]
    exact ih hput

lemma file?_congr {store other : MemoryStore} (h : store.files = other.files) (asked : Path) :
    store.file? asked = other.file? asked := by
  unfold file?
  rw [h]

lemma directories_putFiles (store : MemoryStore) (files : List GeneratedFile) :
    (store.putFiles files).directories = store.directories := by
  induction files generalizing store with
  | nil => rfl
  | cons file rest ih => exact ih (store.putFile file.path file.source)

lemma putFile_comm (store : MemoryStore) {first second : Path}
    (hne : first.components ≠ second.components) (x y : String) :
    (store.putFile first x).putFile second y = (store.putFile second y).putFile first x := by
  have hcmp : Path.cmp second first ≠ .eq := fun heq => hne (Path.cmp_eq_iff.1 heq).symm
  unfold putFile
  rw [Entries.putSorted_comm hcmp]

/-- Files with different paths may be written in any order. -/
lemma putFiles_perm (store : MemoryStore) {files others : List GeneratedFile}
    (hdistinct : (files.map (·.path.components)).Nodup) (h : files.Perm others) :
    store.putFiles files = store.putFiles others := by
  refine h.foldl_eq' (fun first hfirst second hsecond between => ?_) store
  by_cases heq : first = second
  · rw [heq]
  · have hne : first.path.components ≠ second.path.components :=
      fun hpath => heq (List.inj_on_of_nodup_map hdistinct hfirst hsecond hpath)
    exact putFile_comm between hne first.source second.source

/-- Files with different paths that were written already may be written again. -/
lemma putFiles_putFiles_of_subset (store : MemoryStore) {files again : List GeneratedFile}
    (hdistinct : (files.map (·.path.components)).Nodup) (h : again ⊆ files) :
    (store.putFiles files).putFiles again = store.putFiles files := by
  induction again with
  | nil => rfl
  | cons file rest ih =>
    obtain ⟨hfile, hrest⟩ := List.cons_subset.1 h
    -- The file could have been the last one to be written.
    obtain ⟨before, after, rfl⟩ := List.append_of_mem hfile
    have hlast : (before ++ file :: after).Perm ((before ++ after) ++ [file]) :=
      List.perm_middle.trans (List.perm_append_singleton _ _).symm
    have htwice : (store.putFiles (before ++ file :: after)).putFile file.path file.source =
        store.putFiles (before ++ file :: after) := by
      rw [putFiles_perm store hdistinct hlast, putFiles_append]
      unfold putFiles putFile
      simp only [List.foldl_cons, List.foldl_nil, Entries.putSorted_putSorted_self]
    calc (store.putFiles (before ++ file :: after)).putFiles (file :: rest)
        = ((store.putFiles (before ++ file :: after)).putFile file.path file.source).putFiles
            rest := rfl
      _ = _ := by rw [htwice, ih hrest]

end MemoryStore

section Persisted

variable (directory : Path) (files : List GeneratedFile)

lemma result_persistInMemory :
    (persistInMemory directory files).1.result = .ok files.length := by
  simp [persistInMemory_eq, Persisted.result]

/-- There is one file per path. -/
lemma length_files_persistInMemory :
    (persistInMemory directory files).2.files.length =
      (files.map (·.path.components)).dedup.length := by
  rw [persistInMemory_eq]
  set store := (MemoryStore.empty.addDirectory directory).putFiles files
  have hempty : (MemoryStore.empty.addDirectory directory).InOrder := List.Pairwise.nil
  have hnodup : store.places.Nodup := (hempty.putFiles files).nodup_places
  have hmem : ∀ place, place ∈ store.places ↔ place ∈ files.map (·.path.components) := by
    intro place
    rw [MemoryStore.mem_places_putFiles]
    exact or_iff_left (List.not_mem_nil (a := place))
  calc store.files.length = store.places.length := by rw [MemoryStore.places, List.length_map]
    _ = _ := length_eq_length_dedup hnodup hmem

variable {files} in
/-- A file whose path no other file has is there as it was generated. -/
lemma file?_persistInMemory_of_nodup (h : (files.map (·.path.components)).Nodup)
    {file : GeneratedFile} (hfile : file ∈ files) :
    (persistInMemory directory files).2.file? file.path = some file.source := by
  obtain ⟨last, hlast, hpath, hsource⟩ :=
    (MemoryStore.empty.addDirectory directory).file?_putFiles_of_mem hfile rfl
  have heq : last = file := List.inj_on_of_nodup_map h hlast hfile hpath
  rw [persistInMemory_eq, hsource, heq]

end Persisted

end EntSchema
