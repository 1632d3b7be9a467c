import EntSchema.FileTree
import EntSchema.Generation
import Mathlib.Tactic.SplitIfs
import Mathlib.Data.List.Basic

/-!
# Walks in a file tree

Where a path leads depends only on which directories there are.  Nothing that is done to a tree
takes a directory away (`Keeps`), so a path that leads somewhere goes on leading there
(`LeadsTo.mono`): what one path has written can be read, and stays until the same place is written
again.

`ChangesOnly` says what may be different after files were persisted in a directory.  One write and
the making of the directory keep to it, also when some of the directories above cannot be made
(`changesOnly_of_write`, `changesOnly_makeDirectories`), and it is transitive.
-/

namespace EntSchema

/-- Whether a path is another one or stands above it: what is left of that without some of its last
components. -/
inductive Path.AtOrAbove : Path → Path → Prop where
  | refl (path : Path) : AtOrAbove path path
  | parent {above path parent : Path} (h : path.parent? = some parent)
    (habove : AtOrAbove above parent) : AtOrAbove above path

lemma Path.AtOrAbove.trans {above middle path : Path} (h : AtOrAbove above middle)
    (h' : AtOrAbove middle path) : AtOrAbove above path := by
  induction h' with
  | refl => exact h
  | parent hparent _ ih => exact .parent hparent ih

namespace FileTree

/-- Whether a path leads to a place, where something may stand or not. -/
def LeadsTo (tree : FileTree) (path : Path) (location : Location) : Prop :=
  ∃ destination, tree.locate path = .ok destination ∧ destination.location = location

/-- Whether the directories of a tree are there in another one, too. -/
structure Keeps (tree next : FileTree) : Prop where
  working : next.working = tree.working
  directories : ∀ {location}, tree.node? location = some .directory →
    next.node? location = some .directory

section Walks

variable {tree next later : FileTree} {path : Path} {location : Location} {node : FileNode}

lemma node?_nil (tree : FileTree) : tree.node? [] = some .directory := rfl

lemma ne_nil_of_node?_ne (h : tree.node? location ≠ some .directory) : location ≠ [] := by
  rintro rfl
  exact h (node?_nil tree)

/-- Putting something where no directory stands takes no directory away. -/
lemma keeps_put (h : tree.node? location ≠ some .directory) (node : FileNode) :
    tree.Keeps (tree.put location node) := by
  refine ⟨rfl, fun {asked} hasked => ?_⟩
  have hne : asked ≠ location := by
    rintro rfl
    exact h hasked
  rw [node?_put tree (ne_nil_of_node?_ne h), if_neg hne, hasked]

lemma walk_mono (h : tree.Keeps next) {start : Location} {parts : List String}
    {destination : Destination} (hwalk : tree.walk start parts = .ok destination) :
    next.walk start parts = .ok destination := by
  induction parts generalizing start with
  | nil => exact hwalk
  | cons part rest ih =>
    rw [walk] at hwalk ⊢
    split_ifs at hwalk ⊢ with hdot hup hlong hlast
    · exact ih hwalk
    · exact ih hwalk
    · exact hwalk
    · -- A walk that goes on has met a directory.
      cases hnode : tree.node? (start ++ [part]) with
      | none => simp [hnode] at hwalk
      | some node =>
        cases node with
        | file content => simp [hnode] at hwalk
        | directory =>
          rw [hnode] at hwalk
          rw [h.directories hnode]
          exact ih hwalk

lemma locate_mono (h : tree.Keeps next) {destination : Destination}
    (hlocate : tree.locate path = .ok destination) : next.locate path = .ok destination := by
  unfold locate at hlocate ⊢
  split_ifs at hlocate ⊢ with hzero hempty hlong hroot
  · exact walk_mono h hlocate
  · rw [h.working]
    exact walk_mono h hlocate

lemma LeadsTo.mono (h : tree.Keeps next) (hleads : tree.LeadsTo path location) :
    next.LeadsTo path location := by
  obtain ⟨destination, hlocate, hlocation⟩ := hleads
  exact ⟨destination, locate_mono h hlocate, hlocation⟩

lemma LeadsTo.unique {other : Location} (h : tree.LeadsTo path location)
    (h' : tree.LeadsTo path other) : location = other := by
  obtain ⟨destination, hlocate, rfl⟩ := h
  obtain ⟨destination', hlocate', rfl⟩ := h'
  rw [hlocate] at hlocate'
  cases hlocate'
  rfl

/-! ## Reading and writing -/

lemma read_eq_ok_iff {text : String} :
    tree.read path = .ok text ↔ endsInSlash path = false ∧
      ∃ location, tree.LeadsTo path location ∧ tree.node? location = some (.file (.text text)) := by
  unfold read find LeadsTo
  cases hlocate : tree.locate path with
  | error fault => simp [bind, Except.bind]
  | ok destination =>
    cases hnode : tree.node? destination.location with
    | none => simp [bind, Except.bind, hnode]
    | some node =>
      cases node with
      | directory => simp [bind, Except.bind, hnode, pure, Except.pure]
      | file content =>
        cases content <;> cases endsInSlash path <;>
          simp [bind, Except.bind, hnode, pure, Except.pure]

/-- A text is only read from a file. -/
lemma isFile_of_read {text : String} (h : tree.read path = .ok text) : tree.isFile path = true := by
  obtain ⟨hslash, location, ⟨destination, hlocate, rfl⟩, hnode⟩ := read_eq_ok_iff.1 h
  have hfind : tree.find path = .ok (destination.location, .file (.text text)) := by
    simp [find, hlocate, hnode, hslash, bind, Except.bind, pure, Except.pure]
  rw [isFile, hfind]

/-- A text is written where the path leads, unless that is a directory. -/
lemma write_eq_ok_iff {text : String} :
    tree.write path text = .ok next ↔ endsInSlash path = false ∧
      ∃ location, tree.LeadsTo path location ∧ tree.node? location ≠ some .directory ∧
        next = tree.put location (.file (.text text)) := by
  unfold write LeadsTo
  cases hlocate : tree.locate path with
  | error fault => simp [bind, Except.bind]
  | ok destination =>
    cases hslash : endsInSlash path with
    | true => simp [bind, Except.bind]
    | false =>
      cases hnode : tree.node? destination.location with
      | none => simp [bind, Except.bind, hnode, pure, Except.pure, eq_comm]
      | some node =>
        cases node <;> simp [bind, Except.bind, hnode, pure, Except.pure, eq_comm]

lemma keeps_of_write {text : String} (h : tree.write path text = .ok next) : tree.Keeps next := by
  obtain ⟨-, location, -, hnode, rfl⟩ := write_eq_ok_iff.1 h
  exact keeps_put hnode _

lemma read_of_write {text : String} (h : tree.write path text = .ok next) :
    next.read path = .ok text := by
  have hkeeps := keeps_of_write h
  obtain ⟨hslash, location, hleads, hnode, rfl⟩ := write_eq_ok_iff.1 h
  refine read_eq_ok_iff.2 ⟨hslash, location, hleads.mono hkeeps, ?_⟩
  rw [node?_put tree (ne_nil_of_node?_ne hnode), if_pos rfl]

/-- A write changes the place where the path leads, and no other. -/
lemma node?_of_write {text : String} (h : tree.write path text = .ok next) {written : Location}
    (hleads : tree.LeadsTo path written) (asked : Location) :
    next.node? asked =
      if asked = written then some (.file (.text text)) else tree.node? asked := by
  obtain ⟨-, location, hleads', hnode, rfl⟩ := write_eq_ok_iff.1 h
  rw [hleads.unique hleads', node?_put tree (ne_nil_of_node?_ne hnode)]

end Walks

/-! ## Changes -/

/-- What may have become of a place when files were persisted in a directory: at most the directory
or one above it was made there, or one of the files was written there. -/
inductive PlaceChange (tree next : FileTree) (directory : Path) (files : List GeneratedFile)
    (location : Location) : Prop where
  | same (h : next.node? location = tree.node? location)
  | made (hbefore : tree.node? location = none) (hafter : next.node? location = some .directory)
    {above : Path} (habove : above.AtOrAbove directory) (hleads : next.LeadsTo above location)
  | written (hbefore : tree.node? location ≠ some .directory) {file : GeneratedFile}
    (hfile : file ∈ files) (hleads : next.LeadsTo file.path location)
    (hafter : next.node? location = some (.file (.text file.source)))

/-- Whether a tree differs from another only in what persisting files in a directory may change. -/
structure ChangesOnly (tree next : FileTree) (directory : Path) (files : List GeneratedFile) :
    Prop where
  working : next.working = tree.working
  places : ∀ location, PlaceChange tree next directory files location

section Changes

variable {tree next later : FileTree} {directory path : Path} {files : List GeneratedFile}

lemma ChangesOnly.refl (tree : FileTree) (directory : Path) (files : List GeneratedFile) :
    tree.ChangesOnly tree directory files :=
  ⟨rfl, fun _ => .same rfl⟩

lemma ChangesOnly.keeps (h : tree.ChangesOnly next directory files) : tree.Keeps next := by
  refine ⟨h.working, fun {location} hnode => ?_⟩
  cases h.places location with
  | same hsame => rw [hsame, hnode]
  | made hbefore => simp [hbefore] at hnode
  | written hbefore => exact absurd hnode hbefore

lemma ChangesOnly.trans (h : tree.ChangesOnly next directory files)
    (h' : next.ChangesOnly later directory files) : tree.ChangesOnly later directory files := by
  refine ⟨h'.working.trans h.working, fun location => ?_⟩
  cases h'.places location with
  | same hsame =>
    cases h.places location with
    | same hsame' => exact .same (hsame.trans hsame')
    | made hbefore hafter habove hleads =>
      exact .made hbefore (hsame.trans hafter) habove (hleads.mono h'.keeps)
    | written hbefore hfile hleads hafter =>
      exact .written hbefore hfile (hleads.mono h'.keeps) (hsame.trans hafter)
  | made hbefore hafter habove hleads =>
    cases h.places location with
    | same hsame => exact .made (hsame.symm.trans hbefore) hafter habove hleads
    | made _ hmade => simp [hbefore] at hmade
    | written _ _ _ hwritten => simp [hbefore] at hwritten
  | written hbefore hfile hleads hafter =>
    exact .written (fun hnode => hbefore (h.keeps.directories hnode)) hfile hleads hafter

/-- Directories above a path may be made for the path, too. -/
lemma ChangesOnly.of_above (h : tree.ChangesOnly next path []) (habove : path.AtOrAbove directory) :
    tree.ChangesOnly next directory files := by
  refine ⟨h.working, fun location => ?_⟩
  cases h.places location with
  | same hsame => exact .same hsame
  | made hbefore hafter habove' hleads =>
    exact .made hbefore hafter (habove'.trans habove) hleads
  | written _ hfile => exact absurd hfile List.not_mem_nil

lemma changesOnly_of_write {file : GeneratedFile} (hfile : file ∈ files)
    (h : tree.write file.path file.source = .ok next) : tree.ChangesOnly next directory files := by
  have hkeeps := keeps_of_write h
  have hwrite := write_eq_ok_iff.1 h
  obtain ⟨-, location, hleads, hnode, -⟩ := hwrite
  refine ⟨hkeeps.working, fun asked => ?_⟩
  have hasked := node?_of_write h hleads asked
  by_cases heq : asked = location
  · subst heq
    rw [if_pos rfl] at hasked
    exact .written hnode hfile (hleads.mono hkeeps) hasked
  · rw [if_neg heq] at hasked
    exact .same hasked

/-! ## Making directories -/

lemma changesOnly_of_makeDirectory (h : tree.makeDirectory path = .ok next) :
    tree.ChangesOnly next path [] := by
  unfold makeDirectory at h
  cases hlocate : tree.locate path with
  | error fault => simp [hlocate, bind, Except.bind] at h
  | ok destination =>
    cases hnode : tree.node? destination.location with
    | some node => simp [hlocate, hnode, bind, Except.bind] at h
    | none =>
      simp only [hlocate, hnode, bind, Except.bind, pure, Except.pure, Except.ok.injEq] at h
      subst h
      have hne : tree.node? destination.location ≠ some .directory := by simp [hnode]
      have hleads : tree.LeadsTo path destination.location := ⟨destination, hlocate, rfl⟩
      refine ⟨rfl, fun asked => ?_⟩
      have hasked := node?_put tree (ne_nil_of_node?_ne hne) asked .directory
      by_cases heq : asked = destination.location
      · subst heq
        rw [if_pos rfl] at hasked
        exact .made hnode hasked (.refl path) (hleads.mono (keeps_put hne _))
      · rw [if_neg heq] at hasked
        exact .same hasked

lemma changesOnly_makeOrKeep (tree : FileTree) (path : Path) :
    tree.ChangesOnly (tree.makeOrKeep path).tree path [] := by
  unfold makeOrKeep
  cases hmake : tree.makeDirectory path with
  | ok next => exact changesOnly_of_makeDirectory hmake
  | error fault => exact .refl tree path []

lemma changesOnly_makeWithin (bound : Nat) (tree : FileTree) (path : Path) :
    tree.ChangesOnly (makeWithin bound tree path).tree path [] := by
  induction bound generalizing tree path with
  | zero => exact changesOnly_makeOrKeep tree path
  | succ bound ih =>
    unfold makeWithin
    split
    · exact .refl tree path []
    · split
      · rename_i parent _ hparent
        have habove : tree.ChangesOnly (makeWithin bound tree parent).tree path [] :=
          (ih tree parent).of_above (.parent hparent (.refl parent))
        dsimp only
        split
        · exact habove
        · exact habove.trans (changesOnly_makeOrKeep _ path)
      · exact changesOnly_makeOrKeep tree path

/-- Making directories adds directories, where the path or one above it leads, and changes nothing
else, whether or not all of them can be made. -/
lemma changesOnly_makeDirectories (tree : FileTree) {above directory : Path}
    (habove : above.AtOrAbove directory) (files : List GeneratedFile) :
    tree.ChangesOnly (tree.makeDirectories above).tree directory files :=
  (changesOnly_makeWithin _ tree above).of_above habove

end Changes

end FileTree

end EntSchema
